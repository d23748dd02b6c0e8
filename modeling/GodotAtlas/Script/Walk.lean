import GodotAtlas.Script.Tree
import GodotAtlas.Total

namespace GodotAtlas.Script

structure Place where
  node : Tree
  siblings : List Tree := []
  -- The nodes above it, the nearest first, each with the siblings behind it. The node where the
  -- walk started is the last one.
  above : List (Tree × List Tree) := []

namespace Place

def firstChild? (p : Place) : Option Place :=
  match p.node.children with
  | [] => none
  | c :: cs => some { node := c, siblings := cs, above := (p.node, p.siblings) :: p.above }

def nextSibling? (p : Place) : Option Place :=
  match p.siblings with
  | [] => none
  | s :: ss => some { p with node := s, siblings := ss }

def parent? (p : Place) : Option Place :=
  match p.above with
  | [] => none
  | (t, siblings) :: above => some { node := t, siblings, above }

theorem parent?_above {p q : Place} (h : p.parent? = some q) :
    q.above.length < p.above.length := by
  unfold parent? at h
  split at h
  · cases h
  · cases h; simp_all

def following? (p : Place) : Option Place :=
  match p.nextSibling? with
  | some q => some q
  | none =>
    match _h : p.parent? with
    | some q => q.following?
    | none => none
termination_by p.above.length
decreasing_by exact parent?_above _h

def ahead (p : Place) : Nat :=
  p.node.size + Tree.sizes p.siblings + total (p.above.map fun a => Tree.sizes a.2)

theorem firstChild?_ahead {p q : Place} (h : p.firstChild? = some q) : q.ahead < p.ahead := by
  obtain ⟨⟨i, cs⟩, ss, above⟩ := p
  cases cs with
  | nil => simp [firstChild?, Tree.children] at h
  | cons c cs =>
    simp only [firstChild?, Tree.children, Option.some.injEq] at h
    subst h
    simp only [ahead, Tree.size, Tree.sizes, List.map_cons, total_cons]
    omega

-- Behind a node there is less ahead than from that node on, even without what is below it.
theorem following?_ahead {p q : Place} (h : p.following? = some q) :
    q.ahead + p.node.size ≤ p.ahead := by
  fun_induction following? p with
  | case1 p r hr =>
    cases h
    obtain ⟨t, ss, above⟩ := p
    cases ss with
    | nil => simp [nextSibling?] at hr
    | cons s ss =>
      simp only [nextSibling?, Option.some.injEq] at hr
      subst hr
      simp only [ahead, Tree.sizes]
      omega
  | case2 p hn r hr ih =>
    have hle := ih h
    obtain ⟨t, ss, above⟩ := p
    cases above with
    | nil => simp [parent?] at hr
    | cons a above =>
      simp only [parent?, Option.some.injEq] at hr
      subst hr
      simp only [ahead, List.map_cons, total_cons] at hle ⊢
      omega
  | case3 p hn hr => cases h

def firstFault? (p : Place) : Option Tree :=
  if p.node.flagged then some p.node
  else
    match _hc : p.firstChild? with
    | some q => q.firstFault?
    | none =>
      match _hf : p.following? with
      | some q => q.firstFault?
      | none => none
termination_by p.ahead
decreasing_by
  · exact firstChild?_ahead _hc
  · have := following?_ahead _hf
    have := p.node.size_pos
    omega

end Place

def Tree.firstError (t : Tree) : Option Tree :=
  Place.firstFault? { node := t }

end GodotAtlas.Script
