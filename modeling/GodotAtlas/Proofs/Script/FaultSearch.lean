import Mathlib
import GodotAtlas.Script.Parse

namespace GodotAtlas.Script

-- How a loop ends whose rounds go on with a state or give a result: some rounds go on, and the next
-- one gives the result.
inductive Ends {σ α : Type} (round : σ → σ ⊕ α) : Nat → σ → α → Prop where
  | now {s : σ} {a : α} (h : round s = .inr a) : Ends round 0 s a
  | later {s s' : σ} {a : α} {n : Nat} (h : round s = .inl s') (e : Ends round n s' a) :
    Ends round (n + 1) s a

namespace Ends

variable {σ α : Type} {round : σ → σ ⊕ α} {s : σ} {a : α} {n : Nat}

-- A loop comes to an end if something gets less with each round that goes on.
theorem exists_of_measure {measure : σ → Nat}
    (hm : ∀ s s', round s = .inl s' → measure s' < measure s) (s : σ) :
    ∃ n ≤ measure s, ∃ a, Ends round n s a := by
  induction hs : measure s using Nat.strong_induction_on generalizing s
  case h k hi =>
    subst hs
    cases hr : round s
    case inr a => exact ⟨0, Nat.zero_le _, a, .now hr⟩
    case inl s' =>
      have hlt := hm s s' hr
      obtain ⟨n, hn, a, e⟩ := hi _ hlt s' rfl
      exact ⟨n + 1, by omega, a, .later hr e⟩

theorem of_invariant (inv : σ → Prop) (post : α → Prop)
    (hkept : ∀ s s', round s = .inl s' → inv s → inv s')
    (hpost : ∀ s a, round s = .inr a → inv s → post a) (e : Ends round n s a) (h : inv s) :
    post a := by
  induction e
  case now hr => exact hpost _ _ hr h
  case later hr _ hi => exact hi (hkept _ _ hr h)

end Ends

namespace Tree

-- What passes from the trees below a node to the tree of the node holds of all trees.
@[elab_as_elim, induction_eliminator]
theorem induct {p : Tree → Prop} (node : ∀ i ts, (∀ t ∈ ts, p t) → p (.node i ts)) : ∀ t, p t
  | .node i ts => node i ts fun t _ => induct node t

mutual

-- A tree and the trees below it, parents first.
def preorder : Tree → List Tree
  | node i cs => node i cs :: preorders cs

def preorders : List Tree → List Tree
  | [] => []
  | t :: ts => t.preorder ++ preorders ts

end

variable {t u c : Tree} {i : Info} {cs ts : List Tree}

theorem preorders_eq : preorders ts = ts.flatMap preorder := by
  induction ts
  case nil => rfl
  case cons t ts hi => rw [preorders, hi, List.flatMap_cons]

theorem preorder_node : (node i cs).preorder = node i cs :: cs.flatMap preorder := by
  rw [preorder, preorders_eq]

theorem preorder_eq : t.preorder = t :: t.children.flatMap preorder := by
  cases t
  rw [preorder_node, children]

theorem sizes_eq : sizes ts = (ts.map size).sum := by
  induction ts
  case nil => rfl
  case cons t ts hi => rw [sizes, hi, List.map_cons, List.sum_cons]

theorem size_node : (node i cs).size = (cs.map size).sum + 1 := by
  rw [size, sizes_eq]

theorem anyHasError_eq : anyHasError ts = ts.any hasError := by
  induction ts
  case nil => rfl
  case cons t ts hi => rw [anyHasError, hi, List.any_cons]

theorem innermostErrorIn_eq : innermostErrorIn ts = (ts.find? hasError).map innermostError := by
  induction ts
  case nil => rfl
  case cons t ts hi => cases h : t.hasError <;> simp [innermostErrorIn, h, hi]

theorem length_preorder : t.preorder.length = t.size := by
  induction t
  case node i ts hi =>
    rw [preorder_node, size_node, List.length_cons, List.length_flatMap, List.map_congr_left hi]

theorem size_lt_of_mem (h : c ∈ t.children) : c.size < t.size := by
  cases t
  case node i cs =>
    have hle := List.le_sum_of_mem (List.mem_map_of_mem (f := size) h)
    rw [size_node]
    exact Nat.lt_succ_of_le hle

-- A node has a fault of its own: it is an error or missing, or it lacks a token that has no node.
def AtFault (t : Tree) : Prop :=
  t.flagged ∨ t.info.incomplete

theorem hasError_iff : t.hasError ↔ ∃ u ∈ t.preorder, u.AtFault := by
  induction t
  case node i ts hi =>
    have ht : (∃ t ∈ ts, t.hasError) ↔ ∃ u ∈ ts.flatMap preorder, u.AtFault := by
      simp only [List.mem_flatMap]
      constructor
      case mp =>
        rintro ⟨t, ht, he⟩
        obtain ⟨u, hu, ha⟩ := (hi t ht).mp he
        exact ⟨u, ⟨t, ht, hu⟩, ha⟩
      case mpr =>
        rintro ⟨u, ⟨t, ht, hu⟩, ha⟩
        exact ⟨t, ht, (hi t ht).mpr ⟨u, hu, ha⟩⟩
    rw [preorder_node, List.exists_mem_cons_iff, ← ht]
    simp [hasError, anyHasError_eq, AtFault, flagged, kind, info]

end Tree

namespace Place

variable {p q : Place}

theorem firstChild?_eq_some_iff : p.firstChild? = some q ↔ ∃ c cs, p.node.children = c :: cs ∧
    q = { node := c, siblings := cs, above := (p.node, p.siblings) :: p.above } := by
  unfold firstChild?
  split
  case h_1 h => simp [h]
  case h_2 h => simp [h, eq_comm]

theorem firstChild?_eq_none_iff : p.firstChild? = none ↔ p.node.children = [] := by
  unfold firstChild?
  split <;> simp [*]

theorem nextSibling?_eq_some_iff : p.nextSibling? = some q ↔
    ∃ s ss, p.siblings = s :: ss ∧ q = { p with node := s, siblings := ss } := by
  unfold nextSibling?
  split
  case h_1 h => simp [h]
  case h_2 h => simp [h, eq_comm]

theorem nextSibling?_eq_none_iff : p.nextSibling? = none ↔ p.siblings = [] := by
  unfold nextSibling?
  split <;> simp [*]

theorem parent?_eq_some_iff : p.parent? = some q ↔
    ∃ t ss above, p.above = (t, ss) :: above ∧ q = { node := t, siblings := ss, above } := by
  unfold parent?
  split
  case h_1 h => simp [h]
  case h_2 h => simp [h, eq_comm]

theorem parent?_eq_none_iff : p.parent? = none ↔ p.above = [] := by
  unfold parent?
  split <;> simp [*]

def behind (p : Place) : List Tree :=
  p.siblings.flatMap Tree.preorder ++ p.above.flatMap fun a => a.2.flatMap Tree.preorder

def onward (p : Place) : List Tree :=
  p.node.preorder ++ p.behind

theorem onward_of_firstChild? (h : p.firstChild? = some q) : p.onward = p.node :: q.onward := by
  obtain ⟨c, cs, hc, rfl⟩ := firstChild?_eq_some_iff.mp h
  rw [onward, Tree.preorder_eq, hc]
  simp [onward, behind]

theorem onward_of_leaf (h : p.firstChild? = none) : p.onward = p.node :: p.behind := by
  rw [onward, Tree.preorder_eq, firstChild?_eq_none_iff.mp h]
  rfl

theorem behind_of_nextSibling? (h : p.nextSibling? = some q) : p.behind = q.onward := by
  obtain ⟨s, ss, hs, rfl⟩ := nextSibling?_eq_some_iff.mp h
  simp [onward, behind, hs]

theorem behind_of_parent? (hn : p.nextSibling? = none) (h : p.parent? = some q) :
    p.behind = q.behind := by
  obtain ⟨t, ss, above, ha, rfl⟩ := parent?_eq_some_iff.mp h
  simp [behind, nextSibling?_eq_none_iff.mp hn, ha]

theorem behind_of_root (hn : p.nextSibling? = none) (h : p.parent? = none) : p.behind = [] := by
  simp [behind, nextSibling?_eq_none_iff.mp hn, parent?_eq_none_iff.mp h]

theorem behind_eq : p.behind = (p.following?.map onward).getD [] := by
  fun_induction following? p
  case case1 q hq => simp [behind_of_nextSibling? hq]
  case case2 hn q hq hi => rw [behind_of_parent? hn hq, hi]
  case case3 hn hr => simp [behind_of_root hn hr]

theorem firstFault?_eq : p.firstFault? = p.onward.find? Tree.flagged := by
  fun_induction firstFault? p
  case case1 hp => simp [onward, Tree.preorder_eq, hp]
  case case2 hp q hq hi => simp [onward_of_firstChild? hq, hp, hi]
  case case3 hp hc q hq hi => simp [onward_of_leaf hc, behind_eq, hp, hq, hi]
  case case4 hp hc hq => simp [onward_of_leaf hc, behind_eq, hp, hq]

end Place

-- Where the search for a node that is flagged stands: it has come to a place and not looked at it
-- yet, or all that is below the place is behind it.
inductive Search where
  | entering (p : Place)
  | leaving (p : Place)

namespace Search

def round : Search → Search ⊕ Option Tree
  | entering p =>
    if p.node.flagged then .inr (some p.node)
    else match p.firstChild? with
      | some q => .inl (entering q)
      | none => .inl (leaving p)
  | leaving p =>
    match p.nextSibling? with
    | some q => .inl (entering q)
    | none =>
      match p.parent? with
      | some q => .inl (leaving q)
      | none => .inr none

def unseen : Search → List Tree
  | entering p => p.onward
  | leaving p => p.behind

def depth : Search → Nat
  | entering p => p.above.length
  | leaving p => p.above.length + 1

variable {s s' : Search} {r : Option Tree}

-- A round that goes on has looked at the next node, which is not flagged, or it has moved to the
-- side or up and looked at none.
theorem round_cases (h : s.round = .inl s') :
    (∃ t, t.flagged = false ∧ s.unseen = t :: s'.unseen ∧ s'.depth ≤ s.depth + 1) ∨
      (s.unseen = s'.unseen ∧ s'.depth < s.depth) := by
  cases s
  case entering p =>
    left
    simp only [round] at h
    split at h
    case isTrue => cases h
    case isFalse hp =>
      refine ⟨p.node, Bool.eq_false_of_not_eq_true hp, ?_⟩
      split at h
      case h_1 q hq =>
        cases h
        have ho := Place.onward_of_firstChild? hq
        obtain ⟨_, _, -, rfl⟩ := Place.firstChild?_eq_some_iff.mp hq
        exact ⟨ho, le_rfl⟩
      case h_2 hq =>
        cases h
        exact ⟨Place.onward_of_leaf hq, le_rfl⟩
  case leaving p =>
    right
    simp only [round] at h
    split at h
    case h_1 q hq =>
      cases h
      have hb := Place.behind_of_nextSibling? hq
      obtain ⟨_, _, -, rfl⟩ := Place.nextSibling?_eq_some_iff.mp hq
      exact ⟨hb, Nat.lt_succ_self _⟩
    case h_2 hn =>
      split at h
      case h_1 q hq =>
        cases h
        exact ⟨Place.behind_of_parent? hn hq, Nat.succ_lt_succ (Place.parent?_above hq)⟩
      case h_2 => cases h

theorem round_find? (h : s.round = .inl s') :
    s'.unseen.find? Tree.flagged = s.unseen.find? Tree.flagged := by
  obtain ⟨t, ht, hs, -⟩ | ⟨hs, -⟩ := round_cases h
  case inl => rw [hs, List.find?_cons_of_neg (by simp [ht])]
  case inr => rw [hs]

theorem round_result (h : s.round = .inr r) : s.unseen.find? Tree.flagged = r := by
  cases s
  case entering p =>
    simp only [round] at h
    split at h
    case isTrue hp =>
      cases h
      rw [unseen, Place.onward, Tree.preorder_eq]
      exact List.find?_cons_of_pos hp
    case isFalse => split at h <;> cases h
  case leaving p =>
    simp only [round] at h
    split at h
    case h_1 => cases h
    case h_2 hn =>
      split at h
      case h_1 => cases h
      case h_2 hp =>
        cases h
        rw [unseen, Place.behind_of_root hn hp, List.find?_nil]

-- Each node is looked at once and left once. A move down makes the way back longer, but it comes
-- with a look at a node.
theorem exists_ends (s : Search) :
    ∃ n ≤ 2 * s.unseen.length + s.depth, Ends round n s (s.unseen.find? Tree.flagged) := by
  have hm : ∀ s s', round s = .inl s' →
      2 * s'.unseen.length + s'.depth < 2 * s.unseen.length + s.depth := by
    intro s s' h
    obtain ⟨t, -, hs, hd⟩ | ⟨hs, hd⟩ := round_cases h
    case inl =>
      rw [hs, List.length_cons]
      omega
    case inr =>
      rw [hs]
      omega
  obtain ⟨n, hn, r, e⟩ := Ends.exists_of_measure hm s
  have hr : s.unseen.find? Tree.flagged = r := by
    refine e.of_invariant (fun s' => s.unseen.find? Tree.flagged = s'.unseen.find? Tree.flagged)
      (s.unseen.find? Tree.flagged = ·) ?kept ?post rfl
    case kept => exact fun _ _ h hs => hs.trans (round_find? h).symm
    case post => exact fun _ _ h hs => hs.trans (round_result h)
  exact ⟨n, hn, hr ▸ e⟩

end Search

namespace Tree

open Relation

variable {t u v c : Tree}

-- The first node of a tree in pre-order that is flagged.
structure FirstFlagged (t v : Tree) : Prop where
  flagged : v.flagged
  first : ∃ front rest, t.preorder = front ++ v :: rest ∧ ∀ u ∈ front, ¬u.flagged

theorem firstError_eq : t.firstError = t.preorder.find? flagged := by
  rw [firstError, Place.firstFault?_eq]
  simp [Place.onward, Place.behind]

theorem firstError_eq_some_iff : t.firstError = some v ↔ t.FirstFlagged v := by
  have hn : ∀ u : Tree, (!u.flagged) = true ↔ ¬u.flagged := fun u => by simp
  rw [firstError_eq, List.find?_eq_some_iff_append]
  simp only [hn]
  exact ⟨fun h => ⟨h.left, h.right⟩, fun h => ⟨h.flagged, h.first⟩⟩

theorem firstError_eq_none_iff : t.firstError = none ↔ ∀ u ∈ t.preorder, ¬u.flagged := by
  rw [firstError_eq, List.find?_eq_none]

theorem exists_search_ends (t : Tree) :
    ∃ n ≤ 2 * t.size, Ends Search.round n (.entering { node := t }) t.firstError := by
  have h := Search.exists_ends (.entering { node := t })
  simpa [Search.unseen, Search.depth, Place.onward, Place.behind, length_preorder,
    firstError_eq] using h

def FirstFaulty (t c : Tree) : Prop :=
  t.children.find? hasError = some c

-- The node where the way down over first children with a fault in them ends.
structure Innermost (t u : Tree) : Prop where
  way : ReflTransGen FirstFaulty t u
  last : ∀ c ∈ u.children, ¬c.hasError

def descend (t : Tree) : Tree ⊕ Tree :=
  match t.children.find? hasError with
  | some c => .inl c
  | none => .inr t

theorem descend_eq_inl_iff : t.descend = .inl c ↔ t.FirstFaulty c := by
  unfold descend FirstFaulty
  split <;> simp [*]

theorem descend_eq_inr_iff : t.descend = .inr u ↔ t = u ∧ ∀ c ∈ t.children, ¬c.hasError := by
  rw [← List.find?_eq_none]
  unfold descend
  split <;> simp [*]

theorem innermostError_eq :
    t.innermostError = ((t.children.find? hasError).map innermostError).getD t := by
  cases t
  rw [innermostError, innermostErrorIn_eq, children]

theorem FirstFaulty.innermostError_eq (h : t.FirstFaulty c) :
    c.innermostError = t.innermostError := by
  rw [t.innermostError_eq, show t.children.find? hasError = some c from h]
  rfl

theorem innermostError_eq_self (h : ∀ c ∈ t.children, ¬c.hasError) : t.innermostError = t := by
  rw [innermostError_eq, List.find?_eq_none.mpr h]
  rfl

theorem FirstFaulty.size_lt (h : t.FirstFaulty c) : c.size < t.size :=
  size_lt_of_mem (List.mem_of_find?_eq_some h)

theorem exists_descent_ends (t : Tree) :
    ∃ n ≤ t.size, Ends descend n t t.innermostError ∧ t.Innermost t.innermostError := by
  have hm : ∀ s c, descend s = .inl c → c.size < s.size :=
    fun _ _ h => (descend_eq_inl_iff.mp h).size_lt
  obtain ⟨n, hn, u, e⟩ := Ends.exists_of_measure hm t
  have hu : t.innermostError = u ∧ t.Innermost u := by
    refine e.of_invariant
      (fun s => t.innermostError = s.innermostError ∧ ReflTransGen FirstFaulty t s)
      (fun u => t.innermostError = u ∧ t.Innermost u) ?kept ?post ⟨rfl, .refl⟩
    case kept =>
      rintro s c h ⟨hs, hw⟩
      have hc := descend_eq_inl_iff.mp h
      exact ⟨hs.trans hc.innermostError_eq.symm, hw.tail hc⟩
    case post =>
      rintro s u h ⟨hs, hw⟩
      obtain ⟨rfl, hl⟩ := descend_eq_inr_iff.mp h
      exact ⟨hs.trans (innermostError_eq_self hl), hw, hl⟩
  obtain ⟨rfl, hi⟩ := hu
  exact ⟨n, hn, e, hi⟩

theorem mem_preorder_self : t ∈ t.preorder := by
  rw [preorder_eq]
  exact List.mem_cons_self

theorem mem_preorder_of_way (h : ReflTransGen FirstFaulty t u) : u ∈ t.preorder := by
  induction h using ReflTransGen.head_induction_on
  case refl => exact mem_preorder_self
  case head hc _ hi =>
    rw [preorder_eq]
    exact List.mem_cons_of_mem _ (List.mem_flatMap.mpr ⟨_, List.mem_of_find?_eq_some hc, hi⟩)

theorem hasError_of_way (h : ReflTransGen FirstFaulty t u) (ht : t.hasError) : u.hasError := by
  cases h
  case refl => exact ht
  case tail hc => exact List.find?_some hc

theorem atFault_of_last (h : t.hasError) (hl : ∀ c ∈ t.children, ¬c.hasError) : t.AtFault := by
  obtain ⟨u, hu, ha⟩ := hasError_iff.mp h
  rw [preorder_eq, List.mem_cons, List.mem_flatMap] at hu
  obtain rfl | ⟨c, hc, hu⟩ := hu
  case inl => exact ha
  case inr => exact absurd (hasError_iff.mpr ⟨u, hu, ha⟩) (hl c hc)

-- What a tree may be blamed on: its first flagged node, or if none is flagged, the innermost node
-- with a fault in it, which then lacks a token that has no node.
inductive Blames (t v : Tree) : Prop where
  | flagged (h : t.FirstFlagged v)
  | incomplete (hf : ∀ u ∈ t.preorder, ¬u.flagged) (hi : t.Innermost v) (h : v.info.incomplete)

theorem blames_blamed (h : t.hasError) : t.Blames t.blamed := by
  rw [blamed]
  cases he : t.firstError
  case some v => exact .flagged (firstError_eq_some_iff.mp he)
  case none =>
    have hf := firstError_eq_none_iff.mp he
    obtain ⟨_, _, _, hi⟩ := exists_descent_ends t
    have ha := atFault_of_last (hasError_of_way hi.way h) hi.last
    exact .incomplete hf hi (ha.resolve_left (hf _ (mem_preorder_of_way hi.way)))

-- A flag is behind each fault: a node has a fault in it if and only if it is flagged or a node
-- below it is.
def Marked (t : Tree) : Prop :=
  ∀ u ∈ t.preorder, u.hasError ↔ ∃ v ∈ u.preorder, v.flagged

instance : Decidable t.Marked :=
  inferInstanceAs (Decidable (∀ u ∈ t.preorder, _))

theorem firstFlagged_blamed (hm : t.Marked) (h : t.hasError) : t.FirstFlagged t.blamed := by
  cases blames_blamed h
  case flagged hf => exact hf
  case incomplete hf _ _ =>
    obtain ⟨v, hv, hv'⟩ := (hm t mem_preorder_self).mp h
    exact absurd hv' (hf v hv)

-- The search for a flagged node comes to an end and gives the first one in pre-order, or none if
-- there is none; the way down comes to an end as well, at the innermost node with a fault in it.
-- Where a flag is behind each fault, a tree with a fault is blamed on its first flagged node.
theorem fault_located (t : Tree) :
    (∃ n ≤ 2 * t.size, Ends Search.round n (.entering { node := t }) t.firstError) ∧
      (∀ v, t.firstError = some v ↔ t.FirstFlagged v) ∧
      (t.firstError = none ↔ ∀ u ∈ t.preorder, ¬u.flagged) ∧
      (∃ n ≤ t.size, Ends descend n t t.innermostError) ∧
      t.Innermost t.innermostError ∧
      (t.Marked → t.hasError → ∃ v, t.FirstFlagged v ∧
        t.diagnose = .located v.fault (v.info.line + 1) (v.info.column + 1)) := by
  obtain ⟨n, hn, e, hi⟩ := exists_descent_ends t
  refine ⟨exists_search_ends t, fun v => firstError_eq_some_iff, firstError_eq_none_iff,
    ⟨n, hn, e⟩, hi, ?_⟩
  intro hm h
  exact ⟨t.blamed, firstFlagged_blamed hm h, rfl⟩

def token (label : String) (line column : Nat) : Tree :=
  .node { kind := .other label, line, column } []

def missingSign : Tree :=
  .node { kind := .other ":=", line := 0, column := 12, missing := true } []

-- The tree of a script with the declaration `static var x  1` in its first line and `func g(:` in
-- its third.
def twoFaults : Tree :=
  .node { kind := .other "source" } [
    .node { kind := .other "variable_statement" } [
      token "static_keyword" 0 0, token "var" 0 7, token "name" 0 11,
      .node { kind := .other "inferred_type", column := 12 } [missingSign],
      token "integer" 0 14],
    .node { kind := .error, text := "func g(:", line := 2 } [
      token "func" 2 0, token "name" 2 5, token "(" 2 6, token ":" 2 7],
    token "pass_statement" 3 1]

-- The missing sign has no width and stands deeper than the error behind it.
theorem fault_located_twoFaults :
    twoFaults.Marked ∧ twoFaults.hasError ∧ twoFaults.FirstFlagged missingSign ∧
      twoFaults.diagnose = .located "missing :=" 1 13 := by
  have hm : twoFaults.Marked := by decide
  have he : twoFaults.hasError := by decide
  have hf : twoFaults.FirstFlagged missingSign :=
    ⟨rfl, twoFaults.preorder.take 6, twoFaults.preorder.drop 7, rfl, by decide⟩
  obtain ⟨-, hfirst, -, -, -, hd⟩ := fault_located twoFaults
  obtain ⟨v, hv, hd⟩ := hd hm he
  have hs := ((hfirst v).mpr hv).symm.trans ((hfirst missingSign).mpr hf)
  cases hs
  exact ⟨hm, he, hf, hd⟩

end Tree

theorem Recovery.hasError_recover (cs : List Char) : (recover cs).hasError := by
  have hf : (faultTree cs).hasError := by simp [faultTree, Tree.hasError]
  unfold recover
  dsimp only
  split
  case h_1 t _ =>
    split
    case isTrue ht => exact ht
    case isFalse => exact hf
  case h_2 => exact hf

theorem diagnostic_of_parse {source : String} {d : Diagnostic} (h : parse source = .error d) :
    ∃ v, (Recovery.recover source.toList).Blames v ∧
      d = .located v.fault (v.info.line + 1) (v.info.column + 1) := by
  unfold parse at h
  split at h
  case h_1 => cases h
  case h_2 =>
    cases h
    exact ⟨_, Tree.blames_blamed (Recovery.hasError_recover _), rfl⟩

end GodotAtlas.Script
