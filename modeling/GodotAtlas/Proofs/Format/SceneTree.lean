import GodotAtlas.Proofs.Format.SceneText

namespace GodotAtlas.Format

open Text

inductive NodeTree (α : Type)
  | node (label : α) (below : List (NodeTree α))

namespace NodeTree

variable {α β : Type}

-- What passes from the trees below a node to the tree of the node holds of all trees.
@[elab_as_elim, induction_eliminator]
theorem induct {p : NodeTree α → Prop} (node : ∀ a ts, (∀ t ∈ ts, p t) → p (.node a ts)) :
    ∀ t, p t
  | .node a ts => node a ts fun t _ => induct node t

mutual

def placed (above : List α) : NodeTree α → List (List α × α)
  | node a ts => (above, a) :: placedAll (above ++ [a]) ts

def placedAll (above : List α) : List (NodeTree α) → List (List α × α)
  | [] => []
  | t :: ts => t.placed above ++ placedAll above ts

end

mutual

-- The tree of the same shape with other labels.
def map (f : α → β) : NodeTree α → NodeTree β
  | node a ts => node (f a) (mapAll f ts)

def mapAll (f : α → β) : List (NodeTree α) → List (NodeTree β)
  | [] => []
  | t :: ts => t.map f :: mapAll f ts

end

theorem placedAll_eq (above : List α) (ts : List (NodeTree α)) :
    placedAll above ts = ts.flatMap (placed above) := by
  induction ts
  case nil => rfl
  case cons t ts hi => rw [placedAll, hi, List.flatMap_cons]

theorem mapAll_eq (f : α → β) (ts : List (NodeTree α)) : mapAll f ts = ts.map (map f) := by
  induction ts
  case nil => rfl
  case cons t ts hi => rw [mapAll, hi, List.map_cons]

theorem placed_node (above : List α) (a : α) (ts : List (NodeTree α)) :
    (node a ts).placed above = (above, a) :: ts.flatMap (placed (above ++ [a])) := by
  rw [placed, placedAll_eq]

theorem map_node (f : α → β) (a : α) (ts : List (NodeTree α)) :
    (node a ts).map f = node (f a) (ts.map (map f)) := by
  rw [map, mapAll_eq]

theorem placed_map (f : α → β) (t : NodeTree α) (above : List α) :
    (t.map f).placed (above.map f) = (t.placed above).map (Prod.map (List.map f) f) := by
  induction t generalizing above
  case node a ts hi =>
    have ha : above.map f ++ [f a] = (above ++ [a]).map f := by simp
    rw [map_node, placed_node, placed_node, ha, List.map_cons, List.map_flatMap, List.flatMap_map]
    congr 1
    exact List.flatMap_congr fun t ht => hi t ht _

def outline (above : List α) (t : NodeTree α) : List (Nat × α) :=
  (t.placed above).map fun p => (p.1.length, p.2)

theorem outline_node (above : List α) (a : α) (ts : List (NodeTree α)) :
    (node a ts).outline above = (above.length, a) :: ts.flatMap (outline (above ++ [a])) := by
  rw [outline, placed_node, List.map_cons, List.map_flatMap]
  rfl

-- The trees of an outline: below an entry hangs what is deeper, up to the next that is not.
def ofOutline : List (Nat × α) → List (Nat × NodeTree α)
  | [] => []
  | (d, a) :: es =>
    let ts := ofOutline es
    (d, node a ((ts.takeWhile (d < ·.1)).map (·.2))) :: ts.dropWhile (d < ·.1)

def EndsAt (d : Nat) (es : List (Nat × α)) : Prop :=
  ∀ e ∈ (ofOutline es).head?, e.1 ≤ d

theorem EndsAt.mono {c d : Nat} {es : List (Nat × α)} (h : EndsAt c es) (hle : c ≤ d) :
    EndsAt d es :=
  fun e he => (h e he).trans hle

theorem takeWhile_ofOutline {d : Nat} {es : List (Nat × α)} (h : EndsAt d es) :
    (ofOutline es).takeWhile (d < ·.1) = [] ∧
      (ofOutline es).dropWhile (d < ·.1) = ofOutline es := by
  cases hes : ofOutline es
  case nil => simp
  case cons e rest =>
    have hd : ¬d < e.1 := Nat.not_lt.mpr (h e (by simp [hes]))
    simp [hd]

theorem ofOutline_flatMap {d : Nat} {f : NodeTree α → List (Nat × α)} {ts : List (NodeTree α)}
    (hf : ∀ t ∈ ts, ∀ es, EndsAt d es → ofOutline (f t ++ es) = (d, t) :: ofOutline es)
    {es : List (Nat × α)} (h : EndsAt d es) :
    ofOutline (ts.flatMap f ++ es) = ts.map (d, ·) ++ ofOutline es := by
  induction ts
  case nil => rfl
  case cons t ts hi =>
    have hi := hi fun u hu => hf u (List.mem_cons_of_mem _ hu)
    have he : EndsAt d (ts.flatMap f ++ es) := by
      rw [EndsAt, hi]
      cases ts
      case nil => exact h
      case cons u us => simp
    rw [List.flatMap_cons, List.append_assoc, hf t List.mem_cons_self _ he, hi]
    rfl

theorem ofOutline_append (t : NodeTree α) (above : List α) {es : List (Nat × α)}
    (h : EndsAt above.length es) :
    ofOutline (t.outline above ++ es) = (above.length, t) :: ofOutline es := by
  induction t generalizing above es
  case node a ts hi =>
    have hl : (above ++ [a]).length = above.length + 1 := by simp
    have hts : ofOutline (ts.flatMap (outline (above ++ [a])) ++ es) =
        ts.map (above.length + 1, ·) ++ ofOutline es := by
      refine ofOutline_flatMap (fun t ht es he => ?_) (h.mono (Nat.le_succ _))
      rw [hi t ht _ (hl ▸ he), hl]
    have hd : ∀ e ∈ ts.map (above.length + 1, ·), decide (above.length < e.1) := by simp
    have ⟨htake, hdrop⟩ := takeWhile_ofOutline h
    rw [outline_node, List.cons_append, ofOutline, hts, List.takeWhile_append_of_pos hd,
      List.dropWhile_append_of_pos hd, htake, hdrop]
    simp [Function.comp_def]

theorem ofOutline_outline (t : NodeTree α) : ofOutline (t.outline []) = [(0, t)] := by
  have h : EndsAt 0 ([] : List (Nat × α)) := by simp [EndsAt, ofOutline]
  simpa [ofOutline] using ofOutline_append t [] h

end NodeTree

def isNodeNameChar (c : Char) : Bool :=
  isQuotable c && c != '/'

theorem isQuotable_of_isNodeNameChar {c : Char} (h : isNodeNameChar c) : isQuotable c :=
  (Bool.and_eq_true_iff.mp h).left

-- A node of a tree as it is written.
structure TreeNode where
  name : Run isNodeNameChar
  type : Option (Run isQuotable)
  ne_dot : name.chars ≠ ['.']

def namePath (ns : List TreeNode) : Chars isQuotable where
  chars := ['/'].intercalate (ns.map (·.name.chars))
  all c hc := by
    rcases eq_or_mem_of_mem_intercalate hc with rfl | ⟨l, hl, hc⟩
    case inl => decide
    case inr =>
      obtain ⟨n, _, rfl⟩ := List.mem_map.mp hl
      exact isQuotable_of_isNodeNameChar (n.name.all c hc)

-- How a node tells where it hangs. The nodes above it are given from the root on, whose name is not
-- written: the root tells nothing, and the nodes right below it are told by a dot.
def parentOf : List TreeNode → Option (Chars isQuotable)
  | [] => none
  | [_] => some ⟨['.'], by simp [isQuotable]⟩
  | _ :: ns => some (namePath ns)

theorem splitAt_namePath {ns : List TreeNode} (hn : ns ≠ []) :
    splitAt '/' (namePath ns).chars = ns.map (·.name.chars) :=
  splitAt_intercalate (by simpa using hn) (by simpa using fun n _ => n.name.not_mem (c := '/') rfl)

theorem exists_name_of_namePath {ns : List TreeNode} (hn : ns ≠ []) {cs : List Char}
    (hs : '/' ∉ cs) (h : (namePath ns).chars = cs) : ∃ n ∈ ns, n.name.chars = cs := by
  have hm : ns.map (·.name.chars) = [cs] := by
    rw [← splitAt_namePath hn, h, splitAt_of_not_mem hs]
  exact List.mem_map.mp (hm ▸ List.mem_singleton_self cs)

theorem nodeDepth_namePath {ns : List TreeNode} (hn : ns ≠ []) :
    nodeDepth (namePath ns).text = ns.length + 1 := by
  have he : (namePath ns).text ≠ "" := by
    intro h
    obtain ⟨n, _, he⟩ := exists_name_of_namePath hn (by simp) (String.ofList_eq_empty_iff.mp h)
    exact n.name.ne_nil he
  have hd : (namePath ns).text ≠ "." := by
    intro h
    obtain ⟨n, _, hd⟩ := exists_name_of_namePath hn (by decide) (String.ofList_injective h)
    exact n.ne_dot hd
  have hc : (namePath ns).chars.count '/' + 1 = ns.length := by
    rw [← length_splitAt, splitAt_namePath hn, List.length_map]
  rw [nodeDepth, if_neg he, if_neg hd, Chars.text, String.toList_ofList, ← hc]

theorem nodeDepth_parentOf (above : List TreeNode) :
    nodeDepth (((parentOf above).map Chars.text).getD "") = above.length := by
  match above with
  | [] => rfl
  | [_] => rfl
  | _ :: n :: ns => exact nodeDepth_namePath (List.cons_ne_nil n ns)

namespace TreeNode

def quotable (n : TreeNode) : Run isQuotable :=
  n.name.mono fun _ => isQuotable_of_isNodeNameChar

def entry (above : List TreeNode) (n : TreeNode) : NodeEntry where
  name := n.quotable
  type := n.type
  parent := parentOf above
  «instance» := none

def read (above : List TreeNode) (n : TreeNode) : SceneNode where
  name := n.name.text
  type := n.type.map Run.text
  parent := ((parentOf above).map Chars.text).getD ""
  «instance» := none

def texts (n : TreeNode) : String × Option String :=
  (n.name.text, n.type.map Run.text)

end TreeNode

namespace SceneSource

def lines (s : SceneSource) : List (List Char) :=
  s.blocks.map fun b => headerText b.1 b.2

theorem written_lines (s : SceneSource) : Written s.blocks s.lines := by
  rw [lines]
  induction s.blocks
  case nil => exact .nil
  case cons b bs hi => exact .header b.1 (.refl b.2) hi

end SceneSource

namespace NodeTree

-- The scene whose nodes are those of a tree.
def source (t : NodeTree TreeNode) : SceneSource where
  extResources := []
  subResources := []
  nodes := (t.placed []).map fun p => p.2.entry p.1
  connections := []
  distinct_ids := List.nodup_nil

variable {t : NodeTree TreeNode} {ls : List (List Char)}

theorem nodes_ofText (w : Written t.source.blocks ls) :
    (Scene.ofText (['\n'].intercalate ls)).nodes = (t.placed []).map fun p => p.2.read p.1 := by
  rw [Scene.ofText_of_written w SceneSource.nodup_keys, SceneSource.ofHeaders_blocks]
  simp [SceneSource.scene, source, TreeNode.entry, TreeNode.read, TreeNode.quotable, Run.mono, Run.text]

end NodeTree

end GodotAtlas.Format
