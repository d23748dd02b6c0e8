import GodotAtlas.Proofs.Script.Lowering
import GodotAtlas.Proofs.Symbols.StaticFunctions

namespace GodotAtlas.Symbols

open Script (Item Kind Tree)

section

variable {d : Tree}

theorem annotationName?_elim {name : Option String} {f : String → Item}
    (hf : ∀ n, annotationName? (f n) = none) : annotationName? (name.elim .other f) = none := by
  cases name
  case none => rfl
  case some n => exact hf n

theorem annotationName?_ofVariable : annotationName? (Item.ofVariable d) = none :=
  annotationName?_elim fun _ => rfl

theorem annotationName?_ofFunction : annotationName? (Item.ofFunction d) = none :=
  annotationName?_elim fun _ => rfl

-- Whatever a statement looks like that is neither a comment nor an annotation, the last item it
-- gives is no annotation.
theorem exists_ofStatement_eq (h : d.kind ∉ [Kind.comment, .annotations, .annotates]) :
    ∃ front item, Item.ofStatement d = front ++ [item] ∧ annotationName? item = none := by
  obtain ⟨i, cs⟩ := d
  simp only [Tree.kind, Tree.info, List.mem_cons, List.not_mem_nil, or_false, not_or] at h
  rw [Item.ofStatement]
  split
  case h_1 hk => exact absurd hk h.left
  case h_6 hk => exact absurd hk h.right.left
  case h_7 hk => exact absurd hk h.right.right
  case h_3 | h_4 | h_5 | h_14 | h_15 => exact ⟨[], _, rfl, annotationName?_elim fun _ => rfl⟩
  case h_8 => exact ⟨_, _, rfl, annotationName?_ofVariable⟩
  case h_9 | h_10 => exact ⟨_, _, List.append_cons .., annotationName?_ofVariable⟩
  case h_11 | h_12 => exact ⟨_, _, rfl, annotationName?_ofFunction⟩
  all_goals exact ⟨[], _, rfl, rfl⟩

end

-- What stands in front of a declaration is of effect on it through the annotations directly in
-- front, and what stands behind it is walked through as if it stood alone. A block is the script or
-- the body of a class, and its children may be of any kind and lack any part.
theorem walk_ofBlock_eq_merge {b d : Tree} {xs ys : List Tree} (hb : b.namedChildren = xs ++ d :: ys)
    (hd : d.kind ∉ [Kind.comment, .annotations, .annotates]) :
    walk none (Item.ofBlock b) =
        (walk none (Item.ofStatements (xs ++ [d]))).merge (walk none (Item.ofStatements ys)) ∧
      walk none (Item.ofStatements (xs ++ [d])) =
        (walk none (Item.ofStatements xs)).merge
          (walk (pendingOf (runAfter (Item.ofStatements xs))) (Item.ofStatement d)) := by
  obtain ⟨front, item, he, hi⟩ := exists_ofStatement_eq hd
  have hn : d.info.named := by
    have hm : d ∈ b.namedChildren := hb ▸ List.mem_append_right _ List.mem_cons_self
    exact (List.mem_filter.mp hm).right
  have hs : Item.ofStatements (xs ++ [d]) = Item.ofStatements xs ++ Item.ofStatement d := by
    simp [Item.ofStatements_eq, hn]
  constructor
  case left =>
    have hx : Item.ofStatements (xs ++ [d]) = (Item.ofStatements xs ++ front) ++ [item] := by
      rw [hs, he, List.append_assoc]
    have hy : Item.ofBlock b =
        (Item.ofStatements xs ++ front) ++ item :: Item.ofStatements ys := by
      rw [← Item.ofStatements_namedChildren, hb, List.append_cons, Item.ofStatements_append, hx,
        List.append_assoc, List.singleton_append]
    rw [hx, hy, walk_of_separated hi]
  case right => rw [hs, merge_walk, foldl_pendingAfter]

def namelessBlock : Tree :=
  .node { kind := .source }
    [.node { kind := .annotations }
      [.node { kind := .annotates } [.node { kind := .identifier, text := "export" } []]],
     .node { kind := .comment, text := "# The speed." } [],
     .node { kind := .variable } [],
     .node { kind := .variable } [.node { kind := .name, field := some .name, text := "speed" } []]]

theorem walk_namelessBlock :
    ∃ xs d ys, namelessBlock.namedChildren = xs ++ d :: ys ∧
      d.kind ∉ [Kind.comment, .annotations, .annotates] ∧
      walk none (Item.ofBlock namelessBlock) =
        (walk none (Item.ofStatements (xs ++ [d]))).merge (walk none (Item.ofStatements ys)) ∧
      (walk none (Item.ofStatements ys)).members = { plain := [⟨"speed", none, none⟩] } := by
  have hb : namelessBlock.namedChildren =
      namelessBlock.children.take 2 ++ .node { kind := .variable } [] ::
        namelessBlock.children.drop 3 := rfl
  exact ⟨_, _, _, hb, by decide, (walk_ofBlock_eq_merge hb (by decide)).left, by decide +kernel⟩

end GodotAtlas.Symbols
