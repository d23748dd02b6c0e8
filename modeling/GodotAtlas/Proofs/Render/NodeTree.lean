import GodotAtlas.Proofs.Format.SceneTree
import GodotAtlas.Render.Markdown

namespace GodotAtlas.Render

open Text Format

def shownLine (above : List TreeNode) (n : TreeNode) : List Char :=
  List.replicate (2 * above.length) ' ' ++
    ((if above.isEmpty then [] else "└─ ".toList) ++
      (n.name.chars ++ n.type.elim [] fun t => " (".toList ++ (t.chars ++ [')'])))

section

variable {above : List TreeNode} {n : TreeNode}

theorem depth_read : (n.read above).depth = above.length :=
  nodeDepth_parentOf above

theorem read_outline : ((n.read above).depth, (n.read above).name, (n.read above).type) =
    (above.length, n.texts) := by
  rw [depth_read]
  rfl

theorem toList_nodeLine : (nodeLine (n.read above)).toList = shownLine above n := by
  rw [nodeLine, depth_read]
  cases above <;> cases ht : n.type <;>
    simp [TreeNode.read, shownLine, indentation, Run.text, toString, ht]

theorem newline_not_mem_shownLine : '\n' ∉ shownLine above n := by
  have hn : '\n' ∉ n.name.chars := n.name.not_mem rfl
  have hl (t : Run isQuotable) : '\n' ∉ t.chars := t.not_mem rfl
  cases above <;> cases ht : n.type <;> simp [shownLine, hn, ht, hl]

end

-- A scene has the nodes of a tree in pre-order, and is shown with a line for each of them.
structure ShowsTree (s : Scene) (t : NodeTree TreeNode) : Prop where
  nodes : s.nodes = (t.placed []).map fun p => p.2.read p.1
  depths : s.nodes.map SceneNode.depth = (t.placed []).map (·.1.length)
  lines : splitAt '\n' (nodeTree s).toList = (t.placed []).map fun p => shownLine p.1 p.2
  recovered : NodeTree.ofOutline (s.nodes.map fun n => (n.depth, n.name, n.type)) =
    [(0, t.map TreeNode.texts)]

theorem toList_nodeTree {s : Scene} (h : s.nodes ≠ []) :
    (nodeTree s).toList = ['\n'].intercalate (s.nodes.map fun n => (nodeLine n).toList) := by
  have hn : s.nodes.isEmpty = false := by simpa using h
  simp [nodeTree, hn, joinLines, String.toList_intercalate, Function.comp_def]

theorem showsTree_of_nodes {s : Scene} {t : NodeTree TreeNode}
    (h : s.nodes = (t.placed []).map fun p => p.2.read p.1) : ShowsTree s t where
  nodes := h
  depths := by simp [h, Function.comp_def, depth_read]
  lines := by
    have hn : t.placed [] ≠ [] := by
      obtain ⟨a, ts⟩ := t
      simp [NodeTree.placed]
    have hl : s.nodes.map (fun n => (nodeLine n).toList) =
        (t.placed []).map fun p => shownLine p.1 p.2 := by
      simp [h, Function.comp_def, toList_nodeLine]
    rw [toList_nodeTree (by simpa [h] using hn), hl]
    refine splitAt_intercalate (by simpa using hn) ?_
    exact List.forall_mem_map.mpr fun _ _ => newline_not_mem_shownLine
  recovered := by
    have ho : s.nodes.map (fun n => (n.depth, n.name, n.type)) =
        (t.map TreeNode.texts).outline [] := by
      rw [NodeTree.outline, ← List.map_nil (f := TreeNode.texts), NodeTree.placed_map, h]
      simp [Function.comp_def, read_outline]
    rw [ho, NodeTree.ofOutline_outline]

-- Reading back what is written of a tree shows the tree, in whatever order the attributes stand.
theorem showsTree_of_written (t : NodeTree TreeNode) :
    Written t.source.blocks t.source.lines ∧
      ∀ ls, Written t.source.blocks ls → ShowsTree (Scene.ofText (['\n'].intercalate ls)) t :=
  ⟨t.source.written_lines, fun _ w => showsTree_of_nodes (NodeTree.nodes_ofText w)⟩

def knownNode (name : String) (type : Option (Run isQuotable))
    (ne_nil : name.toList ≠ [] := by decide) (all : name.toList.all isNodeNameChar := by decide)
    (ne_dot : name.toList ≠ ['.'] := by decide) : TreeNode :=
  ⟨.ofAll name.toList ne_nil all, type, ne_dot⟩

def panel : Run isQuotable :=
  .ofAll "Panel".toList (by decide) (by decide)

def sampleTree : NodeTree TreeNode :=
  .node (knownNode "Main" none)
    [.node (knownNode "HUD" none)
      [.node (knownNode ".." (some panel)) [.node (knownNode "a.b" none) []],
       .node (knownNode "HUD" (some panel)) []],
     .node (knownNode "Player" none) []]

def sampleTreeLines : List (List Char) :=
  ["[gd_scene format=3]".toList, [],
   "[node name=\"Main\"]".toList,
   "position = Vector2(0, 0)".toList,
   "[node name=\"HUD\" parent=\".\"]".toList,
   "[node parent=\"HUD\" name=\"..\" type=\"Panel\"]".toList,
   "[node name=\"a.b\" parent=\"HUD/..\"]".toList,
   "[node name=\"HUD\" type=\"Panel\" parent=\"HUD\"]".toList,
   "[node name=\"Player\" parent=\".\"]".toList]

theorem showsTree_sampleTree : Written sampleTree.source.blocks sampleTreeLines ∧
    ShowsTree (Scene.ofText (['\n'].intercalate sampleTreeLines)) sampleTree ∧
    nodeTree (Scene.ofText (['\n'].intercalate sampleTreeLines)) =
      joinLines
        ["Main", "  └─ HUD", "    └─ .. (Panel)", "      └─ a.b", "    └─ HUD (Panel)",
         "  └─ Player"] := by
  have hb {as as' : List Attribute} {l : List Char} {bs : List Block} {ls : List (List Char)}
      (hp : as'.Perm as) (hl : headerText (word "node") as' = l) (w : Written bs ls) :
      Written ((word "node", as) :: bs) (l :: ls) := hl ▸ .header (word "node") hp w
  have hw : Written sampleTree.source.blocks sampleTreeLines := by
    refine .other _ (by decide) ?_ (.other _ (by decide) nofun ?_)
    · intro h hh
      have hk : some "gd_scene" = some h.kind := congrArg (Option.map Header.kind) hh
      rw [← Option.some.inj hk]
      decide
    · refine hb (.refl _) (by decide +kernel) (.other _ (by decide) nofun ?_)
      refine hb (.refl _) (by decide +kernel) (hb (List.rotate_perm _ 2) (by decide +kernel) ?_)
      refine hb (.refl _) (by decide +kernel) (hb (.refl _) (by decide +kernel) ?_)
      exact hb (.refl _) (by decide +kernel) .nil
  have ⟨_, hs⟩ := showsTree_of_written sampleTree
  exact ⟨hw, hs _ hw, by decide +kernel⟩

end GodotAtlas.Render
