import GodotAtlas.Proofs.Format.SceneText

namespace GodotAtlas.Format

open Text

instance {κ α : Type} [Ord κ] [DecidableEq κ] [DecidableEq α] : DecidableEq (SortedMap κ α) :=
  fun m n => decidable_of_iff (m.entries = n.entries) ⟨SortedMap.ext, congrArg SortedMap.entries⟩

deriving instance DecidableEq for Header

-- What a node is an instance of, given all headers of the scene and its own.
structure Instantiates (hs : List Header) (h : Header) (n : SceneNode) : Prop where
  absent : h.get? "instance" = none → n.instance = none
  uncalled : ∀ value, h.get? "instance" = some value →
    (∀ front call rest id, value.toList = front ++ (call ++ rest) → ¬CallsFor call id) →
      n.instance = some value
  called : ∀ value id, h.get? "instance" = some value → FirstCall value.toList id →
    n.instance = some ((declaredPaths hs id).getLast?.getD value)

theorem instantiates_ofHeader (hs : List Header) (h : Header) : Instantiates hs h
    (.ofHeader ((hs.filter (·.kind == "ext_resource")).map .ofHeader) h) where
  absent ha := by rw [SceneNode.ofHeader, ha, Option.map_none]
  uncalled value hv hn := by
    rw [SceneNode.ofHeader, hv, Option.map_some, resolveInstance,
      extResourceId?_eq_none_iff.mpr hn, Option.bind_none, Option.getD_none]
  called value id hv hc := by
    rw [SceneNode.ofHeader, hv, Option.map_some, resolveInstance_of_firstCall hc]

theorem forall₂_instantiates (hs : List Header) :
    List.Forall₂ (Instantiates hs) (hs.filter (·.kind == "node")) (Scene.ofHeaders hs).nodes := by
  rw [Scene.nodes_ofHeaders, List.forall₂_map_right_iff, List.forall₂_same]
  exact fun h _ => instantiates_ofHeader hs h

-- Two texts with the same headers of each kind, in the same order within the kind, hold one scene.
theorem ofText_of_same_kinds {text text' : List Char}
    (h : ∀ k ∈ sceneKinds, (Header.all text).filter (·.kind == k) =
      (Header.all text').filter (·.kind == k)) :
    Scene.ofText text = Scene.ofText text' ∧
      List.Forall₂ (Instantiates (Header.all text)) ((Header.all text).filter (·.kind == "node"))
        (Scene.ofText text).nodes :=
  ⟨Scene.ofHeaders_congr h, forall₂_instantiates (Header.all text)⟩

def tidyText : List Char :=
  ['\n'].intercalate
    ["[gd_scene format=3]".toList,
     "[ext_resource path=\"res://old.tscn\" id=\"1\"]".toList,
     "[ext_resource path=\"res://new.tscn\" id=\"1\"]".toList,
     "[node name=\"Root\" type=\"Node\"]".toList,
     "[node name=\"Child\" parent=\".\" instance=ExtResource(\"1\")]".toList,
     "[connection signal=\"hit\" from=\"Child\" to=\".\" method=\"_on_hit\"]".toList]

def shuffledText : List Char :=
  ['\n'].intercalate
    ["[connection signal=\"hit\" from=\"Child\" to=\".\" method=\"_on_hit\"]".toList,
     "[node name=\"Root\" type=\"Node\"]".toList,
     "[ext_resource path=\"res://old.tscn\" id=\"1\"]".toList,
     "[node name=\"Child\" parent=\".\" instance=ExtResource(\"1\")]".toList,
     "script = null".toList,
     "[ext_resource path=\"res://new.tscn\" id=\"1\"]".toList]

theorem ofText_shuffledText :
    (∀ k ∈ sceneKinds, (Header.all tidyText).filter (·.kind == k) =
      (Header.all shuffledText).filter (·.kind == k)) ∧
    Scene.ofText tidyText = Scene.ofText shuffledText ∧
    (Scene.ofText shuffledText).nodes.map (·.instance) = [none, some "res://new.tscn"] := by
  have h : ∀ k ∈ sceneKinds, (Header.all tidyText).filter (·.kind == k) =
    (Header.all shuffledText).filter (·.kind == k) := by decide +kernel
  have ⟨he, _⟩ := ofText_of_same_kinds h
  exact ⟨h, he, by decide +kernel⟩

-- A node with a value that calls for two resources.
def twoCallsText : List Char :=
  ['\n'].intercalate
    ["[ext_resource path=\"res://a.tscn\" id=\"1\"]".toList,
     "[ext_resource path=\"res://b.tscn\" id=\"2\"]".toList,
     "[node name=\"Both\" instance=[ExtResource(\"1\"), ExtResource(\"2\")]]".toList]

theorem ofText_twoCallsText :
    (Scene.ofText twoCallsText).nodes.map (·.instance) = [some "res://a.tscn"] ∧
    ¬∀ text, List.Forall₂ (fun (h : Header) (n : SceneNode) => ∀ value front call rest id,
        h.get? "instance" = some value → value.toList = front ++ (call ++ rest) →
          CallsFor call id →
            n.instance = some ((declaredPaths (Header.all text) id).getLast?.getD value))
      ((Header.all text).filter (·.kind == "node")) (Scene.ofText text).nodes := by
  have hn : (Scene.ofText twoCallsText).nodes.map (·.instance) = [some "res://a.tscn"] := by
    decide +kernel
  refine ⟨hn, fun h => ?_⟩
  let value := "[ExtResource(\"1\"), ExtResource(\"2\")]"
  have hv : ((Header.all twoCallsText).filter (·.kind == "node")).map (·.get? "instance") =
    [some value] := by decide +kernel
  obtain ⟨header, hh, hi⟩ := List.map_eq_singleton_iff.mp hv
  obtain ⟨node, hs, ha⟩ := List.map_eq_singleton_iff.mp hn
  have hr := h twoCallsText
  rw [hh, hs, List.forall₂_cons] at hr
  let second : Run isReferenceChar := .ofAll ['2'] (by decide) (by decide)
  have hb : node.instance = some "res://b.tscn" :=
    (hr.left value "[ExtResource(\"1\"), ".toList (referenceText second) [']'] "2" hi
      (by decide +kernel) callsFor_referenceText).trans (by decide +kernel)
  exact absurd (ha.symm.trans hb) (by decide)

end GodotAtlas.Format
