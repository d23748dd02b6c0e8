import GodotAtlas.Proofs.Format.References

namespace GodotAtlas.Format

open Text

def word (s : String) (ne_nil : s.toList ≠ [] := by decide)
    (all : s.toList.all isWord := by decide) : Run isWord :=
  .ofAll s.toList ne_nil all

@[simp]
theorem text_word {s : String} {hn : s.toList ≠ []} {ha : s.toList.all isWord} :
    (word s hn ha).text = s := by
  simp [word, Run.text]

@[simp]
theorem chars_word {s : String} {hn : s.toList ≠ []} {ha : s.toList.all isWord} :
    (word s hn ha).chars = s.toList :=
  rfl

abbrev extResourceWord : Run isWord :=
  word "ext_resource"

abbrev typeWord : Run isWord :=
  word "type"

def isIdChar (c : Char) : Bool :=
  c != '"' && c != '\\' && c != ')' && !isBlank c

structure ExtEntry where
  type : Option (Run isQuotable)
  path : Option (Run isQuotable)
  id : Option (Run isQuotable)

structure NodeEntry where
  name : Run isQuotable
  type : Option (Run isQuotable)
  parent : Option (Chars isQuotable)
  «instance» : Option (Chars isIdChar)

structure ConnectionEntry where
  signal : Chars isQuotable
  source : Chars isQuotable
  target : Chars isQuotable
  method : Chars isQuotable

structure SceneSource where
  extResources : List ExtEntry
  subResources : List (Run isQuotable)
  nodes : List NodeEntry
  connections : List ConnectionEntry
  distinct_ids : (extResources.filterMap (·.id.map Run.text)).Nodup

def optionalAttribute (key : Run isWord) (t : Option (Chars isQuotable)) : List Attribute :=
  (t.map (Attribute.quoted key)).toList

def resourceCall (id : Chars isIdChar) : List Char :=
  callText "ExtResource".toList ('"' :: (id.chars ++ ['"']))

def instanceAttribute (id : Chars isIdChar) : Attribute :=
  .call (word "instance") (word "ExtResource") ('"' :: (id.chars ++ ['"']))
    (by simp [id.not_mem (c := ')') rfl]) (by simp [id.not_mem (c := '\n') rfl])

def ExtEntry.attributes (e : ExtEntry) : List Attribute :=
  optionalAttribute (word "type") (e.type.map Run.toChars) ++
    (optionalAttribute (word "path") (e.path.map Run.toChars) ++
      optionalAttribute (word "id") (e.id.map Run.toChars))

def NodeEntry.attributes (n : NodeEntry) : List Attribute :=
  .quoted (word "name") n.name.toChars ::
    (optionalAttribute (word "type") (n.type.map Run.toChars) ++
      (optionalAttribute (word "parent") n.parent ++ (n.instance.map instanceAttribute).toList))

def ConnectionEntry.attributes (c : ConnectionEntry) : List Attribute :=
  [.quoted (word "signal") c.signal, .quoted (word "from") c.source,
   .quoted (word "to") c.target, .quoted (word "method") c.method]

abbrev Block := Run isWord × List Attribute

def Block.header (b : Block) : Header where
  kind := b.1.text
  attrs := .ofList (b.2.map Attribute.entry)

def sceneKinds : List String := ["ext_resource", "sub_resource", "node", "connection"]

-- Lines that hold some headers in their order, each with its attributes in any order, and between
-- them lines that say nothing of a scene.
inductive Written : List Block → List (List Char) → Prop
  | nil : Written [] []
  | header {bs ls} (kind : Run isWord) {as as' : List Attribute} (h : as'.Perm as)
      (w : Written bs ls) : Written ((kind, as) :: bs) (headerText kind as' :: ls)
  | other {bs ls} (l : List Char) (one_line : '\n' ∉ l)
      (silent : ∀ h, Header.ofLine? l = some h → h.kind ∉ sceneKinds)
      (w : Written bs ls) : Written bs (l :: ls)

namespace Written

variable {bs : List Block} {ls : List (List Char)}

theorem one_line (w : Written bs ls) : ∀ l ∈ ls, '\n' ∉ l := by
  induction w
  case nil => simp
  case header hi => simpa [newline_not_mem_headerText] using hi
  case other one_line _ _ hi => simpa [one_line] using hi

theorem filter_kind (w : Written bs ls) (hd : ∀ b ∈ bs, (b.2.map (·.entry.1)).Nodup) {k : String}
    (hk : k ∈ sceneKinds) : (ls.filterMap Header.ofLine?).filter (·.kind == k) =
      (bs.map Block.header).filter (·.kind == k) := by
  induction w
  case nil => rfl
  case header bs ls kind as as' h w hi =>
    have hn : ((as.map Attribute.entry).map (·.1)).Nodup := by
      simpa [Function.comp_def] using hd _ List.mem_cons_self
    have ha := SortedMap.ofList_eq_of_perm (h.symm.map Attribute.entry) hn
    rw [filterMap_cons_eq, ofLine?_headerText, ← ha, List.filter_append,
      hi fun b hb => hd b (List.mem_cons_of_mem _ hb), List.map_cons,
      ← List.singleton_append (l := List.map _ _), List.filter_append]
    rfl
  case other l _ silent w hi =>
    rw [filterMap_cons_eq, List.filter_append, hi hd]
    cases ho : Header.ofLine? l
    case none => rfl
    case some h =>
      have hne : h.kind ≠ k := fun he => silent h ho (he ▸ hk)
      simp [hne]

end Written

theorem Scene.ofHeaders_congr {hs hs' : List Header}
    (h : ∀ k ∈ sceneKinds, hs.filter (·.kind == k) = hs'.filter (·.kind == k)) :
    ofHeaders hs = ofHeaders hs' := by
  have he := h "ext_resource" (by decide)
  have hs := h "sub_resource" (by decide)
  have hn := h "node" (by decide)
  have hc := h "connection" (by decide)
  simp only [ofHeaders, he, hs, hn, hc]

theorem Scene.ofText_of_written {bs : List Block} {ls : List (List Char)} (w : Written bs ls)
    (hd : ∀ b ∈ bs, (b.2.map (·.entry.1)).Nodup) :
    Scene.ofText (['\n'].intercalate ls) = .ofHeaders (bs.map Block.header) := by
  rw [ofText, Header.all_intercalate w.one_line]
  exact ofHeaders_congr fun k hk => w.filter_kind hd hk

section

variable {key : Run isWord} {t : Option (Chars isQuotable)}

theorem map_entry_optionalAttribute :
    (optionalAttribute key t).map Attribute.entry = (t.map fun t => (key.text, t.text)).toList := by
  cases t <;> simp [optionalAttribute]

end

@[simp]
theorem filter_text {r : Run isQuotable} :
    (some r.text).filter (!·.isEmpty) = some r.text := by
  simp [Option.filter]

theorem ExtResource.ofHeader_entry (e : ExtEntry) :
    ofHeader (Block.header (word "ext_resource", e.attributes)) =
      ⟨e.type.map Run.text, e.path.map Run.text, e.id.map Run.text⟩ := by
  obtain ⟨type, path, id⟩ := e
  cases type <;> cases path <;> cases id
  all_goals
    simp [ofHeader, Header.nonEmpty?, Header.get?, Block.header, ExtEntry.attributes,
      map_entry_optionalAttribute, SortedMap.get?_ofList, SortedMap.valuesOf_cons]

theorem entry_instanceAttribute {i : Chars isIdChar} :
    (instanceAttribute i).entry = ("instance", String.ofList (resourceCall i)) := by
  simp only [instanceAttribute, Attribute.entry_call, text_word, chars_word, resourceCall]

theorem SceneNode.ofHeader_entry {rs : List ExtResource} (n : NodeEntry) :
    ofHeader rs (Block.header (word "node", n.attributes)) =
      { name := n.name.text
        type := n.type.map Run.text
        parent := (n.parent.map Chars.text).getD ""
        «instance» := n.instance.map fun i =>
          resolveInstance rs (String.ofList (resourceCall i)) } := by
  obtain ⟨name, type, parent, inst⟩ := n
  cases type <;> cases parent <;> cases inst
  all_goals
    simp [ofHeader, Header.nonEmpty?, Header.get?, Block.header, NodeEntry.attributes,
      map_entry_optionalAttribute, entry_instanceAttribute, SortedMap.get?_ofList,
      SortedMap.valuesOf_cons]

theorem Connection.ofHeader?_entry (c : ConnectionEntry) :
    ofHeader? (Block.header (word "connection", c.attributes)) =
      some ⟨c.signal.text, c.source.text, c.target.text, c.method.text⟩ := by
  simp [ofHeader?, Header.get?, Block.header, ConnectionEntry.attributes, SortedMap.get?_ofList,
    SortedMap.valuesOf_cons]

theorem nonEmpty?_type {kind : Run isWord} (t : Run isQuotable) :
    (Block.header (kind, [.quoted (word "type") t.toChars])).nonEmpty? "type" = some t.text := by
  simp [Header.nonEmpty?, Header.get?, Block.header, SortedMap.get?_ofList, SortedMap.valuesOf_cons]

-- The first resource with an id is the only one, and so it is also the last.
theorem pathOfId_eq_find? {rs : List ExtResource} (h : (rs.filterMap (·.id)).Nodup) {id : String} :
    pathOfId rs id = (rs.find? (·.id = some id)).bind (·.path) := by
  induction rs
  case nil => rfl
  case cons r rs hi =>
    by_cases hr : r.id = some id
    case pos =>
      have hn : id ∉ rs.filterMap (·.id) := by
        rw [List.filterMap_cons_some hr] at h
        exact (List.nodup_cons.mp h).left
      have hf : rs.filter (fun r => r.id == some id && r.path.isSome) = [] := by
        simp only [List.filter_eq_nil_iff, Bool.and_eq_true, beq_iff_eq, not_and]
        intro q hq he
        exact absurd (List.mem_filterMap.mpr ⟨q, hq, he⟩) hn
      rw [pathOfId, List.filter_cons, hf]
      cases hp : r.path <;> simp [hr, hp]
    case neg =>
      have ht : (rs.filterMap (·.id)).Nodup := h.sublist ((List.sublist_cons_self r rs).filterMap _)
      rw [List.find?_cons_of_neg (by simpa using hr), ← hi ht]
      simp [pathOfId, hr]

theorem extResourceId?_resourceCall {i : Chars isIdChar} :
    extResourceId? (String.ofList (resourceCall i)) =
      if i.chars = [] then none else some i.text := by
  by_cases hn : i.chars = []
  case pos =>
    rw [if_pos hn, resourceCall, hn]
    rfl
  case neg =>
    let r : Run isReferenceChar :=
      { chars := i.chars
        ne_nil := hn
        all := fun c hc => by
          have hi := i.all c hc
          simp only [isIdChar, Bool.and_eq_true] at hi
          simp [isReferenceChar, hi] }
    have hc : CallsFor (resourceCall i) r.text := callsFor_referenceText
    rw [if_neg hn, extResourceId?_of_callsFor hc]
    rfl

namespace SceneSource

def blocks (s : SceneSource) : List Block :=
  s.extResources.map (fun e => (word "ext_resource", e.attributes)) ++
    (s.subResources.map (fun t => (word "sub_resource", [.quoted (word "type") t.toChars])) ++
      (s.nodes.map (fun n => (word "node", n.attributes)) ++
        s.connections.map (fun c => (word "connection", c.attributes))))

def pathOf? (s : SceneSource) (id : String) : Option String :=
  (s.extResources.find? fun e => e.id.map Run.text = some id).bind fun e => e.path.map Run.text

def scene (s : SceneSource) : Scene where
  root := s.nodes.head?.map fun n => ⟨n.name.text, (n.type.map Run.text).getD "?"⟩
  nodes := s.nodes.map fun n =>
    { name := n.name.text
      type := n.type.map Run.text
      parent := (n.parent.map Chars.text).getD ""
      «instance» := n.instance.map fun i =>
        (s.pathOf? i.text).getD (String.ofList (resourceCall i)) }
  extResources := s.extResources.map fun e =>
    ⟨e.type.map Run.text, e.path.map Run.text, e.id.map Run.text⟩
  subResources := s.subResources.map Run.text
  connections := s.connections.map fun c =>
    ⟨c.signal.text, c.source.text, c.target.text, c.method.text⟩
  script := (s.extResources.find? fun e =>
    e.type.any fun t => t.text = "Script" ∨ t.text = "GDScript").bind fun e => e.path.map Run.text

section

variable {s : SceneSource}

theorem nodup_keys : ∀ b ∈ s.blocks, (b.2.map (·.entry.1)).Nodup := by
  have he (as : List Attribute) : as.map (·.entry.1) = (as.map Attribute.entry).map (·.1) := by simp
  simp only [blocks, List.mem_append, List.mem_map, he]
  rintro _ (⟨e, _, rfl⟩ | ⟨t, _, rfl⟩ | ⟨n, _, rfl⟩ | ⟨c, _, rfl⟩)
  · obtain ⟨type, path, id⟩ := e
    cases type <;> cases path <;> cases id <;>
      simp [ExtEntry.attributes, map_entry_optionalAttribute]
  · simp
  · obtain ⟨name, type, parent, inst⟩ := n
    cases type <;> cases parent <;> cases inst <;>
      simp [NodeEntry.attributes, map_entry_optionalAttribute, entry_instanceAttribute]
  · simp [ConnectionEntry.attributes]

theorem resolveInstance_eq {i : Chars isIdChar} :
    resolveInstance s.scene.extResources (String.ofList (resourceCall i)) =
      (s.pathOf? i.text).getD (String.ofList (resourceCall i)) := by
  have hd : (s.scene.extResources.filterMap (·.id)).Nodup := by
    simpa [scene, List.filterMap_map, Function.comp_def] using s.distinct_ids
  have hp {id : String} : pathOfId s.scene.extResources id = s.pathOf? id := by
    rw [pathOfId_eq_find? hd]
    simp [scene, pathOf?, List.find?_map, Option.bind_map]
  rw [resolveInstance, extResourceId?_resourceCall]
  split
  case isTrue hi =>
    -- No resource has an empty id.
    have hn : s.pathOf? i.text = none := by
      rw [pathOf?, List.find?_eq_none.mpr, Option.bind_none]
      simp [Chars.text, hi]
    simp [hn]
  case isFalse => rw [Option.bind_some, hp]

theorem filter_blocks (k : String) : (s.blocks.map Block.header).filter (·.kind == k) =
    (if "ext_resource" = k then
      s.extResources.map fun e => Block.header (word "ext_resource", e.attributes) else []) ++
    ((if "sub_resource" = k then s.subResources.map fun t =>
      Block.header (word "sub_resource", [.quoted (word "type") t.toChars]) else []) ++
    ((if "node" = k then s.nodes.map fun n => Block.header (word "node", n.attributes) else []) ++
    (if "connection" = k then
      s.connections.map fun c => Block.header (word "connection", c.attributes) else []))) := by
  have hf {α : Type} (xs : List α) (kind : Run isWord) (as : α → List Attribute) :
      ((xs.map fun x => (kind, as x)).map Block.header).filter (·.kind == k) =
        if kind.text = k then xs.map fun x => Block.header (kind, as x) else [] := by
    by_cases h : kind.text = k <;> simp [List.filter_map, Function.comp_def, Block.header, h]
  simp only [blocks, List.map_append, List.filter_append, hf, text_word]

theorem extResources_blocks :
    ((s.blocks.map Block.header).filter (·.kind == "ext_resource")).map ExtResource.ofHeader =
      s.scene.extResources := by
  rw [filter_blocks]
  simp [ExtResource.ofHeader_entry, scene]

theorem subResources_blocks :
    ((s.blocks.map Block.header).filter (·.kind == "sub_resource")).filterMap
      (·.nonEmpty? "type") = s.scene.subResources := by
  rw [filter_blocks]
  simp [List.filterMap_map, nonEmpty?_type, scene]

theorem nodes_blocks :
    ((s.blocks.map Block.header).filter (·.kind == "node")).map
      (SceneNode.ofHeader s.scene.extResources) = s.scene.nodes := by
  have hf : (s.blocks.map Block.header).filter (·.kind == "node") =
      s.nodes.map fun n => Block.header (word "node", n.attributes) := by simp [filter_blocks]
  rw [hf, List.map_map]
  apply List.map_congr_left
  intro n _
  simp only [Function.comp_apply, SceneNode.ofHeader_entry, resolveInstance_eq]

theorem connections_blocks :
    ((s.blocks.map Block.header).filter (·.kind == "connection")).filterMap
      Connection.ofHeader? = s.scene.connections := by
  rw [filter_blocks]
  simp [List.filterMap_map, Connection.ofHeader?_entry, scene]

theorem root_scene : s.scene.nodes.head?.map SceneRoot.ofNode = s.scene.root := by
  simp [scene, SceneRoot.ofNode, unknown, Function.comp_def]

theorem script_scene :
    (s.scene.extResources.find? (·.isScript)).bind (·.path) = s.scene.script := by
  have ht (t : Option (Run isQuotable)) : (t.map Run.text).any scriptTypes.contains =
      t.any fun t => t.text = "Script" ∨ t.text = "GDScript" := by
    cases t <;> simp [scriptTypes]
  simp [scene, List.find?_map, Option.bind_map, ExtResource.isScript, ht]

theorem ofHeaders_blocks : Scene.ofHeaders (s.blocks.map Block.header) = s.scene := by
  simp only [Scene.ofHeaders, extResources_blocks, subResources_blocks, nodes_blocks,
    connections_blocks, root_scene, script_scene]
  rfl

end

end SceneSource

-- Reading a scene gives back what was written, whatever stands between the headers.
theorem ofText_written (s : SceneSource) {ls : List (List Char)} (w : Written s.blocks ls) :
    Scene.ofText (['\n'].intercalate ls) = s.scene := by
  rw [Scene.ofText_of_written w SceneSource.nodup_keys, SceneSource.ofHeaders_blocks]

def sampleSource : SceneSource where
  extResources :=
    [{ type := some (.ofAll "Script".toList (by decide) (by decide))
       path := some (.ofAll "res://a.gd".toList (by decide) (by decide))
       id := some (.ofAll "1".toList (by decide) (by decide)) }]
  subResources := []
  nodes :=
    [{ name := .ofAll "A \"b\"] c=d".toList (by decide) (by decide)
       type := none
       parent := none
       «instance» := some (Run.ofAll "2".toList (by decide) (by decide)).toChars }]
  connections := []
  distinct_ids := by decide

def sampleLines : List (List Char) :=
  ["[gd_scene format=3]".toList, [],
   "[ext_resource path=\"res://a.gd\" type=\"Script\" id=\"1\"]".toList,
   "[node name=\"A \\\"b\\\"] c=d\" instance=ExtResource(\"2\")]".toList,
   "script = ExtResource(\"1\")".toList]

theorem ofText_sample : Written sampleSource.blocks sampleLines ∧
    Scene.ofText (['\n'].intercalate sampleLines) = sampleSource.scene := by
  have hw : Written sampleSource.blocks sampleLines := by
    refine .other _ (by decide) ?_ (.other _ (by decide) ?_ ?_)
    · intro h hh
      have hk : some "gd_scene" = some h.kind := congrArg (Option.map Header.kind) hh
      rw [← Option.some.inj hk]
      decide
    · nofun
    · refine .header (word "ext_resource") (.swap _ _ _) (.header (word "node") (.refl _) ?_)
      exact .other _ (by decide) nofun .nil
  exact ⟨hw, ofText_written sampleSource hw⟩

end GodotAtlas.Format
