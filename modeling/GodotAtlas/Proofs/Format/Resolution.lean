import GodotAtlas.Proofs.Format.SceneText
import GodotAtlas.Proofs.Format.ProjectSettings

namespace GodotAtlas.Format

open Text

def scriptLine (id : Run isReferenceChar) : List Char :=
  "script = ".toList ++ referenceText id

-- The equation is stated by hand, because the one that is generated would evaluate the literal.
theorem scriptLine_eq {id : Run isReferenceChar} :
    scriptLine id = "script = ".toList ++ referenceText id :=
  rfl

def instanceLine (id : Run isReferenceChar) : List Char :=
  "[node name=\"n\" instance=".toList ++ (referenceText id ++ [']'])

def declaredIds (hs : List Header) : List String :=
  hs.filterMap fun h =>
    if h.kind = "ext_resource" ∧ (h.nonEmpty? "path").isSome then h.get? "id" else none

section

variable {hs : List Header} {id : String}

theorem length_declaredPaths : (declaredPaths hs id).length = (declaredIds hs).count id := by
  induction hs
  case nil => rfl
  case cons h hs hi =>
    rw [declaredPaths, declaredIds, filterMap_cons_eq, filterMap_cons_eq, ← declaredPaths,
      ← declaredIds, List.length_append, List.count_append, hi]
    congr 1
    by_cases hg : h.get? "id" = some id
    case pos =>
      by_cases hk : h.kind = "ext_resource" <;> cases hp : h.nonEmpty? "path" <;> simp [hk, hg]
    case neg =>
      have hc : id ∉ (if h.kind = "ext_resource" ∧ (h.nonEmpty? "path").isSome then
        h.get? "id" else none).toList := by simp [hg]
      simp [hg, List.count_eq_zero.mpr hc]

theorem head?_declaredPaths (h : (declaredIds hs).Nodup) :
    (declaredPaths hs id).head? = (declaredPaths hs id).getLast? := by
  have hl : (declaredPaths hs id).length ≤ 1 :=
    length_declaredPaths.trans_le (List.nodup_iff_count_le_one.mp h id)
  match declaredPaths hs id, hl with
  | [], _ => rfl
  | [_], _ => rfl

end

-- If there are two quotes in an argument, then only white space in front of the first.
theorem NamesId.blank_of_mem {front rest : List Char} {id : String}
    (h : NamesId (front ++ '"' :: rest) id) (hr : '"' ∈ rest) : ∀ c ∈ front, isBlank c := by
  generalize he : front ++ '"' :: rest = argument at h
  obtain ⟨i, before, behind, opened, closed⟩ := h
  have hi : i.chars.count '"' = 0 := List.count_eq_zero.mpr (i.not_mem rfl)
  have hb : before.chars.count '"' = 0 := List.count_eq_zero.mpr (before.not_mem rfl)
  have hd : behind.chars.count '"' = 0 := List.count_eq_zero.mpr (behind.not_mem rfl)
  have hq (b : Bool) : (if b then ['"'] else []).count '"' = b.toNat := by cases b <;> rfl
  have hc := congrArg (List.count '"') he
  simp only [List.count_append, List.count_cons_self, hi, hb, hd, hq] at hc
  -- The two quotes are those around the id, so none is left for the front.
  have hp : 0 < rest.count '"' := List.count_pos_iff.mpr hr
  have hle := opened.toNat_le
  have hle' := closed.toNat_le
  have ho : opened = true := Bool.toNat_eq_one.mp (by omega)
  have hf : '"' ∉ front := List.count_eq_zero.mp (by omega)
  rw [ho, if_pos rfl, List.singleton_append] at he
  have hu := congrArg (until? '"') he
  rw [until?_append hf, until?_append (before.not_mem rfl)] at hu
  cases hu
  exact before.all

section

variable {front argument : List Char} {id : Run isReferenceChar}

theorem not_namesId_of_append {other : String} (hf : front ≠ [])
    (he : front ++ ("ExtResource(".toList ++ quotedId id) = "ExtResource(".toList ++ argument) :
    ¬NamesId argument other := by
  have ⟨between, hb⟩ : "ExtResource(".toList <+: front ++ "ExtResource(".toList :=
    List.prefix_of_prefix_length_le ⟨_, he.symm⟩ ⟨_, List.append_assoc _ _ _⟩ (by simp)
  have ha : between ++ quotedId id = argument := by
    rwa [← List.append_assoc, ← hb, List.append_assoc, List.append_right_inj] at he
  have hn : between ≠ [] := by
    rintro rfl
    simp [hf] at hb
  -- What stands in front of the quotes ends with the bracket that opens the inner call.
  have hm : '(' ∈ between := by
    apply List.mem_of_getLast?
    rw [← List.getLast?_append_of_ne_nil "ExtResource(".toList hn, hb]
    simp
  intro h
  rw [← ha, quotedId] at h
  exact absurd (h.blank_of_mem (by simp) '(' hm) (by decide)

-- Where a text ends with a call and no other could end before, that is the first one.
theorem firstCall_append (h : ')' ∉ front) : FirstCall (front ++ referenceText id) id.text := by
  refine ⟨front, _, [], by simp, callsFor_referenceText, fun front' _ rest other he hc => ?_⟩
  obtain ⟨argument, hn, rfl⟩ := hc
  by_contra hl
  have ⟨us, hf⟩ : front' <+: front :=
    List.prefix_of_prefix_length_le ⟨_, he.symm⟩ (List.prefix_append _ _) (by omega)
  have hu : us ≠ [] := by
    rintro rfl
    simp [← hf] at hl
  have hc : ')' ∉ us ++ ("ExtResource(".toList ++ quotedId id) := by
    have hus : ')' ∉ us := fun hm => h (hf ▸ List.mem_append_right _ hm)
    have hq : ')' ∉ quotedId id := not_mem_quotedId (by decide) rfl
    simp [hus, hq]
  have hr : us ++ ("ExtResource(".toList ++ quotedId id) ++ ')' :: [] =
      "ExtResource(".toList ++ argument ++ ')' :: rest := by
    rw [← hf, List.append_assoc, List.append_right_inj, referenceText_eq] at he
    simpa using he
  have ⟨ha, _, _⟩ := (List.append_cons_inj_of_notMem hc (by simp)).mp hr
  exact not_namesId_of_append hu ha hn

end

section

variable {cs line : List Char}

theorem trimStart_append_line (h : Stops isBlank line) : trimStart (cs ++ '\n' :: line) =
    if trimStart cs = [] then line else trimStart cs ++ '\n' :: line := by
  have hl : ('\n' :: line).dropWhile isBlank = line := dropWhile_of_stops h
  simp [trimStart, List.dropWhile_append, hl]

theorem skip?_trimStart_append_line {ls : List Char} (hn : '\n' ∉ ls) (hb : Stops isBlank line)
    (hs : skip? ls line = none) :
    skip? ls (trimStart (cs ++ '\n' :: line)) =
      (skip? ls (trimStart cs)).map (· ++ '\n' :: line) := by
  rw [trimStart_append_line hb]
  split
  case isTrue he =>
    cases ls
    case nil => cases hs
    case cons => rw [hs, he, skip?, Option.map_none]
  case isFalse => exact skip?_append_cons hn

end

def externalCall? (cs : List Char) : Option (String × List Char) :=
  (skip? "ExtResource(".toList cs).bind fun cs =>
    (until? ')' cs).map fun (t, r) => ("ExtResource(" ++ String.ofList t ++ ")", r)

theorem externalScript_eq : externalScript = anchored (setting? "script" externalCall?) := by
  funext before cs
  exact anchored_setting?

section

variable {before : Option Char} {cs : List Char} {id : Run isReferenceChar}
  {found : String × List Char}

theorem stops_scriptLine : Stops isBlank (scriptLine id) :=
  stops_cons.mpr (by decide)

theorem reads_scriptLine : Reads (setting? "script" externalCall?) (scriptLine id)
    (some (String.ofList (referenceText id))) := by
  intro rest
  have hu : until? ')' (quotedId id ++ ')' :: rest) = some (quotedId id, rest) :=
    until?_append (not_mem_quotedId (by decide) rfl)
  have hl : scriptLine id ++ rest =
      "script = ExtResource(".toList ++ (quotedId id ++ ')' :: rest) := by
    simp [scriptLine_eq, referenceText_eq]
  have hs : setting? "script" externalCall? (scriptLine id ++ rest) =
      (until? ')' (quotedId id ++ ')' :: rest)).map fun (t, r) =>
        ("ExtResource(" ++ String.ofList t ++ ")", r) := by
    rw [hl]
    rfl
  have ht : "ExtResource(" ++ String.ofList (quotedId id) ++ ")" =
      String.ofList (referenceText id) := by
    simp [referenceText_eq, ← String.toList_inj]
  rw [hs, hu]
  exact congrArg (fun v => some (v, rest)) ht

theorem setting?_scriptLine : setting? "script" externalCall? (scriptLine id) =
    some (String.ofList (referenceText id), []) := by
  rw [← List.append_nil (scriptLine id), reads_scriptLine]
  rfl

theorem extResourceId?_of_until? {front t r : List Char} (h : ')' ∉ front)
    (hu : until? ')' (front ++ referenceText id) = some (t, r)) :
    extResourceId? ("ExtResource(" ++ String.ofList t ++ ")") = some id.text := by
  have hc : ')' ∉ front ++ ("ExtResource(".toList ++ quotedId id) := by
    have hq : ')' ∉ quotedId id := not_mem_quotedId (by decide) rfl
    simp [h, hq]
  have he : front ++ referenceText id =
      front ++ ("ExtResource(".toList ++ quotedId id) ++ ')' :: [] := by
    simp [referenceText_eq]
  rw [he, until?_append hc] at hu
  cases hu
  have hf : FirstCall ("ExtResource(".toList ++ front ++ referenceText id) id.text :=
    firstCall_append (by simp [h])
  rw [extResourceId?_eq_some_iff, String.toList_append, String.toList_append, String.toList_ofList]
  simpa [referenceText_eq] using hf

theorem assigned?_append_line (h : assigned? externalCall? cs = none)
    (hf : assigned? externalCall? (cs ++ '\n' :: scriptLine id) = some found) :
    extResourceId? found.1 = some id.text := by
  rw [assigned?, skip?_trimStart_append_line (by decide) stops_scriptLine rfl] at hf
  obtain ⟨_, hd, hf⟩ := Option.bind_eq_some_iff.mp hf
  obtain ⟨ds, hs, rfl⟩ := Option.map_eq_some_iff.mp hd
  rw [externalCall?, skip?_trimStart_append_line (by decide) stops_scriptLine rfl] at hf
  obtain ⟨_, he, hf⟩ := Option.bind_eq_some_iff.mp hf
  obtain ⟨es, ht, rfl⟩ := Option.map_eq_some_iff.mp he
  obtain ⟨⟨t, r⟩, hu, rfl⟩ := Option.map_eq_some_iff.mp hf
  have hn : ')' ∉ es := by
    rw [assigned?, hs, Option.bind_some, externalCall?, ht, Option.bind_some,
      Option.map_eq_none_iff] at h
    exact until?_eq_none_iff.mp h
  have hl : es ++ '\n' :: scriptLine id = es ++ "\nscript = ".toList ++ referenceText id := by
    rw [List.append_assoc]
    rfl
  rw [hl] at hu
  exact extResourceId?_of_until? (by simp [hn]) hu

theorem externalScript_append_line (h : externalScript before cs = none)
    (hf : externalScript before (cs ++ '\n' :: scriptLine id) = some found) :
    extResourceId? found.1 = some id.text := by
  rw [externalScript_eq, anchored] at h hf
  split at hf
  case isTrue hl =>
    rw [if_pos hl] at h
    rw [trimStart_append_line stops_scriptLine] at hf
    split at hf
    case isTrue =>
      rw [setting?_scriptLine] at hf
      cases hf
      exact extResourceId?_referenceText
    case isFalse =>
      rw [setting?, skip?_append_cons (by decide)] at hf
      obtain ⟨_, hd, hf⟩ := Option.bind_eq_some_iff.mp hf
      obtain ⟨ds, hs, rfl⟩ := Option.map_eq_some_iff.mp hd
      rw [setting?, hs, Option.bind_some] at h
      exact assigned?_append_line h hf
  case isFalse => cases hf

end

theorem exists_find?_externalScript {text : List Char} (h : externalScript.find? text = none)
    (id : Run isReferenceChar) :
    ∃ value, externalScript.find? (text ++ '\n' :: scriptLine id) = some value ∧
      extResourceId? value = some id.text := by
  have hl : externalScript (some '\n') (scriptLine id) =
      some (String.ofList (referenceText id), []) := by
    rw [externalScript_eq, anchored_of_start (by rfl), trimStart_of_stops stops_scriptLine,
      setting?_scriptLine]
  have hn : externalScript.first none text = none := Option.map_eq_none_iff.mp h
  have ⟨found, hf, hv⟩ := Matcher.exists_first_append_line (m := externalScript)
    (P := fun found => extResourceId? found.1 = some id.text)
    (fun _ _ hc _ => externalScript_append_line hc) ⟨_, hl, extResourceId?_referenceText⟩ hn
  exact ⟨found.1, by rw [Matcher.find?, hf, Option.map_some], hv⟩

theorem newline_not_mem_scriptLine {id : Run isReferenceChar} : '\n' ∉ scriptLine id := by
  have hq : '\n' ∉ quotedId id := not_mem_quotedId (by decide) rfl
  simp [scriptLine_eq, referenceText_eq, hq]

theorem ofLine?_scriptLine {id : Run isReferenceChar} : Header.ofLine? (scriptLine id) = none := by
  have hc : scriptLine id = 's' :: ("cript = ".toList ++ referenceText id) := rfl
  rw [Header.ofLine?, hc, trim_cons (by decide)]
  rfl

theorem all_append_scriptLine {text : List Char} {id : Run isReferenceChar} :
    Header.all (text ++ '\n' :: scriptLine id) = Header.all text := by
  rw [Header.all_append, Header.all_line newline_not_mem_scriptLine, ofLine?_scriptLine,
    Option.toList_none, List.append_nil]

theorem script_append_scriptLine {text : List Char} (h : externalScript.find? text = none)
    (id : Run isReferenceChar) : (Resource.ofText (text ++ '\n' :: scriptLine id)).script =
      some (.external id.text (declaredPaths (Header.all text) id.text).head?) := by
  have ⟨value, hf, hv⟩ := exists_find?_externalScript h id
  simp only [Resource.ofText, Resource.scriptOfText?, hf, Option.bind_some, hv,
    all_append_scriptLine, declaredPath?_eq]

def instanceHeader (id : Run isReferenceChar) : Header where
  kind := "node"
  attrs := .ofList [("name", "n"), ("instance", String.ofList (referenceText id))]

theorem instanceLine_eq {id : Run isReferenceChar} : instanceLine id =
    headerText (word "node")
      [.quoted (word "name") ⟨['n'], by simp [isQuotable]⟩,
       .call (word "instance") (word "ExtResource") (quotedId id)
         (not_mem_quotedId (by decide) rfl) (not_mem_quotedId (by decide) rfl)] := by
  rw [headerText, spaced, List.flatMap_cons, List.flatMap_singleton]
  rfl

theorem all_append_instanceLine {text : List Char} {id : Run isReferenceChar} :
    Header.all (text ++ '\n' :: instanceLine id) = Header.all text ++ [instanceHeader id] := by
  rw [Header.all_append, instanceLine_eq, Header.all_line newline_not_mem_headerText,
    ofLine?_headerText, List.map_cons, List.map_singleton, Attribute.entry_quoted,
    Attribute.entry_call, text_word, text_word, text_word]
  rfl

theorem ofHeader_instanceHeader {rs : List ExtResource} {id : Run isReferenceChar} :
    SceneNode.ofHeader rs (instanceHeader id) =
      ⟨"n", none, "", some (resolveInstance rs (String.ofList (referenceText id)))⟩ := by
  simp [SceneNode.ofHeader, instanceHeader, Header.nonEmpty?, Header.get?, Option.filter,
    SortedMap.get?_ofList, SortedMap.valuesOf_cons]

theorem nodes_append_instanceLine (text : List Char) (id : Run isReferenceChar) :
    (Scene.ofText (text ++ '\n' :: instanceLine id)).nodes.getLast? =
      some ⟨"n", none, "", some ((declaredPaths (Header.all text) id.text).getLast?.getD
        (String.ofList (referenceText id)))⟩ := by
  have hc : FirstCall (String.ofList (referenceText id)).toList id.text :=
    extResourceId?_eq_some_iff.mp extResourceId?_referenceText
  have hd : declaredPaths (Header.all text ++ [instanceHeader id]) id.text =
      declaredPaths (Header.all text) id.text := by
    simp [declaredPaths, instanceHeader]
  have hn : (Header.all text ++ [instanceHeader id]).filter (·.kind == "node") =
      (Header.all text).filter (·.kind == "node") ++ [instanceHeader id] :=
    List.filter_append _ _
  rw [Scene.ofText, all_append_instanceLine, Scene.nodes_ofHeaders, hn, List.map_append,
    List.map_singleton, List.getLast?_concat, ofHeader_instanceHeader,
    resolveInstance_of_firstCall hc, hd]

-- The script of a resource and the instance of a node that refer to the same id. Of the paths that
-- the headers give to the id, the resource takes the first and the scene the last.
theorem ofText_resolves_alike {text : List Char} (h : externalScript.find? text = none)
    (id : Run isReferenceChar) : ∃ first last : Option String,
    (Resource.ofText (text ++ '\n' :: scriptLine id)).script = some (.external id.text first) ∧
    (Scene.ofText (text ++ '\n' :: instanceLine id)).nodes.getLast? =
      some ⟨"n", none, "", some (last.getD (String.ofList (referenceText id)))⟩ ∧
    first = (declaredPaths (Header.all text) id.text).head? ∧
    last = (declaredPaths (Header.all text) id.text).getLast? ∧
    (first = none ↔ last = none) ∧ ((declaredIds (Header.all text)).Nodup → first = last) := by
  refine ⟨_, _, script_append_scriptLine h id, nodes_append_instanceLine text id, rfl, rfl,
    ?unresolved, head?_declaredPaths⟩
  rw [List.head?_eq_none_iff, List.getLast?_eq_none_iff]

-- A text with two headers for one id, of which one has no path, and a call that is left open.
def openText : List Char :=
  ['\n'].intercalate
    ["[ext_resource path=\"\" id=\"1\"]".toList,
     "[ext_resource path=\"res://hero.tscn\" id=\"1\"]".toList,
     "script = ExtResource(".toList]

def heroId : Run isReferenceChar :=
  .ofAll ['1'] (by decide) (by decide)

theorem ofText_resolves_alike_openText :
    externalScript.find? openText = none ∧ (declaredIds (Header.all openText)).Nodup ∧
    (Resource.ofText (openText ++ '\n' :: scriptLine heroId)).script =
      some (.external "1" (some "res://hero.tscn")) ∧
    (Scene.ofText (openText ++ '\n' :: instanceLine heroId)).nodes.getLast? =
      some ⟨"n", none, "", some "res://hero.tscn"⟩ := by
  have hn : externalScript.find? openText = none := by decide +kernel
  have hd : (declaredIds (Header.all openText)).Nodup := by decide +kernel
  have hp : (declaredPaths (Header.all openText) heroId.text).head? = some "res://hero.tscn" := by
    decide +kernel
  obtain ⟨first, last, hr, hs, hf, _, _, he⟩ := ofText_resolves_alike hn heroId
  rw [← he hd, hf, hp] at hs
  rw [hf, hp] at hr
  exact ⟨hn, hd, hr, hs⟩

end GodotAtlas.Format
