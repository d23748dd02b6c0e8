import GodotAtlas.Proofs.Format.Assignments
import GodotAtlas.Proofs.Format.Resolution

namespace GodotAtlas.Format

open Text

def isLocationChar (c : Char) : Bool :=
  c != '"' && c != '\\' && c != '=' && c != '\n'

structure UsedResource where
  type : Run isWord
  path : Run isLocationChar
  id : Run isWord

structure ResourceSource where
  type : Run isWord
  className : Option (Run isWord)
  used : List UsedResource
  script : Option (Run isWord)

theorem isQuotable_of_isWord {c : Char} (h : isWord c) : isQuotable c := by
  have hb : c ≠ '\\' := by rintro rfl; cases h
  have hn : c ≠ '\n' := by rintro rfl; cases h
  simp [isQuotable, hb, hn]

theorem isReferenceChar_of_isWord {c : Char} (h : isWord c) : isReferenceChar c := by
  have hq : c ≠ '"' := by rintro rfl; cases h
  have hp : c ≠ ')' := by rintro rfl; cases h
  exact isReferenceChar_iff.mpr ⟨hq, hp, isBlank_of_isWord h⟩

theorem isQuotable_of_isLocationChar {c : Char} (h : isLocationChar c) : isQuotable c := by
  simp only [isLocationChar, Bool.and_eq_true, bne_iff_ne] at h
  simp [isQuotable, h]

def wordReference (id : Run isWord) : Run isReferenceChar :=
  id.mono fun _ => isReferenceChar_of_isWord

def quotableWord (w : Run isWord) : Run isQuotable :=
  w.mono fun _ => isQuotable_of_isWord

def UsedResource.entry (u : UsedResource) : ExtEntry where
  type := some (quotableWord u.type)
  path := some (u.path.mono fun _ => isQuotable_of_isLocationChar)
  id := some (quotableWord u.id)

def formatAttribute : Attribute where
  key := word "format"
  value := ['3']
  starts := ⟨_, _, rfl, by decide⟩
  no_newline := by decide
  reads rest h := by
    cases rest
    case nil => rfl
    case cons c rest =>
      have hc : c = ' ' := by simpa using h
      rw [hc]
      rfl

def UsedResource.line (u : UsedResource) : List Char :=
  headerText extResourceWord u.entry.attributes

-- A header of a used resource, with its attributes in some order.
def Declares (u : UsedResource) (l : List Char) : Prop :=
  ∃ as, as.Perm u.entry.attributes ∧ l = headerText extResourceWord as

namespace ResourceSource

variable (s : ResourceSource)

def declaredClass (c : Run isWord) : Attribute :=
  .quoted (word "script_class") (quotableWord c).toChars

def declaredType : Attribute :=
  .quoted typeWord (quotableWord s.type).toChars

def firstAttributes : List Attribute :=
  s.declaredType :: ((s.className.map declaredClass).toList ++ [formatAttribute])

def firstLine : List Char :=
  headerText (word "gd_resource") s.firstAttributes

def scriptLines : List (List Char) :=
  (s.script.map fun id => scriptLine (wordReference id)).toList

-- The lines of a resource file. Behind the first one empty lines may stand anywhere.
inductive Printed : List (List Char) → Prop
  | intro {us ls} (used : List.Forall₂ Declares s.used us)
      (content : ls.filter (!·.isEmpty) = us ++ headerLine "resource" :: s.scriptLines) :
      Printed (s.firstLine :: ls)

def resource : Resource where
  type := some s.type.text
  className := s.className.map Run.text
  script := s.script.map fun id =>
    .external id.text ((s.used.find? (·.id.text = id.text)).map (·.path.text))

end ResourceSource

theorem Declares.head_eq {u : UsedResource} {l : List Char} (h : Declares u l) :
    ∃ cs, l = '[' :: cs := by
  obtain ⟨as, _, rfl⟩ := h
  exact ⟨_, rfl⟩

theorem forall_mem_of_declares {p : List Char → Prop} (hp : ∀ u l, Declares u l → p l)
    {used : List UsedResource} {ls : List (List Char)} (h : List.Forall₂ Declares used ls) :
    ∀ l ∈ ls, p l := by
  induction h
  case nil => simp
  case cons u l _ _ hd _ hi => exact List.forall_mem_cons.mpr ⟨hp u l hd, hi⟩

theorem Declares.newline_not_mem {u : UsedResource} {l : List Char} (h : Declares u l) :
    '\n' ∉ l := by
  obtain ⟨as, _, rfl⟩ := h
  exact newline_not_mem_headerText

theorem assigned_quoted {key : Run isWord} {t : Chars isQuotable} (hk : key.chars ∈ otherKeys)
    (hq : '"' ∉ t.chars) (he : '=' ∉ t.chars) :
    (Attribute.quoted key t).key.chars ∈ otherKeys ∧ '=' ∉ (Attribute.quoted key t).value := by
  refine ⟨hk, ?_⟩
  simp [Attribute.quoted, quotedText, escaped_of_not_mem hq, he]

theorem Declares.assigns {u : UsedResource} {l : List Char} (h : Declares u l) :
    Assigns otherKeys l := by
  obtain ⟨as, hp, rfl⟩ := h
  apply Assigns.headerText
  have ha : ∀ a ∈ u.entry.attributes, a.key.chars ∈ otherKeys ∧ '=' ∉ a.value := by
    simp only [ExtEntry.attributes, UsedResource.entry, optionalAttribute, Option.map_some,
      Option.toList_some, List.singleton_append, List.forall_mem_cons]
    refine ⟨assigned_quoted (by decide) ?_ ?_, assigned_quoted (by decide) ?_ ?_,
      assigned_quoted (by decide) ?_ ?_, by simp⟩
    · exact u.type.not_mem rfl
    · exact u.type.not_mem rfl
    · exact u.path.not_mem rfl
    · exact u.path.not_mem rfl
    · exact u.id.not_mem rfl
    · exact u.id.not_mem rfl
  exact fun a hm => ha a (hp.mem_iff.mp hm)

theorem assigns_scriptLine {id : Run isReferenceChar} (h : '=' ∉ id.chars) :
    Assigns otherKeys (scriptLine id) := by
  have hl : scriptLine id = "script".toList ++ [' '] ++ '=' :: ' ' :: referenceText id := by
    simp [scriptLine_eq]
  have hr : '=' ∉ ' ' :: referenceText id := by
    simp [referenceText_eq, quotedId, h]
  rw [hl]
  exact Assigns.setting (by decide) (by decide) ⟨[' '], by simp [isBlank]⟩ hr

def UsedResource.header (u : UsedResource) : Header :=
  Block.header (extResourceWord, u.entry.attributes)

theorem Declares.ofLine?_eq {u : UsedResource} {l : List Char} (h : Declares u l) :
    Header.ofLine? l = some u.header := by
  obtain ⟨as, hp, rfl⟩ := h
  have hn : (as.map Attribute.entry).map (·.1) |>.Nodup := by
    have hu : ((u.entry.attributes.map Attribute.entry).map (·.1)).Nodup := by
      simp [ExtEntry.attributes, UsedResource.entry, map_entry_optionalAttribute]
    exact ((hp.map Attribute.entry).map (·.1)).nodup_iff.mpr hu
  rw [ofLine?_headerText, SortedMap.ofList_eq_of_perm (hp.map Attribute.entry) hn]
  rfl

theorem filterMap_ofLine? {us : List UsedResource} {ls : List (List Char)}
    (h : List.Forall₂ Declares us ls) :
    ls.filterMap Header.ofLine? = us.map UsedResource.header := by
  induction h
  case nil => rfl
  case cons hd _ hi => rw [List.filterMap_cons_some hd.ofLine?_eq, hi, List.map_cons]

theorem declaredPaths_used (us : List UsedResource) (id : Run isWord) :
    (declaredPaths (us.map UsedResource.header) id.text).head? =
      (us.find? (·.id.text = id.text)).map (·.path.text) := by
  induction us
  case nil => rfl
  case cons u us hi =>
    have he := ExtResource.ofHeader_entry u.entry
    have hp : u.header.nonEmpty? "path" = some u.path.text := congrArg ExtResource.path he
    have hd : u.header.nonEmpty? "id" = some u.id.text := congrArg ExtResource.id he
    have hg : u.header.get? "id" = some u.id.text := (Option.filter_eq_some_iff.mp hd).left
    have hk : u.header.kind = "ext_resource" := by simp [UsedResource.header, Block.header]
    rw [declaredPaths] at hi ⊢
    by_cases hu : u.id.text = id.text
    case pos => simp [hk, hg, hu, hp]
    case neg => simpa [hk, hg, hu] using hi

namespace ResourceSource

variable {s : ResourceSource} {ls : List (List Char)}

namespace Printed

theorem forall_mem {p : List Char → Prop} (h : Printed s ls) (header : p s.firstLine)
    (empty : p []) (used : ∀ u l, Declares u l → p l) (closing : p (headerLine "resource"))
    (script : ∀ id, s.script = some id → p (scriptLine (wordReference id))) : ∀ l ∈ ls, p l := by
  obtain ⟨hu, hc⟩ := h
  refine List.forall_mem_cons.mpr ⟨header, fun l hl => ?_⟩
  cases he : l.isEmpty
  case true => rwa [List.isEmpty_iff.mp he]
  case false =>
    have hm := hc ▸ List.mem_filter.mpr ⟨hl, by simp [he]⟩
    rcases List.mem_append.mp hm with hm | hm
    case inl => exact forall_mem_of_declares used hu l hm
    case inr =>
      rcases List.mem_cons.mp hm with rfl | hm
      case inl => exact closing
      case inr =>
        simp only [scriptLines, Option.mem_toList, Option.map_eq_some_iff] at hm
        obtain ⟨id, hi, rfl⟩ := hm
        exact script id hi

theorem exists_append (h : Printed s ls) : ∃ tail, ['\n'].intercalate ls = s.firstLine ++ tail := by
  obtain @⟨us, ls, _, _⟩ := h
  cases ls
  case nil => exact ⟨[], by simp⟩
  case cons l ls => exact ⟨_, by rw [List.intercalate_cons_cons, List.append_assoc]⟩

theorem filterMap_eq {α : Type} {f : List Char → Option α} (h : Printed s ls) (hn : f [] = none) :
    ∃ us, List.Forall₂ Declares s.used us ∧ ls.filterMap f = (f s.firstLine).toList ++
      (us.filterMap f ++ ((f (headerLine "resource")).toList ++ s.scriptLines.filterMap f)) := by
  obtain @⟨us, ls, hu, hc⟩ := h
  have hf : ls.filterMap f = (ls.filter (!·.isEmpty)).filterMap f := by
    rw [List.filterMap_filter]
    congr 1
    funext l
    cases l <;> simp [hn]
  refine ⟨us, hu, ?_⟩
  rw [filterMap_cons_eq, hf, hc, List.filterMap_append, filterMap_cons_eq]

end Printed

theorem firstLine_eq (s : ResourceSource) : ∃ rest, s.firstLine =
    "[gd_resource type=".toList ++ (quotedText s.type.chars ++ rest) := by
  refine ⟨spaced ((s.className.map declaredClass).toList ++ [formatAttribute]) ++ [']'], ?_⟩
  simp [firstLine, firstAttributes, headerText, spaced, declaredType, Attribute.written,
    Attribute.quoted, quotableWord, Run.mono, Run.toChars]

theorem find?_resourceType (s : ResourceSource) (tail : List Char) :
    resourceType.find? (s.firstLine ++ tail) = some s.type.text := by
  have ⟨rest, he⟩ := s.firstLine_eq
  have hq : '"' ∉ s.type.chars := s.type.not_mem rfl
  let value := "ype=\"".toList ++ (s.type.chars ++ '"' :: (rest ++ tail))
  have hl : s.firstLine ++ tail = "[gd_resource".toList ++ ' ' :: 't' :: value := by
    rw [he, quotedText, escaped_of_not_mem hq]
    simp [value]
  have hs : (skip? "type=\"".toList ('t' :: value)).bind (until? '"') =
      some (s.type.chars, rest ++ tail) := by
    have hv : 't' :: value = "type=\"".toList ++ (s.type.chars ++ '"' :: (rest ++ tail)) := rfl
    rw [hv, skip?_append, Option.bind_some, until?_append hq]
  have ht : typeAttribute (some ' ') ('t' :: value) = some (s.type.text, rest ++ tail) := by
    rw [typeAttribute, if_pos (by rfl), hs]
    rfl
  have hm : resourceType none (s.firstLine ++ tail) = some (s.type.text, rest ++ tail) := by
    rw [hl, resourceType, skip?_append, Option.bind_some, if_pos (by rfl), typeAttribute]
    exact ht
  rw [Matcher.find?, Matcher.first_of_some hm, Option.map_some]

theorem assigned_declaredType (s : ResourceSource) :
    s.declaredType.key.chars ∈ otherKeys ∧ '=' ∉ s.declaredType.value :=
  assigned_quoted (by decide) (s.type.not_mem rfl) (s.type.not_mem rfl)

theorem assigns_firstLine (h : s.className = none) : Assigns otherKeys s.firstLine := by
  rw [firstLine, firstAttributes, h]
  exact Assigns.headerText (List.forall_mem_cons.mpr ⟨s.assigned_declaredType, by decide⟩)

theorem Printed.assigns (h : Printed s ls) (hc : s.className = none) :
    Assigns otherKeys (['\n'].intercalate ls) := by
  apply Assigns.intercalate
  apply h.forall_mem (p := Assigns otherKeys)
  case header => exact assigns_firstLine hc
  case empty => exact Assigns.of_not_mem (by simp)
  case used => exact fun _ _ => Declares.assigns
  case closing => exact Assigns.of_not_mem (by decide)
  case script => exact fun id _ => assigns_scriptLine (id.not_mem rfl)

theorem find?_scriptClass_of_printed (h : Printed s ls) :
    scriptClass.find? (['\n'].intercalate ls) = s.className.map Run.text := by
  cases hc : s.className
  case none => exact find?_scriptClass_eq_none (h.assigns hc)
  case some c =>
    obtain ⟨tail, ht⟩ := h.exists_append
    let front := "[gd_resource".toList ++ (spaced [s.declaredType] ++ [' '])
    have he : ['\n'].intercalate ls = front ++ (classKey ++ '=' :: (quotedText c.chars ++
        (spaced [formatAttribute] ++ [']'] ++ tail))) := by
      have hk : (declaredClass c).written = classKey ++ '=' :: quotedText c.chars := rfl
      simp [ht, firstLine, firstAttributes, hc, front, headerText, spaced, hk]
    have hf : Assigns otherKeys front := by
      have hs : Assigns otherKeys (spaced [s.declaredType]) :=
        Assigns.spaced (by simpa using s.assigned_declaredType)
      exact (Assigns.of_not_mem (by decide)).append (hs.append (Assigns.of_not_mem (by decide)))
    have hw : front.getLast?.any isWord = false := by
      simp only [front]
      rw [← List.append_assoc, List.getLast?_concat]
      rfl
    rw [he, find?_scriptClass hf hw, Option.map_some]

section

variable {α : Type} {read? : List Char → Option (α × List Char)} (h : Printed s ls)
  (hb : ∀ cs, Reads read? ('[' :: cs) none)
  (hs : ∀ id, s.script = some id → Enclosed read? (scriptLine (wordReference id)))
include h hb

theorem Printed.filterMap_reads (hn : read? [] = none) :
    ls.filterMap (fun l => (read? l).map (·.1)) =
      s.scriptLines.filterMap fun l => (read? l).map (·.1) := by
  have hr (cs : List Char) : (read? ('[' :: cs)).map (·.1) = none := (hb cs).map_eq
  have ⟨us, hu, hf⟩ := h.filterMap_eq (f := fun l => (read? l).map (·.1)) (by simp [hn])
  have hus : us.filterMap (fun l => (read? l).map (·.1)) = [] := by
    rw [List.filterMap_eq_nil_iff]
    refine forall_mem_of_declares (fun u l hd => ?_) hu
    obtain ⟨cs, rfl⟩ := hd.head_eq
    exact hr cs
  have hh : s.firstLine = '[' :: s.firstLine.tail := rfl
  have hc : headerLine "resource" = '[' :: (headerLine "resource").tail := rfl
  rw [hf, hus, hh, hr, hc, hr]
  rfl

include hs

theorem Printed.readAlone : ∀ l ∈ ls, ReadAlone read? l := by
  have hh {cs : List Char} (hn : '\n' ∉ '[' :: cs) : ReadAlone read? ('[' :: cs) :=
    ⟨hn, stops_cons.mpr (by decide), fun _ => (hb cs).enclosed⟩
  apply h.forall_mem (p := ReadAlone read?)
  case header => exact hh newline_not_mem_headerText
  case empty => exact ⟨by simp, stops_nil, by simp⟩
  case used =>
    intro u l hd
    obtain ⟨cs, rfl⟩ := hd.head_eq
    exact hh hd.newline_not_mem
  case closing => exact hh (by decide)
  case script =>
    exact fun id hi => ⟨newline_not_mem_scriptLine, stops_scriptLine, fun _ => hs id hi⟩

theorem Printed.find?_anchored (hc : Consumes read?) :
    (anchored read?).find? (['\n'].intercalate ls) =
      (s.scriptLines.filterMap fun l => (read? l).map (·.1)).head? := by
  rw [Text.find?_anchored hc, all_anchored hc (h.readAlone hb hs), h.filterMap_reads hb hc.nil]

end

theorem reads_of_bracket {α : Type} {key : String} {value? : List Char → Option (α × List Char)}
    (hk : ¬['['] <+: key.toList ∧ ¬key.toList <+: ['[']) (cs : List Char) :
    Reads (setting? key value?) ('[' :: cs) none :=
  reads_setting?_of_clash (List.prefix_append ['['] cs) hk

theorem consumes_externalCall? : Consumes externalCall? := by
  apply Consumes.skip
  intro cs found rest h
  obtain ⟨⟨t, r⟩, ht, he⟩ := Option.map_eq_some_iff.mp h
  cases he
  exact consumes_until? ')' cs t rest ht

theorem find?_externalScript (h : Printed s ls) :
    externalScript.find? (['\n'].intercalate ls) =
      s.script.map fun id => String.ofList (referenceText (wordReference id)) := by
  rw [externalScript_eq, h.find?_anchored (reads_of_bracket (by decide))
    (fun _ _ => reads_scriptLine.enclosed) (consumes_assigned? consumes_externalCall?).skip]
  cases hs : s.script <;> simp [scriptLines, hs, setting?_scriptLine]

def inlineText? (cs : List Char) : Option (String × List Char) :=
  (skip? ['"'] cs).bind fun cs => (quotedBody? cs).map fun (t, r) => (String.ofList t, r)

theorem inlineSource_eq : inlineSource = anchored (setting? "script/source" inlineText?) := by
  funext before cs
  exact anchored_setting?

theorem consumes_quotedBody? : Consumes quotedBody? := by
  intro cs taken rest h
  fun_induction quotedBody? cs generalizing taken
  case case1 => cases h
  case case2 => cases h
  case case3 => cases h
  case case4 c cs hn hi =>
    obtain ⟨⟨t, r⟩, ht, he⟩ := Option.map_eq_some_iff.mp h
    cases he
    exact Nat.lt_add_right 2 (hi _ ht)
  case case5 =>
    cases h
    exact Nat.lt_succ_self _
  case case6 c cs _ _ _ hi =>
    obtain ⟨⟨t, r⟩, ht, he⟩ := Option.map_eq_some_iff.mp h
    cases he
    exact Nat.lt_add_right 1 (hi _ ht)

theorem find?_inlineSource (h : Printed s ls) (hs : s.script = none) :
    inlineSource.find? (['\n'].intercalate ls) = none := by
  have hc : Consumes inlineText? := by
    apply Consumes.skip
    intro cs found rest h
    obtain ⟨⟨t, r⟩, ht, he⟩ := Option.map_eq_some_iff.mp h
    cases he
    exact consumes_quotedBody? cs t rest ht
  rw [inlineSource_eq, h.find?_anchored (reads_of_bracket (by decide)) (by simp [hs])
    (consumes_assigned? hc).skip]
  simp [scriptLines, hs]

theorem declaredPath?_of_printed (h : Printed s ls) (id : Run isWord) :
    declaredPath? (Header.all (['\n'].intercalate ls)) id.text =
      (s.used.find? (·.id.text = id.text)).map (·.path.text) := by
  have hn : ∀ l ∈ ls, '\n' ∉ l := by
    apply h.forall_mem (p := ('\n' ∉ ·))
    case header => exact newline_not_mem_headerText
    case empty => simp
    case used => exact fun _ _ => Declares.newline_not_mem
    case closing => decide
    case script => exact fun _ _ => newline_not_mem_scriptLine
  have ⟨us, hu, hf⟩ := h.filterMap_eq (f := Header.ofLine?) rfl
  have hus : us.filterMap Header.ofLine? = s.used.map UsedResource.header := filterMap_ofLine? hu
  have hs : s.scriptLines.filterMap Header.ofLine? = [] := by
    cases hs : s.script <;> simp [scriptLines, hs, ofLine?_scriptLine]
  have hl : Header.ofLine? s.firstLine =
    some (Block.header (word "gd_resource", s.firstAttributes)) := ofLine?_headerText
  have hk : (Block.header (word "gd_resource", s.firstAttributes)).kind ≠ "ext_resource" := by
    simp [Block.header]
  have hc : Header.ofLine? (headerLine "resource") =
    some { kind := "resource", attrs := .empty } := rfl
  rw [declaredPath?_eq, Header.all_intercalate hn, hf, hus, hs, hl, hc, ← declaredPaths_used]
  simp [declaredPaths, hk]

def lines (s : ResourceSource) : List (List Char) :=
  s.firstLine :: (s.used.map UsedResource.line ++ headerLine "resource" :: s.scriptLines)

theorem printed_lines (s : ResourceSource) : s.Printed s.lines := by
  have hu : List.Forall₂ Declares s.used (s.used.map UsedResource.line) := by
    rw [List.forall₂_map_right_iff, List.forall₂_same]
    exact fun u _ => ⟨_, .refl _, rfl⟩
  refine .intro hu (List.filter_eq_self.mpr ?_)
  intro l hl
  rcases List.mem_append.mp hl with hl | hl
  case inl =>
    obtain ⟨u, _, rfl⟩ := List.mem_map.mp hl
    rfl
  case inr =>
    rcases List.mem_cons.mp hl with rfl | hl
    case inl => rfl
    case inr =>
      simp only [scriptLines, Option.mem_toList, Option.map_eq_some_iff] at hl
      obtain ⟨id, _, rfl⟩ := hl
      rfl

end ResourceSource

-- Every resource can be written, and each of its texts is read as what is written in it.
theorem ofText_printed (s : ResourceSource) : s.Printed s.lines ∧
    ∀ ls, s.Printed ls → Resource.ofText (['\n'].intercalate ls) = s.resource := by
  refine ⟨s.printed_lines, fun ls h => ?_⟩
  have ⟨tail, ht⟩ := h.exists_append
  have hr : resourceType.find? (['\n'].intercalate ls) = some s.type.text := by
    rw [ht, s.find?_resourceType]
  have hs : Resource.scriptOfText? (['\n'].intercalate ls) = s.resource.script := by
    rw [Resource.scriptOfText?, ResourceSource.find?_externalScript h]
    cases hs : s.script
    case none => simp [ResourceSource.find?_inlineSource h hs, ResourceSource.resource, hs]
    case some id =>
      have hp := ResourceSource.declaredPath?_of_printed h id
      have ht : (wordReference id).text = id.text := rfl
      simp [extResourceId?_referenceText, ht, hp, ResourceSource.resource, hs]
  rw [Resource.ofText, hr, ResourceSource.find?_scriptClass_of_printed h, hs]
  rfl

def confusingSource : ResourceSource where
  type := .ofAll "script_class".toList (by decide) (by decide)
  className := some (.ofAll "class_name".toList (by decide) (by decide))
  used :=
    [{ type := .ofAll "script".toList (by decide) (by decide)
       path := .ofAll "res://[gd_resource] class_name".toList (by decide) (by decide)
       id := typeWord }]
  script := some typeWord

def confusingLines : List (List Char) :=
  ["[gd_resource type=\"script_class\" script_class=\"class_name\" format=3]".toList, [],
   "[ext_resource id=\"type\" type=\"script\" path=\"res://[gd_resource] class_name\"]".toList, [],
   "[resource]".toList,
   "script = ExtResource(\"type\")".toList, []]

theorem ofText_printed_confusing : confusingSource.Printed confusingLines ∧
    Resource.ofText (['\n'].intercalate confusingLines) =
      { type := some "script_class"
        className := some "class_name"
        script := some (.external "type" (some "res://[gd_resource] class_name")) } := by
  have hp : confusingSource.Printed confusingLines := by
    have hd : List.Forall₂ Declares confusingSource.used [confusingLines[2]] :=
      .cons ⟨_, List.rotate_perm _ 2, by decide +kernel⟩ .nil
    exact .intro hd (by decide +kernel)
  exact ⟨hp, ((ofText_printed confusingSource).right _ hp).trans (by decide +kernel)⟩

end GodotAtlas.Format
