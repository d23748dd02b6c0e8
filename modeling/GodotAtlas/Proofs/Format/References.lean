import GodotAtlas.Proofs.Format.HeaderText
import GodotAtlas.Format.Resource
import GodotAtlas.Format.Scene

namespace GodotAtlas.Format

open Text

def isReferenceChar (c : Char) : Bool :=
  c != '"' && c != ')' && !isBlank c

-- The argument of a call that names an id. White space may stand around the id, and a quote on
-- either side of it.
inductive NamesId : List Char → String → Prop
  | intro (id : Run isReferenceChar) (before behind : Chars isBlank) (opened closed : Bool) :
      NamesId (before.chars ++ ((if opened then ['"'] else []) ++ (id.chars ++
        ((if closed then ['"'] else []) ++ behind.chars)))) id.text

def CallsFor (call : List Char) (id : String) : Prop :=
  ∃ argument, NamesId argument id ∧ call = "ExtResource(".toList ++ (argument ++ [')'])

-- The first call in a text.
def FirstCall (cs : List Char) (id : String) : Prop :=
  ∃ front call rest, cs = front ++ (call ++ rest) ∧ CallsFor call id ∧
    ∀ front' call' rest' other, cs = front' ++ (call' ++ rest') → CallsFor call' other →
      front.length ≤ front'.length

def reference? (cs : List Char) : Option (String × List Char) :=
  (run? isReferenceChar ((skip? ['"'] (trimStart cs)).getD (trimStart cs))).bind fun (id, cs) =>
    (skip? [')'] (trimStart ((skip? ['"'] cs).getD cs))).map fun rest => (String.ofList id, rest)

theorem extResourceCall_eq {before : Option Char} {cs : List Char} :
    extResourceCall before cs = (skip? "ExtResource(".toList cs).bind reference? :=
  rfl

theorem isReferenceChar_iff {c : Char} :
    isReferenceChar c ↔ c ≠ '"' ∧ c ≠ ')' ∧ isBlank c = false := by
  simp [isReferenceChar, and_assoc]

section

variable {cs rest : List Char} {id : String}

theorem exists_names_of_reference? (h : reference? cs = some (id, rest)) :
    ∃ argument, NamesId argument id ∧ cs = argument ++ ')' :: rest := by
  obtain ⟨⟨taken, es⟩, ht, hm⟩ := Option.bind_eq_some_iff.mp h
  obtain ⟨_, hp, he⟩ := Option.map_eq_some_iff.mp hm
  obtain ⟨i, rfl, hi, _⟩ := run?_eq_some_iff.mp ht
  cases he
  obtain ⟨before, hb⟩ := exists_blanks cs
  obtain ⟨behind, hd⟩ := (trimStart_eq_cons_iff rfl).mp (skip?_singleton_iff.mp hp)
  have hes : (if (skip? ['"'] es).isSome then ['"'] else []) ++ (behind.chars ++ ')' :: rest) =
      es := by
    rw [← hd, optional_append_getD_skip?]
  have hcs : (if (skip? ['"'] (trimStart cs)).isSome then ['"'] else []) ++ (i.chars ++ es) =
      trimStart cs := by
    rw [← hi, optional_append_getD_skip?]
  refine ⟨_, .intro i before behind (skip? ['"'] (trimStart cs)).isSome
    (skip? ['"'] es).isSome, ?_⟩
  simp only [List.append_assoc, hes, hcs, ← hb]

theorem reference?_of_names {argument : List Char} (h : NamesId argument id) :
    reference? (argument ++ ')' :: rest) = some (id, rest) := by
  obtain ⟨i, before, behind, opened, closed⟩ := h
  have hq (tail : List Char) : Stops (· == '"') (i.chars ++ tail) :=
    i.stops_append (fun c hc => by simpa using (isReferenceChar_iff.mp hc).left) tail
  have hi (tail : List Char) :
      Stops isBlank ((if opened then ['"'] else []) ++ (i.chars ++ tail)) := by
    cases opened
    case false => exact i.stops_append (fun c hc => (isReferenceChar_iff.mp hc).right.right) tail
    case true => exact stops_cons.mpr rfl
  have hp : Stops (· == '"') (behind.chars ++ ')' :: rest) := by
    refine behind.stops_append (fun c hc => ?_) (stops_cons.mpr rfl)
    rw [beq_eq_false_iff_ne]
    rintro rfl
    cases hc
  have hr : Stops isReferenceChar
      ((if closed then ['"'] else []) ++ (behind.chars ++ ')' :: rest)) := by
    cases closed
    case false =>
      exact behind.stops_append (fun c hc => by simp [isReferenceChar, hc]) (stops_cons.mpr rfl)
    case true => exact stops_cons.mpr rfl
  have ht (tail : List Char) :
      trimStart (before.chars ++ ((if opened then ['"'] else []) ++ (i.chars ++ tail))) =
        (if opened then ['"'] else []) ++ (i.chars ++ tail) :=
    (trimStart_eq_iff (hi tail)).mpr ⟨before.chars, before.all, rfl⟩
  have hb : trimStart (behind.chars ++ ')' :: rest) = ')' :: rest :=
    (trimStart_eq_cons_iff rfl).mpr ⟨behind, rfl⟩
  simp only [reference?, List.append_assoc, ht]
  rw [getD_skip?_optional (skip?_of_stops (hq _)), run?_append i hr, Option.bind_some,
    getD_skip?_optional (skip?_of_stops hp), hb]
  rfl

theorem extResourceCall_eq_some_iff {before : Option Char} :
    extResourceCall before cs = some (id, rest) ↔ ∃ call, CallsFor call id ∧ cs = call ++ rest := by
  rw [extResourceCall_eq, Option.bind_eq_some_iff]
  constructor
  case mp =>
    rintro ⟨ds, hs, hr⟩
    obtain ⟨argument, hn, rfl⟩ := exists_names_of_reference? hr
    exact ⟨_, ⟨argument, hn, rfl⟩, by simp [skip?_eq_some_iff.mp hs]⟩
  case mpr =>
    rintro ⟨_, ⟨argument, hn, rfl⟩, rfl⟩
    exact ⟨argument ++ ')' :: rest, by simp [skip?_eq_some_iff], reference?_of_names hn⟩

end

theorem extResourceId?_eq_some_iff {value id : String} :
    extResourceId? value = some id ↔ FirstCall value.toList id := by
  rw [extResourceId?, Matcher.find?, Option.map_eq_some_iff]
  constructor
  case mp =>
    rintro ⟨⟨_, rest⟩, hf, rfl⟩
    obtain ⟨front, tail, he, hm⟩ := Matcher.first_eq_some_iff.mp hf
    obtain ⟨call, hc, rfl⟩ := extResourceCall_eq_some_iff.mp hm.found
    refine ⟨front, call, rest, he, hc, fun front' call' rest' other he' hc' => ?_⟩
    by_contra hl
    have hn := hm.none_before front' _ (he ▸ he') (by omega)
    rw [extResourceCall_eq_some_iff.mpr ⟨call', hc', rfl⟩] at hn
    cases hn
  case mpr =>
    rintro ⟨front, call, rest, he, hc, hl⟩
    refine ⟨(id, rest), Matcher.first_eq_some_iff.mpr ⟨front, _, he, ?found, ?none_before⟩, rfl⟩
    case found => exact extResourceCall_eq_some_iff.mpr ⟨call, hc, rfl⟩
    case none_before =>
      intro front' rest' he' hlt
      cases hm : extResourceCall (front'.getLast?.or none) rest'
      case none => rfl
      case some found =>
        obtain ⟨call', hc', rfl⟩ := extResourceCall_eq_some_iff.mp hm
        exact absurd (hl front' call' found.2 found.1 (he.trans he') hc') (by omega)

theorem extResourceId?_eq_none_iff {value : String} : extResourceId? value = none ↔
    ∀ front call rest id, value.toList = front ++ (call ++ rest) → ¬CallsFor call id := by
  rw [extResourceId?, Matcher.find?, Option.map_eq_none_iff, Matcher.first_eq_none_iff]
  constructor
  case mp =>
    intro h front call rest id he hc
    have hn := h front _ he
    rw [extResourceCall_eq_some_iff.mpr ⟨call, hc, rfl⟩] at hn
    cases hn
  case mpr =>
    intro h front tail he
    cases hm : extResourceCall (front.getLast?.or none) tail
    case none => rfl
    case some found =>
      obtain ⟨call, hc, rfl⟩ := extResourceCall_eq_some_iff.mp hm
      exact absurd hc (h front call found.2 found.1 he)

theorem extResourceId?_of_callsFor {call : List Char} {id : String} (h : CallsFor call id) :
    extResourceId? (String.ofList call) = some id := by
  rw [extResourceId?_eq_some_iff, String.toList_ofList]
  exact ⟨[], call, [], by simp, h, fun _ _ _ _ _ _ => Nat.zero_le _⟩

def quotedId (id : Run isReferenceChar) : List Char :=
  '"' :: (id.chars ++ ['"'])

def referenceText (id : Run isReferenceChar) : List Char :=
  callText "ExtResource".toList (quotedId id)

section

variable {id : Run isReferenceChar}

theorem not_mem_quotedId {c : Char} (hq : c ≠ '"') (hc : isReferenceChar c = false) :
    c ∉ quotedId id := by
  simp [quotedId, hq, id.not_mem hc]

theorem referenceText_eq : referenceText id = "ExtResource(".toList ++ (quotedId id ++ [')']) := by
  simp [referenceText, callText]

theorem callsFor_referenceText : CallsFor (referenceText id) id.text := by
  let none : Chars isBlank := ⟨[], by simp⟩
  exact ⟨quotedId id, by simpa [quotedId, none] using NamesId.intro id none none true true,
    referenceText_eq⟩

theorem extResourceId?_referenceText :
    extResourceId? (String.ofList (referenceText id)) = some id.text :=
  extResourceId?_of_callsFor callsFor_referenceText

end

-- The paths that headers give to an id, in their order. An empty path does not count.
def declaredPaths (hs : List Header) (id : String) : List String :=
  hs.filterMap fun h =>
    if h.kind = "ext_resource" ∧ h.get? "id" = some id then h.nonEmpty? "path" else none

section

variable {hs : List Header} {id : String}

theorem declaredPath?_eq : declaredPath? hs id = (declaredPaths hs id).head? := by
  rw [declaredPath?, ← List.head?_filterMap, List.filterMap_filter, declaredPaths]
  simp

theorem pathOfId_eq_getLast? {rs : List ExtResource} : pathOfId rs id =
    (rs.filterMap fun r => if r.id = some id then r.path else none).getLast? := by
  induction rs using List.reverseRecOn
  case nil => rfl
  case append_singleton rs r hi =>
    rw [pathOfId] at hi ⊢
    rw [List.filter_append, List.filterMap_append]
    by_cases hr : r.id = some id
    case pos => cases hp : r.path <;> simp_all
    case neg => simp_all

-- An empty id is as good as none, but no call has an empty id.
theorem pathOfId_eq (hi : id ≠ "") :
    pathOfId ((hs.filter (·.kind == "ext_resource")).map .ofHeader) id =
      (declaredPaths hs id).getLast? := by
  have hid (h : Header) : h.nonEmpty? "id" = some id ↔ h.get? "id" = some id := by
    simp [Header.nonEmpty?, Option.filter_eq_some_iff, hi]
  rw [pathOfId_eq_getLast?, List.filterMap_map, List.filterMap_filter, declaredPaths]
  congr 2
  funext h
  by_cases hk : h.kind = "ext_resource" <;> simp [hk, ExtResource.ofHeader, hid]

end

theorem FirstCall.id_ne_empty {cs : List Char} {id : String} (h : FirstCall cs id) : id ≠ "" := by
  obtain ⟨_, _, _, _, ⟨_, ⟨i, _, _, _, _⟩, _⟩, _⟩ := h
  exact i.text_ne_empty

theorem resolveInstance_of_firstCall {hs : List Header} {value id : String}
    (h : FirstCall value.toList id) :
    resolveInstance ((hs.filter (·.kind == "ext_resource")).map .ofHeader) value =
      (declaredPaths hs id).getLast?.getD value := by
  rw [resolveInstance, extResourceId?_eq_some_iff.mpr h, Option.bind_some,
    pathOfId_eq h.id_ne_empty]

theorem Scene.nodes_ofHeaders {hs : List Header} : (ofHeaders hs).nodes =
    (hs.filter (·.kind == "node")).map
      (.ofHeader ((hs.filter (·.kind == "ext_resource")).map .ofHeader)) :=
  rfl

end GodotAtlas.Format
