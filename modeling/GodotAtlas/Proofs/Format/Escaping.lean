import GodotAtlas.Proofs.Format.SceneText
import GodotAtlas.Format.Project

namespace GodotAtlas.Format

open Text

-- A text with a backslash in front of each quote and each backslash.
def encoded : List Char → List Char
  | [] => []
  | c :: cs => if c = '"' ∨ c = '\\' then '\\' :: c :: encoded cs else c :: encoded cs

def encodedText (cs : List Char) : List Char :=
  '"' :: (encoded cs ++ ['"'])

def doubled : List Char → List Char
  | [] => []
  | c :: cs => if c = '\\' then '\\' :: '\\' :: doubled cs else c :: doubled cs

section

variable {cs rest : List Char}

theorem encoded_eq : encoded cs = escaped (doubled cs) := by
  induction cs
  case nil => rfl
  case cons c cs hi =>
    by_cases hb : c = '\\'
    case pos => simp [encoded, doubled, escaped, hb, hi]
    case neg => by_cases hq : c = '"' <;> simp [encoded, doubled, escaped, hb, hq, hi]

theorem encoded_of_not_mem (h : '"' ∉ cs) : encoded cs = doubled cs := by
  induction cs
  case nil => rfl
  case cons c cs hi =>
    simp only [List.mem_cons, not_or] at h
    by_cases hb : c = '\\' <;> simp [encoded, doubled, hb, Ne.symm h.left, hi h.right]

theorem mem_of_mem_doubled {c : Char} (h : c ∈ doubled cs) : c ∈ cs := by
  induction cs
  case nil => exact h
  case cons d cs hi =>
    by_cases hb : d = '\\'
    case pos =>
      simp only [doubled, hb, if_true, List.mem_cons, or_self_left] at h ⊢
      exact h.imp_right hi
    case neg =>
      simp only [doubled, hb, if_false, List.mem_cons] at h ⊢
      exact h.imp_right hi

theorem length_doubled : (doubled cs).length = cs.length + cs.count '\\' := by
  induction cs
  case nil => rfl
  case cons c cs hi => by_cases hb : c = '\\' <;> simp [doubled, hb, hi] <;> omega

theorem doubled_ne_nil (h : cs ≠ []) : doubled cs ≠ [] := by
  rw [← List.length_pos_iff] at h ⊢
  rw [length_doubled]
  omega

theorem doubled_eq_iff : doubled cs = cs ↔ '\\' ∉ cs := by
  constructor
  case mp =>
    intro h
    have hl : (doubled cs).length = cs.length + cs.count '\\' := length_doubled
    rw [h] at hl
    exact List.count_eq_zero.mp (by omega)
  case mpr =>
    intro h
    induction cs
    case nil => rfl
    case cons c cs hi =>
      simp only [List.mem_cons, not_or] at h
      simp [doubled, Ne.symm h.left, hi h.right]

-- A backslash takes the character behind it along, and that is how quotes and backslashes stand
-- there. So the first quote that is left is the one that ends the value.
theorem quotedBody?_encoded :
    quotedBody? (encoded cs ++ '"' :: rest) = some (encoded cs, rest) := by
  induction cs
  case nil => simp [encoded, quotedBody?]
  case cons c cs hi =>
    by_cases hc : c = '"' ∨ c = '\\'
    case pos =>
      have hn : c ≠ '\n' := by rcases hc with rfl | rfl <;> decide
      simp [encoded, hc, quotedBody?, hi, hn]
    case neg =>
      simp only [encoded, hc, if_false, List.cons_append]
      simp only [not_or] at hc
      rw [quotedBody?, hi, if_neg hc.left]
      · rfl
      · exact fun hb => absurd hb hc.right
      · exact fun _ _ hb => absurd hb hc.right

theorem value?_encodedText : value? (encodedText cs ++ rest) = some (encodedText cs, rest) := by
  simp [value?, quotedValue?, encodedText, skip?, quotedBody?_encoded]

theorem unquote_encodedText : unquote (encodedText cs) = doubled cs := by
  rw [encodedText, unquote_quotes, encoded_eq, unescapeQuotes_escaped]

theorem newline_not_mem_encodedText (h : '\n' ∉ cs) : '\n' ∉ encodedText cs := by
  have he : '\n' ∉ encoded cs := by
    rw [encoded_eq]
    exact not_mem_escaped fun hm => h (mem_of_mem_doubled hm)
  simp [encodedText, he]

end

abbrev OneLine := Chars (· != '\n')

namespace Attribute

def encoded (key : Run isWord) (t : OneLine) : Attribute where
  key
  value := encodedText t.chars
  starts := ⟨_, _, rfl, by decide⟩
  no_newline := newline_not_mem_encodedText (t.not_mem rfl)
  reads _ _ := value?_encodedText

@[simp]
theorem entry_encoded {key : Run isWord} {t : OneLine} :
    (encoded key t).entry = (key.text, String.ofList (doubled t.chars)) := by
  rw [entry, encoded, unquote_encodedText]

theorem attributes_written {a : Attribute} : attributes a.written = .ofList [a.entry] := by
  have hw : keyValue.allFrom 0 none (a.written ++ []) = [a.entry] := allFrom_written stops_nil
  rw [List.append_nil] at hw
  rw [attributes, Matcher.all, hw]

end Attribute

theorem get?_attributes_encodedText (key : Run isWord) (t : OneLine) :
    (attributes (key.chars ++ '=' :: encodedText t.chars)).get? key.text =
      some (String.ofList (doubled t.chars)) := by
  have ha : attributes (key.chars ++ '=' :: encodedText t.chars) =
    .ofList [(Attribute.encoded key t).entry] :=
      Attribute.attributes_written (a := .encoded key t)
  simp [ha, SortedMap.get?_ofList, SortedMap.valuesOf_cons]

def namedNodeLine (t : OneLine) : List Char :=
  "[node name=".toList ++ (encodedText t.chars ++ [']'])

theorem namedNodeLine_eq {t : OneLine} :
    namedNodeLine t = headerText (word "node") [.encoded (word "name") t] := by
  rw [headerText, spaced, List.flatMap_singleton]
  rfl

theorem names_namedNodeLine (t : OneLine) : (Scene.ofText (namedNodeLine t)).nodes.map (·.name) =
    [if t.chars = [] then unknown else String.ofList (doubled t.chars)] := by
  have hn : '\n' ∉ namedNodeLine t := namedNodeLine_eq ▸ newline_not_mem_headerText
  rw [Scene.ofText, Header.all_line hn, namedNodeLine_eq, ofLine?_headerText]
  by_cases he : t.chars = []
  case pos =>
    simp [Scene.ofHeaders, SceneNode.ofHeader, Header.nonEmpty?, Header.get?, Option.filter,
      SortedMap.get?_ofList, SortedMap.valuesOf_cons, he, doubled]
  case neg =>
    simp [Scene.ofHeaders, SceneNode.ofHeader, Header.nonEmpty?, Header.get?, Option.filter,
      SortedMap.get?_ofList, SortedMap.valuesOf_cons, he, doubled_ne_nil he]

def projectNameLine (cs : List Char) : List Char :=
  "config/name=".toList ++ encodedText cs

theorem name_projectNameLine {cs : List Char} : (Project.ofText (projectNameLine cs)).name =
    String.ofList ((encoded cs).takeWhile (· != '"')) := by
  have hm : (until? '"' (encoded cs ++ ['"'])).map (·.1) =
    some ((encoded cs).takeWhile (· != '"')) := map_until?_append
  obtain ⟨found, hu, hf⟩ := Option.map_eq_some_iff.mp hm
  have hr : quotedLine "config/name" none (projectNameLine cs) =
    (until? '"' (encoded cs ++ ['"'])).map fun found => (String.ofList found.1, found.2) := rfl
  rw [hu, Option.map_some] at hr
  rw [Project.ofText]
  simp [Matcher.find?, Matcher.first_of_some hr, hf]

theorem takeWhile_encoded_eq_iff {cs : List Char} :
    (encoded cs).takeWhile (· != '"') = cs ↔ '"' ∉ cs ∧ '\\' ∉ cs := by
  have hq (h : '"' ∉ cs) : (encoded cs).takeWhile (· != '"') = doubled cs := by
    rw [encoded_of_not_mem h, List.takeWhile_eq_self_iff]
    intro c hc
    have hne : c ≠ '"' := fun he => h (mem_of_mem_doubled (he ▸ hc))
    simpa using hne
  constructor
  case mp =>
    intro h
    -- What stands in front of the first quote has none, so neither has the text.
    have hn : '"' ∉ cs := by
      intro hm
      rw [← h] at hm
      simpa using List.mem_takeWhile_imp hm
    exact ⟨hn, doubled_eq_iff.mp ((hq hn).symm.trans h)⟩
  case mpr =>
    rintro ⟨hn, hb⟩
    rw [hq hn, doubled_eq_iff.mpr hb]

-- A text is read back from a header exactly if it has no backslash, and as the name of a project
-- exactly if it has no quote either. A node without a name gets one that stands for it.
theorem encodedText_read_back_iff (key : Run isWord) (t : OneLine) :
    ((attributes (key.chars ++ '=' :: encodedText t.chars)).get? key.text = some t.text ↔
      '\\' ∉ t.chars) ∧
    ((Scene.ofText (namedNodeLine t)).nodes.map (·.name) = [t.text] ↔
      t.chars ≠ [] ∧ '\\' ∉ t.chars) ∧
    ((Project.ofText (projectNameLine t.chars)).name = t.text ↔
      '"' ∉ t.chars ∧ '\\' ∉ t.chars) := by
  refine ⟨?key, ?node, ?project⟩
  case key =>
    rw [get?_attributes_encodedText, Chars.text, Option.some.injEq, String.ofList_inj,
      doubled_eq_iff]
  case node =>
    rw [names_namedNodeLine, Chars.text, List.singleton_inj]
    by_cases hn : t.chars = []
    case pos => simp [hn, unknown]
    case neg => simp [hn, String.ofList_inj, doubled_eq_iff]
  case project =>
    rw [name_projectNameLine, Chars.text, String.ofList_inj, takeWhile_encoded_eq_iff]

def driveName : OneLine :=
  ⟨"C:\\dev".toList, by simp⟩

def nickName : OneLine :=
  ⟨"The \"One\"".toList, by simp⟩

theorem encodedText_not_read_back :
    (attributes ("name=".toList ++ encodedText driveName.chars)).get? "name" = some "C:\\\\dev" ∧
      (Scene.ofText (namedNodeLine driveName)).nodes.map (·.name) = ["C:\\\\dev"] ∧
      (Project.ofText (projectNameLine nickName.chars)).name = "The \\" ∧
      ¬∀ (key : Run isWord) (t : OneLine),
        (attributes (key.chars ++ '=' :: encodedText t.chars)).get? key.text = some t.text := by
  have ha : (attributes ("name=".toList ++ encodedText driveName.chars)).get? "name" =
    some "C:\\\\dev" := by decide +kernel
  refine ⟨ha, by decide +kernel, by decide +kernel, fun h => ?_⟩
  have hf : some "C:\\\\dev" = some "C:\\dev" := ha.symm.trans (h (word "name") driveName)
  exact absurd hf (by decide)

end GodotAtlas.Format
