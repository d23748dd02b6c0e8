import GodotAtlas.Proofs.SortedMap
import GodotAtlas.Proofs.Text.Matching
import GodotAtlas.Format.Header

namespace GodotAtlas.Format

open Text

def isQuotable (c : Char) : Bool :=
  c != '\\' && c != '\n'

def escaped : List Char → List Char
  | [] => []
  | c :: cs => if c = '"' then '\\' :: '"' :: escaped cs else c :: escaped cs

def quotedText (cs : List Char) : List Char :=
  '"' :: (escaped cs ++ ['"'])

def callText (name argument : List Char) : List Char :=
  name ++ '(' :: (argument ++ [')'])

section

variable {cs rest : List Char}

theorem quotedBody?_escaped (h : '\\' ∉ cs) :
    quotedBody? (escaped cs ++ '"' :: rest) = some (escaped cs, rest) := by
  induction cs
  case nil => simp [escaped, quotedBody?]
  case cons c cs hi =>
    simp only [List.mem_cons, not_or] at h
    by_cases hc : c = '"'
    case pos => simp [escaped, hc, quotedBody?, hi h.right]
    case neg => simp [escaped, hc, quotedBody?, hi h.right, Ne.symm h.left]

theorem escaped_of_not_mem (h : '"' ∉ cs) : escaped cs = cs := by
  induction cs
  case nil => rfl
  case cons c cs hi =>
    simp only [List.mem_cons, not_or] at h
    rw [escaped, if_neg (Ne.symm h.left), hi h.right]

theorem unescapeQuotes_escaped : unescapeQuotes (escaped cs) = cs := by
  induction cs
  case nil => rfl
  case cons c cs hi =>
    by_cases hc : c = '"'
    case pos => simp [escaped, hc, unescapeQuotes, hi]
    case neg =>
      -- A quote behind `c` has a backslash of its own in front of it, so it leaves `c` alone.
      have hn (ds : List Char) : escaped cs ≠ '"' :: ds := by
        cases cs
        case nil => simp [escaped]
        case cons d cs => by_cases hd : d = '"' <;> simp [escaped, hd]
      simp only [escaped, hc, if_false]
      rw [unescapeQuotes, hi]
      exact fun ds _ he => hn ds he

theorem unquote_quotes {body : List Char} :
    unquote ('"' :: (body ++ ['"'])) = unescapeQuotes body := by
  cases body
  case nil => rfl
  case cons c body =>
    rw [List.cons_append, unquote, ← List.cons_append, List.getLast?_concat, List.dropLast_concat]
    simp

theorem not_mem_escaped (h : '\n' ∉ cs) : '\n' ∉ escaped cs := by
  induction cs
  case nil => exact h
  case cons c cs hi =>
    simp only [List.mem_cons, not_or] at h
    by_cases hc : c = '"'
    case pos => simp [escaped, hc, hi h.right]
    case neg => simp [escaped, hc, hi h.right, h.left]

theorem value?_quotedText (h : '\\' ∉ cs) :
    value? (quotedText cs ++ rest) = some (quotedText cs, rest) := by
  simp [value?, quotedValue?, quotedText, skip?, quotedBody?_escaped h]

theorem value?_callText (name : Run isWord) {argument : List Char} (h : ')' ∉ argument) :
    value? (callText name.chars argument ++ rest) =
      some (callText name.chars argument, rest) := by
  have ⟨c, cs, he, hc⟩ := name.exists_cons
  have hne : '"' ≠ c := by rintro rfl; cases hc
  have hq : quotedValue? (callText name.chars argument ++ rest) = none := by
    simp [quotedValue?, callText, he, skip?, hne]
  have hw : Stops isWord ('(' :: (argument ++ ')' :: rest)) := stops_cons.mpr (by decide)
  have hv : callValue? (callText name.chars argument ++ rest) =
      some (callText name.chars argument, rest) := by
    simp [callValue?, callText, word?, run?_append name hw, skip?, until?_append h]
  rw [value?, hq, hv, Option.none_or, Option.some_or]

end

structure Attribute where
  key : Run isWord
  value : List Char
  starts : ∃ c cs, value = c :: cs ∧ isBlank c = false
  no_newline : '\n' ∉ value
  reads : ∀ rest, Stops (· != ' ') rest → value? (value ++ rest) = some (value, rest)

namespace Attribute

def written (a : Attribute) : List Char :=
  a.key.chars ++ '=' :: a.value

def entry (a : Attribute) : String × String :=
  (a.key.text, String.ofList (unquote a.value))

def quoted (key : Run isWord) (t : Chars isQuotable) : Attribute where
  key
  value := quotedText t.chars
  starts := ⟨_, _, rfl, by decide⟩
  no_newline := by simp [quotedText, not_mem_escaped (t.not_mem (c := '\n') rfl)]
  reads _ _ := value?_quotedText (t.not_mem rfl)

@[simp]
theorem entry_quoted {key : Run isWord} {t : Chars isQuotable} :
    (quoted key t).entry = (key.text, t.text) := by
  simp [entry, quoted, quotedText, unquote_quotes, unescapeQuotes_escaped, Chars.text]

def call (key name : Run isWord) (argument : List Char) (no_closing : ')' ∉ argument)
    (no_newline : '\n' ∉ argument) : Attribute where
  key
  value := callText name.chars argument
  starts := by
    have ⟨c, cs, he, hc⟩ := name.exists_cons
    exact ⟨c, _, by rw [callText, he]; rfl, isBlank_of_isWord hc⟩
  no_newline := by simp [callText, name.not_mem (c := '\n') (by decide), no_newline]
  reads _ _ := value?_callText name no_closing

@[simp]
theorem entry_call {key name : Run isWord} {argument : List Char} {hc : ')' ∉ argument}
    {hn : '\n' ∉ argument} : (call key name argument hc hn).entry =
      (key.text, String.ofList (callText name.chars argument)) := by
  have ⟨c, cs, he, hw⟩ := name.exists_cons
  have hne : c ≠ '"' := by rintro rfl; cases hw
  simp [entry, call, callText, he, unquote, hne]

section

variable (a : Attribute)

theorem exists_cons : ∃ c cs, a.written = c :: cs ∧ isWord c := by
  have ⟨c, cs, he, hc⟩ := a.key.exists_cons
  exact ⟨c, _, by rw [written, he]; rfl, hc⟩

theorem newline_not_mem : '\n' ∉ a.written := by
  simp [written, a.key.not_mem (c := '\n') (by decide), a.no_newline]

theorem keyValue_written (before : Option Char) {rest : List Char} (h : Stops (· != ' ') rest) :
    keyValue before (a.written ++ rest) = some (a.entry, rest) := by
  have hk : Stops isWord ('=' :: (a.value ++ rest)) := stops_cons.mpr (by decide)
  have he : Stops isBlank ('=' :: (a.value ++ rest)) := stops_cons.mpr (by decide)
  have hv : Stops isBlank (a.value ++ rest) := by
    have ⟨c, cs, hc, hb⟩ := a.starts
    simp [hc, hb]
  simp [keyValue, written, word?, run?_append a.key hk, trimStart_of_stops he, skip?,
    trimStart_of_stops hv, a.reads rest h, entry, Run.text]

end

end Attribute

def spaced (as : List Attribute) : List Char :=
  as.flatMap fun a => ' ' :: a.written

section

variable {as : List Attribute} {before : Option Char}

theorem stops_spaced : Stops (· != ' ') (spaced as) := by
  cases as
  case nil => exact stops_nil
  case cons a as => simp [spaced]

theorem allFrom_keyValue {b : Option Char} {cs : List Char} :
    keyValue.allFrom 0 before cs = keyValue.allFrom 0 b cs := by
  cases cs <;> rfl

theorem allFrom_written {a : Attribute} {rest : List Char} (h : Stops (· != ' ') rest) :
    keyValue.allFrom 0 before (a.written ++ rest) = a.entry :: keyValue.allFrom 0 before rest := by
  have ⟨c, cs, he, _⟩ := a.exists_cons
  have hk := a.keyValue_written before h
  rw [he] at hk ⊢
  rw [Matcher.allFrom_of_some hk, allFrom_keyValue]

theorem allFrom_spaced : keyValue.allFrom 0 before (spaced as) = as.map Attribute.entry := by
  induction as generalizing before
  case nil => rfl
  case cons a as hi =>
    have hn : keyValue before (' ' :: (a.written ++ spaced as)) = none := rfl
    rw [spaced, List.flatMap_cons, List.cons_append, ← spaced, Matcher.allFrom_of_none hn,
      allFrom_written stops_spaced, hi, List.map_cons]

end

def headerText (kind : Run isWord) (as : List Attribute) : List Char :=
  '[' :: (kind.chars ++ (spaced as ++ [']']))

section

variable {kind : Run isWord} {as : List Attribute}

theorem newline_not_mem_spaced : '\n' ∉ spaced as := by
  simp [spaced, Attribute.newline_not_mem]

theorem newline_not_mem_headerText : '\n' ∉ headerText kind as := by
  simp [headerText, kind.not_mem (c := '\n') (by decide), newline_not_mem_spaced]

theorem trim_headerText : trim (headerText kind as) = headerText kind as := by
  apply trim_of_ends
  case hs => exact stops_cons.mpr (by decide)
  case he =>
    simp only [headerText, List.reverse_cons, List.reverse_append, List.reverse_nil,
      List.nil_append, List.cons_append]
    exact stops_cons.mpr (by decide)

theorem attributeText?_spaced {a : Attribute} :
    Header.attributeText? (spaced (a :: as) ++ [']']) = some (a.written ++ spaced as) := by
  have ⟨c, cs, he, hc⟩ := a.exists_cons
  have hs : Stops isBlank (a.written ++ spaced as ++ [']']) := by
    simp [he, isBlank_of_isWord hc]
  have hb : blank? (spaced (a :: as) ++ [']']) = some (a.written ++ spaced as ++ [']']) := by
    simpa [spaced] using blank?_space hs
  have hn : '\n' ∉ a.written ++ spaced as ++ [']'] := by
    simp [a.newline_not_mem, newline_not_mem_spaced]
  simp only [Header.attributeText?, hb, Option.bind_some, List.getLast?_concat,
    List.dropLast_concat]
  simpa using hn

theorem ofLine?_headerText : Header.ofLine? (headerText kind as) =
    some { kind := kind.text, attrs := .ofList (as.map Attribute.entry) } := by
  have hw : Stops isWord (spaced as ++ [']']) := by
    cases as
    case nil => exact stops_cons.mpr (by decide)
    case cons a as => simpa [spaced] using (by decide : isWord ' ' = false)
  rw [Header.ofLine?, trim_headerText, headerText]
  simp only [skip?, if_true, Option.bind_some, word?, run?_append kind hw]
  cases as
  case nil => rfl
  case cons a as =>
    have hne : spaced (a :: as) ++ [']'] ≠ [']'] := by simp [spaced]
    simp only [if_neg hne, attributeText?_spaced, Option.map_some, attributes, Matcher.all,
      allFrom_written stops_spaced, allFrom_spaced, List.map_cons]
    rfl

end

namespace Header

variable {l rest : List Char}

theorem ofLine?_append_return : ofLine? (l ++ ['\r']) = ofLine? l := by
  rw [ofLine?, trim_append_blank (by decide), ofLine?]

theorem all_intercalate {ls : List (List Char)} (h : ∀ l ∈ ls, '\n' ∉ l) :
    all (['\n'].intercalate ls) = ls.filterMap ofLine? :=
  filterMap_lines_intercalate rfl (fun _ => ofLine?_append_return) h

theorem all_line (h : '\n' ∉ l) : all l = (ofLine? l).toList := by
  have hi : all (['\n'].intercalate [l]) = [l].filterMap ofLine? := all_intercalate (by simpa using h)
  simpa [filterMap_cons_eq] using hi

theorem all_append (text : List Char) : all (text ++ '\n' :: rest) = all text ++ all rest :=
  filterMap_lines_append_text rfl (fun _ => ofLine?_append_return) text rest

end Header

end GodotAtlas.Format
