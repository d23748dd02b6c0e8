import GodotAtlas.Proofs.Text.Matching
import GodotAtlas.Render.Json

namespace GodotAtlas.Render.Json

open Text

def hexDigit (c : Char) : Nat :=
  ((List.range 16).find? fun d => d.digitChar == c).getD 0

theorem hexDigit_digitChar : ∀ d < 16, hexDigit d.digitChar = d := by
  decide

def unescape? : List Char → Option (Char × List Char)
  | '\\' :: 'b' :: cs => some ('\x08', cs)
  | '\\' :: 'f' :: cs => some ('\x0c', cs)
  | '\\' :: 'n' :: cs => some ('\n', cs)
  | '\\' :: 'r' :: cs => some ('\r', cs)
  | '\\' :: 't' :: cs => some ('\t', cs)
  | '\\' :: 'u' :: _ :: _ :: h :: l :: cs => some (Char.ofNat (16 * hexDigit h + hexDigit l), cs)
  | '\\' :: c :: cs => some (c, cs)
  | c :: cs => some (c, cs)
  | [] => none

theorem unescape?_of_ne {c : Char} (h : c ≠ '\\') (cs : List Char) :
    unescape? (c :: cs) = some (c, cs) := by
  rw [unescape?.eq_def]
  split <;> simp_all

theorem unescape?_escapeChar (c : Char) (cs : List Char) :
    unescape? (escapeChar c ++ cs) = some (c, cs) := by
  unfold escapeChar
  split_ifs
  -- Seven characters have an escape of their own.
  iterate 7 case pos hc => simp [unescape?, hc]
  case pos hc =>
    have hh := hexDigit_digitChar (c.toNat / 16) (by omega)
    have hl := hexDigit_digitChar (c.toNat % 16) (by omega)
    simp [unescape?, hh, hl, Nat.div_add_mod]
  case neg hb _ _ _ _ _ _ => exact unescape?_of_ne hb cs

theorem stops_escapeChar (c : Char) (cs : List Char) : Stops (· == '"') (escapeChar c ++ cs) := by
  unfold escapeChar
  split_ifs <;> simp_all

section

variable {r s : List Char}

theorem chars_inj {cs ds : List Char}
    (h : cs.flatMap escapeChar ++ '"' :: r = ds.flatMap escapeChar ++ '"' :: s) :
    cs = ds ∧ r = s := by
  induction cs generalizing ds
  case nil =>
    cases ds
    case nil => simpa using h
    case cons d ds =>
      have hd := stops_escapeChar d (ds.flatMap escapeChar ++ '"' :: s)
      simp only [List.flatMap_cons, List.append_assoc] at h
      simp [← h] at hd
  case cons c cs hi =>
    cases ds
    case nil =>
      have hc := stops_escapeChar c (cs.flatMap escapeChar ++ '"' :: r)
      simp only [List.flatMap_cons, List.append_assoc] at h
      simp [h] at hc
    case cons d ds =>
      have hu := congrArg unescape? h
      simp only [List.flatMap_cons, List.append_assoc, unescape?_escapeChar, Option.some.injEq,
        Prod.mk.injEq] at hu
      have ⟨he, hr⟩ := hi hu.right
      exact ⟨by rw [hu.left, he], hr⟩

theorem stringText_inj {a b : String} (h : stringText a ++ r = stringText b ++ s) :
    a = b ∧ r = s := by
  simp only [stringText, List.cons_append, List.append_assoc, List.nil_append, List.cons.injEq,
    true_and] at h
  have ⟨hc, hr⟩ := chars_inj h
  exact ⟨String.toList_injective hc, hr⟩

def digits (n : Nat) : Run Char.isDigit where
  chars := Nat.toDigits 10 n
  ne_nil := Nat.toDigits_ne_nil
  all _ hc := Nat.isDigit_of_mem_toDigits (by decide) (by decide) hc

theorem run?_toDigits {n : Nat} (h : Stops Char.isDigit r) :
    run? Char.isDigit (Nat.toDigits 10 n ++ r) = some (Nat.toDigits 10 n, r) :=
  run?_append (digits n) h

theorem toDigits_inj {m n : Nat} (hr : Stops Char.isDigit r) (hs : Stops Char.isDigit s)
    (h : Nat.toDigits 10 m ++ r = Nat.toDigits 10 n ++ s) : m = n ∧ r = s := by
  have hd := congrArg (run? Char.isDigit) h
  simp only [run?_toDigits hr, run?_toDigits hs, Option.some.injEq, Prod.mk.injEq] at hd
  have hn := congrArg (Nat.ofDigitChars 10 · 0) hd.left
  simp only [Nat.ofDigitChars_ten_toDigits] at hn
  exact ⟨hn, hd.right⟩

end

-- What the first character of a text tells of its value.
inductive Shape where
  | null | bool | number | string | array | object
deriving DecidableEq

def shape : Json → Shape
  | null => .null
  | bool _ => .bool
  | number _ => .number
  | string _ => .string
  | array _ => .array
  | object _ => .object

def Shape.ofLead (c : Char) : Shape :=
  if c = 'n' then .null
  else if c = 't' ∨ c = 'f' then .bool
  else if c = '"' then .string
  else if c = '[' then .array
  else if c = '\x7b' then .object
  else .number

theorem Shape.ofLead_of_isDigit {c : Char} (h : c.isDigit) : ofLead c = .number := by
  have hn {d : Char} (hd : d.isDigit = false) : c ≠ d := by
    rintro rfl
    simp [hd] at h
  simp [ofLead, hn]

theorem shape_of_text (level : Nat) (j : Json) :
    ∃ c cs, text level j = c :: cs ∧ Shape.ofLead c = j.shape := by
  cases j
  case null => exact ⟨_, _, rfl, rfl⟩
  case bool b => cases b <;> exact ⟨_, _, rfl, rfl⟩
  case number n =>
    have ⟨c, cs, he, hc⟩ := (digits n).exists_cons
    exact ⟨c, cs, he, Shape.ofLead_of_isDigit hc⟩
  case string s => exact ⟨_, _, rfl, rfl⟩
  case array js => cases js <;> exact ⟨_, _, rfl, rfl⟩
  case object fs => cases fs <;> exact ⟨_, _, rfl, rfl⟩

theorem shape_eq {level : Nat} {j k : Json} {r s : List Char}
    (h : text level j ++ r = text level k ++ s) : j.shape = k.shape := by
  have ⟨c, cs, hj, hc⟩ := shape_of_text level j
  have ⟨d, ds, hk, hd⟩ := shape_of_text level k
  rw [hj, hk, List.cons_append, List.cons_append, List.cons.injEq] at h
  rw [← hc, ← hd, h.left]

theorem stops_itemsText {level : Nat} {js : List Json} {r : List Char} :
    Stops Char.isDigit (itemsText level js ++ '\n' :: r) := by
  cases js <;> simp [itemsText]

theorem stops_fieldsText {level : Nat} {fs : List (String × Json)} {r : List Char} :
    Stops Char.isDigit (fieldsText level fs ++ '\n' :: r) := by
  cases fs <;> simp [fieldsText]

mutual

theorem text_inj (level : Nat) {r s : List Char} (hr : Stops Char.isDigit r)
    (hs : Stops Char.isDigit s) :
    (j k : Json) → text level j ++ r = text level k ++ s → j = k ∧ r = s
  | null, k, h => by
    cases k <;> cases shape_eq h
    case null => simpa [text] using h
  | bool b, k, h => by
    cases k <;> cases shape_eq h
    case bool c => cases b <;> cases c <;> simp_all [text]
  | number n, k, h => by
    cases k <;> cases shape_eq h
    case number m =>
      simp only [text] at h
      have ⟨hn, hr⟩ := toDigits_inj hr hs h
      exact ⟨by rw [hn], hr⟩
  | string a, k, h => by
    cases k <;> cases shape_eq h
    case string b =>
      simp only [text] at h
      have ⟨ha, hr⟩ := stringText_inj h
      exact ⟨by rw [ha], hr⟩
  | array js, k, h => by
    cases k <;> cases shape_eq h
    case array ks =>
      cases js <;> cases ks
      case nil.nil => simpa [text] using h
      case cons.cons j js k ks =>
        simp only [text, lineBreak, List.cons_append, List.append_assoc, List.nil_append,
          List.cons.injEq, true_and, List.append_cancel_left_eq] at h
        have ⟨he, h⟩ := text_inj (level + 1) stops_itemsText stops_itemsText j k h
        have ⟨hes, h⟩ := itemsText_inj (level + 1) js ks h
        exact ⟨by rw [he, hes], by simpa using h⟩
      all_goals simp [text, lineBreak] at h
  | object fs, k, h => by
    cases k <;> cases shape_eq h
    case object gs =>
      cases fs <;> cases gs
      case nil.nil => simpa [text] using h
      case cons.cons f fs g gs =>
        simp only [text, lineBreak, List.cons_append, List.append_assoc, List.nil_append,
          List.cons.injEq, true_and, List.append_cancel_left_eq] at h
        have ⟨ha, h⟩ := stringText_inj h
        simp only [List.cons.injEq, true_and] at h
        have ⟨he, h⟩ := text_inj (level + 1) stops_fieldsText stops_fieldsText f.2 g.2 h
        have ⟨hes, h⟩ := fieldsText_inj (level + 1) fs gs h
        exact ⟨by rw [Prod.ext ha he, hes], by simpa using h⟩
      all_goals simp [text, lineBreak] at h

theorem itemsText_inj (level : Nat) {r s : List Char} : (js ks : List Json) →
    itemsText level js ++ '\n' :: r = itemsText level ks ++ '\n' :: s → js = ks ∧ r = s
  | [], [], h => by simpa [itemsText] using h
  | [], _ :: _, h => by simp [itemsText] at h
  | _ :: _, [], h => by simp [itemsText] at h
  | j :: js, k :: ks, h => by
    simp only [itemsText, List.cons_append, List.append_assoc, List.cons.injEq, true_and,
      List.append_cancel_left_eq] at h
    have ⟨he, h⟩ := text_inj level stops_itemsText stops_itemsText j k h
    have ⟨hes, hr⟩ := itemsText_inj level js ks h
    exact ⟨by rw [he, hes], hr⟩

theorem fieldsText_inj (level : Nat) {r s : List Char} : (fs gs : List (String × Json)) →
    fieldsText level fs ++ '\n' :: r = fieldsText level gs ++ '\n' :: s → fs = gs ∧ r = s
  | [], [], h => by simpa [fieldsText] using h
  | [], _ :: _, h => by simp [fieldsText] at h
  | _ :: _, [], h => by simp [fieldsText] at h
  | (a, j) :: fs, (b, k) :: gs, h => by
    simp only [fieldsText, List.cons_append, List.append_assoc, List.nil_append, List.cons.injEq,
      true_and, List.append_cancel_left_eq] at h
    have ⟨ha, h⟩ := stringText_inj h
    simp only [List.cons.injEq, true_and] at h
    have ⟨he, h⟩ := text_inj level stops_fieldsText stops_fieldsText j k h
    have ⟨hes, hr⟩ := fieldsText_inj level fs gs h
    exact ⟨by rw [ha, he, hes], hr⟩

end

theorem document_inj {j k : Json} (h : document j = document k) : j = k := by
  have ht : text 0 j ++ ['\n'] = text 0 k ++ ['\n'] := String.ofList_injective h
  have hn : Stops Char.isDigit ['\n'] := by simp
  exact (text_inj 0 hn hn j k ht).left

end GodotAtlas.Render.Json
