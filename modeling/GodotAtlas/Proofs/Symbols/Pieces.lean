import GodotAtlas.Proofs.Symbols.Shapes
import GodotAtlas.Symbols.Walk

namespace GodotAtlas.Symbols

open Text

section

variable {c : Char} (h : c.isAlpha || c == '_')
include h

theorem toNat_of_initial : 65 ≤ c.toNat ∧ c.toNat ≤ 122 := by
  simp only [Char.isAlpha, Char.isUpper, Char.isLower, Bool.or_eq_true, Bool.and_eq_true,
    decide_eq_true_eq, beq_iff_eq, UInt32.le_iff_toNat_le, ge_iff_le] at h
  rcases h with (⟨hl, hu⟩ | ⟨hl, hu⟩) | rfl
  · exact ⟨hl, Nat.le_trans hu (by decide)⟩
  · exact ⟨Nat.le_trans (by decide) hl, hu⟩
  · decide

theorem isDigit_of_initial : isDigit c = false := by
  have ⟨hl, hu⟩ := toNat_of_initial h
  have ha : c.toNat < 0x80 := by omega
  simp only [isDigit, ha, if_true, Char.isDigit, Bool.and_eq_false_iff, decide_eq_false_iff_not,
    UInt32.le_iff_toNat_le]
  have hn : ¬c.toNat ≤ 57 := by omega
  exact .inr hn

end

theorem endsDotted_nil : EndsDotted [] :=
  ⟨stops_nil, by simp⟩

theorem stops_dottedTail (ws : List Word) : Stops isWord (dottedTail ws) := by
  simpa using stops_dottedTail_append ws endsDotted_nil

theorem Base.namesBase (b : Base) : NamesBase b.written b.chars := by
  cases b
  case words first rest =>
    simpa [Base.written, Base.chars] using NamesBase.dotted first rest endsDotted_nil
  case path chars ne_nil no_quote no_newline => exact .quoted .double ne_nil no_quote

section

theorem numberText?_of_initial {c : Char} (hd : isDigit c = false) (hm : c ≠ '-')
    (cs : List Char) : numberText? (c :: cs) = none := by
  have hr : run? isDigit (c :: cs) = none := run?_of_stops (stops_cons.mpr hd)
  simp [numberText?, hm, hr]

theorem numberText?_written (negative : Bool) (whole : Digits) (fraction : Option Digits) :
    numberText? (Value.number negative whole fraction).written =
      some ((Value.number negative whole fraction).written, []) := by
  have ⟨c, cs, he, hc⟩ := whole.exists_cons
  have hm : c ≠ '-' := by
    rintro rfl
    simp [isDigit] at hc
  cases fraction
  case none =>
    have hr := run?_chars whole
    rw [he] at hr
    cases negative <;> simp [Value.written, numberText?, he, hm, hr]
  case some f =>
    have hd : Stops isDigit ('.' :: f.chars) := by simp [isDigit]
    have hr := run?_append whole hd
    rw [he, List.cons_append] at hr
    cases negative <;> simp [Value.written, numberText?, he, hm, hr, run?_chars f]

theorem stringText?_written {q : Char} {cs : List Char} (h : q ∉ cs) :
    stringText? q (q :: (cs ++ [q])) = some (q :: (cs ++ [q]), []) := by
  have hu : until? q (cs ++ [q]) = some (cs, []) := until?_append h
  simp [stringText?, hu]

theorem stringText?_of_ne {q c : Char} (h : c ≠ q) (cs : List Char) :
    stringText? q (c :: cs) = none := by
  simp [stringText?, h]

theorem plainWord?_append (i : Identifier) {rest : List Char} (h : Stops isWord rest) :
    plainWord? (i.chars ++ rest) = some (i.chars, rest) := by
  have ⟨c, cs, he, _⟩ := i.exists_cons
  have hc := i.initial c (by simp [he])
  have hw : word? (i.chars ++ rest) = some (i.chars, rest) := run?_append i.toRun h
  rw [he, List.cons_append] at hw ⊢
  simp only [plainWord?, hc, if_true, hw]

theorem plainRest_dottedTail : (is : List Identifier) → (n : Nat) →
    (dottedTail (is.map (·.toRun))).length ≤ n →
    plainRest n (dottedTail (is.map (·.toRun))) = (dottedTail (is.map (·.toRun)), [])
  | [], n, _ => by cases n <;> rfl
  | i :: is, 0, h => by simp [dottedTail] at h
  | i :: is, n + 1, h => by
    simp only [List.map_cons, dottedTail, List.cons_append, List.length_cons,
      List.length_append] at h
    have hi := plainRest_dottedTail is n (by omega)
    simp [dottedTail, plainRest, plainWord?_append i (stops_dottedTail _), hi]

end

theorem simpleValue?_written (v : Value) : simpleValue? v.written = some (v.written, []) := by
  cases v
  case number negative whole fraction =>
    simp [simpleValue?, numberText?_written]
  case string quote content no_quote no_newline =>
    cases quote
    case double =>
      have hs : stringText? '"' _ = _ := stringText?_written no_quote
      have hn := numberText?_of_initial (c := '"') rfl (by decide)
      simp [simpleValue?, Value.written, Quote.char, hn, hs]
    case single =>
      have hs : stringText? '\'' _ = _ := stringText?_written no_quote
      have hn := numberText?_of_initial (c := '\'') rfl (by decide)
      have hd := stringText?_of_ne (q := '"') (c := '\'') (by decide)
      simp [simpleValue?, Value.written, Quote.char, hn, hd, hs]
  case dotted first rest =>
    obtain ⟨c, cs, he, _⟩ := first.exists_cons
    have hi := first.initial c (by simp [he])
    obtain ⟨hl, _⟩ := toNat_of_initial hi
    -- The other sorts of values start with a digit, a sign or a quote.
    have hne : ∀ d : Char, d.toNat < 65 → c ≠ d := by
      rintro d hd rfl
      omega
    have hn := numberText?_of_initial (isDigit_of_initial hi) (hne '-' (by decide))
    have hd := stringText?_of_ne (hne '"' (by decide))
    have hs := stringText?_of_ne (hne '\'' (by decide))
    have hw := plainWord?_append first (stops_dottedTail (rest.map (·.toRun)))
    have hr := plainRest_dottedTail rest _ (Nat.le_refl _)
    rw [he] at hw
    simp only [List.cons_append] at hw
    simp [simpleValue?, Value.written, he, hn, hd, hs, dottedText?, hw, hr]

theorem Value.exists_cons (v : Value) : ∃ c cs, v.written = c :: cs ∧ isBlank c = false := by
  cases v
  case number negative whole fraction =>
    obtain ⟨c, cs, he, hc⟩ := whole.exists_cons
    cases negative
    case true => simp [Value.written, isBlank]
    case false => simp [Value.written, he, isBlank_of_isDigit hc]
  case string quote content no_quote no_newline =>
    cases quote <;> simp [Value.written, Quote.char, isBlank]
  case dotted first rest =>
    obtain ⟨c, cs, he, hc⟩ := first.exists_cons
    simp [Value.written, he, isBlank_of_isWord hc]

theorem Value.stops_isBlank (v : Value) : Stops isBlank v.written := by
  have ⟨c, cs, he, hc⟩ := v.exists_cons
  simpa [he] using hc

theorem initializer_written (before : Option Char) (v : Value) :
    initializer before ('=' :: ' ' :: v.written) = some (v.written, []) := by
  have he : atLineEnd [] := rfl
  simp [initializer, skip?, trimStart_of_stops v.stops_isBlank, simpleValue?_written, he]

theorem initializer_of_ne {c : Char} (h : c ≠ '=') (before : Option Char) (cs : List Char) :
    initializer before (c :: cs) = none := by
  simp [initializer, skip?, Ne.symm h]

theorem simpleDefault_append {front : List Char} (h : '=' ∉ front) (value : Option Value) :
    simpleDefault (front ++ initializerWritten value) = value.map (cleanExpr ·.text) := by
  have hf : ∀ c ∈ front, ∀ before cs, initializer before (c :: cs) = none := by
    intro c hc
    exact initializer_of_ne fun he => h (he ▸ hc)
  have ⟨before, hb⟩ := Matcher.first_append hf none (initializerWritten value)
  rw [simpleDefault, Matcher.find?, hb]
  cases value
  case none => rfl
  case some v =>
    have hs := initializer_of_ne (c := ' ') (by decide)
    simp [initializerWritten, Matcher.first, hs, initializer_written, Value.text]

theorem stops_initializerWritten (value : Option Value) :
    Stops isWord (initializerWritten value) := by
  cases value <;> simp [initializerWritten, isWord]

theorem stops_typeWritten_append (type : Option Name) {rest : List Char}
    (h : Stops isWord rest) : Stops isWord (typeWritten type ++ rest) := by
  cases type
  case none => simpa [typeWritten] using h
  case some t => simp [typeWritten, isWord]

theorem typeBehind?_written (type : Option Name) (value : Option Value) :
    typeBehind? (typeWritten type ++ initializerWritten value) = type.map (·.text) := by
  cases type
  case none => cases value <;> rfl
  case some t =>
    have hb := t.stops_append (fun _ => isBlank_of_isWord) (initializerWritten value)
    have hc : trimStart (':' :: ' ' :: (t.chars ++ initializerWritten value)) = _ :=
      trimStart_of_stops (by simp [isBlank])
    simp [typeWritten, typeBehind?, hc, skip?, trimStart_of_stops hb, word?,
      run?_append t.toRun (stops_initializerWritten value), Run.text]

theorem variableText?_written (name : Name) (type : Option Name) (value : Option Value) :
    variableText? (variableWritten name type value) =
      some (name.text, type.map (·.text)) := by
  have hs := stops_typeWritten_append type (stops_initializerWritten value)
  rw [variableText?, variableWritten, declared?_headed name.toRun hs]
  simp [typeBehind?_written]

theorem not_mem_typeWritten {c : Char} (hw : isWord c = false) (hc : c ≠ ':') (hs : c ≠ ' ')
    (type : Option Name) : c ∉ typeWritten type := by
  cases type
  case none => simp [typeWritten]
  case some t => simp [typeWritten, hc, hs, t.not_mem hw]

section

variable (p : PlainParam)

theorem PlainParam.not_mem_written {c : Char} (hw : isWord c = false) (hc : c ≠ ':')
    (hs : c ≠ ' ') : c ∉ p.written := by
  simp [PlainParam.written, p.name.not_mem hw, not_mem_typeWritten hw hc hs]

theorem PlainParam.written_ne_nil : p.written ≠ [] := by
  simp [PlainParam.written, p.name.ne_nil]

theorem PlainParam.trim_written : trim p.written = p.written := by
  apply trim_of_ends
  case hs => exact p.name.stops_append (fun _ => isBlank_of_isWord) _
  case he =>
    rw [PlainParam.written]
    cases p.type
    case none =>
      simpa [typeWritten] using p.name.stops_reverse_append (fun _ => isBlank_of_isWord) []
    case some t =>
      have he := t.stops_reverse_append (fun _ => isBlank_of_isWord) (p.name.chars ++ [':', ' '])
      simpa [typeWritten] using he

theorem PlainParam.parameterText_written : parameterText p.written = parameterOf p.param := by
  have he : splitOnce? '=' p.written = none :=
    until?_of_not_mem (p.not_mem_written rfl (by decide) (by decide))
  have hn : ':' ∉ p.name.chars := p.name.not_mem rfl
  have ht := p.name.trim_chars fun _ => isBlank_of_isWord
  simp only [parameterText, he, parameterOf, PlainParam.param, Option.map_none, Option.getD_none]
  cases h : p.type
  case none =>
    have hs : splitOnce? ':' p.name.chars = none := until?_of_not_mem hn
    simp [PlainParam.written, h, typeWritten, hs, ht, Run.text]
  case some t =>
    have hs : splitOnce? ':' (p.name.chars ++ ':' :: ' ' :: t.chars) =
      some (p.name.chars, ' ' :: t.chars) := until?_append hn
    have htt := t.trim_chars fun _ => isBlank_of_isWord
    simp [PlainParam.written, h, typeWritten, hs, ht, htt, t.ne_nil, Run.text]

end

theorem splitParams_written (ps : List PlainParam) :
    splitParams (paramsWritten ps) = (ps.map (·.param)).map parameterOf := by
  induction ps using paramsWritten.induct
  case case1 => rfl
  case case2 p =>
    have hc : ',' ∉ p.written := p.not_mem_written rfl (by decide) (by decide)
    simp [splitParams, paramsWritten, splitAt_of_not_mem hc, p.trim_written, p.written_ne_nil,
      p.parameterText_written]
  case case3 p ps hne hi =>
    have hc : ',' ∉ p.written := p.not_mem_written rfl (by decide) (by decide)
    -- The space behind the comma goes when the parameters are trimmed.
    rw [paramsWritten, splitParams, splitAt_append hc, List.map_cons,
      map_trim_splitAt_space (by decide)]
    case x_1 => exact hne
    simpa [splitParams, p.trim_written, p.written_ne_nil, p.parameterText_written] using hi

theorem not_mem_paramsWritten {c : Char} (hw : isWord c = false) (hc : c ≠ ':') (hs : c ≠ ' ')
    (hm : c ≠ ',') (ps : List PlainParam) : c ∉ paramsWritten ps := by
  induction ps using paramsWritten.induct
  case case1 => simp [paramsWritten]
  case case2 p => exact p.not_mem_written hw hc hs
  case case3 p ps hne hi =>
    rw [paramsWritten]
    case x_1 => exact hne
    simp [p.not_mem_written hw hc hs, hm, hs, hi]

theorem parenthesized?_written (ps : List PlainParam) (rest : List Char) :
    parenthesized? ('(' :: (paramsWritten ps ++ ')' :: rest)) = some (paramsWritten ps, rest) := by
  have hn : ')' ∉ paramsWritten ps :=
    not_mem_paramsWritten rfl (by decide) (by decide) (by decide) ps
  exact parenthesized?_eq_some_iff.mpr ⟨hn, [], by simp, rfl⟩

theorem returnType?_written (returnType : Option Name) :
    returnType? (returnWritten returnType ++ [':']) = returnType.map (·.text) := by
  cases returnType
  case none => rfl
  case some r =>
    have hb := r.stops_append (fun _ => isBlank_of_isWord) [':']
    have hw : Stops isWord [':'] := by simp [isWord]
    have hc : ∀ cs, trimStart ('-' :: cs) = '-' :: cs :=
      fun cs => trimStart_of_stops (by simp [isBlank])
    simp [returnWritten, returnType?, hc, skip?, trimStart_of_stops hb, word?,
      run?_append r.toRun hw, Run.text]

end GodotAtlas.Symbols
