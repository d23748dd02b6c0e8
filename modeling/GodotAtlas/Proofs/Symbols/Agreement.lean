import GodotAtlas.Proofs.Symbols.Expression
import GodotAtlas.Proofs.Symbols.Pieces
import GodotAtlas.Symbols.Extract

namespace GodotAtlas.Symbols

open Text

-- The word `static` does not stand in a text, wherever it is looked at from.
def NoStatic (cs : List Char) : Prop :=
  ∀ before : Option Char, (before.any isWord → Stops isWord cs) →
    staticWord.first before cs = none

section

variable {cs : List Char}

-- The letters of the word, which `simp` would otherwise find out by decoding the literal.
theorem staticWord_eq {before : Option Char} : staticWord before cs =
    if atBoundary before cs then
      (skip? ['s', 't', 'a', 't', 'i', 'c'] cs).bind fun rest =>
        if rest.head?.any isWord then none else some ((), rest)
    else none :=
  rfl

theorem staticWord_of_not_word {c : Char} (h : isWord c = false) (before : Option Char) :
    staticWord before (c :: cs) = none := by
  have hc : c ≠ 's' := by
    rintro rfl
    simp [isWord] at h
  simp [staticWord_eq, skip?, Ne.symm hc]

theorem noStatic_nil : NoStatic [] := by
  intro before _
  simp [Matcher.first, staticWord_eq, skip?]

theorem NoStatic.cons {c : Char} (hc : isWord c = false) (h : NoStatic cs) :
    NoStatic (c :: cs) := by
  intro before _
  rw [Matcher.first, staticWord_of_not_word hc]
  exact h (some c) (by simp [hc])

theorem first_staticWord_inside {ws : List Char} (hw : ∀ c ∈ ws, isWord c) {b : Char}
    (hb : isWord b) (h : NoStatic cs) (hs : Stops isWord cs) :
    staticWord.first (some b) (ws ++ cs) = none := by
  induction ws generalizing b
  case nil => exact h (some b) fun _ => hs
  case cons c ws hi =>
    have hc := hw c List.mem_cons_self
    have hm : staticWord (some b) (c :: (ws ++ cs)) = none := by
      simp [staticWord, atBoundary, hb, hc]
    rw [List.cons_append, Matcher.first, hm]
    exact hi (fun d hd => hw d (List.mem_cons_of_mem _ hd)) hc

-- A word is taken as a whole, so one that only starts with `static` does not count.
theorem staticWord_append (w : Name) (hs : Stops isWord cs) (before : Option Char) :
    staticWord before (w.chars ++ cs) = none := by
  cases h : skip? "static".toList (w.chars ++ cs)
  case none => simp only [staticWord, h, Option.bind_none, ite_self]
  case some rest =>
    -- If the text did not go on with a word, the word would be `static` itself.
    have hw : rest.head?.any isWord := by
      cases hr : rest.head?.any isWord
      case true => rfl
      case false =>
        have hrun := run?_append w.toRun hs
        have hstatic : run? isWord ("static".toList ++ rest) = some ("static".toList, rest) :=
          run?_append (.ofAll "static".toList (by decide) (by decide)) hr
        rw [eq_append_of_skip? h, hstatic] at hrun
        exact absurd (congrArg Prod.fst (Option.some.inj hrun)).symm w.not_static
    simp only [staticWord, h, Option.bind_some, hw, if_true, ite_self]

theorem NoStatic.append (w : Name) (h : NoStatic cs) (hs : Stops isWord cs) :
    NoStatic (w.chars ++ cs) := by
  intro before _
  have ⟨c, ws, he, hc⟩ := w.exists_cons
  -- The word is no match as a whole, and inside of it there is no place to start from.
  have hm := staticWord_append w hs before
  rw [he, List.cons_append] at hm ⊢
  rw [Matcher.first, hm]
  exact first_staticWord_inside (fun d hd => w.all d (by simp [he, hd])) hc h hs

theorem noStatic_typeWritten (type : Option Name) (h : NoStatic cs) (hs : Stops isWord cs) :
    NoStatic (typeWritten type ++ cs) := by
  cases type
  case none => simpa [typeWritten] using h
  case some t => exact .cons rfl <| .cons rfl <| .append t h hs

theorem noStatic_param (p : PlainParam) (h : NoStatic cs) (hs : Stops isWord cs) :
    NoStatic (p.written ++ cs) := by
  rw [PlainParam.written, List.append_assoc]
  exact .append p.name (noStatic_typeWritten p.type h hs) (stops_typeWritten_append p.type hs)

theorem noStatic_params (ps : List PlainParam) (h : NoStatic cs) (hs : Stops isWord cs) :
    NoStatic (paramsWritten ps ++ cs) := by
  induction ps using paramsWritten.induct
  case case1 => exact h
  case case2 p => exact noStatic_param p h hs
  case case3 p ps hne hi =>
    rw [paramsWritten, List.append_assoc]
    case x_1 => exact hne
    exact noStatic_param p (.cons rfl <| .cons rfl hi) (by simp [isWord])

theorem noStatic_return (returnType : Option Name) :
    NoStatic (returnWritten returnType ++ [':']) := by
  have he : NoStatic [':'] := .cons rfl noStatic_nil
  cases returnType
  case none => exact he
  case some r =>
    have hr : NoStatic (r.chars ++ [':']) := .append r he (by simp [isWord])
    simpa [returnWritten] using hr.cons (c := ' ') rfl |>.cons (c := '>') rfl
      |>.cons (c := '-') rfl |>.cons (c := ' ') rfl

end

section

variable {name : Name} {params : List PlainParam} {returnType : Option Name}

theorem noStatic_function : NoStatic (functionWritten name params returnType) := by
  let func : Name := ⟨.ofAll "func".toList (by decide) (by decide), by decide⟩
  have hp : NoStatic (paramsWritten params ++ ')' :: (returnWritten returnType ++ [':'])) :=
    noStatic_params params (.cons rfl <| noStatic_return returnType) (by simp [isWord])
  have hn := NoStatic.append name (hp.cons (c := '(') rfl) (by simp [isWord])
  exact .append func (hn.cons rfl) (by simp [isWord])

theorem declared?_function : declared? "func" (functionWritten name params returnType) =
    some (name.text, '(' :: (paramsWritten params ++ ')' :: (returnWritten returnType ++ [':']))) :=
  declared?_headed name.toRun (by simp [isWord])

theorem functionLine_plain : functionLine (functionWritten name params returnType) =
    functionSummary none name.text (params.map (·.param)) (returnType.map (·.text)) := by
  have hl : lead (functionWritten name params returnType) = "func".toList :=
    lead_headed (by decide)
  have hs : staticWord.find? (functionWritten name params returnType) = none := by
    rw [Matcher.find?, noStatic_function none (by simp), Option.map_none]
  simp [functionLine, dropAnnotations_of_lead hl (by decide),
    keyword?_of_lead hl (k := "static") (by decide) (by decide), declared?_function,
    parenthesized?_written, splitParams_written, returnType?_written, hs, functionSummary]

theorem find?_staticWord {rest : List Char} :
    staticWord.find? (headed "static" rest) = some () := by
  have hs : staticWord none (headed "static" rest) = some ((), ' ' :: rest) := by
    simp [headed, staticWord_eq, atBoundary, skip?, isWord]
  exact congrArg (Option.map _) (Matcher.first_of_some hs)

theorem functionLine_static :
    functionLine (headed "static" (functionWritten name params returnType)) =
      functionSummary (some .static) name.text (params.map (·.param))
        (returnType.map (·.text)) := by
  have hl : lead (headed "static" (functionWritten name params returnType)) =
      "static".toList := lead_headed (by decide)
  have hk := keyword?_headed (k := "static")
    (show Stops isBlank (functionWritten name params returnType) from rfl)
  simp only [functionLine, dropAnnotations_of_lead hl (by decide), hk, Option.getD_some,
    declared?_function, find?_staticWord, Option.bind_some, parenthesized?_written,
    Option.map_some, splitParams_written, returnType?_written, Option.isSome_some, if_true,
    functionSummary]

end

def propertyWritten (name : Name) (type : Option Name) (value : Option Value) : Property where
  name := name.text
  type := type.map (·.text)
  default := value.map (cleanExpr ·.text)

section

variable {name : Name} {type : Option Name} {value : Option Value}

theorem propertyOf_variable {front : List Char} (h : '=' ∉ front) :
    propertyOf (front ++ variableWritten name type value) (name.text, type.map (·.text)) =
      propertyWritten name type value := by
  have hn : '=' ∉ name.chars := name.not_mem rfl
  have ht : '=' ∉ typeWritten type := not_mem_typeWritten rfl (by decide) (by decide) type
  have hv : '=' ∉ headed "var" (name.chars ++ typeWritten type) :=
    not_mem_headed (by decide) (by decide) (by simp [hn, ht])
  have hf : '=' ∉ front ++ headed "var" (name.chars ++ typeWritten type) := by
    simp [h, hv]
  have hd := simpleDefault_append hf value
  simp only [List.append_assoc, headed_append] at hd
  simp only [propertyOf, variableWritten, hd, propertyWritten]

theorem propertyOf_marked {k : String} (h : '=' ∉ k.toList) :
    propertyOf (headed k (variableWritten name type value))
      (name.text, type.map (·.text)) = propertyWritten name type value := by
  have hp : propertyOf (headed k [] ++ variableWritten name type value) _ =
      propertyWritten name type value :=
    propertyOf_variable (not_mem_headed h (by decide) (by simp))
  simpa using hp

theorem memberLine_plain : memberLine (variableWritten name type value) =
    propertySummary none (propertyWritten name type value) := by
  have hl : lead (variableWritten name type value) = "var".toList := lead_headed (by decide)
  have hp : propertyOf ([] ++ variableWritten name type value) _ =
      propertyWritten name type value := propertyOf_variable (by simp)
  rw [List.nil_append] at hp
  simp [memberLine, exportedVariable?_of_lead hl (by decide),
    deferredVariable?_of_lead hl (by decide), variableLine, variableText?_written, hp,
    functionLine_of_lead hl (by decide) (by decide) (by decide),
    constantLine_of_lead hl (by decide), enumLine_of_lead hl (by decide), propertySummary]

theorem exportedVariable?_written :
    exportedVariable? (headed "@export" (variableWritten name type value)) =
      some (name.text, type.map (·.text)) := by
  -- The search starts at the space behind the annotation.
  have hs : variableInside (some 't') (' ' :: variableWritten name type value) = none := by
    have hv : variableText? (' ' :: variableWritten name type value) = none := rfl
    simp [variableInside, hv]
  have hv : variableInside (some ' ') (variableWritten name type value) =
      some ((name.text, type.map (·.text)), []) := by
    have hb : atBoundary (some ' ') (variableWritten name type value) := rfl
    simp only [variableInside, hb, if_true, variableText?_written, Option.map_some]
  rw [exportedVariable?, headed, skip?_append, Option.bind_some, Matcher.first, hs,
    Matcher.first_of_some hv, Option.map_some]

theorem memberLine_exported :
    memberLine (headed "@export" (variableWritten name type value)) =
      propertySummary (some .exported) (propertyWritten name type value) := by
  simp only [memberLine, exportedVariable?_written, propertyOf_marked (k := "@export") (by decide),
    propertySummary]

theorem memberLine_deferred :
    memberLine (headed "@onready" (variableWritten name type value)) =
      propertySummary (some .deferred) (propertyWritten name type value) := by
  have hl : lead (headed "@onready" (variableWritten name type value)) =
      "@onready".toList := lead_headed (by decide)
  have hk := keyword?_headed (k := "@onready")
    (show Stops isBlank (variableWritten name type value) from rfl)
  simp only [memberLine, exportedVariable?_of_lead hl (by decide), deferredVariable?, hk,
    Option.bind_some, variableText?_written, propertyOf_marked (k := "@onready") (by decide),
    propertySummary]

end

theorem constantValue_written (v : Value) :
    constantValue (some v.text) = some (cleanExpr v.text) := by
  have ⟨c, cs, he, hc⟩ := v.exists_cons
  have hn : cleanExpr v.text ≠ "" := by
    rw [Value.text, he]
    exact cleanExpr_ne_empty hc cs
  simp [constantValue, Option.filter, hn]

theorem constantLine_written (name : Name) (value : Value) :
    constantLine (headed "const" (name.chars ++ initializerWritten (some value))) =
      { members :=
        { constants := [{ name := name.text, value := constantValue value.text }] } } := by
  have hd := declared?_headed (k := "const") name.toRun (stops_initializerWritten (some value))
  have hn : '=' ∉ name.chars := name.not_mem rfl
  have hf : '=' ∉ headed "const" name.chars := not_mem_headed (by decide) (by decide) hn
  have hs := simpleDefault_append hf (some value)
  rw [headed_append] at hs
  simp only [constantLine, hd, hs, constantValue_written, Option.map_some]

theorem walk_annotates {name : String} {items : List Script.Item} :
    walk none ([.annotates name] ++ items) = walk (pendingAfter none (.annotates name)) items := by
  simp [walk, itemSummary]

theorem walk_variable {pending : Option Marker} {name : Name} {type : Option Name}
    {value : Option Value} :
    walk pending [.variable name.text (type.map (·.text)) (value.map (·.text))] =
      propertySummary pending (propertyWritten name type value) := by
  simp [walk, itemSummary, propertyWritten, Function.comp_def]

theorem trimmedLine_tool : trimmedLine "@tool".toList = { isTool := true } := by
  cbv

theorem trimmedLine_line (d : Declaration) : trimmedLine d.line = walk none d.items := by
  cases d
  case tool => exact trimmedLine_tool
  case className name =>
    have hl : lead (headed "class_name" name.chars) = "class_name".toList :=
      lead_headed (by decide)
    have hd : declared? "class_name" (headed "class_name" (name.chars ++ [])) = _ :=
      declared?_headed name.toRun stops_nil
    rw [List.append_nil] at hd
    refine (trimmedLine_className hl).trans ?_
    rw [classNameLine, hd]
    rfl
  case base b =>
    have hl : lead (headed "extends" b.written) = "extends".toList :=
      lead_headed (by decide)
    have hk := keyword?_headed (k := "extends") b.namesBase.stops_isBlank
    refine (trimmedLine_extends hl).trans ?_
    rw [extendsLine, extendsBase?, hk, Option.bind_some, baseName?_eq_some_iff.mpr b.namesBase]
    rfl
  case signal name params =>
    have hw : Stops isWord ('(' :: (paramsWritten params ++ [')'])) := by simp [isWord]
    have hl : lead (headed "signal" (name.chars ++
      '(' :: (paramsWritten params ++ [')']))) = "signal".toList := lead_headed (by decide)
    refine (trimmedLine_signal hl).trans ?_
    rw [signalLine, declared?_headed name.toRun hw]
    simp [parenthesized?_written, splitParams_written, Declaration.items, walk, itemSummary]
  case property mark name type value =>
    cases mark
    case plain =>
      have hl : lead (variableWritten name type value) = "var".toList := lead_headed (by decide)
      refine (trimmedLine_of_member hl (by decide)).trans ?_
      rw [memberLine_plain, Declaration.items, VariableMark.items, List.nil_append,
        walk_variable]
    case exported =>
      have hl : lead (headed "@export" (variableWritten name type value)) =
        "@export".toList := lead_headed (by decide)
      have hp : pendingAfter none (.annotates "export") = some .exported := by decide
      refine (trimmedLine_of_member hl (by decide)).trans ?_
      rw [memberLine_exported, Declaration.items, VariableMark.items, walk_annotates, hp,
        walk_variable]
    case deferred =>
      have hl : lead (headed "@onready" (variableWritten name type value)) =
        "@onready".toList := lead_headed (by decide)
      have hp : pendingAfter none (.annotates "onready") = some .deferred := by decide
      refine (trimmedLine_of_member hl (by decide)).trans ?_
      rw [memberLine_deferred, Declaration.items, VariableMark.items, walk_annotates, hp,
        walk_variable]
  case function isStatic name params returnType =>
    cases isStatic
    case false =>
      have hl : lead (functionWritten name params returnType) = "func".toList :=
        lead_headed (by decide)
      refine (trimmedLine_function (.inr hl)).trans ?_
      rw [functionLine_plain]
      simp [Declaration.items, walk, itemSummary]
    case true =>
      have hl : lead (headed "static" (functionWritten name params returnType)) =
        "static".toList := lead_headed (by decide)
      refine (trimmedLine_function (.inl hl)).trans ?_
      have hp : pendingAfter none (.annotates "static") = some .static := by decide
      rw [functionLine_static, Declaration.items, if_pos rfl, walk_annotates, hp]
      simp [walk, itemSummary]
  case constant name value =>
    have hl : lead (headed "const" (name.chars ++ initializerWritten (some value))) =
      "const".toList := lead_headed (by decide)
    refine (trimmedLine_constant hl).trans ?_
    rw [constantLine_written]
    rfl
  case enumeration name =>
    have hl : lead (headed "enum" (name.chars ++ " \x7b\x7d".toList)) = "enum".toList :=
      lead_headed (by decide)
    have hw : Stops isWord " \x7b\x7d".toList := rfl
    refine (trimmedLine_enum hl).trans ?_
    rw [enumLine, declared?_headed name.toRun hw]
    rfl

def EndsPlain (cs : List Char) : Prop :=
  ∃ front c, cs = front ++ [c] ∧ isBlank c = false

namespace EndsPlain

variable {cs : List Char}

theorem concat (front : List Char) {c : Char} (h : isBlank c = false) : EndsPlain (front ++ [c]) :=
  ⟨front, c, rfl, h⟩

theorem append (h : EndsPlain cs) (front : List Char) : EndsPlain (front ++ cs) := by
  have ⟨fs, c, he, hc⟩ := h
  exact ⟨front ++ fs, c, by simp [he], hc⟩

theorem cons (h : EndsPlain cs) (c : Char) : EndsPlain (c :: cs) :=
  h.append [c]

theorem headed (h : EndsPlain cs) (k : String) : EndsPlain (headed k cs) :=
  (h.cons ' ').append k.toList

theorem ofRun {p : Char → Bool} (r : Run p) (h : ∀ c, p c → isBlank c = false) :
    EndsPlain r.chars :=
  ⟨_, _, (List.dropLast_concat_getLast r.ne_nil).symm, h _ (r.all _ (List.getLast_mem _))⟩

theorem stops_reverse (h : EndsPlain cs) : Stops isBlank cs.reverse := by
  have ⟨front, c, he, hc⟩ := h
  simpa [he] using hc

theorem getLast?_ne (h : EndsPlain cs) : cs.getLast? ≠ some '\r' := by
  have ⟨front, c, he, hc⟩ := h
  rintro hl
  simp only [he, List.getLast?_append, List.getLast?_singleton, Option.some_or,
    Option.some.injEq] at hl
  simp [hl, isBlank] at hc

end EndsPlain

section

theorem endsPlain_dotted (w : Word) : (ws : List Word) → EndsPlain (w.chars ++ dottedTail ws)
  | [] => by simpa [dottedTail] using EndsPlain.ofRun w fun _ => isBlank_of_isWord
  | v :: ws => (endsPlain_dotted v ws).cons '.' |>.append w.chars

theorem Base.endsPlain (b : Base) : EndsPlain b.written := by
  cases b
  case words first rest => exact endsPlain_dotted first rest
  case path chars _ _ _ => exact .concat ('"' :: chars) rfl

theorem Value.endsPlain (v : Value) : EndsPlain v.written := by
  cases v
  case number negative whole fraction =>
    cases fraction
    case none =>
      simpa [Value.written] using (EndsPlain.ofRun whole fun _ => isBlank_of_isDigit).append _
    case some f =>
      have hf := EndsPlain.ofRun f fun _ => isBlank_of_isDigit
      exact (hf.cons '.').append _
  case string quote content _ _ =>
    exact .concat (quote.char :: content) (by cases quote <;> rfl)
  case dotted first rest => exact endsPlain_dotted first.toRun (rest.map (·.toRun))

theorem endsPlain_variable (name : Name) (type : Option Name) (value : Option Value) :
    EndsPlain (variableWritten name type value) := by
  have hw (n : Name) : EndsPlain n.chars := .ofRun n.toRun fun _ => isBlank_of_isWord
  have he : EndsPlain (name.chars ++ (typeWritten type ++ initializerWritten value)) := by
    cases value
    case some v => exact v.endsPlain.cons ' ' |>.cons '=' |>.cons ' ' |>.append _ |>.append _
    case none =>
      cases type
      case none => simpa [typeWritten, initializerWritten] using hw name
      case some t =>
        simpa [typeWritten, initializerWritten] using
          (hw t).cons ' ' |>.cons ':' |>.append name.chars
  exact he.headed _

theorem Declaration.endsPlain_line (d : Declaration) : EndsPlain d.line := by
  cases d
  case tool => exact .concat "@too".toList rfl
  case className name => exact (EndsPlain.ofRun name.toRun fun _ => isBlank_of_isWord).headed _
  case base b => exact b.endsPlain.headed _
  case signal name params =>
    have hp : EndsPlain (paramsWritten params ++ [')']) := .concat _ rfl
    exact hp.cons '(' |>.append name.chars |>.headed _
  case property mark name type value =>
    have hv := endsPlain_variable name type value
    cases mark
    case plain => exact hv
    case exported => exact hv.headed _
    case deferred => exact hv.headed _
  case function isStatic name params returnType =>
    have hr : EndsPlain (returnWritten returnType ++ [':']) := .concat _ rfl
    have hf : EndsPlain (functionWritten name params returnType) :=
      hr.cons ')' |>.append _ |>.cons '(' |>.append name.chars |>.headed _
    cases isStatic
    case false => exact hf
    case true => exact hf.headed _
  case constant name value =>
    exact value.endsPlain.cons ' ' |>.cons '=' |>.cons ' ' |>.append name.chars |>.headed _
  case enumeration name => exact .headed (.append (.concat " \x7b".toList rfl) name.chars) _

theorem Declaration.isOutermost_line (d : Declaration) : isOutermost d.line := by
  cases d
  case property mark name type value => cases mark <;> rfl
  case function isStatic name params returnType => cases isStatic <;> rfl
  all_goals rfl

theorem newline_not_mem_dotted (w : Word) :
    (ws : List Word) → '\n' ∉ w.chars ++ dottedTail ws
  | [] => by simpa [dottedTail] using w.not_mem (c := '\n') rfl
  | v :: ws => by
    have hw : '\n' ∉ w.chars := w.not_mem rfl
    simpa [dottedTail, hw] using newline_not_mem_dotted v ws

theorem Base.newline_not_mem (b : Base) : '\n' ∉ b.written := by
  cases b
  case words first rest => exact newline_not_mem_dotted first rest
  case path chars _ _ no_newline => simp [Base.written, no_newline]

theorem Value.newline_not_mem (v : Value) : '\n' ∉ v.written := by
  cases v
  case number negative whole fraction =>
    have hd (r : Digits) : '\n' ∉ r.chars := r.not_mem rfl
    cases negative <;> cases fraction <;> simp [Value.written, hd]
  case string quote content no_quote no_newline =>
    cases quote <;> simp [Value.written, Quote.char, no_newline]
  case dotted first rest => exact newline_not_mem_dotted first.toRun (rest.map (·.toRun))

theorem newline_not_mem_initializer (value : Option Value) : '\n' ∉ initializerWritten value := by
  cases value
  case none => simp [initializerWritten]
  case some v => simp [initializerWritten, v.newline_not_mem]

theorem Declaration.newline_not_mem (d : Declaration) : '\n' ∉ d.line := by
  have hn (n : Name) : '\n' ∉ n.chars := n.not_mem rfl
  have ht (type : Option Name) : '\n' ∉ typeWritten type :=
    not_mem_typeWritten rfl (by decide) (by decide) type
  have hp (ps : List PlainParam) : '\n' ∉ paramsWritten ps :=
    not_mem_paramsWritten rfl (by decide) (by decide) (by decide) ps
  have hh (k : String) {cs : List Char} (h : '\n' ∉ cs)
      (hk : '\n' ∉ k.toList := by decide) : '\n' ∉ headed k cs :=
    not_mem_headed hk (by decide) h
  cases d
  case tool => decide
  case className name => exact hh "class_name" (hn name)
  case base b => exact hh "extends" b.newline_not_mem
  case signal name params => exact hh "signal" (by simp [hn name, hp params])
  case property mark name type value =>
    have hv : '\n' ∉ variableWritten name type value :=
      hh "var" (by simp [hn name, ht type, newline_not_mem_initializer value])
    cases mark
    case plain => exact hv
    case exported => exact hh "@export" hv
    case deferred => exact hh "@onready" hv
  case function isStatic name params returnType =>
    have hr : '\n' ∉ returnWritten returnType := by
      cases returnType
      case none => simp [returnWritten]
      case some r => simp [returnWritten, hn r]
    have hf : '\n' ∉ functionWritten name params returnType :=
      hh "func" (by simp [hn name, hp params, hr])
    cases isStatic
    case false => exact hf
    case true => exact hh "static" hf
  case constant name value =>
    exact hh "const" (by simp [hn name, newline_not_mem_initializer (some value)])
  case enumeration name => exact hh "enum" (by simp [hn name])

theorem lineSummary_line (d : Declaration) : lineSummary d.line = walk none d.items := by
  have hs : Stops isBlank d.line := by
    have ho := d.isOutermost_line
    cases hd : d.line
    case nil => rfl
    case cons c cs =>
      simp only [hd, isOutermost, Bool.and_eq_true, Bool.not_eq_true'] at ho
      exact stops_cons.mpr ho.left
  rw [lineSummary, if_pos d.isOutermost_line, trim_of_ends hs d.endsPlain_line.stops_reverse,
    trimmedLine_line]

-- An annotation does not outlast the declaration it belongs to.
theorem walk_append (d : Declaration) (items : List Script.Item) :
    walk none (d.items ++ items) = (walk none d.items).merge (walk none items) := by
  cases d
  case property mark name type value =>
    cases mark <;> simp [Declaration.items, VariableMark.items, walk, itemSummary, pendingAfter]
  case function isStatic name params returnType =>
    cases isStatic <;> simp [Declaration.items, walk, itemSummary, pendingAfter]
  all_goals simp [Declaration.items, walk, itemSummary, pendingAfter]

theorem lines_sourceOf : (ds : List Declaration) →
    lines (sourceOf ds).toList = ds.map Declaration.line
  | [] => by simp [sourceOf, lines]
  | d :: ds => by
    have hi := lines_sourceOf ds
    simp only [sourceOf, String.toList_ofList] at hi
    simp [sourceOf, lines_append d.newline_not_mem d.endsPlain_line.getLast?_ne, hi]

theorem walk_flatMap_items : (ds : List Declaration) →
    walk none (ds.flatMap Declaration.items) =
      Summary.mergeAll (ds.map fun d => walk none d.items)
  | [] => by simp [walk, Summary.mergeAll]
  | d :: ds => by simp [walk_append, Summary.mergeAll, walk_flatMap_items ds]

end

-- A script of one-line declarations has the same table whether its lines or its declarations are
-- looked at.
theorem extractLines_eq_extract (path : String) (ds : List Declaration) :
    extractLines path (sourceOf ds) =
      extract (fun _ => .ok (ds.flatMap Declaration.items)) path (sourceOf ds) := by
  have hs : fromLines (sourceOf ds) = walk none (ds.flatMap Declaration.items) := by
    rw [fromLines, lines_sourceOf, walk_flatMap_items, List.map_map]
    exact congrArg _ (List.map_congr_left fun d _ => lineSummary_line d)
  rw [extractLines, extract, hs]

example :
    let x : Name := ⟨.ofAll "x".toList (by decide) (by decide), by decide⟩
    let t : Name := ⟨.ofAll "T".toList (by decide) (by decide), by decide⟩
    let one : Digits := .ofAll "1".toList (by decide) (by decide)
    sourceOf [.tool, .base (.words t.toRun [x.toRun]), .signal x [⟨x, some t⟩, ⟨t, none⟩],
      .property .exported x (some t) (some (.number true one (some one))),
      .function true x [⟨x, some t⟩] (some t), .enumeration t] =
        "@tool\nextends T.x\nsignal x(x: T, T)\n@export var x: T = -1.1\n" ++
          "static func x(x: T) -> T:\nenum T \x7b\x7d\n" := by
  decide +kernel

end GodotAtlas.Symbols
