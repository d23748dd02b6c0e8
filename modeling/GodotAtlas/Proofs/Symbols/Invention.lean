import GodotAtlas.Proofs.Symbols.Names
import GodotAtlas.Proofs.Symbols.Shapes
import GodotAtlas.Script.Parse
import GodotAtlas.Symbols.Extract

namespace GodotAtlas.Symbols

open Text

-- A line looks like a declaration of a member.
inductive Reads (line : List Char) : MemberKind → String → Prop
  | signal {n : String} {rest : List Char} (h : Introduces "signal" n line rest) :
    Reads line .signal n
  | exported {n : String} (h : ExportsVariable n line) : Reads line .property n
  | deferred {n : String} (h : DefersVariable n line) : Reads line .property n
  | plain {n : String} (h : Variable n line) : Reads line .property n
  | function {n : String} (h : DeclaresFunction n line) (hn : ∀ m, ¬ExportsVariable m line) :
    Reads line .function n
  | constant {n : String} {rest : List Char} (h : Introduces "const" n line rest) :
    Reads line .constant n
  | enumeration {n : String} {rest : List Char} (h : Introduces "enum" n line rest) :
    Reads line .enumeration n

section

variable {line : List Char} {n : String} {kind : MemberKind}

theorem mem_names_of_declared {k : String} {own : MemberKind} {s : Summary}
    (hs : ∀ name rest, declared? k line = some (name, rest) →
      s.members.names kind = if kind = own then [name] else [])
    (hn : declared? k line = none → s = {}) :
    n ∈ s.members.names kind ↔ kind = own ∧ ∃ rest, Introduces k n line rest := by
  simp only [← declared?_eq_some_iff]
  cases hd : declared? k line
  case none => simp [hn hd]
  case some v =>
    have ⟨name, rest⟩ := v
    rw [hs name rest hd]
    by_cases hk : kind = own
    case pos => simp [hk, eq_comm]
    case neg => simp [hk]

theorem mem_names_signalLine : n ∈ (signalLine line).members.names kind ↔
    kind = .signal ∧ ∃ rest, Introduces "signal" n line rest := by
  apply mem_names_of_declared
  case hs =>
    intro name rest hd
    simp only [signalLine, hd]
    cases kind <;> rfl
  case hn =>
    intro hd
    simp only [signalLine, hd]

theorem mem_names_constantLine : n ∈ (constantLine line).members.names kind ↔
    kind = .constant ∧ ∃ rest, Introduces "const" n line rest := by
  apply mem_names_of_declared
  case hs =>
    intro name rest hd
    simp only [constantLine, hd]
    cases kind <;> rfl
  case hn =>
    intro hd
    simp only [constantLine, hd]

theorem mem_names_enumLine : n ∈ (enumLine line).members.names kind ↔
    kind = .enumeration ∧ ∃ rest, Introduces "enum" n line rest := by
  apply mem_names_of_declared
  case hs =>
    intro name rest hd
    simp only [enumLine, hd]
    cases kind <;> rfl
  case hn =>
    intro hd
    simp only [enumLine, hd]

theorem mem_names_functionLine : n ∈ (functionLine line).members.names kind ↔
    kind = .function ∧ DeclaresFunction n line := by
  rw [declaresFunction_iff, ← functionFrom_iff]
  simp only [functionLine]
  split
  case h_1 name params returnType hf =>
    rw [hf]
    split <;> cases kind <;> simp [Members.names, Members.allFunctions, eq_comm]
  case h_2 hf =>
    rw [hf]
    simp

theorem mem_names_property {p : Property} {s : Summary}
    (h : s = { members := { exported := [p] } } ∨ s = { members := { deferred := [p] } } ∨
      s = { members := { plain := [p] } }) :
    n ∈ s.members.names kind ↔ kind = .property ∧ n = p.name := by
  rcases h with rfl | rfl | rfl <;> cases kind <;> simp [Members.names, Members.allFunctions]

theorem mem_names_variableLine : n ∈ (variableLine line).members.names kind ↔
    kind = .property ∧ Variable n line := by
  rw [variableLine, ← variableText?_eq_some_iff]
  split
  case h_1 v hv =>
    rw [mem_names_property (.inr <| .inr rfl), hv, propertyOf]
    simp [Prod.ext_iff, eq_comm]
  case h_2 hv => simp [hv]

theorem ExportsVariable.prefix_lead (h : ExportsVariable n line) :
    "@export".toList <+: lead line := by
  have ⟨_, ht⟩ := exportedVariable?_eq_some_iff.mpr h
  have ⟨_, hs, _⟩ := Option.bind_eq_some_iff.mp ht
  exact prefix_lead_of_skip? (by decide) hs

theorem DefersVariable.lead (h : DefersVariable n line) : lead line = "@onready".toList := by
  have ⟨_, ht⟩ := deferredVariable?_eq_some_iff.mpr h
  have ⟨_, hs, _⟩ := Option.bind_eq_some_iff.mp ht
  exact lead_of_keyword? (by decide) hs

theorem Variable.lead (h : Variable n line) : lead line = "var".toList := by
  have ⟨_, hi⟩ := h
  exact hi.lead (by decide)

theorem reads_of_exports {name : String} (h : ExportsVariable name line) :
    Reads line kind n ↔ kind = .property ∧ n = name := by
  have ⟨_, ht⟩ := exportedVariable?_eq_some_iff.mpr h
  have hp := h.prefix_lead
  constructor
  case mp =>
    intro hr
    cases hr
    case signal hs => exact absurd (hs.lead (by decide) ▸ hp) (by decide)
    case exported he =>
      have ⟨_, hs⟩ := exportedVariable?_eq_some_iff.mpr he
      exact ⟨rfl, congrArg Prod.fst (Option.some.inj (hs.symm.trans ht))⟩
    case deferred hd => exact absurd (hd.lead ▸ hp) (by decide)
    case plain hv => exact absurd (hv.lead ▸ hp) (by decide)
    case function hn hf => exact absurd h (hn name)
    case constant hc => exact absurd (hc.lead (by decide) ▸ hp) (by decide)
    case enumeration he => exact absurd (he.lead (by decide) ▸ hp) (by decide)
  case mpr =>
    rintro ⟨hk, hn⟩
    rw [hk, hn]
    exact .exported h

theorem reads_of_defers {name : String} (h : DefersVariable name line)
    (he : ∀ m, ¬ExportsVariable m line) : Reads line kind n ↔ kind = .property ∧ n = name := by
  have ⟨_, ht⟩ := deferredVariable?_eq_some_iff.mpr h
  have hl := h.lead
  constructor
  case mp =>
    intro hr
    cases hr
    case signal h => exact absurd (hl.symm.trans (h.lead (by decide))) (by decide)
    case exported h => exact absurd h (he n)
    case deferred h =>
      have ⟨_, hs⟩ := deferredVariable?_eq_some_iff.mpr h
      exact ⟨rfl, congrArg Prod.fst (Option.some.inj (hs.symm.trans ht))⟩
    case plain h => exact absurd (hl.symm.trans h.lead) (by decide)
    case function _ hf => exact absurd hf h.not_function
    case constant h => exact absurd (hl.symm.trans (h.lead (by decide))) (by decide)
    case enumeration h => exact absurd (hl.symm.trans (h.lead (by decide))) (by decide)
  case mpr =>
    rintro ⟨hp, hn⟩
    rw [hp, hn]
    exact .deferred h

theorem forall_not_exports (h : exportedVariable? line = none) (m : String) :
    ¬ExportsVariable m line := by
  intro hm
  have ⟨_, hs⟩ := exportedVariable?_eq_some_iff.mpr hm
  simp [h] at hs

theorem forall_not_defers (h : deferredVariable? line = none) (m : String) :
    ¬DefersVariable m line := by
  intro hm
  have ⟨_, hs⟩ := deferredVariable?_eq_some_iff.mpr hm
  simp [h] at hs

theorem mem_names_memberLine : n ∈ (memberLine line).members.names kind ↔
    kind ≠ .signal ∧ Reads line kind n := by
  rw [memberLine]
  split
  case h_1 v he =>
    have hv := exportedVariable?_eq_some_iff.mp ⟨v.2, he⟩
    rw [mem_names_property (.inl rfl), reads_of_exports hv]
    cases kind <;> simp [propertyOf]
  case h_2 he =>
    split
    case h_1 v hd =>
      have hv := deferredVariable?_eq_some_iff.mp ⟨v.2, hd⟩
      rw [mem_names_property (.inr <| .inl rfl), reads_of_defers hv (forall_not_exports he)]
      cases kind <;> simp [propertyOf]
    case h_2 hd =>
      -- Neither annotation is there, and all other rules have a say.
      simp only [Summary.merge, mem_names_append, mem_names_variableLine, mem_names_functionLine,
        mem_names_constantLine, mem_names_enumLine]
      constructor
      case mp =>
        rintro (⟨rfl, hv⟩ | ⟨rfl, hf⟩ | ⟨rfl, _, hc⟩ | ⟨rfl, _, he⟩)
        · exact ⟨by decide, .plain hv⟩
        · exact ⟨by decide, .function hf (forall_not_exports he)⟩
        · exact ⟨by decide, .constant hc⟩
        · exact ⟨by decide, .enumeration he⟩
      case mpr =>
        rintro ⟨hk, hr⟩
        cases hr
        case signal => contradiction
        case exported h => exact absurd h (forall_not_exports he n)
        case deferred h => exact absurd h (forall_not_defers hd n)
        case plain h => exact .inl ⟨rfl, h⟩
        case function hf => exact .inr <| .inl ⟨rfl, hf⟩
        case constant rest h => exact .inr <| .inr <| .inl ⟨rfl, rest, h⟩
        case enumeration rest h => exact .inr <| .inr <| .inr ⟨rfl, rest, h⟩

theorem signalLine_headless :
    (signalLine line).className = none ∧ (signalLine line).base = none := by
  rw [signalLine]
  split <;> exact ⟨rfl, rfl⟩

theorem memberLine_headless :
    (memberLine line).className = none ∧ (memberLine line).base = none := by
  have hv : (variableLine line).className = none ∧ (variableLine line).base = none := by
    rw [variableLine]
    split <;> exact ⟨rfl, rfl⟩
  have hf : (functionLine line).className = none ∧ (functionLine line).base = none := by
    simp only [functionLine]
    split
    case h_1 => split <;> exact ⟨rfl, rfl⟩
    case h_2 => exact ⟨rfl, rfl⟩
  have hc : (constantLine line).className = none ∧ (constantLine line).base = none := by
    rw [constantLine]
    split <;> exact ⟨rfl, rfl⟩
  have he : (enumLine line).className = none ∧ (enumLine line).base = none := by
    rw [enumLine]
    split <;> exact ⟨rfl, rfl⟩
  rw [memberLine]
  split
  case h_1 => exact ⟨rfl, rfl⟩
  case h_2 =>
    split
    case h_1 => exact ⟨rfl, rfl⟩
    case h_2 => simp [Summary.merge, hv, hf, hc, he]

theorem className_trimmedLine : (trimmedLine line).className = some n ↔ ReadsClassName line n := by
  rw [← className_classNameLine]
  simp [trimmedLine, Summary.merge, extendsLine, toolLine, signalLine_headless,
    memberLine_headless]

theorem base_trimmedLine : (trimmedLine line).base = some n ↔ ReadsBase line n := by
  have hb : (trimmedLine line).base = (extendsBase? line).or (classNameLine line).base := by
    simp [trimmedLine, Summary.merge, extendsLine, toolLine, signalLine_headless,
      memberLine_headless]
  rw [hb, Option.or_eq_some_iff, ReadsBase, base_classNameLine, extendsBase?_eq_some_iff]
  constructor
  case mp =>
    rintro (he | ⟨_, hc⟩)
    · exact .inl he
    · exact .inr hc
  case mpr =>
    rintro (he | hc)
    · exact .inl he
    · have hn : extendsBase? line = none := by
        obtain ⟨_, _, _, hi, _⟩ := hc
        rw [extendsBase?, keyword?_of_lead (hi.lead (by decide)) (by decide) (by decide)]
        rfl
      exact .inr ⟨hn, hc⟩

theorem mem_names_trimmedLine :
    n ∈ (trimmedLine line).members.names kind ↔ Reads line kind n := by
  have hc : (classNameLine line).members = {} := by
    rw [classNameLine]
    split <;> rfl
  simp only [trimmedLine, Summary.merge, mem_names_append, hc, extendsLine, toolLine, names_empty,
    List.not_mem_nil, false_or, mem_names_signalLine, mem_names_memberLine]
  constructor
  case mp =>
    rintro (⟨rfl, _, hs⟩ | ⟨_, hr⟩)
    · exact .signal hs
    · exact hr
  case mpr =>
    intro hr
    by_cases hk : kind = .signal
    case neg => exact .inr ⟨hk, hr⟩
    case pos =>
      subst hk
      cases hr
      case signal rest hs => exact .inl ⟨rfl, rest, hs⟩

end

-- The lines that start at the margin and are no comments.
def marginLines (source : String) : List (List Char) :=
  ((lines source.toList).filter isOutermost).map trim

theorem fromLines_eq {source : String} :
    fromLines source = Summary.mergeAll ((marginLines source).map trimmedLine) := by
  rw [fromLines, marginLines]
  induction lines source.toList
  case nil => rfl
  case cons l ls hi =>
    by_cases hl : isOutermost l
    case pos => simp [Summary.mergeAll, lineSummary, hl, hi]
    case neg => simp [Summary.mergeAll, lineSummary, hl, hi]

-- What looks like a declaration at the margin of a script is one.
structure MarginFaithful (source : String) (items : List Script.Item) : Prop where
  className : ∀ n, First ReadsClassName (marginLines source) n →
    First (fun item n => item = .className n) items n
  base : ∀ b, Last ReadsBase (marginLines source) b → Last (fun item b => item = .extends b) items b
  members : ∀ line ∈ marginLines source, ∀ kind n, Reads line kind n →
    ∃ item ∈ items, memberOf? item = some (kind, n)

theorem within_walk_iff {source : String} {items : List Script.Item} :
    (fromLines source).Within (walk none items) ↔ MarginFaithful source items := by
  have hc (n : String) : (fromLines source).className = some n ↔
      First ReadsClassName (marginLines source) n := by
    simp only [fromLines_eq, className_mergeAll, className_trimmedLine]
  have hb (n : String) : (fromLines source).base = some n ↔
      Last ReadsBase (marginLines source) n := by
    simp only [fromLines_eq, base_mergeAll, base_trimmedLine]
  have hm (kind : MemberKind) (n : String) : n ∈ (fromLines source).members.names kind ↔
      ∃ line ∈ marginLines source, Reads line kind n := by
    simp only [fromLines_eq, mem_names_mergeAll, mem_names_trimmedLine]
  constructor
  case mp =>
    intro h
    constructor
    case className => exact fun n hn => className_walk.mp (h.className n ((hc n).mpr hn))
    case base => exact fun b hn => base_walk.mp (h.base b ((hb b).mpr hn))
    case members =>
      intro line hl kind n hr
      exact mem_names_walk.mp (h.members kind n ((hm kind n).mpr ⟨line, hl, hr⟩))
  case mpr =>
    intro h
    constructor
    case className => exact fun n hn => className_walk.mpr (h.className n ((hc n).mp hn))
    case base => exact fun b hn => base_walk.mpr (h.base b ((hb b).mp hn))
    case members =>
      intro kind n hn
      have ⟨line, hl, hr⟩ := (hm kind n).mp hn
      exact mem_names_walk.mpr (h.members line hl kind n hr)

section

variable {source path : String} {items : List Script.Item}

theorem within_extract_iff (h : Script.parse source = .ok items) :
    (extractLines path source).summary.Within (extract Script.parse path source).summary ↔
      (fromLines source).Within (walk none items) := by
  rw [extractLines, extract, h]

def staysWithin? (source : String) : Option Bool :=
  match Script.parse source with
  | .ok items => some (decide ((fromLines source).Within (walk none items)))
  | .error _ => none

theorem staysWithin?_eq_some {b : Bool} (h : staysWithin? source = some b) :
    ∃ items, Script.parse source = .ok items ∧
      decide ((fromLines source).Within (walk none items)) = b := by
  rw [staysWithin?] at h
  split at h
  case h_1 items hp => exact ⟨items, hp, Option.some.inj h⟩
  case h_2 => cases h

end

-- The lines of a script that can be parsed name nothing but what its declarations name exactly if
-- all that looks like a declaration at the margin is one.
theorem extractLines_within_iff {source : String} {items : List Script.Item}
    (h : Script.parse source = .ok items) (path : String) :
    (extractLines path source).summary.Within (extract Script.parse path source).summary ↔
      MarginFaithful source items :=
  (within_extract_iff h).trans within_walk_iff

-- A script with a string over several lines, none of which looks like a declaration.
def quotedText : String :=
  "extends Node\nvar s = \"\"\"\nfunction\n\"\"\"\nfunc real():\n\tpass\n"

theorem extractLines_within_quotedText : ∃ items, Script.parse quotedText = .ok items ∧
    MarginFaithful quotedText items ∧ (extractLines "a.gd" quotedText).summary.Within
      (extract Script.parse "a.gd" quotedText).summary := by
  have hs : staysWithin? quotedText = some true := by decide +kernel
  have ⟨items, hp, hd⟩ := staysWithin?_eq_some hs
  have hw : (extractLines "a.gd" quotedText).summary.Within _ :=
    (within_extract_iff hp).mpr (of_decide_eq_true hd)
  exact ⟨items, hp, (extractLines_within_iff hp "a.gd").mp hw, hw⟩

-- Here one of the lines does, and the lines name a function that there is not.
def quotedFunction : String :=
  "var s = \"\"\"\nfunc fake():\n\"\"\"\n"

theorem extractLines_invents_function : ∃ items, Script.parse quotedFunction = .ok items ∧
    "fake" ∈ (extractLines "a.gd" quotedFunction).summary.members.names .function ∧
    ¬(extractLines "a.gd" quotedFunction).summary.Within
      (extract Script.parse "a.gd" quotedFunction).summary := by
  have hs : staysWithin? quotedFunction = some false := by decide +kernel
  have ⟨items, hp, hd⟩ := staysWithin?_eq_some hs
  have hf : "fake" ∈ (fromLines quotedFunction).members.names .function := by decide +kernel
  exact ⟨items, hp, hf, fun hw => of_decide_eq_false hd ((within_extract_iff hp).mp hw)⟩

end GodotAtlas.Symbols
