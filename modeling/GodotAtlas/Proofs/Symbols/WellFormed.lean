import GodotAtlas.Proofs.Symbols.Expression
import GodotAtlas.Symbols.Extract

namespace GodotAtlas.Symbols

open Text

open Script (Item)

structure Members.WellFormed (m : Members) : Prop where
  functions : ∀ f ∈ m.functions, f.isStatic = false
  staticFunctions : ∀ f ∈ m.staticFunctions, f.isStatic = true
  defaults : ∀ p ∈ m.exported ++ m.deferred ++ m.plain, ∀ v, p.default = some v → cleanExpr v = v
  values : ∀ c ∈ m.constants, ∀ v, c.value = some v → cleanExpr v = v ∧ v ≠ ""

-- The members of some types, and of the types inside them at any depth.
inductive Level : List InnerType → Members → Prop
  | here {ts : List InnerType} {t : InnerType} (h : t ∈ ts) : Level ts t.members
  | inner {ts : List InnerType} {t : InnerType} {m : Members} (h : t ∈ ts)
      (l : Level t.innerTypes m) : Level ts m

structure Summary.WellFormed (s : Summary) : Prop where
  members : s.members.WellFormed
  innerTypes : ∀ m, Level s.innerTypes m → m.WellFormed

-- A summary without depth: no inner types, and of enumerations only their names.
structure Summary.Flat (s : Summary) : Prop where
  innerTypes : s.innerTypes = []
  enums : ∀ e ∈ s.members.enums, e.name.isSome ∧ e.values = []

section

variable {m : Members}

@[simp]
theorem not_level_nil : ¬Level [] m := by
  intro h
  cases h
  case here hn => cases hn
  case inner hn _ => cases hn

theorem level_append {ts us : List InnerType} :
    Level (ts ++ us) m ↔ Level ts m ∨ Level us m := by
  constructor
  case mp =>
    intro h
    cases h
    case here t h => exact (List.mem_append.mp h).imp .here .here
    case inner t h l => exact (List.mem_append.mp h).imp (.inner · l) (.inner · l)
  case mpr =>
    rintro (h | h)
    all_goals
      cases h
      case here t h => exact .here (by simp [h])
      case inner t h l => exact .inner (List.mem_append.mpr (by simp [h])) l

theorem level_singleton {t : InnerType} :
    Level [t] m ↔ m = t.members ∨ Level t.innerTypes m := by
  constructor
  case mp =>
    intro h
    cases h
    case here h => exact .inl (List.mem_singleton.mp h ▸ rfl)
    case inner h l => exact .inr (List.mem_singleton.mp h ▸ l)
  case mpr =>
    rintro (h | l)
    case inl => exact h ▸ .here List.mem_cons_self
    case inr => exact .inner List.mem_cons_self l

end

theorem Members.WellFormed.empty : Members.WellFormed {} := by
  constructor <;> simp

theorem Members.WellFormed.append {a b : Members} (ha : a.WellFormed) (hb : b.WellFormed) :
    (a.append b).WellFormed := by
  constructor
  case functions => exact List.forall_mem_append.mpr ⟨ha.functions, hb.functions⟩
  case staticFunctions =>
    exact List.forall_mem_append.mpr ⟨ha.staticFunctions, hb.staticFunctions⟩
  case defaults =>
    intro p hp
    have h : p ∈ a.exported ++ a.deferred ++ a.plain ∨ p ∈ b.exported ++ b.deferred ++ b.plain := by
      simp only [Members.append, List.mem_append] at hp ⊢
      tauto
    exact h.elim (ha.defaults p) (hb.defaults p)
  case values => exact List.forall_mem_append.mpr ⟨ha.values, hb.values⟩

namespace Summary

variable {a b s : Summary}

theorem WellFormed.of_members (h : s.members.WellFormed) (hi : s.innerTypes = []) :
    s.WellFormed where
  members := h
  innerTypes := by simp [hi]

theorem WellFormed.merge (ha : a.WellFormed) (hb : b.WellFormed) : (a.merge b).WellFormed where
  members := ha.members.append hb.members
  innerTypes m h := (level_append.mp h).elim (ha.innerTypes m) (hb.innerTypes m)

theorem Flat.merge (ha : a.Flat) (hb : b.Flat) : (a.merge b).Flat where
  innerTypes := by simp [Summary.merge, ha.innerTypes, hb.innerTypes]
  enums := List.forall_mem_append.mpr ⟨ha.enums, hb.enums⟩

end Summary

section

variable {pending : Option Marker}

theorem wellFormed_propertySummary {name : String} {type value : Option String} :
    (propertySummary pending { name, type, default := value.map cleanExpr }).WellFormed := by
  have hd : ∀ v, value.map cleanExpr = some v → cleanExpr v = v := by
    intro v hv
    have ⟨w, _, he⟩ := Option.map_eq_some_iff.mp hv
    exact he ▸ cleanExpr_cleanExpr w
  rcases pending with _ | _ | _ | _ | _
  all_goals
    refine .of_members ?_ rfl
    constructor <;> simp [propertySummary]
  all_goals simpa using hd

theorem wellFormed_functionSummary {name : String} {params : List Script.Param}
    {returnType : Option String} :
    (functionSummary pending name params returnType).WellFormed := by
  rw [functionSummary]
  split
  all_goals
    refine .of_members ?_ rfl
    constructor <;> simp

theorem wellFormed_constant {name : String} {value : Option String}
    (h : ∀ v, value = some v → cleanExpr v = v ∧ v ≠ "") :
    Members.WellFormed { constants := [{ name, value }] } := by
  constructor
  case values => simpa using h
  all_goals simp

theorem constantValue_eq_some {value : Option String} {v : String}
    (h : constantValue value = some v) : cleanExpr v = v ∧ v ≠ "" := by
  simp only [constantValue, Option.filter_eq_some_iff, Option.map_eq_some_iff] at h
  have ⟨⟨w, _, he⟩, hn⟩ := h
  exact ⟨he ▸ cleanExpr_cleanExpr w, by simpa using hn⟩

end

mutual

theorem wellFormed_itemSummary (pending : Option Marker) :
    (item : Item) → (itemSummary pending item).WellFormed
  | .class name ext body => by
    have hw := wellFormed_walk none body
    rw [itemSummary]
    refine ⟨.empty, fun m hm => ?_⟩
    cases level_singleton.mp hm
    case inl h => exact h ▸ hw.members
    case inr h => exact hw.innerTypes m h
  | .variable _ _ _ => by rw [itemSummary]; exact wellFormed_propertySummary
  | .function _ _ _ => by rw [itemSummary]; exact wellFormed_functionSummary
  | .constant _ value => by
    rw [itemSummary]
    exact .of_members (wellFormed_constant fun v => constantValue_eq_some) rfl
  | .signal _ _ | .enumeration _ _ => by
    rw [itemSummary]
    refine .of_members ?_ rfl
    constructor <;> simp
  | .tool | .className _ | .extends _ | .annotates _ | .other => by
    rw [itemSummary]
    exact .of_members .empty rfl

theorem wellFormed_walk (pending : Option Marker) :
    (items : List Item) → (walk pending items).WellFormed
  | [] => by
    rw [walk]
    exact .of_members .empty rfl
  | item :: items => by
    rw [walk]
    exact (wellFormed_itemSummary pending item).merge (wellFormed_walk _ items)

end

def Visible (cs : List Char) : Prop :=
  ∃ c ds, cs = c :: ds ∧ isBlank c = false

theorem visible_run {p : Char → Bool} (r : Run p) (h : ∀ c, p c → isBlank c = false)
    (cs : List Char) : Visible (r.chars ++ cs) := by
  have ⟨c, ds, he, hc⟩ := r.exists_cons
  exact ⟨c, ds ++ cs, by simp [he], h c hc⟩

section

variable {cs v rest : List Char}

theorem visible_numberText? (h : numberText? cs = some (v, rest)) : Visible v := by
  unfold numberText? at h
  split at h
  case _ sign ds hm =>
    obtain ⟨⟨whole, r⟩, hr, he⟩ := Option.map_eq_some_iff.mp h
    obtain ⟨digits, ht, _⟩ := run?_eq_some_iff.mp hr
    subst ht
    have hv : ∃ es, v = sign ++ (digits.chars ++ es) := by
      simp only at he
      split at he
      case h_1 fs =>
        split at he
        case h_1 fraction _ _ =>
          cases he
          exact ⟨'.' :: fraction, List.append_assoc ..⟩
        case h_2 =>
          cases he
          exact ⟨[], by rw [List.append_nil]⟩
      case h_2 =>
        cases he
        exact ⟨[], by rw [List.append_nil]⟩
    obtain ⟨es, hv⟩ := hv
    rw [hv]
    -- A sign may stand in front of the digits.
    split at hm
    case h_1 =>
      cases hm
      exact ⟨'-', digits.chars ++ es, rfl, rfl⟩
    case h_2 =>
      cases hm
      exact visible_run digits (fun _ => isBlank_of_isDigit) es

theorem visible_stringText? {quote : Char} (hq : isBlank quote = false)
    (h : stringText? quote cs = some (v, rest)) : Visible v := by
  cases cs
  case nil => cases h
  case cons c cs =>
    rw [stringText?] at h
    split at h
    case isTrue =>
      have ⟨_, _, he⟩ := Option.map_eq_some_iff.mp h
      cases he
      exact ⟨quote, _, rfl, hq⟩
    case isFalse => cases h

theorem visible_dottedText? (h : dottedText? cs = some (v, rest)) : Visible v := by
  have ⟨⟨w, r⟩, hw, he⟩ := Option.map_eq_some_iff.mp h
  cases he
  cases cs
  case nil => cases hw
  case cons c cs =>
    rw [plainWord?] at hw
    split at hw
    case isTrue =>
      have ⟨run, ht, _⟩ := run?_eq_some_iff.mp hw
      exact ht ▸ visible_run run (fun _ => isBlank_of_isWord) _
    case isFalse => cases hw

theorem visible_simpleValue? (h : simpleValue? cs = some (v, rest)) : Visible v := by
  simp only [simpleValue?, Option.or_eq_some_iff] at h
  rcases h with h | ⟨_, h | ⟨_, h | ⟨_, h⟩⟩⟩
  · exact visible_numberText? h
  · exact visible_stringText? rfl h
  · exact visible_stringText? rfl h
  · exact visible_dottedText? h

end

theorem simpleDefault_eq_some {line : List Char} {v : String} (h : simpleDefault line = some v) :
    cleanExpr v = v ∧ v ≠ "" := by
  have ⟨w, hw, he⟩ := Option.map_eq_some_iff.mp h
  have ⟨⟨_, r⟩, hf, hr⟩ := Option.map_eq_some_iff.mp hw
  cases hr
  have ⟨_, cs, _, hm⟩ := Matcher.first_eq_some_iff.mp hf
  have ⟨ds, _, hi⟩ := Option.bind_eq_some_iff.mp hm.found
  have ⟨⟨x, rest⟩, hv, hx⟩ := Option.bind_eq_some_iff.mp hi
  simp only at hx
  split at hx
  case isTrue =>
    cases hx
    have ⟨c, es, hc, hb⟩ := visible_simpleValue? hv
    rw [← he]
    exact ⟨cleanExpr_cleanExpr _, hc ▸ cleanExpr_ne_empty hb es⟩
  case isFalse => cases hx

-- What can be recovered from a line.
structure Summary.Recovered (s : Summary) : Prop where
  wellFormed : s.WellFormed
  flat : s.Flat

namespace Summary

theorem Recovered.of_members {s : Summary} (h : s.members.WellFormed)
    (he : ∀ e ∈ s.members.enums, e.name.isSome ∧ e.values = []) (hi : s.innerTypes = []) :
    s.Recovered where
  wellFormed := .of_members h hi
  flat := ⟨hi, he⟩

theorem Recovered.of_empty {s : Summary} (h : s.members = {}) (hi : s.innerTypes = []) :
    s.Recovered :=
  .of_members (h ▸ .empty) (by simp [h]) hi

theorem Recovered.merge {a b : Summary} (ha : a.Recovered) (hb : b.Recovered) :
    (a.merge b).Recovered where
  wellFormed := ha.wellFormed.merge hb.wellFormed
  flat := ha.flat.merge hb.flat

theorem Recovered.mergeAll {ss : List Summary} (h : ∀ s ∈ ss, s.Recovered) :
    (mergeAll ss).Recovered := by
  induction ss
  case nil => exact .of_empty rfl rfl
  case cons s ss hi =>
    have ⟨hs, hss⟩ := List.forall_mem_cons.mp h
    exact hs.merge (hi hss)

end Summary

section

variable {line : List Char}

theorem recovered_classNameLine : (classNameLine line).Recovered := by
  rw [classNameLine]
  split <;> exact .of_empty rfl rfl

theorem recovered_signalLine : (signalLine line).Recovered := by
  rw [signalLine]
  split
  case h_1 =>
    refine .of_members ?_ (by simp) rfl
    constructor <;> simp
  case h_2 => exact .of_empty rfl rfl

theorem wellFormed_property {v : String × Option String} :
    Members.WellFormed { exported := [propertyOf line v] } ∧
      Members.WellFormed { deferred := [propertyOf line v] } ∧
      Members.WellFormed { plain := [propertyOf line v] } := by
  have hd : ∀ w, simpleDefault line = some w → cleanExpr w = w :=
    fun w hw => (simpleDefault_eq_some hw).left
  refine ⟨?_, ?_, ?_⟩
  all_goals
    constructor
    case defaults => simpa [propertyOf] using hd
    all_goals simp

theorem recovered_functionLine : (functionLine line).Recovered := by
  rw [functionLine]
  split
  case h_1 =>
    cases (staticWord.find? line).isSome
    all_goals
      refine .of_members ?_ (by simp) rfl
      constructor <;> simp
  case h_2 => exact .of_empty rfl rfl

theorem recovered_constantLine : (constantLine line).Recovered := by
  rw [constantLine]
  split
  case h_1 =>
    exact .of_members (wellFormed_constant fun v => simpleDefault_eq_some) (by simp) rfl
  case h_2 => exact .of_empty rfl rfl

theorem recovered_enumLine : (enumLine line).Recovered := by
  rw [enumLine]
  split
  case h_1 =>
    refine .of_members ?_ (by simp) rfl
    constructor <;> simp
  case h_2 => exact .of_empty rfl rfl

theorem recovered_variableLine : (variableLine line).Recovered := by
  rw [variableLine]
  split
  case h_1 => exact .of_members wellFormed_property.right.right (by simp) rfl
  case h_2 => exact .of_empty rfl rfl

theorem recovered_memberLine : (memberLine line).Recovered := by
  rw [memberLine]
  split
  case h_1 => exact .of_members wellFormed_property.left (by simp) rfl
  case h_2 =>
    split
    case h_1 => exact .of_members wellFormed_property.right.left (by simp) rfl
    case h_2 =>
      exact recovered_variableLine.merge
        (recovered_functionLine.merge (recovered_constantLine.merge recovered_enumLine))

theorem recovered_lineSummary : (lineSummary line).Recovered := by
  rw [lineSummary]
  split
  case isTrue =>
    exact recovered_classNameLine.merge (.merge (.of_empty rfl rfl) (.merge (.of_empty rfl rfl)
      (recovered_signalLine.merge recovered_memberLine)))
  case isFalse => exact .of_empty rfl rfl

end

theorem recovered_fromLines (source : String) : (fromLines source).Recovered := by
  apply Summary.Recovered.mergeAll
  intro s hs
  have ⟨_, _, he⟩ := List.mem_map.mp hs
  exact he ▸ recovered_lineSummary

-- What holds of a table whether or not its script could be parsed.
structure Table.WellFormed (t : Table) (parser : Script.Parser) (source : String) : Prop where
  diagnostic : t.diagnostic.isSome ↔ ∃ d, parser source = .error d
  dependencies : t.dependencies = loadReferences source
  members : t.members.WellFormed
  innerTypes : ∀ m, Level t.summary.innerTypes m → m.WellFormed
  degraded : t.isDegraded → t.summary.Flat

-- However a script is read, its table says whether it could be parsed, has all paths that its text
-- loads, and keeps its functions and values in order at every level.
theorem extract_wellFormed (parser : Script.Parser) (path source : String) :
    (extract parser path source).WellFormed parser source := by
  rw [extract]
  cases hp : parser source
  case ok items =>
    have hw := wellFormed_walk none items
    constructor
    case diagnostic => simp [hp]
    case dependencies => rfl
    case members => exact hw.members
    case innerTypes => exact hw.innerTypes
    case degraded => simp [Table.isDegraded]
  case error d =>
    have hl := recovered_fromLines source
    constructor
    case diagnostic => simp [hp]
    case dependencies => rfl
    case members => exact hl.wellFormed.members
    case innerTypes => exact hl.wellFormed.innerTypes
    case degraded => exact fun _ => hl.flat

end GodotAtlas.Symbols
