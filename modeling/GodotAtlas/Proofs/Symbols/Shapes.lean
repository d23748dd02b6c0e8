import GodotAtlas.Proofs.Symbols.LineRules

namespace GodotAtlas.Symbols

open Text

def Introduces (k n : String) (cs rest : List Char) : Prop :=
  ∃ (bs : Run isBlank) (w : Word), cs = k.toList ++ (bs.chars ++ (w.chars ++ rest)) ∧
    Stops isWord rest ∧ n = w.text

section

variable {k n : String} {cs rest : List Char}

theorem keyword?_eq_some_iff : keyword? k cs = some rest ↔
    ∃ bs : Run isBlank, cs = k.toList ++ (bs.chars ++ rest) ∧ Stops isBlank rest := by
  simp only [keyword?, Option.bind_eq_some_iff, skip?_eq_some_iff, blank?_eq_some_iff]
  constructor
  case mp =>
    rintro ⟨_, hc, bs, hd, hs⟩
    exact ⟨bs, hd ▸ hc, hs⟩
  case mpr =>
    rintro ⟨bs, hc, hs⟩
    exact ⟨_, hc, bs, rfl, hs⟩

theorem declared?_eq_some_iff : declared? k cs = some (n, rest) ↔ Introduces k n cs rest := by
  simp only [declared?, Option.bind_eq_some_iff, keyword?_eq_some_iff, Option.map_eq_some_iff,
    Prod.exists, word?, run?_eq_some_iff, Prod.mk.injEq]
  constructor
  case mp =>
    rintro ⟨_, ⟨bs, hc, _⟩, _, _, ⟨w, ht, hd, hs⟩, hn, hr⟩
    subst hd ht hr
    exact ⟨bs, w, hc, hs, hn.symm⟩
  case mpr =>
    rintro ⟨bs, w, hc, hs, hn⟩
    have hb := w.stops_append (fun _ => isBlank_of_isWord) rest
    exact ⟨_, ⟨bs, hc, hb⟩, _, _, ⟨w, rfl, rfl, hs⟩, hn.symm, rfl⟩

theorem Introduces.lead (h : Introduces k n cs rest) (hk : Unspaced k) :
    lead cs = k.toList := by
  have hd := declared?_eq_some_iff.mpr h
  have ⟨_, hk', _⟩ := Option.bind_eq_some_iff.mp hd
  exact lead_of_keyword? hk hk'

end

def EndsDotted (rest : List Char) : Prop :=
  Stops isWord rest ∧ ∀ ds, rest = '.' :: ds → Stops isWord ds

inductive NamesBase : (cs base : List Char) → Prop
  | quoted (q : Quote) {base rest : List Char} (ne_nil : base ≠ []) (no_quote : q.char ∉ base) :
    NamesBase (q.char :: (base ++ q.char :: rest)) base
  | dotted (w : Word) (ws : List Word) {rest : List Char} (ends : EndsDotted rest) :
    NamesBase (w.chars ++ (dottedTail ws ++ rest)) (w.chars ++ dottedTail ws)

section

variable {cs rest base : List Char}

theorem quotedName?_eq_some_iff {q : Char} : quotedName? q cs = some (base, rest) ↔
    base ≠ [] ∧ q ∉ base ∧ cs = q :: (base ++ q :: rest) := by
  constructor
  case mp =>
    intro h
    cases cs
    case nil => simp [quotedName?] at h
    case cons c cs =>
      rw [quotedName?] at h
      split at h
      case isFalse => cases h
      case isTrue hc =>
        split at h
        case h_1 => cases h
        case h_2 hn =>
          have ⟨hq, hcs⟩ := until?_eq_some_iff.mp h
          refine ⟨?_, hq, by rw [hc, hcs]⟩
          rintro rfl
          exact hn rest h
  case mpr =>
    rintro ⟨hn, hq, hc⟩
    have hu : until? q (base ++ q :: rest) = some (base, rest) := until?_append hq
    cases base
    case nil => contradiction
    case cons c base =>
      rw [List.cons_append] at hu hc
      simp [hc, quotedName?, hu]

theorem stops_dottedTail_append (ws : List Word) (h : EndsDotted rest) :
    Stops isWord (dottedTail ws ++ rest) := by
  cases ws
  case nil => exact h.left
  case cons w ws => simp [dottedTail, isWord]

theorem dottedRest_of_ends (h : EndsDotted rest) (n : Nat) : dottedRest n rest = [] := by
  cases n
  case zero => rfl
  case succ n =>
    cases rest
    case nil => rfl
    case cons c ds =>
      by_cases hc : c = '.'
      case pos => simp [hc, dottedRest, word?, run?_of_stops (h.right ds (by rw [hc]))]
      case neg => simp [dottedRest, hc]

-- There are no more words than characters.
theorem dottedRest_append (h : EndsDotted rest) : (ws : List Word) → (n : Nat) →
    (dottedTail ws).length ≤ n → dottedRest n (dottedTail ws ++ rest) = dottedTail ws
  | [], n, _ => dottedRest_of_ends h n
  | w :: ws, 0, hn => by simp [dottedTail] at hn
  | w :: ws, n + 1, hn => by
    simp only [dottedTail, List.cons_append, List.length_cons, List.length_append] at hn
    have hi := dottedRest_append h ws n (by omega)
    have hw := run?_append w (stops_dottedTail_append ws h)
    simp [dottedTail, dottedRest, word?, hw, hi]

theorem exists_dottedTail {cs : List Char} (hs : Stops isWord cs) :
    ∃ ws rest, cs = dottedTail ws ++ rest ∧ EndsDotted rest := by
  by_cases he : EndsDotted cs
  case pos => exact ⟨[], cs, rfl, he⟩
  case neg =>
    obtain ⟨ds, hc, hd⟩ : ∃ ds, cs = '.' :: ds ∧ ¬Stops isWord ds := by
      simpa [EndsDotted, hs] using he
    have ⟨w, cs', hw, hs'⟩ := exists_run hd
    have ⟨ws, rest, ht, hr⟩ := exists_dottedTail hs'
    exact ⟨w :: ws, rest, by simp [hc, hw, ht, dottedTail], hr⟩
termination_by cs.length
decreasing_by
  rw [hc, hw, List.length_cons, List.length_append]
  omega

theorem dotted?_eq_some_iff : dotted? cs = some base ↔
    ∃ (w : Word) (ws : List Word) (rest : List Char), EndsDotted rest ∧
      cs = w.chars ++ (dottedTail ws ++ rest) ∧ base = w.chars ++ dottedTail ws := by
  simp only [dotted?, Option.map_eq_some_iff, Prod.exists, word?, run?_eq_some_iff]
  constructor
  case mp =>
    rintro ⟨_, _, ⟨w, ht, hc, hs⟩, hb⟩
    obtain ⟨ws, rest, hr, he⟩ := exists_dottedTail hs
    subst ht hr hb hc
    rw [dottedRest_append he ws _ (by simp)]
    exact ⟨w, ws, rest, he, rfl, rfl⟩
  case mpr =>
    rintro ⟨w, ws, rest, he, hc, hb⟩
    refine ⟨_, _, ⟨w, rfl, hc, stops_dottedTail_append ws he⟩, ?_⟩
    rw [dottedRest_append he ws _ (by simp), hb]

theorem quotedName?_of_ne {q c : Char} (h : c ≠ q) : quotedName? q (c :: cs) = none := by
  simp [quotedName?, h]

theorem baseName?_eq_some_iff : baseName? cs = some base ↔ NamesBase cs base := by
  constructor
  case mp =>
    intro h
    simp only [baseName?, Option.or_eq_some_iff, Option.map_eq_some_iff, Prod.exists,
      quotedName?_eq_some_iff, dotted?_eq_some_iff] at h
    rcases h with ⟨_, rest, ⟨hn, hq, hc⟩, hb⟩ | ⟨_, h⟩
    · subst hc hb
      exact .quoted .double hn hq
    rcases h with ⟨_, rest, ⟨hn, hq, hc⟩, hb⟩ | ⟨_, w, ws, rest, he, hc, hb⟩
    · subst hc hb
      exact .quoted .single hn hq
    · subst hc hb
      exact .dotted w ws he
  case mpr =>
    intro h
    cases h
    case quoted q rest hn hq =>
      have hb : quotedName? q.char (q.char :: (base ++ q.char :: rest)) = some (base, rest) :=
        quotedName?_eq_some_iff.mpr ⟨hn, hq, rfl⟩
      cases q
      case double =>
        simp only [Quote.char] at hb
        simp [baseName?, Quote.char, hb]
      case single =>
        simp only [Quote.char] at hb
        simp [baseName?, Quote.char, hb, quotedName?_of_ne]
    case dotted w ws rest he =>
      have hd := dotted?_eq_some_iff.mpr ⟨w, ws, rest, he, rfl, rfl⟩
      have ⟨c, cs, hc, hw⟩ := w.exists_cons
      -- A word does not start with a quote.
      have hne : ∀ q, isWord q = false → c ≠ q := by
        rintro q hq rfl
        simp [hq] at hw
      simp only [hc, List.cons_append] at hd
      simp [baseName?, hc, quotedName?_of_ne (hne '"' rfl), quotedName?_of_ne (hne '\'' rfl), hd]

end

def Extends (base : String) (cs : List Char) : Prop :=
  ∃ (bs : Run isBlank) (rest b : List Char), cs = "extends".toList ++ (bs.chars ++ rest) ∧
    NamesBase rest b ∧ base = String.ofList b

def ReadsBase (line : List Char) (base : String) : Prop :=
  Extends base line ∨ ∃ (n : String) (bs : Run isBlank) (cs : List Char),
    Introduces "class_name" n line (bs.chars ++ cs) ∧ Extends base cs

def ReadsClassName (line : List Char) (n : String) : Prop :=
  ∃ rest, Introduces "class_name" n line rest

section

variable {cs rest base line : List Char} {b n : String}

theorem NamesBase.stops_isBlank (h : NamesBase cs base) : Stops isBlank cs := by
  cases h
  case quoted q rest hn hq => cases q <;> exact stops_cons.mpr rfl
  case dotted w ws rest he => exact w.stops_append (fun _ => isBlank_of_isWord) _

theorem extendsBase?_eq_some_iff : extendsBase? cs = some b ↔ Extends b cs := by
  simp only [extendsBase?, Option.bind_eq_some_iff, keyword?_eq_some_iff, Option.map_eq_some_iff,
    baseName?_eq_some_iff]
  constructor
  case mp =>
    rintro ⟨rest, ⟨bs, hc, _⟩, base, hb, he⟩
    exact ⟨bs, rest, base, hc, hb, he.symm⟩
  case mpr =>
    rintro ⟨bs, rest, base, hc, hb, he⟩
    exact ⟨rest, ⟨bs, hc, hb.stops_isBlank⟩, base, hb, he.symm⟩

theorem Extends.lead (h : Extends b cs) : lead cs = "extends".toList := by
  have ⟨_, hk, _⟩ := Option.bind_eq_some_iff.mp (extendsBase?_eq_some_iff.mpr h)
  exact lead_of_keyword? (by decide) hk

theorem className_classNameLine : (classNameLine line).className = some n ↔
    ReadsClassName line n := by
  constructor
  case mp =>
    intro h
    rw [classNameLine] at h
    split at h
    case h_1 name rest hd =>
      cases h
      exact ⟨rest, declared?_eq_some_iff.mp hd⟩
    case h_2 => cases h
  case mpr =>
    rintro ⟨rest, h⟩
    rw [classNameLine, declared?_eq_some_iff.mpr h]

theorem base_classNameLine : (classNameLine line).base = some b ↔
    ∃ (n : String) (bs : Run isBlank) (cs : List Char),
      Introduces "class_name" n line (bs.chars ++ cs) ∧ Extends b cs := by
  constructor
  case mp =>
    intro h
    rw [classNameLine] at h
    split at h
    case h_1 name rest hd =>
      obtain ⟨cs, hb, he⟩ := Option.bind_eq_some_iff.mp h
      obtain ⟨bs, hr, _⟩ := blank?_eq_some_iff.mp hb
      exact ⟨name, bs, cs, hr ▸ declared?_eq_some_iff.mp hd, extendsBase?_eq_some_iff.mp he⟩
    case h_2 => cases h
  case mpr =>
    rintro ⟨n, bs, cs, hi, he⟩
    have hs : Stops isBlank cs := by
      obtain ⟨_, _, _, hc, _⟩ := he
      rw [hc]
      exact stops_cons.mpr rfl
    have hb : blank? (bs.chars ++ cs) = some cs := blank?_eq_some_iff.mpr ⟨bs, rfl, hs⟩
    rw [classNameLine, declared?_eq_some_iff.mpr hi]
    simp [hb, extendsBase?_eq_some_iff.mpr he]

end

def Variable (n : String) (cs : List Char) : Prop :=
  ∃ rest, Introduces "var" n cs rest

def VariableBehind (n : String) (front cs : List Char) : Prop :=
  (∃ pre c, front = pre ++ [c] ∧ isWord c = false) ∧ Variable n cs

def ExportsVariable (n : String) (line : List Char) : Prop :=
  ∃ front cs, line = "@export".toList ++ (front ++ cs) ∧ VariableBehind n front cs ∧
    ∀ front' cs' m, front ++ cs = front' ++ cs' → VariableBehind m front' cs' →
      front.length ≤ front'.length

def DefersVariable (n : String) (line : List Char) : Prop :=
  ∃ (bs : Run isBlank) (cs : List Char), line = "@onready".toList ++ (bs.chars ++ cs) ∧
    Variable n cs

section

variable {cs line : List Char} {n : String}

theorem variableText?_eq_some_iff :
    (∃ type, variableText? cs = some (n, type)) ↔ Variable n cs := by
  simp only [variableText?, Option.map_eq_some_iff, Prod.exists, declared?_eq_some_iff,
    Prod.mk.injEq]
  constructor
  case mp =>
    rintro ⟨_, name, rest, hi, hn, _⟩
    exact ⟨rest, hn ▸ hi⟩
  case mpr =>
    rintro ⟨rest, hi⟩
    exact ⟨_, n, rest, hi, rfl, rfl⟩

theorem Variable.exists_cons (h : Variable n cs) : ∃ ds, cs = 'v' :: ds := by
  obtain ⟨_, _, _, hc, _⟩ := h
  exact ⟨_, hc⟩

theorem variableInside_rest {before : Option Char} {v : (String × Option String) × List Char}
    (h : variableInside before cs = some v) : v.2 = [] := by
  rw [variableInside] at h
  split at h
  case isTrue =>
    have ⟨_, _, he⟩ := Option.map_eq_some_iff.mp h
    exact he ▸ rfl
  case isFalse => cases h

theorem variableInside_eq_some_iff {front : List Char} :
    (∃ type, variableInside (front.getLast?.or (some 't')) cs = some ((n, type), [])) ↔
      VariableBehind n front cs := by
  have hv : (∃ type, variableInside (front.getLast?.or (some 't')) cs = some ((n, type), [])) ↔
      atBoundary (front.getLast?.or (some 't')) cs ∧ Variable n cs := by
    rw [← variableText?_eq_some_iff]
    simp [variableInside]
  rw [hv, VariableBehind]
  apply and_congr_left
  intro h
  have ⟨ds, hc⟩ := h.exists_cons
  -- A word starts here, so what counts is the character in front of it.
  have hw : (cs.head?.any isWord) = true := by
    rw [hc]
    rfl
  rw [atBoundary, hw]
  rcases List.eq_nil_or_concat front with hf | ⟨pre, c, hf⟩
  · simp [hf, isWord]
  · simp only [hf, List.concat_eq_append, List.getLast?_append, List.getLast?_singleton,
      Option.some_or, Option.any_some, bne_iff_ne, ne_eq, Bool.not_eq_true]
    constructor
    case mp => exact fun hn => ⟨pre, c, rfl, hn⟩
    case mpr =>
      rintro ⟨_, d, he, hd⟩
      have hcd : c = d := by simpa using (List.append_inj' he rfl).right
      exact hcd ▸ hd

theorem variableInside_eq_none_iff {front : List Char} :
    variableInside (front.getLast?.or (some 't')) cs = none ↔ ∀ m, ¬VariableBehind m front cs := by
  constructor
  case mp =>
    intro h m hm
    have ⟨_, hs⟩ := variableInside_eq_some_iff.mpr hm
    exact absurd (h.symm.trans hs) (by simp)
  case mpr =>
    intro h
    cases hs : variableInside (front.getLast?.or (some 't')) cs
    case none => rfl
    case some v =>
      have ⟨⟨m, type⟩, rest⟩ := v
      have hr : rest = [] := variableInside_rest hs
      exact absurd (variableInside_eq_some_iff.mp ⟨type, hr ▸ hs⟩) (h m)

theorem exportedVariable?_eq_some_iff :
    (∃ type, exportedVariable? line = some (n, type)) ↔ ExportsVariable n line := by
  simp only [exportedVariable?, Option.bind_eq_some_iff, skip?_eq_some_iff, Option.map_eq_some_iff,
    Matcher.first_eq_some_iff]
  constructor
  case mp =>
    rintro ⟨type, _, hl, ⟨⟨v, r⟩, ⟨front, cs, hc, hf⟩, hv⟩⟩
    have hr : r = [] := variableInside_rest hf.found
    subst hc hv hr
    refine ⟨front, cs, hl, variableInside_eq_some_iff.mp ⟨type, hf.found⟩, ?_⟩
    intro front' cs' m he hm
    apply Nat.le_of_not_lt
    intro hlt
    exact variableInside_eq_none_iff.mp (hf.none_before front' cs' he hlt) m hm
  case mpr =>
    rintro ⟨front, cs, hl, hv, hfirst⟩
    obtain ⟨type, ht⟩ := variableInside_eq_some_iff.mpr hv
    refine ⟨type, _, hl, ⟨_, ⟨front, cs, rfl, ht, ?_⟩, rfl⟩⟩
    intro front' cs' he hlt
    apply variableInside_eq_none_iff.mpr
    intro m hm
    exact absurd hlt (Nat.not_lt_of_le (hfirst front' cs' m he hm))

theorem deferredVariable?_eq_some_iff :
    (∃ type, deferredVariable? line = some (n, type)) ↔ DefersVariable n line := by
  simp only [deferredVariable?, Option.bind_eq_some_iff, keyword?_eq_some_iff]
  constructor
  case mp =>
    rintro ⟨type, cs, ⟨bs, hl, _⟩, hv⟩
    exact ⟨bs, cs, hl, variableText?_eq_some_iff.mp ⟨type, hv⟩⟩
  case mpr =>
    rintro ⟨bs, cs, hl, hv⟩
    obtain ⟨ds, hc⟩ := hv.exists_cons
    obtain ⟨type, ht⟩ := variableText?_eq_some_iff.mpr hv
    exact ⟨type, cs, ⟨bs, hl, hc ▸ stops_cons.mpr rfl⟩, ht⟩

end

def annotationsText : List (Word × Run isBlank) → List Char
  | [] => []
  | (w, bs) :: as => '@' :: (w.chars ++ (bs.chars ++ annotationsText as))

def FunctionFrom (n : String) (cs : List Char) : Prop :=
  ∃ bs ps rest, (∀ b ∈ bs, isBlank b) ∧ ')' ∉ ps ∧
    Introduces "func" n cs (bs ++ '(' :: (ps ++ ')' :: rest))

def DeclaresFunction (n : String) (line : List Char) : Prop :=
  ∃ as cs, line = annotationsText as ++ cs ∧ (FunctionFrom n cs ∨
    ∃ (bs : Run isBlank) (ds : List Char), cs = "static".toList ++ (bs.chars ++ ds) ∧
      FunctionFrom n ds)

section

variable {cs rest line : List Char} {n : String}

theorem FunctionFrom.exists_cons (h : FunctionFrom n cs) : ∃ ds, cs = 'f' :: ds := by
  obtain ⟨_, _, _, _, _, _, _, hc, _⟩ := h
  exact ⟨_, hc⟩

theorem parenthesized?_eq_some_iff {ps : List Char} : parenthesized? cs = some (ps, rest) ↔
    ')' ∉ ps ∧ ∃ bs, (∀ b ∈ bs, isBlank b) ∧ cs = bs ++ '(' :: (ps ++ ')' :: rest) := by
  have hs : Stops isBlank ('(' :: (ps ++ ')' :: rest)) := by simp [isBlank]
  simp only [parenthesized?, Option.bind_eq_some_iff, skip?_eq_some_iff, until?_eq_some_iff]
  constructor
  case mp =>
    rintro ⟨_, ht, hn, hc⟩
    subst hc
    exact ⟨hn, (trimStart_eq_iff hs).mp ht⟩
  case mpr =>
    rintro ⟨hn, hb⟩
    exact ⟨_, (trimStart_eq_iff hs).mpr hb, hn, rfl⟩

theorem stops_annotationsText (hs : Stops isBlank cs) (as : List (Word × Run isBlank)) :
    Stops isBlank (annotationsText as ++ cs) := by
  cases as
  case nil => exact hs
  case cons a as => exact stops_cons.mpr rfl

theorem annotation_eq_some_iff :
    ((word? cs).bind fun (_, rest) => blank? rest) = some rest ↔
      ∃ (w : Word) (bs : Run isBlank), cs = w.chars ++ (bs.chars ++ rest) ∧ Stops isBlank rest := by
  simp only [Option.bind_eq_some_iff, Prod.exists, word?, run?_eq_some_iff, blank?_eq_some_iff]
  constructor
  case mp =>
    rintro ⟨_, _, ⟨w, _, hc, _⟩, bs, hr, hs⟩
    exact ⟨w, bs, hr ▸ hc, hs⟩
  case mpr =>
    rintro ⟨w, bs, hc, hs⟩
    exact ⟨_, _, ⟨w, rfl, hc, bs.stops_append (fun _ => isWord_of_isBlank) rest⟩, bs, rfl, hs⟩

theorem exists_annotationsText : (n : Nat) → (cs : List Char) →
    ∃ as, cs = annotationsText as ++ dropAnnotations n cs
  | 0, cs => ⟨[], rfl⟩
  | n + 1, cs => by
    by_cases hc : cs.head? = some '@'
    case neg => exact ⟨[], by rw [dropAnnotations_of_ne hc]; rfl⟩
    case pos =>
      obtain ⟨ds, hd⟩ := List.head?_eq_some_iff.mp hc
      rw [hd, dropAnnotations]
      split
      case h_1 rest hr =>
        obtain ⟨w, bs, he, _⟩ := annotation_eq_some_iff.mp hr
        obtain ⟨as, ha⟩ := exists_annotationsText n rest
        refine ⟨(w, bs) :: as, ?_⟩
        simp only [annotationsText, List.cons_append, List.append_assoc, ← ha, he]
      case h_2 => exact ⟨[], rfl⟩

theorem dropAnnotations_annotationsText (hn : cs.head? ≠ some '@') (hs : Stops isBlank cs) :
    (as : List (Word × Run isBlank)) → (n : Nat) → (annotationsText as).length ≤ n →
      dropAnnotations n (annotationsText as ++ cs) = cs
  | [], n, _ => dropAnnotations_of_ne hn n
  | (w, bs) :: as, 0, hl => by simp [annotationsText] at hl
  | (w, bs) :: as, n + 1, hl => by
    simp only [annotationsText, List.length_cons, List.length_append] at hl
    have hi := dropAnnotations_annotationsText hn hs as n (by omega)
    have ha := annotation_eq_some_iff.mpr ⟨w, bs, rfl, stops_annotationsText hs as⟩
    simp only [annotationsText, List.cons_append, List.append_assoc, dropAnnotations, ha, hi]

theorem functionFrom_iff : (∃ ps r, ((declared? "func" cs).bind fun (name, rest) =>
    (parenthesized? rest).map fun (ps, rest) => (name, splitParams ps, returnType? rest)) =
      some (n, ps, r)) ↔ FunctionFrom n cs := by
  simp only [Option.bind_eq_some_iff, Prod.exists, declared?_eq_some_iff, Option.map_eq_some_iff,
    parenthesized?_eq_some_iff, Prod.mk.injEq]
  constructor
  case mp =>
    rintro ⟨_, _, name, _, hi, ps, rest, ⟨hp, bs, hb, hr⟩, hn, _⟩
    exact ⟨bs, ps, rest, hb, hp, hn ▸ hr ▸ hi⟩
  case mpr =>
    rintro ⟨bs, ps, rest, hb, hp, hi⟩
    exact ⟨_, _, n, _, hi, ps, rest, ⟨hp, bs, hb, rfl⟩, rfl, rfl, rfl⟩

theorem keyword?_static_function (h : FunctionFrom n cs) : keyword? "static" cs = none := by
  have ⟨ds, hc⟩ := h.exists_cons
  rw [hc]
  rfl

theorem declaresFunction_iff : DeclaresFunction n line ↔
    let cs := dropAnnotations line.length line
    FunctionFrom n ((keyword? "static" cs).getD cs) := by
  constructor
  case mp =>
    rintro ⟨as, cs, hl, h⟩
    have hlen : (annotationsText as).length ≤ line.length := by simp [hl]
    cases h
    case inl h =>
      have ⟨ds, hc⟩ := h.exists_cons
      have hd := dropAnnotations_annotationsText (hc ▸ by simp) (hc ▸ stops_cons.mpr rfl) as _ hlen
      rw [← hl] at hd
      simpa [hd, keyword?_static_function h] using h
    case inr h =>
      have ⟨bs, ds, hc, hf⟩ := h
      have ⟨es, he⟩ := hf.exists_cons
      have hk : keyword? "static" cs = some ds :=
        keyword?_eq_some_iff.mpr ⟨bs, hc, he ▸ stops_cons.mpr rfl⟩
      have hn : cs.head? ≠ some '@' := by simp [hc]
      have hs : Stops isBlank cs := by
        rw [hc]
        exact stops_cons.mpr rfl
      have hd := dropAnnotations_annotationsText hn hs as _ hlen
      rw [← hl] at hd
      simpa [hd, hk] using hf
  case mpr =>
    intro h
    have ⟨as, hl⟩ := exists_annotationsText line.length line
    refine ⟨as, _, hl, ?_⟩
    cases hk : keyword? "static" (dropAnnotations line.length line)
    case none => exact .inl (by simpa [hk] using h)
    case some ds =>
      have ⟨bs, hc, _⟩ := keyword?_eq_some_iff.mp hk
      exact .inr ⟨bs, ds, hc, by simpa [hk] using h⟩

theorem DefersVariable.not_function {m : String} (h : DefersVariable m line) :
    ¬DeclaresFunction n line := by
  intro hf
  obtain ⟨bs, cs, hl, hv⟩ := h
  obtain ⟨ds, hc⟩ := hv.exists_cons
  -- The annotation is dropped like any other, and `var` would have to be `func`.
  let onready : Word := .ofAll "onready".toList (by decide) (by decide)
  have hlen : (annotationsText [(onready, bs)]).length ≤ line.length := by
    simp [hl, annotationsText, onready]
  have hd := dropAnnotations_annotationsText (hc ▸ by simp) (hc ▸ stops_cons.mpr rfl) _ _ hlen
  have he : annotationsText [(onready, bs)] ++ cs = line := by
    simp [hl, annotationsText, onready]
  rw [he] at hd
  have hk : keyword? "static" cs = none := by
    rw [hc]
    rfl
  have hcs : FunctionFrom n cs := by simpa [hd, hk] using declaresFunction_iff.mp hf
  obtain ⟨es, hfc⟩ := hcs.exists_cons
  simp [hc] at hfc

end

end GodotAtlas.Symbols
