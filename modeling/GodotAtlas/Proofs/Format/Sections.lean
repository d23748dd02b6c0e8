import GodotAtlas.Proofs.Format.ProjectSource

namespace GodotAtlas.Format

open Text

structure Heads (name l : List Char) : Prop where
  ne_nil : name ≠ []
  no_bracket : ']' ∉ name
  trimmed : trim l = '[' :: (name ++ [']'])

-- The section of the line at a place is found by going back from there, one line after the other,
-- to the first header. In front of all headers there is no section.
inductive InSection (name : List Char) (ls : List (List Char)) : Nat → Prop
  | header {i l} (line : ls[i]? = some l) (heads : Heads name l) : InSection name ls (i + 1)
  | back {i l} (line : ls[i]? = some l) (no_header : ∀ other, ¬Heads other l)
      (further : InSection name ls i) : InSection name ls (i + 1)

inductive AutoloadLine : List Char → Autoload → Prop
  | intro (name : Run isWord) (before behind : Chars isBlank) (isGlobal : Bool) (scheme : Scheme)
      (path : Chars (· != '"')) (rest : List Char) :
      AutoloadLine (name.chars ++ (before.chars ++ '=' :: (behind.chars ++ '"' ::
          ((if isGlobal then ['*'] else []) ++ (scheme.chars ++ (path.chars ++ '"' :: rest))))))
        ⟨name.text, String.ofList (scheme.chars ++ path.chars), isGlobal⟩

inductive ActionLine : List Char → String → Prop
  | intro (name : Run isWord) (before behind : Chars isBlank) (rest : List Char) :
      ActionLine (name.chars ++ (before.chars ++ '=' :: (behind.chars ++ '\x7b' :: rest))) name.text

structure EntryAt {α : Type} (name : List Char) (Shows : List Char → α → Prop)
    (ls : List (List Char)) (i : Nat) (a : α) : Prop where
  inSection : InSection name ls i
  shows : ∃ l, ls[i]? = some l ∧ Shows (trim l) a

-- All places at which there is something, in their order, with what there is.
structure Enumerates {α : Type} (At : Nat → α → Prop) (places : List Nat) (found : List α) :
    Prop where
  ascending : places.Pairwise (· < ·)
  holds : List.Forall₂ At places found
  complete : ∀ i a, At i a → i ∈ places

namespace Enumerates

variable {α : Type} {At : Nat → α → Prop} {places : List Nat} {found : List α}

theorem mem_iff (h : Enumerates At places found) {i : Nat} : i ∈ places ↔ ∃ a, At i a := by
  constructor
  case mp =>
    intro hi
    obtain ⟨j, hj, rfl⟩ := List.mem_iff_getElem.mp hi
    have hl := h.holds.length_eq
    exact ⟨found[j], h.holds.get hj (hl ▸ hj)⟩
  case mpr => exact fun ⟨a, ha⟩ => h.complete i a ha

theorem unique (hu : ∀ i a b, At i a → At i b → a = b) {places' : List Nat} {found' : List α}
    (h : Enumerates At places found) (h' : Enumerates At places' found') : found = found' := by
  have hp : places.Perm places' := by
    apply (List.perm_ext_iff_of_nodup (h.ascending.imp Nat.ne_of_lt)
      (h'.ascending.imp Nat.ne_of_lt)).mpr
    intro i
    rw [h.mem_iff, h'.mem_iff]
  have he : places = places' := by
    refine hp.eq_of_pairwise (fun i j _ _ hij hji => ?_) h.ascending h'.ascending
    exact absurd hji (Nat.lt_asymm hij)
  subst he
  exact List.right_unique_forall₂' (fun i a b => hu i a b) h.holds h'.holds

theorem concat {At' : Nat → α → Prop} {n : Nat} {last : Option α} (h : Enumerates At places found)
    (hn : ∀ i a, At i a → i < n) (hn' : ∀ i a, At' i a → i ≤ n)
    (hf : ∀ i a, i < n → (At' i a ↔ At i a)) (hl : ∀ a, At' n a ↔ last = some a) :
    ∃ places', Enumerates At' places' (found ++ last.toList) := by
  have hh : List.Forall₂ At' places found :=
    h.holds.imp fun i a ha => (hf i a (hn i a ha)).mpr ha
  cases last
  case none =>
    refine ⟨places, h.ascending, by simpa using hh, fun i a ha => ?_⟩
    rcases Nat.lt_or_eq_of_le (hn' i a ha) with hi | rfl
    case inl => exact h.complete i a ((hf i a hi).mp ha)
    case inr => cases (hl a).mp ha
  case some b =>
    refine ⟨places ++ [n], ?ascending, List.rel_append hh (.cons ((hl b).mpr rfl) .nil), ?complete⟩
    case ascending =>
      have hlt : ∀ i ∈ places, i < n := by
        intro i hi
        have ⟨a, ha⟩ := h.mem_iff.mp hi
        exact hn i a ha
      rw [List.pairwise_append]
      exact ⟨h.ascending, List.pairwise_singleton _ _, by simpa using hlt⟩
    case complete =>
      intro i a ha
      rcases Nat.lt_or_eq_of_le (hn' i a ha) with hi | rfl
      case inl => exact List.mem_append_left _ (h.complete i a ((hf i a hi).mp ha))
      case inr => exact List.mem_append_right _ (List.mem_singleton_self i)

end Enumerates

theorem sectionOf?_eq_some_iff {name l : List Char} :
    sectionOf? l = some name ↔ name ≠ [] ∧ ']' ∉ name ∧ l = '[' :: (name ++ [']']) := by
  constructor
  case mp =>
    intro h
    have ⟨cs, hs, hu⟩ := Option.bind_eq_some_iff.mp h
    have hl := skip?_singleton_iff.mp hs
    split at hu
    case h_1 c n hn =>
      have ⟨hb, hc⟩ := until?_eq_some_iff.mp hn
      cases hu
      exact ⟨List.cons_ne_nil c n, hb, hc ▸ hl⟩
    case h_2 => cases hu
  case mpr =>
    rintro ⟨hn, hb, rfl⟩
    have hs : skip? ['['] ('[' :: (name ++ [']'])) = some (name ++ [']']) := rfl
    obtain ⟨c, n, rfl⟩ := List.exists_cons_of_ne_nil hn
    rw [sectionOf?, hs, Option.bind_some, until?_append hb]

theorem heads_iff {name l : List Char} : Heads name l ↔ sectionOf? (trim l) = some name := by
  rw [sectionOf?_eq_some_iff]
  constructor
  case mp => exact fun h => ⟨h.ne_nil, h.no_bracket, h.trimmed⟩
  case mpr => exact fun ⟨hn, hb, ht⟩ => ⟨hn, hb, ht⟩

theorem assignedName?_eq_some_iff {l cs : List Char} {name : String} :
    assignedName? l = some (name, cs) ↔
      ∃ (w : Run isWord) (before behind : Chars isBlank), name = w.text ∧ Stops isBlank cs ∧
        l = w.chars ++ (before.chars ++ '=' :: (behind.chars ++ cs)) := by
  constructor
  case mp =>
    intro h
    obtain ⟨⟨taken, es⟩, hw, hm⟩ := Option.bind_eq_some_iff.mp h
    obtain ⟨ds, hs, he⟩ := Option.map_eq_some_iff.mp hm
    obtain ⟨w, rfl, rfl, _⟩ := run?_eq_some_iff.mp hw
    obtain ⟨before, rfl⟩ := (trimStart_eq_cons_iff rfl).mp (skip?_singleton_iff.mp hs)
    obtain ⟨behind, hd⟩ := exists_blanks ds
    cases he
    exact ⟨w, before, behind, rfl, stops_dropWhile ds, by rw [← hd]⟩
  case mpr =>
    rintro ⟨w, before, behind, rfl, hs, rfl⟩
    have hw : Stops isWord (before.chars ++ '=' :: (behind.chars ++ cs)) :=
      before.stops_append (fun _ => isWord_of_isBlank) (stops_cons.mpr rfl)
    have he : trimStart (before.chars ++ '=' :: (behind.chars ++ cs)) =
      '=' :: (behind.chars ++ cs) := (trimStart_eq_cons_iff rfl).mpr ⟨before, rfl⟩
    have hc : trimStart (behind.chars ++ cs) = cs :=
      (trimStart_eq_iff hs).mpr ⟨behind.chars, behind.all, rfl⟩
    simp [assignedName?, word?, run?_append w hw, he, skip?, hc, Run.text]

-- A header is no entry of a section, because it does not start with a word.
theorem assignedName?_of_header {l : List Char} (h : sectionOf? l ≠ none) :
    assignedName? l = none := by
  have ⟨name, hs⟩ := Option.ne_none_iff_exists'.mp h
  have ⟨_, _, hl⟩ := sectionOf?_eq_some_iff.mp hs
  have hw : word? l = none := run?_of_stops (hl ▸ stops_cons.mpr rfl)
  rw [assignedName?, hw]
  rfl

theorem actionOf?_eq_some_iff {l : List Char} {name : String} :
    actionOf? l = some name ↔ ActionLine l name := by
  constructor
  case mp =>
    intro h
    obtain ⟨⟨n, cs⟩, ha, hm⟩ := Option.bind_eq_some_iff.mp h
    obtain ⟨rest, hs, he⟩ := Option.map_eq_some_iff.mp hm
    obtain ⟨w, before, behind, rfl, _, rfl⟩ := assignedName?_eq_some_iff.mp ha
    obtain rfl := skip?_singleton_iff.mp hs
    cases he
    exact .intro w before behind rest
  case mpr =>
    rintro ⟨w, before, behind, rest⟩
    have hs : Stops isBlank ('\x7b' :: rest) := stops_cons.mpr rfl
    rw [actionOf?, assignedName?_eq_some_iff.mpr ⟨w, before, behind, rfl, hs, rfl⟩]
    rfl

theorem exists_scheme_iff {cs : List Char} :
    ((skip? "res://".toList cs).isSome || (skip? "uid://".toList cs).isSome) = true ↔
      ∃ (scheme : Scheme) (tail : List Char), cs = scheme.chars ++ tail := by
  simp only [Bool.or_eq_true, Option.isSome_iff_exists, skip?_eq_some_iff]
  constructor
  case mp =>
    rintro (⟨tail, h⟩ | ⟨tail, h⟩)
    case inl => exact ⟨.res, tail, h⟩
    case inr => exact ⟨.uid, tail, h⟩
  case mpr =>
    rintro ⟨scheme, tail, h⟩
    cases scheme
    case res => exact .inl ⟨tail, h⟩
    case uid => exact .inr ⟨tail, h⟩

theorem Scheme.quote_not_mem (scheme : Scheme) : '"' ∉ scheme.chars := by
  cases scheme <;> decide

-- No path starts with an asterisk, so one in front of it is a flag.
theorem Scheme.skip?_flag (scheme : Scheme) (cs : List Char) :
    skip? ['*'] (scheme.chars ++ cs) = none := by
  cases scheme <;> rfl

theorem autoloadOf?_eq_some_iff {l : List Char} {a : Autoload} :
    autoloadOf? l = some a ↔ AutoloadLine l a := by
  constructor
  case mp =>
    intro h
    obtain ⟨⟨n, cs⟩, ha, hq⟩ := Option.bind_eq_some_iff.mp h
    obtain ⟨w, before, behind, rfl, _, rfl⟩ := assignedName?_eq_some_iff.mp ha
    obtain ⟨ds, hs, hp⟩ := Option.bind_eq_some_iff.mp hq
    obtain rfl := skip?_singleton_iff.mp hs
    dsimp only at hp
    split at hp
    case isFalse => cases hp
    case isTrue hi =>
      obtain ⟨scheme, tail, ht⟩ := exists_scheme_iff.mp hi
      rw [ht, until?_append_front scheme.quote_not_mem, Option.map_map] at hp
      obtain ⟨⟨path, rest⟩, hu, he⟩ := Option.map_eq_some_iff.mp hp
      obtain ⟨hn, rfl⟩ := until?_eq_some_iff.mp hu
      have hc : ∀ c ∈ path, (c != '"') = true := by
        intro c hm
        simpa using fun he : c = '"' => hn (he ▸ hm)
      have hd : ds = (if (skip? ['*'] ds).isSome then ['*'] else []) ++
          (scheme.chars ++ (path ++ '"' :: rest)) := by
        rw [← ht, optional_append_getD_skip?]
      rw [hd, ← he]
      exact .intro w before behind _ scheme ⟨path, hc⟩ rest
  case mpr =>
    rintro ⟨w, before, behind, isGlobal, scheme, path, rest⟩
    have hs (cs : List Char) : Stops isBlank ('"' :: cs) := stops_cons.mpr rfl
    have hq (cs : List Char) : skip? ['"'] ('"' :: cs) = some cs := rfl
    have hi := exists_scheme_iff.mpr ⟨scheme, path.chars ++ '"' :: rest, rfl⟩
    have hu : until? '"' (scheme.chars ++ (path.chars ++ '"' :: rest)) =
        some (scheme.chars ++ path.chars, rest) := by
      rw [until?_append_front scheme.quote_not_mem, until?_append (path.not_mem rfl)]
      rfl
    rw [autoloadOf?, assignedName?_eq_some_iff.mpr ⟨w, before, behind, rfl, hs _, rfl⟩]
    cases isGlobal
    case false =>
      simp only [Option.bind_some, hq, Bool.false_eq_true, if_false, List.nil_append,
        scheme.skip?_flag, Option.getD_none, hi, if_true, hu]
      rfl
    case true =>
      have hf (cs : List Char) : skip? ['*'] ('*' :: cs) = some cs := rfl
      simp only [Option.bind_some, hq, if_true, List.singleton_append, hf, Option.getD_some, hi, hu]
      rfl

section

variable {α : Type} {name : List Char} {read? : List Char → Option α} {ls ms : List (List Char)}

theorem entriesIn_append_eq (current : Option (List Char)) :
    entriesIn name read? current (ls ++ ms) = entriesIn name read? current ls ++
      entriesIn name read? ((ls.filterMap sectionOf?).getLast?.or current) ms := by
  induction ls generalizing current
  case nil => rfl
  case cons l ls hi =>
    cases hs : sectionOf? l
    case none =>
      simp only [List.cons_append, entriesIn, hs, hi, List.filterMap_cons_none hs,
        List.append_assoc]
    case some next =>
      simp only [List.cons_append, entriesIn, hs, hi, List.filterMap_cons_some hs]
      cases hl : (ls.filterMap sectionOf?).getLast? <;> simp [List.getLast?_cons, hl]

theorem entriesIn_singleton {l : List Char} (h : sectionOf? l ≠ none → read? l = none)
    (current : Option (List Char)) :
    entriesIn name read? current [l] = (if current = some name then read? l else none).toList := by
  rw [entriesIn]
  cases hs : sectionOf? l
  case none => by_cases hc : current = some name <;> simp [hc, entriesIn]
  case some => simp [h (by simp [hs]), entriesIn]

end

section

variable {name l : List Char} {ls ms : List (List Char)} {i : Nat}

theorem inSection_succ : InSection name ls (i + 1) ↔ ∃ l, ls[i]? = some l ∧
    (Heads name l ∨ (∀ other, ¬Heads other l) ∧ InSection name ls i) := by
  constructor
  case mp =>
    intro h
    cases h
    case header heads line => exact ⟨_, line, .inl heads⟩
    case back no_header line further => exact ⟨_, line, .inr ⟨no_header, further⟩⟩
  case mpr =>
    rintro ⟨l, line, heads | ⟨no_header, further⟩⟩
    case inl => exact .header line heads
    case inr => exact .back line no_header further

theorem inSection_append (h : i ≤ ls.length) :
    InSection name (ls ++ ms) i ↔ InSection name ls i := by
  induction i
  case zero => constructor <;> nofun
  case succ i hi =>
    have hl : (ls ++ ms)[i]? = ls[i]? := List.getElem?_append_left h
    rw [inSection_succ, inSection_succ, hl, hi (by omega)]

theorem inSection_length_iff :
    InSection name ls ls.length ↔ ((ls.map trim).filterMap sectionOf?).getLast? = some name := by
  induction ls using List.reverseRecOn
  case nil => constructor <;> nofun
  case append_singleton ls l hi =>
    have hl : (ls ++ [l])[ls.length]? = some l := by simp
    rw [List.length_append, List.length_singleton, inSection_succ, hl, inSection_append le_rfl, hi]
    simp only [Option.some.injEq, exists_eq_left', heads_iff, List.map_append, List.map_singleton,
      List.filterMap_append, filterMap_cons_eq, List.filterMap_nil, List.append_nil]
    cases hs : sectionOf? (trim l) <;> simp

theorem not_inSection (h : ∀ j l other, j < i → ls[j]? = some l → ¬Heads other l) :
    ¬InSection name ls i := by
  induction i
  case zero => nofun
  case succ i hi =>
    rw [inSection_succ]
    rintro ⟨l, line, heads | ⟨_, further⟩⟩
    case inl => exact h i l name i.lt_succ_self line heads
    case inr => exact hi (fun j l other hj => h j l other (hj.trans i.lt_succ_self)) further

end

section

variable {α : Type} {name : List Char} {Shows : List Char → α → Prop}
  {ls ms : List (List Char)} {i : Nat} {a : α}

theorem EntryAt.lt (h : EntryAt name Shows ls i a) : i < ls.length := by
  have ⟨l, hl, _⟩ := h.shows
  exact (List.getElem?_eq_some_iff.mp hl).choose

theorem entryAt_append (h : i < ls.length) :
    EntryAt name Shows (ls ++ ms) i a ↔ EntryAt name Shows ls i a := by
  have hl : (ls ++ ms)[i]? = ls[i]? := List.getElem?_append_left h
  constructor
  case mp => exact fun ⟨hs, hw⟩ => ⟨(inSection_append h.le).mp hs, hl ▸ hw⟩
  case mpr => exact fun ⟨hs, hw⟩ => ⟨(inSection_append h.le).mpr hs, hl ▸ hw⟩

theorem entryAt_length {l : List Char} : EntryAt name Shows (ls ++ [l]) ls.length a ↔
    InSection name ls ls.length ∧ Shows (trim l) a := by
  have hl : (ls ++ [l])[ls.length]? = some l := by simp
  constructor
  case mp =>
    rintro ⟨hs, m, hm, hw⟩
    cases Option.some.inj (hl.symm.trans hm)
    exact ⟨(inSection_append le_rfl).mp hs, hw⟩
  case mpr =>
    rintro ⟨hs, hw⟩
    exact ⟨(inSection_append le_rfl).mpr hs, l, hl, hw⟩

variable {read? : List Char → Option α} (hr : ∀ l a, read? l = some a ↔ Shows l a)
  (hh : ∀ l, sectionOf? l ≠ none → read? l = none)
include hr hh

theorem exists_enumerates_entriesIn (ls : List (List Char)) : ∃ places,
    Enumerates (EntryAt name Shows ls) places (entriesIn name read? none (ls.map trim)) := by
  -- The lines are taken from the end, because what stands behind a line says nothing about it.
  induction ls using List.reverseRecOn
  case nil => exact ⟨[], .nil, .nil, fun i a h => absurd h.lt (by simp)⟩
  case append_singleton ls l hi =>
    have ⟨places, h⟩ := hi
    rw [List.map_append, List.map_singleton, entriesIn_append_eq, Option.or_none,
      entriesIn_singleton (hh (trim l))]
    apply h.concat
    case hn => exact fun _ _ => EntryAt.lt
    case hn' => exact fun i a ha => Nat.le_of_lt_succ (by simpa using ha.lt)
    case hf => exact fun i a => entryAt_append
    case hl =>
      intro a
      rw [entryAt_length, inSection_length_iff, ← hr, Option.ite_none_right_eq_some]

theorem entriesIn_eq_iff (ls : List (List Char)) (found : List α) :
    entriesIn name read? none (ls.map trim) = found ↔
      ∃ places, Enumerates (EntryAt name Shows ls) places found := by
  have ⟨places, hp⟩ : ∃ places, Enumerates (EntryAt name Shows ls) places
    (entriesIn name read? none (ls.map trim)) := exists_enumerates_entriesIn hr hh ls
  have hu : ∀ i a b, EntryAt name Shows ls i a → EntryAt name Shows ls i b → a = b := by
    rintro i a b ⟨_, l, hl, ha⟩ ⟨_, m, hm, hb⟩
    cases Option.some.inj (hl.symm.trans hm)
    exact Option.some.inj (((hr _ a).mpr ha).symm.trans ((hr _ b).mpr hb))
  constructor
  case mp => exact fun he => ⟨places, he ▸ hp⟩
  case mpr => exact fun ⟨_, h⟩ => hp.unique hu h

end

-- The autoloads and the input actions of a project are what the lines of their sections show, in the
-- order of the lines. Lines in front of all headers show neither.
theorem ofText_entries_iff (text : List Char) :
    (∀ found, (Project.ofText text).autoloads = found ↔
      ∃ places, Enumerates (EntryAt "autoload".toList AutoloadLine (lines text)) places found) ∧
    (∀ found, (Project.ofText text).inputActions = found ↔
      ∃ places, Enumerates (EntryAt "input".toList ActionLine (lines text)) places found) ∧
    ∀ i, (∀ j l name, j < i → (lines text)[j]? = some l → ¬Heads name l) →
      (∀ a, ¬EntryAt "autoload".toList AutoloadLine (lines text) i a) ∧
        ∀ n, ¬EntryAt "input".toList ActionLine (lines text) i n := by
  refine ⟨?autoloads, ?inputActions, ?unheaded⟩
  case autoloads =>
    refine entriesIn_eq_iff (fun _ _ => autoloadOf?_eq_some_iff) (fun l h => ?_) (lines text)
    rw [autoloadOf?, assignedName?_of_header h]
    rfl
  case inputActions =>
    refine entriesIn_eq_iff (fun _ _ => actionOf?_eq_some_iff) (fun l h => ?_) (lines text)
    rw [actionOf?, assignedName?_of_header h]
    rfl
  case unheaded =>
    intro i h
    exact ⟨fun _ he => not_inSection h he.inSection, fun _ he => not_inSection h he.inSection⟩

end GodotAtlas.Format
