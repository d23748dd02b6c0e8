import Mathlib
import GodotAtlas.Text.Matcher

namespace GodotAtlas.Text

def blankCodes : List Nat :=
  [0x9, 0xa, 0xb, 0xc, 0xd, 0x20, 0x85, 0xa0, 0x1680, 0x2000, 0x2001, 0x2002, 0x2003, 0x2004,
   0x2005, 0x2006, 0x2007, 0x2008, 0x2009, 0x200a, 0x2028, 0x2029, 0x202f, 0x205f, 0x3000]

theorem mem_blankCodes {c : Char} (h : isBlank c) : c.toNat ∈ blankCodes := by
  simp only [isBlank, Bool.or_eq_true, Bool.and_eq_true, decide_eq_true_eq, beq_iff_eq] at h
  simp only [blankCodes, List.mem_cons, List.not_mem_nil, or_false]
  omega

-- A property of all white space is checked code by code.
theorem of_isBlank {p : Char → Prop} {c : Char} (h : isBlank c)
    (hp : ∀ n ∈ blankCodes, p (Char.ofNat n)) : p c := by
  have hc := hp _ (mem_blankCodes h)
  rwa [Char.ofNat_toNat] at hc

theorem isBlank_of_isWord {c : Char} (h : isWord c) : isBlank c = false := by
  cases hb : isBlank c
  case false => rfl
  case true =>
    have hw : isWord c = false :=
      of_isBlank (p := fun c => isWord c = false) hb (by decide +kernel)
    simp [hw] at h

theorem isWord_of_isBlank {c : Char} (h : isBlank c) : isWord c = false := by
  cases hw : isWord c
  case false => rfl
  case true => simp [isBlank_of_isWord hw] at h

theorem isBlank_of_isDigit {c : Char} (h : isDigit c) : isBlank c = false := by
  cases hb : isBlank c
  case false => rfl
  case true =>
    have hd : isDigit c = false :=
      of_isBlank (p := fun c => isDigit c = false) hb (by decide +kernel)
    simp [hd] at h

def Stops (p : Char → Bool) (cs : List Char) : Prop :=
  cs.head?.any p = false

@[simp]
theorem stops_nil {p : Char → Bool} : Stops p [] :=
  rfl

@[simp]
theorem stops_cons {p : Char → Bool} {c : Char} {cs : List Char} :
    Stops p (c :: cs) ↔ p c = false := by
  simp [Stops]

structure Run (p : Char → Bool) where
  chars : List Char
  ne_nil : chars ≠ []
  all : ∀ c ∈ chars, p c

namespace Run

variable {p : Char → Bool} (r : Run p)

def text : String :=
  String.ofList r.chars

def ofAll (cs : List Char) (ne_nil : cs ≠ []) (all : cs.all p) : Run p :=
  ⟨cs, ne_nil, List.all_eq_true.mp all⟩

@[simp]
theorem chars_ofAll {cs : List Char} {hn : cs ≠ []} {ha : cs.all p} :
    (ofAll cs hn ha).chars = cs :=
  rfl

theorem exists_cons : ∃ c cs, r.chars = c :: cs ∧ p c := by
  obtain ⟨c, cs, he⟩ := List.exists_cons_of_ne_nil r.ne_nil
  exact ⟨c, cs, he, r.all c (by simp [he])⟩

theorem stops_append {q : Char → Bool} (h : ∀ c, p c → q c = false) (rest : List Char) :
    Stops q (r.chars ++ rest) := by
  have ⟨c, cs, he, hc⟩ := r.exists_cons
  simpa [he] using h c hc

theorem not_mem {c : Char} (h : p c = false) : c ∉ r.chars := by
  intro hc
  simp [r.all c hc] at h

def reverse : Run p where
  chars := r.chars.reverse
  ne_nil := by simp [r.ne_nil]
  all := by simpa using r.all

theorem stops_reverse_append {q : Char → Bool} (h : ∀ c, p c → q c = false) (front : List Char) :
    Stops q (front ++ r.chars).reverse := by
  rw [List.reverse_append]
  exact r.reverse.stops_append h front.reverse

end Run

structure Chars (p : Char → Bool) where
  chars : List Char
  all : ∀ c ∈ chars, p c

namespace Chars

variable {p : Char → Bool} (t : Chars p)

def text : String :=
  String.ofList t.chars

theorem not_mem {c : Char} (h : p c = false) : c ∉ t.chars := by
  intro hc
  simp [t.all c hc] at h

theorem stops_append {q : Char → Bool} (h : ∀ c, p c → q c = false) {rest : List Char}
    (hr : Stops q rest) : Stops q (t.chars ++ rest) := by
  cases hc : t.chars
  case nil => exact hr
  case cons c cs => exact stops_cons.mpr (h c (t.all c (by simp [hc])))

end Chars

section

variable {p : Char → Bool} {r : Run p}

def Run.mono {q : Char → Bool} (r : Run p) (h : ∀ c, p c → q c) : Run q :=
  ⟨r.chars, r.ne_nil, fun c hc => h c (r.all c hc)⟩

def Run.toChars (r : Run p) : Chars p :=
  ⟨r.chars, r.all⟩

@[simp]
theorem Run.text_toChars : r.toChars.text = r.text :=
  rfl

@[simp]
theorem Run.text_ne_empty : r.text ≠ "" := by
  simp [text, r.ne_nil]

end

section

variable {p : Char → Bool} {cs rest : List Char}

theorem takeWhile_of_stops (h : Stops p cs) : cs.takeWhile p = [] := by
  cases cs
  case nil => rfl
  case cons c cs => simp [stops_cons.mp h]

theorem dropWhile_of_stops (h : Stops p cs) : cs.dropWhile p = cs := by
  cases cs
  case nil => rfl
  case cons c cs => simp [stops_cons.mp h]

theorem run?_append (r : Run p) (h : Stops p rest) :
    run? p (r.chars ++ rest) = some (r.chars, rest) := by
  have ht : (r.chars ++ rest).takeWhile p = r.chars := by
    rw [List.takeWhile_append_of_pos r.all, takeWhile_of_stops h, List.append_nil]
  have hd : (r.chars ++ rest).dropWhile p = rest := by
    rw [List.dropWhile_append_of_pos r.all, dropWhile_of_stops h]
  simp only [run?, ht, hd]
  have ⟨c, cs, he, _⟩ := r.exists_cons
  simp [he]

theorem run?_of_stops (h : Stops p cs) : run? p cs = none := by
  simp [run?, takeWhile_of_stops h]

end

theorem stops_dropWhile {p : Char → Bool} (cs : List Char) : Stops p (cs.dropWhile p) := by
  induction cs
  case nil => exact stops_nil
  case cons c cs hi =>
    cases hc : p c
    case false => simp [hc]
    case true => simpa [hc] using hi

theorem exists_run {p : Char → Bool} {cs : List Char} (h : ¬Stops p cs) :
    ∃ (r : Run p) (rest : List Char), cs = r.chars ++ rest ∧ Stops p rest := by
  have hn : cs.takeWhile p ≠ [] := by
    cases cs
    case nil => exact absurd stops_nil h
    case cons c cs =>
      have hc : p c := by simpa using h
      simp [hc]
  have ha : ∀ c ∈ cs.takeWhile p, p c := fun c hc => List.all_eq_true.mp List.all_takeWhile c hc
  exact ⟨⟨_, hn, ha⟩, _, List.takeWhile_append_dropWhile.symm, stops_dropWhile cs⟩

theorem run?_eq_some_iff {p : Char → Bool} {cs taken rest : List Char} :
    run? p cs = some (taken, rest) ↔
      ∃ r : Run p, taken = r.chars ∧ cs = r.chars ++ rest ∧ Stops p rest := by
  constructor
  case mp =>
    intro h
    by_cases hs : Stops p cs
    case pos => simp [run?_of_stops hs] at h
    case neg =>
      have ⟨r, rest', hc, hr⟩ := exists_run hs
      rw [hc, run?_append r hr] at h
      cases h
      exact ⟨r, rfl, hc, hr⟩
  case mpr =>
    rintro ⟨r, ht, hc, hs⟩
    rw [hc, ht, run?_append r hs]

theorem run?_chars {p : Char → Bool} (r : Run p) : run? p r.chars = some (r.chars, []) := by
  simpa using run?_append r stops_nil

section

variable {cs rest : List Char}

theorem trimStart_of_stops (h : Stops isBlank cs) : trimStart cs = cs :=
  dropWhile_of_stops h

@[simp]
theorem trimStart_space : trimStart (' ' :: cs) = trimStart cs :=
  rfl

theorem blank?_space (h : Stops isBlank cs) : blank? (' ' :: cs) = some cs := by
  have hr := run?_append (p := isBlank) (.ofAll [' '] (by decide) (by decide)) h
  simp only [Run.chars_ofAll, List.singleton_append] at hr
  simp [blank?, hr]

theorem blank?_of_stops (h : Stops isBlank cs) : blank? cs = none := by
  simp [blank?, run?_of_stops h]

theorem trim_of_ends (hs : Stops isBlank cs) (he : Stops isBlank cs.reverse) : trim cs = cs := by
  simp [trim, trimEnd, trimStart_of_stops hs, dropWhile_of_stops he]

theorem trimEnd_append_cons {c : Char} {front : List Char} (h : isBlank c = false) :
    trimEnd (front ++ c :: cs) = front ++ c :: trimEnd cs := by
  rw [trimEnd, trimEnd, List.reverse_append, List.reverse_cons, List.append_assoc,
    List.singleton_append, List.dropWhile_append]
  split
  case isTrue hn => simp [List.isEmpty_iff.mp hn, h]
  case isFalse => simp

theorem trimEnd_cons {c : Char} (h : isBlank c = false) : trimEnd (c :: cs) = c :: trimEnd cs := by
  rw [← List.nil_append (c :: cs), trimEnd_append_cons h, List.nil_append]

theorem trimEnd_append {front : List Char} (h : ∀ c ∈ front, isBlank c = false) :
    trimEnd (front ++ cs) = front ++ trimEnd cs := by
  induction front
  case nil => rfl
  case cons c front hi =>
    have ⟨hc, hf⟩ := List.forall_mem_cons.mp h
    rw [List.cons_append, trimEnd_cons hc, hi hf, List.cons_append]

theorem trimEnd_append_blanks (cs : List Char) (blanks : Chars isBlank) :
    trimEnd (cs ++ blanks.chars) = trimEnd cs := by
  have hb : ∀ c ∈ blanks.chars.reverse, isBlank c := by simpa using blanks.all
  rw [trimEnd, trimEnd, List.reverse_append, List.dropWhile_append_of_pos hb]

theorem trim_cons {c : Char} (h : isBlank c = false) : trim (c :: cs) = c :: trimEnd cs := by
  rw [trim, trimStart_of_stops (stops_cons.mpr h), trimEnd_cons h]

theorem head?_trim (h : Stops isBlank cs) : (trim cs).head? = cs.head? := by
  cases cs
  case nil => rfl
  case cons c cs => rw [trim_cons (stops_cons.mp h), List.head?_cons, List.head?_cons]

theorem stops_trim : Stops isBlank (trim cs) := by
  have hs : Stops isBlank (trimStart cs) := stops_dropWhile cs
  have ht : trim cs = trim (trimStart cs) := by
    rw [trim, trim, trimStart_of_stops hs]
  rw [ht, Stops, head?_trim hs]
  exact hs

theorem trim_append_blank {c : Char} (h : isBlank c) : trim (cs ++ [c]) = trim cs := by
  have he (ds : List Char) : trimEnd (ds ++ [c]) = trimEnd ds := by simp [trimEnd, h]
  simp only [trim, trimStart, List.dropWhile_append]
  split
  case isTrue hn =>
    rw [List.isEmpty_iff.mp hn]
    simp [h]
  case isFalse => exact he _

@[simp]
theorem trim_space : trim (' ' :: cs) = trim cs :=
  rfl

theorem Run.trim_chars {p : Char → Bool} (r : Run p) (h : ∀ c, p c → isBlank c = false) :
    trim r.chars = r.chars := by
  apply trim_of_ends
  case hs => simpa using r.stops_append h []
  case he => simpa using r.stops_reverse_append h []

theorem skip?_append : (ls : List Char) → skip? ls (ls ++ rest) = some rest
  | [] => rfl
  | l :: ls => by simp [skip?, skip?_append ls]

theorem eq_append_of_skip? : {ls cs rest : List Char} → skip? ls cs = some rest → cs = ls ++ rest
  | [], _, _, h => by simpa [skip?] using h
  | _ :: _, [], _, h => by simp [skip?] at h
  | l :: ls, c :: cs, rest, h => by
    simp only [skip?] at h
    split at h
    case isTrue he => simp [he, eq_append_of_skip? h]
    case isFalse => cases h

theorem skip?_eq_some_iff {ls : List Char} : skip? ls cs = some rest ↔ cs = ls ++ rest := by
  constructor
  case mp => exact eq_append_of_skip?
  case mpr =>
    intro h
    rw [h, skip?_append]

theorem skip?_singleton_iff {c : Char} : skip? [c] cs = some rest ↔ cs = c :: rest :=
  skip?_eq_some_iff

theorem skip?_of_stops {c : Char} (h : Stops (· == c) cs) : skip? [c] cs = none := by
  cases cs
  case nil => rfl
  case cons d cs =>
    have hd : d ≠ c := by simpa using h
    simp [skip?, Ne.symm hd]

theorem skip?_append_cons {ls : List Char} {c : Char} (h : c ∉ ls) :
    skip? ls (cs ++ c :: rest) = (skip? ls cs).map (· ++ c :: rest) := by
  induction ls generalizing cs
  case nil => rfl
  case cons l ls hi =>
    simp only [List.mem_cons, not_or] at h
    cases cs
    case nil => simp [skip?, Ne.symm h.left]
    case cons d cs =>
      by_cases hd : l = d
      case pos => simp [skip?, hd, hi h.right]
      case neg => simp [skip?, hd]

theorem optional_append_getD_skip? {ls : List Char} :
    (if (skip? ls cs).isSome then ls else []) ++ (skip? ls cs).getD cs = cs := by
  cases h : skip? ls cs
  case none => rfl
  case some rest => simp [skip?_eq_some_iff.mp h]

theorem getD_skip?_optional {ls : List Char} (h : skip? ls cs = none) (b : Bool) :
    (skip? ls ((if b then ls else []) ++ cs)).getD ((if b then ls else []) ++ cs) = cs := by
  cases b
  case false => simp [h]
  case true => simp [skip?_append]

theorem blank?_eq_some_iff :
    blank? cs = some rest ↔ ∃ bs : Run isBlank, cs = bs.chars ++ rest ∧ Stops isBlank rest := by
  simp only [blank?, Option.map_eq_some_iff, Prod.exists, run?_eq_some_iff]
  constructor
  case mp =>
    rintro ⟨_, _, ⟨bs, _, hc, hs⟩, he⟩
    exact ⟨bs, he ▸ hc, he ▸ hs⟩
  case mpr =>
    rintro ⟨bs, hc, hs⟩
    exact ⟨_, _, ⟨bs, rfl, hc, hs⟩, rfl⟩

theorem trimStart_eq_iff (hs : Stops isBlank rest) :
    trimStart cs = rest ↔ ∃ bs : List Char, (∀ b ∈ bs, isBlank b) ∧ cs = bs ++ rest := by
  constructor
  case mp =>
    intro h
    have ha : ∀ c ∈ cs.takeWhile isBlank, isBlank c :=
      fun c hc => List.all_eq_true.mp List.all_takeWhile c hc
    exact ⟨_, ha, h ▸ List.takeWhile_append_dropWhile.symm⟩
  case mpr =>
    rintro ⟨bs, hb, hc⟩
    rw [hc, trimStart, List.dropWhile_append_of_pos hb, dropWhile_of_stops hs]

theorem trimStart_eq_cons_iff {c : Char} (hc : isBlank c = false) :
    trimStart cs = c :: rest ↔ ∃ bs : Chars isBlank, cs = bs.chars ++ c :: rest := by
  rw [trimStart_eq_iff (stops_cons.mpr hc)]
  constructor
  case mp =>
    rintro ⟨bs, hb, he⟩
    exact ⟨⟨bs, hb⟩, he⟩
  case mpr =>
    rintro ⟨bs, he⟩
    exact ⟨bs.chars, bs.all, he⟩

theorem exists_blanks (cs : List Char) : ∃ bs : Chars isBlank, cs = bs.chars ++ trimStart cs := by
  have ⟨bs, hb, he⟩ := (trimStart_eq_iff (stops_dropWhile cs)).mp rfl
  exact ⟨⟨bs, hb⟩, he⟩

end

section

variable {sep : Char} {cs ds : List Char}

theorem until?_append (h : sep ∉ cs) : until? sep (cs ++ sep :: ds) = some (cs, ds) := by
  induction cs
  case nil => simp [until?]
  case cons c cs hi =>
    simp only [List.mem_cons, not_or] at h
    simp [until?, hi h.right, Ne.symm h.left]

theorem until?_of_not_mem (h : sep ∉ cs) : until? sep cs = none := by
  induction cs
  case nil => rfl
  case cons c cs hi =>
    simp only [List.mem_cons, not_or] at h
    simp [until?, hi h.right, Ne.symm h.left]

theorem until?_eq_some_iff {taken : List Char} :
    until? sep cs = some (taken, ds) ↔ sep ∉ taken ∧ cs = taken ++ sep :: ds := by
  constructor
  case mp =>
    intro h
    induction cs generalizing taken
    case nil => simp [until?] at h
    case cons c cs hi =>
      rw [until?] at h
      split at h
      case isTrue hc =>
        cases h
        simp [hc]
      case isFalse hc =>
        have ⟨⟨t, r⟩, ht, he⟩ := Option.map_eq_some_iff.mp h
        cases he
        have ⟨hn, hcs⟩ := hi ht
        simp [hn, hcs, Ne.symm hc]
  case mpr =>
    rintro ⟨hn, hc⟩
    rw [hc, until?_append hn]

theorem until?_eq_none_iff : until? sep cs = none ↔ sep ∉ cs := by
  constructor
  case mp =>
    intro h hm
    have ⟨taken, rest, he, hn⟩ := List.eq_append_cons_of_mem hm
    rw [he, until?_append hn] at h
    cases h
  case mpr => exact until?_of_not_mem

theorem until?_append_front {front : List Char} (h : sep ∉ front) :
    until? sep (front ++ cs) = (until? sep cs).map fun (t, r) => (front ++ t, r) := by
  induction front
  case nil => simp
  case cons c front hi =>
    simp only [List.mem_cons, not_or] at h
    rw [List.cons_append, until?, if_neg (Ne.symm h.left), hi h.right, Option.map_map]
    rfl

theorem map_until?_append : (until? sep (cs ++ sep :: ds)).map (·.1) =
    some (cs.takeWhile (· != sep)) := by
  induction cs
  case nil => simp [until?]
  case cons c cs hi =>
    by_cases hc : c = sep
    case pos => simp [until?, hc]
    case neg =>
      have ⟨found, hf, ht⟩ := Option.map_eq_some_iff.mp hi
      simp [until?, hc, hf, ht]

theorem eq_of_append_cons {c : Char} {xs ys us vs : List Char} (hx : c ∉ xs) (hy : c ∉ ys)
    (h : xs ++ c :: us = ys ++ c :: vs) : xs = ys := by
  have hu := congrArg (until? c) h
  rw [until?_append hx, until?_append hy] at hu
  exact (Prod.mk.inj (Option.some.inj hu)).left

theorem splitAt_eq_splitOn : splitAt sep cs = cs.splitOn sep := by
  induction cs
  case nil => rfl
  case cons c cs hi =>
    have ⟨p, ps, hp⟩ := List.exists_cons_of_ne_nil (List.splitOn_ne_nil sep cs)
    by_cases hc : c = sep <;> simp [splitAt, List.splitOn_cons_eq_if_modifyHead, hc, hi, hp]

theorem splitAt_ne_nil : splitAt sep cs ≠ [] := by
  rw [splitAt_eq_splitOn]
  exact List.splitOn_ne_nil sep cs

theorem splitAt_of_not_mem (h : sep ∉ cs) : splitAt sep cs = [cs] := by
  rw [splitAt_eq_splitOn, List.splitOn_eq_singleton h]

theorem splitAt_append_sep : splitAt sep (cs ++ sep :: ds) = splitAt sep cs ++ splitAt sep ds := by
  simp only [splitAt_eq_splitOn, List.splitOn_append_cons_self]

theorem splitAt_append (h : sep ∉ cs) :
    splitAt sep (cs ++ sep :: ds) = cs :: splitAt sep ds := by
  rw [splitAt_append_sep, splitAt_of_not_mem h, List.singleton_append]

theorem not_mem_of_mem_splitAt {p : List Char} (h : p ∈ splitAt sep cs) : sep ∉ p := by
  induction cs generalizing p
  case nil => simp_all [splitAt]
  case cons c cs hi =>
    have hn : splitAt sep cs ≠ [] := splitAt_ne_nil
    obtain ⟨q, qs, hq⟩ := List.exists_cons_of_ne_nil hn
    rw [hq] at hi
    by_cases hc : c = sep
    case pos =>
      have hp : p = [] ∨ p ∈ q :: qs := by simpa [splitAt, hc, hq] using h
      rcases hp with rfl | hp
      case inl => exact List.not_mem_nil
      case inr => exact hi hp
    case neg =>
      have hp : p = c :: q ∨ p ∈ qs := by simpa [splitAt, hc, hq] using h
      rcases hp with rfl | hp
      case inl => simpa [Ne.symm hc] using hi List.mem_cons_self
      case inr => exact hi (List.mem_cons_of_mem q hp)

theorem splitAt_intercalate {ps : List (List Char)} (hn : ps ≠ []) (h : ∀ p ∈ ps, sep ∉ p) :
    splitAt sep ([sep].intercalate ps) = ps := by
  rw [splitAt_eq_splitOn, List.splitOn_intercalate sep h hn]

theorem intercalate_splitAt : [sep].intercalate (splitAt sep cs) = cs := by
  rw [splitAt_eq_splitOn, List.intercalate_splitOn]

theorem eq_or_mem_of_mem_intercalate {c : Char} {ps : List (List Char)}
    (h : c ∈ [sep].intercalate ps) : c = sep ∨ ∃ p ∈ ps, c ∈ p := by
  induction ps
  case nil => simp at h
  case cons p ps hi =>
    by_cases hn : ps = []
    case pos => simp_all
    case neg =>
      simp only [List.intercalate_cons_of_ne_nil hn, List.mem_append, List.mem_singleton] at h
      grind

theorem length_splitAt : (splitAt sep cs).length = cs.count sep + 1 := by
  induction cs
  case nil => rfl
  case cons c cs hi =>
    by_cases hc : c = sep <;>
      simp [splitAt_eq_splitOn, List.splitOn_cons_eq_if_modifyHead, hc, ← hi]

theorem map_trim_splitAt_space (h : sep ≠ ' ') :
    (splitAt sep (' ' :: cs)).map trim = (splitAt sep cs).map trim := by
  rw [splitAt, if_neg (Ne.symm h)]
  cases he : splitAt sep cs
  case nil => exact absurd he splitAt_ne_nil
  case cons p ps => simp

end

theorem eq_append_cons_of_append {α : Type} {xs ys front rest : List α} {x : α}
    (h : xs ++ ys = front ++ x :: rest) : (∃ more, xs = front ++ x :: more) ∨
      ∃ more, front = xs ++ more ∧ ys = more ++ x :: rest := by
  rcases List.append_eq_append_iff.mp h with ⟨more, hf, hr⟩ | ⟨more, hf, hr⟩
  case inl => exact .inr ⟨more, hf, hr⟩
  case inr =>
    cases more
    case nil => exact .inr ⟨[], by simpa using hf.symm, hr.symm⟩
    case cons c more =>
      obtain ⟨rfl, _⟩ := List.cons.inj hr
      exact .inl ⟨more, hf⟩

theorem filterMap_cons_eq {α β : Type} {f : α → Option β} {x : α} {xs : List α} :
    (x :: xs).filterMap f = (f x).toList ++ xs.filterMap f := by
  cases h : f x <;> simp [h]

theorem lines_cons {c : Char} {cs l : List Char} {ls : List (List Char)} (hn : c ≠ '\n')
    (hr : c = '\r' → cs.head? ≠ some '\n') (h : lines cs = l :: ls) :
    lines (c :: cs) = (c :: l) :: ls := by
  rw [lines, h]
  case x_1 => exact hn
  case x_2 =>
    intro ds hc hd
    exact hr hc (by simp [hd])

theorem lines_append {l rest : List Char} (hn : '\n' ∉ l) (hr : l.getLast? ≠ some '\r') :
    lines (l ++ '\n' :: rest) = l :: lines rest := by
  induction l
  case nil => simp [lines]
  case cons c l hi =>
    simp only [List.mem_cons, not_or] at hn
    have hl : lines (l ++ '\n' :: rest) = l :: lines rest := by
      cases l
      case nil => simp [lines]
      case cons d l => exact hi hn.right (by simpa using hr)
    -- A `\r` breaks the line only in front of the `\n`, where there is none.
    refine lines_cons (Ne.symm hn.left) (fun hc => ?_) hl
    cases l
    case nil => simp [hc] at hr
    case cons d l => simpa using Ne.symm (List.ne_of_not_mem_cons hn.right)

theorem lines_append_return {l rest : List Char} (h : '\n' ∉ l) :
    lines (l ++ '\r' :: '\n' :: rest) = l :: lines rest := by
  induction l
  case nil => simp [lines]
  case cons c l hi =>
    simp only [List.mem_cons, not_or] at h
    refine lines_cons (Ne.symm h.left) (fun _ => ?_) (hi h.right)
    cases l
    case nil => simp
    case cons d l => simpa using Ne.symm (List.ne_of_not_mem_cons h.right)

theorem lines_of_not_mem {l : List Char} (hn : l ≠ []) (h : '\n' ∉ l) : lines l = [l] := by
  induction l
  case nil => contradiction
  case cons c l hi =>
    simp only [List.mem_cons, not_or] at h
    cases l
    case nil =>
      rw [lines]
      case x_1 => exact Ne.symm h.left
      case x_2 => simp
      simp [lines]
    case cons d l =>
      refine lines_cons (Ne.symm h.left) (fun _ => ?_) (hi (by simp) h.right)
      simpa using Ne.symm (List.ne_of_not_mem_cons h.right)

section

variable {α : Type} {f : List Char → Option α} (hn : f [] = none) (hr : ∀ l, f (l ++ ['\r']) = f l)
include hr

theorem filterMap_lines_append {l rest : List Char} (h : '\n' ∉ l) :
    (lines (l ++ '\n' :: rest)).filterMap f = (f l).toList ++ (lines rest).filterMap f := by
  by_cases hl : l.getLast? = some '\r'
  case pos =>
    have ⟨front, he⟩ := List.getLast?_eq_some_iff.mp hl
    subst he
    have hf : '\n' ∉ front := fun hm => h (List.mem_append_left _ hm)
    rw [List.append_assoc, List.singleton_append, lines_append_return hf, hr, filterMap_cons_eq]
  case neg => rw [lines_append h hl, filterMap_cons_eq]

include hn

theorem filterMap_lines_intercalate {ls : List (List Char)} (h : ∀ l ∈ ls, '\n' ∉ l) :
    (lines (['\n'].intercalate ls)).filterMap f = ls.filterMap f := by
  induction ls
  case nil => rfl
  case cons l ls hi =>
    have ⟨hl, hls⟩ := List.forall_mem_cons.mp h
    rw [filterMap_cons_eq]
    cases ls
    case nil =>
      by_cases he : l = []
      case pos => simp [he, hn, lines]
      case neg => simp [lines_of_not_mem he hl, filterMap_cons_eq]
    case cons m ls =>
      rw [List.intercalate_cons_cons, List.append_assoc, List.singleton_append,
        filterMap_lines_append hr hl, hi hls]

end

theorem filterMap_lines_append_text {α : Type} {f : List Char → Option α} (hn : f [] = none)
    (hr : ∀ l, f (l ++ ['\r']) = f l) (text rest : List Char) :
    (lines (text ++ '\n' :: rest)).filterMap f =
      (lines text).filterMap f ++ (lines rest).filterMap f := by
  -- The induction is on the text, with the part of a line that stands in front of it.
  have hl (l : List Char) (h : '\n' ∉ l) : (lines (l ++ (text ++ '\n' :: rest))).filterMap f =
      (lines (l ++ text)).filterMap f ++ (lines rest).filterMap f := by
    induction text generalizing l
    case nil =>
      have ho : (lines (['\n'].intercalate [l])).filterMap f = [l].filterMap f :=
        filterMap_lines_intercalate hn hr (by simpa using h)
      rw [List.intercalate_singleton, filterMap_cons_eq, List.filterMap_nil, List.append_nil] at ho
      rw [List.append_nil, ho, List.nil_append, filterMap_lines_append hr h]
    case cons c text hi =>
      by_cases hc : c = '\n'
      case pos =>
        subst hc
        rw [List.cons_append, filterMap_lines_append hr h, filterMap_lines_append hr h,
          List.append_assoc]
        exact congrArg _ (hi [] (by simp))
      case neg =>
        have hm : '\n' ∉ l ++ [c] := by simp [h, Ne.symm hc]
        simpa using hi (l ++ [c]) hm
  exact hl [] (by simp)

theorem Matcher.first_of_some {α : Type} {m : Matcher α} {before : Option Char} {cs : List Char}
    {found : α × List Char} (h : m before cs = some found) : m.first before cs = some found := by
  cases cs
  case nil => exact h
  case cons c cs => rw [Matcher.first, h]

theorem Matcher.first_append {α : Type} {m : Matcher α} {skipped : List Char}
    (h : ∀ c ∈ skipped, ∀ before cs, m before (c :: cs) = none) (before : Option Char)
    (cs : List Char) :
    ∃ before', m.first before (skipped ++ cs) = m.first before' cs := by
  induction skipped generalizing before
  case nil => exact ⟨before, rfl⟩
  case cons c skipped hi =>
    have hc := h c List.mem_cons_self before (skipped ++ cs)
    have ⟨before', he⟩ := hi (fun d hd => h d (List.mem_cons_of_mem _ hd)) (some c)
    exact ⟨before', by rw [List.cons_append, Matcher.first, hc, he]⟩

-- A matcher succeeds at a place, and nowhere in front of it.
structure Matcher.FirstAt {α : Type} (m : Matcher α) (before : Option Char) (front rest : List Char)
    (found : α × List Char) : Prop where
  found : m (front.getLast?.or before) rest = some found
  none_before : ∀ front' rest', front ++ rest = front' ++ rest' → front'.length < front.length →
    m (front'.getLast?.or before) rest' = none

theorem getLast?_cons_or {c : Char} {cs : List Char} {before : Option Char} :
    (c :: cs).getLast?.or before = cs.getLast?.or (some c) := by
  cases h : cs.getLast? <;> simp [List.getLast?_cons, h]

theorem Matcher.firstAt_nil {α : Type} {m : Matcher α} {found : α × List Char}
    {before : Option Char} {rest : List Char} :
    m.FirstAt before [] rest found ↔ m before rest = some found := by
  constructor
  case mp => exact fun h => h.found
  case mpr => exact fun h => ⟨h, by simp⟩

theorem Matcher.firstAt_cons {α : Type} {m : Matcher α} {found : α × List Char}
    {before : Option Char} {c : Char} {front rest : List Char} :
    m.FirstAt before (c :: front) rest found ↔
      m before (c :: front ++ rest) = none ∧ m.FirstAt (some c) front rest found := by
  constructor
  case mp =>
    intro h
    refine ⟨h.none_before [] _ rfl (by simp), by simpa [getLast?_cons_or] using h.found, ?_⟩
    intro front' rest' he hl
    simpa [getLast?_cons_or] using
      h.none_before (c :: front') rest' (by simp [he]) (by simpa using hl)
  case mpr =>
    rintro ⟨hn, h⟩
    refine ⟨by simpa [getLast?_cons_or] using h.found, ?_⟩
    intro front' rest' he hl
    cases front'
    case nil => exact (show c :: front ++ rest = rest' from he) ▸ hn
    case cons d front' =>
      rw [List.cons_append, List.cons_append] at he
      have ⟨hd, he⟩ := List.cons.inj he
      rw [← hd, getLast?_cons_or]
      exact h.none_before front' rest' he (by simpa using hl)

theorem Matcher.first_eq_some_iff {α : Type} {m : Matcher α} {found : α × List Char}
    {before : Option Char} {cs : List Char} : m.first before cs = some found ↔
      ∃ front rest, cs = front ++ rest ∧ m.FirstAt before front rest found := by
  induction cs generalizing before
  case nil =>
    constructor
    case mp => exact fun h => ⟨[], [], rfl, firstAt_nil.mpr h⟩
    case mpr =>
      rintro ⟨front, rest, he, h⟩
      have ⟨hf, hr⟩ := List.append_eq_nil_iff.mp he.symm
      subst hf hr
      rw [Matcher.first]
      exact firstAt_nil.mp h
  case cons c cs hi =>
    rw [Matcher.first]
    constructor
    case mp =>
      intro h
      split at h
      case h_1 hf => exact ⟨[], c :: cs, rfl, firstAt_nil.mpr (hf.trans h)⟩
      case h_2 hn =>
        -- There is no match here, so the first one stands one character further on.
        have ⟨front, rest, he, hf⟩ := hi.mp h
        exact ⟨c :: front, rest, by simp [he], firstAt_cons.mpr ⟨by simpa [he] using hn, hf⟩⟩
    case mpr =>
      rintro ⟨front, rest, he, h⟩
      cases front
      case nil =>
        have hf : m before (c :: cs) = some found := he ▸ firstAt_nil.mp h
        rw [hf]
      case cons d front =>
        rw [List.cons_append] at he
        have ⟨hd, hcs⟩ := List.cons.inj he
        subst hd
        have ⟨hn, hf⟩ := firstAt_cons.mp h
        rw [List.cons_append, ← hcs] at hn
        rw [hn]
        exact hi.mpr ⟨front, rest, hcs, hf⟩

theorem Matcher.first_eq_none_iff {α : Type} {m : Matcher α} {before : Option Char}
    {cs : List Char} : m.first before cs = none ↔
      ∀ front rest, cs = front ++ rest → m (front.getLast?.or before) rest = none := by
  constructor
  case mp =>
    intro h front rest he
    subst he
    induction front generalizing before
    case nil =>
      cases hm : m before rest
      case none => exact hm
      case some found => exact absurd (Matcher.first_of_some hm ▸ h) nofun
    case cons c front hi =>
      rw [List.cons_append, Matcher.first] at h
      split at h
      case h_1 => cases h
      case h_2 => exact getLast?_cons_or ▸ hi h
  case mpr =>
    intro h
    cases hf : m.first before cs
    case none => rfl
    case some found =>
      have ⟨front, rest, he, hm⟩ := Matcher.first_eq_some_iff.mp hf
      exact absurd (h front rest he) (by simp [hm.found])

section

variable {α : Type} {m : Matcher α} {before : Option Char} {c : Char} {cs rest : List Char}

theorem Matcher.allFrom_length :
    m.allFrom cs.length before (cs ++ rest) = m.allFrom 0 (cs.getLast?.or before) rest := by
  induction cs generalizing before
  case nil => simp
  case cons c cs hi =>
    rw [List.length_cons, List.cons_append, Matcher.allFrom, hi, getLast?_cons_or]

-- The search goes on behind a find, and one character further where there is none.
theorem Matcher.allFrom_of_some {a : α} (h : m before (c :: cs ++ rest) = some (a, rest)) :
    m.allFrom 0 before (c :: cs ++ rest) = a :: m.allFrom 0 (cs.getLast?.or (some c)) rest := by
  rw [List.cons_append, Matcher.allFrom, ← List.cons_append, h]
  simp [allFrom_length]

theorem Matcher.allFrom_of_none (h : m before (c :: cs) = none) :
    m.allFrom 0 before (c :: cs) = m.allFrom 0 (some c) cs := by
  rw [Matcher.allFrom, h]

end

def Matcher.LooksAhead {α : Type} (m : Matcher α) : Prop :=
  ∀ before before' cs, m before cs = m before' cs

section

variable {α : Type} {m : Matcher α} {a : α} {cs rest : List Char}

theorem Matcher.LooksAhead.allFrom_eq (h : m.LooksAhead) {before : Option Char} :
    m.allFrom 0 before cs = m.all cs := by
  cases cs
  case nil => rfl
  case cons c cs => rw [Matcher.all, Matcher.allFrom, Matcher.allFrom, h before none]

theorem Matcher.LooksAhead.all_of_some {front : List Char} (h : m.LooksAhead) (hn : front ≠ [])
    (hf : m none (front ++ rest) = some (a, rest)) : m.all (front ++ rest) = a :: m.all rest := by
  obtain ⟨c, front, rfl⟩ := List.exists_cons_of_ne_nil hn
  rw [Matcher.all, Matcher.allFrom_of_some hf, h.allFrom_eq]

theorem Matcher.LooksAhead.all_of_none {c : Char} (h : m.LooksAhead)
    (hf : m none (c :: cs) = none) : m.all (c :: cs) = m.all cs := by
  rw [Matcher.all, Matcher.allFrom_of_none hf, h.allFrom_eq]

theorem Matcher.exists_of_mem_allFrom {n : Nat} {before : Option Char}
    (h : a ∈ m.allFrom n before cs) : ∃ before' cs' rest, m before' cs' = some (a, rest) := by
  fun_induction m.allFrom n before cs
  case case1 => cases h
  case case2 hi => exact hi h
  case case3 found rest hf hi =>
    cases h
    case head => exact ⟨_, _, _, hf⟩
    case tail h => exact hi h
  case case4 hi => exact hi h

end

end GodotAtlas.Text
