import GodotAtlas.Proofs.Text.Matching

namespace GodotAtlas.Text

variable {α : Type}

-- A matcher that looks at the start of a line. White space in front may run over several lines.
def anchored (read? : List Char → Option (α × List Char)) : Matcher α := fun before cs =>
  if atLineStart before then read? (trimStart cs) else none

-- What is read from the front of a line takes up the line, whatever comes behind it.
def Enclosed (read? : List Char → Option (α × List Char)) (l : List Char) : Prop :=
  ∀ rest, read? (l ++ rest) = (read? l).map fun found => (found.1, rest)

def Consumes (read? : List Char → Option (α × List Char)) : Prop :=
  ∀ cs found rest, read? cs = some (found, rest) → rest.length < cs.length

def Reads (read? : List Char → Option (α × List Char)) (l : List Char) (found : Option α) : Prop :=
  ∀ rest, read? (l ++ rest) = found.map (·, rest)

section

variable {read? : List Char → Option (α × List Char)} {l k : List Char} {found : Option α}

theorem Reads.map_eq (h : Reads read? l found) : (read? l).map (·.1) = found := by
  have hl := h []
  rw [List.append_nil] at hl
  cases found <;> simp [hl]

theorem Reads.enclosed (h : Reads read? l found) : Enclosed read? l := by
  intro rest
  rw [h rest, ← h.map_eq, Option.map_map]
  rfl

theorem forall₂_reads {ls : List (List Char)} {found : List (Option α)}
    (h : List.Forall₂ (Reads read?) ls found) : (∀ l ∈ ls, Enclosed read? l) ∧
      ls.filterMap (fun l => (read? l).map (·.1)) = found.reduceOption := by
  induction h
  case nil => simp
  case cons l found ls founds hl _ hi =>
    refine ⟨List.forall_mem_cons.mpr ⟨hl.enclosed, hi.left⟩, ?_⟩
    rw [filterMap_cons_eq, hl.map_eq, hi.right]
    cases found <;> rfl

theorem Reads.skip (h : Reads read? l found) :
    Reads (fun cs => (skip? k cs).bind read?) (k ++ l) found := by
  intro rest
  simp only [List.append_assoc, skip?_append]
  exact h rest

theorem Consumes.skip (h : Consumes read?) :
    Consumes fun cs => (skip? k cs).bind read? := by
  intro cs found rest hr
  have ⟨ds, hd, hr⟩ := Option.bind_eq_some_iff.mp hr
  rw [eq_append_of_skip? hd, List.length_append]
  exact Nat.lt_add_left _ (h ds found rest hr)

theorem Consumes.comp (h : Consumes read?) {f : List Char → List Char}
    (hf : ∀ cs, (f cs).length ≤ cs.length) : Consumes fun cs => read? (f cs) :=
  fun cs found rest hr => Nat.lt_of_lt_of_le (h (f cs) found rest hr) (hf cs)

theorem consumes_until? (sep : Char) : Consumes (until? sep) := by
  intro cs taken rest h
  rw [(until?_eq_some_iff.mp h).right]
  simp
  omega

end

theorem Matcher.find?_eq_head? {m : Matcher α} (h : ∀ before, m before [] = none)
    (cs : List Char) : m.find? cs = (m.all cs).head? := by
  have hf (before : Option Char) :
      (m.first before cs).map (·.1) = (m.allFrom 0 before cs).head? := by
    induction cs generalizing before
    case nil => simp [Matcher.first, Matcher.allFrom, h]
    case cons c cs hi =>
      rw [Matcher.first, Matcher.allFrom]
      cases hm : m before (c :: cs)
      case none => exact hi (some c)
      case some found => rfl
  exact hf none

section

variable {read? : List Char → Option (α × List Char)} {before : Option Char} {l rest : List Char}

theorem anchored_of_start (h : atLineStart before) (cs : List Char) :
    anchored read? before cs = read? (trimStart cs) := by
  rw [anchored, if_pos h]

theorem Consumes.nil (h : Consumes read?) : read? [] = none := by
  cases hr : read? []
  case none => rfl
  case some found => exact absurd (h [] found.1 found.2 hr) (Nat.not_lt_zero _)

theorem anchored_of_not_start (h : atLineStart before = false) (cs : List Char) :
    anchored read? before cs = none := by
  simp [anchored, h]

theorem atLineStart_getLast? (hb : atLineStart before = false) (h : '\n' ∉ l) :
    atLineStart (l.getLast?.or before) = false := by
  cases hl : l.getLast?
  case none => exact hb
  case some c =>
    have hc : c ≠ '\n' := fun he => h (he ▸ List.mem_of_getLast? hl)
    simp [atLineStart, hc]

theorem allFrom_anchored_inside (hb : atLineStart before = false) (h : '\n' ∉ l) :
    (anchored read?).allFrom 0 before (l ++ rest) =
      (anchored read?).allFrom 0 (l.getLast?.or before) rest := by
  induction l generalizing before
  case nil => rfl
  case cons c l hi =>
    simp only [List.mem_cons, not_or] at h
    have hc : atLineStart (some c) = false := by simp [atLineStart, Ne.symm h.left]
    rw [List.cons_append, Matcher.allFrom_of_none (anchored_of_not_start hb _), hi hc h.right,
      getLast?_cons_or]

theorem allFrom_anchored_line {c : Char} (hb : atLineStart before) (hc : isBlank c = false)
    (h : '\n' ∉ c :: l) (he : Enclosed read? (c :: l)) (rest : List Char) :
    (anchored read?).allFrom 0 before (c :: l ++ rest) =
      ((read? (c :: l)).map (·.1)).toList ++
        (anchored read?).allFrom 0 (l.getLast?.or (some c)) rest := by
  simp only [List.mem_cons, not_or] at h
  have hm : anchored read? before (c :: l ++ rest) =
      (read? (c :: l)).map fun found => (found.1, rest) := by
    rw [anchored_of_start hb, List.cons_append, trimStart_of_stops (stops_cons.mpr hc),
      ← List.cons_append, he]
  have hs : atLineStart (some c) = false := by simp [atLineStart, Ne.symm h.left]
  cases hr : read? (c :: l)
  case none =>
    rw [hr, Option.map_none] at hm
    exact (Matcher.allFrom_of_none hm).trans (allFrom_anchored_inside hs h.right)
  case some found =>
    rw [hr, Option.map_some] at hm
    exact Matcher.allFrom_of_some hm

-- An empty line does not hide what follows it, although what follows is found from there already.
theorem allFrom_anchored_empty (hr : Consumes read?) (hb : atLineStart before) :
    (anchored read?).allFrom 0 before ('\n' :: rest) =
      (anchored read?).allFrom 0 (some '\n') rest := by
  have ht : trimStart ('\n' :: rest) = trimStart rest := rfl
  have he : anchored read? before ('\n' :: rest) = anchored read? (some '\n') rest := by
    rw [anchored_of_start hb, anchored_of_start rfl, ht]
  cases hm : anchored read? (some '\n') rest
  case none => exact Matcher.allFrom_of_none (he.trans hm)
  case some found =>
    have hl : found.2.length < rest.length := by
      rw [anchored_of_start rfl] at hm
      exact Nat.lt_of_lt_of_le (hr _ found.1 found.2 hm) (List.length_dropWhile_le _ _)
    cases rest
    case nil => simp at hl
    case cons c rest =>
      have hd : (c :: rest).length - found.2.length = rest.length - found.2.length + 1 := by
        simp only [List.length_cons] at hl ⊢
        omega
      rw [Matcher.allFrom, he, hm, Matcher.allFrom, hm]
      simp only [hd, Matcher.allFrom]

end

-- A line that is empty, or is read on its own from its first character on.
structure ReadAlone (read? : List Char → Option (α × List Char)) (l : List Char) : Prop where
  one_line : '\n' ∉ l
  starts : Stops isBlank l
  encloses : l ≠ [] → Enclosed read? l

section

variable {read? : List Char → Option (α × List Char)} {before : Option Char} {l : List Char}

theorem allFrom_anchored_append (hr : Consumes read?) (hl : ReadAlone read? l)
    (hb : atLineStart before) (rest : List Char) :
    (anchored read?).allFrom 0 before (l ++ '\n' :: rest) =
      ((read? l).map (·.1)).toList ++ (anchored read?).allFrom 0 (some '\n') rest := by
  cases l
  case nil => simpa [hr.nil] using allFrom_anchored_empty hr hb
  case cons c l =>
    have ⟨hn, hs, he⟩ := hl
    have hc : atLineStart (l.getLast?.or (some c)) = false := by
      simp only [List.mem_cons, not_or] at hn
      exact atLineStart_getLast? (by simp [atLineStart, Ne.symm hn.left]) hn.right
    rw [allFrom_anchored_line hb (stops_cons.mp hs) hn (he (by simp)),
      Matcher.allFrom_of_none (anchored_of_not_start hc _)]

theorem allFrom_anchored (hr : Consumes read?) (hl : ReadAlone read? l)
    (hb : atLineStart before) :
    (anchored read?).allFrom 0 before l = ((read? l).map (·.1)).toList := by
  cases l
  case nil => simp [hr.nil, Matcher.allFrom]
  case cons c l =>
    have ha := allFrom_anchored_line hb (stops_cons.mp hl.starts) hl.one_line
      (hl.encloses (by simp)) []
    simpa [Matcher.allFrom] using ha

theorem allFrom_anchored_intercalate (hr : Consumes read?) {ls : List (List Char)}
    (h : ∀ l ∈ ls, ReadAlone read? l) (hb : atLineStart before) :
    (anchored read?).allFrom 0 before (['\n'].intercalate ls) =
      ls.filterMap fun l => (read? l).map (·.1) := by
  induction ls generalizing before
  case nil => rfl
  case cons l ls hi =>
    have ⟨hl, hls⟩ := List.forall_mem_cons.mp h
    rw [filterMap_cons_eq]
    cases ls
    case nil => simpa using allFrom_anchored hr hl hb
    case cons m ls =>
      rw [List.intercalate_cons_cons, List.append_assoc, List.singleton_append,
        allFrom_anchored_append hr hl hb, hi hls rfl]

theorem all_anchored (hr : Consumes read?) {ls : List (List Char)}
    (h : ∀ l ∈ ls, ReadAlone read? l) : (anchored read?).all (['\n'].intercalate ls) =
      ls.filterMap fun l => (read? l).map (·.1) :=
  allFrom_anchored_intercalate hr h rfl

theorem find?_anchored (hr : Consumes read?) (cs : List Char) :
    (anchored read?).find? cs = ((anchored read?).all cs).head? := by
  apply Matcher.find?_eq_head?
  intro before
  rw [anchored]
  split
  case isTrue => exact hr.nil
  case isFalse => rfl

end

theorem Matcher.exists_first_append_line {m : Matcher α} {P : α × List Char → Prop}
    {line : List Char} (hs : ∀ before cs, m before cs = none → ∀ found,
      m before (cs ++ '\n' :: line) = some found → P found)
    (hl : ∃ found, m (some '\n') line = some found ∧ P found) {before : Option Char}
    {text : List Char} (h : m.first before text = none) :
    ∃ found, m.first before (text ++ '\n' :: line) = some found ∧ P found := by
  induction text generalizing before
  case nil =>
    rw [List.nil_append, Matcher.first]
    split
    case h_1 found hf => exact ⟨found, rfl, hs before [] h found hf⟩
    case h_2 =>
      obtain ⟨found, hf, hp⟩ := hl
      exact ⟨found, Matcher.first_of_some hf, hp⟩
  case cons c text hi =>
    rw [Matcher.first] at h
    split at h
    case h_1 => cases h
    case h_2 hn =>
      rw [List.cons_append, Matcher.first]
      split
      case h_1 found hf => exact ⟨found, rfl, hs before (c :: text) hn found hf⟩
      case h_2 => exact hi h

end GodotAtlas.Text
