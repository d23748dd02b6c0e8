import GodotAtlas.Proofs.Text.Matching
import GodotAtlas.Symbols.Expression

namespace GodotAtlas.Symbols

open Text

-- The characters that are not white space, each with whether there is white space in front of it.
def gapped : (gap : Bool) → List Char → List (Bool × Char)
  | _, [] => []
  | gap, c :: cs => if isBlank c then gapped true cs else (gap, c) :: gapped false cs

-- The text of such characters. The first argument says that no space may stand in front, because
-- there is a dot or nothing.
def respaced : (tight : Bool) → List (Bool × Char) → List Char
  | _, [] => []
  | tight, (gap, c) :: ms =>
    if gap && !tight && c != '.' then ' ' :: c :: respaced (c == '.') ms
    else c :: respaced (c == '.') ms

section

variable {gap tight : Bool} {c : Char} {cs : List Char}

theorem isBlank_of_mem_gapped {m : Bool × Char} (h : m ∈ gapped gap cs) : isBlank m.2 = false := by
  induction cs generalizing gap
  case nil => cases h
  case cons c cs hi =>
    rw [gapped] at h
    split at h
    case isTrue => exact hi h
    case isFalse hc =>
      cases h
      case head => simpa using hc
      case tail h => exact hi h

theorem respaced_gapped_of_tight :
    respaced true (gapped gap cs) = respaced true (gapped false cs) := by
  cases cs
  case nil => rfl
  case cons c cs => cases hc : isBlank c <;> simp [gapped, respaced, hc]

theorem respaced_gapped_trimStart :
    respaced true (gapped false (trimStart cs)) = respaced true (gapped false cs) := by
  induction cs
  case nil => rfl
  case cons c cs hi =>
    cases hc : isBlank c
    case false => rw [trimStart_of_stops (stops_cons.mpr hc)]
    case true =>
      have ht : trimStart (c :: cs) = trimStart cs := List.dropWhile_cons_of_pos hc
      rw [ht, hi, gapped, if_pos hc]
      exact respaced_gapped_of_tight.symm

theorem gapped_blanks {bs : List Char} (h : ∀ b ∈ bs, isBlank b) : gapped gap bs = [] := by
  induction bs generalizing gap
  case nil => rfl
  case cons b bs hi =>
    have ⟨hb, hbs⟩ := List.forall_mem_cons.mp h
    rw [gapped, if_pos hb, hi hbs]

theorem gapped_append_blanks {bs : List Char} (h : ∀ b ∈ bs, isBlank b) :
    gapped gap (cs ++ bs) = gapped gap cs := by
  induction cs generalizing gap
  case nil => exact gapped_blanks h
  case cons c cs hi => simp [gapped, hi]

theorem gapped_trimEnd : gapped gap (trimEnd cs) = gapped gap cs := by
  have ha : ∀ b ∈ (cs.reverse.takeWhile isBlank).reverse, isBlank b := by
    intro b hb
    exact List.all_eq_true.mp List.all_takeWhile b (List.mem_reverse.mp hb)
  have he : cs = trimEnd cs ++ (cs.reverse.takeWhile isBlank).reverse := by
    rw [trimEnd, ← List.reverse_append, List.takeWhile_append_dropWhile, List.reverse_reverse]
  nth_rewrite 2 [he]
  exact (gapped_append_blanks ha).symm

theorem respaced_gapped_trim :
    respaced true (gapped false (trim cs)) = respaced true (gapped false cs) := by
  rw [trim, gapped_trimEnd, respaced_gapped_trimStart]

theorem trimEnd_space_cons (h : isBlank c = false) :
    trimEnd (' ' :: c :: cs) = ' ' :: c :: trimEnd cs := by
  have hn : (cs.reverse ++ [c]).dropWhile isBlank ≠ [] := by simp [h]
  rw [← trimEnd_cons h, trimEnd, trimEnd, List.reverse_cons, List.reverse_cons,
    List.dropWhile_append, if_neg (by simpa using hn), List.reverse_append]
  rfl

theorem tighten_cons (h : isBlank c = false) :
    tighten tight (c :: cs) = c :: tighten (c == '.') cs := by
  simp [tighten, h]

theorem tighten_space_cons (h : isBlank c = false) :
    tighten tight (' ' :: c :: cs) =
      if !tight && c != '.' then ' ' :: c :: tighten (c == '.') cs
      else c :: tighten (c == '.') cs := by
  have hd : dotFollows (c :: cs) = (c == '.') := by
    simp [dotFollows, trimStart_of_stops (stops_cons.mpr h)]
  have hs : isBlank ' ' := by decide
  rw [tighten, if_pos hs, hd, tighten_cons h, tighten_cons h]
  cases tight <;> by_cases hc : c = '.' <;> simp [hc]

-- A space in front stands for a run of white space that has been replaced already.
theorem trimEnd_tighten_collapse (gap tight : Bool) (cs : List Char) :
    trimEnd (tighten tight ((if gap then [' '] else []) ++ collapse gap cs)) =
      respaced tight (gapped gap cs) := by
  induction cs generalizing gap tight
  case nil => cases gap <;> cases tight <;> decide
  case cons c cs hi =>
    cases hc : isBlank c
    case true =>
      have hi := hi true tight
      cases gap <;> simpa [collapse, gapped, hc] using hi
    case false =>
      have hi : trimEnd (tighten (c == '.') (collapse false cs)) =
        respaced (c == '.') (gapped false cs) := hi false (c == '.')
      cases gap
      case false => simp [collapse, gapped, respaced, hc, tighten_cons hc, trimEnd_cons hc, hi]
      case true =>
        simp only [collapse, gapped, respaced, hc, if_true, Bool.false_eq_true, if_false,
          List.singleton_append, tighten_space_cons hc, Bool.true_and]
        split
        case isTrue => rw [trimEnd_space_cons hc, hi]
        case isFalse => rw [trimEnd_cons hc, hi]

theorem trim_tighten_collapse (h : Stops isBlank cs) :
    trim (tighten false (collapse false cs)) = respaced true (gapped false cs) := by
  cases cs
  case nil => rfl
  case cons c cs =>
    have hc := stops_cons.mp h
    have ht : trimEnd (tighten (c == '.') (collapse false cs)) =
      respaced (c == '.') (gapped false cs) := trimEnd_tighten_collapse false (c == '.') cs
    simp only [collapse, gapped, respaced, hc, Bool.false_eq_true, if_false, tighten_cons hc,
      trim, trimStart_of_stops (stops_cons.mpr hc), trimEnd_cons hc, ht, Bool.false_and]

end

-- A text in normal form is told from the characters of the text and the gaps between them.
theorem cleanExpr_eq (text : String) :
    cleanExpr text = String.ofList (respaced true (gapped false text.toList)) := by
  rw [cleanExpr, trim_tighten_collapse stops_trim, respaced_gapped_trim]

theorem cleanExpr_ne_empty {c : Char} (h : isBlank c = false) (cs : List Char) :
    cleanExpr (String.ofList (c :: cs)) ≠ "" := by
  simp [cleanExpr_eq, gapped, respaced, h]

theorem respaced_gapped_respaced (tight : Bool) {ms : List (Bool × Char)}
    (h : ∀ m ∈ ms, isBlank m.2 = false) :
    respaced tight (gapped false (respaced tight ms)) = respaced tight ms := by
  induction ms generalizing tight
  case nil => rfl
  case cons m ms hi =>
    obtain ⟨gap, c⟩ := m
    have ⟨hc, hm⟩ := List.forall_mem_cons.mp h
    have hi := hi (c == '.') hm
    have hs : isBlank ' ' := by decide
    simp only at hc
    rw [respaced]
    split
    case isTrue hk =>
      have hk : (!tight && c != '.') = true := by
        simp only [Bool.and_eq_true] at hk ⊢
        exact ⟨hk.left.right, hk.right⟩
      simp [gapped, respaced, hs, hc, hk, hi]
    case isFalse => simp [gapped, respaced, hc, hi]

theorem cleanExpr_cleanExpr (text : String) : cleanExpr (cleanExpr text) = cleanExpr text := by
  rw [cleanExpr_eq, cleanExpr_eq, String.toList_ofList,
    respaced_gapped_respaced true fun m => isBlank_of_mem_gapped]

end GodotAtlas.Symbols
