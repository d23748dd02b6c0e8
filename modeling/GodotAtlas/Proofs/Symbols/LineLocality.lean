import GodotAtlas.Proofs.Symbols.Invention
import GodotAtlas.Proofs.Symbols.Routing

namespace GodotAtlas.Symbols

open Text

-- A line that says nothing of its script: it is indented, blank or a comment.
def Silent (line : List Char) : Prop :=
  line.head?.any isBlank ∨ (∀ c ∈ line, isBlank c) ∨ line.head? = some '#'

instance : DecidablePred Silent :=
  fun _ => inferInstanceAs (Decidable (_ ∨ _ ∨ _))

-- The lines of a source that say something, without the white space behind them, such as the
-- return of a line that ends with a return and a newline.
def spokenLines (source : String) : List (List Char) :=
  ((source.toList.splitOn '\n').filter fun line => ¬Silent line).map trimEnd

def returned (c : Char) : List Char :=
  if c = '\n' then ['\r', '\n'] else [c]

def withReturns (source : String) : String :=
  String.ofList (source.toList.flatMap returned)

-- A source is read line by line, and lines that say nothing are of no effect.
structure LineLocal (table : String → Table) : Prop where
  append : ∀ a b, (table (a ++ "\n" ++ b)).summary = (table a).summary.merge (table b).summary
  silent : ∀ line, '\n' ∉ line.toList → Silent line.toList → (table line).summary = {}
  spoken : ∀ source source', spokenLines source = spokenLines source' →
    { table source with dependencies := [] } = { table source' with dependencies := [] }
  returns : ∀ source,
    { table (withReturns source) with dependencies := [] } =
      { table source with dependencies := [] }

theorem Summary.mergeAll_append {ss ts : List Summary} :
    mergeAll (ss ++ ts) = (mergeAll ss).merge (mergeAll ts) := by
  induction ss
  case nil => simp [mergeAll]
  case cons s ss hi => rw [List.cons_append, mergeAll, hi, mergeAll, merge_assoc]

section

variable {l : List Char}

theorem isOutermost_iff : isOutermost l ↔ ¬Silent l := by
  cases l
  case nil => simp [isOutermost, Silent]
  case cons c l =>
    simp only [isOutermost, Silent, List.head?_cons, Option.any_some, Option.some.injEq,
      Bool.and_eq_true, Bool.not_eq_true', bne_iff_ne]
    grind

def outermost? (line : List Char) : Option (List Char) :=
  if isOutermost line then some (trim line) else none

theorem outermost?_nil : outermost? [] = none :=
  rfl

theorem outermost?_append_return (l : List Char) : outermost? (l ++ ['\r']) = outermost? l := by
  cases l
  case nil => rfl
  case cons c l =>
    have ho : isOutermost (c :: l ++ ['\r']) = isOutermost (c :: l) := rfl
    rw [outermost?, ho, trim_append_blank rfl, outermost?]

theorem outermost?_eq : outermost? l = if Silent l then none else some (trimEnd l) := by
  by_cases hs : Silent l
  case pos => simp [outermost?, isOutermost_iff, hs]
  case neg =>
    have ht : trimStart l = l := by
      cases l
      case nil => rfl
      case cons c l =>
        have hc : isBlank c = false := by simpa using fun hb => hs (.inl hb)
        exact trimStart_of_stops (stops_cons.mpr hc)
    simp [outermost?, isOutermost_iff, hs, trim, ht]

end

section

variable {source : String}

theorem marginLines_eq : marginLines source = (lines source.toList).filterMap outermost? := by
  rw [marginLines, ← List.filterMap_eq_map, List.filterMap_filter]
  rfl

theorem spokenLines_eq : spokenLines source = marginLines source := by
  have hn : ∀ l ∈ splitAt '\n' source.toList, '\n' ∉ l := fun _ => not_mem_of_mem_splitAt
  have hl := filterMap_lines_intercalate outermost?_nil outermost?_append_return hn
  rw [intercalate_splitAt, ← marginLines_eq, splitAt_eq_splitOn] at hl
  rw [hl, spokenLines, ← List.filterMap_eq_map, List.filterMap_filter]
  congr
  funext l
  rw [outermost?_eq]
  split <;> simp_all

theorem marginLines_append {a b : String} :
    marginLines (a ++ "\n" ++ b) = marginLines a ++ marginLines b := by
  simp only [marginLines_eq, String.toList_append, String.reduceToList, List.append_assoc,
    List.singleton_append]
  exact filterMap_lines_append_text outermost?_nil outermost?_append_return _ _

-- The induction is on the text, with the part of a line that stands in front of it.
theorem filterMap_lines_returned {α : Type} {f : List Char → Option α}
    (hr : ∀ l, f (l ++ ['\r']) = f l) {l cs : List Char} (h : '\n' ∉ l) :
    (lines (l ++ cs.flatMap returned)).filterMap f = (lines (l ++ cs)).filterMap f := by
  induction cs generalizing l
  case nil => rfl
  case cons c cs hi =>
    by_cases hc : c = '\n'
    case pos =>
      have he : (c :: cs).flatMap returned = '\r' :: '\n' :: cs.flatMap returned := by
        simp [returned, hc]
      have hi : (lines (cs.flatMap returned)).filterMap f = (lines cs).filterMap f :=
        @hi [] List.not_mem_nil
      rw [he, lines_append_return h, filterMap_cons_eq, hi, hc, filterMap_lines_append hr h]
    case neg =>
      have hm : '\n' ∉ l ++ [c] := by simp [h, Ne.symm hc]
      simpa [returned, hc] using hi hm

theorem marginLines_withReturns : marginLines (withReturns source) = marginLines source := by
  rw [marginLines_eq, marginLines_eq, withReturns, String.toList_ofList]
  exact filterMap_lines_returned outermost?_append_return (l := []) List.not_mem_nil

end

-- Two texts with a newline between them show what the one shows and then what the other shows. So
-- only the lines that say something count, wherever they stand and however they end.
theorem lineLocal_extractLines (path : String) : LineLocal (extractLines path) := by
  constructor
  case append =>
    intro a b
    simp only [extractLines, fromLines_eq, marginLines_append, List.map_append,
      Summary.mergeAll_append]
  case silent =>
    intro line hn hs
    have hm : marginLines line = [] := by
      rw [← spokenLines_eq, spokenLines, List.splitOn_eq_singleton hn]
      simp [hs]
    simp [extractLines, fromLines_eq, hm, Summary.mergeAll]
  case spoken =>
    intro source source' h
    rw [spokenLines_eq, spokenLines_eq] at h
    simp only [extractLines, fromLines_eq, h]
  case returns =>
    intro source
    simp only [extractLines, fromLines_eq, marginLines_withReturns]

-- One script in two versions, which differ in a function, in comments and in how lines end.
def turretText : String :=
  "class_name Turret\nsignal fired\nfunc fire():\n\tpass"

def turretReturns : String :=
  "# A turret.\r\nclass_name Turret\r\n\r\nsignal fired \nfunc fire():\r\n    var x = [\r\n\r\n"

theorem lineLocal_turretText : spokenLines turretText = spokenLines turretReturns ∧
    { extractLines "turret.gd" turretText with dependencies := [] } =
      { extractLines "turret.gd" turretReturns with dependencies := [] } := by
  have hs : spokenLines turretText = spokenLines turretReturns := by
    rw [spokenLines_eq, spokenLines_eq]
    decide +kernel
  exact ⟨hs, (lineLocal_extractLines "turret.gd").spoken _ _ hs⟩

end GodotAtlas.Symbols
