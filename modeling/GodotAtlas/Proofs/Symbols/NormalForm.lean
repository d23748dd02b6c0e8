import GodotAtlas.Proofs.Symbols.Expression

namespace GodotAtlas.Symbols

open Text

structure Mark where
  char : Char
  gap : Chars isBlank
  visible : isBlank char = false

def Mark.chars (m : Mark) : List Char :=
  m.char :: m.gap.chars

structure Layout where
  indent : Chars isBlank
  marks : List Mark

def Layout.chars (l : Layout) : List Char :=
  l.indent.chars ++ l.marks.flatMap Mark.chars

-- What is kept of the gap between two marks: a single space, but nothing next to a dot.
def joint (m n : Mark) : List Char :=
  if m.gap.chars ≠ [] ∧ m.char ≠ '.' ∧ n.char ≠ '.' then [' '] else []

def joined : List Mark → List Char
  | [] => []
  | [m] => [m.char]
  | m :: n :: ms => m.char :: (joint m n ++ joined (n :: ms))

theorem exists_layout (cs : List Char) : ∃ l : Layout, l.chars = cs := by
  induction cs
  case nil => exact ⟨⟨⟨[], by simp⟩, []⟩, rfl⟩
  case cons c cs hi =>
    obtain ⟨l, rfl⟩ := hi
    cases hc : isBlank c
    case true =>
      have ha : ∀ b ∈ c :: l.indent.chars, isBlank b := List.forall_mem_cons.mpr ⟨hc, l.indent.all⟩
      exact ⟨⟨⟨_, ha⟩, l.marks⟩, rfl⟩
    case false => exact ⟨⟨⟨[], by simp⟩, ⟨c, l.indent, hc⟩ :: l.marks⟩, rfl⟩

section

variable {gap tight : Bool} {cs : List Char}

theorem gapped_append_front (bs : Chars isBlank) :
    gapped gap (bs.chars ++ cs) = gapped (gap || bs.chars ≠ []) cs := by
  obtain ⟨bs, hb⟩ := bs
  induction bs generalizing gap
  case nil => simp
  case cons b bs hi =>
    have ⟨hb, hbs⟩ := List.forall_mem_cons.mp hb
    have hi : gapped true (bs ++ cs) = gapped (true || bs ≠ []) cs := hi hbs
    rw [Bool.true_or] at hi
    simp [gapped, hb, hi]

theorem respaced_gapped_marks {m : Mark} {ms : List Mark} :
    respaced tight (gapped gap ((m :: ms).flatMap Mark.chars)) =
      (if gap && !tight && m.char != '.' then [' '] else []) ++ joined (m :: ms) := by
  induction ms generalizing m gap tight
  case nil =>
    have hg (g : Bool) : gapped g m.gap.chars = [] := gapped_blanks m.gap.all
    have hm : gapped gap ([m].flatMap Mark.chars) = [(gap, m.char)] := by
      simp [Mark.chars, gapped, m.visible, hg]
    rw [hm, respaced, joined]
    split <;> rfl
  case cons n ms hi =>
    have hm : (m :: n :: ms).flatMap Mark.chars =
        m.char :: (m.gap.chars ++ (n :: ms).flatMap Mark.chars) := by simp [Mark.chars]
    have hj : (if (false || decide (m.gap.chars ≠ [])) && !(m.char == '.') && n.char != '.' then
        [' '] else []) = joint m n := by
      simp [joint, and_assoc]
    rw [hm, gapped, if_neg (by simp [m.visible]), gapped_append_front, respaced, hi, hj, joined]
    split <;> rfl

end

-- The normal form has the same marks in the same order, with what is kept of the gaps between them.
theorem toList_cleanExpr {t : String} {l : Layout} (h : l.chars = t.toList) :
    (cleanExpr t).toList = joined l.marks := by
  rw [cleanExpr_eq, String.toList_ofList, ← h, Layout.chars, gapped_append_front,
    respaced_gapped_of_tight]
  cases l.marks
  case nil => rfl
  case cons m ms =>
    rw [respaced_gapped_marks]
    rfl

-- A place where white space does not count: an end of the text, or next to a dot.
def Loose (front rest : List Char) : Prop :=
  front = [] ∨ rest = [] ∨ front.getLast? = some '.' ∨ rest.head? = some '.'

-- One edit of white space: another amount or sort of it in a run that stays one, or any at all
-- where it does not count.
inductive Respacing : List Char → List Char → Prop
  | edit (front rest : List Char) (bs bs' : Chars isBlank)
    (h : (bs.chars = [] ↔ bs'.chars = []) ∨ Loose front rest) :
    Respacing (front ++ (bs.chars ++ rest)) (front ++ (bs'.chars ++ rest))

theorem respaced_gapped_append {cs ds : List Char}
    (h : ∀ gap tight, respaced tight (gapped gap cs) = respaced tight (gapped gap ds))
    (front : List Char) (gap tight : Bool) :
    respaced tight (gapped gap (front ++ cs)) = respaced tight (gapped gap (front ++ ds)) := by
  induction front generalizing gap tight
  case nil => exact h gap tight
  case cons c front hi =>
    cases hc : isBlank c <;> simp [gapped, respaced, hc, hi]

-- In front of a dot a gap does not show, nor does one behind a dot.
theorem respaced_gapped_dot {gap tight : Bool} {cs : List Char} :
    respaced tight (gapped gap ('.' :: cs)) = '.' :: respaced true (gapped false cs) := by
  have hd : isBlank '.' = false := by decide
  simp [gapped, respaced, hd]

theorem respaced_gapped_of_respacing {cs ds : List Char} (h : Respacing cs ds) :
    respaced true (gapped false cs) = respaced true (gapped false ds) := by
  obtain ⟨front, rest, bs, bs', h⟩ := h
  have hstart : respaced true (gapped false (bs.chars ++ rest)) =
      respaced true (gapped false (bs'.chars ++ rest)) := by
    rw [gapped_append_front, gapped_append_front]
    exact respaced_gapped_of_tight.trans respaced_gapped_of_tight.symm
  obtain he | rfl | rfl | hf | hr := h
  case inl =>
    -- A run stays one, or there is none.
    apply respaced_gapped_append
    intro gap tight
    rw [gapped_append_front, gapped_append_front]
    simp only [ne_eq, he]
  case inr.inl => exact hstart
  case inr.inr.inl =>
    apply respaced_gapped_append
    intro gap tight
    simp [gapped_blanks bs.all, gapped_blanks bs'.all]
  case inr.inr.inr.inl =>
    obtain ⟨front, rfl⟩ := List.getLast?_eq_some_iff.mp hf
    rw [List.append_assoc, List.append_assoc]
    apply respaced_gapped_append
    intro gap tight
    rw [List.singleton_append, List.singleton_append, respaced_gapped_dot, respaced_gapped_dot,
      hstart]
  case inr.inr.inr.inr =>
    obtain ⟨rest, rfl⟩ := List.head?_eq_some_iff.mp hr
    apply respaced_gapped_append
    intro gap tight
    rw [gapped_append_front, gapped_append_front, respaced_gapped_dot, respaced_gapped_dot]

open Relation

theorem respaced_gapped_of_eqvGen {cs ds : List Char} (h : EqvGen Respacing cs ds) :
    respaced true (gapped false cs) = respaced true (gapped false ds) := by
  induction h
  case rel h => exact respaced_gapped_of_respacing h
  case refl => rfl
  case symm _ hi => exact hi.symm
  case trans _ _ h₁ h₂ => exact h₁.trans h₂

-- Edits of white space lead from each gap to what is kept of it.
theorem eqvGen_joined (front : List Char) (m : Mark) (ms : List Mark) :
    EqvGen Respacing (front ++ (m :: ms).flatMap Mark.chars) (front ++ joined (m :: ms)) := by
  induction ms generalizing front m
  case nil =>
    have hr := Respacing.edit (front ++ [m.char]) [] m.gap ⟨[], by simp⟩ (.inr (.inr (.inl rfl)))
    refine .rel _ _ ?_
    simpa [Mark.chars, joined] using hr
  case cons n ms hi =>
    have hb : ∀ b ∈ joint m n, isBlank b := by
      unfold joint
      split
      case isTrue => exact List.forall_mem_singleton.mpr rfl
      case isFalse => simp
    have hl : (m.gap.chars = [] ↔ joint m n = []) ∨
        Loose (front ++ [m.char]) ((n :: ms).flatMap Mark.chars) := by
      by_cases hm : m.char = '.'
      case pos => exact .inr (.inr (.inr (.inl (by simp [hm]))))
      case neg =>
        by_cases hn : n.char = '.'
        case pos => exact .inr (.inr (.inr (.inr (by simp [Mark.chars, hn]))))
        case neg => exact .inl (by simp [joint, hm, hn])
    have hr := Respacing.edit (front ++ [m.char]) ((n :: ms).flatMap Mark.chars) m.gap ⟨_, hb⟩ hl
    have hi := hi (front ++ m.char :: joint m n) n
    have hj : front ++ joined (m :: n :: ms) =
        front ++ m.char :: joint m n ++ joined (n :: ms) := by simp [joined]
    rw [hj]
    refine .trans _ _ _ (.rel _ _ ?_) hi
    simpa [Mark.chars] using hr

theorem eqvGen_cleanExpr (t : String) : EqvGen Respacing t.toList (cleanExpr t).toList := by
  obtain ⟨l, hl⟩ := exists_layout t.toList
  rw [toList_cleanExpr hl, ← hl]
  -- The white space in front goes first.
  have hr : Respacing l.chars (l.marks.flatMap Mark.chars) :=
    .edit [] (l.marks.flatMap Mark.chars) l.indent ⟨[], by simp⟩ (.inr (.inl rfl))
  refine .trans _ _ _ (.rel _ _ hr) ?_
  cases l.marks
  case nil => exact .refl _
  case cons m ms => exact eqvGen_joined [] m ms

-- The normal form of a text has its characters other than white space in order, with one space
-- between two of them where there is white space and no dot, and nothing else. It is its own normal
-- form, and the texts that have it are those that edits of white space lead to.
theorem cleanExpr_normalizes (t u : String) :
    (∃ l : Layout, t.toList = l.chars ∧ (cleanExpr t).toList = joined l.marks) ∧
      cleanExpr (cleanExpr t) = cleanExpr t ∧
      (cleanExpr t = cleanExpr u ↔ EqvGen Respacing t.toList u.toList) := by
  refine ⟨?layout, cleanExpr_cleanExpr t, ?edits⟩
  case layout =>
    obtain ⟨l, hl⟩ := exists_layout t.toList
    exact ⟨l, hl.symm, toList_cleanExpr hl⟩
  case edits =>
    constructor
    case mp =>
      intro h
      have hu := EqvGen.symm _ _ (eqvGen_cleanExpr u)
      rw [← h] at hu
      exact .trans _ _ _ (eqvGen_cleanExpr t) hu
    case mpr =>
      intro h
      rw [cleanExpr_eq, cleanExpr_eq, respaced_gapped_of_eqvGen h]

end GodotAtlas.Symbols
