import GodotAtlas.Proofs.Format.HeaderText
import GodotAtlas.Format.Resource

namespace GodotAtlas.Format

open Text

-- In front of every equals sign of a text stands one of some keys, and white space behind it.
def Assigns (keys : List (List Char)) (text : List Char) : Prop :=
  ∀ front rest, text = front ++ '=' :: rest →
    ∃ k ∈ keys, ∃ (before : List Char) (blanks : Chars isBlank),
      front = before ++ k ++ blanks.chars

namespace Assigns

variable {keys : List (List Char)} {k value text text' : List Char}

theorem of_not_mem (h : '=' ∉ text) : Assigns keys text := by
  rintro front rest rfl
  exact absurd h (by simp)

theorem append (h : Assigns keys text) (h' : Assigns keys text') :
    Assigns keys (text ++ text') := by
  intro front rest he
  rcases eq_append_cons_of_append he with ⟨more, hf⟩ | ⟨more, rfl, hr⟩
  case inl => exact h front more hf
  case inr =>
    obtain ⟨k, hk, before, blanks, rfl⟩ := h' more rest hr
    exact ⟨k, hk, text ++ before, blanks, by simp⟩

theorem setting (hm : k ∈ keys) (hk : '=' ∉ k) (blanks : Chars isBlank) (hv : '=' ∉ value) :
    Assigns keys (k ++ blanks.chars ++ '=' :: value) := by
  intro front rest he
  have hb : '=' ∉ k ++ blanks.chars := by simp [hk, blanks.not_mem (c := '=') rfl]
  rcases eq_append_cons_of_append he with ⟨more, hf⟩ | ⟨more, rfl, hr⟩
  case inl => exact absurd hb (by simp [hf])
  case inr =>
    cases more
    case nil => exact ⟨k, hm, [], blanks, by simp⟩
    case cons c more =>
      have hr := (List.cons.inj hr).right
      exact absurd hv (by simp [hr])

theorem intercalate {ls : List (List Char)} (h : ∀ l ∈ ls, Assigns keys l) :
    Assigns keys (['\n'].intercalate ls) := by
  induction ls
  case nil => exact of_not_mem (by simp)
  case cons l ls hi =>
    have ⟨hl, hls⟩ := List.forall_mem_cons.mp h
    cases ls
    case nil => simpa using hl
    case cons m ls =>
      rw [List.intercalate_cons_cons, List.append_assoc]
      exact hl.append ((of_not_mem (by decide)).append (hi hls))

theorem spaced {as : List Attribute} (h : ∀ a ∈ as, a.key.chars ∈ keys ∧ '=' ∉ a.value) :
    Assigns keys (spaced as) := by
  induction as
  case nil => exact of_not_mem (by simp [Format.spaced])
  case cons a as hi =>
    obtain ⟨⟨hk, hv⟩, has⟩ := List.forall_mem_cons.mp h
    have hs : Format.spaced (a :: as) = [' '] ++ (a.written ++ Format.spaced as) := by
      simp [Format.spaced]
    have ha : Assigns keys a.written := by
      have hn : '=' ∉ a.key.chars := a.key.not_mem rfl
      simpa [Attribute.written] using setting hk hn ⟨[], by simp⟩ hv
    rw [hs]
    exact (of_not_mem (by decide)).append (ha.append (hi has))

theorem headerText {kind : Run isWord} {as : List Attribute}
    (h : ∀ a ∈ as, a.key.chars ∈ keys ∧ '=' ∉ a.value) : Assigns keys (headerText kind as) := by
  have ht : Format.headerText kind as = ('[' :: kind.chars) ++ (Format.spaced as ++ [']']) := by
    simp [Format.headerText]
  rw [ht]
  exact (of_not_mem (by simp [kind.not_mem (c := '=') rfl])).append
    ((spaced h).append (of_not_mem (by decide)))

end Assigns

def classKeys : List (List Char) :=
  ["script_class".toList, "class_name".toList]

def otherKeys : List (List Char) :=
  ["type".toList, "path".toList, "id".toList, "format".toList, "script".toList]

section

variable {k k' before before' : List Char} {blanks blanks' : Chars isBlank}

theorem trimEnd_of_key (h : k ∈ classKeys ++ otherKeys) :
    trimEnd (before ++ k ++ blanks.chars) = before ++ k := by
  have hs : Stops isBlank (before ++ k).reverse := by
    have hk : ∀ k ∈ classKeys ++ otherKeys, k.reverse.head?.map isBlank = some false := by decide
    have ⟨c, hr, hc⟩ := Option.map_eq_some_iff.mp (hk k h)
    rw [Stops, List.reverse_append, List.head?_append, hr, Option.some_or, Option.any_some, hc]
  rw [trimEnd_append_blanks, trimEnd, dropWhile_of_stops hs, List.reverse_reverse]

theorem eq_of_keys (h : k ∈ classKeys ++ otherKeys) (h' : k' ∈ classKeys ++ otherKeys)
    (he : before ++ k ++ blanks.chars = before' ++ k' ++ blanks'.chars) :
    before = before' ∧ k = k' := by
  have ht := congrArg trimEnd he
  rw [trimEnd_of_key h, trimEnd_of_key h'] at ht
  have hc : ∀ k ∈ classKeys ++ otherKeys, ∀ k' ∈ classKeys ++ otherKeys, k <:+ k' → k = k' := by
    decide
  have hk : k = k' := by
    have hs : k <:+ before' ++ k' := ⟨before, ht⟩
    rcases List.suffix_or_suffix_of_suffix hs (List.suffix_append before' k') with hs | hs
    case inl => exact hc k h k' h' hs
    case inr => exact (hc k' h' k h hs).symm
  exact ⟨List.append_cancel_right (hk ▸ ht), hk⟩

end

theorem exists_key_of_scriptClass {before : Option Char} {cs : List Char}
    {found : String × List Char} (h : scriptClass before cs = some found) :
    ∃ k ∈ classKeys, ∃ (blanks : Chars isBlank) (rest : List Char),
      cs = k ++ blanks.chars ++ '=' :: rest := by
  rw [scriptClass] at h
  split at h
  case isFalse => cases h
  case isTrue =>
    obtain ⟨ds, hd, hq⟩ := Option.bind_eq_some_iff.mp h
    obtain ⟨es, he, _⟩ := Option.bind_eq_some_iff.mp hq
    obtain ⟨blanks, hb⟩ := (trimStart_eq_cons_iff rfl).mp (skip?_singleton_iff.mp he)
    have hk : ∃ k ∈ classKeys, cs = k ++ ds := by
      rcases Option.or_eq_some_iff.mp hd with hs | ⟨_, hs⟩
      case inl => exact ⟨_, by simp [classKeys], skip?_eq_some_iff.mp hs⟩
      case inr => exact ⟨_, by simp [classKeys], skip?_eq_some_iff.mp hs⟩
    obtain ⟨k, hm, hc⟩ := hk
    exact ⟨k, hm, blanks, es, by simp [hc, hb]⟩

theorem Assigns.not_classKey {text k : List Char} (h : Assigns otherKeys text)
    (hk : k ∈ classKeys) (blanks : Chars isBlank) (front tail : List Char) :
    text ≠ front ++ k ++ blanks.chars ++ '=' :: tail := by
  intro he
  obtain ⟨k', hk', before, blanks', hf⟩ := h _ tail he
  have ⟨_, hkk⟩ := eq_of_keys (List.mem_append_left _ hk) (List.mem_append_right _ hk') hf
  have hn : ∀ k ∈ classKeys, k ∉ otherKeys := by decide
  exact hn k hk (hkk ▸ hk')

theorem find?_scriptClass_eq_none {text : List Char} (h : Assigns otherKeys text) :
    scriptClass.find? text = none := by
  rw [Matcher.find?, Option.map_eq_none_iff, Matcher.first_eq_none_iff]
  rintro front rest rfl
  rw [Option.eq_none_iff_forall_ne_some]
  intro found hf
  obtain ⟨k, hk, blanks, tail, rfl⟩ := exists_key_of_scriptClass hf
  exact h.not_classKey hk blanks front tail (by simp)

def classKey : List Char :=
  "script_class".toList

section

variable {front rest : List Char} {c : Run isWord}

theorem scriptClass_of_classKey {before : Option Char} (h : before.any isWord = false) :
    scriptClass before (classKey ++ '=' :: (quotedText c.chars ++ rest)) = some (c.text, rest) := by
  have hq : '"' ∉ c.chars := c.not_mem rfl
  have ht : quotedText c.chars ++ rest = '"' :: (c.chars ++ '"' :: rest) := by
    simp [quotedText, escaped_of_not_mem hq]
  have ha : atBoundary before (classKey ++ '=' :: (quotedText c.chars ++ rest)) := by
    have hc : (classKey ++ '=' :: (quotedText c.chars ++ rest)).head? = some 's' := rfl
    rw [atBoundary, h, hc]
    decide
  have hv : quotedSetting? ('=' :: '"' :: (c.chars ++ '"' :: rest)) =
      (until? '"' (c.chars ++ '"' :: rest)).map fun p => (String.ofList p.1, p.2) := rfl
  have hs : skip? "script_class".toList (classKey ++ '=' :: (quotedText c.chars ++ rest)) =
      some ('=' :: (quotedText c.chars ++ rest)) := skip?_append classKey
  rw [scriptClass, if_pos ha, hs, Option.some_or, Option.bind_some, ht, hv, until?_append hq]
  rfl

-- The first class is found at its key. Another key in front of it has its equals sign there, or it
-- is the same.
theorem find?_scriptClass (h : Assigns otherKeys front) (hw : front.getLast?.any isWord = false) :
    scriptClass.find? (front ++ (classKey ++ '=' :: (quotedText c.chars ++ rest))) =
      some c.text := by
  rw [Matcher.find?, Option.map_eq_some_iff]
  refine ⟨(c.text, rest), Matcher.first_eq_some_iff.mpr ⟨front, _, rfl, ?found, ?none_before⟩, rfl⟩
  case found => exact scriptClass_of_classKey (by rwa [Option.or_none])
  case none_before =>
    intro front' rest' he hl
    rw [Option.eq_none_iff_forall_ne_some]
    intro found hf
    obtain ⟨k, hk, blanks, tail, rfl⟩ := exists_key_of_scriptClass hf
    have hn : '=' ∉ k ++ blanks.chars := by
      have hk' : ∀ k ∈ classKeys, '=' ∉ k := by decide
      simp [hk' k hk, blanks.not_mem (c := '=') rfl]
    obtain ⟨between, rfl⟩ : front' <+: front :=
      List.prefix_of_prefix_length_le ⟨_, he.symm⟩ (List.prefix_append _ _) hl.le
    rw [List.append_assoc, List.append_right_inj, ← List.append_assoc] at he
    by_cases hm : '=' ∈ between
    case pos =>
      obtain ⟨text, more, rfl, hb⟩ := List.eq_append_cons_of_mem hm
      rw [List.append_assoc, List.append_assoc, List.cons_append] at he
      have ht := eq_of_append_cons hb hn he
      exact h.not_classKey hk blanks front' more (by simp [ht])
    case neg =>
      have hb : '=' ∉ between ++ classKey := by
        have hn : '=' ∉ classKey := by decide
        simp [hm, hn]
      let none : Chars isBlank := ⟨[], by simp⟩
      have ht : between ++ classKey ++ none.chars = [] ++ k ++ blanks.chars := by
        simpa [none] using eq_of_append_cons hb hn he
      have hc : classKey ∈ classKeys ++ otherKeys := by decide
      have ⟨hb, _⟩ := eq_of_keys hc (List.mem_append_left _ hk) ht
      simp [hb] at hl

end

end GodotAtlas.Format
