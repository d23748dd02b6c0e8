import GodotAtlas.Proofs.Text.Matching
import GodotAtlas.Symbols.Extract

namespace GodotAtlas.Symbols

open Text

def isQuote (c : Char) : Bool :=
  c == '"' || c == '\''

structure LoadCall where
  preloads : Bool
  quote : Char
  quotes : isQuote quote
  path : Run fun c => c != quote && c != '\n'
  behindName : Chars isBlank
  beforePath : Chars isBlank
  behindPath : Chars isBlank

def LoadCall.front (c : LoadCall) : List Char :=
  if c.preloads then "pre".toList else []

def LoadCall.argument (c : LoadCall) : List Char :=
  c.behindName.chars ++ '(' :: c.beforePath.chars ++ c.quote :: c.path.chars ++
    c.quote :: c.behindPath.chars ++ [')']

def LoadCall.bare (c : LoadCall) : List Char :=
  "load".toList ++ c.argument

def LoadCall.text (c : LoadCall) : List Char :=
  c.front ++ c.bare

structure Filler where
  chars : List Char
  no_load : ¬"load".toList <:+: chars

def sourceText (start : Filler) (calls : List (LoadCall × Filler)) : List Char :=
  start.chars ++ calls.flatMap fun c => c.1.text ++ c.2.chars

def isPathChar (c : Char) : Bool :=
  c != '"' && c != '\''

theorem isPathChar_eq {c : Char} : isPathChar c = !isQuote c := by
  simp [isPathChar, isQuote, bne]

def argument? (cs : List Char) : Option (String × List Char) :=
  (skip? ['('] (trimStart cs)).bind fun cs =>
    match trimStart cs with
    | q :: cs =>
      if isQuote q then
        (run? isPathChar cs).bind fun (path, rest) =>
          (skip? [')'] (trimStart (rest.drop 1))).bind fun rest' =>
            if rest.isEmpty then none else some (String.ofList path, rest')
      else none
    | [] => none

def bareCall : Matcher String := fun _ cs =>
  (skip? "load".toList cs).bind argument?

theorem loadCall_eq {before : Option Char} {cs : List Char} : loadCall before cs =
    ((skip? "preload".toList cs).or (skip? "load".toList cs)).bind argument? :=
  rfl

theorem isBlank_of_isQuote {c : Char} (h : isQuote c) : isBlank c = false := by
  simp only [isQuote, Bool.or_eq_true, beq_iff_eq] at h
  rcases h with rfl | rfl <;> decide

theorem argument?_eq_some_iff {cs rest : List Char} {path : String} :
    argument? cs = some (path, rest) ↔
      ∃ (r : Run isPathChar) (q q' : Char) (b b' b'' : Chars isBlank), path = r.text ∧ isQuote q ∧
        isQuote q' ∧ cs = b.chars ++ '(' :: b'.chars ++ q :: r.chars ++ q' :: b''.chars ++
          ')' :: rest := by
  constructor
  case mp =>
    intro h
    obtain ⟨ds, hd, hm⟩ := Option.bind_eq_some_iff.mp h
    obtain ⟨b, hb⟩ := (trimStart_eq_cons_iff (by decide)).mp (skip?_eq_some_iff.mp hd)
    split at hm
    case h_2 => cases hm
    case h_1 q es hq =>
      split at hm
      case isFalse => cases hm
      case isTrue hi =>
        obtain ⟨b', hb'⟩ := (trimStart_eq_cons_iff (isBlank_of_isQuote hi)).mp hq
        obtain ⟨⟨p, _ | ⟨q', tail⟩⟩, hr, ht⟩ := Option.bind_eq_some_iff.mp hm
        all_goals obtain ⟨rest', hs, he⟩ := Option.bind_eq_some_iff.mp ht
        · cases he
        · obtain ⟨r, hp, hes, hstop⟩ := run?_eq_some_iff.mp hr
          obtain ⟨b'', hb''⟩ := (trimStart_eq_cons_iff (by decide)).mp (skip?_eq_some_iff.mp hs)
          have hq' : isQuote q' := by simpa [isPathChar_eq] using hstop
          cases he
          refine ⟨r, q, q', b, b', b'', by rw [hp, Run.text], hi, hq', ?_⟩
          have htail : tail = b''.chars ++ ')' :: rest := hb''
          simp [hb, hb', hes, htail]
  case mpr =>
    rintro ⟨r, q, q', b, b', b'', rfl, hq, hq', rfl⟩
    have hstop (tail : List Char) : Stops isPathChar (q' :: tail) := by
      simp [isPathChar_eq, hq']
    have hb (tail : List Char) : trimStart (b.chars ++ '(' :: tail) = '(' :: tail :=
      (trimStart_eq_cons_iff (by decide)).mpr ⟨b, rfl⟩
    have hb' (tail : List Char) : trimStart (b'.chars ++ q :: tail) = q :: tail :=
      (trimStart_eq_cons_iff (isBlank_of_isQuote hq)).mpr ⟨b', rfl⟩
    have hb'' : trimStart (b''.chars ++ ')' :: rest) = ')' :: rest :=
      (trimStart_eq_cons_iff (by decide)).mpr ⟨b'', rfl⟩
    simp only [argument?, List.append_assoc, List.cons_append, hb, skip?, if_true, Option.bind_some,
      hb', hq, run?_append r (hstop _), List.drop_succ_cons, List.drop_zero, hb'',
      List.isEmpty_cons, Bool.false_eq_true, if_false, Run.text]

theorem looksAhead_loadCall : loadCall.LooksAhead :=
  fun _ _ _ => rfl

theorem looksAhead_bareCall : bareCall.LooksAhead :=
  fun _ _ _ => rfl

theorem exists_append_of_bareCall {before : Option Char} {cs rest : List Char} {path : String}
    (h : bareCall before cs = some (path, rest)) : ∃ taken, taken ≠ [] ∧ cs = taken ++ rest := by
  obtain ⟨ds, hs, ha⟩ := Option.bind_eq_some_iff.mp h
  obtain ⟨r, q, q', b, b', b'', _, _, _, hd⟩ := argument?_eq_some_iff.mp ha
  refine ⟨"load".toList ++ b.chars ++ '(' :: b'.chars ++ q :: r.chars ++ q' :: b''.chars ++ [')'],
    by simp, ?_⟩
  rw [skip?_eq_some_iff.mp hs, hd]
  simp

-- Where a call of `preload` is found, a call of `load` is found a little further on.
theorem loadCall_cases (cs : List Char) :
    loadCall none cs = bareCall none cs ∨
      ∃ ds found, cs = "pre".toList ++ ds ∧ loadCall none cs = some found ∧
        bareCall none ds = some found := by
  cases hs : skip? "preload".toList cs
  case none =>
    left
    rw [loadCall_eq, hs, Option.none_or, bareCall]
  case some r =>
    have hc : cs = "pre".toList ++ ("load".toList ++ r) := (skip?_eq_some_iff.mp hs).trans rfl
    have hb : bareCall none ("load".toList ++ r) = argument? r := by
      rw [bareCall, skip?_append, Option.bind_some]
    cases ha : argument? r
    case none =>
      left
      rw [loadCall_eq, hs, Option.some_or, Option.bind_some, ha, hc]
      rfl
    case some found =>
      right
      refine ⟨_, found, hc, ?_, hb.trans ha⟩
      rw [loadCall_eq, hs, Option.some_or, Option.bind_some, ha]

theorem all_loadCall (cs : List Char) : loadCall.all cs = bareCall.all cs := by
  -- The search goes on behind a find, so the induction is on the length of the text.
  induction hl : cs.length using Nat.strong_induction_on generalizing cs
  case h n hi =>
    subst hl
    have hrest {taken rest : List Char} (hn : taken ≠ []) (hc : cs = taken ++ rest) :
        loadCall.all rest = bareCall.all rest := by
      apply hi rest.length _ rest rfl
      have := List.length_pos_of_ne_nil hn
      rw [hc, List.length_append]
      omega
    cases loadCall_cases cs
    case inl h =>
      cases hb : bareCall none cs
      case some found =>
        obtain ⟨taken, hn, hc⟩ := exists_append_of_bareCall hb
        have hlc := h.trans hb
        rw [hc] at hb hlc
        rw [hc, looksAhead_loadCall.all_of_some hn hlc, looksAhead_bareCall.all_of_some hn hb,
          hrest hn hc]
      case none =>
        cases cs
        case nil => rfl
        case cons c cs =>
          rw [looksAhead_loadCall.all_of_none (h.trans hb), looksAhead_bareCall.all_of_none hb,
            hrest (List.cons_ne_nil c []) rfl]
    case inr h =>
      obtain ⟨ds, found, hc, hlc, hb⟩ := h
      obtain ⟨taken, hn, rfl⟩ := exists_append_of_bareCall hb
      have hp : bareCall.all ("pre".toList ++ (taken ++ found.2)) =
          bareCall.all (taken ++ found.2) :=
        show bareCall.allFrom 0 (some 'e') _ = _ from looksAhead_bareCall.allFrom_eq
      rw [← List.append_assoc] at hc
      rw [hc] at hlc
      rw [hc, looksAhead_loadCall.all_of_some (by simp) hlc, List.append_assoc, hp,
        looksAhead_bareCall.all_of_some hn hb, hrest (by simp) hc]

section

variable {f rest : List Char}

-- A name that starts in a filler would have to end in it, because no `l` stands inside of `load`.
theorem skip?_of_filler {c : Char} (hf : ¬"load".toList <:+: c :: f) (hr : Stops (· != 'l') rest) :
    skip? "load".toList (c :: f ++ rest) = none := by
  cases hs : skip? "load".toList (c :: f ++ rest)
  case none => rfl
  case some r =>
    obtain ⟨ds, hl, _⟩ | ⟨ds, hl, hd⟩ := List.append_eq_append_iff.mp (skip?_eq_some_iff.mp hs)
    case inr => exact absurd ⟨[], ds, hl.symm⟩ hf
    case inl hd =>
      cases ds
      case nil => exact absurd ⟨[], [], by simpa using hl⟩ hf
      case cons d ds =>
        have hm : d ∈ "oad".toList := by
          have ho : "oad".toList = f ++ d :: ds := (List.cons.inj hl).right
          simp [ho]
        have hd : d = 'l' := by simpa [hd] using hr
        simp [hd] at hm

theorem all_bareCall_filler (hf : ¬"load".toList <:+: f) (hr : Stops (· != 'l') rest) :
    bareCall.all (f ++ rest) = bareCall.all rest := by
  induction f
  case nil => rfl
  case cons c f hi =>
    have hn : bareCall none (c :: f ++ rest) = none := by
      rw [bareCall, skip?_of_filler hf hr, Option.bind_none]
    exact (looksAhead_bareCall.all_of_none hn).trans (hi fun h => hf (List.infix_cons h))

-- The letters in front of `load` have no `d`, so they do not make up the name with a filler.
theorem no_load_append_front (hf : ¬"load".toList <:+: f) (c : LoadCall) :
    ¬"load".toList <:+: f ++ c.front := by
  rintro ⟨front, back, he⟩
  obtain ⟨ds, hf', _⟩ | ⟨ds, hd, hc⟩ := List.append_eq_append_iff.mp he
  case inl => exact hf ⟨front, ds, hf'.symm⟩
  case inr =>
    obtain rfl | ⟨ds, d, rfl⟩ := List.eq_nil_or_concat' ds
    case inl => exact hf ⟨front, [], by simpa using hd⟩
    case inr =>
      have hl : d = 'd' := by simpa using (congrArg List.getLast? hd).symm
      have hm : 'd' ∈ c.front := by simp [hc, hl]
      cases hp : c.preloads <;> simp [LoadCall.front, hp] at hm

end

theorem bareCall_bare {c : LoadCall} (h : ∀ x ∈ c.path.chars, isQuote x = false)
    (rest : List Char) : bareCall none (c.bare ++ rest) = some (c.path.text, rest) := by
  have hp : ∀ x ∈ c.path.chars, isPathChar x := by
    intro x hx
    simp [isPathChar_eq, h x hx]
  have ha : argument? (c.argument ++ rest) = some (c.path.text, rest) :=
    argument?_eq_some_iff.mpr ⟨⟨c.path.chars, c.path.ne_nil, hp⟩, c.quote, c.quote, c.behindName,
      c.beforePath, c.behindPath, rfl, c.quotes, c.quotes, by simp [LoadCall.argument]⟩
  rw [bareCall, LoadCall.bare, List.append_assoc, skip?_append]
  exact ha

theorem all_bareCall_sourceText {calls : List (LoadCall × Filler)}
    (h : ∀ c ∈ calls, ∀ x ∈ c.1.path.chars, isQuote x = false) (start : Filler) :
    bareCall.all (sourceText start calls) = calls.map (·.1.path.text) := by
  induction calls generalizing start
  case nil =>
    rw [sourceText, List.flatMap_nil, all_bareCall_filler start.no_load stops_nil]
    rfl
  case cons c calls hi =>
    have ⟨hc, hcs⟩ := List.forall_mem_cons.mp h
    have he : sourceText start (c :: calls) =
        (start.chars ++ c.1.front) ++ (c.1.bare ++ sourceText c.2 calls) := by
      simp [sourceText, LoadCall.text]
    have hs : Stops (· != 'l') (c.1.bare ++ sourceText c.2 calls) := by simp [LoadCall.bare]
    rw [he, all_bareCall_filler (no_load_append_front start.no_load c.1) hs,
      looksAhead_bareCall.all_of_some (by simp [LoadCall.bare]) (bareCall_bare hc _), hi hcs,
      List.map_cons]

theorem isQuote_of_mem_loadReferences {source path : String} (h : path ∈ loadReferences source) :
    ∀ x ∈ path.toList, isQuote x = false := by
  rw [loadReferences, all_loadCall] at h
  obtain ⟨_, _, _, hb⟩ := Matcher.exists_of_mem_allFrom h
  obtain ⟨_, _, ha⟩ := Option.bind_eq_some_iff.mp hb
  obtain ⟨r, _, _, _, _, _, rfl, _⟩ := argument?_eq_some_iff.mp ha
  intro x hx
  have hp : isPathChar x := r.all x (by simpa [Run.text] using hx)
  simpa [isPathChar_eq] using hp

-- The paths of all calls are found, in their order and nothing else, exactly if none of them has a
-- quote in it. A quote of the sort that does not stand around the path is enough to lose it.
theorem loadReferences_sourceText_iff (start : Filler) (calls : List (LoadCall × Filler)) :
    loadReferences (String.ofList (sourceText start calls)) = calls.map (·.1.path.text) ↔
      ∀ c ∈ calls, ∀ x ∈ c.1.path.chars, isQuote x = false := by
  constructor
  case mp =>
    intro h c hc x hx
    have hm : c.1.path.text ∈ loadReferences (String.ofList (sourceText start calls)) :=
      h ▸ List.mem_map_of_mem hc
    exact isQuote_of_mem_loadReferences hm x (by simpa [Run.text] using hx)
  case mpr =>
    intro h
    rw [loadReferences, String.toList_ofList, all_loadCall, all_bareCall_sourceText h]

-- A path with an apostrophe between double quotes.
def apostropheCall : LoadCall where
  preloads := true
  quote := '"'
  quotes := rfl
  path := .ofAll "res://it's.tscn".toList (by decide) (by decide)
  behindName := ⟨[], by simp⟩
  beforePath := ⟨[], by simp⟩
  behindPath := ⟨[], by simp⟩

-- Between single quotes there is the path of a call inside of the path.
def nestedCall : LoadCall where
  preloads := false
  quote := '"'
  quotes := rfl
  path := .ofAll "load('inner.gd')".toList (by decide) (by decide)
  behindName := ⟨[' '], List.forall_mem_singleton.mpr rfl⟩
  beforePath := ⟨[], by simp⟩
  behindPath := ⟨[], by simp⟩

def lineEnd : Filler where
  chars := ['\n']
  no_load := by decide

theorem loadReferences_loses_path :
    loadReferences (String.ofList (sourceText lineEnd [(apostropheCall, lineEnd)])) = [] ∧
      loadReferences (String.ofList (sourceText lineEnd [(nestedCall, lineEnd)])) = ["inner.gd"] ∧
      ¬∀ start calls, loadReferences (String.ofList (sourceText start calls)) =
        calls.map (·.1.path.text) := by
  have hl : loadReferences (String.ofList (sourceText lineEnd [(apostropheCall, lineEnd)])) = [] :=
    by decide +kernel
  refine ⟨hl, by decide +kernel, fun h => ?_⟩
  have hf := h lineEnd [(apostropheCall, lineEnd)]
  rw [hl] at hf
  cases hf

end GodotAtlas.Symbols
