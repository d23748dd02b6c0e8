import GodotAtlas.Proofs.Format.HeaderText

namespace GodotAtlas.Format

open Text

-- A piece of the text between two quotes: a character that stands for itself, or any one behind a
-- backslash.
inductive QuotedPiece where
  | plain (c : Char) (h : c ≠ '"' ∧ c ≠ '\\' ∧ c ≠ '\n')
  | pair (c : Char) (h : c ≠ '\n')

namespace QuotedPiece

def written : QuotedPiece → List Char
  | plain c _ => [c]
  | pair c _ => ['\\', c]

-- Behind a backslash a quote stands for itself; all else is kept with its backslash.
def meaning : QuotedPiece → List Char
  | plain c _ => [c]
  | pair c _ => if c = '"' then ['"'] else ['\\', c]

variable {ps : List QuotedPiece}

theorem stops_written : Stops (· == '"') (ps.flatMap written) := by
  cases ps
  case nil => exact stops_nil
  case cons p ps =>
    cases p
    case plain c h => simp [written, h.left]
    case pair => simp [written]

theorem quotedBody?_written {rest : List Char} :
    quotedBody? (ps.flatMap written ++ '"' :: rest) = some (ps.flatMap written, rest) := by
  induction ps
  case nil => simp [quotedBody?]
  case cons p ps hi =>
    cases p
    case plain c h =>
      simp [written, quotedBody?, hi, h.left, h.right.left]
    case pair c h => simp [written, quotedBody?, hi, h]

theorem unescapeQuotes_cons {c : Char} {cs : List Char} (h : c ≠ '\\' ∨ Stops (· == '"') cs) :
    unescapeQuotes (c :: cs) = c :: unescapeQuotes cs := by
  rw [unescapeQuotes]
  rintro ds rfl rfl
  simp at h

-- No piece starts with a quote, so a backslash in front of one is never the second of a pair.
theorem unescapeQuotes_written : unescapeQuotes (ps.flatMap written) = ps.flatMap meaning := by
  induction ps
  case nil => rfl
  case cons p ps hi =>
    cases p
    case plain c h => simp [written, meaning, unescapeQuotes_cons (.inl h.right.left), hi]
    case pair c h =>
      by_cases hc : c = '"'
      case pos => simp [written, meaning, hc, unescapeQuotes, hi]
      case neg =>
        have hs : Stops (· == '"') (c :: ps.flatMap written) := by simp [hc]
        simp [written, meaning, hc, unescapeQuotes_cons (.inr hs),
          unescapeQuotes_cons (.inr stops_written), hi]

theorem newline_not_mem (p : QuotedPiece) : '\n' ∉ p.written := by
  cases p
  case plain c h => simp [written, Ne.symm h.right.right]
  case pair c h => simp [written, Ne.symm h]

end QuotedPiece

def isBare (c : Char) : Bool :=
  !isBlank c && c != ']' && c != '('

inductive Value where
  | quoted (body : List QuotedPiece)
  | call (name : Run isWord) (argument : Chars fun c => c != ')' && c != '\n')
  | array (items : Chars fun c => c != ']' && c != '\n')
  | bare (token : Run isBare) (start : Stops (fun c => c == '"' || c == '[') token.chars)

namespace Value

def written : Value → List Char
  | quoted body => '"' :: (body.flatMap QuotedPiece.written ++ ['"'])
  | call name argument => callText name.chars argument.chars
  | array items => '[' :: (items.chars ++ [']'])
  | bare token _ => token.chars

def meaning : Value → List Char
  | quoted body => body.flatMap QuotedPiece.meaning
  | v => v.written

theorem value?_array {items rest : List Char} (h : ']' ∉ items) :
    value? ('[' :: (items ++ ']' :: rest)) = some ('[' :: (items ++ [']']), rest) := by
  have hw : Stops isWord ('[' :: (items ++ ']' :: rest)) := stops_cons.mpr (by decide)
  simp [value?, quotedValue?, callValue?, arrayValue?, skip?, word?, run?_of_stops hw,
    until?_append h]

-- A bare token is no call: the parenthesis would have to stand in the token or right behind it.
theorem callValue?_bare (token : Run isBare) {rest : List Char} (h : Stops (· != ' ') rest) :
    callValue? (token.chars ++ rest) = none := by
  rw [callValue?, Option.bind_eq_none_iff]
  rintro ⟨w, cs⟩ hw
  obtain ⟨r, rfl, he, _⟩ := run?_eq_some_iff.mp hw
  have hp : skip? ['('] cs = none := by
    apply Option.eq_none_iff_forall_ne_some.mpr
    intro ds hd
    rw [skip?_singleton_iff.mp hd] at he
    obtain ⟨more, ht⟩ | ⟨more, hr, hrest⟩ := eq_append_cons_of_append he
    case inl => exact token.not_mem (c := '(') (by decide) (by simp [ht])
    case inr =>
      cases more
      case nil => simp [hrest] at h
      case cons c more =>
        have hc : isWord c := r.all c (by simp [hr])
        have hs : c = ' ' := by simpa [hrest] using h
        rw [hs] at hc
        cases hc
  simp [hp]

theorem value?_bare (token : Run isBare) (hs : Stops (fun c => c == '"' || c == '[') token.chars)
    {rest : List Char} (h : Stops (· != ' ') rest) :
    value? (token.chars ++ rest) = some (token.chars, rest) := by
  obtain ⟨c, cs, he, _⟩ := token.exists_cons
  have hc : c ≠ '"' ∧ c ≠ '[' := by simpa [he] using hs
  have hq : quotedValue? (token.chars ++ rest) = none := by
    simp [quotedValue?, he, skip?, Ne.symm hc.left]
  have ha : arrayValue? (token.chars ++ rest) = none := by
    simp [arrayValue?, he, skip?, Ne.symm hc.right]
  have hb : bareValue? (token.chars ++ rest) = some (token.chars, rest) := by
    have hm : ∀ c, isBare c → (!isBlank c && c != ']') := by simp +contextual [isBare]
    have hr : Stops (fun c => !isBlank c && c != ']') rest := by
      cases rest
      case nil => exact stops_nil
      case cons d ds =>
        have hd : d = ' ' := by simpa using h
        exact stops_cons.mpr (by subst hd; decide)
    exact run?_append (token.mono hm) hr
  rw [value?, hq, callValue?_bare token h, ha, hb]
  rfl

def under (key : Run isWord) : Value → Attribute
  | quoted body =>
    { key
      value := '"' :: (body.flatMap QuotedPiece.written ++ ['"'])
      starts := ⟨_, _, rfl, by decide⟩
      no_newline := by simp [QuotedPiece.newline_not_mem]
      reads := by
        intro rest _
        simp [value?, quotedValue?, skip?, QuotedPiece.quotedBody?_written] }
  | call name argument =>
    .call key name argument.chars (argument.not_mem (by decide)) (argument.not_mem (by decide))
  | array items =>
    { key
      value := '[' :: (items.chars ++ [']'])
      starts := ⟨_, _, rfl, by decide⟩
      no_newline := by simp [items.not_mem (c := '\n') (by decide)]
      reads := by
        intro rest _
        simpa using value?_array (items.not_mem (c := ']') (by decide)) }
  | bare token start =>
    { key
      value := token.chars
      starts := by
        obtain ⟨c, cs, he, hc⟩ := token.exists_cons
        have hc : isBlank c = false := by simp_all [isBare]
        exact ⟨c, cs, he, hc⟩
      no_newline := token.not_mem (by decide)
      reads := fun _ => value?_bare token start }

variable {key : Run isWord} {v : Value}

theorem written_under : (v.under key).written = key.chars ++ '=' :: v.written := by
  cases v <;> rfl

theorem entry_under :
    (v.under key).entry = (key.text, String.ofList v.meaning) := by
  cases v
  case quoted body =>
    simp [Attribute.entry, under, unquote_quotes, QuotedPiece.unescapeQuotes_written, meaning]
  case call name argument => simp [under, meaning, written]
  case array items => rfl
  case bare token start =>
    obtain ⟨c, cs, he, _⟩ := token.exists_cons
    have hc : c ≠ '"' := by simp_all
    simp [Attribute.entry, under, meaning, written, he, unquote, hc]

end Value

def writtenHeader (kind : Run isWord) (as : List (Run isWord × Value)) : List Char :=
  '[' :: (kind.chars ++ (as.flatMap fun a => ' ' :: (a.1.chars ++ '=' :: a.2.written)) ++ [']'])

section

variable {kind : Run isWord} {as bs : List (Run isWord × Value)}

theorem ofLine?_writtenHeader : Header.ofLine? (writtenHeader kind as) = some
    { kind := kind.text
      attrs := .ofList (as.map fun a => (a.1.text, String.ofList a.2.meaning)) } := by
  have hw : writtenHeader kind as = headerText kind (as.map fun a => a.2.under a.1) := by
    simp [writtenHeader, headerText, spaced, List.flatMap_map, Value.written_under]
  rw [hw, ofLine?_headerText, List.map_map]
  simp [Function.comp_def, Value.entry_under]

end

-- A header is read back as its kind and as the map from each key to what the last value under it
-- says. If no key comes twice, the order of the attributes does not matter.
theorem ofLine?_valued (kind : Run isWord) (as : List (Run isWord × Value)) :
    (∃ h, Header.ofLine? (writtenHeader kind as) = some h ∧ h.kind = kind.text ∧
      ∀ key, h.get? key =
        ((as.filter fun a => a.1.text = key).getLast?).map fun a => String.ofList a.2.meaning) ∧
    ∀ bs, as.Perm bs → (as.map fun a => a.1.text).Nodup →
      Header.ofLine? (writtenHeader kind bs) = Header.ofLine? (writtenHeader kind as) := by
  refine ⟨⟨_, ofLine?_writtenHeader, rfl, ?last⟩, ?order⟩
  case last =>
    intro key
    rw [Header.get?, SortedMap.get?_ofList, SortedMap.valuesOf_map, List.getLast?_map]
  case order =>
    intro bs hp hn
    have hn : ((as.map fun a => (a.1.text, String.ofList a.2.meaning)).map (·.1)).Nodup := by
      rwa [List.map_map]
    rw [ofLine?_writtenHeader, ofLine?_writtenHeader, SortedMap.ofList_eq_of_perm (hp.map _) hn]

-- Values that hold what looks like an attribute or like the end of the header, and a key twice.
def doorAttributes : List (Run isWord × Value) :=
  [(.ofAll "title".toList (by decide) (by decide),
      .quoted [.pair '"' (by decide), .plain ' ' (by decide), .plain 'k' (by decide),
        .plain '=' (by decide), .plain ']' (by decide)]),
    (.ofAll "tint".toList (by decide) (by decide),
      .call (.ofAll "Color".toList (by decide) (by decide)) ⟨"2] k=2".toList, by simp⟩),
    (.ofAll "groups".toList (by decide) (by decide), .array ⟨"(a, k=3".toList, by simp⟩),
    (.ofAll "layer".toList (by decide) (by decide),
      .bare (.ofAll "k=4".toList (by decide) (by decide)) rfl),
    (.ofAll "layer".toList (by decide) (by decide),
      .bare (.ofAll "\\".toList (by decide) (by decide)) rfl)]

def doorHeader : String :=
  "[node title=\"\\\" k=]\" tint=Color(2] k=2) groups=[(a, k=3] layer=k=4 layer=\\]"

theorem ofLine?_doorHeader :
    let kind : Run isWord := .ofAll "node".toList (by decide) (by decide)
    let distinct := doorAttributes.dropLast
    (∃ h, Header.ofLine? doorHeader.toList = some h ∧ h.kind = "node" ∧
      h.get? "title" = some "\" k=]" ∧ h.get? "tint" = some "Color(2] k=2)" ∧
      h.get? "groups" = some "[(a, k=3]" ∧ h.get? "layer" = some "\\" ∧ h.get? "k" = none) ∧
    (distinct.map fun a => a.1.text).Nodup ∧
      Header.ofLine? (writtenHeader kind distinct.reverse) =
        Header.ofLine? (writtenHeader kind distinct) := by
  intro kind distinct
  obtain ⟨⟨h, hh, hk, hl⟩, _⟩ := ofLine?_valued kind doorAttributes
  have hn : (distinct.map fun a => a.1.text).Nodup := by decide
  refine ⟨⟨h, hh, hk, ?_⟩, hn, (ofLine?_valued kind distinct).right _ ?_ hn⟩
  · exact ⟨(hl _).trans (by decide), (hl _).trans (by decide), (hl _).trans (by decide),
      (hl _).trans (by decide), (hl _).trans (by decide)⟩
  · exact (List.reverse_perm distinct).symm

end GodotAtlas.Format
