import GodotAtlas.Script.Recovery.Fragment

namespace GodotAtlas.Script.Recovery

inductive Stretch where
  | text (length : Nat)
  | closing
  | unended
  | other

def stretch (q : Quotation) : (passed : Nat) → List Char → Stretch
  | _, [] => .unended
  | n, c :: cs =>
    let upToHere : Stretch := if n = 0 then .other else .text n
    if q.format && (c = '\x7b' || c = '\x7d') then upToHere
    else if c = '\\' then
      match cs with
      | [] => if q.raw then .unended else upToHere
      | d :: ds =>
        if q.raw then
          if d = q.mark || d = '\\' then stretch q (n + 2) ds else stretch q (n + 1) (d :: ds)
        else if q.bytes && (d = 'N' || d = 'u' || d = 'U') then
          match ds with
          | [] => .unended
          | _ :: es => stretch q (n + 3) es
        else upToHere
    else if c = q.mark then
      if q.closing.isPrefixOf (c :: cs) then if n = 0 then .closing else .text n
      else .text (n + if cs.head? = some q.mark then 2 else 1)
    else if c = '\n' && n ≠ 0 && !q.triple then .other
    else stretch q (n + 1) cs

structure Found where
  terminal : Terminal
  start : Cursor
  stop : Cursor
  surroundings : Surroundings

def isLost (fits : Terminal → Bool) : Bool :=
  fits .stringText && fits .indent

def layoutToken? (fits : Terminal → Bool) (s : Surroundings) (gap : Gap) (start stop : Cursor) :
    Option Found :=
  let current := s.blocks.current
  let closesBracket :=
    fits (.mark .parenClose) || fits (.mark .bracketClose) || fits (.mark .braceClose)
  let closesBlock :=
    fits .dedent || (!fits .newline && !fits .stringStart && !closesBracket)
  let closed : Surroundings := { s with blocks := s.blocks.tail }
  let found (terminal : Terminal) (surroundings : Surroundings) : Option Found :=
    some { terminal, start, stop, surroundings }
  if gap.endsLine && fits .indent && current < gap.indent then
    found .indent (s.deepen gap.indent)
  else if gap.endsLine && closesBlock && gap.indent < current && gap.comment.all (· < current) then
    found .dedent closed
  else if gap.endsLine && fits .newline && !isLost fits then
    found .newline s
  else if fits .lineClosed && !closesBracket && !fits (.mark .comma) && gap.meetsCloser then
    found .lineClosed (if fits .dedent then closed else s)
  else none

def stringToken? (fits : Terminal → Bool) (s : Surroundings) (gap : Gap) (c : Cursor) :
    Option Found :=
  if fits .stringStart && gap.comment.isNone then
    (Quotation.opening? gap.rest).map fun (q, n) =>
      let start := c.skip gap.length
      { terminal := .stringStart, start, stop := start.skip n, surroundings := s.quote q }
  else none

def found? (fits : Terminal → Bool) (s : Surroundings) (c : Cursor) : Option Found :=
  let outside : Option Found :=
    (Gap.survey {} false c.rest).bind fun gap =>
      (layoutToken? fits s gap c c).or (stringToken? fits s gap c)
  match s.quotes with
  | [] => outside
  | q :: quotes =>
    if fits .stringText && !isLost fits then
      match stretch q 0 c.rest with
      | .text n => some { terminal := .stringText, start := c, stop := c.skip n, surroundings := s }
      | .closing =>
        some { terminal := .stringEnd, start := c, stop := c.skip q.closing.length
               surroundings := { s with quotes } }
      | .unended => layoutToken? fits s (Gap.atEnd {}) c (c.skip c.rest.length)
      | .other => none
    else outside

def tokenStart (fits : Terminal → Bool) (c : Cursor) : Cursor :=
  c.skip (if fits .stringEscape then (c.rest.takeWhile isSpace).length else spaceLength c.rest)

def wordFits (fits : Terminal → Bool) : Bool :=
  fits .name || Keyword.all.any fun k => fits (.keyword k)

-- The token that starts at a place, and how long it is. Where words may come next, `known` tells
-- which of them are keywords.
def plainToken? (known fits : Terminal → Bool) (cs : List Char) : Option (Terminal × Nat) :=
  match cs with
  | [] => if fits .endOfText then some (.endOfText, 0) else none
  | '#' :: _ => some (.comment, commentLength cs)
  | '\\' :: _ =>
    match escapeLength cs with
    | 0 => none
    | n => if fits .stringEscape then some (.stringEscape, n) else none
  | _ => (if wordFits fits then wordToken? known cs else none).or (symbolToken? fits cs)

structure Outlook where
  fits : Terminal → Bool
  lost : Bool
  advanced : Bool
  surroundings : Option Surroundings

namespace Outlook

-- The token that depends on lines or on strings. One that takes up no text and changes nothing is
-- passed over if any token will do or nothing was read since the last fault.
def layoutLeaf? (o : Outlook) (lost : Bool) (c : Cursor) : Option Fragment :=
  let fits := if lost then fun _ => true else o.fits
  (found? fits (o.surroundings.getD {}) c).bind fun f =>
    let changes := o.surroundings != some f.surroundings
    if f.stop.bytes ≤ c.bytes && !changes && (lost || !o.advanced) then none
    else
      some (.leaf { role := .token f.terminal, start := f.start, stop := f.stop
                    surroundings := some f.surroundings, opensOrCloses := changes })

def plainLeaf? (o : Outlook) (lost : Bool) (c : Cursor) : Option Fragment :=
  let fits := if lost then fun _ => true else o.fits
  let start := tokenStart fits c
  (plainToken? o.fits fits start.rest).map fun (t, n) =>
    .leaf { role := .token t, start, stop := start.skip n, isExtra := t = .endOfText }

def token? (o : Outlook) (lost : Bool) (c : Cursor) : Option Fragment :=
  (o.layoutLeaf? lost c).or (o.plainLeaf? lost c)

def unknownStop (o : Outlook) : Nat → Cursor → Cursor
  | 0, c => c
  | n + 1, c =>
    if (o.token? true c).isSome then c
    else
      let start := tokenStart (fun _ => true) c
      o.unknownStop n (if start.offset = c.offset then c.next else start)

def next (o : Outlook) (c : Cursor) : Fragment :=
  let expected := if o.lost then none else o.token? false c
  match expected.or (o.token? true c) with
  | some f => f
  | none =>
    let start := tokenStart (fun _ => true) c
    .leaf { role := .fault, start, stop := o.unknownStop (2 * start.rest.length) start.next }

end Outlook

end GodotAtlas.Script.Recovery
