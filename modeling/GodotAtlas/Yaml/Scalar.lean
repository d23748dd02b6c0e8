import GodotAtlas.Yaml.Cursor

namespace GodotAtlas.Yaml

inductive Style where
  | plain | singleQuoted | doubleQuoted | literal | folded
deriving DecidableEq, Repr

structure Gap where
  spaces : List Char := []
  broken : Bool := false
  first : Option Char := none
  more : List Char := []

namespace Gap

def addSpace (g : Gap) (c : Char) : Gap :=
  if g.broken then g else { g with spaces := g.spaces ++ [c] }

def addBreak (g : Gap) (c : Char) : Gap :=
  if g.broken then { g with more := g.more ++ [breakText c] }
  else { broken := true, first := some (breakText c) }

def text (g : Gap) : List Char :=
  if g.broken then
    if g.first = some '\n' then if g.more.isEmpty then [' '] else g.more
    else g.first.toList ++ g.more
  else g.spaces

-- Read white space. On a new line no tab may stand in front of a column. The number bounds the
-- steps.
def read (tabsFrom : Nat) : Nat → Gap → Cursor → Option (Gap × Cursor)
  | 0, g, c => some (g, c)
  | n + 1, g, c =>
    match c.rest with
    | [] => some (g, c)
    | x :: _ =>
      if isSpace x then
        if g.broken && c.column < tabsFrom && x == '\t' then none
        else read tabsFrom n (g.addSpace x) (c.advance 1)
      else if isBreak x then read tabsFrom n (g.addBreak x) c.skipBreak
      else some (g, c)

end Gap

def isFlowMark (c : Char) : Bool :=
  c == ',' || c == '[' || c == ']' || c == '\x7b' || c == '\x7d'

-- How many characters the next word of a plain scalar has; none if a colon stands where it may not.
def plainWord (inFlow : Bool) : List Char → Option Nat
  | [] => some 0
  | c :: cs =>
    if isSpace c || isBreak c then some 0
    else if inFlow && c == ':' && cs.head?.any (fun d => isFlowMark d || d == '?') then none
    else if (c == ':' && endsWord cs.head?) || (inFlow && isFlowMark c) then some 0
    else (plainWord inFlow cs).map (· + 1)

-- Read a plain scalar from behind `text` and a gap. Outside brackets its lines start at a column or
-- behind it. The result says whether a line end follows it. The number bounds the steps.
def readPlain (inFlow : Bool) (column : Nat) : Nat → (text : List Char) → Gap → Cursor →
    Option (List Char × Bool × Cursor)
  | 0, text, gap, c => some (text, gap.broken, c)
  | n + 1, text, gap, c =>
    if c.atDocumentMark || c.sees '#' then some (text, gap.broken, c)
    else match plainWord inFlow c.rest with
      | none => none
      | some 0 => some (text, gap.broken, c)
      | some length =>
        let text := text ++ gap.text ++ c.rest.take length
        match Gap.read column (c.rest.length + 1) {} (c.advance length) with
        | none => none
        | some (gap, c) =>
          if !inFlow && c.column < column then some (text, gap.broken, c)
          else readPlain inFlow column n text gap c

def escaped? (c : Char) : Option Char :=
  [('0', '\x00'), ('a', '\x07'), ('b', '\x08'), ('t', '\t'), ('\t', '\t'), ('n', '\n'),
   ('v', '\x0b'), ('f', '\x0c'), ('r', '\r'), ('e', '\x1b'), (' ', ' '), ('"', '"'), ('/', '/'),
   ('\\', '\\'), ('N', '\u0085'), ('_', '\u00a0'), ('L', '\u2028'), ('P', '\u2029')].lookup c

def codeLength? (c : Char) : Option Nat :=
  [('x', 2), ('u', 4), ('U', 8)].lookup c

def hexValue? (c : Char) : Option Nat :=
  if '0' ≤ c && c ≤ '9' then some (c.toNat - '0'.toNat)
  else if 'a' ≤ c && c ≤ 'f' then some (c.toNat - 'a'.toNat + 10)
  else if 'A' ≤ c && c ≤ 'F' then some (c.toNat - 'A'.toNat + 10)
  else none

def hexNumber? (digits : List Char) : Option Nat :=
  (digits.mapM hexValue?).map (·.foldl (fun n d => 16 * n + d) 0)

def character? (n : Nat) : Option Char :=
  if n < 0xd800 || (0xdfff < n && n ≤ 0x10ffff) then some (Char.ofNat n) else none

def readEscape? : List Char → Option (Char × Nat)
  | '\\' :: c :: cs =>
    match codeLength? c with
    | some n =>
      if cs.length < n then none
      else ((hexNumber? (cs.take n)).bind character?).map (·, n + 2)
    | none => (escaped? c).map (·, 2)
  | _ => none

inductive WordEnd where
  | plain
  | escapedBreak

def readQuotedWord (double : Bool) : Nat → (text : List Char) → Cursor →
    Option (List Char × WordEnd × Cursor)
  | 0, text, c => some (text, .plain, c)
  | n + 1, text, c =>
    match c.rest with
    | [] => some (text, .plain, c)
    | x :: xs =>
      if isSpace x || isBreak x then some (text, .plain, c)
      else if !double && x == '\'' && xs.head? == some '\'' then
        readQuotedWord double n (text ++ ['\'']) (c.advance 2)
      else if x == (if double then '"' else '\'') then some (text, .plain, c)
      else if double && x == '\\' then
        if xs.head?.any isBreak then some (text, .escapedBreak, (c.advance 1).skipBreak)
        else match readEscape? c.rest with
          | some (e, length) => readQuotedWord double n (text ++ [e]) (c.advance length)
          | none => none
      else readQuotedWord double n (text ++ [x]) (c.advance 1)

-- Read a quoted scalar from behind its first quote and `text`. The number bounds the steps.
def readQuoted (double : Bool) : Nat → (text : List Char) → Cursor → Option (List Char × Cursor)
  | 0, _, _ => none
  | n + 1, text, c =>
    if c.atDocumentMark || c.rest.isEmpty then none
    else match readQuotedWord double (c.rest.length + 1) text c with
      | none => none
      | some (text, wordEnd, c) =>
        let closes := c.sees (if double then '"' else '\'')
        match wordEnd, closes with
        | .plain, true => some (text, c.advance 1)
        | .plain, false =>
          (Gap.read 0 (c.rest.length + 1) {} c).bind fun (g, c) =>
            readQuoted double n (text ++ g.text) c
        | .escapedBreak, true => some (text, c.advance 1)
        | .escapedBreak, false =>
          (Gap.read 0 (c.rest.length + 1) { broken := true } c).bind fun (g, c) =>
            readQuoted double n (text ++ g.text) c

inductive Chomping where
  | strip | clip | keep
deriving DecidableEq, Repr

def chomping? : Option Char → Option Chomping
  | some '-' => some .strip
  | some '+' => some .keep
  | _ => none

def indentDigit? (c : Option Char) : Option Nat :=
  c.bind fun c => if '1' ≤ c && c ≤ '9' then some (c.toNat - '0'.toNat) else none

-- Read the marks behind the one that opens a block, up to the end of the line: what happens to the
-- last line ends, and how far the block is indented if that is said.
def readBlockMarks (c : Cursor) : Option (Chomping × Nat × Cursor) :=
  let (chomping, indent, length) :=
    match chomping? (c.ahead 0), indentDigit? (c.ahead 0) with
    | some k, _ =>
      match indentDigit? (c.ahead 1) with
      | some i => (k, i, 2)
      | none => (k, 0, 1)
    | none, some i =>
      match chomping? (c.ahead 1) with
      | some k => (k, i, 2)
      | none => (.clip, i, 1)
    | none, none => (Chomping.clip, 0, 0)
  let c := ((c.advance length).skipWhile isSpace).skipComment
  if c.atLineEnd then some (chomping, indent, if c.rest.isEmpty then c else c.skipBreak)
  else none

-- Read the empty lines in front of a line of a block, and the spaces that indent it: at most as
-- many as are given, or all of them if none are. The result starts with the deepest indentation
-- met. The number bounds the steps.
def readEmptyLines (indent : Nat) : Nat → (deepest : Nat) → (breaks : List Char) → Cursor →
    Option (Nat × List Char × Cursor)
  | 0, deepest, breaks, c => some (deepest, breaks, c)
  | n + 1, deepest, breaks, c =>
    let room := if indent = 0 then c.rest.length else indent - c.column
    let c := c.advance ((c.rest.take room).takeWhile (· == ' ')).length
    let deepest := max deepest c.column
    if (indent = 0 || c.column < indent) && c.sees '\t' then none
    else match c.rest with
      | x :: _ =>
        if isBreak x then readEmptyLines indent n deepest (breaks ++ [breakText x]) c.skipBreak
        else some (deepest, breaks, c)
      | [] => some (deepest, breaks, c)

structure Block where
  text : List Char := []
  lineEnd : List Char := []
  breaks : List Char := []
  spaced : Bool := false

namespace Block

-- What stands between the last line and a next one: in a folded block the end of a line becomes a
-- space, or nothing in front of empty lines, unless one of the lines starts with white space.
def joint (b : Block) (folded spaced : Bool) : List Char :=
  if folded && b.lineEnd == ['\n'] && !b.spaced && !spaced then
    if b.breaks.isEmpty then [' '] else b.breaks
  else b.lineEnd ++ b.breaks

def read (folded : Bool) (indent : Nat) : Nat → Block → Cursor → Option (Block × Cursor)
  | 0, b, c => some (b, c)
  | n + 1, b, c =>
    if c.column == indent && !c.rest.isEmpty then
      let spaced := c.rest.head?.any isSpace
      let line := c.rest.takeWhile (!isBreak ·)
      let c := c.advance line.length
      let lineEnd := (c.rest.head?.map breakText).toList
      let c := if c.rest.isEmpty then c else c.skipBreak
      match readEmptyLines indent (c.rest.length + 1) 0 [] c with
      | none => none
      | some (_, breaks, c) =>
        read folded indent n
          { text := b.text ++ b.joint folded spaced ++ line, lineEnd, breaks, spaced } c
    else some (b, c)

def chomped (b : Block) : Chomping → List Char
  | .strip => b.text
  | .clip => b.text ++ b.lineEnd
  | .keep => b.text ++ b.lineEnd ++ b.breaks

end Block

-- Read a block from behind the mark that opens it. The lines of what it is part of start at
-- `column`, counted from one.
def readBlock (folded : Bool) (column : Nat) (c : Cursor) : Option (List Char × Cursor) :=
  (readBlockMarks c).bind fun (chomping, step, c) =>
    let given := if step = 0 then 0 else column - 1 + step
    (readEmptyLines given (c.rest.length + 1) 0 [] c).bind fun (deepest, breaks, c) =>
      let indent := if given = 0 then max (max deepest column) 1 else given
      (Block.read folded indent (c.rest.length + 1) { breaks } c).map fun (b, c) =>
        (b.chomped chomping, c)

end GodotAtlas.Yaml
