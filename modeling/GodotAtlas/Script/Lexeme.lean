import GodotAtlas.Script.Layout
import GodotAtlas.Script.StringLiteral

namespace GodotAtlas.Script

structure Cursor where
  rest : List Char
  offset : Nat := 0
  bytes : Nat := 0
  line : Nat := 0
  column : Nat := 0
deriving DecidableEq, Repr

namespace Cursor

def next (c : Cursor) : Cursor :=
  match c.rest with
  | [] => c
  | '\n' :: cs => { rest := cs, offset := c.offset + 1, bytes := c.bytes + 1, line := c.line + 1 }
  | ch :: cs =>
    { rest := cs, offset := c.offset + 1, bytes := c.bytes + ch.utf8Size, line := c.line
      column := c.column + ch.utf8Size }

def skip (c : Cursor) : Nat → Cursor
  | 0 => c
  | n + 1 => c.next.skip n

def textTo (c d : Cursor) : String :=
  String.ofList (c.rest.take (d.offset - c.offset))

end Cursor

-- How many characters in front of the next token are white space. A backslash takes the line end
-- behind it along, or the end of the text.
def spaceLength : List Char → Nat
  | ['\\'] => 1
  | ['\\', '\r'] => 2
  | '\\' :: '\n' :: cs => spaceLength cs + 2
  | '\\' :: '\r' :: '\n' :: cs => spaceLength cs + 3
  | c :: cs => if isSpace c then spaceLength cs + 1 else 0
  | [] => 0

def isNameStart (c : Char) : Bool :=
  c.isAlpha || c == '_'

def isNameRest (c : Char) : Bool :=
  c.isAlphanum || c == '_'

def nameLength (cs : List Char) : Nat :=
  match cs with
  | c :: _ => if isNameStart c then (cs.takeWhile isNameRest).length else 0
  | [] => 0

def digitsLength (digit : Char → Bool) : (behindDigit : Bool) → List Char → Nat
  | _, [] => 0
  | b, c :: cs =>
    if digit c then digitsLength digit true cs + 1
    else if c == '_' && b then digitsLength digit false cs + 1
    else 0

def decimalLength (cs : List Char) : Nat :=
  digitsLength Char.isDigit false cs

def basedLength (digit : Char → Bool) : List Char → Nat
  | [] => 0
  | [c] => if digit c then 1 else 0
  | c :: d :: cs =>
    if digit c then basedLength digit (d :: cs) + 1
    else if c == '_' && digit d then basedLength digit (d :: cs) + 1
    else 0

def isOctalDigit (c : Char) : Bool :=
  '0' ≤ c && c ≤ '7'

def isBinaryDigit (c : Char) : Bool :=
  c == '0' || c == '1'

def integerLength (cs : List Char) : Nat :=
  match cs with
  | '0' :: x :: ds =>
    let n :=
      if x == 'x' || x == 'X' then basedLength isHexDigit ds
      else if x == 'o' || x == 'O' then basedLength isOctalDigit ds
      else if x == 'b' || x == 'B' then basedLength isBinaryDigit ds
      else 0
    if n = 0 then decimalLength cs else n + 2
  | _ => decimalLength cs

def exponentLength : List Char → Nat
  | e :: cs =>
    if e == 'e' || e == 'E' then
      let sign := match cs with
        | s :: _ => if s == '+' || s == '-' then 1 else 0
        | [] => 0
      let n := decimalLength (cs.drop sign)
      if n = 0 then 0 else 1 + sign + n
    else 0
  | [] => 0

-- The length of the number with a point or an exponent at the front; zero if there is none.
def floatLength (cs : List Char) : Nat :=
  let whole := decimalLength cs
  match cs.drop whole with
  | '.' :: ds =>
    let fraction := decimalLength ds
    if whole = 0 && fraction = 0 then 0
    else whole + 1 + fraction + exponentLength (ds.drop fraction)
  | ds =>
    let e := exponentLength ds
    if whole = 0 || e = 0 then 0 else whole + e

def isPathChar (c : Char) : Bool :=
  isNameRest c || ['/', '.', ' ', '-', '%', '@'].contains c

def quotedPathLength (cs : List Char) : Nat :=
  match cs with
  | '"' :: ds =>
    let n := (ds.takeWhile isPathChar).length
    if (ds.drop n).head? == some '"' then n + 2 else 0
  | _ => 0

-- The length of names with single slashes between them at the front; zero if there are none. The
-- number bounds how many there are.
def namePathLength : Nat → List Char → Nat
  | 0, _ => 0
  | limit + 1, cs =>
    match nameLength cs with
    | 0 => 0
    | n =>
      match cs.drop n with
      | '/' :: ds =>
        match namePathLength limit ds with
        | 0 => n
        | k => n + 1 + k
      | _ => n

def pathLiteralLength (cs : List Char) : Nat :=
  match cs with
  | c :: ds =>
    if c = '^' || c = '@' then
      match quotedPathLength ds with
      | 0 => 0
      | n => n + 1
    else 0
  | [] => 0

-- The length of a reference to a node, `$` or `%` with a path behind it; zero if there is none.
def nodeReferenceLength (cs : List Char) : Nat :=
  match cs with
  | c :: ds =>
    if c = '$' || c = '%' then
      match max (quotedPathLength ds) (namePathLength (ds.length + 1) ds) with
      | 0 => 0
      | n => n + 1
    else 0
  | [] => 0

def pathToken? (fits : Terminal → Bool) (cs : List Char) : Option (Terminal × Nat) :=
  let find (t : Terminal) (n : Nat) : Option (Terminal × Nat) :=
    if fits t && n ≠ 0 then some (t, n) else none
  (find .nodePath (pathLiteralLength cs)).or (find .nodeReference (nodeReferenceLength cs))

def numberToken? (fits : Terminal → Bool) (cs : List Char) : Option (Terminal × Nat) :=
  let f := if fits .float then floatLength cs else 0
  let i := if fits .integer then integerLength cs else 0
  if f = 0 && i = 0 then none
  else if i < f then some (.float, f)
  else some (.integer, i)

def wordToken? (fits : Terminal → Bool) (cs : List Char) : Option (Terminal × Nat) :=
  match nameLength cs with
  | 0 => none
  | n =>
    match Keyword.ofChars? (cs.take n) with
    | some k => if fits (.keyword k) then some (.keyword k, n) else some (.name, n)
    | none => some (.name, n)

def markToken? (fits : Terminal → Bool) (cs : List Char) : Option (Terminal × Nat) :=
  let stands (m : Mark) : Bool := fits (.mark m) && m.spelling.toList.isPrefixOf cs
  (Mark.longestFirst.find? stands).map fun m => (.mark m, m.spelling.length)

def symbolToken? (fits : Terminal → Bool) (cs : List Char) : Option (Terminal × Nat) :=
  (numberToken? fits cs).or <| (pathToken? fits cs).or <| markToken? fits cs

def token? (fits : Terminal → Bool) (cs : List Char) : Option (Terminal × Nat) :=
  (wordToken? fits cs).or (symbolToken? fits cs)

inductive Lexeme where
  | layout (t : Terminal) (blocks : Blocks)
  | comment (start stop : Cursor)
  | token (t : Terminal) (start stop : Cursor)
  | done
  | stray (start : Cursor)
deriving Repr

-- The string behind a gap, if one is expected there. It has to follow the gap directly.
def stringBehind? (expected : List Terminal) (gap : Gap) : Option Nat :=
  if expected.contains .string && gap.comment.isNone then stringLength? gap.rest else none

def plainLexeme (expected : List Terminal) (c : Cursor) : Lexeme :=
  let start := c.skip (spaceLength c.rest)
  match start.rest with
  | [] => .done
  | '#' :: cs => .comment start (start.skip (commentLength ('#' :: cs)))
  | cs =>
    match token? expected.contains cs with
    | some (t, n) => .token t start (start.skip n)
    | none => .stray start

-- Find what comes next: line structure goes before strings, and both before all else.
def lexeme (expected : List Terminal) (blocks : Blocks) (c : Cursor) : Lexeme :=
  match Gap.survey {} false c.rest with
  | none => plainLexeme expected c
  | some gap =>
    match layoutTerminal expected blocks gap with
    | some (t, blocks) => .layout t blocks
    | none =>
      match stringBehind? expected gap with
      | some n =>
        let start := c.skip gap.length
        .token .string start (start.skip n)
      | none => plainLexeme expected c

end GodotAtlas.Script
