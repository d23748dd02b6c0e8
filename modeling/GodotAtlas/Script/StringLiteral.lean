namespace GodotAtlas.Script

-- White space between tokens: ASCII blanks, the byte order mark and two invisible joiners.
def isSpace (c : Char) : Bool :=
  let n := c.toNat
  (0x9 ≤ n && n ≤ 0xd) || n == 0x20 || n == 0xfeff || n == 0x200b || n == 0x2060

def isHexDigit (c : Char) : Bool :=
  c.isDigit || ('a' ≤ c && c ≤ 'f') || ('A' ≤ c && c ≤ 'F')

structure Quotation where
  mark : Char
  triple : Bool := false
  raw : Bool := false
  -- The escapes for characters by name or number stand for themselves, and so does the character
  -- behind their letter.
  bytes : Bool := false
  format : Bool := false
deriving DecidableEq, Repr

namespace Quotation

def isFlag (c : Char) : Bool :=
  ['f', 'F', 'r', 'R', 'b', 'B', 'u', 'U'].contains c

def opening? (cs : List Char) : Option (Quotation × Nat) :=
  let flags := cs.takeWhile isFlag
  let quotation (mark : Char) : Quotation :=
    { mark
      raw := flags.any fun c => c == 'r' || c == 'R'
      bytes := flags.any fun c => c == 'b' || c == 'B'
      format := flags.any fun c => c == 'f' || c == 'F' }
  match cs.drop flags.length with
  | [] => none
  | c :: ds =>
    if c = '\x60' then some (quotation c, flags.length + 1)
    else if c = '"' || c = '\'' then
      if [c, c].isPrefixOf ds then some ({ quotation c with triple := true }, flags.length + 3)
      else some (quotation c, flags.length + 1)
    else none

def closing (q : Quotation) : List Char :=
  if q.triple then [q.mark, q.mark, q.mark] else [q.mark]

-- How long the plain text at the front is, up to an escape or the closing mark. There is none if
-- the text ends first, or if a line ends behind some of the plain text; the first character may be
-- a line end. The argument says whether some of the plain text is already passed.
def plainLength? (q : Quotation) : (behindText : Bool) → List Char → Option Nat
  | _, [] => none
  | behindText, c :: cs =>
    if q.closing.isPrefixOf (c :: cs) then some 0
    else if q.format && (c = '\x7b' || c = '\x7d') then some 0
    else if c = '\\' then
      match cs with
      | [] => if q.raw then none else some 0
      | d :: ds =>
        if q.raw then
          if d = q.mark || d = '\\' then (plainLength? q true ds).map (· + 2)
          else (plainLength? q true (d :: ds)).map (· + 1)
        else if q.bytes && (d = 'N' || d = 'u' || d = 'U') then
          match ds with
          | [] => none
          | _ :: es => (plainLength? q true es).map (· + 3)
        else some 0
    else if c = '\n' && behindText && !q.triple then none
    else (plainLength? q true cs).map (· + 1)

end Quotation

-- The length of the escape at the front; zero if there is none. Behind a backslash stands any
-- character, but `u`, `x` and `o` ask for their digits.
def escapeLength (cs : List Char) : Nat :=
  let digits (n : Nat) (digit : Char → Bool) (ds : List Char) : Bool :=
    n ≤ ds.length && (ds.take n).all digit
  match cs with
  | '\\' :: c :: ds =>
    if c = 'u' then if digits 4 isHexDigit ds then 6 else 0
    else if c = 'x' then if digits 2 isHexDigit ds then 4 else 0
    else if c = 'o' then if digits 3 Char.isDigit ds then 5 else 0
    else if c = 'U' && digits 8 isHexDigit ds then 10
    else if c = '\r' && ds.head? == some '\n' then 3
    else 2
  | _ => 0

def commentLength (cs : List Char) : Nat :=
  match cs with
  | '#' :: ds => (ds.takeWhile (· ≠ '\n')).length + 1
  | _ => 0

-- The length of a body up to and with the closing mark. Between escapes and plain text there may be
-- white space and comments like anywhere else. The number bounds the parts of the body.
def bodyLength? (q : Quotation) : Nat → List Char → Option Nat
  | 0, _ => none
  | n + 1, cs =>
    let go (k : Nat) : Option Nat :=
      if k = 0 then none else (bodyLength? q n (cs.drop k)).map (· + k)
    match q.plainLength? false cs with
    | some (k + 1) => go (k + 1)
    | some 0 =>
      if q.closing.isPrefixOf cs then some q.closing.length else go (escapeLength cs)
    | none =>
      let space := (cs.takeWhile isSpace).length
      let rest := cs.drop space
      let k := commentLength rest + escapeLength rest
      if k = 0 then none else go (space + k)

def stringLength? (cs : List Char) : Option Nat :=
  (Quotation.opening? cs).bind fun (q, n) =>
    (bodyLength? q (cs.length + 1) (cs.drop n)).map (· + n)

end GodotAtlas.Script
