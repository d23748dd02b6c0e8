import GodotAtlas.Yaml.Scalar

namespace GodotAtlas.Yaml

-- A tag: a handle that stands for the start of a name, and the rest of it. A tag that is written
-- out has an empty handle.
structure Tag where
  handle : List Char
  suffix : List Char
deriving DecidableEq, Repr

def isTagChar (enclosed : Bool) (c : Char) : Bool :=
  isNameChar c || [';', '/', '?', ':', '@', '&', '=', '+', '$', '.', '%', '!', '~', '*', '\'',
    '(', ')'].contains c || (enclosed && [',', '[', ']'].contains c)

def percentByte? : List Char → Option Nat
  | '%' :: a :: b :: _ => hexNumber? [a, b]
  | _ => none

-- How many bytes follow a first byte, and what it adds to the number of the character.
def leadByte? (b : Nat) : Option (Nat × Nat) :=
  if b < 0x80 then some (0, b)
  else if b / 0x20 == 0x6 then some (1, b % 0x20)
  else if b / 0x10 == 0xe then some (2, b % 0x10)
  else if b / 0x8 == 0x1e then some (3, b % 0x8)
  else none

def continuation? : Nat → (sum : Nat) → List Char → Option Nat
  | 0, sum, _ => some sum
  | n + 1, sum, cs =>
    match percentByte? cs with
    | some b => if b / 0x40 == 2 then continuation? n (64 * sum + b % 64) (cs.drop 3) else none
    | none => none

def readPercent? (cs : List Char) : Option (Char × Nat) :=
  (percentByte? cs).bind fun b =>
    (leadByte? b).bind fun (more, high) =>
      (continuation? more high (cs.drop 3)).map fun sum => (Char.ofNat sum, 3 * (more + 1))

def readTagName (enclosed : Bool) : Nat → (text : List Char) → Cursor → Option (List Char × Cursor)
  | 0, text, c => some (text, c)
  | n + 1, text, c =>
    match c.rest with
    | [] => some (text, c)
    | x :: _ =>
      if x == '%' then
        match readPercent? c.rest with
        | some (y, length) => readTagName enclosed n (text ++ [y]) (c.advance length)
        | none => none
      else if isTagChar enclosed x then readTagName enclosed n (text ++ [x]) (c.advance 1)
      else some (text, c)

def tagName? (enclosed : Bool) (c : Cursor) : Option (List Char × Cursor) :=
  (readTagName enclosed (c.rest.length + 1) [] c).filter (!·.1.isEmpty)

-- Read an exclamation mark, the name behind it and the exclamation mark behind that if there is
-- one.
def readHandle (c : Cursor) : List Char × Cursor :=
  let name := (c.rest.drop 1).takeWhile isNameChar
  let c := c.advance (name.length + 1)
  if c.sees '!' then ('!' :: name ++ ['!'], c.advance 1) else ('!' :: name, c)

def readVerbatimTag? (c : Cursor) : Option (Tag × Cursor) :=
  (tagName? true (c.advance 2)).bind fun (suffix, c) =>
    if c.sees '>' then some ({ handle := [], suffix }, c.advance 1) else none

def readShortTag? (c : Cursor) : Option (Tag × Cursor) :=
  let (handle, behind) := readHandle c
  if 1 < handle.length && handle.getLast? == some '!' then
    (tagName? false behind).map fun (suffix, c) => ({ handle, suffix }, c)
  else
    (readTagName false (behind.rest.length + 1) handle.tail behind).map fun (suffix, c) =>
      if suffix.isEmpty then ({ handle := [], suffix := ['!'] }, c)
      else ({ handle := ['!'], suffix }, c)

def readTag? (inFlow : Bool) (c : Cursor) : Option (Tag × Cursor) :=
  let found := if c.ahead 1 == some '<' then readVerbatimTag? c else readShortTag? c
  found.filter fun (_, c) => (inFlow && c.sees ',') || endsWord (c.ahead 0)

def readAnchor? (c : Cursor) : Option (List Char × Cursor) :=
  let name := c.rest.takeWhile isNameChar
  let c := c.advance name.length
  let ends := endsWord (c.ahead 0)
    || (c.ahead 0).any fun x => ['?', ':', ',', ']', '\x7d', '%', '@', '\x60'].contains x
  if name.isEmpty || !ends then none else some (name, c)

inductive Directive where
  | version (major minor : Nat)
  | handle (name start : List Char)
deriving DecidableEq, Repr

def maxVersionDigits : Nat := 9

def readVersionNumber? (c : Cursor) : Option (Nat × Cursor) :=
  let digits := c.rest.takeWhile Char.isDigit
  if digits.isEmpty || maxVersionDigits < digits.length then none
  else some (digits.foldl (fun n d => 10 * n + (d.toNat - '0'.toNat)) 0, c.advance digits.length)

def readVersion? (c : Cursor) : Option (Directive × Cursor) :=
  (readVersionNumber? (c.skipWhile isSpace)).bind fun (major, c) =>
    if c.sees '.' then
      (readVersionNumber? (c.advance 1)).map fun (minor, c) => (.version major minor, c)
    else none

def readHandleDirective? (c : Cursor) : Option (Directive × Cursor) :=
  let c := c.skipWhile isSpace
  let (name, behind) := readHandle c
  if !c.sees '!' || (name != ['!'] && (name.length == 1 || name.getLast? != some '!')) then none
  else if !(behind.ahead 0).any isSpace then none
  else
    (tagName? true (behind.skipWhile isSpace)).bind fun (start, c) =>
      if endsWord (c.ahead 0) then some (.handle name start, c) else none

def readDirective? (c : Cursor) : Option (Directive × Cursor) :=
  let name := c.rest.takeWhile isNameChar
  let behind := c.advance name.length
  let found :=
    if !endsWord (behind.ahead 0) then none
    else if name == "YAML".toList then readVersion? behind
    else if name == "TAG".toList then readHandleDirective? behind
    else none
  found.bind fun (d, c) =>
    let c := (c.skipWhile isSpace).skipComment
    if c.atLineEnd then some (d, if c.rest.isEmpty then c else c.skipBreak) else none

end GodotAtlas.Yaml
