import GodotAtlas.Yaml.Tag

namespace GodotAtlas.Yaml

inductive Token where
  | directive (d : Directive)
  | documentStart | documentEnd
  | blockSequenceStart | blockMappingStart | blockEnd
  | flowSequenceStart | flowSequenceEnd | flowMappingStart | flowMappingEnd
  | flowEntry | blockEntry | key | value
  | anchor (name : List Char)
  | reference (name : List Char)
  | tag (t : Tag)
  | scalar (style : Style) (text : List Char)
deriving DecidableEq, Repr

structure PossibleKey where
  position : Nat
  required : Bool
  place : Cursor

def maxKeyLength : Nat := 1024

def PossibleKey.isStale (k : PossibleKey) (c : Cursor) : Bool :=
  k.place.line < c.line || k.place.index + maxKeyLength < c.index

structure Scanner where
  cursor : Cursor
  found : List Token := []
  indent : Nat := 0
  outer : List Nat := []
  keyAllowed : Bool := true
  key : Option PossibleKey := none
  outerKeys : List (Option PossibleKey) := []

namespace Scanner

def inFlow (s : Scanner) : Bool :=
  !s.outerKeys.isEmpty

def push (s : Scanner) (t : Token) : Scanner :=
  { s with found := t :: s.found }

def take (s : Scanner) (t : Token) (length : Nat) : Scanner :=
  { s with found := t :: s.found, cursor := s.cursor.advance length }

def insert (s : Scanner) (position : Nat) (t : Token) : Scanner :=
  let behind := s.found.length - position
  { s with found := s.found.take behind ++ t :: s.found.drop behind }

-- Pass spaces, comments and line ends. Where a key may start a tab is no space. The number bounds
-- the steps.
def skipBlank : Nat → Scanner → Scanner
  | 0, s => s
  | n + 1, s =>
    let c := if s.cursor.column == 0 && s.cursor.sees '\ufeff' then s.cursor.advance 1 else s.cursor
    let tabs := s.inFlow || !s.keyAllowed
    let c := (c.skipWhile fun x => x == ' ' || (tabs && x == '\t')).skipComment
    if c.rest.head?.any isBreak then
      skipBlank n { s with cursor := c.skipBreak, keyAllowed := s.keyAllowed || !s.inFlow }
    else { s with cursor := c }

def refreshKey (c : Cursor) : Option PossibleKey → Option (Option PossibleKey)
  | none => some none
  | some k => if k.isStale c then if k.required then none else some none else some (some k)

def refreshKeys (s : Scanner) : Option Scanner := do
  let key ← refreshKey s.cursor s.key
  let outerKeys ← s.outerKeys.mapM (refreshKey s.cursor)
  return { s with key, outerKeys }

def dropKey (s : Scanner) : Option Scanner :=
  if s.key.any (·.required) then none else some { s with key := none }

def saveKey (s : Scanner) : Option Scanner :=
  if s.keyAllowed then
    s.dropKey.map fun s =>
      let required := !s.inFlow && s.indent == s.cursor.column + 1
      { s with key := some { position := s.found.length, required, place := s.cursor } }
  else some s

def closeBlocks (s : Scanner) (column : Nat) : Scanner :=
  if s.inFlow then s else go s.outer s
where
  go : List Nat → Scanner → Scanner
    | [], s => s
    | o :: os, s =>
      if column < s.indent then go os { s.push .blockEnd with indent := o, outer := os } else s

-- Start a block at a column, counted from one, if it is behind the column of the innermost.
def openBlock (s : Scanner) (column position : Nat) (t : Token) : Scanner :=
  if !s.inFlow && s.indent < column then
    { s.insert position t with indent := column, outer := s.indent :: s.outer }
  else s

def leaveDocument (s : Scanner) : Option Scanner :=
  (s.closeBlocks 0).dropKey.map fun s => { s with keyAllowed := false }

def takeDirective (s : Scanner) : Option Scanner :=
  s.leaveDocument.bind fun s =>
    (readDirective? (s.cursor.advance 1)).map fun (d, cursor) =>
      { s.push (.directive d) with cursor }

def takeDocumentMark (s : Scanner) : Option Scanner :=
  s.leaveDocument.map fun s =>
    s.take (if s.cursor.sees '-' then .documentStart else .documentEnd) 3

def takeFlowStart (s : Scanner) (t : Token) : Option Scanner :=
  s.saveKey.map fun s =>
    { s.take t 1 with outerKeys := s.key :: s.outerKeys, key := none, keyAllowed := true }

def takeFlowEnd (s : Scanner) (t : Token) : Option Scanner :=
  s.dropKey.map fun s =>
    let s := { s.take t 1 with keyAllowed := false }
    match s.outerKeys with
    | [] => s
    | key :: outerKeys => { s with key, outerKeys }

def takeFlowEntry (s : Scanner) : Option Scanner :=
  s.dropKey.map fun s => { s.take .flowEntry 1 with keyAllowed := true }

def takeBlockEntry (s : Scanner) : Option Scanner :=
  if !s.inFlow && !s.keyAllowed then none
  else
    let s := s.openBlock (s.cursor.column + 1) s.found.length .blockSequenceStart
    s.dropKey.map fun s => { s.take .blockEntry 1 with keyAllowed := true }

def takeKey (s : Scanner) : Option Scanner :=
  if !s.inFlow && !s.keyAllowed then none
  else
    let s := s.openBlock (s.cursor.column + 1) s.found.length .blockMappingStart
    s.dropKey.map fun s => { s.take .key 1 with keyAllowed := !s.inFlow }

def takeValue (s : Scanner) : Option Scanner :=
  match s.key with
  | some k =>
    let s := s.insert k.position .key
    let s := s.openBlock (k.place.column + 1) k.position .blockMappingStart
    some { s.take .value 1 with key := none, keyAllowed := false }
  | none =>
    if !s.inFlow && !s.keyAllowed then none
    else
      let s := s.openBlock (s.cursor.column + 1) s.found.length .blockMappingStart
      some { s.take .value 1 with keyAllowed := !s.inFlow }

def takeAnchor (s : Scanner) (t : List Char → Token) : Option Scanner :=
  s.saveKey.bind fun s =>
    (readAnchor? (s.cursor.advance 1)).map fun (name, cursor) =>
      { s.push (t name) with cursor, keyAllowed := false }

def takeTag (s : Scanner) : Option Scanner :=
  s.saveKey.bind fun s =>
    (readTag? s.inFlow s.cursor).map fun (t, cursor) =>
      { s.push (.tag t) with cursor, keyAllowed := false }

def takeBlock (s : Scanner) (folded : Bool) : Option Scanner :=
  s.dropKey.bind fun s =>
    (readBlock folded s.indent (s.cursor.advance 1)).map fun (text, cursor) =>
      { s.push (.scalar (if folded then .folded else .literal) text) with
        cursor, keyAllowed := true }

def takeQuoted (s : Scanner) (double : Bool) : Option Scanner :=
  s.saveKey.bind fun s =>
    (readQuoted double (s.cursor.rest.length + 1) [] (s.cursor.advance 1)).map
      fun (text, cursor) =>
        { s.push (.scalar (if double then .doubleQuoted else .singleQuoted) text) with
          cursor, keyAllowed := false }

def takePlain (s : Scanner) : Option Scanner :=
  s.saveKey.bind fun s =>
    (readPlain s.inFlow s.indent (s.cursor.rest.length + 1) [] {} s.cursor).map
      fun (text, broken, cursor) =>
        { s.push (.scalar .plain text) with cursor, keyAllowed := broken }

def indicators : List Char :=
  ['-', '?', ':', ',', '[', ']', '\x7b', '\x7d', '#', '&', '*', '!', '|', '>', '\'', '"', '%', '@',
   '\x60']

def startsPlain (s : Scanner) (c : Char) (next : Option Char) : Bool :=
  if c == '-' then !next.any isSpace
  else if c == '?' || c == ':' then !s.inFlow && !endsWord next
  else !isSpace c && !isBreak c && !indicators.contains c

def takeToken (s : Scanner) (c : Char) : Option Scanner :=
  let next := s.cursor.ahead 1
  if s.cursor.column == 0 && c == '%' then s.takeDirective
  else if s.cursor.atDocumentMark then s.takeDocumentMark
  else if c == '[' then s.takeFlowStart .flowSequenceStart
  else if c == '\x7b' then s.takeFlowStart .flowMappingStart
  else if c == ']' then s.takeFlowEnd .flowSequenceEnd
  else if c == '\x7d' then s.takeFlowEnd .flowMappingEnd
  else if c == ',' then s.takeFlowEntry
  else if c == '-' && endsWord next then s.takeBlockEntry
  else if c == '?' && (s.inFlow || endsWord next) then s.takeKey
  else if c == ':' && (s.inFlow || endsWord next) then s.takeValue
  else if c == '*' then s.takeAnchor .reference
  else if c == '&' then s.takeAnchor .anchor
  else if c == '!' then s.takeTag
  else if c == '|' && !s.inFlow then s.takeBlock false
  else if c == '>' && !s.inFlow then s.takeBlock true
  else if c == '\'' then s.takeQuoted false
  else if c == '"' then s.takeQuoted true
  else if s.startsPlain c next then s.takePlain
  else none

def run : Nat → Scanner → Option Scanner
  | 0, _ => none
  | n + 1, s =>
    (skipBlank (s.cursor.rest.length + 1) s).refreshKeys.bind fun s =>
      let s := s.closeBlocks (s.cursor.column + 1)
      match s.cursor.rest with
      | [] => s.leaveDocument
      | c :: _ => (s.takeToken c).bind (run n)

end Scanner

def tokens? (text : List Char) : Option (List Token) :=
  if text.all isAllowed then
    (Scanner.run (text.length + 1) { cursor := { rest := text } }).map (·.found.reverse)
  else none

end GodotAtlas.Yaml
