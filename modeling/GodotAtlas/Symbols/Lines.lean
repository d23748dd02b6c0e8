import GodotAtlas.Symbols.Expression
import GodotAtlas.Symbols.Table
import GodotAtlas.Text.Matcher

namespace GodotAtlas.Symbols

open Text

def keyword? (word : String) (cs : List Char) : Option (List Char) :=
  (skip? word.toList cs).bind blank?

def quotedName? (quote : Char) (cs : List Char) : Option (List Char × List Char) :=
  match cs with
  | c :: cs =>
    if c = quote then
      match until? quote cs with
      | some ([], _) => none
      | found => found
    else none
  | [] => none

-- The words that follow with dots between them. The number bounds how many there are.
def dottedRest : Nat → List Char → List Char
  | 0, _ => []
  | n + 1, cs =>
    match cs with
    | '.' :: ds =>
      match word? ds with
      | some (w, rest) => '.' :: w ++ dottedRest n rest
      | none => []
    | _ => []

def dotted? (cs : List Char) : Option (List Char) :=
  (word? cs).map fun (w, rest) => w ++ dottedRest rest.length rest

def baseName? (cs : List Char) : Option (List Char) :=
  ((quotedName? '"' cs).map (·.1)).or
    (((quotedName? '\'' cs).map (·.1)).or (dotted? cs))

def extendsBase? (cs : List Char) : Option String :=
  (keyword? "extends" cs).bind fun cs => (baseName? cs).map String.ofList

def declared? (word : String) (cs : List Char) : Option (String × List Char) :=
  (keyword? word cs).bind fun cs => (word? cs).map fun (w, rest) => (String.ofList w, rest)

def classNameLine (line : List Char) : Summary :=
  match declared? "class_name" line with
  | some (name, rest) =>
    { className := some name, base := (blank? rest).bind extendsBase? }
  | none => {}

def extendsLine (line : List Char) : Summary :=
  { base := extendsBase? line }

def toolLine (line : List Char) : Summary :=
  { isTool := "@tool".toList.isPrefixOf line || line == "tool".toList }

def parameterText (cs : List Char) : Parameter :=
  let head := ((splitOnce? '=' cs).map (·.1)).getD cs
  match splitOnce? ':' head with
  | some (name, type) =>
    let type := trim type
    { name := String.ofList (trim name)
      type := if type.isEmpty then none else some (String.ofList type) }
  | none => { name := String.ofList (trim head) }

def splitParams (cs : List Char) : List Parameter :=
  (((splitAt ',' cs).map trim).filter (!·.isEmpty)).map parameterText

def parenthesized? (cs : List Char) : Option (List Char × List Char) :=
  (skip? ['('] (trimStart cs)).bind (until? ')')

def signalLine (line : List Char) : Summary :=
  match declared? "signal" line with
  | some (name, rest) =>
    let params := ((parenthesized? rest).map fun (ps, _) => splitParams ps).getD []
    { members := { signals := [{ name, params }] } }
  | none => {}

def numberText? (cs : List Char) : Option (List Char × List Char) :=
  let (sign, ds) := match cs with
    | '-' :: ds => (['-'], ds)
    | _ => ([], cs)
  (run? isDigit ds).map fun (whole, rest) =>
    match rest with
    | '.' :: fs =>
      match run? isDigit fs with
      | some (fraction, rest') => (sign ++ whole ++ '.' :: fraction, rest')
      | none => (sign ++ whole, rest)
    | _ => (sign ++ whole, rest)

def stringText? (quote : Char) (cs : List Char) : Option (List Char × List Char) :=
  match cs with
  | c :: cs =>
    if c = quote then (until? quote cs).map fun (t, rest) => (quote :: t ++ [quote], rest) else none
  | [] => none

def plainWord? (cs : List Char) : Option (List Char × List Char) :=
  match cs with
  | c :: _ => if c.isAlpha || c == '_' then word? cs else none
  | [] => none

-- Plain words that follow with dots between them. The number bounds how many there are.
def plainRest : Nat → List Char → List Char × List Char
  | 0, cs => ([], cs)
  | n + 1, cs =>
    match cs with
    | '.' :: ds =>
      match plainWord? ds with
      | some (w, rest) =>
        let (more, rest') := plainRest n rest
        ('.' :: w ++ more, rest')
      | none => ([], cs)
    | _ => ([], cs)

def dottedText? (cs : List Char) : Option (List Char × List Char) :=
  (plainWord? cs).map fun (w, rest) =>
    let (more, rest') := plainRest rest.length rest
    (w ++ more, rest')

def simpleValue? (cs : List Char) : Option (List Char × List Char) :=
  (numberText? cs).or ((stringText? '"' cs).or ((stringText? '\'' cs).or (dottedText? cs)))

def atLineEnd (cs : List Char) : Bool :=
  match trimStart cs with
  | [] => true
  | c :: _ => c == '#'

def initializer : Matcher (List Char) := fun _ cs =>
  (skip? ['='] cs).bind fun cs =>
    (simpleValue? (trimStart cs)).bind fun (value, rest) =>
      if atLineEnd rest then some (value, rest) else none

def simpleDefault (line : List Char) : Option String :=
  (initializer.find? line).map fun v => cleanExpr (String.ofList v)

def typeBehind? (cs : List Char) : Option String :=
  (skip? [':'] (trimStart cs)).bind fun cs =>
    (word? (trimStart cs)).map fun (w, _) => String.ofList w

def variableText? (cs : List Char) : Option (String × Option String) :=
  (declared? "var" cs).map fun (name, rest) => (name, typeBehind? rest)

def variableInside : Matcher (String × Option String) := fun before cs =>
  if atBoundary before cs then (variableText? cs).map (·, []) else none

def exportedVariable? (line : List Char) : Option (String × Option String) :=
  (skip? "@export".toList line).bind fun cs => (variableInside.first (some 't') cs).map (·.1)

def deferredVariable? (line : List Char) : Option (String × Option String) :=
  (keyword? "@onready" line).bind variableText?

def dropAnnotations : Nat → List Char → List Char
  | 0, cs => cs
  | n + 1, cs =>
    match cs with
    | '@' :: ds =>
      match (word? ds).bind fun (_, rest) => blank? rest with
      | some rest => dropAnnotations n rest
      | none => cs
    | _ => cs

def returnType? (cs : List Char) : Option String :=
  (skip? "->".toList (trimStart cs)).bind fun cs =>
    (word? (trimStart cs)).map fun (w, _) => String.ofList w

def staticWord : Matcher Unit := fun before cs =>
  if atBoundary before cs then
    (skip? "static".toList cs).bind fun rest =>
      if rest.head?.any isWord then none else some ((), rest)
  else none

def functionLine (line : List Char) : Summary :=
  let cs := dropAnnotations line.length line
  let cs := (keyword? "static" cs).getD cs
  let found := (declared? "func" cs).bind fun (name, rest) =>
    (parenthesized? rest).map fun (ps, rest) => (name, splitParams ps, returnType? rest)
  match found with
  | some (name, params, returnType) =>
    let isStatic := (staticWord.find? line).isSome
    let f : Function := { name, params, returnType, isStatic }
    if isStatic then { members := { staticFunctions := [f] } }
    else { members := { functions := [f] } }
  | none => {}

def constantLine (line : List Char) : Summary :=
  match declared? "const" line with
  | some (name, _) => { members := { constants := [{ name, value := simpleDefault line }] } }
  | none => {}

def enumLine (line : List Char) : Summary :=
  match declared? "enum" line with
  | some (name, _) => { members := { enums := [{ name := some name, values := [] }] } }
  | none => {}

def propertyOf (line : List Char) (v : String × Option String) : Property :=
  { name := v.1, type := v.2, default := simpleDefault line }

def variableLine (line : List Char) : Summary :=
  match variableText? line with
  | some v => { members := { plain := [propertyOf line v] } }
  | none => {}

-- The rules for variables, functions, constants and enumerations; an exported or a deferred
-- variable takes the whole line.
def memberLine (line : List Char) : Summary :=
  match exportedVariable? line with
  | some v => { members := { exported := [propertyOf line v] } }
  | none =>
    match deferredVariable? line with
    | some v => { members := { deferred := [propertyOf line v] } }
    | none =>
      (variableLine line).merge
        ((functionLine line).merge ((constantLine line).merge (enumLine line)))

def trimmedLine (line : List Char) : Summary :=
  (classNameLine line).merge ((extendsLine line).merge ((toolLine line).merge
    ((signalLine line).merge (memberLine line))))

def isOutermost (line : List Char) : Bool :=
  match line with
  | [] => false
  | c :: _ => !isBlank c && c != '#'

def lineSummary (line : List Char) : Summary :=
  if isOutermost line then trimmedLine (trim line) else {}

def fromLines (source : String) : Summary :=
  Summary.mergeAll ((lines source.toList).map lineSummary)

end GodotAtlas.Symbols
