import GodotAtlas.Proofs.Text.Matching
import GodotAtlas.Script.Item

namespace GodotAtlas.Symbols

open Text

open Script (Item Param)

abbrev Word := Run isWord

abbrev Digits := Run isDigit

structure Name extends Word where
  not_static : chars ≠ "static".toList

structure Identifier extends Word where
  initial : ∀ c ∈ chars.head?, c.isAlpha || c == '_'

-- Words that follow with dots between them.
def dottedTail : List Word → List Char
  | [] => []
  | w :: ws => '.' :: w.chars ++ dottedTail ws

inductive Base where
  | words (first : Word) (rest : List Word)
  | path (chars : List Char) (ne_nil : chars ≠ []) (no_quote : '"' ∉ chars)
      (no_newline : '\n' ∉ chars)

def Base.chars : Base → List Char
  | words first rest => first.chars ++ dottedTail rest
  | path chars _ _ _ => chars

def Base.written : Base → List Char
  | words first rest => first.chars ++ dottedTail rest
  | path chars _ _ _ => '"' :: chars ++ ['"']

inductive Quote where
  | double | single

def Quote.char : Quote → Char
  | double => '"'
  | single => '\''

inductive Value where
  | number (negative : Bool) (whole : Digits) (fraction : Option Digits)
  | string (quote : Quote) (content : List Char) (no_quote : quote.char ∉ content)
      (no_newline : '\n' ∉ content)
  | dotted (first : Identifier) (rest : List Identifier)

def Value.written : Value → List Char
  | number negative whole fraction =>
    (if negative then ['-'] else []) ++ whole.chars ++
      (fraction.map fun f => '.' :: f.chars).getD []
  | string quote content _ _ => quote.char :: content ++ [quote.char]
  | dotted first rest => first.chars ++ dottedTail (rest.map (·.toRun))

def Value.text (v : Value) : String :=
  String.ofList v.written

structure PlainParam where
  name : Name
  type : Option Name

def typeWritten (type : Option Name) : List Char :=
  (type.map fun t => ':' :: ' ' :: t.chars).getD []

def PlainParam.written (p : PlainParam) : List Char :=
  p.name.chars ++ typeWritten p.type

def PlainParam.param (p : PlainParam) : Param :=
  { name := p.name.text, type := p.type.map (·.text) }

def paramsWritten : List PlainParam → List Char
  | [] => []
  | [p] => p.written
  | p :: ps => p.written ++ ',' :: ' ' :: paramsWritten ps

inductive VariableMark where
  | plain | exported | deferred

inductive Declaration where
  | tool
  | className (name : Name)
  | base (base : Base)
  | signal (name : Name) (params : List PlainParam)
  | property (mark : VariableMark) (name : Name) (type : Option Name) (value : Option Value)
  | function (isStatic : Bool) (name : Name) (params : List PlainParam) (returnType : Option Name)
  | constant (name : Name) (value : Value)
  | enumeration (name : Name)

def VariableMark.items : VariableMark → List Item
  | plain => []
  | exported => [.annotates "export"]
  | deferred => [.annotates "onready"]

def headed (k : String) (cs : List Char) : List Char :=
  k.toList ++ ' ' :: cs

def VariableMark.written (mark : VariableMark) (cs : List Char) : List Char :=
  match mark with
  | plain => cs
  | exported => headed "@export" cs
  | deferred => headed "@onready" cs

def initializerWritten (value : Option Value) : List Char :=
  (value.map fun v => ' ' :: '=' :: ' ' :: v.written).getD []

def returnWritten (returnType : Option Name) : List Char :=
  (returnType.map fun r => " -> ".toList ++ r.chars).getD []

def variableWritten (name : Name) (type : Option Name) (value : Option Value) : List Char :=
  headed "var" (name.chars ++ (typeWritten type ++ initializerWritten value))

def functionWritten (name : Name) (params : List PlainParam) (returnType : Option Name) :
    List Char :=
  headed "func" (name.chars ++
    '(' :: (paramsWritten params ++ ')' :: (returnWritten returnType ++ [':'])))

namespace Declaration

def items : Declaration → List Item
  | .tool => [.tool]
  | .className name => [.className name.text]
  | .base b => [.extends (String.ofList b.chars)]
  | .signal name params => [.signal name.text (params.map (·.param))]
  | .property mark name type value =>
    mark.items ++ [.variable name.text (type.map (·.text)) (value.map (·.text))]
  | .function isStatic name params returnType =>
    (if isStatic then [.annotates "static"] else []) ++
      [.function name.text (params.map (·.param)) (returnType.map (·.text))]
  | .constant name value => [.constant name.text (some value.text)]
  | .enumeration name => [.enumeration (some name.text) []]

def line : Declaration → List Char
  | .tool => "@tool".toList
  | .className name => headed "class_name" name.chars
  | .base b => headed "extends" b.written
  | .signal name params =>
    headed "signal" (name.chars ++ '(' :: (paramsWritten params ++ [')']))
  | .property mark name type value => mark.written (variableWritten name type value)
  | .function isStatic name params returnType =>
    if isStatic then headed "static" (functionWritten name params returnType)
    else functionWritten name params returnType
  | .constant name value => headed "const" (name.chars ++ initializerWritten (some value))
  | .enumeration name => headed "enum" (name.chars ++ " \x7b\x7d".toList)

end Declaration

def sourceOf (ds : List Declaration) : String :=
  String.ofList (ds.flatMap fun d => d.line ++ ['\n'])

end GodotAtlas.Symbols
