import GodotAtlas.Script.Item
import GodotAtlas.Script.Tree
import GodotAtlas.Text.Matcher

namespace GodotAtlas.Script

namespace Tree

def trimmedText (t : Tree) : String :=
  Text.trimmed t.info.text

def nonEmpty (s : String) : Option String :=
  if s.isEmpty then none else some s

def fieldText? (t : Tree) (f : Field) : Option String :=
  (t.child? f).bind fun c => nonEmpty c.trimmedText

def childOfKind? (t : Tree) (kinds : List Kind) : Option Tree :=
  t.namedChildren.find? fun c => kinds.contains c.kind

-- The name that a statement or parameter declares: the part labelled so, or else the first child
-- that is a name.
def declaredName? (t : Tree) : Option String :=
  (t.fieldText? .name).or
    ((t.childOfKind? [.identifier, .name]).bind fun c => nonEmpty c.trimmedText)

def annotationName (t : Tree) : String :=
  match t.childOfKind? [.identifier] with
  | some c => c.trimmedText
  | none =>
    String.ofList ((t.trimmedText.toList.dropWhile (· == '@')).takeWhile fun c =>
      Text.isAlphanumeric c || c == '_')

def isStatic (t : Tree) : Bool :=
  t.children.any fun c => c.kind == .staticKeyword || c.kind == .other "static"

def isQuote (c : Char) : Bool :=
  c == '"' || c == '\''

def extendsTarget? (t : Tree) : Option String :=
  t.namedChildren.head?.bind fun c =>
    nonEmpty (String.ofList (Text.stripEnds isQuote c.trimmedText.toList))

def variableType? (t : Tree) : Option String :=
  (t.child? .type).bind fun c =>
    if c.kind == .inferredType || c.trimmedText == ":=" then none else nonEmpty c.trimmedText

def paramType? (t : Tree) : Option String :=
  ((t.child? .type).or (t.childOfKind? [.type])).bind fun c =>
    if c.kind == .inferredType then none else nonEmpty c.trimmedText

def param? (t : Tree) : Option Param :=
  match t.kind with
  | .identifier | .name => (nonEmpty t.trimmedText).map ({ name := · })
  | .typedParameter => t.declaredName?.map ({ name := ·, type := t.paramType? })
  | .defaultParameter => t.declaredName?.map ({ name := ·, hasDefault := true })
  | .typedDefaultParameter =>
    t.declaredName?.map ({ name := ·, type := t.paramType?, hasDefault := true })
  | _ => t.declaredName?.map ({ name := · })

def params (t : Tree) : List Param :=
  match (t.child? .parameters).or (t.childOfKind? [.parameters]) with
  | some ps => (ps.namedChildren.filter (·.kind != .comment)).filterMap param?
  | none => []

-- The last type between the parameters and the body, where the return type has no label.
def trailingType? (t : Tree) : Option String :=
  let tail := (t.namedChildren.takeWhile (·.kind != .body)).dropWhile (·.kind != .parameters)
  (tail.filter (·.kind == .type)).getLast?.bind fun c => nonEmpty c.trimmedText

def returnType? (t : Tree) : Option String :=
  (t.fieldText? .returnType).or t.trailingType?

def enumValues (t : Tree) : List String :=
  match (t.child? .body).or (t.childOfKind? [.enumerators]) with
  | some b =>
    (b.namedChildren.filter (·.kind == .enumerator)).filterMap fun e =>
      (e.fieldText? .left).or
        (e.namedChildren.head?.bind fun c => nonEmpty c.trimmedText)
  | none => []

end Tree

namespace Item

def named (t : Tree) (f : String → Item) : Item :=
  t.declaredName?.elim .other f

def ofAnnotationNode (t : Tree) : Item :=
  if t.annotationName == "tool" then .tool else .annotates t.annotationName

def ofExtends (t : Tree) : Item :=
  t.extendsTarget?.elim .other .extends

def ofVariable (t : Tree) : Item :=
  named t fun n => .variable n t.variableType? (t.fieldText? .value)

def ofFunction (t : Tree) : Item :=
  let name := if t.kind == .constructor then some (t.declaredName?.getD "_init")
    else t.declaredName?
  name.elim .other fun n => .function n t.params t.returnType?

def ofClass (t : Tree) (body : List Item) : Item :=
  named t fun n => .class n ((t.child? .extends).bind Tree.extendsTarget?) body

def isAnnotating (t : Tree) : Bool :=
  t.info.named && (t.kind == .annotations || t.kind == .annotates)

mutual

def ofStatement : Tree → List Item
  | t@(.node i cs) =>
    match i.kind with
    | .comment => []
    | .tool => [.tool]
    | .className => [named t .className]
    | .extends => [ofExtends t]
    | .signal => [named t fun n => .signal n t.params]
    | .annotations => ofStatements cs
    | .annotates => [ofAnnotationNode t]
    | .variable => ofAnnotations cs ++ [ofVariable t]
    | .exportVariable => ofAnnotations cs ++ [.annotates "export", ofVariable t]
    | .onreadyVariable => ofAnnotations cs ++ [.annotates "onready", ofVariable t]
    | .function | .constructor =>
      ofAnnotations cs ++ (if t.isStatic then [.annotates "static"] else []) ++ [ofFunction t]
    | .enumeration => [.enumeration t.declaredName? t.enumValues]
    | .constant => [named t fun n => .constant n (t.fieldText? .value)]
    | .class => [ofClass t (ofBody cs)]
    | _ => [.other]

def ofStatements : List Tree → List Item
  | [] => []
  | t :: ts => (if t.info.named then ofStatement t else []) ++ ofStatements ts

def ofAnnotations : List Tree → List Item
  | [] => []
  | t :: ts => (if isAnnotating t then ofStatement t else []) ++ ofAnnotations ts

def ofBody : List Tree → List Item
  | [] => []
  | t :: ts => if t.info.field == some .body then ofBlock t else ofBody ts

def ofBlock : Tree → List Item
  | .node _ cs => ofStatements cs

end

end Item

end GodotAtlas.Script
