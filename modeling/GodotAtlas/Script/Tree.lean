namespace GodotAtlas.Script

-- What a node of a syntax tree stands for. Kinds that no later step looks at are `other`.
inductive Kind where
  | source | comment | body
  | tool | className | «extends» | signal | annotations | annotates
  | variable | exportVariable | onreadyVariable | constant
  | function | constructor | enumeration | enumerators | enumerator | «class»
  | parameters | typedParameter | defaultParameter | typedDefaultParameter
  | name | identifier | type | inferredType | staticKeyword
  | attribute | subscript | call | operation | parenthesized | integer | string
  | error
  | other (label : String)
deriving DecidableEq, Repr

def Kind.label : Kind → String
  | .source => "source"
  | .comment => "comment"
  | .body => "body"
  | .tool => "tool_statement"
  | .className => "class_name_statement"
  | .extends => "extends_statement"
  | .signal => "signal_statement"
  | .annotations => "annotations"
  | .annotates => "annotation"
  | .variable => "variable_statement"
  | .exportVariable => "export_variable_statement"
  | .onreadyVariable => "onready_variable_statement"
  | .constant => "const_statement"
  | .function => "function_definition"
  | .constructor => "constructor_definition"
  | .enumeration => "enum_definition"
  | .enumerators => "enumerator_list"
  | .enumerator => "enumerator"
  | .class => "class_definition"
  | .parameters => "parameters"
  | .typedParameter => "typed_parameter"
  | .defaultParameter => "default_parameter"
  | .typedDefaultParameter => "typed_default_parameter"
  | .name => "name"
  | .identifier => "identifier"
  | .type => "type"
  | .inferredType => "inferred_type"
  | .staticKeyword => "static_keyword"
  | .attribute => "attribute"
  | .subscript => "subscript"
  | .call => "call"
  | .operation => "binary_operator"
  | .parenthesized => "parenthesized_expression"
  | .integer => "integer"
  | .string => "string"
  | .error => "ERROR"
  | .other label => label

inductive Field where
  | name | type | value | parameters | returnType | «extends» | body | left
deriving DecidableEq, Repr

structure Info where
  kind : Kind
  named : Bool := true
  field : Option Field := none
  text : String := ""
  line : Nat := 0
  column : Nat := 0
  missing : Bool := false
  -- Set on a node in which a line end or a name is not there; such a token has no node.
  incomplete : Bool := false
deriving DecidableEq, Repr

inductive Tree where
  | node (info : Info) (children : List Tree)
deriving Repr

namespace Tree

def info : Tree → Info
  | node i _ => i

def children : Tree → List Tree
  | node _ cs => cs

def kind (t : Tree) : Kind :=
  t.info.kind

def labelled (f : Field) : Tree → Tree
  | node i cs => node { i with field := some f } cs

def namedChildren (t : Tree) : List Tree :=
  t.children.filter (·.info.named)

def child? (t : Tree) (f : Field) : Option Tree :=
  t.children.find? (·.info.field == some f)

-- A node that records a fault: text that fits nowhere, or a token that is not there.
def flagged (t : Tree) : Bool :=
  t.kind == .error || t.info.missing

mutual

def size : Tree → Nat
  | node _ ts => sizes ts + 1

def sizes : List Tree → Nat
  | [] => 0
  | t :: ts => size t + sizes ts

end

theorem size_pos (t : Tree) : 0 < t.size := by
  cases t; simp [size]

mutual

def hasError : Tree → Bool
  | node i cs => i.kind == .error || i.missing || i.incomplete || anyHasError cs

def anyHasError : List Tree → Bool
  | [] => false
  | t :: ts => hasError t || anyHasError ts

end

mutual

def innermostError : Tree → Tree
  | t@(node _ cs) => (innermostErrorIn cs).getD t

def innermostErrorIn : List Tree → Option Tree
  | [] => none
  | t :: ts => if hasError t then some (innermostError t) else innermostErrorIn ts

end

end Tree

end GodotAtlas.Script
