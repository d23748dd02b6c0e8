namespace GodotAtlas.Script

-- A parameter of a function or signal. Of a default value only its presence is kept.
structure Param where
  name : String
  type : Option String := none
  hasDefault : Bool := false
deriving DecidableEq, Repr

inductive Item where
  | tool
  | className (name : String)
  | «extends» (base : String)
  | signal (name : String) (params : List Param)
  | annotates (name : String)
  | variable (name : String) (type value : Option String)
  | function (name : String) (params : List Param) (returnType : Option String)
  | enumeration (name : Option String) (values : List String)
  | constant (name : String) (value : Option String)
  | «class» (name : String) («extends» : Option String) (body : List Item)
  | other
deriving Repr

-- A failed parse, with the place of the first fault where it is known. Lines and columns count from
-- one.
structure Diagnostic where
  message : String
  line : Option Nat := none
  column : Option Nat := none
deriving DecidableEq, Repr

def Diagnostic.located (message : String) (line column : Nat) : Diagnostic :=
  { message := s!"line {line}, column {column}: {message}", line := some line,
    column := some column }

abbrev Parser := String → Except Diagnostic (List Item)

def unavailable : Parser := fun _ =>
  .error { message := "structural parser unavailable (built without the tree-sitter feature)" }

end GodotAtlas.Script
