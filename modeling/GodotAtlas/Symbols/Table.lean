namespace GodotAtlas.Symbols

structure Parameter where
  name : String
  type : Option String := none
deriving DecidableEq, Repr

structure Signal where
  name : String
  params : List Parameter
deriving DecidableEq, Repr

structure Enumeration where
  name : Option String
  values : List String
deriving DecidableEq, Repr

structure Constant where
  name : String
  value : Option String
deriving DecidableEq, Repr

structure Property where
  name : String
  type : Option String
  default : Option String
deriving DecidableEq, Repr

structure Function where
  name : String
  params : List Parameter
  returnType : Option String
  isStatic : Bool
deriving DecidableEq, Repr

structure Members where
  signals : List Signal := []
  enums : List Enumeration := []
  constants : List Constant := []
  exported : List Property := []
  deferred : List Property := []
  plain : List Property := []
  functions : List Function := []
  staticFunctions : List Function := []
deriving DecidableEq, Repr

namespace Members

def append (a b : Members) : Members where
  signals := a.signals ++ b.signals
  enums := a.enums ++ b.enums
  constants := a.constants ++ b.constants
  exported := a.exported ++ b.exported
  deferred := a.deferred ++ b.deferred
  plain := a.plain ++ b.plain
  functions := a.functions ++ b.functions
  staticFunctions := a.staticFunctions ++ b.staticFunctions

def allFunctions (m : Members) : List Function :=
  m.functions ++ m.staticFunctions

def propertyCount (m : Members) : Nat :=
  m.exported.length + m.deferred.length + m.plain.length

end Members

inductive InnerType where
  | mk (name : String) (base : Option String) (members : Members) (innerTypes : List InnerType)
deriving Repr

namespace InnerType

def name : InnerType → String
  | mk n _ _ _ => n

def base : InnerType → Option String
  | mk _ b _ _ => b

def members : InnerType → Members
  | mk _ _ m _ => m

def innerTypes : InnerType → List InnerType
  | mk _ _ _ ts => ts

end InnerType

structure Summary where
  className : Option String := none
  base : Option String := none
  isTool : Bool := false
  members : Members := {}
  innerTypes : List InnerType := []
deriving Repr

namespace Summary

-- Two pieces of source that follow one another: the first class name and the last base count.
def merge (a b : Summary) : Summary where
  className := a.className.or b.className
  base := b.base.or a.base
  isTool := a.isTool || b.isTool
  members := a.members.append b.members
  innerTypes := a.innerTypes ++ b.innerTypes

def mergeAll : List Summary → Summary
  | [] => {}
  | s :: ss => s.merge (mergeAll ss)

end Summary

structure Table where
  path : String
  summary : Summary := {}
  dependencies : List String := []
  diagnostic : Option String := none
deriving Repr

namespace Table

def className (t : Table) : Option String :=
  t.summary.className

def base (t : Table) : Option String :=
  t.summary.base

def members (t : Table) : Members :=
  t.summary.members

def isDegraded (t : Table) : Bool :=
  t.diagnostic.isSome

end Table

def formatParams (ps : List Parameter) : String :=
  ", ".intercalate (ps.map fun p =>
    match p.type with
    | some t => p.name ++ ": " ++ t
    | none => p.name)

end GodotAtlas.Symbols
