import GodotAtlas.Script.Item
import GodotAtlas.Symbols.Expression
import GodotAtlas.Symbols.Table

namespace GodotAtlas.Symbols

open Script (Item Param)

inductive Marker where
  | other | static | deferred | exported
deriving DecidableEq, Repr

namespace Marker

def rank : Marker → Nat
  | other => 0
  | static => 1
  | deferred => 2
  | exported => 3

def ofName (name : String) : Marker :=
  if "export".toList.isPrefixOf name.toList then exported
  else if name = "onready" then deferred
  else if name = "static" then static
  else other

def add (pending : Option Marker) (m : Marker) : Option Marker :=
  match pending with
  | none => some m
  | some p => if p.rank ≤ m.rank then some m else some p

end Marker

def parameterOf (p : Param) : Parameter :=
  { name := p.name, type := p.type }

def propertySummary (pending : Option Marker) (p : Property) : Summary :=
  match pending with
  | some .exported => { members := { exported := [p] } }
  | some .deferred => { members := { deferred := [p] } }
  | _ => { members := { plain := [p] } }

def functionSummary (pending : Option Marker) (name : String) (params : List Param)
    (returnType : Option String) : Summary :=
  let params := params.map parameterOf
  if pending = some .static then
    { members := { staticFunctions := [{ name, params, returnType, isStatic := true }] } }
  else { members := { functions := [{ name, params, returnType, isStatic := false }] } }

def constantValue (value : Option String) : Option String :=
  (value.map cleanExpr).filter (!·.isEmpty)

def pendingAfter (pending : Option Marker) : Item → Option Marker
  | .annotates name => Marker.add pending (.ofName name)
  | _ => none

mutual

def itemSummary (pending : Option Marker) : Item → Summary
  | .annotates _ | .other => {}
  | .tool => { isTool := true }
  | .className name => { className := some name }
  | .extends base => { base := some base }
  | .signal name params =>
    { members := { signals := [{ name, params := params.map parameterOf }] } }
  | .variable name type value =>
    propertySummary pending { name, type, default := value.map cleanExpr }
  | .function name params returnType => functionSummary pending name params returnType
  | .enumeration name values => { members := { enums := [{ name, values }] } }
  | .constant name value => { members := { constants := [{ name, value := constantValue value }] } }
  | .class name ext body =>
    let inner := walk none body
    { innerTypes := [.mk name (inner.base.or ext) inner.members inner.innerTypes] }

def walk (pending : Option Marker) : List Item → Summary
  | [] => {}
  | item :: items => (itemSummary pending item).merge (walk (pendingAfter pending item) items)

end

end GodotAtlas.Symbols
