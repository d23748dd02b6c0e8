import GodotAtlas.Script.Lexeme
import GodotAtlas.Script.Tree
import GodotAtlas.Total

namespace GodotAtlas.Script.Recovery

structure Prices where
  fault : Nat
  missing : Nat
  node : Nat
  line : Nat
  -- An advantage that is decisive, for each node that was read since the last fault.
  margin : Nat

def prices : Prices :=
  { fault := 500, missing := 110, node := 100, line := 30, margin := 1800 }

def Prices.span (p : Prices) (start stop : Cursor) : Nat :=
  stop.bytes - start.bytes + p.line * (stop.line - start.line)

structure Surroundings where
  blocks : Blocks := [0]
  quotes : List Quotation := []
deriving DecidableEq, Repr

namespace Surroundings

def limit : Nat := 1024

def deepen (s : Surroundings) (indent : Nat) : Surroundings :=
  if s.blocks.length + s.quotes.length < limit then { s with blocks := s.blocks.deepen indent }
  else s

def quoteLimit : Nat := 255

def quote (s : Surroundings) (q : Quotation) : Surroundings :=
  if s.quotes.length < quoteLimit then { s with quotes := q :: s.quotes } else s

end Surroundings

inductive Role where
  | token (t : Terminal)
  | rule (name : String)
  | fault
  | skipped
deriving DecidableEq, Repr

def Role.isHidden : Role → Bool
  | token t => t.isHidden
  | rule name => name.startsWith "_"
  | fault => false
  | skipped => true

def Role.isFaulty : Role → Bool
  | fault | skipped => true
  | _ => false

structure Outline where
  role : Role
  start : Cursor
  stop : Cursor
  isExtra : Bool := false
  isMissing : Bool := false
  cost : Nat := 0
  children : Nat := 0
  descendants : Nat := 0
  surroundings : Option Surroundings := none
  opensOrCloses : Bool := false

inductive Fragment where
  | mk (outline : Outline) (parts : List Fragment)

namespace Fragment

def outline : Fragment → Outline
  | mk o _ => o

def parts : Fragment → List Fragment
  | mk _ ps => ps

def role (f : Fragment) : Role :=
  f.outline.role

def isExtra (f : Fragment) : Bool :=
  f.outline.isExtra

def cost (f : Fragment) : Nat :=
  f.outline.cost

def terminal? (f : Fragment) : Option Terminal :=
  match f.role with
  | .token t => some t
  | _ => none

def leaf (o : Outline) : Fragment :=
  mk o []

def missing (t : Terminal) (place : Cursor) : Fragment :=
  leaf { role := .token t, start := place, stop := place, isMissing := true
         cost := prices.fault + prices.missing }

def asExtra : Fragment → Fragment
  | mk o ps => mk { o with isExtra := true } ps

def asName : Fragment → Fragment
  | mk o ps => mk { o with role := .token .name } ps

def weight (f : Fragment) : Nat :=
  f.outline.descendants + (if f.role.isHidden then 0 else 1)
    + if f.role = .skipped then 1 else 0

def visible (f : Fragment) : Nat :=
  if f.role.isHidden then f.outline.children else 1

-- What a part costs inside a fault, its own faults apart. Comments and unknown text are free.
def skipCost (f : Fragment) : Nat :=
  if f.isExtra || (f.role = .fault && f.parts.isEmpty) then 0 else prices.node * f.visible

def ofParts (role : Role) (parts : List Fragment) (place : Cursor) : Fragment :=
  let start := (parts.head?.map (·.outline.start)).getD place
  let stop := (parts.getLast?.map (·.outline.stop)).getD place
  let inner := total (parts.map fun p => if p.role = .skipped then 0 else p.cost)
  let own :=
    if role.isFaulty then
      total (parts.map skipCost) + prices.fault + prices.span start stop
    else 0
  mk { role, start, stop, cost := inner + own
       children := total (parts.map visible)
       descendants := total (parts.map fun p =>
         p.outline.descendants + if p.role.isHidden then 0 else 1) } parts

def splitExtras (fs : List Fragment) : List Fragment × List Fragment :=
  let extras := (fs.reverse.takeWhile isExtra).reverse
  (fs.take (fs.length - extras.length), extras)

def kind (f : Fragment) : Kind :=
  match f.role with
  | .token t => .other t.label
  | .rule name => .other name
  | .fault | .skipped => .error

def node (o : Outline) (kind : Kind) (children : List Tree) (incomplete : Bool) : Tree :=
  .node { kind, line := o.start.line, column := o.start.column, missing := o.isMissing, incomplete
          text := if kind = .error then o.start.textTo o.stop else "" } children

mutual

-- Put the nodes of a fragment in front of others. A hidden token that is missing leaves no node;
-- the flag says that there is one.
def addTrees : Fragment → List Tree × Bool → List Tree × Bool
  | mk o ps, (ts, incomplete) =>
    if o.role.isHidden then
      if o.isMissing then (ts, true) else addAllTrees ps (ts, incomplete)
    else
      let (children, lacks) := addAllTrees ps ([], false)
      (node o (kind (mk o ps)) children lacks :: ts, incomplete)

def addAllTrees : List Fragment → List Tree × Bool → List Tree × Bool
  | [], acc => acc
  | f :: fs, acc => addTrees f (addAllTrees fs acc)

end

def tree? (f : Fragment) : Option Tree :=
  (addTrees f ([], false)).1.head?

end Fragment

end GodotAtlas.Script.Recovery
