import GodotAtlas.Script.Automaton.Table
import GodotAtlas.Script.Recovery.Stack

namespace GodotAtlas.Script.Recovery

open Automaton

structure Contest where
  table : Table
  stack : Stack
  best : Option Fragment := none
  readings : Nat := 0

structure Standing where
  cost : Nat
  fresh : Nat
  isLost : Bool

inductive Verdict where
  | dropSecond | preferFirst | preferSecond | dropFirst

-- Compare two versions: one in the middle of a fault with one that is not, else by cost.
def Standing.compare (a b : Standing) : Verdict :=
  match a.isLost, b.isLost with
  | false, true => if a.cost < b.cost then .dropSecond else .preferFirst
  | true, false => if b.cost < a.cost then .dropFirst else .preferSecond
  | _, _ =>
    if a.cost < b.cost then
      if prices.margin < (b.cost - a.cost) * (1 + a.fresh) then .dropSecond else .preferFirst
    else if b.cost < a.cost then
      if prices.margin < (a.cost - b.cost) * (1 + b.fresh) then .dropFirst else .preferSecond
    else .preferFirst

-- Of two readings of one text the cheaper one counts, and the later one if both have faults.
def supersedes (new old : Fragment) : Bool :=
  new.cost < old.cost || (new.cost = old.cost && 0 < old.cost)

namespace Contest

def maxVersions : Nat := 6

def overflow : Nat := 4

def mapStack (c : Contest) (f : Stack → Stack) : Contest :=
  match c with
  | { table, stack, best, readings } => { table, stack := f stack, best, readings }

def shift (c : Contest) (v : Nat) (f : Fragment) (state : Option Nat) : Contest :=
  c.mapStack fun s => (s.push v f state).update v fun x =>
    { x with surroundings := f.outline.surroundings.or x.surroundings }

def number (c : Contest) (f : Fragment) : Option Nat :=
  f.terminal?.map c.table.grammar.number

def moves (c : Contest) (state : Nat) (ahead : Fragment) : List Move :=
  match c.number ahead with
  | some t => c.table.moves state t
  | none => []

def fits (c : Contest) (state : Nat) (ahead : Fragment) : Bool :=
  !(c.moves state ahead).isEmpty

-- The parts of a production on some ways to a node become one fragment, the cheapest one. The new
-- version is behind the others, unless it comes to what another one has come to and is made one
-- with it.
def foldSlice (table : Table) (p : Production) (v limit : Nat) (s : Stack) (slice : Slice) :
    Stack :=
  let w := s.size
  let top := s.node slice.node
  let role : Role := .rule (table.grammar.names.getD p.left "")
  let state := top.state.bind fun x => table.goto? x p.left
  let made (way : List Fragment) : Fragment × List Fragment :=
    let (parts, extras) := Fragment.splitExtras way
    (.ofParts role parts top.place, extras)
  match slice.ways.map made with
  | [] => s
  | first :: others =>
    if limit < w then s
    else
      let (f, extras) :=
        others.foldl (fun old new => if supersedes new.1 old.1 then new else old) first
      let s := s.add ((s.version v).moved slice.node)
      let s := (f :: extras).foldl (fun s f => s.push w f state) s
      match (List.range w).find? fun x => x ≠ v && s.canMerge x w with
      | some x => s.merge x w
      | none => s

-- Finish a production. The answer also has the first version that is new, if there is one.
def fold (c : Contest) (v : Nat) (production : Nat) : Contest × Option Nat :=
  let table := c.table
  let p := table.grammar.production production
  let size := c.stack.size
  let limit := maxVersions + overflow + (c.stack.versions.filter (·.isHalted)).size
  let slices := c.stack.slices v p.right.size
  let c := c.mapStack fun s => slices.foldl (foldSlice table p v limit) s
  (c, if size < c.stack.size then some size else none)

def take (c : Contest) (whole : Fragment) : Contest :=
  { c with best := if c.best.all (supersedes whole) then some whole else c.best
           readings := c.readings + 1 }

-- The reading of a whole text: the last part that does not stand just anywhere takes in those
-- around it.
def whole? (way : List Fragment) : Option Fragment :=
  let extras := (way.reverse.takeWhile (·.isExtra)).reverse
  (way.take (way.length - extras.length)).getLast?.map fun f =>
    let before := way.take (way.length - extras.length - 1)
    .ofParts f.role (before ++ f.parts ++ extras) f.outline.start

def accept (c : Contest) (v : Nat) (ahead : Fragment) : Contest :=
  let c := c.shift v ahead none
  let c := ((c.stack.wholeWays v).filterMap whole?).foldl take c
  c.mapStack (·.halt v)

def standing (s : Stack) (v : Nat) : Standing :=
  let paused := (s.version v).isPaused
  { cost := s.cost v + if paused then prices.node else 0
    fresh := s.fresh v
    isLost := paused || (s.top v).state.isNone }

-- Whether going on with a version at some cost is pointless. The versions it is compared with keep
-- in mind how many nodes they have.
def isBeaten (c : Contest) (v : Nat) (cost : Nat) : Bool × Contest :=
  if c.best.any (·.cost ≤ cost) then (true, c)
  else
    let s := c.stack.recount v
    let mine : Standing := { cost, fresh := s.fresh v, isLost := false }
    let place := (s.top v).place.bytes
    let rivals := (List.range s.size).filter fun w =>
      w ≠ v && (s.version w).isActive && place ≤ (s.top w).place.bytes
    let (beaten, s) := rivals.foldl (fun (beaten, s) w =>
      if beaten then (true, s)
      else
        let s := s.recount w
        match mine.compare (standing s w) with
        | .dropFirst => (true, s)
        | .preferSecond => (s.canMerge w v, s)
        | _ => (false, s)) (false, s)
    (beaten, { c with stack := s })

end Contest

end GodotAtlas.Script.Recovery
