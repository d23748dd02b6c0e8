import GodotAtlas.Script.Automaton.Productions
import Std.Data.HashMap

namespace GodotAtlas.Script.Automaton

inductive Move where
  | shift (state : Nat)
  -- Take the terminal as part of a further item; to finish the list first comes to the same.
  | shiftItem (state : Nat)
  | fold (production : Nat)
  | accept
deriving DecidableEq, Repr

def Move.target? : Move → Option Nat
  | .shift s | .shiftItem s => some s
  | _ => none

structure Place where
  production : Nat
  dot : Nat
deriving DecidableEq, Repr, Hashable

-- Places in front of which something was read, in order, with what may follow their productions.
abbrev Kernel := List (Place × TerminalSet)

def Place.before (a b : Place) : Bool :=
  a.production < b.production || (a.production == b.production && a.dot < b.dot)

def Kernel.add (place : Place) (set : TerminalSet) : Kernel → Kernel
  | [] => [(place, set)]
  | (q, old) :: rest =>
    if place = q then (q, old ||| set) :: rest
    else if place.before q then (place, set) :: (q, old) :: rest
    else (q, old) :: Kernel.add place set rest

structure Row where
  moves : Array (List Move)
  gotos : Array (Option Nat)
deriving Inhabited

namespace Grammar

def symbol? (g : Grammar) (place : Place) : Option Nat :=
  (g.production place.production).right[place.dot]?

def alike (g : Grammar) (dot : Nat) (p q : Nat) : Bool :=
  let a := g.production p
  let b := g.production q
  a.left == b.left && a.right.size == b.right.size && a.level == b.level && a.side == b.side
    && a.right.extract dot a.right.size == b.right.extract dot b.right.size

def representatives (g : Grammar) : Array (Array Nat) :=
  (Array.range g.productions.size).map fun p =>
    (Array.range ((g.production p).right.size + 1)).map fun dot =>
      ((g.ofRule.getD (g.production p).left []).find? (g.alike dot p)).getD p

def closure (g : Grammar) (kernel : Kernel) : Array TerminalSet :=
  kernel.foldl (fun sets (place, set) =>
    match g.symbol? place with
    | none => sets
    | some s =>
      if s < g.size then sets
      else
        let follow := match g.symbol? { place with dot := place.dot + 1 } with
          | none => set
          | some next => g.starts next
        (g.opens.getD (s - g.size) []).foldl (fun sets (rule, opens) =>
          let set := if opens.testBit g.size then (opens ^^^ g.context) ||| follow else opens
          sets.modify rule (· ||| set)) sets)
    (Array.replicate g.names.size 0)

-- All places of a state: those of its kernel, and the starts of the productions behind them.
def places (g : Grammar) (kernel : Kernel) : List (Place × TerminalSet) :=
  let opened := (g.closure kernel).toList.zipIdx.flatMap fun (set, rule) =>
    if set = 0 then []
    else (g.ofRule.getD rule []).map fun p => (({ production := p, dot := 0 } : Place), set)
  kernel ++ opened

def successors (g : Grammar) (representatives : Array (Array Nat))
    (places : List (Place × TerminalSet)) : Array Kernel :=
  places.foldl (fun kernels (place, set) =>
    match g.symbol? place with
    | none => kernels
    | some s =>
      let dot := place.dot + 1
      let production := (representatives.getD place.production #[]).getD dot place.production
      kernels.modify s (Kernel.add { production, dot } set))
    (Array.replicate (g.size + g.names.size) [])

-- Whether reading on is to be preferred to finishing productions of some level. Reading on counts
-- at the level of each production that goes on.
def prefers (level : Int) (sides : List (Option Side)) (goingOn : List Production) : Option Bool :=
  let more := goingOn.any (level < ·.level)
  let less := goingOn.any (·.level < level)
  match more, less with
  | true, false => some true
  | false, true => some false
  | true, true => none
  | false, false =>
    if sides.all (· == some .left) then some false
    else if sides.all (· == some .right) then some true
    else none

-- The moves in front of a terminal. Of productions that can be finished those of the highest level
-- are. If the terminal can be taken as well, levels decide; in a list, both come to the same.
def moves (g : Grammar) (kernel places : List (Place × TerminalSet)) (t : Nat)
    (shift : Option Nat) : List Move :=
  let finished := (places.filter fun (place, set) =>
    set.testBit t && (g.symbol? place).isNone).map fun (place, _) => place.production
  let level := ((finished.map fun p => (g.production p).level).max?).getD 0
  let best := finished.filter fun p => (g.production p).level == level
  let folds := best.map fun p =>
    if (g.production p).left + 1 = g.names.size then Move.accept else .fold p
  match shift with
  | none => folds
  | some s =>
    if finished.isEmpty then [.shift s]
    else
      let goingOn := (kernel.filter fun (place, _) =>
        place.dot ≠ 0 && (g.symbol? place).any fun s => (g.starts s).testBit t).map
          fun (place, _) => g.production place.production
      let lefts := (goingOn.map (·.left) ++ finished.map fun p => (g.production p).left).eraseDups
      let inList := match lefts with
        | [left] => g.isList left
        | _ => false
      if inList then folds ++ [.shiftItem s]
      else
        match prefers level (best.map fun p => (g.production p).side) goingOn with
        | some true => [.shift s]
        | some false => folds
        | none => folds ++ [.shift s]

end Grammar

structure Collection where
  kernels : Array Kernel := #[]
  index : Std.HashMap Kernel Nat := {}
  rows : Array Row := #[]

namespace Collection

def state (c : Collection) (kernel : Kernel) : Nat × Collection :=
  match c.index[kernel]? with
  | some s => (s, c)
  | none =>
    let s := c.kernels.size
    (s, { c with kernels := c.kernels.push kernel, index := c.index.insert kernel s })

def targets (kernels : Array Kernel) (c : Collection) (symbols : List Nat) :
    Array (Option Nat) × Collection :=
  symbols.foldl (fun (targets, c) symbol =>
    match kernels.getD symbol [] with
    | [] => (targets, c)
    | kernel =>
      let (s, c) := c.state kernel
      (targets.modify symbol fun _ => some s, c))
    (Array.replicate kernels.size none, c)

-- Work out the moves of the states one after the other. The number bounds how many there are.
def explore (g : Grammar) (representatives : Array (Array Nat)) (order : List Nat) :
    Nat → Collection → Collection
  | 0, c => c
  | n + 1, c =>
    match c.kernels[c.rows.size]? with
    | none => c
    | some kernel =>
      let places := g.places kernel
      let (targets, c) := targets (g.successors representatives places) c order
      let complete := places.filter fun (place, _) => (g.symbol? place).isNone
      let moves := (Array.range g.size).map fun t =>
        g.moves kernel complete t (targets.getD t none)
      explore g representatives order n
        { c with rows := c.rows.push { moves, gotos := targets.extract g.size targets.size } }

end Collection

-- The order in which the symbols behind a state are looked at: layout, the end, text, rules.
def Grammar.symbolOrder (g : Grammar) : List Nat :=
  (layoutTerminals ++ Terminal.endOfText :: textTerminals).map g.number
    ++ (List.range g.names.size).map (g.size + ·)

def Collection.limit : Nat := 10000

def Grammar.states (g : Grammar) : Collection :=
  let start : Place := { production := g.productions.size - 1, dot := 0 }
  let (_, c) := Collection.state {} [(start, g.setOf [.endOfText])]
  .explore g g.representatives g.symbolOrder Collection.limit c

end GodotAtlas.Script.Automaton
