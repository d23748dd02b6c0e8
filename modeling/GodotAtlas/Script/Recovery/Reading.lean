import GodotAtlas.Script.Recovery.Ranking
import GodotAtlas.Script.Recovery.Scan

namespace GodotAtlas.Script.Recovery

open Automaton

namespace Contest

-- Settle what becomes of a version in front of a token. The number bounds how many productions are
-- finished.
def react : Nat → Contest → Nat → Fragment → Contest
  | 0, c, v, _ => c.mapStack (·.halt v)
  | n + 1, c, v, ahead =>
    let state := (c.stack.top v).state
    if ahead.terminal? = some .comment then c.shift v ahead.asExtra state
    else
      match state with
      | none => c.recover v ahead
      | some x =>
        match c.moves x ahead with
        | .shift next :: _ | .shiftItem next :: _ => c.shift v ahead (some next)
        | .fold p :: _ =>
          match c.fold v p with
          | (c, some w) => react n (c.mapStack (·.replace w v)) v ahead
          | (c, none) => c.mapStack (·.halt v)
        | .accept :: _ => c.accept v ahead
        | [] =>
          match ahead.terminal? with
          | some (.keyword _) =>
            if c.fits x ahead.asName then react n c v ahead.asName
            else c.mapStack (·.pause v ahead)
          | _ => c.mapStack (·.pause v ahead)

def advance (c : Contest) (v : Nat) : Contest :=
  let table := c.table
  let top := c.stack.top v
  let fits (t : Terminal) : Bool :=
    match top.state with
    | none => true
    | some x => !(table.moves x (table.grammar.number t)).isEmpty
  let outlook : Outlook :=
    { fits, lost := top.state.isNone, advanced := c.stack.hasAdvanced v
      surroundings := (c.stack.version v).surroundings }
  react (8 * (c.stack.nodes.size + 8)) c v (outlook.next top.place)

-- Step a version until it has passed the farthest place, or reached it if it is not the first. The
-- number bounds the steps.
def drive (v : Nat) : Nat → (farthest : Nat) → Contest → Contest × Nat
  | 0, farthest, c => (c.mapStack (·.halt v), farthest)
  | n + 1, farthest, c =>
    if !(c.stack.version v).isActive then (c, farthest)
    else
      let c := c.advance v
      let place := (c.stack.top v).place.bytes
      if farthest < place || (v ≠ 0 && place = farthest) then (c, place)
      else drive v n farthest c

-- Step all versions from one on; those that come up on the way are stepped too. The number bounds
-- how many there are.
def driveAll (steps : Nat) : Nat → (v : Nat) → (farthest : Nat) → Contest → Contest × Nat
  | 0, _, farthest, c => (c, farthest)
  | n + 1, v, farthest, c =>
    if c.stack.size ≤ v then (c, farthest)
    else
      let (c, farthest) := drive v steps farthest c
      driveAll steps n (v + 1) farthest c

-- Go on until the best reading of the whole text is better than all that the versions can come to.
-- The number bounds the rounds.
def run (steps : Nat) : Nat → (farthest : Nat) → Contest → Contest
  | 0, _, c => c
  | n + 1, farthest, c =>
    let (c, farthest) := driveAll steps (4 * maxVersions) 0 farthest c
    let (c, least) := c.condense
    let decided := c.best.any fun f => least.all (f.cost < ·)
    if decided || c.stack.size = 0 then c else run steps n farthest c

end Contest

def faultTree (cs : List Char) : Tree :=
  .node { kind := .error, text := String.ofList cs } []

def recover (cs : List Char) : Tree :=
  let table := scriptTable.get
  let steps := 8 * (cs.length + 256)
  let c := Contest.run steps steps 0 { table, stack := .start table.start cs }
  match c.best.bind (·.tree?) with
  | some t => if t.hasError then t else faultTree cs
  | none => faultTree cs

end GodotAtlas.Script.Recovery
