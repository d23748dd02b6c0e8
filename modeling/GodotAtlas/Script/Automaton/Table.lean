import GodotAtlas.Script.Automaton.States

namespace GodotAtlas.Script.Automaton

structure Partition where
  groups : Array (List Nat)
  ofState : Array Nat

namespace Partition

def group (p : Partition) (state : Nat) : Nat :=
  p.ofState.getD state 0

def detach (p : Partition) (old : Nat) (kept detached : List Nat) : Partition :=
  let new := p.groups.size
  { groups := (p.groups.modify old fun _ => kept).push detached
    ofState := detached.foldl (fun ofState s => ofState.modify s fun _ => new) p.ofState }

-- The states that can stay together with those before them, and those that have to go.
def sift (apart : Nat → Nat → Bool) : List Nat → List Nat × List Nat
  | [] => ([], [])
  | s :: rest =>
    let gone := rest.filter (apart s)
    let (kept, more) := sift apart (rest.filter fun r => !apart s r)
    (s :: kept, gone ++ more)
termination_by states => states.length
decreasing_by
  simp only [List.length_unattach, List.length_cons]
  exact Nat.lt_succ_of_le
    (Nat.le_trans (List.length_filter_le _ _) (Nat.le_of_eq List.length_attach))

-- Split the groups from one on as far as needed; the number bounds how many there are.
def split (apart : Partition → Nat → Nat → Bool) : Nat → Nat → Partition → Partition
  | 0, _, p => p
  | n + 1, i, p =>
    match p.groups[i]? with
    | none => p
    | some states =>
      match sift (apart p) states with
      | (_, []) => split apart n (i + 1) p
      | (kept, gone) => split apart n (i + 1) (p.detach i kept gone)

def splitAll (apart : Partition → Nat → Nat → Bool) (bound : Nat) : Nat → Partition → Partition
  | 0, p => p
  | n + 1, p =>
    let next := split apart bound 0 p
    if next.groups.size = p.groups.size then p else splitAll apart bound n next

def ofKernels (kernels : Array Kernel) : Partition :=
  let (_, p) := kernels.toList.zipIdx.foldl
    (fun ((index, p) : Std.HashMap (List Place) Nat × Partition) (kernel, s) =>
      let core := kernel.map (·.1)
      match index[core]? with
      | some i =>
        (index, { groups := p.groups.modify i (s :: ·), ofState := p.ofState.push i })
      | none =>
        let i := p.groups.size
        (index.insert core i, { groups := p.groups.push [s], ofState := p.ofState.push i }))
    ({}, { groups := #[], ofState := #[] })
  { p with groups := p.groups.map (·.reverse) }

end Partition

-- Terminals that a state has to know from the start, because they depend on what stands around
-- them.
def sensitiveTerminals : List Terminal :=
  layoutTerminals
    ++ [.mark .parenClose, .mark .bracketClose, .mark .braceClose, .mark .comma]

def overlaps : List (Terminal × Terminal) :=
  [(.mark .colonEq, .mark .colon), (.mark .ampAmp, .mark .amp), (.nodeReference, .mark .percent),
   (.float, .integer), (.keyword .className, .keyword .class),
   (.keyword .remotesync, .keyword .remote), (.keyword .mastersync, .keyword .master),
   (.keyword .puppetsync, .keyword .puppet)]

namespace Grammar

def sameMove (g : Grammar) (p : Partition) : Move → Move → Bool
  | .shift s, .shift t => p.group s == p.group t
  | .shiftItem s, .shiftItem t => p.group s == p.group t
  | .fold a, .fold b =>
    (g.production a).left == (g.production b).left
      && (g.production a).right.size == (g.production b).right.size
  | .accept, .accept => true
  | _, _ => false

def sameMoves (g : Grammar) (p : Partition) : List Move → List Move → Bool
  | [], [] => true
  | a :: as, b :: bs => g.sameMove p a b && sameMoves g p as bs
  | _, _ => false

def known (row : Row) : TerminalSet :=
  row.moves.toList.zipIdx.foldl
    (fun set (moves, t) => if moves.isEmpty then set else set ||| 1 <<< t) 0

def conflict (g : Grammar) (rows : Array Row) (sets : Array TerminalSet)
    (sensitive : TerminalSet) (overlaps : List (Nat × Nat)) (p : Partition) (s t : Nat) : Bool :=
  let a := sets.getD s 0
  let b := sets.getD t 0
  let mistaken := overlaps.any fun (long, short) =>
    (a.testBit long && !b.testBit long && b.testBit short)
      || (b.testBit long && !a.testBit long && a.testBit short)
  (a ^^^ b) &&& sensitive ≠ 0 || mistaken
    || ((rows.getD s default).moves.zip (rows.getD t default).moves).any fun (as, bs) =>
      !as.isEmpty && !bs.isEmpty && !g.sameMoves p as bs

def diverge (rows : Array Row) (p : Partition) (s t : Nat) : Bool :=
  let a := rows.getD s default
  let b := rows.getD t default
  let differ : Option Nat → Option Nat → Bool
    | some x, some y => p.group x != p.group y
    | _, _ => false
  let taken (moves : List Move) : Option Nat := moves.getLast?.bind (·.target?)
  ((a.moves.zip b.moves).any fun (as, bs) => differ (taken as) (taken bs))
    || ((a.gotos.zip b.gotos).any fun (x, y) => differ x y)

def partition (g : Grammar) (c : Collection) : Partition :=
  let count := c.rows.size + 1
  let conflict := g.conflict c.rows (c.rows.map known) (g.setOf sensitiveTerminals)
    (overlaps.map fun (long, short) => (g.number long, g.number short))
  let p := (Partition.ofKernels c.kernels).split conflict count 0
  p.splitAll (diverge c.rows) count count

end Grammar

namespace Row

def merge (p : Partition) (row : Row) : Row :=
  { moves := row.moves.map fun moves => moves.map fun
      | .shift s => .shift (p.group s)
      | .shiftItem s => .shiftItem (p.group s)
      | m => m
    gotos := row.gotos.map fun s => s.map p.group }

def join (a b : Row) : Row :=
  { moves := (a.moves.zip b.moves).map fun (as, bs) => if bs.isEmpty then as else bs
    gotos := (a.gotos.zip b.gotos).map fun (x, y) => y.or x }

end Row

structure Table where
  grammar : Grammar
  rows : Array Row
  start : Nat

namespace Table

def build (g : Grammar) : Table :=
  let c := g.states
  let p := g.partition c
  let row (states : List Nat) : Row :=
    match states.map fun s => (c.rows.getD s default).merge p with
    | [] => default
    | r :: rs => rs.foldl Row.join r
  { grammar := g, rows := p.groups.map row, start := p.group 0 }

def moves (t : Table) (state terminal : Nat) : List Move :=
  ((t.rows.getD state default).moves.getD terminal [])

def goto? (t : Table) (state rule : Nat) : Option Nat :=
  (t.rows.getD state default).gotos.getD rule none

end Table

def scriptTable : Thunk Table :=
  .mk fun _ => .build (scriptGrammar ())

end GodotAtlas.Script.Automaton
