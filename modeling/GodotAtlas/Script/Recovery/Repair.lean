import GodotAtlas.Script.Recovery.Retreat

namespace GodotAtlas.Script.Recovery

open Automaton

namespace Contest

-- What is open to a state in front of some terminals: whether one of them can be taken, and the
-- productions that can be finished.
def options (c : Contest) (state : Option Nat) (terminals : List Nat) : Bool × List Nat :=
  match state with
  | none => (true, [])
  | some x =>
    terminals.foldl (fun (takes, folds) t =>
      (c.table.moves x t).foldl (fun (takes, folds) move =>
        match move with
        | .shift _ => (true, folds)
        | .fold p =>
          let g := c.table.grammar
          let known := folds.any fun q =>
            (g.production p).left == (g.production q).left
              && (g.production p).right.size == (g.production q).right.size
          (takes, if known || (g.production p).right.isEmpty then folds else folds ++ [p])
        | _ => (takes, folds)) (takes, folds)) (false, [])

-- Finish all productions that can be finished in front of a terminal, or of any. Versions that come
-- up on the way stay where something can be taken. The answer says whether there is such a version.
-- The first number bounds the steps, the second counts them.
def foldAll (first known : Nat) (terminal : Option Nat) (takes : Bool) :
    Nat → Nat → Nat → Contest → Contest × Bool
  | 0, _, _, c => (c, takes)
  | n + 1, i, v, c =>
    let size := c.stack.size
    if size ≤ v then (c, takes)
    else
      match (List.range v).find? fun w => known ≤ w && c.stack.canMerge w v with
      | some w => foldAll first known terminal takes n (i + 1) v (c.mapStack (·.merge w v))
      | none =>
        let terminals := match terminal with
          | some t => [t]
          | none => List.range (c.table.grammar.size - 1)
        let (canTake, folds) := c.options (c.stack.top v).state terminals
        let (c, new) := folds.foldl (fun ((c, _) : Contest × Option Nat) p => c.fold v p) (c, none)
        let next := if v = first then size else v + 1
        if canTake then foldAll first known terminal true n (i + 1) next c
        else
          match new, terminal with
          | some w, _ =>
            if i < maxVersions then
              foldAll first known terminal takes n (i + 1) v (c.mapStack (·.replace w v))
            else if terminal.isSome then
              foldAll first known terminal takes n (i + 1) next (c.mapStack (·.remove v))
            else foldAll first known terminal takes n (i + 1) next c
          | none, some _ =>
            foldAll first known terminal takes n (i + 1) next (c.mapStack (·.remove v))
          | none, none => foldAll first known terminal takes n (i + 1) next c

def foldSteps : Nat := 1000

-- Finish all productions of a version that can be finished in front of a token. The end of the text
-- does not decide between them, so in front of it all are.
def finish (c : Contest) (v : Nat) (ahead : Option Fragment) : Contest × Bool :=
  let terminal := ahead.bind fun f =>
    if f.terminal? = some .endOfText then none else c.number f
  foldAll v c.stack.size terminal false foldSteps 0 v c

-- Whether a terminal may be put in in front of a token. A closing bracket is only put in at the end
-- of the text.
def mayLack (ahead : Fragment) (t : Terminal) : Bool :=
  match t with
  | .comment | .endOfText => false
  | .mark .parenClose | .mark .bracketClose | .mark .braceClose =>
    ahead.terminal? = some .endOfText
  | _ => true

-- Put a terminal in behind a version, if that ends something in front of a token. The answer says
-- whether the token fits in the end.
def putIn (c : Contest) (v state : Nat) (ahead : Fragment) (t : Terminal) : Contest × Bool :=
  let next? := (c.table.moves state (c.table.grammar.number t)).getLast?.bind (·.target?)
  match next?, next?.map (c.moves · ahead) with
  | some next, some (.fold _ :: _) =>
    if next = state then (c, false)
    else
      let s := c.stack
      let w := s.size
      let s := s.add { s.version v with refuges := [] }
      { c with stack := s.push w (.missing t (s.top w).place) (some next) }.finish w (some ahead)
  | _, _ => (c, false)

def repair (v state : Nat) (ahead : Fragment) : Contest → List Terminal → Contest × Bool
  | c, [] => (c, false)
  | c, t :: ts =>
    match c.putIn v state ahead t with
    | (c, true) => (c, true)
    | (c, false) => repair v state ahead c ts

-- Let some versions get lost; with the first one where that is possible a token is put in.
def loseAll (ahead : Fragment) : (repaired : Bool) → Contest → List Nat → Contest
  | _, c, [] => c
  | repaired, c, v :: vs =>
    let (c, repaired) := match repaired, (c.stack.top v).state with
      | false, some state =>
        c.repair v state ahead (c.table.grammar.terminals.toList.filter (mayLack ahead))
      | _, _ => (c, repaired)
    loseAll ahead repaired (c.mapStack (·.lose v)) vs

-- A version in front of a token that does not fit goes on: all that can be finished is, and it gets
-- lost in all states that it can come to.
def handle (c : Contest) (v : Nat) (ahead : Fragment) : Contest :=
  let known := c.stack.size
  let (c, _) := c.finish v none
  let size := c.stack.size
  let new := (List.range size).filter (known ≤ ·)
  let c := loseAll ahead false c (v :: new)
  let s := new.foldl (fun s _ => if s.canMerge v known then s.merge v known else s) c.stack
  let s := s.update v ({ · with refuges := s.refuges v })
  { c with stack := s }.recover v ahead

end Contest

end GodotAtlas.Script.Recovery
