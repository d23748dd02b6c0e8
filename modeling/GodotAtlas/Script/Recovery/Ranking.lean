import GodotAtlas.Script.Recovery.Repair

namespace GodotAtlas.Script.Recovery

namespace Contest

-- Compare a version with those from another one on in front of it. The answer is the stack, and the
-- version to go on with.
def place (mine : Standing) : Nat → Stack → (i j : Nat) → Stack × Nat
  | 0, s, i, _ => (s, i + 1)
  | n + 1, s, i, j =>
    if i ≤ j then (s, i + 1)
    else
      let s := s.recount j
      match (standing s j).compare mine with
      | .dropSecond => (s.remove i, i)
      | .preferFirst =>
        if s.canMerge j i then (s.merge j i, i) else place mine n s i (j + 1)
      | .preferSecond =>
        if s.canMerge j i then (s.merge j i, i) else place mine n (s.swap i j) i (j + 1)
      | .dropFirst => place mine n (s.remove j) (i - 1) j

-- Drop versions that are given up or clearly worse than others, and put the rest in order. The
-- answer also has the least cost of a version that is not lost.
def sort : Nat → Stack → (i : Nat) → (least : Option Nat) → Stack × Option Nat
  | 0, s, _, least => (s, least)
  | n + 1, s, i, least =>
    if s.size ≤ i then (s, least)
    else if (s.version i).isHalted then sort n (s.remove i) i least
    else
      let s := s.recount i
      let mine := standing s i
      let least := if mine.isLost then least
        else some (match least with
          | some x => min x mine.cost
          | none => mine.cost)
      let (s, next) := place mine (s.size + 1) s i 0
      sort n s next least

def resume : Nat → (i count : Nat) → (going : Bool) → (least : Option Nat) → Contest →
    Contest × Option Nat
  | 0, _, _, _, least, c => (c, least)
  | n + 1, i, count, going, least, c =>
    if count ≤ i then (c, least)
    else
      match (c.stack.version i).mode with
      | .paused ahead =>
        if !going && c.readings < maxVersions then
          let least := some (c.stack.cost i)
          let c := (c.mapStack (·.setMode i .active)).handle i ahead
          resume n (i + 1) count true least c
        else resume n i (count - 1) going least (c.mapStack (·.remove i))
      | _ => resume n (i + 1) count true least c

def condense (c : Contest) : Contest × Option Nat :=
  let (s, least) := sort (2 * c.stack.size + 1) c.stack 0 none
  let s := { s with versions := s.versions.take maxVersions }
  resume (s.size + 1) 0 s.size false least { c with stack := s }

end Contest

end GodotAtlas.Script.Recovery
