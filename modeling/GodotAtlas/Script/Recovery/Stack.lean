import GodotAtlas.Script.Recovery.Fragment

namespace GodotAtlas.Script.Recovery

-- A way to a node: from another node over a fragment. There is no fragment where reading gets lost.
structure Link where
  before : Nat
  fragment : Option Fragment

structure Node where
  state : Option Nat
  place : Cursor
  links : List Link := []
  cost : Nat := 0
  count : Nat := 0

instance : Inhabited Node where
  default := { state := none, place := { rest := [] } }

-- A place that reading can go back to: how many fragments it lies back, and its state.
structure Refuge where
  place : Cursor
  depth : Nat
  state : Nat

inductive Mode where
  | active
  | paused (ahead : Fragment)
  | halted

structure Version where
  node : Nat
  countBefore : Nat := 0
  surroundings : Option Surroundings := none
  mode : Mode := .active
  refuges : List Refuge := []

instance : Inhabited Version where
  default := { node := 0 }

namespace Version

def isActive (v : Version) : Bool :=
  match v.mode with
  | .active => true
  | _ => false

def isPaused (v : Version) : Bool :=
  match v.mode with
  | .paused _ => true
  | _ => false

def isHalted (v : Version) : Bool :=
  match v.mode with
  | .halted => true
  | _ => false

def moved (v : Version) (node : Nat) : Version :=
  { v with node, mode := .active, refuges := [] }

end Version

structure Stack where
  nodes : Array Node
  versions : Array Version

structure Walker where
  node : Nat
  fragments : List Fragment := []
  depth : Nat := 0

def Walker.along (w : Walker) (l : Link) : Walker :=
  match l.fragment with
  | none => { w with node := l.before, depth := w.depth + 1 }
  | some f =>
    { node := l.before, fragments := f :: w.fragments
      depth := if f.isExtra then w.depth else w.depth + 1 }

structure Slice where
  node : Nat
  ways : List (List Fragment)

namespace Stack

def start (state : Nat) (cs : List Char) : Stack :=
  { nodes := #[{ state := some state, place := { rest := cs } }], versions := #[{ node := 0 }] }

def node (s : Stack) (n : Nat) : Node :=
  s.nodes.getD n default

def version (s : Stack) (v : Nat) : Version :=
  s.versions.getD v default

def top (s : Stack) (v : Nat) : Node :=
  s.node (s.version v).node

def size (s : Stack) : Nat :=
  s.versions.size

def update (s : Stack) (v : Nat) (f : Version → Version) : Stack :=
  { s with versions := s.versions.modify v f }

def setMode (s : Stack) (v : Nat) (mode : Mode) : Stack :=
  s.update v ({ · with mode })

def halt (s : Stack) (v : Nat) : Stack :=
  s.setMode v .halted

def pause (s : Stack) (v : Nat) (ahead : Fragment) : Stack :=
  let count := (s.top v).count
  s.update v ({ · with mode := .paused ahead, countBefore := count })

def add (s : Stack) (version : Version) : Stack :=
  { s with versions := s.versions.push version }

def remove (s : Stack) (v : Nat) : Stack :=
  { s with versions := s.versions.eraseIdxIfInBounds v }

def replace (s : Stack) (new old : Nat) : Stack :=
  if new = old then s
  else
    let version := s.version new
    let refuges := if version.refuges.isEmpty then (s.version old).refuges else version.refuges
    (s.update old fun _ => { version with refuges }).remove new

def swap (s : Stack) (v w : Nat) : Stack :=
  let a := s.version v
  let b := s.version w
  (s.update v fun _ => b).update w fun _ => a

def push (s : Stack) (v : Nat) (f : Fragment) (state : Option Nat) : Stack :=
  let last := s.top v
  let new := s.nodes.size
  let node : Node :=
    { state, place := f.outline.stop, cost := last.cost + f.cost, count := last.count + f.weight
      links := [{ before := (s.version v).node, fragment := some f }] }
  { s with nodes := s.nodes.push node, versions := s.versions.modify v ({ · with node := new }) }

def lose (s : Stack) (v : Nat) : Stack :=
  let last := s.top v
  let new := s.nodes.size
  let node : Node :=
    { state := none, place := last.place, cost := last.cost, count := last.count
      links := [{ before := (s.version v).node, fragment := none }] }
  { s with nodes := s.nodes.push node
           versions := s.versions.modify v ({ · with node := new, countBefore := last.count }) }

def justLost (n : Node) : Bool :=
  n.state.isNone && n.links.head?.any (·.fragment.isNone)

def cost (s : Stack) (v : Nat) : Nat :=
  let n := s.top v
  n.cost + if (s.version v).isPaused || justLost n then prices.fault else 0

-- Keep in mind how many nodes there are if they have become fewer since the last fault.
def recount (s : Stack) (v : Nat) : Stack :=
  let count := (s.top v).count
  s.update v fun x => { x with countBefore := min x.countBefore count }

def fresh (s : Stack) (v : Nat) : Nat :=
  (s.top v).count - (s.version v).countBefore

-- Whether there is text between a node and the last fault, at which there were `count` nodes of the
-- tree. The first number bounds how far back this goes.
def hasTextBehind (s : Stack) (count : Nat) : Nat → Node → Bool
  | 0, _ => false
  | n + 1, node =>
    match node.links.head?.bind fun l => l.fragment.map (l.before, ·) with
    | none => false
    | some (before, f) =>
      let last := s.node before
      last.place.bytes < node.place.bytes
        || (count < node.count && f.cost = 0 && s.hasTextBehind count n last)

def hasAdvanced (s : Stack) (v : Nat) : Bool :=
  (s.top v).cost = 0 || s.hasTextBehind (s.version v).countBefore s.nodes.size (s.top v)

def maxWalkers : Nat := 64

-- Each walker goes one link back: over the first link of its node, and a new one over each other
-- link.
def walkRound {σ : Type} (s : Stack) (visit : σ → Walker → σ × Bool) :
    σ → (kept added : List Walker) → List Walker → σ × List Walker
  | acc, kept, added, [] => (acc, kept.reverse ++ added)
  | acc, kept, added, w :: ws =>
    let (acc, goesOn) := visit acc w
    match (s.node w.node).links, goesOn with
    | l :: ls, true =>
      let room := maxWalkers - (kept.length + 1 + ws.length + added.length)
      walkRound s visit acc (w.along l :: kept) (added ++ (ls.take room).map w.along) ws
    | _, _ => walkRound s visit acc kept added ws

-- Go back from a node on all ways. What is gathered depends on the places come to; `visit` says as
-- well whether to go on from there. The number bounds the length of the ways.
def walk {σ : Type} (s : Stack) (visit : σ → Walker → σ × Bool) : Nat → σ → List Walker → σ
  | 0, acc, _ => acc
  | _, acc, [] => acc
  | n + 1, acc, ws =>
    let (acc, ws) := s.walkRound visit acc [] [] ws
    s.walk visit n acc ws

def walkFrom {σ : Type} (s : Stack) (v : Nat) (init : σ) (visit : σ → Walker → σ × Bool) : σ :=
  s.walk visit (s.nodes.size + 1) init [{ node := (s.version v).node }]

def addWay (node : Nat) (fragments : List Fragment) : List Slice → List Slice
  | [] => [{ node, ways := [fragments] }]
  | x :: xs =>
    if x.node = node then { x with ways := x.ways ++ [fragments] } :: xs
    else x :: addWay node fragments xs

def slices (s : Stack) (v : Nat) (depth : Nat) : List Slice :=
  s.walkFrom v [] fun acc w =>
    if w.depth = depth then (addWay w.node w.fragments acc, false) else (acc, true)

def wholeWays (s : Stack) (v : Nat) : List (List Fragment) :=
  (s.walkFrom v [] fun acc w =>
    if (s.node w.node).links.isEmpty then (addWay w.node w.fragments acc, false)
    else (acc, true)).flatMap (·.ways)

def maxDepth : Nat := 16

def refuges (s : Stack) (v : Nat) : List Refuge :=
  (s.walkFrom v [] fun (acc : List (Cursor × Nat × Option Nat)) w =>
    if maxDepth < w.depth then (acc, false)
    else
      let node := s.node w.node
      let nearby := acc.takeWhile fun (_, depth, _) => w.depth ≤ depth
      if nearby.any fun (_, depth, state) => depth == w.depth && state == node.state then
        (acc, true)
      else ((node.place, w.depth, node.state) :: acc, true)).reverse.filterMap
        fun (place, depth, state) => state.map fun state => { place, depth, state }

def alike : Option Fragment → Option Fragment → Bool
  | none, none => true
  | some a, some b =>
    a.role == b.role
      && ((0 < a.cost && 0 < b.cost)
        || (a.outline.start.bytes == b.outline.start.bytes
          && a.outline.stop.bytes == b.outline.stop.bytes
          && a.parts.length == b.parts.length && a.isExtra == b.isExtra
          && a.outline.surroundings == b.outline.surroundings))
  | _, _ => false

def maxLinks : Nat := 8

def sameSpot (a b : Node) : Bool :=
  a.state == b.state && a.place.bytes == b.place.bytes && a.cost == b.cost

-- Add a way to a node. If a link over a fragment of the same sort comes from a node at the same
-- spot, the two nodes are made one instead. The number bounds how far back this goes.
def addLink : Nat → Stack → Nat → Link → Stack
  | 0, s, _, _ => s
  | n + 1, s, target, link =>
    if link.before = target then s
    else
      let node := s.node target
      let earlier := s.node link.before
      let twin := node.links.find? fun l =>
        alike l.fragment link.fragment
          && (l.before == link.before || sameSpot (s.node l.before) earlier)
      match twin with
      | some l =>
        if l.before = link.before then s
        else earlier.links.foldl (fun s k => addLink n s l.before k) s
      | none =>
        if maxLinks ≤ node.links.length then s
        else
          let count := earlier.count + (link.fragment.map (·.weight)).getD 0
          { s with nodes := s.nodes.modify target fun x =>
              { x with links := x.links ++ [link], count := max x.count count } }

def canMerge (s : Stack) (v w : Nat) : Bool :=
  let a := s.version v
  let b := s.version w
  a.isActive && b.isActive && sameSpot (s.top v) (s.top w) && a.surroundings == b.surroundings

def merge (s : Stack) (v w : Nat) : Stack :=
  let target := (s.version v).node
  let s := (s.top w).links.foldl (fun s l => addLink (s.nodes.size + 1) s target l) s
  let top := s.node target
  let s := if top.state.isNone then s.update v ({ · with countBefore := top.count }) else s
  s.remove w

end Stack

end GodotAtlas.Script.Recovery
