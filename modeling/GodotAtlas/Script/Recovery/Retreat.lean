import GodotAtlas.Script.Recovery.Contest

namespace GodotAtlas.Script.Recovery

namespace Contest

-- Go back to a place: what was read and skipped since becomes a fault, together with a fault that
-- is directly in front of it. The answer says whether there is such a version; it is the last one.
def goBack (c : Contest) (v : Nat) (depth state : Nat) : Contest × Bool :=
  let step (c : Contest) (slice : Slice) : Contest :=
    if (c.stack.node slice.node).state ≠ some state then c
    else
      let w := c.stack.size
      let s := c.stack.add ((c.stack.version v).moved slice.node)
      let fault := (s.top w).links.find? fun l => l.fragment.any (·.role = .fault)
      let (s, earlier) := match fault with
        | some l =>
          (s.update w ({ · with node := l.before }), (l.fragment.map Fragment.parts).getD [])
        | none => (s, [])
      let (parts, extras) := Fragment.splitExtras (earlier ++ slice.ways.headD [])
      let place := (s.top w).place
      let faults := if parts.isEmpty then [] else [(Fragment.ofParts .fault parts place).asExtra]
      { c with stack := (faults ++ extras).foldl (fun s f => s.push w f (some state)) s }
  let after := (c.stack.slices v depth).foldl step c
  (after, c.stack.size < after.stack.size)

def seek (c : Contest) (v : Nat) (ahead : Fragment) (skipped : Bool) :
    List Refuge → Contest × Bool
  | [] => (c, false)
  | r :: rs =>
    let place := (c.stack.top v).place
    let depth := if skipped then r.depth + 1 else r.depth
    let taken := (List.range c.stack.size).any fun w =>
      (c.stack.top w).state = some r.state && (c.stack.top w).place.bytes = place.bytes
    if r.place.bytes = place.bytes || taken then seek c v ahead skipped rs
    else
      let cost := c.stack.cost v + prices.node * depth + prices.span r.place place
      let (beaten, c) := c.isBeaten v cost
      if beaten then (c, false)
      else if c.fits r.state ahead then
        let (c, done) := c.goBack v depth r.state
        if done then (c, true) else seek c v ahead skipped rs
      else seek c v ahead skipped rs

def skip (c : Contest) (v : Nat) (ahead : Fragment) (skipped : Bool) : Contest :=
  let s := c.stack
  let place := (s.top v).place
  let last : Fragment := .ofParts .skipped [ahead] place
  let slice? := if skipped then (s.slices v 1).head? else none
  let (s, whole) := match slice? with
    | none => (s, last)
    | some slice =>
      ((s.add ((s.version v).moved slice.node)).replace s.size v,
        .ofParts .skipped (slice.ways.headD [] ++ [last]) place)
  { c with stack := (s.push v whole none).update v fun x =>
      { x with surroundings := ahead.outline.surroundings.or x.surroundings } }

-- Go on with a version that is lost: go back if possible, and skip the token in any case unless
-- that is pointless. At the end of the text all that was read is one fault.
def recover (c : Contest) (v : Nat) (ahead : Fragment) : Contest :=
  let c := c.mapStack (·.recount v)
  let skipped := 0 < c.stack.fresh v
  let cost := c.stack.cost v
  let place := (c.stack.top v).place
  let (c, back) :=
    if ahead.role = .fault then (c, false)
    else c.seek v ahead skipped (c.stack.version v).refuges
  if ahead.terminal? = some .endOfText then
    (c.shift v (.ofParts .fault [] place) none).accept v ahead
  else if back && (maxVersions < c.stack.size || ahead.outline.opensOrCloses) then
    c.mapStack (·.halt v)
  else
    let (beaten, c) :=
      c.isBeaten v (cost + prices.node + prices.span place ahead.outline.stop)
    if beaten then c.mapStack (·.halt v) else c.skip v ahead skipped

end Contest

end GodotAtlas.Script.Recovery
