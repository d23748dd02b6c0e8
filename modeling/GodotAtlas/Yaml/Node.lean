import GodotAtlas.Yaml.Token

namespace GodotAtlas.Yaml

inductive Node where
  | scalar (style : Style) (tag : Option (List Char)) (text : String)
  | sequence (items : List Node)
  | mapping (entries : List (Node × Node))
  | reference (number : Nat)
deriving Repr

namespace Node

def nothing : Node :=
  scalar .plain none ""

end Node

structure Document where
  root : Option Node
  numbered : List (Nat × Node) := []

def Document.follow (d : Document) : Node → Option Node
  | .reference n => d.numbered.lookup n
  | node => some node

structure NodeReader where
  tokens : List Token
  handles : List (List Char × List Char)
  anchors : List (List Char × Nat) := []
  numbered : List (Nat × Node) := []

namespace NodeReader

def drop (r : NodeReader) (n : Nat) : NodeReader :=
  { r with tokens := r.tokens.drop n }

def sees (r : NodeReader) (ts : List Token) : Bool :=
  r.tokens.head?.any ts.contains

def properties (r : NodeReader) : Option (List Char) × Option Tag × NodeReader :=
  match r.tokens with
  | .anchor a :: .tag t :: _ => (some a, some t, r.drop 2)
  | .tag t :: .anchor a :: _ => (some a, some t, r.drop 2)
  | .anchor a :: _ => (some a, none, r.drop 1)
  | .tag t :: _ => (none, some t, r.drop 1)
  | _ => (none, none, r)

def tagName? (r : NodeReader) (t : Tag) : Option (List Char) :=
  if t.handle.isEmpty then some t.suffix
  else (r.handles.lookup t.handle).map (· ++ t.suffix)

def openAnchor (r : NodeReader) : Option (List Char) → Option Nat × NodeReader
  | none => (none, r)
  | some name =>
    let number := r.anchors.length
    (some number,
      { r with
        anchors := (name, number) :: r.anchors.filter (·.1 != name)
        numbered := r.numbered.filter (·.1 != number) })

def closeAnchor (r : NodeReader) (node : Node) : Option Nat → NodeReader
  | none => r
  | some n =>
    if (r.numbered.lookup n).isSome then r else { r with numbered := (n, node) :: r.numbered }

mutual

-- Read a node. Blocks may start only in a block, and items without indentation only as a key or
-- value of one. The number bounds the steps.
def node (block bareItems : Bool) : Nat → NodeReader → Option (Node × NodeReader)
  | 0, _ => none
  | n + 1, r =>
    match r.tokens with
    | .reference name :: _ => (r.anchors.lookup name).map fun k => (Node.reference k, r.drop 1)
    | _ =>
      let (anchor, tag, r) := r.properties
      match tag.mapM r.tagName? with
      | none => none
      | some tag =>
        let (number, r) := r.openAnchor anchor
        let empty := if anchor.isNone && tag.isNone then none else some (Node.scalar .plain tag "")
        (content block bareItems tag empty n r).map fun (node, r) =>
          (node, r.closeAnchor node number)

-- Read what stands behind an anchor and a tag; `empty` is what stands for nothing.
def content (block bareItems : Bool) (tag : Option (List Char)) (empty : Option Node) :
    Nat → NodeReader → Option (Node × NodeReader)
  | 0, _ => none
  | n + 1, r =>
    match r.tokens with
    | .scalar style text :: _ => some (Node.scalar style tag (String.ofList text), r.drop 1)
    | .flowSequenceStart :: _ =>
      (flowItems true n (r.drop 1)).map fun (items, r) => (Node.sequence items, r)
    | .flowMappingStart :: _ =>
      (flowEntries true n (r.drop 1)).map fun (es, r) => (Node.mapping es, r)
    | t :: _ =>
      if bareItems && t == .blockEntry then
        (bare n r).map fun (items, r) => (Node.sequence items, r)
      else if block && t == .blockSequenceStart then
        (blockItems n (r.drop 1)).map fun (items, r) => (Node.sequence items, r)
      else if block && t == .blockMappingStart then
        (blockEntries n (r.drop 1)).map fun (es, r) => (Node.mapping es, r)
      else empty.map (·, r)
    | [] => empty.map (·, r)

def nodeUnless (block bareItems : Bool) (ends : List Token) :
    Nat → NodeReader → Option (Node × NodeReader)
  | 0, _ => none
  | n + 1, r => if r.sees ends then some (.nothing, r) else node block bareItems n r

def blockItems : Nat → NodeReader → Option (List Node × NodeReader)
  | 0, _ => none
  | n + 1, r =>
    if r.sees [.blockEntry] then
      match nodeUnless true false [.blockEntry, .blockEnd] n (r.drop 1) with
      | none => none
      | some (item, r) => (blockItems n r).map fun (items, r) => (item :: items, r)
    else if r.sees [.blockEnd] then some ([], r.drop 1)
    else none

def bare : Nat → NodeReader → Option (List Node × NodeReader)
  | 0, _ => none
  | n + 1, r =>
    if r.sees [.blockEntry] then
      match nodeUnless true false [.blockEntry, .key, .value, .blockEnd] n (r.drop 1) with
      | none => none
      | some (item, r) => (bare n r).map fun (items, r) => (item :: items, r)
    else some ([], r)

def valueUnless (block : Bool) (ends : List Token) :
    Nat → NodeReader → Option (Node × NodeReader)
  | 0, _ => none
  | n + 1, r =>
    if r.sees [.value] then nodeUnless block block ends n (r.drop 1) else some (.nothing, r)

def blockEntries : Nat → NodeReader → Option (List (Node × Node) × NodeReader)
  | 0, _ => none
  | n + 1, r =>
    if r.sees [.key] then
      match nodeUnless true true [.key, .value, .blockEnd] n (r.drop 1) with
      | none => none
      | some (key, r) =>
        match valueUnless true [.key, .value, .blockEnd] n r with
        | none => none
        | some (value, r) => (blockEntries n r).map fun (es, r) => ((key, value) :: es, r)
    else if r.sees [.blockEnd] then some ([], r.drop 1)
    else none

-- Read the items between brackets up to the closing one. A key makes a mapping of one entry.
def flowItems (first : Bool) : Nat → NodeReader → Option (List Node × NodeReader)
  | 0, _ => none
  | n + 1, r =>
    if r.sees [.flowSequenceEnd] then some ([], r.drop 1)
    else if !first && !r.sees [.flowEntry] then none
    else
      let r := if first then r else r.drop 1
      if r.sees [.flowSequenceEnd] then some ([], r.drop 1)
      else
        let item := if r.sees [.key] then flowPair n (r.drop 1) else node false false n r
        match item with
        | none => none
        | some (item, r) => (flowItems false n r).map fun (items, r) => (item :: items, r)

-- Read an entry between brackets. A mark that takes the place of the key is passed.
def flowPair : Nat → NodeReader → Option (Node × NodeReader)
  | 0, _ => none
  | n + 1, r =>
    let key :=
      if r.sees [.value, .flowEntry, .flowSequenceEnd] then some (Node.nothing, r.drop 1)
      else node false false n r
    match key with
    | none => none
    | some (key, r) =>
      (valueUnless false [.flowEntry, .flowSequenceEnd] n r).map fun (value, r) =>
        (.mapping [(key, value)], r)

def flowEntries (first : Bool) : Nat → NodeReader → Option (List (Node × Node) × NodeReader)
  | 0, _ => none
  | n + 1, r =>
    if r.sees [.flowMappingEnd] then some ([], r.drop 1)
    else if !first && !r.sees [.flowEntry] then none
    else
      let r := if first then r else r.drop 1
      if r.sees [.flowMappingEnd] then some ([], r.drop 1)
      else
        let entry :=
          if r.sees [.key] then
            match nodeUnless false false [.value, .flowEntry, .flowMappingEnd] n (r.drop 1) with
            | none => none
            | some (key, r) =>
              (valueUnless false [.flowEntry, .flowMappingEnd] n r).map fun (value, r) =>
                ((key, value), r)
          else (node false false n r).map fun (key, r) => ((key, Node.nothing), r)
        match entry with
        | none => none
        | some (entry, r) => (flowEntries false n r).map fun (es, r) => (entry :: es, r)

end

def steps (r : NodeReader) : Nat :=
  5 * r.tokens.length + 5

end NodeReader

def directives (ts : List Token) : List Directive :=
  (ts.takeWhile fun | .directive _ => true | _ => false).filterMap fun
    | .directive d => some d
    | _ => none

def defaultHandles : List (List Char × List Char) :=
  [(['!'], ['!']), (['!', '!'], "tag:yaml.org,2002:".toList)]

def Directive.isVersion : Directive → Bool
  | .version _ _ => true
  | _ => false

def handlesOf (ds : List Directive) : List (List Char × List Char) :=
  ds.filterMap fun
    | .handle name start => some (name, start)
    | _ => none

-- A version is given at most once and is one of two, and no handle is defined twice.
def directivesFit (ds : List Directive) : Bool :=
  ds.countP (·.isVersion) ≤ 1
    && ds.all (fun | .version major minor => major == 1 && (minor == 1 || minor == 2) | _ => true)
    && decide ((handlesOf ds).map (·.1)).Nodup

def content? (explicit : Bool) (r : NodeReader) : Option (Node × NodeReader) :=
  let isEmpty := match r.tokens with
    | [] | .directive _ :: _ | .documentStart :: _ | .documentEnd :: _ => true
    | _ => false
  if explicit && isEmpty then some (.nothing, r) else r.node true false r.steps

def Document.ofTokens? (ts : List Token) : Option Document :=
  let ds := directives ts
  let rest := ts.drop ds.length
  let explicit := rest.head? == some .documentStart
  if ts.isEmpty then some { root := none }
  else if !directivesFit ds || (!explicit && !ds.isEmpty) then none
  else
    let handles := handlesOf ds ++ defaultHandles
    (content? explicit { tokens := if explicit then rest.tail else rest, handles }).bind
      fun (node, r) =>
        if r.tokens.all (· == .documentEnd) then
          some { root := some node, numbered := r.numbered }
        else none

-- The document in a text; none if there is more than one, or if the text cannot be read.
def Document.ofText? (text : List Char) : Option Document :=
  (tokens? text).bind ofTokens?

end GodotAtlas.Yaml
