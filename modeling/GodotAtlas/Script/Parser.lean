import GodotAtlas.Script.Grammar
import GodotAtlas.Script.Lexeme

namespace GodotAtlas.Script

structure Part where
  start : Cursor
  tree : Tree
deriving Repr

structure Frame where
  start : Option Cursor := none
  parts : List Part := []
deriving Repr

structure Ahead where
  terminal : Terminal
  start : Cursor
  stop : Cursor
deriving Repr

structure Reader where
  agenda : List Rule
  cursor : Cursor
  stop : Cursor
  blocks : Blocks := [0]
  ahead : Option Ahead := none
  frames : List Frame := [{}]
  comments : List Part := []

def leaf (kind : Kind) (named : Bool) (start stop : Cursor) : Part :=
  { start
    tree := .node { kind, named, text := start.textTo stop, line := start.line,
                    column := start.column } [] }

-- Finish a node: its text runs from its first token to where the last token ended.
def Frame.finish (f : Frame) (kind : Kind) (stop : Cursor) : Part :=
  let start := f.start.getD stop
  { start
    tree := .node { kind, text := start.textTo stop, line := start.line, column := start.column }
      (f.parts.reverse.map (·.tree)) }

def addPart (p : Part) : List Frame → List Frame
  | [] => []
  | f :: fs => { f with parts := p :: f.parts } :: fs

-- Put comments into the innermost node that has started; the outermost takes what is left.
def settle (comments : List Part) : List Frame → List Frame
  | [] => []
  | [f] => [{ f with parts := comments ++ f.parts }]
  | f :: g :: fs =>
    if f.start.isSome then { f with parts := comments ++ f.parts } :: g :: fs
    else f :: settle comments (g :: fs)

def started (c : Cursor) (fs : List Frame) : List Frame :=
  fs.map fun f => { f with start := f.start.or (some c) }

namespace Reader

def start (cs : List Char) : Reader :=
  { agenda := Grammar.script, cursor := { rest := cs }, stop := { rest := cs } }

def last (r : Reader) : Option Kind :=
  r.frames.head?.bind fun f => f.parts.head?.map (·.tree.kind)

-- How many rules are opened at most on the way to a terminal: each one that is passed costs a few
-- steps.
def lookDepth (agenda : List Rule) : Nat :=
  8 * (agenda.length + 32)

def expected (r : Reader) : List Terminal :=
  Script.expected (lookDepth r.agenda) r.last r.agenda

def mayStart (r : Reader) (agenda : List Rule) (t : Terminal) : Bool :=
  { r with agenda }.expected.contains t

def take (r : Reader) (a : Ahead) (kind : Option Kind) : Reader :=
  let frames := started a.start (settle r.comments r.frames)
  let r := { r with frames, comments := [], cursor := a.stop, stop := a.stop, ahead := none }
  if a.start.offset = a.stop.offset then r
  else
    let p := leaf (kind.getD (.other a.terminal.label)) kind.isSome a.start a.stop
    { r with frames := addPart p frames }

def act? (r : Reader) : Action → Option Reader
  | .open => some { r with frames := {} :: r.frames }
  | .adopt =>
    match r.frames with
    | f :: fs =>
      match f.parts with
      | p :: ps =>
        some { r with frames :=
          { start := some p.start, parts := [p] } :: { f with parts := ps } :: fs }
      | [] => none
    | [] => none
  | .close kind =>
    match r.frames with
    | f :: fs => some { r with frames := addPart (f.finish kind r.stop) fs }
    | [] => none
  | .label field =>
    match r.frames with
    | f :: fs =>
      match f.parts with
      | p :: ps =>
        let labelled := { p with tree := p.tree.labelled field }
        some { r with frames := { f with parts := labelled :: ps } :: fs }
      | [] => none
    | [] => none
  | .require kinds =>
    match r.frames with
    | f :: _ => if f.parts.head?.any (kinds.contains ·.tree.kind) then some r else none
    | [] => none

def passComment (r : Reader) (start stop : Cursor) : Reader :=
  { r with cursor := stop, comments := leaf .comment true start stop :: r.comments }

-- Look up the next token, or pass a comment; none if the text holds no token that is expected here.
def lookUp? (r : Reader) : Option Reader :=
  match lexeme r.expected r.blocks r.cursor with
  | .layout terminal blocks =>
    some { r with blocks, ahead := some { terminal, start := r.cursor, stop := r.cursor } }
  | .comment start stop => some (r.passComment start stop)
  | .token terminal start stop => some { r with ahead := some { terminal, start, stop } }
  | .done =>
    some { r with ahead := some { terminal := .endOfText, start := r.cursor, stop := r.cursor } }
  | .stray _ => none

def step? (r : Reader) (a : Ahead) (rule : Rule) (rest : List Rule) : Option Reader :=
  match rule with
  | .token t kind => if t = a.terminal then some (take { r with agenda := rest } a kind) else none
  | .act x => act? { r with agenda := rest } x
  | .seq rs => some { r with agenda := rs ++ rest }
  | .alt rs =>
    (rs.find? fun x => r.mayStart (x :: rest) a.terminal).map fun x =>
      { r with agenda := x :: rest }
  | .opt x =>
    some { r with agenda := if r.mayStart (x :: rest) a.terminal then x :: rest else rest }
  | .many x =>
    some { r with agenda := if r.mayStart (x :: rest) a.terminal then x :: rule :: rest else rest }
  | .more t x =>
    some { r with agenda :=
      if t = a.terminal then .token t none :: .opt (.seq [x, rule]) :: rest else rest }
  | .ref s => some { r with agenda := Grammar.rule s :: rest }

def tree (r : Reader) : Tree :=
  match settle r.comments r.frames with
  | f :: _ => (f.finish .source r.cursor).tree
  | [] => .node { kind := .source } []

def run : Nat → Reader → Option Tree
  | 0, _ => none
  | n + 1, r =>
    match r.ahead, r.agenda with
    | none, _ =>
      match r.lookUp? with
      | some r => run n r
      | none => none
    | some a, rule :: rest =>
      match r.step? a rule rest with
      | some r => run n r
      | none => none
    | some a, [] => if a.terminal = .endOfText then some r.tree else none

-- More steps than reading a text of some length takes: tokens are bounded by its length, and so are
-- the rules opened for each.
def enough (length : Nat) : Nat :=
  512 * (length + 8)

def read? (cs : List Char) : Option Tree :=
  run (enough cs.length) (start cs)

end Reader

end GodotAtlas.Script
