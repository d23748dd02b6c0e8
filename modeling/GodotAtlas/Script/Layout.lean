import GodotAtlas.Script.Terminal

namespace GodotAtlas.Script

structure Gap where
  endsLine : Bool := false
  indent : Nat := 0
  comment : Option Nat := none
  length : Nat := 0
  rest : List Char := []
deriving DecidableEq, Repr

namespace Gap

def pass (g : Gap) (n : Nat) : Gap :=
  { g with length := g.length + n }

def atEnd (g : Gap) : Gap :=
  { g with endsLine := true, indent := 0, rest := [] }

-- Survey a gap. A space is one wide and a tab eight; other blanks start the count anew. A backslash
-- hides the line end behind it, as it does at the end of the text; elsewhere there is no gap to
-- speak of. A comment takes the end of its own line along, which then is not seen. The second
-- argument says that a comment is being passed over.
def survey : Gap → (inComment : Bool) → List Char → Option Gap
  | g, _, [] => some g.atEnd
  | g, true, c :: cs =>
    if c = '\n' then survey { g.pass 1 with indent := 0 } false cs else survey (g.pass 1) true cs
  | g, false, '\n' :: cs => survey { g.pass 1 with endsLine := true, indent := 0 } false cs
  | g, false, ' ' :: cs => survey { g.pass 1 with indent := g.indent + 1 } false cs
  | g, false, '\t' :: cs => survey { g.pass 1 with indent := g.indent + 8 } false cs
  | g, false, '\r' :: cs => survey { g.pass 1 with indent := 0 } false cs
  | g, false, '\x0c' :: cs => survey { g.pass 1 with indent := 0 } false cs
  | g, false, '#' :: cs => survey { g.pass 1 with comment := g.comment.or (some g.indent) } true cs
  | g, false, ['\\'] => some (g.pass 1).atEnd
  | g, false, ['\\', '\r'] => some (g.pass 2).atEnd
  | g, false, '\\' :: '\n' :: cs => survey (g.pass 2) false cs
  | g, false, '\\' :: '\r' :: '\n' :: cs => survey (g.pass 3) false cs
  | g, false, c :: cs => if c = '\\' then none else some { g with rest := c :: cs }

def meetsCloser (g : Gap) : Bool :=
  g.rest.head?.any fun c => c == ',' || c == ')' || c == ']' || c == '\x7d'

end Gap

-- The indentations of the blocks that are open, innermost first; the outermost is no block.
abbrev Blocks := List Nat

def Blocks.current (bs : Blocks) : Nat :=
  bs.headD 0

def indentLimit : Nat := 256

def Blocks.deepen (bs : Blocks) (indent : Nat) : Blocks :=
  indent % indentLimit :: bs

-- The layout terminal at a position, if there is one, with the blocks that are open behind it.
-- Where a line ends, deeper indentation opens a block if the grammar expects one. Less indentation
-- closes the innermost one; it does so even where the grammar expects no end of a block, which is
-- then an error, unless a line may end there, a string may start or a bracket is to be closed.
-- Comments that belong to the block are passed first. Otherwise the line ends if it may. Finally, a
-- body inside brackets ends in front of a comma or a closing bracket that would not fit into it.
def layoutTerminal (expected : List Terminal) (blocks : Blocks) (gap : Gap) :
    Option (Terminal × Blocks) :=
  let closesBracket := expected.any fun t =>
    t == .mark .parenClose || t == .mark .bracketClose || t == .mark .braceClose
  let closesBlock := expected.contains .dedent
    || (!expected.contains .newline && !expected.contains .string && !closesBracket)
  let atCloser := !closesBracket && !expected.contains (.mark .comma) && gap.meetsCloser
  if gap.endsLine && expected.contains .indent && blocks.current < gap.indent then
    some (.indent, blocks.deepen gap.indent)
  else if gap.endsLine && closesBlock && gap.indent < blocks.current
      && gap.comment.all (· < blocks.current) then
    some (.dedent, blocks.tail)
  else if gap.endsLine && expected.contains .newline then
    some (.newline, blocks)
  else if atCloser && expected.contains .blockClosed then
    some (.blockClosed, blocks.tail)
  else if atCloser && expected.contains .lineClosed then
    some (.lineClosed, blocks)
  else none

end GodotAtlas.Script
