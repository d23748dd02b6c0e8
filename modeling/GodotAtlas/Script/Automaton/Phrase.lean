import GodotAtlas.Script.Terminal

namespace GodotAtlas.Script.Automaton

inductive Side where
  | left | right
deriving DecidableEq, Repr

inductive Phrase where
  | terminal (t : Terminal)
  | rule (name : String)
  | blank
  | sequence (ps : List Phrase)
  | choice (ps : List Phrase)
  | ranked (level : Int) (side : Option Side) (p : Phrase)

inductive Sign where
  | terminal (t : Terminal)
  | rule (name : String)
deriving DecidableEq, Repr

structure Alternative where
  signs : List Sign := []
  level : Int := 0
  side : Option Side := none
deriving DecidableEq, Repr

def Alternative.append (a b : Alternative) : Alternative :=
  { signs := a.signs ++ b.signs }

namespace Phrase

mutual

def alternatives : Phrase → List Alternative
  | terminal t => [{ signs := [.terminal t] }]
  | rule name => [{ signs := [.rule name] }]
  | blank => [{}]
  | sequence ps => sequences ps
  | choice ps => choices ps
  | ranked level side p => (alternatives p).map fun a => { a with level, side }

def sequences : List Phrase → List Alternative
  | [] => [{}]
  | p :: ps => (alternatives p).flatMap fun a => (sequences ps).map a.append

def choices : List Phrase → List Alternative
  | [] => []
  | p :: ps => alternatives p ++ choices ps

end

def optional (p : Phrase) : Phrase :=
  choice [p, blank]

def key (k : Keyword) : Phrase :=
  terminal (.keyword k)

def mark (m : Mark) : Phrase :=
  terminal (.mark m)

end Phrase

end GodotAtlas.Script.Automaton
