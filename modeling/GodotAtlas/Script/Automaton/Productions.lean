import GodotAtlas.Script.Automaton.Rules

namespace GodotAtlas.Script.Automaton

abbrev TerminalSet := Nat

structure Production where
  left : Nat
  right : Array Nat
  level : Int := 0
  side : Option Side := none
deriving DecidableEq, Repr, Inhabited

structure Grammar where
  terminals : Array Terminal
  names : Array String
  plainRules : Nat
  productions : Array Production
  ofRule : Array (List Nat) := #[]
  first : Array TerminalSet := #[]
  -- For each rule the rules that stand at its start, and the terminals that may follow them there.
  -- One bit beyond the terminals stands for what follows the rule itself.
  opens : Array (List (Nat × TerminalSet)) := #[]

namespace Grammar

def size (g : Grammar) : Nat :=
  g.terminals.size

def number (g : Grammar) (t : Terminal) : Nat :=
  g.terminals.idxOf t

def context (g : Grammar) : TerminalSet :=
  1 <<< g.size

def production (g : Grammar) (p : Nat) : Production :=
  g.productions.getD p default

def starts (g : Grammar) (symbol : Nat) : TerminalSet :=
  g.first.getD symbol 0

def setOf (g : Grammar) (ts : List Terminal) : TerminalSet :=
  ts.foldl (fun set t => set ||| 1 <<< g.number t) 0

def isList (g : Grammar) (rule : Nat) : Bool :=
  g.plainRules ≤ rule && rule + 1 < g.names.size

def isHidden (g : Grammar) (rule : Nat) : Bool :=
  (g.names.getD rule "").startsWith "_"

-- Replace each value by what a step makes of it until nothing changes; the number bounds the steps.
def settle {α : Type} [BEq α] (step : α → α) : Nat → α → α
  | 0, a => a
  | n + 1, a =>
    let b := step a
    if b == a then a else settle step n b

-- What each symbol can start with: a terminal with itself, a rule with what the first symbols of
-- its productions can start with. No rule but the first can be empty.
def findFirst (g : Grammar) : Array TerminalSet :=
  let own := (Array.range g.size).map (1 <<< ·) ++ Array.replicate g.names.size 0
  let step (first : Array TerminalSet) : Array TerminalSet :=
    g.productions.foldl (fun first p =>
      match p.right[0]? with
      | some s => first.modify (g.size + p.left) (· ||| first.getD s 0)
      | none => first) first
  settle step (g.names.size + 1) own

-- The rules at the start of a rule. Where a production is a rule alone, what follows the production
-- follows that rule; otherwise its second symbol does.
def findOpens (g : Grammar) (rule : Nat) : List (Nat × TerminalSet) :=
  let step (sets : Array TerminalSet) : Array TerminalSet :=
    g.productions.foldl (fun sets p =>
      match sets.getD p.left 0, p.right[0]? with
      | 0, _ => sets
      | _, none => sets
      | set, some s =>
        let follow := match p.right[1]? with
          | none => set
          | some next => g.starts next
        if s < g.size then sets else sets.modify (s - g.size) (· ||| follow)) sets
  let sets := settle step (g.names.size + 1)
    ((Array.replicate g.names.size 0).modify rule (· ||| g.context))
  (sets.toList.zipIdx.filter (·.1 ≠ 0)).map fun (set, r) => (r, set)

def build (terminals : List Terminal) (rules lists : List (String × Phrase)) : Grammar :=
  let names := rules.map (·.1) ++ lists.map (·.1) ++ [""]
  let number : Sign → Nat
    | .terminal t => terminals.idxOf t
    | .rule name => terminals.length + names.idxOf name
  let production (left : Nat) (a : Alternative) : Production :=
    { left, right := (a.signs.map number).toArray, level := a.level, side := a.side }
  let items (name : String) (p : Phrase) : Phrase :=
    .choice [.sequence [.rule name, .rule name], p]
  let phrases := rules.map (·.2) ++ lists.map (fun (name, p) => items name p)
    ++ [.rule (names.headD "")]
  let productions := phrases.zipIdx.flatMap fun (p, left) =>
    (p.alternatives.map (production left)).eraseDups
  let g : Grammar :=
    { terminals := terminals.toArray, names := names.toArray, plainRules := rules.length
      productions := productions.toArray }
  let ofRule := g.productions.toList.zipIdx.foldr
    (fun (p, i) (sets : Array (List Nat)) => sets.modify p.left (i :: ·))
    (Array.replicate names.length [])
  let g := { g with ofRule, first := g.findFirst }
  { g with opens := (Array.range names.length).map g.findOpens }

end Grammar

def scriptGrammar : Unit → Grammar :=
  fun _ => .build terminals rules listRules

end GodotAtlas.Script.Automaton
