import GodotAtlas.Text.Blank
import GodotAtlas.Text.Word

namespace GodotAtlas.Text

abbrev Matcher (α : Type) := (before : Option Char) → List Char → Option (α × List Char)

def skip? : (literal cs : List Char) → Option (List Char)
  | [], cs => some cs
  | _ :: _, [] => none
  | l :: ls, c :: cs => if l = c then skip? ls cs else none

def run? (p : Char → Bool) (cs : List Char) : Option (List Char × List Char) :=
  match cs.takeWhile p with
  | [] => none
  | taken => some (taken, cs.dropWhile p)

def word? : List Char → Option (List Char × List Char) :=
  run? isWord

def blank? (cs : List Char) : Option (List Char) :=
  (run? isBlank cs).map (·.2)

def until? (close : Char) : List Char → Option (List Char × List Char)
  | [] => none
  | c :: cs => if c = close then some ([], cs) else (until? close cs).map fun (t, r) => (c :: t, r)

def atBoundary (before : Option Char) (cs : List Char) : Bool :=
  before.any isWord != cs.head?.any isWord

def atLineStart (before : Option Char) : Bool :=
  before.all (· == '\n')

def Matcher.first {α : Type} (m : Matcher α) : Option Char → List Char → Option (α × List Char)
  | before, [] => m before []
  | before, c :: cs =>
    match m before (c :: cs) with
    | some found => some found
    | none => m.first (some c) cs

def Matcher.find? {α : Type} (m : Matcher α) (cs : List Char) : Option α :=
  (m.first none cs).map (·.1)

-- Every success of a matcher from left to right, without overlap. The first argument counts the
-- characters that still belong to the last find.
def Matcher.allFrom {α : Type} (m : Matcher α) : Nat → Option Char → List Char → List α
  | _, _, [] => []
  | n + 1, _, c :: cs => m.allFrom n (some c) cs
  | 0, before, c :: cs =>
    match m before (c :: cs) with
    | some (a, rest) => a :: m.allFrom (cs.length - rest.length) (some c) cs
    | none => m.allFrom 0 (some c) cs

def Matcher.all {α : Type} (m : Matcher α) (cs : List Char) : List α :=
  m.allFrom 0 none cs

def splitAt (sep : Char) : List Char → List (List Char)
  | [] => [[]]
  | c :: cs =>
    if c = sep then [] :: splitAt sep cs
    else match splitAt sep cs with
      | [] => [[c]]
      | p :: ps => (c :: p) :: ps

def splitOnce? (sep : Char) (cs : List Char) : Option (List Char × List Char) :=
  until? sep cs

end GodotAtlas.Text
