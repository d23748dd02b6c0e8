import GodotAtlas.Text.Utf8

namespace GodotAtlas.Files

inductive GlobToken where
  | literal (c : Char)
  | any
  | star
  | leadingDirs
  | trailingAll
  | innerDirs
  | oneOf (negated : Bool) (ranges : List (Char × Char))
  | alternatives (patterns : List (List GlobToken))
deriving Repr

inductive GlobFault where
  | unclosedClass
  | invalidRange (lo hi : Char)
  | unclosedGroup
  | unopenedGroup
  | danglingEscape
  | tooDeep
deriving DecidableEq, Repr

def GlobFault.message : GlobFault → String
  | unclosedClass => "unclosed character class; missing ']'"
  | invalidRange lo hi => s!"invalid range; '{lo}' > '{hi}'"
  | unclosedGroup =>
    "unclosed alternate group; missing '\x7d' (maybe escape '\x7b' with '[\x7b]'?)"
  | unopenedGroup =>
    "unopened alternate group; missing '\x7b' (maybe escape '\x7d' with '[\x7d]'?)"
  | danglingEscape => "dangling '\\'"
  | tooDeep => "nested too deeply"

namespace Glob

-- The state of a reader of brackets: the ranges so far, the last first, and whether a dash has
-- opened a range that still needs its upper end.
structure ClassState where
  ranges : List (Char × Char) := []
  inRange : Bool := false

def ClassState.extend (s : ClassState) (c : Char) : Except GlobFault ClassState :=
  match s.ranges with
  | (lo, _) :: rs =>
    if c < lo then .error (.invalidRange lo c)
    else .ok { ranges := (lo, c) :: rs, inRange := false }
  | [] => .ok { ranges := [(c, c)] }

def ClassState.add (s : ClassState) (first : Bool) (c : Char) : Except GlobFault ClassState :=
  if s.inRange then s.extend c
  else if c = '-' && !first then .ok { s with inRange := true }
  else .ok { s with ranges := (c, c) :: s.ranges }

def ClassState.close (s : ClassState) : List (Char × Char) :=
  if s.inRange then ('-', '-') :: s.ranges else s.ranges

-- Read a class up to the bracket that closes it; as the first member a bracket does not.
def readClass : (first : Bool) → ClassState → List Char →
    Except GlobFault (List (Char × Char) × List Char)
  | _, _, [] => .error .unclosedClass
  | first, s, c :: cs =>
    if c = ']' && !first then .ok (s.close, cs)
    else match s.add first c with
      | .ok s => readClass false s cs
      | .error e => .error e

structure State where
  current : List GlobToken := []
  earlier : List (List GlobToken) := []
  outer : List (List GlobToken × List (List GlobToken)) := []

namespace State

def push (s : State) (t : GlobToken) : State :=
  { s with current := t :: s.current }

def inGroup (s : State) : Bool :=
  !s.outer.isEmpty

def openGroup (s : State) : State :=
  { outer := (s.current, s.earlier) :: s.outer }

def nextAlternative (s : State) : State :=
  if s.inGroup then { s with current := [], earlier := s.current.reverse :: s.earlier }
  else s.push (.literal ',')

def closeGroup (s : State) : Except GlobFault State :=
  match s.outer with
  | [] => .error .unopenedGroup
  | (current, earlier) :: outer =>
    let group := GlobToken.alternatives (s.current.reverse :: s.earlier).reverse
    .ok { current := group :: current, earlier, outer }

-- Put a token for directories in place of the slash before it; one at the start or end takes the
-- place of the same again.
def replaceSlash (s : State) (t : GlobToken) : State :=
  match s.current with
  | .leadingDirs :: _ | .trailingAll :: _ => s
  | _ :: rest => { s with current := t :: rest }
  | [] => { s with current := [t] }

def twoStars (s : State) : State :=
  (s.push .star).push .star

-- Take two stars, given the character before them and the text behind them. The result says how
-- many characters of that text are taken along.
def doubleStar (s : State) (before : Option Char) (next : Option Char) : State × Nat :=
  if s.current.isEmpty then
    match next with
    | none => (s.push .leadingDirs, 0)
    | some '/' => (s.push .leadingDirs, 1)
    | some _ => (s.twoStars, 0)
  else if before != some '/' && !(s.inGroup && (before == some ',' || before == some '\x7b')) then
    (s.twoStars, 0)
  else
    match next with
    | none => (s.replaceSlash .trailingAll, 0)
    | some '/' => (s.replaceSlash .innerDirs, 1)
    | some c =>
      if s.inGroup && (c == ',' || c == '\x7d') then (s.replaceSlash .trailingAll, 0)
      else (s.twoStars, 0)

end State

def readTokens : Nat → State → (before : Option Char) → List Char → Except GlobFault State
  | 0, s, _, _ => .ok s
  | _ + 1, s, _, [] => .ok s
  | n + 1, s, before, c :: cs =>
    if c = '?' then readTokens n (s.push .any) (some c) cs
    else if c = '*' then
      match cs with
      | '*' :: cs =>
        let (s, taken) := s.doubleStar before cs.head?
        readTokens n s (if taken = 0 then some '*' else some '/') (cs.drop taken)
      | cs => readTokens n (s.push .star) (some c) cs
    else if c = '[' then
      let (negated, cs) := match cs with
        | '!' :: ds => (true, ds)
        | '^' :: ds => (true, ds)
        | _ => (false, cs)
      match readClass true {} cs with
      | .ok (ranges, cs) => readTokens n (s.push (.oneOf negated ranges)) (some ']') cs
      | .error e => .error e
    else if c = '\x7b' then readTokens n s.openGroup (some c) cs
    else if c = '\x7d' then
      match s.closeGroup with
      | .ok s => readTokens n s (some c) cs
      | .error e => .error e
    else if c = ',' then readTokens n s.nextAlternative (some c) cs
    else if c = '\\' then
      match cs with
      | [] => .error .danglingEscape
      | d :: cs => readTokens n (s.push (.literal d)) (some d) cs
    else readTokens n (s.push (.literal c)) (some c) cs

def parse (pattern : String) : Except GlobFault (List GlobToken) :=
  match readTokens pattern.length {} none pattern.toList with
  | .ok s => if s.inGroup then .error .unclosedGroup else .ok s.current.reverse
  | .error e => .error e

-- The ranges of bytes that a range of characters stands for: the bytes of the two ends, where the
-- last of the one and the first of the other span a range.
def byteRanges (r : Char × Char) : List (UInt8 × UInt8) :=
  let single (bs : List UInt8) := bs.map fun b => (b, b)
  let lo := String.utf8EncodeChar r.1
  let hi := String.utf8EncodeChar r.2
  if r.1 = r.2 then single lo
  else single lo.dropLast ++ [(lo.getLastD 0, hi.headD 0)] ++ single hi.tail

def inClass (negated : Bool) (ranges : List (Char × Char)) (b : UInt8) : Bool :=
  negated != (ranges.flatMap byteRanges).any fun (lo, hi) => lo ≤ b && b ≤ hi

def anySuffix (k : List UInt8 → Bool) : List UInt8 → Bool
  | [] => k []
  | b :: bs => k (b :: bs) || anySuffix k bs

def behindSlash (k : List UInt8 → Bool) : List UInt8 → Bool
  | [] => false
  | b :: bs => (b == 0x2f && k bs) || behindSlash k bs

def behind (k : List UInt8 → Bool) : (start bs : List UInt8) → Bool
  | [], bs => k bs
  | _ :: _, [] => false
  | a :: start, b :: bs => a == b && behind k start bs

mutual

-- Whether a token stands for no text at all: a group without a non-empty alternative.
def isVoid : GlobToken → Bool
  | .alternatives ps => allVoid ps
  | _ => false

def areVoid : List GlobToken → Bool
  | [] => true
  | t :: ts => isVoid t && areVoid ts

def allVoid : List (List GlobToken) → Bool
  | [] => true
  | p :: ps => areVoid p && allVoid ps

end

def width : GlobToken → Nat
  | .literal c => (String.utf8EncodeChar c).length
  | .trailingAll => 2
  | .alternatives ps => if allVoid ps then 0 else 1
  | _ => 1

mutual

-- How deep the pieces are nested. A repetition, a group, a choice, a class and several pieces side
-- by side are a level each, and so are several ranges in a class.
def depth : GlobToken → Nat
  | .literal _ | .any => 0
  | .star | .trailingAll => 1
  | .leadingDirs | .innerDirs => 4
  | .oneOf _ ranges => if (ranges.flatMap byteRanges).length ≤ 1 then 1 else 2
  | .alternatives ps =>
    if allVoid ps then 0
    else (if (ps.filter (!areVoid ·)).length ≤ 1 then 1 else 2) + depthOfChoices ps

def depthOfPieces : List GlobToken → Nat
  | [] => 0
  | t :: ts => max (depth t) (depthOfPieces ts)

def depthOfChoices : List (List GlobToken) → Nat
  | [] => 0
  | p :: ps =>
    max ((if (p.map width).sum ≤ 1 then 0 else 1) + depthOfPieces p) (depthOfChoices ps)

end

def maxDepth : Nat := 250

def isTooDeep (pattern : List GlobToken) : Bool :=
  maxDepth < 1 + depthOfPieces pattern

mutual

def tokenFits : GlobToken → (k : List UInt8 → Bool) → List UInt8 → Bool
  | .literal c, k, bs => behind k (String.utf8EncodeChar c) bs
  | .any, k, bs => match bs with
    | [] => false
    | _ :: bs => k bs
  | .star, k, bs => anySuffix k bs
  | .leadingDirs, k, bs => k bs || behindSlash k bs
  | .trailingAll, k, bs => match bs with
    | b :: bs => b == 0x2f && anySuffix k bs
    | [] => false
  | .innerDirs, k, bs => match bs with
    | b :: bs => b == 0x2f && (k bs || behindSlash k bs)
    | [] => false
  | .oneOf negated ranges, k, bs => match bs with
    | b :: bs => inClass negated ranges b && k bs
    | [] => false
  | .alternatives ps, k, bs => if allVoid ps then k bs else alternativesFit ps k bs

def tokensFit : List GlobToken → (k : List UInt8 → Bool) → List UInt8 → Bool
  | [], k, bs => k bs
  | t :: ts, k, bs => tokenFits t (tokensFit ts k) bs

def alternativesFit : List (List GlobToken) → (k : List UInt8 → Bool) → List UInt8 → Bool
  | [], _, _ => false
  | p :: ps, k, bs => (!areVoid p && tokensFit p k bs) || alternativesFit ps k bs

end

def isPlain (p : Char → Bool) : GlobToken → Bool
  | .literal c => p c
  | _ => false

def behindStar (pattern : List GlobToken) : List GlobToken :=
  let ts := match pattern with
    | .leadingDirs :: ts => ts
    | ts => ts
  match ts with
  | .star :: ts => ts
  | ts => ts

-- Whether a pattern is about the name at the end of a path or about its extension: it is a name in
-- any directory, or it ends in a dot that is not merely the end of some plain text.
def asksForName (pattern : List GlobToken) : Bool :=
  let inAnyDirectory := match pattern with
    | .leadingDirs :: t :: ts => (t :: ts).all (isPlain (· ≠ '/'))
    | _ => false
  let plain := behindStar pattern
  inAnyDirectory || pattern.getLast?.any (isPlain (· = '.'))
    && (plain.length = 1 || !plain.all (isPlain fun _ => true))

-- Whether a path ends in a step to the directory above, so that there is no name at its end.
def endsAbove (path : String) : Bool :=
  (path.toList.reverse.takeWhile (· ≠ '/')) == ['.', '.']

def fits (pattern : List GlobToken) (path : String) : Bool :=
  match pattern with
  | [.leadingDirs] => true
  | _ => !(endsAbove path && asksForName pattern)
    && tokensFit pattern List.isEmpty (Text.encodeUtf8 path.toList)

end Glob

end GodotAtlas.Files
