import GodotAtlas.Text.Blank

namespace GodotAtlas.Symbols

open Text

-- Replace every run of white space by one space. The first argument says that the run has been
-- replaced already.
def collapse : (inRun : Bool) → List Char → List Char
  | _, [] => []
  | inRun, c :: cs =>
    if isBlank c then if inRun then collapse true cs else ' ' :: collapse true cs
    else c :: collapse false cs

def dotFollows (cs : List Char) : Bool :=
  (trimStart cs).head? == some '.'

-- Drop the white space next to dots. The first argument says that a dot stands in front.
def tighten : (afterDot : Bool) → List Char → List Char
  | _, [] => []
  | afterDot, c :: cs =>
    if isBlank c then
      if afterDot || dotFollows cs then tighten afterDot cs else c :: tighten false cs
    else c :: tighten (c == '.') cs

def cleanExpr (text : String) : String :=
  String.ofList (trim (tighten false (collapse false (trim text.toList))))

end GodotAtlas.Symbols
