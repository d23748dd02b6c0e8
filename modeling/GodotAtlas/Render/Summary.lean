import GodotAtlas.Render.Markdown

namespace GodotAtlas.Render

inductive Style where
  | bold | dimmed | red | green | yellow | blue | cyan
deriving DecidableEq, Repr

def Style.code : Style → String
  | bold => "1"
  | dimmed => "2"
  | red => "31"
  | green => "32"
  | yellow => "33"
  | blue => "34"
  | cyan => "36"

def resetSequence : String := "\x1b[0m"

-- A text with another one behind every sequence that ends all styles. The number counts the
-- characters that are still to be kept of such a sequence.
def restyle (start : List Char) : Nat → List Char → List Char
  | _, [] => []
  | 1, c :: cs => c :: start ++ restyle start 0 cs
  | n + 2, c :: cs => c :: restyle start (n + 1) cs
  | 0, c :: cs =>
    if resetSequence.toList.isPrefixOf (c :: cs) then
      c :: restyle start (resetSequence.length - 1) cs
    else c :: restyle start 0 cs

def styled (color : Bool) (styles : List Style) (text : String) : String :=
  let start := "\x1b[" ++ ";".intercalate (styles.map (·.code)) ++ "m"
  if color then start ++ String.ofList (restyle start.toList 0 text.toList) ++ resetSequence
  else text

def warningLines (color : Bool) (r : GodotAtlas.Report) : List String :=
  unlessEmpty r.warnings
    (["", "  " ++ styled color [.bold, .yellow] "Warnings" ++ s!" ({r.warnings.length}):"]
    ++ r.warnings.map fun w => "    " ++ styled color [.yellow] "WARN" ++ " " ++ w.text)

def errorLines (color : Bool) (r : GodotAtlas.Report) : List String :=
  let s := r.stats
  if 0 < r.errorCount then
    ["", "  " ++ styled color [.red] s!"{r.errorCount} file(s) degraded" ++ "  "
      ++ styled color [.dimmed]
        s!"({s.parseErrors} script fallbacks, {s.unreadableScenes} unreadable scenes)"]
  else []

def summaryLines (color : Bool) (r : GodotAtlas.Report) (output : String) : List String :=
  let s := r.stats
  let bold (n : Nat) := styled color [.bold] (toString n)
  ["", "  " ++ styled color [.bold, .cyan] "gdarch" ++ " v" ++ version, "",
   "  " ++ styled color [.dimmed] "Project: " ++ r.project.name,
   "  " ++ styled color [.dimmed] "Path:    " ++ r.root, "",
   s!"  {bold s.scripts} scripts, {bold s.scenes} scenes, {bold s.resources} resources, "
    ++ s!"{s.totalFiles} files",
   s!"  {s.classes} classes, {s.functions} functions, {s.signals} signals, "
    ++ s!"{s.autoloads} autoloads"]
  ++ warningLines color r ++ errorLines color r
  ++ ["", "  " ++ styled color [.green] "✓" ++ " " ++ styled color [.dimmed] "Written: "
      ++ styled color [.blue] output, ""]

def summary (color : Bool) (r : GodotAtlas.Report) (output : String) : String :=
  joinLines (summaryLines color r output ++ [""])

end GodotAtlas.Render
