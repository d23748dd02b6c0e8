import GodotAtlas.Script.Item
import GodotAtlas.Script.Walk
import GodotAtlas.Text.Matcher
import GodotAtlas.Text.Quoted

namespace GodotAtlas.Script

namespace Tree

def snippetLength : Nat := 40

def snippet (text : String) : String :=
  String.ofList ((Text.trim ((Text.lines text.toList).headD [])).take snippetLength)

def fault (t : Tree) : String :=
  if t.info.missing then s!"missing {t.kind.label}"
  else if t.kind == .error then
    if (snippet t.info.text).isEmpty then "unexpected syntax"
    else s!"unexpected syntax near {Text.quoted (snippet t.info.text)}"
  else "syntax error"

def blamed (t : Tree) : Tree :=
  t.firstError.getD t.innermostError

def diagnose (t : Tree) : Diagnostic :=
  let b := t.blamed
  .located b.fault (b.info.line + 1) (b.info.column + 1)

end Tree

end GodotAtlas.Script
