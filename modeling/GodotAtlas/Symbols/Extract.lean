import GodotAtlas.Symbols.Lines
import GodotAtlas.Symbols.Walk

namespace GodotAtlas.Symbols

open Text

def loadCall : Matcher String := fun _ cs =>
  ((skip? "preload".toList cs).or (skip? "load".toList cs)).bind fun cs =>
    (skip? ['('] (trimStart cs)).bind fun cs =>
      match trimStart cs with
      | q :: cs =>
        if q == '"' || q == '\'' then
          (run? (fun c => c != '"' && c != '\'') cs).bind fun (path, rest) =>
            (skip? [')'] (trimStart (rest.drop 1))).bind fun rest' =>
              if rest.isEmpty then none else some (String.ofList path, rest')
        else none
      | [] => none

def loadReferences (source : String) : List String :=
  loadCall.all source.toList

def extractLines (path source : String) : Table :=
  { path, summary := fromLines source, dependencies := loadReferences source }

def extract (parser : Script.Parser) (path source : String) : Table :=
  match parser source with
  | .ok items => { path, summary := walk none items, dependencies := loadReferences source }
  | .error d => { extractLines path source with diagnostic := some d.message }

end GodotAtlas.Symbols
