import GodotAtlas.Format.Resource

namespace GodotAtlas.Format

open Text

def projectFile : String := "project.godot"

structure Autoload where
  name : String
  path : String
  isGlobal : Bool
deriving DecidableEq, Repr

structure Project where
  found : Bool := false
  name : String := "Unknown"
  mainScene : Option String := none
  features : List String := []
  engineVersion : Option String := none
  renderer : Option String := none
  autoloads : List Autoload := []
  inputActions : List String := []
deriving DecidableEq, Repr

def quotedLine (key : String) : Matcher String := fun before cs =>
  (settingAt? key before cs).bind fun cs =>
    (skip? ['"'] cs).bind fun cs => (until? '"' cs).map fun (t, r) => (String.ofList t, r)

def rendererLine : Matcher String := fun before cs =>
  if atLineStart before then
    let cs := trimStart cs
    let cs := (skip? "rendering/".toList cs).getD cs
    (skip? "renderer/rendering_method".toList cs).bind fun cs =>
      quotedSetting? ((skip? ".mobile".toList cs).getD cs)
  else none

def featureLine : Matcher (List Char) := fun before cs =>
  (settingAt? "config/features" before cs).bind fun cs =>
    (skip? "PackedStringArray(".toList cs).bind (until? ')')

def splitFeatures (cs : List Char) : List String :=
  (((splitAt ',' cs).map fun f => stripEnds (· == '"') (trim f)).filter (!·.isEmpty)).map
    String.ofList

def isVersion (s : String) : Bool :=
  match run? isDigit s.toList with
  | some (_, '.' :: cs) => !cs.isEmpty && cs.all isDigit
  | _ => false

def sectionOf? (line : List Char) : Option (List Char) :=
  (skip? ['['] line).bind fun cs =>
    match until? ']' cs with
    | some (c :: name, []) => some (c :: name)
    | _ => none

def assignedName? (line : List Char) : Option (String × List Char) :=
  (word? line).bind fun (name, cs) =>
    (skip? ['='] (trimStart cs)).map fun cs => (String.ofList name, trimStart cs)

def autoloadOf? (line : List Char) : Option Autoload :=
  (assignedName? line).bind fun (name, cs) =>
    (skip? ['"'] cs).bind fun cs =>
      let star := skip? ['*'] cs
      let cs := star.getD cs
      if (skip? "res://".toList cs).isSome || (skip? "uid://".toList cs).isSome then
        (until? '"' cs).map fun (path, _) =>
          { name, path := String.ofList path, isGlobal := star.isSome }
      else none

def actionOf? (line : List Char) : Option String :=
  (assignedName? line).bind fun (name, cs) => (skip? ['\x7b'] cs).map fun _ => name

-- What the lines of a section called `name` hold, given the section in front of the first line. A
-- header line holds nothing.
def entriesIn {α : Type} (name : List Char) (read? : List Char → Option α) :
    Option (List Char) → List (List Char) → List α
  | _, [] => []
  | current, line :: rest =>
    match sectionOf? line with
    | some next => entriesIn name read? (some next) rest
    | none =>
      let found := if current = some name then (read? line).toList else []
      found ++ entriesIn name read? current rest

namespace Project

def ofText (text : List Char) : Project :=
  let features := ((featureLine.all text).getLast?.map splitFeatures).getD []
  let trimmed := (lines text).map trim
  { found := true
    name := ((quotedLine "config/name").find? text).getD "Unknown"
    mainScene := (quotedLine "run/main_scene").find? text
    features
    engineVersion := features.find? isVersion
    renderer := rendererLine.find? text
    autoloads := entriesIn "autoload".toList autoloadOf? none trimmed
    inputActions := entriesIn "input".toList actionOf? none trimmed }

end Project

end GodotAtlas.Format
