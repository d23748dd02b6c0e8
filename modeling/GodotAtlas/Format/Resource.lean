import GodotAtlas.Format.Header
import GodotAtlas.Text.Utf8

namespace GodotAtlas.Format

open Text

inductive ScriptReference where
  | inline (source : String)
  | external (id : String) (path : Option String)
deriving DecidableEq, Repr

structure Resource where
  type : Option String := none
  className : Option String := none
  script : Option ScriptReference := none
deriving DecidableEq, Repr

def Resource.scriptPath? (r : Resource) : Option String :=
  match r.script with
  | some (.external _ path) => path
  | _ => none

-- White space, an equals sign, white space and a double quote; then the text up to the next one.
def quotedSetting? (cs : List Char) : Option (String × List Char) :=
  (skip? ['='] (trimStart cs)).bind fun cs =>
    (skip? ['"'] (trimStart cs)).bind fun cs =>
      (until? '"' cs).map fun (t, r) => (String.ofList t, r)

def typeAttribute : Option Char → List Char → Option (String × List Char)
  | _, [] => none
  | before, c :: cs =>
    let here :=
      if atBoundary before (c :: cs) then
        (skip? "type=\"".toList (c :: cs)).bind (until? '"')
      else none
    match here with
    | some (t, r) => some (String.ofList t, r)
    | none => if c == ']' || c == '\n' then none else typeAttribute (some c) cs

def resourceType : Matcher String := fun _ cs =>
  (skip? "[gd_resource".toList cs).bind fun cs =>
    if atBoundary (some 'e') cs then typeAttribute (some 'e') cs else none

def scriptClass : Matcher String := fun before cs =>
  if atBoundary before cs then
    ((skip? "script_class".toList cs).or (skip? "class_name".toList cs)).bind quotedSetting?
  else none

def settingAt? (key : String) (before : Option Char) (cs : List Char) : Option (List Char) :=
  if atLineStart before then
    (skip? key.toList (trimStart cs)).bind fun cs =>
      (skip? ['='] (trimStart cs)).map trimStart
  else none

def inlineSource : Matcher String := fun before cs =>
  (settingAt? "script/source" before cs).bind fun cs =>
    (skip? ['"'] cs).bind fun cs => (quotedBody? cs).map fun (t, r) => (String.ofList t, r)

def externalScript : Matcher String := fun before cs =>
  (settingAt? "script" before cs).bind fun cs =>
    (skip? "ExtResource(".toList cs).bind fun cs =>
      (until? ')' cs).map fun (t, r) => ("ExtResource(" ++ String.ofList t ++ ")", r)

def declaredPath? (headers : List Header) (id : String) : Option String :=
  (headers.filter fun h => h.kind == "ext_resource" && h.get? "id" == some id).findSome?
    (·.nonEmpty? "path")

namespace Resource

def scriptOfText? (text : List Char) : Option ScriptReference :=
  match (externalScript.find? text).bind extResourceId? with
  | some id => some (.external id (declaredPath? (Header.all text) id))
  | none => (inlineSource.find? text).map .inline

def ofText (text : List Char) : Resource where
  type := resourceType.find? text
  className := scriptClass.find? text
  script := scriptOfText? text

def headerLines : Nat := 31

def byteLines : List UInt8 → List (List UInt8)
  | [] => []
  | b :: bs =>
    if b = 0x0a then [b] :: byteLines bs
    else match byteLines bs with
      | [] => [[b]]
      | l :: ls => (b :: l) :: ls

def headerText (bytes : List UInt8) : List Char :=
  ((byteLines bytes).take headerLines).flatMap decodeLossy

def ofBytes (bytes : List UInt8) : Resource :=
  ofText (headerText bytes)

end Resource

end GodotAtlas.Format
