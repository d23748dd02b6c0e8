import GodotAtlas.Config.Basic
import GodotAtlas.Yaml.Node

namespace GodotAtlas

open Yaml

namespace Config

def text? (d : Document) (n : Node) : Option String :=
  match d.follow n with
  | some (.scalar _ _ text) => some text
  | _ => none

def strings? (d : Document) (n : Node) : Option (List String) :=
  match d.follow n with
  | some (.sequence items) => items.mapM (text? d)
  | some (.scalar .plain _ "") => some []
  | _ => none

-- The text of a scalar that is more than a string: a plain one, or a literal block with a tag that
-- says so.
def untyped? (d : Document) (tag : String) (n : Node) : Option String :=
  match d.follow n with
  | some (.scalar .plain _ text) => some text
  | some (.scalar .literal (some t) text) => if t == tag.toList then some text else none
  | _ => none

def flagOf? (text : String) : Option Bool :=
  if ["true", "True", "TRUE"].contains text then some true
  else if ["false", "False", "FALSE"].contains text then some false
  else none

def flag? (d : Document) (n : Node) : Option Bool :=
  (untyped? d "tag:yaml.org,2002:bool" n).bind flagOf?

def countBound : Nat := 0x10000000000000000

def digits? (base : Nat) (cs : List Char) : Option Nat :=
  if cs.isEmpty then none
  else ((cs.mapM fun c => (hexValue? c).filter (· < base)).map
    (·.foldl (fun n d => base * n + d) 0)).filter (· < countBound)

-- A number without its sign: in base ten without leading zeros, or in a base that is announced by a
-- zero and a letter.
def unsigned? : List Char → Option Nat
  | '0' :: 'x' :: cs => digits? 16 cs
  | '0' :: 'o' :: cs => digits? 8 cs
  | '0' :: 'b' :: cs => digits? 2 cs
  | '0' :: _ :: _ => none
  | cs => digits? 10 cs

def countOf? (text : String) : Option Nat :=
  match text.toList with
  | '+' :: cs => unsigned? cs
  | cs => unsigned? cs

def count? (d : Document) (n : Node) : Option Nat :=
  (untyped? d "tag:yaml.org,2002:int" n).bind countOf?

structure Draft where
  config : Config := {}
  given : List Setting := []

namespace Draft

def assign (doc : Document) (c : Config) (value : Node) : Setting → Option Config
  | .excludeDirs => (strings? doc value).map fun v => { c with excludeDirs := v }
  | .excludedPaths => (strings? doc value).map fun v => { c with excludedPaths := v }
  | .fullSource => (flag? doc value).map fun v => { c with fullSource := v }
  | .maxAssetsPerCategory =>
    (count? doc value).map fun v => { c with limits := { c.limits with assetsPerCategory := v } }
  | .maxOtherAssets =>
    (count? doc value).map fun v => { c with limits := { c.limits with otherAssets := v } }

def add (doc : Document) (draft : Draft) (key value : Node) : Except Fault Draft :=
  match text? doc key with
  | none => .error .oddKey
  | some text =>
    match Setting.ofKey? text with
    | none => .ok draft
    | some s =>
      if draft.given.contains s then .error (.repeated s)
      else match assign doc draft.config value s with
        | some config => .ok { config, given := s :: draft.given }
        | none => .error (.unfit s)

end Draft

-- The configuration that a document holds; one without content holds the defaults.
def ofDocument (d : Document) : Except Fault Config :=
  match d.root with
  | none => .ok {}
  | some (.scalar .plain _ "") => .ok {}
  | some (.mapping entries) =>
    (entries.foldlM (fun (draft : Draft) e => draft.add d e.1 e.2) {}).map (·.config)
  | some _ => .error .noSettings

def ofText (text : List Char) : Except Fault Config :=
  if text.all Text.isBlank then .ok {}
  else match Document.ofText? text with
    | some d => ofDocument d
    | none => .error .malformed

def fileNames : List String := ["gdarch.yaml", ".gdarch.yaml"]

def discover? (fs : Files.FileSystem) (root : String) : Option String :=
  (fileNames.map (Files.join root)).find? fs.isFile

def ofFile (fs : Files.FileSystem) (path : String) : Except ConfigError Config :=
  match fs.read path with
  | .error e => .error (.unreadable path (.file e))
  | .ok bytes =>
    match Text.decodeStrict? bytes with
    | none => .error (.unreadable path .notText)
    | some text =>
      match ofText text with
      | .ok c => .ok c
      | .error e => .error (.invalid path e)

end Config

end GodotAtlas
