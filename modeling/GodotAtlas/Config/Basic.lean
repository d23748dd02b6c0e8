import GodotAtlas.Render.Markdown
import GodotAtlas.Report.Scan

namespace GodotAtlas

open Files

structure Config where
  excludeDirs : List String := Report.defaultExcludedDirs
  excludedPaths : List String := []
  fullSource : Bool := false
  limits : Render.Limits := {}
deriving DecidableEq, Repr

inductive Config.Setting where
  | excludeDirs | excludedPaths | fullSource | maxAssetsPerCategory | maxOtherAssets
deriving DecidableEq, Repr

namespace Config.Setting

def key : Setting → String
  | excludeDirs => "exclude_dirs"
  | excludedPaths => "excluded_paths"
  | fullSource => "full_source"
  | maxAssetsPerCategory => "max_assets_per_category"
  | maxOtherAssets => "max_other_assets"

def all : List Setting :=
  [excludeDirs, excludedPaths, fullSource, maxAssetsPerCategory, maxOtherAssets]

def ofKey? (key : String) : Option Setting :=
  all.find? (·.key == key)

end Config.Setting

inductive Config.Fault where
  | malformed
  | noSettings
  | oddKey
  | repeated (s : Config.Setting)
  | unfit (s : Config.Setting)
deriving DecidableEq, Repr

def Config.Fault.message : Config.Fault → String
  | malformed => "not a YAML document"
  | noSettings => "not a mapping"
  | oddKey => "a key is not a scalar"
  | repeated s => s!"duplicate field {s.key}"
  | unfit s => s!"invalid value for {s.key}"

inductive Config.ReadFault where
  | file (e : FileError)
  | notText
deriving DecidableEq, Repr

def Config.ReadFault.message : Config.ReadFault → String
  | file e => e.message
  | notText => "stream did not contain valid UTF-8"

inductive ConfigError where
  | unreadable (path : String) (cause : Config.ReadFault)
  | invalid (path : String) (cause : Config.Fault)
  | badPattern (pattern : String) (cause : GlobFault)
deriving DecidableEq, Repr

namespace ConfigError

def cause : ConfigError → String
  | unreadable _ c => c.message
  | invalid _ c => c.message
  | badPattern p c => s!"error parsing glob '{p}': {c.message}"

def message (e : ConfigError) : String :=
  match e with
  | unreadable path _ => s!"cannot read config {Text.quoted path}: {e.cause}"
  | invalid path _ => s!"invalid config {Text.quoted path}: {e.cause}"
  | badPattern p _ => s!"invalid excluded_paths pattern {Text.quoted p}: {e.cause}"

def fullMessage (e : ConfigError) : String :=
  s!"{e.message}: {e.cause}"

end ConfigError

def parsePatterns : List String → Except ConfigError (List (List GlobToken))
  | [] => .ok []
  | p :: ps =>
    match Glob.parse p with
    | .ok tokens => (parsePatterns ps).map (tokens :: ·)
    | .error e => .error (.badPattern p e)

-- All patterns are compiled together, so an error of this sort names all of them.
def readPatterns (ps : List String) : Except ConfigError (List (List GlobToken)) :=
  match parsePatterns ps with
  | .ok patterns =>
    if patterns.any Glob.isTooDeep then .error (.badPattern (", ".intercalate ps) .tooDeep)
    else .ok patterns
  | .error e => .error e

namespace Config

def validate (c : Config) : Except ConfigError Unit :=
  (readPatterns c.excludedPaths).map fun _ => ()

def scanOptions (c : Config) : Except ConfigError Report.ScanOptions :=
  (readPatterns c.excludedPaths).map fun excludedPaths =>
    { excludeDirs := c.excludeDirs, excludedPaths, includeSource := c.fullSource }

end Config

end GodotAtlas
