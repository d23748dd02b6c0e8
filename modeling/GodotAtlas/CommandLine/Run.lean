import GodotAtlas.CommandLine.Arguments
import GodotAtlas.Config.Read
import GodotAtlas.Render.ReportJson
import GodotAtlas.Render.Summary
import GodotAtlas.Script.Parse

namespace GodotAtlas.CommandLine

open Files

def cleanNames (names : List String) : List String :=
  (names.map Text.trimmed).filter (!·.isEmpty)

def Arguments.override (a : Arguments) (c : Config) : Config :=
  { c with
    excludeDirs := (a.exclude.map cleanNames).getD c.excludeDirs
    fullSource := c.fullSource || a.fullSource }

def Arguments.givenConfig (fs : FileSystem) (a : Arguments) : Except ConfigError Config :=
  match a.config.or (Config.discover? fs a.project) with
  | some path => Config.ofFile fs path
  | none => .ok {}

def Arguments.loadConfig (fs : FileSystem) (a : Arguments) : Except ConfigError Config := do
  let c ← a.givenConfig fs
  let c := a.override c
  c.validate
  return c

def Arguments.outputPath (a : Arguments) : String :=
  a.output.getD (join a.project a.format.defaultFileName)

def renderReport (format : Format) (limits : Render.Limits) (r : Report) : String :=
  match format with
  | .markdown => Render.renderMarkdown limits r
  | .json => Render.renderJson r

inductive Outcome where
  | written (fs : FileSystem) (printed : String)
  | refused (printed : String)
  | failed (message : String)

namespace Outcome

def exitCode : Outcome → Nat
  | written _ _ => 0
  | refused _ => 2
  | failed _ => 2

def errorLine (message : String) : String :=
  s!"Error: {message}\n"

def fileSystem (before : FileSystem) : Outcome → FileSystem
  | written fs _ => fs
  | _ => before

end Outcome

def reportBytes (a : Arguments) (limits : Render.Limits) (r : Report) : List UInt8 :=
  Text.encodeUtf8 (renderReport a.format limits r).toList

def writeReport (fs : FileSystem) (color : Bool) (a : Arguments) (limits : Render.Limits)
    (r : Report) : Outcome :=
  match fs.write a.outputPath (reportBytes a limits r) with
  | .ok fs => .written fs (Render.summary color r a.outputPath)
  | .error e => .failed s!"writing {a.outputPath}: {e.message}"

def reportOf (fs : FileSystem) (a : Arguments) : Except Outcome (Config × Report) :=
  match a.loadConfig fs with
  | .error e => .error (.refused (Outcome.errorLine e.fullMessage))
  | .ok config =>
    match config.scanOptions with
    | .error e => .error (.failed e.fullMessage)
    | .ok options =>
      match Report.scan fs Script.parse options a.project with
      | .error e => .error (.refused (Outcome.errorLine e.message))
      | .ok r => .ok (config, r)

def run (fs : FileSystem) (color : Bool) (a : Arguments) : Outcome :=
  match reportOf fs a with
  | .error o => o
  | .ok (config, r) => writeReport fs color a config.limits r

end GodotAtlas.CommandLine
