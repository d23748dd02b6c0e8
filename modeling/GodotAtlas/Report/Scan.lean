import GodotAtlas.Files.Glob
import GodotAtlas.Files.Listing
import GodotAtlas.Report.Findings
import GodotAtlas.Symbols.Extract
import GodotAtlas.Text.Quoted

namespace GodotAtlas.Report

open Files Format

inductive ScanError where
  | rootNotFound (root : String)
  | notADirectory (root : String)
  | unreadable (root : String) (cause : FileError)
  | walk (root : String) (cause : FileError)
deriving DecidableEq, Repr

def ScanError.message : ScanError → String
  | rootNotFound root => s!"project root {Text.quoted root} does not exist"
  | notADirectory root => s!"project root {Text.quoted root} is not a directory"
  | unreadable root cause =>
    s!"cannot access project root {Text.quoted root}: {cause.message}"
  | walk root cause =>
    s!"walking project tree: IO error for operation on {root}: {cause.message}"

def defaultExcludedDirs : List String := [".godot", ".git", "__pycache__", ".import"]

structure ScanOptions where
  excludeDirs : List String := defaultExcludedDirs
  excludedPaths : List (List GlobToken) := []
  includeSource : Bool := false

def ScanOptions.exclusion (o : ScanOptions) : Exclusion where
  dirs := o.excludeDirs
  paths path := o.excludedPaths.any fun p => Glob.fits p path

def projectAt (fs : FileSystem) (root : String) : Project :=
  match fs.read (Files.join root projectFile) with
  | .ok bytes => .ofText (Text.decodeLossy bytes)
  | .error _ => {}

def sceneAt (fs : FileSystem) (path : String) : Scene :=
  match fs.read path with
  | .ok bytes => .ofText (Text.decodeLossy bytes)
  | .error e => .unreadable e.message

def resourceAt (fs : FileSystem) (path : String) : Resource :=
  match fs.read path with
  | .ok bytes => .ofBytes bytes
  | .error _ => {}

def scriptStep (fs : FileSystem) (parser : Script.Parser) (includeSource : Bool)
    (path relative : String) : Step :=
  match fs.read path with
  | .ok bytes =>
    let source := String.ofList (Text.decodeLossy bytes)
    .script (Symbols.extract parser relative source) (if includeSource then some source else none)
  | .error e => .script { path := relative, diagnostic := some s!"unreadable: {e.message}" } none

-- What a file adds to a report, if anything.
def fileStep? (fs : FileSystem) (parser : Script.Parser) (includeSource : Bool) (f : ProjectFile) :
    Option Step :=
  match f.kind with
  | .script => some (scriptStep fs parser includeSource f.path f.relative)
  | .scene => some (.scene f.relative (sceneAt fs f.path))
  | .resource => some (.resource f.relative (resourceAt fs f.path))
  | .other ext => some (.other ext f.relative)
  | .ignored => none

def checkRoot (fs : FileSystem) (root : String) : Except ScanError Unit :=
  match fs.entry root with
  | .ok e => if e.isDir then .ok () else .error (.notADirectory root)
  | .error .notFound => .error (.rootNotFound root)
  | .error e => .error (.unreadable root e)

def list (fs : FileSystem) (root : String) (x : Exclusion) :
    Except ScanError (List ProjectFile) :=
  match listFiles x root fs with
  | .ok files => .ok files
  | .error e => .error (.walk root e)

def ofFiles (fs : FileSystem) (parser : Script.Parser) (includeSource : Bool) (root : String)
    (files : List ProjectFile) : Report :=
  (Findings.ofSteps (files.filterMap (fileStep? fs parser includeSource))).report root
    (projectAt fs root)

def scanWithout (fs : FileSystem) (parser : Script.Parser) (x : Exclusion) (includeSource : Bool)
    (root : String) : Except ScanError Report := do
  checkRoot fs root
  let files ← list fs root x
  return ofFiles fs parser includeSource root files

def scan (fs : FileSystem) (parser : Script.Parser) (options : ScanOptions) (root : String) :
    Except ScanError Report :=
  scanWithout fs parser options.exclusion options.includeSource root

end GodotAtlas.Report
