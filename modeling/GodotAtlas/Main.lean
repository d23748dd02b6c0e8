import GodotAtlas.CommandLine.Help
import GodotAtlas.CommandLine.Run

namespace GodotAtlas

open Files CommandLine

def absolutePath (names : List String) : String :=
  "/" ++ "/".intercalate names

def namesOf (path : String) : List String :=
  (parts path).map String.ofList

def isContentNeeded (name : String) : Bool :=
  match FileKind.ofPath name with
  | .script | .scene | .resource => true
  | .ignored | .other _ => name == Format.projectFile || Config.fileNames.contains name

def faultOf : IO.Error → FileError
  | .permissionDenied .. => .denied
  | e => .other (toString e)

-- What is at a path, without what directories and files hold. A link is told by the place that it
-- leads to; one that leads nowhere is left out.
def loadShallow? (path : String) : IO (Option Entry) := do
  let cwd ← IO.currentDir
  try
    match (← (cwd / path).symlinkMetadata).type with
    | .dir => return some (.dir [])
    | .file => return some (.file [])
    | .symlink => return some (.link (← IO.FS.realPath path).toString)
    | .other => return some .device
  catch _ => return none

def loadFile (path : String) : IO Entry := do
  try
    return .file (← IO.FS.readBinFile path).toList
  catch e => return .locked false (faultOf e)

def loadDir : Nat → (path : String) → IO Entry
  | 0, _ => return .dir []
  | n + 1, path => do
    let cwd ← IO.currentDir
    try
      let mut entries := []
      for e in ← (cwd / path).readDir do
        let inside := join path e.fileName
        match ← loadShallow? inside with
        | some (.dir _) => entries := (e.fileName, ← loadDir n inside) :: entries
        | some (.file bytes) =>
          let file ← if isContentNeeded e.fileName then loadFile inside else pure (.file bytes)
          entries := (e.fileName, file) :: entries
        | some other => entries := (e.fileName, other) :: entries
        | none => pure ()
      return .dir entries
    catch e => return .locked true (faultOf e)

def mountNames (root : Entry) : (here names : List String) → IO Entry
  | _, [] => return root
  | here, n :: names => do
    let next := here ++ [n]
    match root.at? next, ← loadShallow? (absolutePath next) with
    | none, some e => mountNames (root.put next e) next names
    | some _, _ => mountNames root next names
    | none, none => return root

-- Put into a tree what stands on the way along a path, which may lead over links.
def mountWay (root : Entry) : (here : List String) → List (List Char) →
    IO (Entry × List String)
  | here, [] => return (root, here)
  | here, p :: ps => do
    if p = ['.'] then mountWay root here ps
    else if p = ['.', '.'] then mountWay root here.dropLast ps
    else
      let next := here ++ [String.ofList p]
      match ← loadShallow? (absolutePath next) with
      | some (.link target) =>
        let root ← mountNames (root.put next (.link target)) [] (namesOf target)
        mountWay root (namesOf target) ps
      | _ => mountWay (← mountNames root here [String.ofList p]) next ps

def mountPath (root : Entry) (cwd : List String) (path : String) : IO (Entry × List String) :=
  mountWay root (FileSystem.startFrom cwd path) (parts path)

def mount (root : Entry) (cwd : List String) (path : String) : IO Entry := do
  let (root, place) ← mountPath root cwd path
  match root.at? place with
  | some (.dir _) => return root.put place (← loadDir FileSystem.maxPath path)
  | some (.file _) => return root.put place (← loadFile path)
  | _ => return root

def mountSought (root : Entry) (cwd : List String) (project : String) : IO Entry :=
  (Format.projectFile :: Config.fileNames).foldlM (fun root name => do
    match ← loadShallow? (join project name) with
    | some (.link _) => mount root cwd (join project name)
    | _ => return root) root

def loadFileSystem (a : Arguments) : IO FileSystem := do
  let cwd := namesOf (← IO.currentDir).toString
  let root ← mountNames (.dir []) [] cwd
  let root ← mount root cwd a.project
  let root ← mountSought root cwd a.project
  let root ← match a.config with
    | some path => mount root cwd path
    | none => pure root
  let (root, _) ← mountPath root cwd a.outputPath
  return { root, cwd }

def wantsColor : IO Bool := do
  let asked (name : String) : IO (Option Bool) := return (← IO.getEnv name).map (· != "0")
  if (← asked "CLICOLOR_FORCE") == some true then return true
  if (← asked "NO_COLOR").isSome then return false
  return (← asked "CLICOLOR").getD true && (← (← IO.getStdout).isTty)

def CommandLine.Outcome.perform (bytes : List UInt8) (a : Arguments) (o : Outcome) :
    IO UInt32 := do
  match o with
  | .written _ printed =>
    IO.FS.writeBinFile a.outputPath (ByteArray.mk bytes.toArray)
    IO.print printed
  | .refused printed => IO.eprint printed
  | .failed message => IO.eprint (Outcome.errorLine message)
  return o.exitCode.toUInt32

def program (args : List String) : IO UInt32 := do
  match Arguments.parse args with
  | .error e =>
    IO.print e.output
    IO.eprint e.complaint
    return e.exitCode.toUInt32
  | .ok a =>
    try
      let fs ← loadFileSystem a
      match reportOf fs a with
      | .ok (config, r) =>
        let outcome := writeReport fs (← wantsColor) a config.limits r
        outcome.perform (reportBytes a config.limits r) a
      | .error outcome => outcome.perform [] a
    catch e =>
      IO.eprint (Outcome.errorLine (toString e))
      return 2

end GodotAtlas

def main (args : List String) : IO UInt32 :=
  GodotAtlas.program args
