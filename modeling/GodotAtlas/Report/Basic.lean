import GodotAtlas.Format.Project
import GodotAtlas.Format.Scene
import GodotAtlas.Report.Asset
import GodotAtlas.Symbols.Table

namespace GodotAtlas.Report

open Format Symbols

inductive Edge where
  | «extends» (className file : String)
  | loads (path : String)
deriving DecidableEq, Repr

def Edge.text : Edge → String
  | «extends» c f => s!"extends {c} ({f})"
  | loads p => s!"loads {p}"

structure SignalDefinition where
  file : String
  params : List Parameter
deriving DecidableEq, Repr

structure SignalEntry where
  name : String
  definitions : List SignalDefinition := []
  connectedIn : List String := []
deriving DecidableEq, Repr

structure Stats where
  scripts : Nat
  scenes : Nat
  resources : Nat
  totalFiles : Nat
  classes : Nat
  functions : Nat
  signals : Nat
  exports : Nat
  autoloads : Nat
  parseErrors : Nat
  unreadableScenes : Nat
deriving DecidableEq, Repr

inductive Warning where
  | missingProjectFile
  -- Several scripts declare one class name; the winner is the one that is registered.
  | classCollision (className : String) (files : List String) (winner : String)
deriving DecidableEq, Repr

def Warning.text : Warning → String
  | missingProjectFile => "no project.godot found at the project root"
  | classCollision c files winner =>
    let listed := ", ".intercalate files
    s!"class_name {c} declared in {files.length} files ({listed}); registry uses {winner}"

end Report

-- The report on a project. Maps are keyed by the path within the project, or by name.
structure Report where
  root : String
  project : Format.Project
  classRegistry : SortedMap String String
  scripts : SortedMap String Symbols.Table
  scenes : SortedMap String Format.Scene
  resources : SortedMap String Format.Resource
  otherFiles : SortedMap String (List String)
  assets : SortedMap Report.AssetCategory (List String)
  signalConnections : SortedMap String (List String)
  signals : List Report.SignalEntry
  dependencies : SortedMap String (List Report.Edge)
  stats : Report.Stats
  warnings : List Report.Warning
  sources : SortedMap String String

namespace Report

def sortStrings (ss : List String) : List String :=
  ss.mergeSort fun a b => (compare a b).isLE

def allFiles (r : Report) : List String :=
  sortStrings (r.scripts.keys ++ r.scenes.keys ++ r.resources.keys ++ r.otherFiles.values.flatten)

def errorCount (r : Report) : Nat :=
  r.stats.parseErrors + r.stats.unreadableScenes

def scriptForPath? (r : Report) (path : String) : Option Symbols.Table :=
  r.scripts.get? (Format.resToRelative path)

end Report

end GodotAtlas
