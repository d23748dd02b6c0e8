import GodotAtlas.Report.Basic
import GodotAtlas.Total

namespace GodotAtlas.Report

open Format Symbols

inductive Step where
  | script (table : Table) (source : Option String)
  | scene (path : String) (scene : Scene)
  | resource (path : String) (resource : Resource)
  | other (ext path : String)

structure Findings where
  scripts : SortedMap String Table := .empty
  scenes : SortedMap String Scene := .empty
  resources : SortedMap String Resource := .empty
  otherFiles : SortedMap String (List String) := .empty
  classRegistry : SortedMap String String := .empty
  declarations : SortedMap String (List String) := .empty
  sources : SortedMap String String := .empty

namespace Findings

def declare (f : Findings) (path : String) : Option String → Findings
  | none => f
  | some c =>
    { f with
      classRegistry := f.classRegistry.insert c path
      declarations := f.declarations.alter c fun files => files.getD [] ++ [path] }

def keep (f : Findings) (path : String) : Option String → Findings
  | none => f
  | some s => { f with sources := f.sources.insert path s }

def add (f : Findings) : Step → Findings
  | .script t source =>
    let f := (f.declare t.path t.className).keep t.path source
    { f with scripts := f.scripts.insert t.path t }
  | .scene path s => { f with scenes := f.scenes.insert path s }
  | .resource path r => { f with resources := f.resources.insert path r }
  | .other ext path =>
    { f with otherFiles := f.otherFiles.alter ext fun files => files.getD [] ++ [path] }

def ofSteps (steps : List Step) : Findings :=
  steps.foldl add {}

def signalConnections (f : Findings) : SortedMap String (List String) :=
  .group (f.scenes.entries.flatMap fun (path, s) =>
    (s.connections.map (·.signal)).eraseDups.map fun name => (name, path))

def signalDefinitions (f : Findings) : SortedMap String (List SignalDefinition) :=
  .group (f.scripts.entries.flatMap fun (path, t) =>
    t.members.signals.map fun s => (s.name, { file := path, params := s.params }))

def signals (f : Findings) : List SignalEntry :=
  let declared := f.signalDefinitions.map fun name definitions =>
    ({ name, definitions } : SignalEntry)
  let all := f.signalConnections.entries.foldl (fun m (name, scenes) =>
    m.alter name fun e => { e.getD { name } with connectedIn := scenes }) declared
  all.values

-- The script that a base type stands for: the registered class, or the script at a path.
def resolveBase? (f : Findings) (base : String) : Option String :=
  match f.classRegistry.get? base with
  | some file => some file
  | none =>
    let path := resToRelative base
    if resScheme.toList.isPrefixOf base.toList && f.scripts.contains path then some path else none

def edgesOf (f : Findings) (t : Table) : List Edge :=
  let base := t.base.bind fun b => (f.resolveBase? b).map fun file => Edge.extends b file
  base.toList ++ t.dependencies.map .loads

def dependencies (f : Findings) : SortedMap String (List Edge) :=
  (f.scripts.map fun _ t => f.edgesOf t).filter fun _ edges => !edges.isEmpty

def assets (f : Findings) : SortedMap AssetCategory (List String) :=
  let found := f.otherFiles.entries.filterMap fun (ext, files) =>
    (AssetCategory.ofExtension? ext).map fun c => (c, files)
  (SortedMap.group found).map fun _ lists => sortStrings lists.flatten

def collisions (f : Findings) : List Warning :=
  (f.declarations.entries.filter fun (_, files) => 2 ≤ files.length).map fun (c, files) =>
    .classCollision c files ((f.classRegistry.get? c).getD "")

def warnings (f : Findings) (project : Project) : List Warning :=
  (if project.found then [] else [.missingProjectFile]) ++ f.collisions

def stats (f : Findings) (project : Project) : Stats :=
  let tables := f.scripts.values
  { scripts := f.scripts.size
    scenes := f.scenes.size
    resources := f.resources.size
    totalFiles := f.scripts.size + f.scenes.size + f.resources.size
      + total (f.otherFiles.values.map List.length)
    classes := f.classRegistry.size
    functions := total (tables.map fun t =>
      t.members.functions.length + t.members.staticFunctions.length)
    signals := total (tables.map fun t => t.members.signals.length)
    exports := total (tables.map fun t => t.members.exported.length)
    autoloads := project.autoloads.length
    parseErrors := tables.countP (·.isDegraded)
    unreadableScenes := f.scenes.values.countP (·.error.isSome) }

def report (f : Findings) (root : String) (project : Project) : Report where
  root
  project
  classRegistry := f.classRegistry
  scripts := f.scripts
  scenes := f.scenes
  resources := f.resources
  otherFiles := f.otherFiles
  assets := f.assets
  signalConnections := f.signalConnections
  signals := f.signals
  dependencies := f.dependencies
  stats := f.stats project
  warnings := f.warnings project
  sources := f.sources

end Findings

end GodotAtlas.Report
