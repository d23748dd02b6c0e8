import GodotAtlas.Report.Basic
import GodotAtlas.Text.Matcher

namespace GodotAtlas.Render

open Symbols Format Report

structure Limits where
  assetsPerCategory : Nat := 20
  otherAssets : Nat := 15
deriving DecidableEq, Repr

def version : String := "0.1.0"

def nothing : String := "—"

def indentation (level : Nat) : String :=
  String.ofList (List.replicate (2 * level) ' ')

def joinLines (ls : List String) : String :=
  "\n".intercalate ls

def code (s : String) : String :=
  "`" ++ s ++ "`"

def row (cells : List String) : String :=
  "| " ++ " | ".intercalate cells ++ " |"

def dropTrailingBlank (ls : List String) : List String :=
  (ls.reverse.dropWhile (·.isEmpty)).reverse

def unlessEmpty {α : Type} (items : List α) (ls : List String) : List String :=
  if items.isEmpty then [] else ls

def headerSection (r : GodotAtlas.Report) : List String :=
  [s!"# Project Architecture: {r.project.name}", "", s!"> **Path:** `{r.root}`",
   s!"> **Generator:** gdarch {version}", "", "---"]

def overviewSection (r : GodotAtlas.Report) : List String :=
  let p := r.project
  ["## 1. Project Overview", "", "| Property | Value |", "|----------|-------|",
   row ["**Project Name**", p.name]]
  ++ (p.engineVersion.map fun v => row ["**Engine Version**", v]).toList
  ++ unlessEmpty p.features [row ["**Engine Features**", ", ".intercalate p.features]]
  ++ (p.mainScene.map fun s => row ["**Main Scene**", code s]).toList
  ++ (p.renderer.map fun s => row ["**Renderer**", s]).toList
  ++ [row ["**Scripts**", toString r.stats.scripts], row ["**Scenes**", toString r.stats.scenes],
      row ["**Resources (.tres)**", toString r.stats.resources]]
  ++ unlessEmpty p.inputActions
      [row ["**Input Actions**", ", ".intercalate (p.inputActions.map code)]]

structure TreeEntry where
  level : Nat
  name : String
  isDir : Bool
deriving DecidableEq, Repr

def TreeEntry.line (e : TreeEntry) : String :=
  indentation e.level ++ e.name ++ (if e.isDir then "/" else "")

def pathNames (path : String) : List String :=
  (Text.splitAt '/' path.toList).map String.ofList

-- The entries for the directories of a file that have not been shown, and the directories shown so
-- far. A directory is given by the names that lead to it.
def dirEntries (seen : List (List String)) : (shown names : List String) →
    List TreeEntry × List (List String)
  | _, [] => ([], seen)
  | _, [_] => ([], seen)
  | shown, n :: m :: ns =>
    let dir := shown ++ [n]
    if seen.contains dir then dirEntries seen dir (m :: ns)
    else
      let (es, seen) := dirEntries (dir :: seen) dir (m :: ns)
      ({ level := shown.length, name := n, isDir := true } :: es, seen)

-- The entries of the directory tree: each file, and each directory in front of the first file below
-- it.
def treeEntries (seen : List (List String)) : List String → List TreeEntry
  | [] => []
  | file :: files =>
    let names := pathNames file
    let (dirs, seen) := dirEntries seen [] names
    dirs ++ { level := names.length - 1, name := names.getLastD "", isDir := false }
      :: treeEntries seen files

def treeSection (r : GodotAtlas.Report) : List String :=
  ["## 2. Directory Structure", "", "```"] ++ (treeEntries [] r.allFiles).map (·.line) ++ ["```"]

def typeLabel (t : Table) : String :=
  match t.className, t.base with
  | some c, some b => s!"{c} (extends {b})"
  | some c, none => c
  | none, some b => b
  | none, none => ""

def autoloadSection (r : GodotAtlas.Report) : List String :=
  unlessEmpty r.project.autoloads
    (["## 3. Autoloads (Singletons)", "", "| Name | Path | Type |", "|------|------|------|"]
    ++ r.project.autoloads.map fun a =>
      row [s!"**{a.name}**", code a.path, ((r.scriptForPath? a.path).map typeLabel).getD ""])

def classSection (r : GodotAtlas.Report) : List String :=
  unlessEmpty r.classRegistry.entries
    (["## 4. Class Registry (class_name)", "", "| Class Name | File | Extends |",
      "|------------|------|---------|"]
    ++ r.classRegistry.entries.map fun (c, file) =>
      row [code c, code file, code (((r.scripts.get? file).bind (·.base)).getD "?")])

def nodeLine (n : SceneNode) : String :=
  (if n.depth = 0 then "" else indentation n.depth ++ "└─ ")
  ++ n.name ++ (n.type.elim "" fun t => s!" ({t})")
  ++ (if n.instance.isSome then " [Instance]" else "")

def nodeTree (s : Scene) : String :=
  if s.nodes.isEmpty then "(empty scene)" else joinLines (s.nodes.map nodeLine)

def connectionLine (c : Connection) : String :=
  s!"- `{c.source}`.{c.signal} → `{c.target}`.{c.method}()"

def extResourceLine (x : ExtResource) : String :=
  "- [" ++ x.type.getD "?" ++ "] " ++ code (x.path.getD "?")

def sceneLines (path : String) (s : Scene) : List String :=
  s!"### `{path}`" ::
  match s.error with
  | some e => [s!"> Read error: {e}", ""]
  | none =>
    let used := s.extResources.filter fun x => x.type.isSome && !x.isScript
    (s.root.map fun n => s!"- **Root:** {n.name} ({n.type})").toList
    ++ (s.script.map fun p => s!"- **Script:** `{p}`").toList
    ++ ["", "```", nodeTree s, "```"]
    ++ unlessEmpty s.connections
      (["", "**Signal Connections:**"] ++ s.connections.map connectionLine)
    ++ unlessEmpty used (["", "**External Resources:**"] ++ used.map extResourceLine)
    ++ [""]

def sceneSection (r : GodotAtlas.Report) : List String :=
  unlessEmpty r.scenes.entries
    (["## 5. Scene Map", ""] ++ r.scenes.entries.flatMap fun (path, s) => sceneLines path s)

def diagnosticLength : Nat := 100

def propertyLine (withDefault : Bool) (p : Property) : String :=
  "- `" ++ p.name ++ p.type.elim "" (": " ++ ·)
  ++ (if withDefault then p.default.elim "" (" = " ++ ·) else "") ++ "`"

def propertyLines (title : String) (withDefault : Bool) (ps : List Property) : List String :=
  unlessEmpty ps (("\n" ++ title) :: ps.map (propertyLine withDefault))

def functionNotes (f : Function) : List String :=
  (if f.isStatic then ["static"] else [])
  ++ (if f.name.toList.head? = some '_' then ["override/private"] else [])

def functionRow (f : Function) : String :=
  row [code f.name, code s!"({formatParams f.params})", code (f.returnType.getD nothing),
    ", ".intercalate (functionNotes f)]

def enumLine (e : Enumeration) : String :=
  code (e.name.getD "(anonymous)") ++ " \x7b " ++ ", ".intercalate e.values ++ " \x7d"

def constantLine (c : Constant) : String :=
  "- " ++ code c.name ++ c.value.elim "" (" = " ++ ·)

def innerTypeLines (t : InnerType) : List String :=
  ("- " ++ code ("class " ++ t.name ++ t.base.elim "" (" extends " ++ ·)))
  :: t.members.allFunctions.map fun f => s!"  - func `{f.name}()`"

def scriptTitle (t : Table) : List String :=
  (if t.summary.isTool then ["@tool"] else [])
  ++ (t.className.map fun c => s!"**class_name** `{c}`").toList
  ++ (t.base.map fun b => s!"**extends** `{b}`").toList

def scriptLines (path : String) (t : Table) : List String :=
  let m := t.members
  [s!"### `{path}`"]
  ++ (t.diagnostic.map fun d => "> Parser error (used line-based fallback): "
      ++ String.ofList (d.toList.take diagnosticLength)).toList
  ++ unlessEmpty (scriptTitle t) [" | ".intercalate (scriptTitle t)]
  ++ unlessEmpty m.enums ("\n**Enums:**" :: m.enums.map fun e => "- " ++ enumLine e)
  ++ unlessEmpty m.constants ("\n**Constants:**" :: m.constants.map constantLine)
  ++ unlessEmpty m.signals ("\n**Signals:**" :: m.signals.map fun s =>
      "- " ++ code s!"{s.name}({formatParams s.params})")
  ++ propertyLines "**Exports:**" true m.exported
  ++ propertyLines "**@onready Variables:**" false m.deferred
  ++ propertyLines "**Variables:**" true m.plain
  ++ unlessEmpty m.allFunctions
      (["\n**Functions:**", "| Function | Arguments | Returns | Notes |",
        "|----------|-----------|---------|-------|"] ++ m.allFunctions.map functionRow)
  ++ unlessEmpty t.summary.innerTypes
      ("\n**Inner Classes:**" :: t.summary.innerTypes.flatMap innerTypeLines)
  ++ unlessEmpty t.dependencies
      ("\n**Dependencies (preload/load):**" :: t.dependencies.map fun d => "- " ++ code d)
  ++ [""]

def scriptSection (r : GodotAtlas.Report) : List String :=
  unlessEmpty r.scripts.entries
    (["## 6. Scripts Detail", ""] ++ r.scripts.entries.flatMap fun (path, t) => scriptLines path t)

def signalRows (e : SignalEntry) : List String :=
  let connected :=
    if e.connectedIn.isEmpty then nothing else ", ".intercalate (e.connectedIn.map code)
  if e.definitions.isEmpty then [row [code e.name, nothing, nothing, connected]]
  else e.definitions.map fun d =>
    row [code e.name, code d.file, code s!"({formatParams d.params})", connected]

def signalSection (r : GodotAtlas.Report) : List String :=
  unlessEmpty r.signals
    (["## 7. Global Signal Map", "", "| Signal | Defined In | Arguments | Connected In |",
      "|--------|------------|-----------|--------------|"] ++ r.signals.flatMap signalRows)

def resourceRow (path : String) (x : Resource) : String :=
  let script := match x.script with
    | some (.external _ (some p)) => code p
    | some (.external id none) => s!"ExtResource(`{id}`)"
    | some (.inline _) => "(inline)"
    | none => nothing
  row [code path, x.type.getD "?", x.className.getD nothing, script]

def resourceSection (r : GodotAtlas.Report) : List String :=
  unlessEmpty r.resources.entries
    (["## 8. Resources (.tres)", "", "| File | Type | Class | Script |",
      "|------|------|-------|--------|"]
    ++ r.resources.entries.map fun (path, x) => resourceRow path x)

def Limits.of (l : Limits) : AssetCategory → Nat
  | .other => l.otherAssets
  | _ => l.assetsPerCategory

-- The assets of a category: their number, the first few, and how many more there are.
def assetLines (limits : Limits) (c : AssetCategory) (files : List String) : List String :=
  let limit := limits.of c
  [s!"**{c.label}** ({files.length} files):"]
  ++ (files.take limit).map (fun f => "- " ++ code f)
  ++ (if limit < files.length then [s!"- ... and {files.length - limit} more"] else [])
  ++ [""]

def assetSection (limits : Limits) (r : GodotAtlas.Report) : List String :=
  unlessEmpty r.assets.entries
    (["## 9. Asset Summary", ""]
    ++ r.assets.entries.flatMap fun (c, files) => assetLines limits c files)

def dependencySection (r : GodotAtlas.Report) : List String :=
  ["## 10. Dependency Graph", "", "```", "(script) --preloads/extends--> (dependency)", ""]
  ++ (r.dependencies.entries.flatMap fun (path, edges) =>
    (indentation 1 ++ path) :: edges.map fun e => indentation 2 ++ "└─→ " ++ e.text)
  ++ ["```"]

def sourceLines (path source : String) : List String :=
  [s!"### `{path}`", "```gdscript", String.ofList (Text.trimEnd source.toList), "```", ""]

def sourceSection (r : GodotAtlas.Report) : List String :=
  unlessEmpty r.sources.entries
    (["## Full Source Code", "", "> Included with `--full-source`.", ""]
    ++ r.sources.entries.flatMap fun (path, source) => sourceLines path source)

def warningSection (r : GodotAtlas.Report) : List String :=
  unlessEmpty r.warnings (["## Warnings", ""] ++ r.warnings.map fun w => "- " ++ w.text)

def statRow (label : String) (n : Nat) : String :=
  row [label, toString n]

def statsSection (r : GodotAtlas.Report) : List String :=
  let s := r.stats
  ["---", "", "## Stats Summary", "", "| Metric | Count |", "|--------|-------|",
   statRow "Scripts" s.scripts, statRow "Scenes" s.scenes, statRow "Resources" s.resources,
   statRow "Total Files" s.totalFiles, statRow "Registered Classes" s.classes,
   statRow "Total Functions" s.functions, statRow "Total Signals" s.signals,
   statRow "Total Exports" s.exports, statRow "Autoloads" s.autoloads]
  ++ (if 0 < s.parseErrors then [statRow "Parse Errors" s.parseErrors] else [])
  ++ (if 0 < s.unreadableScenes then [statRow "Unreadable Scenes" s.unreadableScenes] else [])

def sections (limits : Limits) (r : GodotAtlas.Report) : List (List String) :=
  [headerSection r, overviewSection r, treeSection r, autoloadSection r, classSection r,
   dropTrailingBlank (sceneSection r), dropTrailingBlank (scriptSection r), signalSection r,
   resourceSection r, dropTrailingBlank (assetSection limits r), dependencySection r,
   dropTrailingBlank (sourceSection r), warningSection r, statsSection r]

def renderMarkdown (limits : Limits) (r : GodotAtlas.Report) : String :=
  let shown := ((sections limits r).map joinLines).filter (!·.isEmpty)
  "\n\n".intercalate shown ++ "\n"

end GodotAtlas.Render
