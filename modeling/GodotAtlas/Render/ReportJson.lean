import GodotAtlas.Render.Json
import GodotAtlas.Report.Basic

namespace GodotAtlas.Render

open Symbols Format Report Json

def mapJson {κ α : Type} [Ord κ] (key : κ → String) (f : α → Json) (m : SortedMap κ α) : Json :=
  object (m.entries.map fun e => (key e.1, f e.2))

def tableJson {α : Type} (f : α → Json) (m : SortedMap String α) : Json :=
  mapJson id f m

def field? {α : Type} (name : String) (f : α → Json) : Option α → List (String × Json)
  | some a => [(name, f a)]
  | none => []

def parameterJson (p : Parameter) : Json :=
  object [("name", string p.name), ("type", optional string p.type)]

def signalJson (s : Signal) : Json :=
  object [("name", string s.name), ("params", list parameterJson s.params)]

def enumJson (e : Enumeration) : Json :=
  object [("name", optional string e.name), ("values", strings e.values)]

def constantJson (c : Constant) : Json :=
  object [("name", string c.name), ("value", optional string c.value)]

def propertyJson (p : Property) : Json :=
  object [("name", string p.name), ("type", optional string p.type),
    ("default", optional string p.default)]

def functionJson (f : Function) : Json :=
  object [("name", string f.name), ("params", list parameterJson f.params),
    ("return_type", optional string f.returnType), ("is_static", bool f.isStatic)]

def memberFields (m : Members) : List (String × Json) :=
  [("signals", list signalJson m.signals), ("enums", list enumJson m.enums),
   ("constants", list constantJson m.constants), ("exported", list propertyJson m.exported),
   ("deferred", list propertyJson m.deferred), ("plain", list propertyJson m.plain),
   ("functions", list functionJson m.functions),
   ("static_functions", list functionJson m.staticFunctions)]

mutual

def innerTypeJson : InnerType → Json
  | .mk name base members innerTypes =>
    object ([("name", string name), ("base", optional string base)] ++ memberFields members
      ++ [("inner_types", array (innerTypesJson innerTypes))])

def innerTypesJson : List InnerType → List Json
  | [] => []
  | t :: ts => innerTypeJson t :: innerTypesJson ts

end

def symbolsJson (t : Table) : Json :=
  object ([("path", string t.path), ("class_name", optional string t.className),
    ("base", optional string t.base), ("is_tool", bool t.summary.isTool)]
    ++ memberFields t.members
    ++ [("inner_types", array (innerTypesJson t.summary.innerTypes)),
      ("dependencies", strings t.dependencies)]
    ++ field? "diagnostic" string t.diagnostic)

def autoloadJson (a : Autoload) : Json :=
  object [("name", string a.name), ("path", string a.path), ("global", bool a.isGlobal)]

def projectJson (p : Project) : Json :=
  object [("found", bool p.found), ("name", string p.name),
    ("main_scene", optional string p.mainScene), ("features", strings p.features),
    ("engine_version", optional string p.engineVersion),
    ("renderer", optional string p.renderer), ("autoloads", list autoloadJson p.autoloads),
    ("input_actions", strings p.inputActions)]

def rootJson (r : SceneRoot) : Json :=
  object [("name", string r.name), ("type", string r.type)]

def nodeJson (n : SceneNode) : Json :=
  object [("name", string n.name), ("type", optional string n.type), ("parent", string n.parent),
    ("instance", optional string n.instance)]

def extResourceJson (r : ExtResource) : Json :=
  object [("type", optional string r.type), ("path", optional string r.path),
    ("id", optional string r.id)]

def subResourceJson (type : String) : Json :=
  object [("type", string type)]

def connectionJson (c : Connection) : Json :=
  object [("signal", string c.signal), ("from", string c.source), ("to", string c.target),
    ("method", string c.method)]

def sceneJson (s : Scene) : Json :=
  object ([("root", optional rootJson s.root), ("nodes", list nodeJson s.nodes),
    ("ext_resources", list extResourceJson s.extResources),
    ("sub_resources", list subResourceJson s.subResources),
    ("connections", list connectionJson s.connections), ("script", optional string s.script)]
    ++ field? "error" string s.error)

def scriptReferenceJson : ScriptReference → Json
  | .inline source => object [("kind", string "inline"), ("source", string source)]
  | .external id path =>
    object [("kind", string "external"), ("id", string id), ("path", optional string path)]

def resourceJson (r : Resource) : Json :=
  object [("type", optional string r.type), ("class_name", optional string r.className),
    ("script", optional scriptReferenceJson r.script)]

def definitionJson (d : SignalDefinition) : Json :=
  object [("file", string d.file), ("params", list parameterJson d.params)]

def signalEntryJson (e : SignalEntry) : Json :=
  object [("name", string e.name), ("definitions", list definitionJson e.definitions),
    ("connected_in", strings e.connectedIn)]

def edgeJson : Edge → Json
  | .extends c file =>
    object [("kind", string "extends"), ("class", string c), ("file", string file)]
  | .loads path => object [("kind", string "loads"), ("path", string path)]

def statsJson (s : Stats) : Json :=
  object [("scripts", number s.scripts), ("scenes", number s.scenes),
    ("resources", number s.resources), ("total_files", number s.totalFiles),
    ("classes", number s.classes), ("functions", number s.functions),
    ("signals", number s.signals), ("exports", number s.exports),
    ("autoloads", number s.autoloads), ("parse_errors", number s.parseErrors),
    ("unreadable_scenes", number s.unreadableScenes)]

def warningJson : Warning → Json
  | .classCollision c files winner =>
    object [("kind", string "class_collision"), ("class", string c), ("files", strings files),
      ("winner", string winner)]
  | .missingProjectFile => object [("kind", string "missing_project_file")]

def sourcesField (m : SortedMap String String) : List (String × Json) :=
  if m.isEmpty then [] else [("sources", tableJson string m)]

def reportJson (r : GodotAtlas.Report) : Json :=
  object ([("root", string r.root), ("project", projectJson r.project),
    ("class_registry", tableJson string r.classRegistry),
    ("scripts", tableJson symbolsJson r.scripts), ("scenes", tableJson sceneJson r.scenes),
    ("resources", tableJson resourceJson r.resources),
    ("other_files", tableJson strings r.otherFiles),
    ("assets", mapJson AssetCategory.label strings r.assets),
    ("signal_connections", tableJson strings r.signalConnections),
    ("signals", list signalEntryJson r.signals),
    ("dependencies", tableJson (list edgeJson) r.dependencies),
    ("stats", statsJson r.stats), ("warnings", list warningJson r.warnings)]
    ++ sourcesField r.sources)

def renderJson (r : GodotAtlas.Report) : String :=
  (reportJson r).document

end GodotAtlas.Render
