import GodotAtlas.Text.Matcher

namespace GodotAtlas.CommandLine

inductive Format where
  | markdown | json
deriving DecidableEq, Repr

namespace Format

def ofName? (name : String) : Option Format :=
  if name = "markdown" then some markdown
  else if name = "json" then some json
  else none

def defaultFileName : Format → String
  | markdown => "PROJECT_ARCHITECTURE.md"
  | json => "PROJECT_ARCHITECTURE.json"

end Format

structure Arguments where
  project : String
  output : Option String := none
  format : Format := .markdown
  fullSource : Bool := false
  exclude : Option (List String) := none
  config : Option String := none
  verbose : Nat := 0
deriving DecidableEq, Repr

inductive UsageError where
  | repeated | invalidValue | unknownArgument | missingProject | valueForFlag
  | helpWanted | versionWanted
deriving DecidableEq, Repr

inductive Slot where
  | project | output | format | exclude | config
deriving DecidableEq, Repr

inductive Flag where
  | fullSource | verbose | help | version
deriving DecidableEq, Repr

inductive Switch where
  | slot (s : Slot)
  | flag (f : Flag)
deriving DecidableEq, Repr

def longSwitches : List (String × Switch) :=
  [("output", .slot .output), ("format", .slot .format), ("full-source", .flag .fullSource),
   ("exclude", .slot .exclude), ("config", .slot .config), ("verbose", .flag .verbose),
   ("help", .flag .help), ("version", .flag .version)]

def shortSwitches : List (Char × Switch) :=
  [('o', .slot .output), ('f', .slot .format), ('c', .slot .config), ('v', .flag .verbose),
   ('h', .flag .help), ('V', .flag .version)]

def maxVerbose : Nat := 255

structure Draft where
  project : Option String := none
  output : Option String := none
  format : Option Format := none
  fullSource : Bool := false
  exclude : Option (List String) := none
  config : Option String := none
  verbose : Nat := 0
  pending : Option (Slot × Option String) := none
  hasProject : Bool := false
  onlyProjects : Bool := false

namespace Draft

def path (old : Option String) (value : String) : Except UsageError (Option String) :=
  if old.isSome then .error .repeated
  else if value.isEmpty then .error .invalidValue
  else .ok (some value)

def store (d : Draft) (value : String) : Slot → Except UsageError Draft
  | .project => (path d.project value).map fun v => { d with project := v }
  | .output => (path d.output value).map fun v => { d with output := v }
  | .config => (path d.config value).map fun v => { d with config := v }
  | .format =>
    if d.format.isSome then .error .repeated
    else match Format.ofName? value with
      | some f => .ok { d with format := some f }
      | none => .error .invalidValue
  | .exclude =>
    let names := (Text.splitAt ',' value.toList).map String.ofList
    .ok { d with exclude := some (d.exclude.getD [] ++ names) }

def settle (d : Draft) : Except UsageError Draft :=
  match d.pending with
  | none => .ok d
  | some (s, some value) => { d with pending := none }.store value s
  | some (_, none) => .error .invalidValue

def raise (d : Draft) (f : Flag) : Except UsageError Draft :=
  d.settle.bind fun d =>
    match f with
    | .fullSource => if d.fullSource then .error .repeated else .ok { d with fullSource := true }
    | .verbose => .ok { d with verbose := min maxVerbose (d.verbose + 1) }
    | .help => .error .helpWanted
    | .version => .error .versionWanted

def attach (d : Draft) (s : Slot) (value : String) : Except UsageError Draft :=
  d.settle.bind (·.store value s)

def await (d : Draft) (s : Slot) : Except UsageError Draft :=
  d.settle.map fun d => { d with pending := some (s, none) }

def long (d : Draft) (arg : List Char) : Except UsageError Draft :=
  let (name, value) := match Text.splitOnce? '=' arg with
    | some (name, value) => (name, some (String.ofList value))
    | none => (arg, none)
  match longSwitches.lookup (String.ofList name), value with
  | none, _ => .error .unknownArgument
  | some (.slot s), some v => d.attach s v
  | some (.slot s), none => d.await s
  | some (.flag _), some _ => .error .valueForFlag
  | some (.flag f), none => d.raise f

-- Take options with one dash, from behind it. What follows one that takes a value is the value,
-- with or without an equals sign.
def short (d : Draft) : List Char → Except UsageError Draft
  | [] => .ok d
  | c :: cs =>
    match shortSwitches.lookup c with
    | none => .error .unknownArgument
    | some (.flag f) => (d.raise f).bind (·.short cs)
    | some (.slot s) =>
      match cs with
      | [] => d.await s
      | '=' :: cs => d.attach s (String.ofList cs)
      | cs => d.attach s (String.ofList cs)

def operand (d : Draft) (arg : String) : Except UsageError Draft :=
  match d.pending, d.onlyProjects with
  | some (s, none), false => .ok { d with pending := some (s, some arg) }
  | _, _ =>
    if d.hasProject then .error .unknownArgument
    else d.settle.map fun d =>
      { d with pending := some (.project, some arg), hasProject := true }

def take (d : Draft) (arg : String) : Except UsageError Draft :=
  if d.onlyProjects then d.operand arg
  else match arg.toList with
    | ['-', '-'] => .ok { d with onlyProjects := true }
    | '-' :: '-' :: cs => d.long cs
    | '-' :: c :: cs => d.short (c :: cs)
    | _ => d.operand arg

def finish (d : Draft) : Except UsageError Arguments :=
  d.settle.bind fun d =>
    match d.project with
    | none => .error .missingProject
    | some project =>
      .ok { project, output := d.output, format := d.format.getD .markdown,
            fullSource := d.fullSource, exclude := d.exclude, config := d.config,
            verbose := d.verbose }

end Draft

def Arguments.parse (args : List String) : Except UsageError Arguments :=
  (args.foldlM Draft.take {}).bind Draft.finish

end GodotAtlas.CommandLine
