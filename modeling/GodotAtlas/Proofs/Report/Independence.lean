import GodotAtlas.Proofs.Files.Spelling
import GodotAtlas.Proofs.Files.Writing
import GodotAtlas.Proofs.Report.MergeOrder
import GodotAtlas.Proofs.Report.Signals

namespace GodotAtlas.Files

section

variable {x : Exclusion} {e : Entry} {names ns : List String} {bytes bytes' : List UInt8}
  (hf : e.at? names = some (.file bytes))
include hf

theorem holdsFile_put : (e.put names (.file bytes')).HoldsFile ns ↔ e.HoldsFile ns := by
  have hs (e : Entry) : e.HoldsFile ns ↔ ((e.at? ns).map Entry.surface).any Entry.isFile := by
    cases ha : e.at? ns <;> simp [Entry.HoldsFile, ha]
  by_cases hn : ns = names
  case neg => rw [hs, hs, Entry.surface_at?_put_of_file hf hn]
  case pos =>
    subst hn
    exact iff_of_true ⟨_, Entry.at?_put, rfl⟩ ⟨_, hf, rfl⟩

theorem kept_put : Kept x (e.put names (.file bytes')) ns ↔ Kept x e ns := by
  constructor
  case mp => exact fun h => ⟨(holdsFile_put hf).mp h.file, h.dirs, h.paths⟩
  case mpr => exact fun h => ⟨(holdsFile_put hf).mpr h.file, h.dirs, h.paths⟩

end

section

variable {fs fs' : FileSystem} {x : Exclusion} {root : String} {es es' : List (String × Entry)}
  {names ns : List String} {bytes bytes' : List UInt8} (hr : fs.entry root = .ok (.dir es))
  (hr' : fs'.entry root = .ok (.dir es')) (hs : (Entry.dir es).Storable)
  (hf : (Entry.dir es).at? names = some (.file bytes))
  (he : (Entry.dir es).put names (.file bytes') = .dir es')
include hr hr' hs hf he

theorem listed_put : Listed fs' x root (.dir es') ns ↔ Listed fs x root (.dir es) ns := by
  obtain ⟨place, hp, ha⟩ := FileSystem.exists_locate_of_entry hr
  obtain ⟨place', hp', ha'⟩ := FileSystem.exists_locate_of_entry hr'
  have hs' : (Entry.dir es').Storable := he ▸ hs.put hf
  rw [FileSystem.listed_iff hp ha hr hs, FileSystem.listed_iff hp' ha' hr' hs', ← he, kept_put hf]

theorem listing_put : listing fs' x root es' = listing fs x root es := by
  have hs' : (Entry.dir es').Storable := he ▸ hs.put hf
  rw [listing_eq_map hr hs.wellFormed, listing_eq_map hr' hs'.wellFormed,
    listedNames_congr hr' hs'.wellFormed hr hs.wellFormed fun _ => listed_put hr hr' hs hf he]

theorem read_put (hn : ns ≠ names) (hh : (Entry.dir es).HoldsFile ns) :
    fs'.read (walked root ns) = fs.read (walked root ns) := by
  obtain ⟨place, hp, ha⟩ := FileSystem.exists_locate_of_entry hr
  obtain ⟨place', hp', ha'⟩ := FileSystem.exists_locate_of_entry hr'
  have hs' : (Entry.dir es').Storable := he ▸ hs.put hf
  obtain ⟨f, hat, hfile⟩ := hh
  have htarget : f.target? = none := by
    cases f
    case link => cases hfile
    all_goals rfl
  have hat' : (Entry.dir es').at? ns = some f := by
    have hsurface : ((Entry.dir es').at? ns).map Entry.surface =
        ((Entry.dir es).at? ns).map Entry.surface := he ▸ Entry.surface_at?_put_of_file hf hn
    rw [hat, Option.map_some, Option.map_eq_some_iff] at hsurface
    obtain ⟨f', hf', hse⟩ := hsurface
    rw [hf']
    cases f <;> cases f' <;> simp_all [Entry.surface, Entry.isFile]
  have hns : ns ≠ [] := by
    rintro rfl
    cases hat
    cases hfile
  apply FileSystem.read_congr
  rw [FileSystem.entry_walked hp ha hs hat hns htarget,
    FileSystem.entry_walked hp' ha' hs' hat' hns htarget]

end

end GodotAtlas.Files

namespace GodotAtlas.Report

open Files Format Symbols

-- What a view takes from the steps of a run, at most one thing from each. Some views look at the
-- steps of one kind only, and most of these keep what they take under the path of the file.

def OfKind {α : Type} (kind : FileKind) (held? : Step → Option α) : Prop :=
  ∀ s, s.kind ≠ kind → held? s = none

def Keyed {α : Type} (kind : FileKind) (held? : Step → Option (String × α)) : Prop :=
  ∀ s e, held? s = some e → s.kind = kind ∧ e.1 = s.path

-- A view that tells no two steps about one file apart.
def Blind {α : Type} (path : String) (kind : FileKind) (held? : Step → Option α) : Prop :=
  ∀ s t, s.path = path → t.path = path → s.kind = kind → t.kind = kind → held? s = held? t

-- Two runs that differ at most in what one file holds.
def AlikeOutside (path : String) (kind : FileKind) (steps steps' : List Step) : Prop :=
  ∀ ⦃α : Type⦄ (held? : Step → Option α), Blind path kind held? →
    steps.filterMap held? = steps'.filterMap held?

section

variable {α : Type} {path g : String} {kind k : FileKind}

theorem OfKind.blind {held? : Step → Option α} (h : OfKind k held?) (hk : kind ≠ k) :
    Blind path kind held? := by
  intro s t _ _ hs ht
  rw [h s (hs ▸ hk), h t (ht ▸ hk)]

theorem blind_of_eq {held? : Step → Option α} (view : String → FileKind → Option α)
    (h : ∀ s, held? s = view s.path s.kind) : Blind path kind held? := by
  intro s t hs ht hks hkt
  rw [h s, h t, hs, ht, hks, hkt]

variable {held? : Step → Option (String × α)}

theorem Keyed.ofKind (h : Keyed k held?) : OfKind k held? := by
  intro s hs
  apply Option.eq_none_iff_forall_ne_some.mpr
  intro e he
  exact hs (h s e he).left

theorem Keyed.blind_entries (h : Keyed k held?) (hg : g ≠ path) :
    Blind path kind fun s => (held? s).bind fun e => if e.1 = g then some e.2 else none := by
  have hn (s : Step) (hs : s.path = path) :
      ((held? s).bind fun e => if e.1 = g then some e.2 else none) = none := by
    cases he : held? s
    case none => rfl
    case some e =>
      have hne : e.1 ≠ g := by
        rw [(h s e he).right, hs]
        exact Ne.symm hg
      simp [hne]
  intro s t hs ht _ _
  simp only [hn s hs, hn t ht]

theorem Keyed.blind_keys (h : Keyed k held?) (hk : ∀ s, s.kind = k → (held? s).isSome) :
    Blind path kind fun s => (held? s).map (·.1) := by
  apply blind_of_eq fun p l => if l = k then some p else none
  intro s
  cases he : held? s
  case none =>
    have hn : s.kind ≠ k := by
      intro hs
      simpa [he] using hk s hs
    simp [hn]
  case some e =>
    obtain ⟨hs, hp⟩ := h s e he
    simp [hs, hp]

theorem blind_other : Blind path kind Step.other? := by
  apply blind_of_eq fun p l => match l with
    | .other ext => some (ext, p)
    | _ => none
  rintro (_ | _ | _ | _) <;> rfl

end

theorem keyed_script : Keyed .script Step.script? := by
  rintro (_ | _ | _ | _) e h <;> cases h
  exact ⟨rfl, rfl⟩

theorem keyed_source : Keyed .script Step.source? := by
  rintro (⟨t, _ | source⟩ | _ | _ | _) e h <;> cases h
  exact ⟨rfl, rfl⟩

theorem keyed_scene : Keyed .scene Step.scene? := by
  rintro (_ | _ | _ | _) e h <;> cases h
  exact ⟨rfl, rfl⟩

theorem keyed_resource : Keyed .resource Step.resource? := by
  rintro (_ | _ | _ | _) e h <;> cases h
  exact ⟨rfl, rfl⟩

theorem ofKind_declares (c : String) : OfKind .script (Step.declares? c) := by
  rintro (_ | _ | _ | _) h
  case script => exact absurd rfl h
  all_goals rfl

namespace AlikeOutside

variable {α : Type} {path g : String} {kind k : FileKind} {steps steps' : List Step}
  (h : AlikeOutside path kind steps steps')
include h

section

variable {held? : Step → Option (String × α)}

theorem ofList_eq (hh : Keyed k held?) (hk : kind ≠ k) :
    SortedMap.ofList (steps.filterMap held?) = .ofList (steps'.filterMap held?) := by
  rw [h held? (hh.ofKind.blind hk)]

theorem get?_ofList_eq (hh : Keyed k held?) (hg : g ≠ path) :
    (SortedMap.ofList (steps.filterMap held?)).get? g =
      (SortedMap.ofList (steps'.filterMap held?)).get? g := by
  have hv (steps : List Step) : SortedMap.valuesOf g (steps.filterMap held?) =
      steps.filterMap fun s => (held? s).bind fun e => if e.1 = g then some e.2 else none :=
    List.filterMap_filterMap
  rw [SortedMap.get?_ofList, SortedMap.get?_ofList, hv, hv, h _ (hh.blind_entries hg)]

theorem keys_ofList_eq (hh : Keyed k held?) (hk : ∀ s, s.kind = k → (held? s).isSome) :
    (SortedMap.ofList (steps.filterMap held?)).keys =
      (SortedMap.ofList (steps'.filterMap held?)).keys := by
  apply SortedMap.keys_ofList_eq
  rw [List.map_filterMap, List.map_filterMap, h _ (hh.blind_keys hk)]

end

open Findings

theorem otherFiles_eq :
    (ofSteps steps).otherFiles = (ofSteps steps').otherFiles := by
  rw [otherFiles_ofSteps, otherFiles_ofSteps, h _ blind_other]

theorem scenes_eq (hk : kind ≠ .scene) :
    (ofSteps steps).scenes = (ofSteps steps').scenes := by
  rw [scenes_ofSteps, scenes_ofSteps, h.ofList_eq keyed_scene hk]

theorem resources_eq (hk : kind ≠ .resource) :
    (ofSteps steps).resources = (ofSteps steps').resources := by
  rw [resources_ofSteps, resources_ofSteps, h.ofList_eq keyed_resource hk]

theorem scripts_eq (hk : kind ≠ .script) :
    (ofSteps steps).scripts = (ofSteps steps').scripts := by
  rw [scripts_ofSteps, scripts_ofSteps, h.ofList_eq keyed_script hk]

theorem sources_eq (hk : kind ≠ .script) :
    (ofSteps steps).sources = (ofSteps steps').sources := by
  rw [sources_ofSteps, sources_ofSteps, h.ofList_eq keyed_source hk]

theorem declaring_eq (hk : kind ≠ .script) (c : String) :
    declaring c steps = declaring c steps' :=
  h _ ((ofKind_declares c).blind hk)

theorem classRegistry_eq (hk : kind ≠ .script) :
    (ofSteps steps).classRegistry = (ofSteps steps').classRegistry := by
  apply SortedMap.ext_get?
  intro c
  rw [get?_classRegistry, get?_classRegistry, h.declaring_eq hk]

theorem declarations_eq (hk : kind ≠ .script) :
    (ofSteps steps).declarations = (ofSteps steps').declarations := by
  apply SortedMap.ext_get?
  intro c
  rw [get?_declarations, get?_declarations, h.declaring_eq hk]

theorem keys_scripts_eq :
    (ofSteps steps).scripts.keys = (ofSteps steps').scripts.keys := by
  rw [scripts_ofSteps, scripts_ofSteps]
  apply h.keys_ofList_eq keyed_script
  rintro (_ | _ | _ | _) hs <;> simp_all [Step.kind, Step.script?]

theorem size_scripts_eq :
    (ofSteps steps).scripts.size = (ofSteps steps').scripts.size := by
  rw [SortedMap.size_eq_length_keys, SortedMap.size_eq_length_keys, h.keys_scripts_eq]

theorem keys_resources_eq :
    (ofSteps steps).resources.keys = (ofSteps steps').resources.keys := by
  rw [resources_ofSteps, resources_ofSteps]
  apply h.keys_ofList_eq keyed_resource
  rintro (_ | _ | _ | _) hs <;> simp_all [Step.kind, Step.resource?]

theorem ofSteps_eq (hk : kind ≠ .script) :
    ofSteps steps' = { ofSteps steps with
      scenes := (ofSteps steps').scenes, resources := (ofSteps steps').resources } := by
  apply Findings.ext
  case scripts => exact (h.scripts_eq hk).symm
  case scenes => rfl
  case resources => rfl
  case otherFiles => exact h.otherFiles_eq.symm
  case classRegistry => exact (h.classRegistry_eq hk).symm
  case declarations => exact (h.declarations_eq hk).symm
  case sources => exact (h.sources_eq hk).symm

end AlikeOutside

-- The definitions of a signal; one that is not listed has none.
def definitionsIn (r : Report) (name : String) : List SignalDefinition :=
  ((r.signals.find? (·.name = name)).map (·.definitions)).getD []

theorem definitionsIn_report {f : Findings} {root : String} {project : Project} (name : String) :
    definitionsIn (f.report root project) name = definitionsOf f.scripts name := by
  simp only [definitionsIn, Findings.report]
  cases he : f.signals.find? (·.name = name)
  case none =>
    by_contra hn
    have hm : ⟨name, definitionsOf f.scripts name, connecting f.scenes name⟩ ∈ f.signals :=
      Findings.mem_signals_iff.mpr ⟨.inl (Ne.symm hn), rfl, rfl⟩
    have := List.find?_eq_none.mp he _ hm
    simp at this
  case some e =>
    have hn : e.name = name := by simpa using List.find?_some he
    have hm := Findings.mem_signals_iff.mp (List.mem_of_find?_eq_some he)
    simpa [hn] using hm.right.left

-- What two reports have in common whatever the script at a path holds.
structure AgreeOutsideScript (path : String) (r s : Report) : Prop where
  scripts : ∀ g, g ≠ path → r.scripts.get? g = s.scripts.get? g
  sources : ∀ g, g ≠ path → r.sources.get? g = s.sources.get? g
  scenes : r.scenes = s.scenes
  resources : r.resources = s.resources
  otherFiles : r.otherFiles = s.otherFiles
  assets : r.assets = s.assets
  signalConnections : r.signalConnections = s.signalConnections
  project : r.project = s.project
  totalFiles : r.stats.totalFiles = s.stats.totalFiles

structure AgreeOutsideScene (path : String) (r s : Report) : Prop where
  scripts : r.scripts = s.scripts
  classRegistry : r.classRegistry = s.classRegistry
  resources : r.resources = s.resources
  otherFiles : r.otherFiles = s.otherFiles
  assets : r.assets = s.assets
  dependencies : r.dependencies = s.dependencies
  warnings : r.warnings = s.warnings
  sources : r.sources = s.sources
  project : r.project = s.project
  scenes : ∀ g, g ≠ path → r.scenes.get? g = s.scenes.get? g
  definitions : ∀ name, definitionsIn r name = definitionsIn s name

-- Whatever the resource at a path holds, they differ in nothing but this resource.
structure AgreeOutsideResource (path : String) (r s : Report) : Prop where
  eq : s = { r with resources := s.resources }
  keys : r.resources.keys = s.resources.keys
  resources : ∀ g, g ≠ path → r.resources.get? g = s.resources.get? g

def AgreeOutside (path : String) (r s : Report) : FileKind → Prop
  | .script => AgreeOutsideScript path r s
  | .scene => AgreeOutsideScene path r s
  | .resource => AgreeOutsideResource path r s
  | .ignored | .other _ => r = s

section

variable {path root : String} {project : Project} {steps steps' : List Step}

open Findings

theorem agreeOutsideScript_report (h : AlikeOutside path .script steps steps') :
    AgreeOutsideScript path ((ofSteps steps).report root project)
      ((ofSteps steps').report root project) := by
  have hs : (ofSteps steps).scenes = (ofSteps steps').scenes := h.scenes_eq (by decide)
  have hr : (ofSteps steps).resources = (ofSteps steps').resources := h.resources_eq (by decide)
  have ho := h.otherFiles_eq
  constructor
  case scripts =>
    intro g hg
    simp only [report, scripts_ofSteps]
    exact h.get?_ofList_eq keyed_script hg
  case sources =>
    intro g hg
    simp only [report, sources_ofSteps]
    exact h.get?_ofList_eq keyed_source hg
  case scenes => exact hs
  case resources => exact hr
  case otherFiles => exact ho
  case assets => simp only [report, Findings.assets, ho]
  case signalConnections => simp only [report, Findings.signalConnections, hs]
  case project => rfl
  case totalFiles => simp only [report, Findings.stats, hs, hr, ho, h.size_scripts_eq]

theorem agreeOutsideScene_report (h : AlikeOutside path .scene steps steps') :
    AgreeOutsideScene path ((ofSteps steps).report root project)
      ((ofSteps steps').report root project) := by
  have hf := h.ofSteps_eq (by decide)
  have hr : (ofSteps steps).resources = (ofSteps steps').resources := h.resources_eq (by decide)
  have hc := h.scripts_eq (by decide)
  constructor
  case scenes =>
    intro g hg
    simp only [report, scenes_ofSteps]
    exact h.get?_ofList_eq keyed_scene hg
  case definitions =>
    intro name
    rw [definitionsIn_report, definitionsIn_report, hc]
  case resources => exact hr
  all_goals
    rw [hf]
    rfl

theorem agreeOutsideResource_report (h : AlikeOutside path .resource steps steps') :
    AgreeOutsideResource path ((ofSteps steps).report root project)
      ((ofSteps steps').report root project) := by
  have hk := h.keys_resources_eq
  constructor
  case eq =>
    have hs : (ofSteps steps').scenes = (ofSteps steps).scenes := (h.scenes_eq (by decide)).symm
    have hn : (ofSteps steps').resources.size = (ofSteps steps).resources.size := by
      rw [SortedMap.size_eq_length_keys, SortedMap.size_eq_length_keys, hk]
    rw [h.ofSteps_eq (by decide), hs]
    simp only [report, Findings.stats, hn]
    rfl
  case keys => exact hk
  case resources =>
    intro g hg
    simp only [report, resources_ofSteps]
    exact h.get?_ofList_eq keyed_resource hg

-- A run in which only an ignored or another file differs finds the same.
theorem ofSteps_eq_of_alike {kind : FileKind} (h : AlikeOutside path kind steps steps')
    (hc : kind ≠ .script) (hs : kind ≠ .scene) (hr : kind ≠ .resource) :
    ofSteps steps = ofSteps steps' := by
  rw [h.ofSteps_eq hc, ← h.scenes_eq hs, ← h.resources_eq hr]

theorem agreeOutside_report {kind : FileKind} (h : AlikeOutside path kind steps steps') :
    AgreeOutside path ((ofSteps steps).report root project)
      ((ofSteps steps').report root project) kind := by
  cases kind
  case script => exact agreeOutsideScript_report h
  case scene => exact agreeOutsideScene_report h
  case resource => exact agreeOutsideResource_report h
  all_goals
    rw [ofSteps_eq_of_alike h (by simp) (by simp) (by simp)]
    rfl

end

theorem plainName_projectFile : PlainName projectFile := by
  decide

section

variable {fs fs' : FileSystem} {root : String} {es es' : List (String × Entry)}
  {names : List String} {bytes bytes' : List UInt8} (hr : fs.entry root = .ok (.dir es))
  (hr' : fs'.entry root = .ok (.dir es'))

theorem projectAt_congr {root' : String}
    (h : fs.read (join root projectFile) = fs'.read (join root' projectFile)) :
    projectAt fs root = projectAt fs' root' := by
  rw [projectAt, projectAt, h]

include hr in
-- The settings of a project come from one file, which is read even if it is not listed.
theorem map_entry_projectFile (hl : ∀ target, es.lookup projectFile ≠ some (.link target)) :
    (fs.entry (join root projectFile)).map Entry.surface =
      (FileSystem.checkPath (join root projectFile)).bind fun _ =>
        ((es.lookup projectFile).map Entry.surface).elim (.error .notFound) .ok := by
  obtain ⟨place, hp, ha⟩ := FileSystem.exists_locate_of_entry hr
  have hd : FileSystem.devices.at? (place ++ [projectFile]) = none :=
    devices_at?_concat (by decide) (by decide)
  have hm : ¬FileSystem.maxName < projectFile.utf8ByteSize := by decide
  rw [FileSystem.map_entry_join hp ha plainName_projectFile hl hd]
  simp only [if_neg hm]

include hr hr' in
theorem read_projectFile (hf : (Entry.dir es).at? names = some (.file bytes))
    (he : (Entry.dir es).put names (.file bytes') = .dir es') (hp : names ≠ [projectFile])
    (hl : ∀ target, es.lookup projectFile ≠ some (.link target)) :
    fs.read (join root projectFile) = fs'.read (join root projectFile) := by
  have hs : (es'.lookup projectFile).map Entry.surface =
      (es.lookup projectFile).map Entry.surface := by
    have hs : ((Entry.dir es').at? [projectFile]).map Entry.surface =
        ((Entry.dir es).at? [projectFile]).map Entry.surface :=
      he ▸ Entry.surface_at?_put_of_file hf (Ne.symm hp)
    simpa [Entry.at?, Entry.child?, Entry.entries] using hs
  have hl' : ∀ target, es'.lookup projectFile ≠ some (.link target) := by
    intro target ht
    rw [ht, Option.map_some, eq_comm, Option.map_eq_some_iff] at hs
    obtain ⟨f, hf, hse⟩ := hs
    cases f
    case link t => exact hl t hf
    all_goals cases hse
  apply FileSystem.read_congr
  rw [map_entry_projectFile hr hl, map_entry_projectFile hr' hl', hs]

-- The step of a file shows its path and its kind whatever the file holds.
theorem bind_fileStep?_congr {α : Type} {path : String} {kind : FileKind}
    {held? : Step → Option α} {f : ProjectFile} (hb : Blind path kind held?)
    (hp : f.relative = path) (hk : f.kind = kind) (parser : Script.Parser) (includeSource : Bool) :
    (fileStep? fs parser includeSource f).bind held? =
      (fileStep? fs' parser includeSource f).bind held? := by
  by_cases hi : f.kind = .ignored
  case pos => simp [fileStep?, hi]
  case neg =>
    obtain ⟨s, hs⟩ := exists_fileStep? fs parser includeSource hi
    obtain ⟨t, ht⟩ := exists_fileStep? fs' parser includeSource hi
    obtain ⟨hsp, hsk, _⟩ := fileStep?_eq_some hs
    obtain ⟨htp, htk, _⟩ := fileStep?_eq_some ht
    rw [hs, ht, Option.bind_some, Option.bind_some]
    exact hb s t (hsp.trans hp) (htp.trans hp) (hsk.trans hk) (htk.trans hk)

include hr hr' in
-- Scans of two projects that differ in the content of one file are runs that differ in that file.
theorem alikeOutside_of_scans (hs : (Entry.dir es).Storable)
    (hf : (Entry.dir es).at? names = some (.file bytes))
    (he : (Entry.dir es).put names (.file bytes') = .dir es') (x : Exclusion)
    (parser : Script.Parser) (includeSource : Bool) :
    AlikeOutside (pathOf names) (.ofPath (pathOf names))
      ((listing fs x root es).filterMap (fileStep? fs parser includeSource))
      ((listing fs' x root es').filterMap (fileStep? fs' parser includeSource)) := by
  intro α held? hb
  rw [listing_put hr hr' hs hf he, List.filterMap_filterMap, List.filterMap_filterMap]
  apply List.filterMap_congr
  intro f hm
  obtain ⟨ns, hl, rfl⟩ := (mem_listing hr hs.wellFormed).mp hm
  by_cases hn : ns = names
  case pos =>
    subst hn
    exact bind_fileStep?_congr hb rfl rfl parser includeSource
  case neg =>
    have hread : fs.read (fileAt root ns).path = fs'.read (fileAt root ns).path :=
      (read_put hr hr' hs hf he hn hl.file).symm
    rw [fileStep?_congr rfl rfl fun _ => hread]

end

end GodotAtlas.Report
