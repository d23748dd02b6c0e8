import GodotAtlas.Proofs.Report.Runs

namespace GodotAtlas.Report

open Format Symbols Text

-- A scene connects a signal.
def Connects (scene : Scene) (name : String) : Prop :=
  ∃ c ∈ scene.connections, c.signal = name

def DeclaresSignal (t : Table) (name : String) : Prop :=
  ∃ s ∈ t.members.signals, s.name = name

instance {scene : Scene} {name : String} : Decidable (Connects scene name) :=
  inferInstanceAs (Decidable (∃ c ∈ scene.connections, c.signal = name))

def connecting (scenes : SortedMap String Scene) (name : String) : List String :=
  (scenes.entries.filter fun e => Connects e.2 name).map (·.1)

-- One definition for each declaration of a signal, in the order of the paths of the scripts and
-- within a script in the order of its declarations.
def definitionsOf (scripts : SortedMap String Table) (name : String) : List SignalDefinition :=
  scripts.entries.flatMap fun e =>
    (e.2.members.signals.filter (·.name = name)).map fun s => { file := e.1, params := s.params }

section

variable {scenes : SortedMap String Scene} {scripts : SortedMap String Table} {name path : String}

theorem mem_connecting_iff :
    path ∈ connecting scenes name ↔
      ∃ scene, scenes.get? path = some scene ∧ Connects scene name := by
  simp [connecting, SortedMap.get?_eq_some_iff]

theorem connecting_ascending : Ascending (connecting scenes name) :=
  SortedMap.keys_ascending_bytes.sublist (List.filter_sublist.map _)

theorem connecting_ne_nil_iff :
    connecting scenes name ≠ [] ↔
      ∃ path scene, scenes.get? path = some scene ∧ Connects scene name := by
  simp [connecting, SortedMap.get?_eq_some_iff]

theorem definitionsOf_ne_nil_iff :
    definitionsOf scripts name ≠ [] ↔
      ∃ path t, scripts.get? path = some t ∧ DeclaresSignal t name := by
  simp [definitionsOf, DeclaresSignal, SortedMap.get?_eq_some_iff]

end

theorem valuesOf_eraseDups (name path : String) (names : List String) :
    SortedMap.valuesOf name (names.eraseDups.map fun n => (n, path)) =
      if name ∈ names then [path] else [] := by
  match names with
  | [] => rfl
  | n :: names =>
    have hi := valuesOf_eraseDups name path (names.filter fun m => !m == n)
    rw [List.eraseDups_cons, List.map_cons, SortedMap.valuesOf_cons, hi]
    by_cases h : n = name
    case pos => simp [h]
    case neg => simp [h, Ne.symm h]
termination_by names.length
decreasing_by exact Nat.lt_succ_of_le (List.length_filter_le _ _)

theorem valuesOf_connections {es : List (String × Scene)} {name : String} :
    SortedMap.valuesOf name (es.flatMap fun (path, s) =>
      (s.connections.map (·.signal)).eraseDups.map fun n => (n, path)) =
        (es.filter fun e => Connects e.2 name).map (·.1) := by
  induction es
  case nil => rfl
  case cons e es hi =>
    rw [List.flatMap_cons, SortedMap.valuesOf_append, valuesOf_eraseDups, hi]
    by_cases h : Connects e.2 name
    case pos =>
      have hm : name ∈ e.2.connections.map (·.signal) := List.mem_map.mpr h
      simp [h, hm]
    case neg =>
      have hm : name ∉ e.2.connections.map (·.signal) := mt List.mem_map.mp h
      simp [h, hm]

theorem valuesOf_declarations {es : List (String × Table)} {name : String} :
    SortedMap.valuesOf name (es.flatMap fun (path, t) => t.members.signals.map fun s =>
      (s.name, SignalDefinition.mk path s.params)) =
        es.flatMap fun e => (e.2.members.signals.filter (·.name = name)).map fun s =>
          { file := e.1, params := s.params } := by
  induction es
  case nil => rfl
  case cons e es hi =>
    rw [List.flatMap_cons, List.flatMap_cons, SortedMap.valuesOf_append, hi,
      SortedMap.valuesOf_map]

namespace Findings

variable {f : Findings} {name : String}

theorem get?_signalConnections : f.signalConnections.get? name =
    if connecting f.scenes name = [] then none else some (connecting f.scenes name) := by
  rw [signalConnections, SortedMap.get?_group, valuesOf_connections]
  rfl

theorem get?_signalDefinitions : f.signalDefinitions.get? name =
    if definitionsOf f.scripts name = [] then none else some (definitionsOf f.scripts name) := by
  rw [signalDefinitions, SortedMap.get?_group, valuesOf_declarations]
  rfl

-- A signal with the scenes that connect it, whether or not it is declared.
def joined (name : String) (scenes : List String) (s : Option SignalEntry) : SignalEntry :=
  { s.getD { name } with connectedIn := scenes }

def signalIndex (f : Findings) : SortedMap String SignalEntry :=
  f.signalConnections.entries.foldl (fun m e => m.alter e.1 (joined e.1 e.2))
    (f.signalDefinitions.map fun name definitions => { name, definitions })

theorem signals_eq : f.signals = f.signalIndex.values :=
  rfl

theorem get?_signalIndex : f.signalIndex.get? name =
    if definitionsOf f.scripts name = [] ∧ connecting f.scenes name = [] then none
    else some ⟨name, definitionsOf f.scripts name, connecting f.scenes name⟩ := by
  have hc : SortedMap.find? f.signalConnections.entries name = _ := get?_signalConnections
  rw [signalIndex, SortedMap.get?_foldl_alter SortedMap.keys_nodup, SortedMap.get?_map, hc,
    get?_signalDefinitions]
  by_cases hd : definitionsOf f.scripts name = [] <;> by_cases hs : connecting f.scenes name = []
  all_goals simp [hd, hs, joined]

theorem mem_signals_iff {e : SignalEntry} : e ∈ f.signals ↔
    (definitionsOf f.scripts e.name ≠ [] ∨ connecting f.scenes e.name ≠ []) ∧
      e.definitions = definitionsOf f.scripts e.name ∧
      e.connectedIn = connecting f.scenes e.name := by
  have hg (name : String) : (name, e) ∈ f.signalIndex.entries ↔
      ¬(definitionsOf f.scripts name = [] ∧ connecting f.scenes name = []) ∧
        ⟨name, definitionsOf f.scripts name, connecting f.scenes name⟩ = e := by
    rw [← SortedMap.get?_eq_some_iff, get?_signalIndex]
    simp
  simp only [signals_eq, SortedMap.values, List.mem_map, Prod.exists, exists_eq_right, hg]
  constructor
  case mp =>
    rintro ⟨name, hn, rfl⟩
    exact ⟨not_and_or.mp hn, rfl, rfl⟩
  case mpr =>
    rintro ⟨hn, hd, hc⟩
    exact ⟨e.name, not_and_or.mpr hn, by rw [← hd, ← hc]⟩

theorem map_name_signals : f.signals.map (·.name) = f.signalIndex.keys := by
  rw [signals_eq, SortedMap.values, SortedMap.keys, List.map_map]
  apply List.map_congr_left
  intro e he
  have hg := SortedMap.get?_eq_some_iff.mpr he
  rw [get?_signalIndex] at hg
  split at hg
  case isTrue => cases hg
  case isFalse => exact (congrArg SignalEntry.name (Option.some.inj hg)).symm

end Findings

-- The signals of a report are those of its scripts and scenes, with all that these say of them.
structure SignalsMatch (r : Report) : Prop where
  connected : ∀ name, name ∈ r.signalConnections.keys ↔
    ∃ path scene, r.scenes.get? path = some scene ∧ Connects scene name
  scenes : ∀ name paths, r.signalConnections.get? name = some paths → Ascending paths ∧
    ∀ path, path ∈ paths ↔ ∃ scene, r.scenes.get? path = some scene ∧ Connects scene name
  names : Ascending (r.signals.map (·.name))
  listed : ∀ name, (∃ e ∈ r.signals, e.name = name) ↔
    (∃ path t, r.scripts.get? path = some t ∧ DeclaresSignal t name) ∨
      ∃ path scene, r.scenes.get? path = some scene ∧ Connects scene name
  order : Ascending r.scripts.keys
  definitions : ∀ e ∈ r.signals, e.definitions = definitionsOf r.scripts e.name
  connectedIn : ∀ e ∈ r.signals, e.connectedIn = (r.signalConnections.get? e.name).getD []

theorem signalsMatch_report {f : Findings} {root : String} {project : Project} :
    SignalsMatch (f.report root project) := by
  constructor
  case connected =>
    intro name
    simp only [Findings.report, SortedMap.mem_keys_iff, Findings.get?_signalConnections,
      ← connecting_ne_nil_iff]
    simp
  case scenes =>
    intro name paths h
    simp only [Findings.report, Findings.get?_signalConnections] at h
    split at h
    case isTrue => cases h
    case isFalse =>
      cases h
      exact ⟨connecting_ascending, fun path => mem_connecting_iff⟩
  case names => exact Findings.map_name_signals ▸ SortedMap.keys_ascending_bytes
  case listed =>
    intro name
    simp only [Findings.report, ← connecting_ne_nil_iff, ← definitionsOf_ne_nil_iff]
    constructor
    case mp =>
      rintro ⟨e, he, rfl⟩
      exact (Findings.mem_signals_iff.mp he).left
    case mpr =>
      intro h
      exact ⟨⟨name, definitionsOf _ name, connecting _ name⟩,
        Findings.mem_signals_iff.mpr ⟨h, rfl, rfl⟩, rfl⟩
  case order => exact SortedMap.keys_ascending_bytes
  case definitions => exact fun e he => (Findings.mem_signals_iff.mp he).right.left
  case connectedIn =>
    intro e he
    rw [(Findings.mem_signals_iff.mp he).right.right]
    simp only [Findings.report, Findings.get?_signalConnections]
    split <;> simp_all

-- The scripts and scenes that count are those that were added last under their paths. A signal of
-- theirs is listed once, whichever side it comes from, with every declaration and every scene.
theorem signals_of_run (steps : List Step) (root : String) (project : Project) :
    let r := (Findings.ofSteps steps).report root project
    r.scripts = .ofList (steps.filterMap Step.script?) ∧
      r.scenes = .ofList (steps.filterMap Step.scene?) ∧ SignalsMatch r :=
  ⟨Findings.scripts_ofSteps, Findings.scenes_ofSteps, signalsMatch_report⟩

end GodotAtlas.Report
