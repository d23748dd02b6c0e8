import GodotAtlas.Proofs.Report.ClassRegistry
import GodotAtlas.Proofs.Report.Signals

namespace GodotAtlas

theorem total_map_length {α : Type} {lists : List (List α)} :
    total (lists.map List.length) = lists.flatten.length := by
  induction lists
  case nil => rfl
  case cons l lists hi => simp [hi]

theorem SortedMap.total_length_group {κ α : Type} [Ord κ] [Std.TransOrd κ] [Std.LawfulEqOrd κ]
    [DecidableEq κ] {es : List (κ × α)} :
    total ((group es).values.map List.length) = es.length := by
  induction es using List.reverseRecOn
  case nil => rfl
  case append_singleton es e hi =>
    have ha := total_values_alter List.length (group es) e.1 fun vs => vs.getD [] ++ [e.2]
    rw [← group_append] at ha
    rw [List.length_append, ← hi]
    cases hg : (group es).get? e.1
    all_goals
      simp only [hg, Option.map_none, Option.map_some, Option.getD_none, Option.getD_some,
        List.length_append, List.length_singleton, List.length_nil] at ha ⊢
      omega

namespace Report

open Format Symbols

namespace Findings

variable {f : Findings}

theorem total_definitions_joined {m : SortedMap String SignalEntry} {name : String}
    {scenes : List String} :
    total ((m.alter name (joined name scenes)).values.map (·.definitions.length)) =
      total (m.values.map (·.definitions.length)) := by
  have ha := SortedMap.total_values_alter (·.definitions.length) m name (joined name scenes)
  cases hg : m.get? name
  all_goals
    simp only [hg, joined, Option.map_none, Option.map_some, Option.getD_none, Option.getD_some,
      List.length_nil] at ha
    omega

theorem total_definitions_foldl {es : List (String × List String)}
    {m : SortedMap String SignalEntry} :
    total ((es.foldl (fun m e => m.alter e.1 (joined e.1 e.2)) m).values.map
      (·.definitions.length)) = total (m.values.map (·.definitions.length)) := by
  induction es generalizing m
  case nil => rfl
  case cons e es hi => rw [List.foldl_cons, hi, total_definitions_joined]

theorem total_definitions :
    total (f.signals.map (·.definitions.length)) =
      total (f.scripts.values.map (·.members.signals.length)) := by
  rw [signals_eq, signalIndex, total_definitions_foldl]
  have hd : (f.signalDefinitions.map fun name definitions =>
      ({ name, definitions } : SignalEntry)).values.map (·.definitions.length) =
        f.signalDefinitions.values.map List.length := by
    simp [SortedMap.values, SortedMap.map]
  rw [hd, signalDefinitions, SortedMap.total_length_group, List.flatMap_def, ← total_map_length]
  simp [SortedMap.values, Function.comp_def]

theorem length_paths : f.paths.length =
    f.scripts.size + f.scenes.size + f.resources.size + f.otherFiles.values.flatten.length := by
  simp [paths, SortedMap.size_eq_length_keys, Nat.add_assoc]

variable {steps : List Step}

-- A class name has at least one declaration, so there are not more of them than scripts.
theorem size_classRegistry_le : (ofSteps steps).classRegistry.size ≤ (tables steps).length := by
  have hn : ∀ files ∈ (ofSteps steps).declarations.values, files ≠ [] :=
    fun _ => ne_nil_of_mem_declarations
  have hs : (ofSteps steps).declarations.values.length = (ofSteps steps).declarations.size := by
    simp [SortedMap.values, SortedMap.size]
  calc (ofSteps steps).classRegistry.size
    _ = (ofSteps steps).declarations.values.length := by rw [size_classRegistry, hs]
    _ ≤ (ofSteps steps).declarations.values.flatten.length := by
      rw [length_flatten_of_ne_nil hn]
      exact Nat.le_add_right ..
    _ = (tables steps).countP (·.className.isSome) := length_flatten_declarations
    _ ≤ (tables steps).length := List.countP_le_length

-- A source is kept only along with its script.
theorem mem_keys_scripts_of_sources {path : String} (h : path ∈ (ofSteps steps).sources.keys) :
    path ∈ (ofSteps steps).scripts.keys := by
  rw [sources_ofSteps, SortedMap.mem_keys_ofList, List.map_filterMap] at h
  obtain ⟨s, hs, hp⟩ := List.mem_filterMap.mp h
  rw [mem_keys_scripts]
  cases s
  case script t source =>
    have ht : t ∈ tables steps := List.mem_filterMap.mpr ⟨_, hs, rfl⟩
    cases source
    case none => cases hp
    case some => exact ⟨t, ht, Option.some.inj hp⟩
  all_goals cases hp

end Findings

-- The counts of a report and the number of steps that led to it.
structure Balanced (steps : List Step) (r : Report) : Prop where
  totalFiles : r.stats.totalFiles = r.allFiles.length
  allFiles : r.allFiles.length =
    r.scripts.size + r.scenes.size + r.resources.size + r.otherFiles.values.flatten.length
  signals : r.stats.signals = total (r.signals.map (·.definitions.length))
  errors : r.stats.parseErrors + r.stats.unreadableScenes = r.errorCount
  errorCount : r.errorCount =
    r.scripts.values.countP (·.isDegraded) + r.scenes.values.countP (·.error.isSome)
  classes : r.stats.classes = r.classRegistry.size
  declared : r.stats.classes ≤ (tables steps).length
  sources : ∀ path ∈ r.sources.keys, path ∈ r.scripts.keys
  steps : (steps.Pairwise fun a b => ¬a.Replaces b) → r.stats.totalFiles = steps.length

-- What is counted over the files of a run is what its report lists, whether or not steps replace
-- one another; if none does, each step is one file.
theorem balanced_of_run (steps : List Step) (root : String) (project : Project) :
    Balanced steps ((Findings.ofSteps steps).report root project) := by
  have hp : ((Findings.ofSteps steps).report root project).allFiles.length =
      (Findings.ofSteps steps).paths.length := (List.mergeSort_perm _ _).length_eq
  have ht : ((Findings.ofSteps steps).report root project).stats.totalFiles =
      (Findings.ofSteps steps).paths.length := by
    rw [Findings.length_paths, ← total_map_length]
    rfl
  constructor
  case totalFiles => rw [ht, hp]
  case allFiles => rw [hp, Findings.length_paths]; rfl
  case signals => exact Findings.total_definitions.symm
  case errors => rfl
  case errorCount => rfl
  case classes => rfl
  case declared => exact Findings.size_classRegistry_le
  case sources => exact fun _ => Findings.mem_keys_scripts_of_sources
  case steps =>
    intro hn
    rw [ht, (Findings.paths_ofSteps_perm hn).length_eq, List.length_map]

end Report

end GodotAtlas
