import GodotAtlas.Proofs.Report.Coverage

namespace GodotAtlas.Report

open Files Format Symbols Text

def Step.table? : Step → Option Table
  | .script t _ => some t
  | _ => none

-- The path of a script that is added and declares a class name.
def Step.declares? (c : String) (s : Step) : Option String :=
  s.table?.bind fun t => if t.className = some c then some t.path else none

def tables (steps : List Step) : List Table :=
  steps.filterMap Step.table?

def declaring (c : String) (steps : List Step) : List String :=
  steps.filterMap (Step.declares? c)

def DistinctScripts (steps : List Step) : Prop :=
  ((tables steps).map (·.path)).Nodup

instance {steps : List Step} : Decidable (DistinctScripts steps) :=
  inferInstanceAs (Decidable (List.Nodup _))

def Warning.surplus : Warning → Nat
  | .missingProjectFile => 0
  | .classCollision _ files _ => files.length - 1

section

variable {steps : List Step} {s : Step} {c p : String}

theorem tables_append : tables (steps ++ [s]) = tables steps ++ s.table?.toList := by
  cases h : s.table? <;> simp [tables, h]

theorem declaring_append :
    declaring c (steps ++ [s]) = declaring c steps ++ (s.declares? c).toList := by
  cases h : s.declares? c <;> simp [declaring, h]

theorem mem_declaring_iff :
    p ∈ declaring c steps ↔ ∃ t ∈ tables steps, t.className = some c ∧ t.path = p := by
  simp only [declaring, tables, List.mem_filterMap, Step.declares?, Option.bind_eq_some_iff]
  constructor
  case mp =>
    rintro ⟨s, hs, t, ht, h⟩
    split at h
    case isTrue hc => exact ⟨t, ⟨s, hs, ht⟩, hc, Option.some.inj h⟩
    case isFalse => cases h
  case mpr =>
    rintro ⟨t, ⟨s, hs, ht⟩, hc, hp⟩
    exact ⟨s, hs, t, ht, by simp [hc, hp]⟩

end

namespace Findings

section

variable {f : Findings} {s : Step} {c p : String}

theorem get?_classRegistry_add :
    (f.add s).classRegistry.get? c = (s.declares? c).or (f.classRegistry.get? c) := by
  cases s
  case script t source =>
    rw [classRegistry_add_script]
    cases hn : t.className
    case none => simp [Step.declares?, Step.table?, hn]
    case some d =>
      by_cases hd : c = d
      case pos => simp [Step.declares?, Step.table?, SortedMap.get?_insert, hn, hd]
      case neg => simp [Step.declares?, Step.table?, SortedMap.get?_insert, hn, hd, Ne.symm hd]
  all_goals simp [Step.declares?, Step.table?]

theorem get?_declarations_add :
    (f.add s).declarations.get? c = (s.declares? c).elim (f.declarations.get? c)
      fun path => some ((f.declarations.get? c).getD [] ++ [path]) := by
  cases s
  case script t source =>
    rw [declarations_add_script]
    cases hn : t.className
    case none => simp [Step.declares?, Step.table?, hn]
    case some d =>
      by_cases hd : c = d
      case pos => simp [Step.declares?, Step.table?, SortedMap.get?_alter, hn, hd]
      case neg => simp [Step.declares?, Step.table?, SortedMap.get?_alter, hn, hd, Ne.symm hd]
  all_goals simp [Step.declares?, Step.table?]

theorem scripts_add : (f.add s).scripts =
    s.table?.elim f.scripts fun t => f.scripts.insert t.path t := by
  cases s <;> simp [Step.table?]

end

variable {steps : List Step} {c p : String}

theorem get?_classRegistry :
    (ofSteps steps).classRegistry.get? c = (declaring c steps).getLast? := by
  induction steps using ofSteps_induction
  case nil => rfl
  case add steps s hi =>
    rw [get?_classRegistry_add, declaring_append, hi]
    cases s.declares? c <;> simp

theorem get?_declarations : (ofSteps steps).declarations.get? c =
    if declaring c steps = [] then none else some (declaring c steps) := by
  induction steps using ofSteps_induction
  case nil => rfl
  case add steps s hi =>
    rw [get?_declarations_add, declaring_append, hi]
    cases s.declares? c
    case none => simp
    case some path => by_cases hd : declaring c steps = [] <;> simp [hd]

theorem mem_keys_scripts : p ∈ (ofSteps steps).scripts.keys ↔ ∃ t ∈ tables steps, t.path = p := by
  induction steps using ofSteps_induction
  case nil => simp [tables]
  case add steps s hi =>
    rw [scripts_add, tables_append]
    cases s.table?
    case none => simpa using hi
    case some t => simp [SortedMap.mem_keys_insert, hi, or_and_right, exists_or, or_comm, eq_comm]

theorem values_scripts_perm (h : DistinctScripts steps) :
    (ofSteps steps).scripts.values.Perm (tables steps) := by
  induction steps using ofSteps_induction
  case nil => simp [tables]
  case add steps s hi =>
    rw [scripts_add, tables_append]
    simp only [DistinctScripts, tables_append, List.map_append, List.nodup_append] at h
    have hi := hi h.left
    cases ht : s.table?
    case none => simpa using hi
    case some t =>
      -- No earlier step is about this script, so nothing is replaced.
      have hn : t.path ∉ (ofSteps steps).scripts.keys := by
        intro hm
        obtain ⟨u, hu, hp⟩ := mem_keys_scripts.mp hm
        exact h.right.right _ (List.mem_map.mpr ⟨u, hu, rfl⟩) t.path (by simp [ht]) hp
      exact (SortedMap.values_insert_perm hn).trans (hi.append_right _)

theorem path_of_get?_scripts {t : Table} (h : (ofSteps steps).scripts.get? p = some t) :
    t ∈ tables steps ∧ t.path = p := by
  induction steps using ofSteps_induction
  case nil => simp at h
  case add steps s hi =>
    rw [scripts_add] at h
    rw [tables_append]
    cases hs : s.table?
    case none => simpa using hi (by simpa [hs] using h)
    case some u =>
      simp only [hs, Option.elim_some, SortedMap.get?_insert] at h
      split at h
      case isTrue hp =>
        cases h
        exact ⟨by simp, hp.symm⟩
      case isFalse =>
        obtain ⟨hm, hp⟩ := hi h
        exact ⟨List.mem_append_left _ hm, hp⟩

theorem get?_scripts_of_mem {t : Table} (hd : DistinctScripts steps) (h : t ∈ tables steps) :
    (ofSteps steps).scripts.get? t.path = some t := by
  have hm := (values_scripts_perm hd).mem_iff.mpr h
  have ⟨⟨p, u⟩, he, hu⟩ := List.mem_map.mp hm
  have hg := SortedMap.get?_eq_some_iff.mpr he
  cases hu
  rwa [(path_of_get?_scripts hg).right]

theorem size_classRegistry :
    (ofSteps steps).classRegistry.size = (ofSteps steps).declarations.size := by
  have hp : (ofSteps steps).classRegistry.keys.Perm (ofSteps steps).declarations.keys := by
    apply (List.perm_ext_iff_of_nodup SortedMap.keys_nodup SortedMap.keys_nodup).mpr
    intro c
    simp only [SortedMap.mem_keys_iff, get?_classRegistry, get?_declarations]
    by_cases hd : declaring c steps = []
    case pos => simp [hd]
    case neg => simp [hd, List.getLast?_eq_some_getLast hd]
  simpa [SortedMap.size_eq_length_keys] using hp.length_eq

theorem ne_nil_of_mem_declarations {files : List String}
    (h : files ∈ (ofSteps steps).declarations.values) : files ≠ [] := by
  have ⟨⟨c, fs⟩, he, hf⟩ := List.mem_map.mp h
  have hg := SortedMap.get?_eq_some_iff.mpr he
  rw [get?_declarations] at hg
  cases hf
  split at hg
  case isTrue => cases hg
  case isFalse hn => exact Option.some.inj hg ▸ hn

theorem length_flatten_declarations : (ofSteps steps).declarations.values.flatten.length =
    (tables steps).countP (·.className.isSome) := by
  induction steps using ofSteps_induction
  case nil => rfl
  case add steps s hi =>
    rw [tables_append, List.countP_append, ← hi]
    cases s
    case script t source =>
      rw [declarations_add_script]
      cases hn : t.className
      case none => simp [Step.table?, hn]
      case some c =>
        simpa [Step.table?, hn] using SortedMap.values_flatten_alter_perm.length_eq
    all_goals simp [Step.table?]

theorem mem_collisions_iff {files : List String} {winner : String} :
    .classCollision c files winner ∈ (ofSteps steps).collisions ↔
      2 ≤ (declaring c steps).length ∧ files = declaring c steps ∧
        files.getLast? = some winner := by
  simp only [collisions, List.mem_map, List.mem_filter, decide_eq_true_eq, Prod.exists,
    Warning.classCollision.injEq, ← SortedMap.get?_eq_some_iff, get?_declarations,
    get?_classRegistry]
  constructor
  case mp =>
    rintro ⟨d, fs, ⟨hg, hl⟩, hc, hf, hw⟩
    subst hc hf
    split at hg
    case isTrue => cases hg
    case isFalse hne =>
      cases hg
      rw [List.getLast?_eq_some_getLast hne] at hw ⊢
      exact ⟨hl, rfl, congrArg some hw⟩
  case mpr =>
    rintro ⟨hl, hf, hw⟩
    subst hf
    have hne : declaring c steps ≠ [] := by
      intro he
      simp [he] at hl
    exact ⟨c, declaring c steps, ⟨by simp [hne], hl⟩, rfl, rfl, by simp [hw]⟩

theorem collisions_ascending : ∃ cs : List (String × List String × String),
    Ascending (cs.map (·.1)) ∧ (ofSteps steps).collisions =
      cs.map fun (c, files, winner) => .classCollision c files winner := by
  refine ⟨((ofSteps steps).declarations.entries.filter (2 ≤ ·.2.length)).map
    fun d => (d.1, d.2, ((ofSteps steps).classRegistry.get? d.1).getD ""), ?_, ?_⟩
  · rw [List.map_map]
    exact SortedMap.keys_ascending_bytes.sublist (List.filter_sublist.map _)
  · simp [collisions, Function.comp_def]

theorem length_flatten_of_ne_nil {lists : List (List String)} (h : ∀ l ∈ lists, l ≠ []) :
    lists.flatten.length =
      lists.length + total ((lists.filter (2 ≤ ·.length)).map (·.length - 1)) := by
  induction lists
  case nil => rfl
  case cons l lists hi =>
    have hl : 0 < l.length := List.length_pos_iff.mpr (h l List.mem_cons_self)
    have hi := hi fun m hm => h m (List.mem_cons_of_mem _ hm)
    simp only [List.flatten_cons, List.length_append, List.length_cons, List.filter_cons, hi]
    by_cases h2 : 2 ≤ l.length
    case pos =>
      simp only [h2, decide_true, if_true, List.map_cons, total_cons]
      omega
    case neg =>
      simp only [h2, decide_false, Bool.false_eq_true, if_false]
      omega

theorem total_surplus_warnings {project : Project} :
    total (((ofSteps steps).warnings project).map Warning.surplus) =
      total (((ofSteps steps).declarations.values.filter (2 ≤ ·.length)).map (·.length - 1)) := by
  have hm (ws : List Warning) :
      total (((if project.found then [] else [Warning.missingProjectFile]) ++ ws).map
        Warning.surplus) = total (ws.map Warning.surplus) := by
    split <;> simp [Warning.surplus]
  rw [warnings, hm, collisions, List.map_map, SortedMap.values, List.filter_map, List.map_map]
  rfl

end Findings

-- A script of a report declares a class name.
def Declares (r : Report) (c path : String) : Prop :=
  ∃ t, r.scripts.get? path = some t ∧ t.className = some c

section

variable {steps : List Step} {root : String} {project : Project} {c p : String}

theorem declares_iff_mem_declaring (h : DistinctScripts steps) :
    Declares ((Findings.ofSteps steps).report root project) c p ↔ p ∈ declaring c steps := by
  rw [mem_declaring_iff]
  constructor
  case mp =>
    rintro ⟨t, ht, hc⟩
    have ⟨hm, hp⟩ := Findings.path_of_get?_scripts ht
    exact ⟨t, hm, hc, hp⟩
  case mpr =>
    rintro ⟨t, hm, hc, hp⟩
    exact ⟨t, hp ▸ Findings.get?_scripts_of_mem h hm, hc⟩

theorem countP_className (h : DistinctScripts steps) :
    ((Findings.ofSteps steps).scripts.values.countP (·.className.isSome)) =
      (Findings.ofSteps steps).classRegistry.size +
        total (((Findings.ofSteps steps).warnings project).map Warning.surplus) := by
  have hne : ∀ files ∈ (Findings.ofSteps steps).declarations.values, files ≠ [] :=
    fun _ => Findings.ne_nil_of_mem_declarations
  rw [(Findings.values_scripts_perm h).countP_eq, ← Findings.length_flatten_declarations,
    Findings.length_flatten_of_ne_nil hne, Findings.total_surplus_warnings,
    Findings.size_classRegistry]
  simp [SortedMap.size, SortedMap.values]

end

section

variable {ss : List String} {s : String}

theorem greatest_of_getLast? (h : Ascending ss) (hs : ss.getLast? = some s) :
    s ∈ ss ∧ ∀ t ∈ ss, t = s ∨ bytesOf t < bytesOf s := by
  have ⟨front, he⟩ := List.getLast?_eq_some_iff.mp hs
  subst he
  refine ⟨by simp, fun t ht => ?_⟩
  have ⟨_, _, hlt⟩ := List.pairwise_append.mp h
  cases List.mem_append.mp ht
  case inl ht => exact .inr (hlt t ht s List.mem_cons_self)
  case inr ht => exact .inl (List.mem_singleton.mp ht)

theorem getLast?_eq_some_iff_greatest (h : Ascending ss) :
    ss.getLast? = some s ↔ s ∈ ss ∧ ∀ t ∈ ss, t = s ∨ bytesOf t < bytesOf s := by
  constructor
  case mp => exact greatest_of_getLast? h
  case mpr =>
    rintro ⟨hm, hg⟩
    obtain ⟨u, hu⟩ : ∃ u, ss.getLast? = some u :=
      ⟨_, List.getLast?_eq_some_getLast (List.ne_nil_of_mem hm)⟩
    -- Both are greatest, and neither can be below the other.
    have ⟨hum, hug⟩ := greatest_of_getLast? h hu
    rw [hu]
    cases hug s hm
    case inl he => rw [he]
    case inr hlt =>
      cases hg u hum
      case inl he => rw [he]
      case inr hgt => exact absurd hlt (List.lt_asymm hgt)

end

-- What a report says of the class names that some steps declare, whatever the steps are.
structure Registers (steps : List Step) (r : Report) : Prop where
  registry : ∀ c, r.classRegistry.get? c = (declaring c steps).getLast?
  collision : ∀ c files winner, .classCollision c files winner ∈ r.warnings ↔
    2 ≤ (declaring c steps).length ∧ files = declaring c steps ∧
      files.getLast? = some winner ∧ r.classRegistry.get? c = some winner
  warnings : ∃ cs : List (String × List String × String), Ascending (cs.map (·.1)) ∧
    r.warnings = (if r.project.found then [] else [.missingProjectFile]) ++
      cs.map fun (c, files, winner) => .classCollision c files winner

structure ClassesMatchScripts (r : Report) : Prop where
  declared : ∀ c p, r.classRegistry.get? c = some p → Declares r c p
  count : r.scripts.values.countP (·.className.isSome) =
    r.stats.classes + total (r.warnings.map Warning.surplus)

section

variable {steps : List Step} {root : String} {project : Project}

theorem mem_warnings_iff {c : String} {files : List String} {winner : String} :
    .classCollision c files winner ∈ (Findings.ofSteps steps).warnings project ↔
      .classCollision c files winner ∈ (Findings.ofSteps steps).collisions := by
  simp only [Findings.warnings, List.mem_append]
  split <;> simp

theorem registers_report : Registers steps ((Findings.ofSteps steps).report root project) := by
  constructor
  case registry => exact fun c => Findings.get?_classRegistry
  case collision =>
    intro c files winner
    simp only [Findings.report, mem_warnings_iff, Findings.mem_collisions_iff,
      Findings.get?_classRegistry]
    constructor
    case mp =>
      rintro ⟨hl, hf, hw⟩
      exact ⟨hl, hf, hw, hf ▸ hw⟩
    case mpr =>
      rintro ⟨hl, hf, hw, _⟩
      exact ⟨hl, hf, hw⟩
  case warnings =>
    obtain ⟨cs, ha, hc⟩ := @Findings.collisions_ascending steps
    exact ⟨cs, ha, by simp only [Findings.report, Findings.warnings, hc]⟩

theorem classesMatchScripts_report (h : DistinctScripts steps) :
    ClassesMatchScripts ((Findings.ofSteps steps).report root project) := by
  constructor
  case declared =>
    intro c p hp
    have hl : (declaring c steps).getLast? = some p := Findings.get?_classRegistry ▸ hp
    exact (declares_iff_mem_declaring h).mpr (List.mem_of_getLast? hl)
  case count => exact countP_className h

end

theorem map_path_tables_sublist {steps : List Step} :
    ((tables steps).map (·.path)).Sublist (steps.map Step.path) := by
  induction steps
  case nil => exact .slnil
  case cons s steps hi =>
    cases s
    case script t source => exact hi.cons_cons t.path
    all_goals exact hi.cons _

theorem declaring_sublist {c : String} {steps : List Step} :
    (declaring c steps).Sublist ((tables steps).map (·.path)) := by
  induction steps
  case nil => exact .slnil
  case cons s steps hi =>
    cases s
    case script t source =>
      by_cases hc : t.className = some c
      case pos => simpa [declaring, tables, Step.declares?, Step.table?, hc] using hi
      case neg => simpa [declaring, tables, Step.declares?, Step.table?, hc] using hi.cons t.path
    all_goals exact hi

section

variable {fs : FileSystem} {root : String} {es : List (String × Entry)}
  (hr : fs.entry root = .ok (.dir es)) (hw : (Entry.dir es).WellFormed) {x : Exclusion}
  (parser : Script.Parser) (includeSource : Bool)
include hr hw

theorem distinctScripts_of_scan :
    DistinctScripts ((listing fs x root es).filterMap (fileStep? fs parser includeSource)) :=
  ((steps_ascending hr parser hw includeSource).sublist map_path_tables_sublist).pairwise_ne

-- A scan looks at the scripts in the order of their paths, so the last is the greatest.
theorem get?_classRegistry_of_scan {c p : String} :
    let r := ofFiles fs parser includeSource root (listing fs x root es)
    r.classRegistry.get? c = some p ↔
      Declares r c p ∧ ∀ q, Declares r c q → q = p ∨ bytesOf q < bytesOf p := by
  have hd := distinctScripts_of_scan (x := x) hr hw parser includeSource
  have ha := (steps_ascending (x := x) hr parser hw includeSource).sublist
    (declaring_sublist (c := c) |>.trans map_path_tables_sublist)
  simp only [ofFiles, declares_iff_mem_declaring hd]
  rw [← getLast?_eq_some_iff_greatest ha, ← Findings.get?_classRegistry]
  rfl

end

-- The registry, the collisions and the scripts tell one story about class names. The last script
-- wins, which in a scan is the one with the greatest path.
theorem class_names_of_run (steps : List Step) (root : String) (project : Project) :
    let r := (Findings.ofSteps steps).report root project
    Registers steps r ∧ (DistinctScripts steps → ClassesMatchScripts r) ∧
      ∀ fs parser options es, fs.entry root = .ok (.dir es) → (Entry.dir es).WellFormed →
        ∃ steps, DistinctScripts steps ∧
          let r := (Findings.ofSteps steps).report root (projectAt fs root)
          scan fs parser options root = .ok r ∧ ∀ c p, r.classRegistry.get? c = some p ↔
            Declares r c p ∧ ∀ q, Declares r c q → q = p ∨ bytesOf q < bytesOf p := by
  refine ⟨registers_report, classesMatchScripts_report, ?_⟩
  intro fs parser options es hr hw
  exact ⟨_, distinctScripts_of_scan hr hw parser options.includeSource,
    scanWithout_eq hr parser options.exclusion options.includeSource,
    fun c p => get?_classRegistry_of_scan hr hw parser options.includeSource⟩

def sampleSteps : List Step :=
  [.script { path := "b.gd", summary := { className := some "Hero" } } none,
   .other "png" "hero.png",
   .script { path := "a.gd", summary := { className := some "Hero" } } none]

theorem class_names_of_sample :
    DistinctScripts sampleSteps ∧
      let r := (Findings.ofSteps sampleSteps).report "game" {}
      r.classRegistry.get? "Hero" = some "a.gd" ∧
        .classCollision "Hero" ["b.gd", "a.gd"] "a.gd" ∈ r.warnings ∧
        Declares r "Hero" "a.gd" ∧
        sampleSystem.entry "game" = .ok (.dir sampleEntries) ∧
        (Entry.dir sampleEntries).WellFormed ∧
        ∃ steps, DistinctScripts steps ∧ scan sampleSystem Script.unavailable {} "game" =
          .ok ((Findings.ofSteps steps).report "game" (projectAt sampleSystem "game")) := by
  have hd : DistinctScripts sampleSteps := by decide
  have hr : sampleSystem.entry "game" = .ok (.dir sampleEntries) := rfl
  have hw : (Entry.dir sampleEntries).WellFormed := by decide
  have ⟨hreg, hmatch, hscan⟩ := class_names_of_run sampleSteps "game" {}
  have hc := (hreg.registry "Hero").trans (show _ = some "a.gd" by decide)
  have ⟨steps, hds, hs, _⟩ := hscan sampleSystem Script.unavailable {} sampleEntries hr hw
  exact ⟨hd, hc, (hreg.collision _ _ _).mpr ⟨by decide, by decide, rfl, hc⟩,
    (hmatch hd).declared _ _ hc, hr, hw, steps, hds, hs⟩

end GodotAtlas.Report
