import GodotAtlas.Proofs.Report.ClassRegistry

namespace GodotAtlas.Report

open Format Symbols

def othersOf (ext : String) (steps : List Step) : List String :=
  SortedMap.valuesOf ext (steps.filterMap Step.other?)

-- No two steps are about one script, one scene or one resource.
structure DistinctPaths (steps : List Step) : Prop where
  scripts : DistinctScripts steps
  scenes : ((steps.filterMap Step.scene?).map (·.1)).Nodup
  resources : ((steps.filterMap Step.resource?).map (·.1)).Nodup

-- The same steps in another order, in which the scripts of each class name and the other files of
-- each extension come as before.
structure Reordered (steps steps' : List Step) : Prop where
  perm : steps.Perm steps'
  classes : ∀ c, declaring c steps = declaring c steps'
  extensions : ∀ ext, othersOf ext steps = othersOf ext steps'

section

variable {steps : List Step}

theorem map_path_scripts :
    (steps.filterMap Step.script?).map (·.1) = (tables steps).map (·.path) := by
  induction steps
  case nil => rfl
  case cons s steps hi =>
    cases s
    case script t source => exact congrArg (t.path :: ·) hi
    all_goals exact hi

theorem map_path_sources_sublist :
    ((steps.filterMap Step.source?).map (·.1)).Sublist ((tables steps).map (·.path)) := by
  induction steps
  case nil => exact .slnil
  case cons s steps hi =>
    cases s
    case script t source =>
      cases source
      case none => exact hi.cons t.path
      case some => exact hi.cons_cons t.path
    all_goals exact hi

end

namespace Findings

attribute [ext] Findings

variable {steps steps' : List Step}

-- What is found does not depend on the order of the steps beyond what is kept of it.
theorem ofSteps_eq_of_reordered (hd : DistinctPaths steps) (h : Reordered steps steps') :
    ofSteps steps = ofSteps steps' := by
  have hp {α : Type} (held? : Step → Option α) :
      (steps.filterMap held?).Perm (steps'.filterMap held?) := h.perm.filterMap held?
  apply Findings.ext
  case scripts =>
    have hn : ((steps.filterMap Step.script?).map (·.1)).Nodup := map_path_scripts ▸ hd.scripts
    rw [scripts_ofSteps, scripts_ofSteps, SortedMap.ofList_eq_of_perm (hp _) hn]
  case scenes =>
    rw [scenes_ofSteps, scenes_ofSteps, SortedMap.ofList_eq_of_perm (hp _) hd.scenes]
  case resources =>
    rw [resources_ofSteps, resources_ofSteps, SortedMap.ofList_eq_of_perm (hp _) hd.resources]
  case otherFiles =>
    rw [otherFiles_ofSteps, otherFiles_ofSteps, SortedMap.group_eq h.extensions]
  case classRegistry =>
    apply SortedMap.ext_get?
    intro c
    rw [get?_classRegistry, get?_classRegistry, h.classes]
  case declarations =>
    apply SortedMap.ext_get?
    intro c
    rw [get?_declarations, get?_declarations, h.classes]
  case sources =>
    -- Each source comes with its script, so their paths are distinct as well.
    have hn := hd.scripts.sublist map_path_sources_sublist
    rw [sources_ofSteps, sources_ofSteps, SortedMap.ofList_eq_of_perm (hp _) hn]

end Findings

-- The indexes of a report are derived from what was found once all files are there, so they do not
-- depend on the order of the steps either.
theorem report_eq_of_reordered {steps steps' : List Step} (hd : DistinctPaths steps)
    (h : Reordered steps steps') (root : String) (project : Project) :
    (Findings.ofSteps steps).report root project =
      (Findings.ofSteps steps').report root project := by
  rw [Findings.ofSteps_eq_of_reordered hd h]

def bossSteps : List Step :=
  [.script { path := "boss.gd", summary := { base := some "Enemy" } } (some "extends Enemy"),
   .scene "boss.tscn" {}]

def enemySteps : List Step :=
  [.script { path := "b.gd", summary := { className := some "Enemy" } } none,
   .other "png" "b.png",
   .script { path := "a.gd", summary := { className := some "Enemy" } } none,
   .other "png" "a.png"]

theorem report_boss_enemies :
    DistinctPaths (bossSteps ++ enemySteps) ∧
      Reordered (bossSteps ++ enemySteps) (enemySteps ++ bossSteps) ∧
      (Findings.ofSteps (bossSteps ++ enemySteps)).report "game" {} =
        (Findings.ofSteps (enemySteps ++ bossSteps)).report "game" {} := by
  have hd : DistinctPaths (bossSteps ++ enemySteps) :=
    { scripts := by decide, scenes := by decide, resources := by decide }
  have hc (c : String) : bossSteps.filterMap (Step.declares? c) = [] := rfl
  have he : bossSteps.filterMap Step.other? = [] := rfl
  have ho : Reordered (bossSteps ++ enemySteps) (enemySteps ++ bossSteps) :=
    { perm := List.perm_append_comm
      classes := by simp [declaring, hc]
      extensions := by simp [othersOf, he] }
  exact ⟨hd, ho, report_eq_of_reordered hd ho "game" {}⟩

end GodotAtlas.Report
