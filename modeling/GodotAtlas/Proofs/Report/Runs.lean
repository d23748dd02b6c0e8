import GodotAtlas.Proofs.SortedMap
import GodotAtlas.Report.Findings

namespace GodotAtlas.Report

open Format Symbols

namespace Step

def script? : Step → Option (String × Table)
  | .script t _ => some (t.path, t)
  | _ => none

def source? : Step → Option (String × String)
  | .script t source => source.map (t.path, ·)
  | _ => none

def scene? : Step → Option (String × Scene)
  | .scene path s => some (path, s)
  | _ => none

def resource? : Step → Option (String × Resource)
  | .resource path r => some (path, r)
  | _ => none

def other? : Step → Option (String × String)
  | .other ext path => some (ext, path)
  | _ => none

end Step

namespace Findings

section

variable {f : Findings} {t : Table} {source : Option String}

@[simp]
theorem scripts_add_script : (f.add (.script t source)).scripts = f.scripts.insert t.path t := by
  simp only [add]
  cases t.className <;> cases source <;> rfl

@[simp]
theorem scenes_add_script : (f.add (.script t source)).scenes = f.scenes := by
  simp only [add]
  cases t.className <;> cases source <;> rfl

@[simp]
theorem resources_add_script : (f.add (.script t source)).resources = f.resources := by
  simp only [add]
  cases t.className <;> cases source <;> rfl

@[simp]
theorem otherFiles_add_script : (f.add (.script t source)).otherFiles = f.otherFiles := by
  simp only [add]
  cases t.className <;> cases source <;> rfl

theorem classRegistry_add_script : (f.add (.script t source)).classRegistry =
    t.className.elim f.classRegistry fun c => f.classRegistry.insert c t.path := by
  simp only [add]
  cases t.className <;> cases source <;> rfl

theorem declarations_add_script : (f.add (.script t source)).declarations =
    t.className.elim f.declarations fun c =>
      f.declarations.alter c fun files => files.getD [] ++ [t.path] := by
  simp only [add]
  cases t.className <;> cases source <;> rfl

theorem sources_add_script : (f.add (.script t source)).sources =
    source.elim f.sources fun s => f.sources.insert t.path s := by
  simp only [add]
  cases t.className <;> cases source <;> rfl

end

section

variable {f : Findings} {path : String}

@[simp]
theorem add_scene {s : Scene} :
    f.add (.scene path s) = { f with scenes := f.scenes.insert path s } :=
  rfl

@[simp]
theorem add_resource {r : Resource} :
    f.add (.resource path r) = { f with resources := f.resources.insert path r } :=
  rfl

@[simp]
theorem add_other {ext : String} : f.add (.other ext path) =
    { f with otherFiles := f.otherFiles.alter ext fun files => files.getD [] ++ [path] } :=
  rfl

end

theorem ofSteps_append {steps : List Step} {s : Step} :
    ofSteps (steps ++ [s]) = (ofSteps steps).add s := by
  simp [ofSteps]

-- What holds before the first step and is kept by each step holds behind every run.
theorem ofSteps_induction {motive : List Step → Findings → Prop} (nil : motive [] {})
    (add : ∀ steps s, motive steps (ofSteps steps) → motive (steps ++ [s]) ((ofSteps steps).add s))
    (steps : List Step) : motive steps (ofSteps steps) := by
  generalize hr : steps.reverse = r
  induction r generalizing steps
  case nil =>
    cases List.reverse_eq_nil_iff.mp hr
    exact nil
  case cons s r hi =>
    have hs : steps = r.reverse ++ [s] := by simpa using congrArg List.reverse hr
    rw [hs, ofSteps_append]
    exact add _ _ (hi _ (by simp))

-- A part of the findings that each step changes by what it holds for that part is behind a run
-- what all steps together hold for it.
theorem part_ofSteps {α β : Type} (part : Findings → α) (held? : Step → Option β)
    (change : α → β → α) (h : ∀ f s, part (f.add s) = (held? s).elim (part f) (change (part f)))
    (steps : List Step) :
    part (ofSteps steps) = (steps.filterMap held?).foldl change (part {}) := by
  induction steps using ofSteps_induction
  case nil => rfl
  case add steps s hi =>
    rw [h, hi, List.filterMap_append, List.foldl_append]
    cases hs : held? s <;> simp [hs]

section

variable {steps : List Step}

theorem scripts_ofSteps : (ofSteps steps).scripts = .ofList (steps.filterMap Step.script?) := by
  refine part_ofSteps (·.scripts) Step.script? (fun m e => m.insert e.1 e.2) (fun f s => ?_) steps
  cases s <;> simp [Step.script?]

theorem sources_ofSteps : (ofSteps steps).sources = .ofList (steps.filterMap Step.source?) := by
  refine part_ofSteps (·.sources) Step.source? (fun m e => m.insert e.1 e.2) (fun f s => ?_) steps
  cases s
  case script t source => cases source <;> simp [Step.source?, sources_add_script]
  all_goals rfl

theorem scenes_ofSteps : (ofSteps steps).scenes = .ofList (steps.filterMap Step.scene?) := by
  refine part_ofSteps (·.scenes) Step.scene? (fun m e => m.insert e.1 e.2) (fun f s => ?_) steps
  cases s <;> simp [Step.scene?]

theorem resources_ofSteps :
    (ofSteps steps).resources = .ofList (steps.filterMap Step.resource?) := by
  refine part_ofSteps (·.resources) Step.resource? (fun m e => m.insert e.1 e.2)
    (fun f s => ?_) steps
  cases s <;> simp [Step.resource?]

theorem otherFiles_ofSteps :
    (ofSteps steps).otherFiles = .group (steps.filterMap Step.other?) := by
  refine part_ofSteps (·.otherFiles) Step.other?
    (fun m e => m.alter e.1 fun files => files.getD [] ++ [e.2]) (fun f s => ?_) steps
  cases s <;> simp [Step.other?]

end

end Findings

end GodotAtlas.Report
