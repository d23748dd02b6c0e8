import GodotAtlas.Proofs.Report.ClassRegistry
import GodotAtlas.Proofs.Text.Matching

namespace GodotAtlas.Report

open Format Symbols Text

-- The script of a report that a base type stands for: that of a registered class, and only if there
-- is no such class the script at a path.
inductive Resolves (r : Report) (base : String) : String → Prop
  | registered {file : String} (h : r.classRegistry.get? base = some file) : Resolves r base file
  | located {file : String} (hn : base ∉ r.classRegistry.keys) (hb : base = resScheme ++ file)
      (hs : file ∈ r.scripts.keys) : Resolves r base file

theorem resToRelative_append {path : String} : resToRelative (resScheme ++ path) = path := by
  simp [resToRelative, skip?_append]

theorem isPrefixOf_resScheme_iff {base : String} :
    resScheme.toList.isPrefixOf base.toList ↔ ∃ path, base = resScheme ++ path := by
  rw [List.isPrefixOf_iff_prefix]
  constructor
  case mp =>
    rintro ⟨cs, h⟩
    exact ⟨String.ofList cs, String.toList_injective (by simp [← h])⟩
  case mpr =>
    rintro ⟨path, rfl⟩
    simp

namespace Findings

variable {f : Findings} {t : Table} {base file p : String}

theorem resolveBase?_eq_some_iff (root : String) (project : Project) :
    f.resolveBase? base = some file ↔ Resolves (f.report root project) base file := by
  rw [resolveBase?]
  cases hc : f.classRegistry.get? base
  case some winner =>
    constructor
    case mp => exact fun h => .registered (hc.trans h)
    case mpr =>
      intro h
      cases h
      case registered h => exact hc.symm.trans h
      case located hn _ _ => exact absurd (SortedMap.mem_keys_iff.mpr ⟨winner, hc⟩) hn
  case none =>
    have hn : base ∉ f.classRegistry.keys := by simp [SortedMap.mem_keys_iff, hc]
    simp only [Option.ite_none_right_eq_some, Bool.and_eq_true, isPrefixOf_resScheme_iff,
      SortedMap.contains_iff, Option.some.injEq]
    constructor
    case mp =>
      rintro ⟨⟨⟨path, rfl⟩, hs⟩, rfl⟩
      rw [resToRelative_append] at hs ⊢
      exact .located hn rfl hs
    case mpr =>
      intro h
      cases h
      case registered h => cases hc.symm.trans h
      case located _ hb hs =>
        subst hb
        rw [resToRelative_append]
        exact ⟨⟨⟨file, rfl⟩, hs⟩, rfl⟩

def baseEdge? (f : Findings) (t : Table) : Option Edge :=
  t.base.bind fun b => (f.resolveBase? b).map fun file => Edge.extends b file

theorem edgesOf_eq : f.edgesOf t = (f.baseEdge? t).toList ++ t.dependencies.map .loads :=
  rfl

theorem baseEdge?_eq_some_iff (root : String) (project : Project) {e : Edge} :
    f.baseEdge? t = some e ↔ ∃ b file, t.base = some b ∧
      Resolves (f.report root project) b file ∧ e = .extends b file := by
  simp only [baseEdge?, Option.bind_eq_some_iff, Option.map_eq_some_iff,
    resolveBase?_eq_some_iff root project, @eq_comm Edge e]
  simp

theorem extends_mem_edgesOf (root : String) (project : Project)
    (h : .extends base file ∈ f.edgesOf t) : Resolves (f.report root project) base file := by
  simp only [edgesOf_eq, List.mem_append, Option.mem_toList,
    baseEdge?_eq_some_iff root project, List.mem_map, reduceCtorEq, and_false, exists_false,
    or_false] at h
  obtain ⟨_, _, _, hr, he⟩ := h
  cases he
  exact hr

theorem get?_dependencies : f.dependencies.get? p =
    ((f.scripts.get? p).map f.edgesOf).filter (!·.isEmpty) := by
  rw [dependencies, SortedMap.get?_filter, SortedMap.get?_map]

theorem exists_of_get?_dependencies {edges : List Edge} (h : f.dependencies.get? p = some edges) :
    ∃ t, f.scripts.get? p = some t ∧ f.edgesOf t = edges := by
  rw [get?_dependencies, Option.filter_eq_some_iff, Option.map_eq_some_iff] at h
  exact h.left

end Findings

-- The dependencies of a report are those that its scripts have.
structure DependenciesMatch (r : Report) : Prop where
  edges : ∀ p t, r.scripts.get? p = some t → ∃ base : Option Edge,
    (∀ e, base = some e ↔
      ∃ b file, t.base = some b ∧ Resolves r b file ∧ e = .extends b file) ∧
    (r.dependencies.get? p).getD [] = base.toList ++ t.dependencies.map .loads ∧
    (p ∈ r.dependencies.keys ↔ base.toList ++ t.dependencies.map .loads ≠ [])
  scripts : ∀ p ∈ r.dependencies.keys, p ∈ r.scripts.keys
  targets : ∀ p edges b file, r.dependencies.get? p = some edges → .extends b file ∈ edges →
    file ∈ r.scripts.keys

section

variable {steps : List Step} {root : String} {project : Project}

-- A registered class belongs to a script that is still there, if with another table.
theorem mem_keys_of_resolves {base file : String}
    (h : Resolves ((Findings.ofSteps steps).report root project) base file) :
    file ∈ (Findings.ofSteps steps).scripts.keys := by
  cases h
  case registered h =>
    have hl : (declaring base steps).getLast? = some file := Findings.get?_classRegistry ▸ h
    have ⟨t, ht, _, hp⟩ := mem_declaring_iff.mp (List.mem_of_getLast? hl)
    exact Findings.mem_keys_scripts.mpr ⟨t, ht, hp⟩
  case located _ hs => exact hs

theorem dependenciesMatch_report :
    DependenciesMatch ((Findings.ofSteps steps).report root project) := by
  constructor
  case edges =>
    intro p t h
    refine ⟨_, fun e => Findings.baseEdge?_eq_some_iff root project, ?_⟩
    have hg : (Findings.ofSteps steps).scripts.get? p = some t := h
    rw [← Findings.edgesOf_eq]
    simp only [Findings.report, SortedMap.mem_keys_iff, Findings.get?_dependencies, hg,
      Option.map_some]
    cases (Findings.ofSteps steps).edgesOf t <;> simp [Option.filter]
  case scripts =>
    intro p h
    obtain ⟨edges, he⟩ := SortedMap.mem_keys_iff.mp h
    obtain ⟨t, ht, _⟩ := Findings.exists_of_get?_dependencies he
    exact SortedMap.mem_keys_iff.mpr ⟨t, ht⟩
  case targets =>
    intro p edges b file h he
    obtain ⟨t, _, ht⟩ := Findings.exists_of_get?_dependencies h
    exact mem_keys_of_resolves (Findings.extends_mem_edgesOf root project (ht ▸ he))

end

-- Class names and scripts are looked up among all steps, in front of a script and behind it. What a
-- script depends on is then what it extends, if that is a script, and what it loads.
theorem dependencies_of_run (steps : List Step) (root : String) (project : Project) :
    let r := (Findings.ofSteps steps).report root project
    (∀ c, r.classRegistry.get? c = (declaring c steps).getLast?) ∧
      (∀ p, p ∈ r.scripts.keys ↔ ∃ t ∈ tables steps, t.path = p) ∧ DependenciesMatch r :=
  ⟨fun _ => Findings.get?_classRegistry, fun _ => Findings.mem_keys_scripts,
    dependenciesMatch_report⟩

end GodotAtlas.Report
