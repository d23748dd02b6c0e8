import GodotAtlas.Proofs.Render.JsonText
import GodotAtlas.Render.ReportJson

namespace GodotAtlas.Render

open Symbols Format Report Json Function

section

variable {α : Type} {f : α → Json}

@[simp]
theorem list_eq_iff (hf : Injective f) {xs ys : List α} : list f xs = list f ys ↔ xs = ys := by
  simp [Json.list, hf.list_map.eq_iff]

@[simp]
theorem optional_eq_iff (hf : Injective f) (hn : ∀ a, f a ≠ null) {x y : Option α} :
    Json.optional f x = Json.optional f y ↔ x = y := by
  cases x <;> cases y <;> simp [Json.optional, hn, Ne.symm (hn _), hf.eq_iff]

@[simp]
theorem field?_eq_iff (hf : Injective f) {name : String} {x y : Option α} :
    field? name f x = field? name f y ↔ x = y := by
  cases x <;> cases y <;> simp [field?, hf.eq_iff]

theorem mapJson_eq_iff {κ : Type} [Ord κ] {key : κ → String} (hk : Injective key)
    (hf : Injective f) {m n : SortedMap κ α} : mapJson key f m = mapJson key f n ↔ m = n := by
  have he : Injective fun e : κ × α => (key e.1, f e.2) := hk.prodMap hf
  rw [mapJson, mapJson, object.injEq, he.list_map.eq_iff]
  exact ⟨SortedMap.ext, congrArg _⟩

@[simp]
theorem tableJson_eq_iff (hf : Injective f) {m n : SortedMap String α} :
    tableJson f m = tableJson f n ↔ m = n :=
  mapJson_eq_iff injective_id hf

@[simp]
theorem list_injective (hf : Injective f) : Injective (Json.list f) :=
  fun _ _ => (list_eq_iff hf).mp

end

@[simp]
theorem string_injective : Injective string :=
  fun _ _ => string.inj

@[simp]
theorem strings_injective : Injective strings :=
  list_injective string_injective

@[simp]
theorem strings_eq_iff {ss ts : List String} : strings ss = strings ts ↔ ss = ts :=
  strings_injective.eq_iff

@[simp]
theorem parameterJson_injective : Injective parameterJson := by
  intro p q h
  cases p; cases q
  simpa [parameterJson] using h

@[simp]
theorem signalJson_injective : Injective signalJson := by
  intro s t h
  cases s; cases t
  simpa [signalJson] using h

@[simp]
theorem enumJson_injective : Injective enumJson := by
  intro e f h
  cases e; cases f
  simpa [enumJson] using h

@[simp]
theorem constantJson_injective : Injective constantJson := by
  intro c d h
  cases c; cases d
  simpa [constantJson] using h

@[simp]
theorem propertyJson_injective : Injective propertyJson := by
  intro p q h
  cases p; cases q
  simpa [propertyJson] using h

@[simp]
theorem functionJson_injective : Injective functionJson := by
  intro f g h
  cases f; cases g
  simpa [functionJson] using h

@[simp]
theorem memberFields_append_eq_iff {m n : Members} {fs gs : List (String × Json)} :
    memberFields m ++ fs = memberFields n ++ gs ↔ m = n ∧ fs = gs := by
  cases m; cases n
  simp [memberFields, and_assoc]

mutual

theorem innerTypeJson_inj : (t u : InnerType) → innerTypeJson t = innerTypeJson u → t = u
  | .mk name base members innerTypes, .mk name' base' members' innerTypes', h => by
    simp only [innerTypeJson, object.injEq, List.cons_append, List.nil_append,
      List.cons.injEq, Prod.mk.injEq, true_and, string.injEq, memberFields_append_eq_iff,
      array.injEq, and_true, ne_eq, reduceCtorEq, not_false_eq_true, implies_true,
      string_injective, optional_eq_iff] at h
    obtain ⟨rfl, rfl, rfl, hi⟩ := h
    rw [innerTypesJson_inj innerTypes innerTypes' hi]

theorem innerTypesJson_inj :
    (ts us : List InnerType) → innerTypesJson ts = innerTypesJson us → ts = us
  | [], [], _ => rfl
  | [], _ :: _, h => by simp [innerTypesJson] at h
  | _ :: _, [], h => by simp [innerTypesJson] at h
  | t :: ts, u :: us, h => by
    simp only [innerTypesJson, List.cons.injEq] at h
    rw [innerTypeJson_inj t u h.left, innerTypesJson_inj ts us h.right]

end

@[simp]
theorem innerTypesJson_eq_iff {ts us : List InnerType} :
    innerTypesJson ts = innerTypesJson us ↔ ts = us :=
  ⟨innerTypesJson_inj ts us, congrArg _⟩

@[simp]
theorem symbolsJson_injective : Injective symbolsJson := by
  intro t u h
  obtain ⟨_, ⟨⟩, _, _⟩ := t
  obtain ⟨_, ⟨⟩, _, _⟩ := u
  simpa [symbolsJson, Table.className, Table.base, Table.members, and_assoc] using h

@[simp]
theorem autoloadJson_injective : Injective autoloadJson := by
  intro a b h
  cases a; cases b
  simpa [autoloadJson] using h

@[simp]
theorem projectJson_injective : Injective projectJson := by
  intro p q h
  cases p; cases q
  simpa [projectJson] using h

@[simp]
theorem rootJson_injective : Injective rootJson := by
  intro r s h
  cases r; cases s
  simpa [rootJson] using h

@[simp]
theorem nodeJson_injective : Injective nodeJson := by
  intro m n h
  cases m; cases n
  simpa [nodeJson] using h

@[simp]
theorem extResourceJson_injective : Injective extResourceJson := by
  intro r s h
  cases r; cases s
  simpa [extResourceJson] using h

@[simp]
theorem subResourceJson_injective : Injective subResourceJson := by
  intro s t h
  simpa [subResourceJson] using h

@[simp]
theorem connectionJson_injective : Injective connectionJson := by
  intro c d h
  cases c; cases d
  simpa [connectionJson] using h

@[simp]
theorem sceneJson_injective : Injective sceneJson := by
  intro s t h
  have hn (r : SceneRoot) : rootJson r ≠ null := by simp [rootJson]
  cases s; cases t
  simpa [sceneJson, hn] using h

@[simp]
theorem scriptReferenceJson_injective : Injective scriptReferenceJson := by
  intro s t h
  -- The kind is told by the first field.
  cases s <;> cases t
  case inline.inline => simpa [scriptReferenceJson] using h
  case external.external => simpa [scriptReferenceJson] using h
  all_goals simp [scriptReferenceJson] at h

@[simp]
theorem resourceJson_injective : Injective resourceJson := by
  intro r s h
  have hn (s : ScriptReference) : scriptReferenceJson s ≠ null := by
    cases s <;> simp [scriptReferenceJson]
  cases r; cases s
  simpa [resourceJson, hn] using h

@[simp]
theorem definitionJson_injective : Injective definitionJson := by
  intro d e h
  cases d; cases e
  simpa [definitionJson] using h

@[simp]
theorem signalEntryJson_injective : Injective signalEntryJson := by
  intro e f h
  cases e; cases f
  simpa [signalEntryJson] using h

@[simp]
theorem edgeJson_injective : Injective edgeJson := by
  intro e f h
  cases e <;> cases f
  case extends.extends => simpa [edgeJson] using h
  case loads.loads => simpa [edgeJson] using h
  all_goals simp [edgeJson] at h

theorem statsJson_injective : Injective statsJson := by
  intro s t h
  cases s; cases t
  simpa [statsJson] using h

@[simp]
theorem warningJson_injective : Injective warningJson := by
  intro v w h
  cases v <;> cases w
  case missingProjectFile.missingProjectFile => rfl
  case classCollision.classCollision => simpa [warningJson] using h
  all_goals simp [warningJson] at h

theorem label_injective : Injective AssetCategory.label := by
  intro c d h
  cases c <;> cases d <;> simp_all [AssetCategory.label]

theorem sourcesField_injective : Injective sourcesField := by
  intro m n h
  unfold sourcesField at h
  split at h <;> split at h
  case isTrue.isTrue hm hn =>
    have he : m.entries = n.entries := (List.isEmpty_iff.mp hm).trans (List.isEmpty_iff.mp hn).symm
    exact SortedMap.ext he
  case isFalse.isFalse => simpa using h
  all_goals simp at h

theorem reportJson_injective : Injective reportJson := by
  intro r s h
  cases r; cases s
  simpa [reportJson, mapJson_eq_iff, label_injective, statsJson_injective.eq_iff,
    projectJson_injective.eq_iff, sourcesField_injective.eq_iff] using h

-- No two reports share a text.
theorem renderJson_eq_iff {r s : GodotAtlas.Report} : renderJson r = renderJson s ↔ r = s := by
  constructor
  case mp => exact fun h => reportJson_injective (document_inj h)
  case mpr => exact congrArg renderJson

end GodotAtlas.Render
