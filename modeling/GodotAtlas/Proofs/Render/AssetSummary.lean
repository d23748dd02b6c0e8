import GodotAtlas.Proofs.Report.Assets
import GodotAtlas.Proofs.Report.MergeOrder
import GodotAtlas.Proofs.Report.Totals
import GodotAtlas.Render.Markdown

namespace GodotAtlas

theorem SortedMap.values_flatten_group_perm {κ α : Type} [Ord κ] [Std.TransOrd κ]
    [Std.LawfulEqOrd κ] {es : List (κ × α)} :
    (group es).values.flatten.Perm (es.map (·.2)) := by
  induction es using List.reverseRecOn
  case nil => exact .nil
  case append_singleton es e hi =>
    rw [group_append, List.map_append]
    exact values_flatten_alter_perm.trans (hi.append_right _)

theorem SortedMap.ne_nil_of_mem_values_group {κ α : Type} [Ord κ] [Std.TransOrd κ]
    [Std.LawfulEqOrd κ] [DecidableEq κ] {es : List (κ × α)} {vs : List α}
    (h : vs ∈ (group es).values) : vs ≠ [] := by
  obtain ⟨⟨k, _⟩, he, rfl⟩ := List.mem_map.mp h
  have hg := get?_eq_some_iff.mpr he
  rw [get?_group] at hg
  split at hg
  case isTrue => cases hg
  case isFalse hn => exact Option.some.inj hg ▸ hn

namespace Report

open Format Text

def othersIn (category : Option AssetCategory) (r : Report) : List String :=
  (r.otherFiles.entries.filter fun e => AssetCategory.ofExtension? e.1 = category).flatMap (·.2)

def AssetCategory.all : List AssetCategory :=
  [images, audio, fonts, models, shaders, data, other]

-- The assets of a report are its other files by category, apart from those that are of none.
structure AssetsMatch (steps : List Step) (r : Report) : Prop where
  recorded : ∀ ext, (r.otherFiles.get? ext).getD [] = othersOf ext steps
  order : r.assets.keys.Sublist AssetCategory.all
  keys : ∀ category, category ∈ r.assets.keys ↔ ∃ path, path ∈ othersIn (some category) r
  sorted : ∀ category, ((r.assets.get? category).getD []).Pairwise fun p q =>
    p = q ∨ bytesOf p < bytesOf q
  files : ∀ category, ((r.assets.get? category).getD []).Perm (othersIn (some category) r)
  complete : (r.assets.values.flatten ++ othersIn none r).Perm r.otherFiles.values.flatten
  total : total (r.assets.values.map List.length) + (othersIn none r).length =
    total (r.otherFiles.values.map List.length)

theorem AssetCategory.keys_sublist_all {α : Type} {m : SortedMap AssetCategory α} :
    m.keys.Sublist all := by
  have hall : all.Pairwise fun a b => compare a b = .lt := by decide
  have hm : m.keys ⊆ all := fun c _ => by cases c <;> decide
  obtain ⟨cs, hp, hs⟩ := List.subperm_of_subset m.keys_nodup hm
  have he : cs = m.keys := by
    refine hp.eq_of_pairwise (fun a b _ _ hab hba => ?_) (hall.sublist hs) m.keys_ascending
    exact absurd hba (Std.OrientedCmp.not_lt_of_lt hab)
  exact he ▸ hs

namespace Findings

variable {f : Findings} {root : String} {project : Project} {category : AssetCategory}

theorem othersIn_report : othersIn (some category) (f.report root project) =
    (SortedMap.valuesOf category f.categorized).flatten := by
  rw [othersIn, report, categorized]
  induction f.otherFiles.entries
  case nil => rfl
  case cons e es hi =>
    rw [filterMap_cons_eq, SortedMap.valuesOf_append, List.flatten_append, ← hi]
    cases hc : AssetCategory.ofExtension? e.1
    case none => simp [hc]
    case some c => by_cases h : c = category <;> simp [hc, h, SortedMap.valuesOf_cons]

theorem categorized_append_perm :
    ((f.categorized.map (·.2)).flatten ++ othersIn none (f.report root project)).Perm
      f.otherFiles.values.flatten := by
  rw [othersIn, report, categorized, SortedMap.values]
  induction f.otherFiles.entries
  case nil => exact .nil
  case cons e es hi =>
    rw [filterMap_cons_eq]
    cases hc : AssetCategory.ofExtension? e.1
    case none =>
      simpa [hc] using List.perm_append_comm_assoc _ e.2 _ |>.trans (hi.append_left e.2)
    case some c => simpa [hc] using hi.append_left e.2

theorem values_assets_perm :
    f.assets.values.flatten.Perm (f.categorized.map (·.2)).flatten := by
  have hv : f.assets.values =
      (SortedMap.group f.categorized).values.map fun lists => sortStrings lists.flatten := by
    simp [assets, categorized, SortedMap.values, SortedMap.map]
  have hs : (f.assets.values.flatten).Perm
      ((SortedMap.group f.categorized).values.flatMap List.flatten) := by
    rw [hv, ← List.flatMap_def]
    exact List.Perm.flatMap_left _ fun lists _ => List.mergeSort_perm _ _
  rw [List.flatMap_def, ← List.flatten_flatten] at hs
  exact hs.trans SortedMap.values_flatten_group_perm.flatten

theorem mem_keys_assets_iff (hn : ∀ files ∈ f.otherFiles.values, files ≠ []) :
    category ∈ f.assets.keys ↔
      ∃ path, path ∈ othersIn (some category) (f.report root project) := by
  have hk : f.assets.keys = (SortedMap.group f.categorized).keys := by
    simp [assets, categorized, SortedMap.keys, SortedMap.map]
  rw [hk, othersIn_report, SortedMap.mem_keys_iff, SortedMap.get?_group]
  constructor
  case mp =>
    rintro ⟨lists, hl⟩
    split at hl
    case isTrue => cases hl
    case isFalse hv =>
      obtain ⟨files, hf⟩ := List.exists_mem_of_ne_nil _ hv
      obtain ⟨e, he, hc⟩ := List.mem_filterMap.mp (SortedMap.mem_valuesOf_iff.mp hf)
      obtain ⟨c, _, hc⟩ := Option.map_eq_some_iff.mp hc
      have hfe : e.2 = files := congrArg Prod.snd hc
      have hne : files ≠ [] := hfe ▸ hn _ (List.mem_map_of_mem he)
      obtain ⟨path, hp⟩ := List.exists_mem_of_ne_nil _ hne
      exact ⟨path, List.mem_flatten_of_mem hf hp⟩
  case mpr =>
    rintro ⟨path, hp⟩
    obtain ⟨files, hf, _⟩ := List.mem_flatten.mp hp
    exact ⟨_, if_neg (List.ne_nil_of_mem hf)⟩

end Findings

theorem assetsMatch_of_run (steps : List Step) (root : String) (project : Project) :
    AssetsMatch steps ((Findings.ofSteps steps).report root project) := by
  have hp := Findings.values_assets_perm.append_right _ |>.trans
    (@Findings.categorized_append_perm (.ofSteps steps) root project)
  constructor
  case recorded =>
    intro ext
    simp only [Findings.report, Findings.otherFiles_ofSteps, SortedMap.get?_group, othersOf]
    split <;> simp_all
  case order => exact AssetCategory.keys_sublist_all
  case keys =>
    intro category
    refine Findings.mem_keys_assets_iff fun files hf => ?_
    rw [Findings.otherFiles_ofSteps] at hf
    exact SortedMap.ne_nil_of_mem_values_group hf
  case sorted =>
    intro category
    have hs : ((Findings.ofSteps steps).assets.get? category).getD [] = _ := Findings.get?_assets
    refine List.Pairwise.imp isLE_compare_iff.mp ?_
    exact hs ▸ pairwise_sortStrings _
  case files =>
    intro category
    have hs : ((Findings.ofSteps steps).assets.get? category).getD [] = _ := Findings.get?_assets
    rw [Findings.othersIn_report]
    exact hs ▸ List.mergeSort_perm _ _
  case complete => exact hp
  case total =>
    have hl := hp.length_eq
    rwa [List.length_append, ← total_map_length, ← total_map_length] at hl

end Report

namespace Render

open Report Format

-- What a document says of the assets of a category: how many there are, some of them, and how many
-- there are besides.
structure AssetBlock where
  category : AssetCategory
  count : Nat
  shown : List String
  more : Option Nat

def AssetBlock.lines (b : AssetBlock) : List String :=
  s!"**{b.category.label}** ({b.count} files):" :: b.shown.map (fun path => "- " ++ code path) ++
    (b.more.map fun n => s!"- ... and {n} more").toList

-- The first files up to a limit are shown, and those that are left out are counted.
structure AssetBlock.Truncates (b : AssetBlock) (files : List String) (limit : Nat) : Prop where
  count : b.count = files.length
  shown : b.shown = files.take (min files.length limit)
  more : b.more = if limit < files.length then some (files.length - limit) else none
  complete : b.shown.length + b.more.getD 0 = files.length

def assetSummary (blocks : List AssetBlock) : List String :=
  unlessEmpty blocks
    (["## 9. Asset Summary", ""] ++ [""].intercalate (blocks.map AssetBlock.lines))

def blockOf (limits : Limits) (category : AssetCategory) (files : List String) : AssetBlock where
  category
  count := files.length
  shown := files.take (limits.of category)
  more := if limits.of category < files.length then some (files.length - limits.of category)
    else none

section

variable {limits : Limits} {category : AssetCategory} {files : List String}

theorem assetLines_eq : assetLines limits category files =
    (blockOf limits category files).lines ++ [""] := by
  simp only [assetLines, blockOf, AssetBlock.lines]
  split <;> simp

theorem of_eq_ite : limits.of category =
    if category = .other then limits.otherAssets else limits.assetsPerCategory := by
  cases category <;> rfl

theorem truncates_blockOf :
    (blockOf limits category files).Truncates files (limits.of category) := by
  constructor
  case count => rfl
  case shown => simp [blockOf, List.take_eq_take_iff, Nat.min_comm]
  case more => rfl
  case complete =>
    simp only [blockOf, List.length_take]
    split <;> simp <;> omega

end

theorem dropTrailingBlank_append_blank {ls : List String} {l : String} (h : l ≠ "") :
    dropTrailingBlank (ls ++ [l] ++ [""]) = ls ++ [l] := by
  simp [dropTrailingBlank, h]

theorem intercalate_append_singleton {α : Type} {sep l : List α} {ls : List (List α)} :
    sep.intercalate (ls ++ [l]) = ls.flatMap (· ++ sep) ++ l := by
  induction ls
  case nil => simp
  case cons l' ls hi =>
    rw [List.cons_append, List.intercalate_cons_of_ne_nil (by simp), hi]
    simp

theorem AssetBlock.exists_lines_eq (b : AssetBlock) :
    ∃ ls l, b.lines = ls ++ [l] ∧ l ≠ "" := by
  have hn : ∀ l ∈ b.lines, l ≠ "" := by
    simp only [AssetBlock.lines, List.cons_append, List.mem_cons, List.mem_append, List.mem_map,
      Option.mem_toList, Option.map_eq_some_iff]
    rintro l (rfl | ⟨path, _, rfl⟩ | ⟨n, _, rfl⟩) he
    all_goals simp only [String.append_eq_empty_iff] at he
    all_goals exact absurd he (by simp)
  have hl := List.dropLast_append_getLast (List.cons_ne_nil _ _ : b.lines ≠ [])
  exact ⟨_, _, hl.symm, hn _ (List.getLast_mem _)⟩

theorem dropTrailingBlank_blocks (blocks : List AssetBlock) :
    dropTrailingBlank (unlessEmpty blocks (["## 9. Asset Summary", ""] ++
      blocks.flatMap fun b => b.lines ++ [""])) = assetSummary blocks := by
  induction blocks using List.reverseRecOn
  case nil => rfl
  case append_singleton bs b _ =>
    obtain ⟨ls, l, hb, hl⟩ := b.exists_lines_eq
    have hs : assetSummary (bs ++ [b]) = (["## 9. Asset Summary", ""] ++
        bs.flatMap (fun b => b.lines ++ [""]) ++ ls) ++ [l] := by
      simp [assetSummary, unlessEmpty, intercalate_append_singleton, List.flatMap_map, hb]
    have he : unlessEmpty (bs ++ [b]) (["## 9. Asset Summary", ""] ++
        (bs ++ [b]).flatMap fun b => b.lines ++ [""]) = assetSummary (bs ++ [b]) ++ [""] := by
      simp [hs, unlessEmpty, hb]
    rw [he, hs, dropTrailingBlank_append_blank hl]

-- Every file that is added as one of the others is in one category or in none, whatever the steps.
-- The tenth section of a document has a block for each category with an asset, in the order of the
-- categories, in which every asset is either shown or counted as left out, whatever the limits.
theorem assets_of_run (steps : List Step) (root : String) (project : Project) (limits : Limits) :
    let r := (Findings.ofSteps steps).report root project
    AssetsMatch steps r ∧ ∃ blocks : List AssetBlock,
      (sections limits r)[9]? = some (assetSummary blocks) ∧
      blocks.map (·.category) = r.assets.keys ∧
      ∀ b ∈ blocks, b.Truncates ((r.assets.get? b.category).getD [])
        (if b.category = .other then limits.otherAssets else limits.assetsPerCategory) := by
  intro r
  refine ⟨assetsMatch_of_run steps root project,
    r.assets.entries.map fun e => blockOf limits e.1 e.2, ?summary, ?categories, ?blocks⟩
  case summary =>
    have hs : (sections limits r)[9]? = some (dropTrailingBlank (assetSection limits r)) := rfl
    rw [hs, ← dropTrailingBlank_blocks, List.flatMap_map]
    simp [assetSection, unlessEmpty, assetLines_eq]
  case categories => simp [SortedMap.keys, blockOf]
  case blocks =>
    intro b hb
    obtain ⟨e, he, rfl⟩ := List.mem_map.mp hb
    have hg : r.assets.get? e.1 = some e.2 := SortedMap.get?_eq_some_iff.mpr he
    rw [← of_eq_ite]
    simpa [blockOf, hg] using truncates_blockOf

end Render

end GodotAtlas
