import GodotAtlas.Proofs.Files.Places
import GodotAtlas.Proofs.Report.Coverage

namespace GodotAtlas

namespace Files

open Text

theorem extensionOf?_append {stem ext : List Char} (hs : stem ≠ []) (hn : '.' ∉ ext) :
    extensionOf? (stem ++ '.' :: ext) = some ext := by
  have hr : (stem ++ '.' :: ext).reverse = ext.reverse ++ '.' :: stem.reverse := by simp
  have ha : ∀ c ∈ ext.reverse, c != '.' := by
    intro c hc
    have hd : c ≠ '.' := by
      rintro rfl
      exact hn (List.mem_reverse.mp hc)
    simpa using hd
  have ht : ((stem ++ '.' :: ext).reverse.takeWhile (· != '.')).reverse = ext := by
    rw [hr, List.takeWhile_append_of_pos ha]
    simp
  have hl := List.length_pos_of_ne_nil hs
  simp only [extensionOf?, ht, List.length_append, List.length_cons]
  rw [if_neg (by omega)]

theorem kind_fileAt (root : String) (names : List String) :
    (fileAt root names).kind = .ofPath (pathOf names) :=
  rfl

end Files

namespace Report

open Files Format Symbols Text

def bookkeepingExtensions : List String :=
  ["godot", "gdignore", "gitignore", "md", "txt"]

def dotNames : List String :=
  [".gitignore", ".gdignore"]

def Bookkeeping (name : String) : Prop :=
  name ∈ dotNames ∨ ∃ stem ext, stem ≠ [] ∧ '.' ∉ ext ∧ name.toList = stem ++ '.' :: ext ∧
    String.ofList (ext.map Char.toLower) ∈ bookkeepingExtensions

-- A path is in some category of the assets.
def IsAsset (r : Report) (path : String) : Prop :=
  ∃ category, path ∈ (r.assets.get? category).getD []

theorem mem_sortStrings {ss : List String} {s : String} : s ∈ sortStrings ss ↔ s ∈ ss :=
  (List.mergeSort_perm _ _).mem_iff

namespace Findings

variable {f : Findings} {root path : String} {project : Project}

def categorized (f : Findings) : List (AssetCategory × List String) :=
  f.otherFiles.entries.filterMap fun e =>
    (AssetCategory.ofExtension? e.1).map fun category => (category, e.2)

theorem get?_assets {category : AssetCategory} : (f.assets.get? category).getD [] =
    sortStrings (SortedMap.valuesOf category f.categorized).flatten := by
  have ha : f.assets = (SortedMap.group f.categorized).map fun _ lists =>
      sortStrings lists.flatten := rfl
  rw [ha, SortedMap.get?_map, SortedMap.get?_group]
  split
  case isTrue h => simp [h, sortStrings]
  case isFalse => rfl

theorem mem_assets_iff {category : AssetCategory} :
    path ∈ (f.assets.get? category).getD [] ↔
      ∃ ext, AssetCategory.ofExtension? ext = some category ∧
        Holds (f.report root project) path (.other ext) := by
  simp only [get?_assets, mem_sortStrings, List.mem_flatten, SortedMap.mem_valuesOf_iff,
    categorized, List.mem_filterMap, Option.map_eq_some_iff, Holds, report]
  constructor
  case mp =>
    rintro ⟨files, ⟨⟨ext, _⟩, he, _, hc, rfl, rfl⟩, hp⟩
    exact ⟨ext, hc, by rwa [SortedMap.get?_eq_some_iff.mpr he]⟩
  case mpr =>
    rintro ⟨ext, hc, hp⟩
    cases hg : f.otherFiles.get? ext
    case none => simp [hg] at hp
    case some files =>
      rw [hg, Option.getD_some] at hp
      exact ⟨files, ⟨⟨ext, files⟩, SortedMap.get?_eq_some_iff.mp hg, _, hc, rfl⟩, hp⟩

theorem isAsset_report_iff : IsAsset (f.report root project) path ↔
    ∃ ext, (AssetCategory.ofExtension? ext).isSome ∧
      Holds (f.report root project) path (.other ext) := by
  constructor
  case mp =>
    rintro ⟨category, h⟩
    obtain ⟨ext, hc, hp⟩ := mem_assets_iff.mp h
    exact ⟨ext, by simp [hc], hp⟩
  case mpr =>
    rintro ⟨ext, hc, hp⟩
    obtain ⟨category, hc⟩ := Option.isSome_iff_exists.mp hc
    exact ⟨category, mem_assets_iff.mpr ⟨ext, hc, hp⟩⟩

end Findings

section

variable {fs : FileSystem} {root : String} {es : List (String × Entry)}
  (hr : fs.entry root = .ok (.dir es)) (hw : (Entry.dir es).WellFormed) {x : Exclusion}
  (parser : Script.Parser) (includeSource : Bool) {names : List String}
include hr hw

theorem holds_ofFiles_pathOf_iff (ha : (Entry.dir es).HoldsFile names) {kind : FileKind} :
    Holds (ofFiles fs parser includeSource root (listing fs x root es)) (pathOf names) kind ↔
      Listed fs x root (.dir es) names ∧ kind = .ofPath (pathOf names) ∧ kind ≠ .ignored := by
  constructor
  case mp =>
    intro h
    obtain ⟨f, hf, hp, hk, hi⟩ := holds_ofFiles.mp h
    obtain ⟨ns, hl, rfl⟩ := (mem_listing hr hw).mp hf
    have hn : ns = names := hl.file.eq_of_pathOf_eq hw ha hp
    subst hn
    rw [kind_fileAt] at hk hi
    exact ⟨hl, hk.symm, hk ▸ hi⟩
  case mpr =>
    rintro ⟨hl, rfl, hi⟩
    rw [← kind_fileAt root names] at hi ⊢
    have hm : fileAt root names ∈ listing fs x root es := (mem_listing hr hw).mpr ⟨_, hl, rfl⟩
    exact (holds_ofFiles_iff hr parser hw includeSource hm hi).mpr rfl

-- A file is an asset if it is listed and files with its extension are.
theorem isAsset_iff (ha : (Entry.dir es).HoldsFile names) :
    IsAsset (ofFiles fs parser includeSource root (listing fs x root es)) (pathOf names) ↔
      Listed fs x root (.dir es) names ∧ ∃ ext, FileKind.ofPath (pathOf names) = .other ext ∧
        (AssetCategory.ofExtension? ext).isSome := by
  constructor
  case mp =>
    intro h
    obtain ⟨ext, hc, hh⟩ := Findings.isAsset_report_iff.mp h
    obtain ⟨hl, hk, _⟩ := (holds_ofFiles_pathOf_iff hr hw parser includeSource ha).mp hh
    exact ⟨hl, ext, hk.symm, hc⟩
  case mpr =>
    rintro ⟨hl, ext, hk, hc⟩
    refine Findings.isAsset_report_iff.mpr ⟨ext, hc, ?_⟩
    exact (holds_ofFiles_pathOf_iff hr hw parser includeSource ha).mpr ⟨hl, hk.symm, by simp⟩

end

section

variable {dirs : List String} {name : String}

-- A name that starts with its only dot has no extension, and files without one are assets.
theorem ofPath_of_dotName (hv : ValidNames (dirs ++ [name])) (h : name ∈ dotNames) :
    FileKind.ofPath (pathOf (dirs ++ [name])) = .other "" := by
  simp only [dotNames, List.mem_cons, List.not_mem_nil, or_false] at h
  rcases h with rfl | rfl
  all_goals
    rw [ofPath_pathOf hv (by decide) (by decide)]
    decide

theorem ofPath_of_bookkeeping (hv : ValidNames (dirs ++ [name])) (h : Bookkeeping name)
    (hd : name ∉ dotNames) : ∃ ext, FileKind.ofPath (pathOf (dirs ++ [name])) = .other ext ∧
      AssetCategory.ofExtension? ext = none := by
  have hb : ∀ ext ∈ bookkeepingExtensions,
      FileKind.ofExtension ext = .other ext ∧ AssetCategory.ofExtension? ext = none := by decide
  obtain ⟨stem, ext, hs, hn, he, hm⟩ := h.resolve_left hd
  have hx : extensionOf? name.toList = some ext := by rw [he, extensionOf?_append hs hn]
  have hc : name ≠ "." := by
    rintro rfl
    have hx' : extensionOf? ".".toList = none := by decide
    cases hx'.symm.trans hx
  have hp : name ≠ ".." := by
    rintro rfl
    have hx' : extensionOf? "..".toList = some [] := by decide
    cases hx'.symm.trans hx
    exact absurd hm (by decide)
  refine ⟨String.ofList (ext.map Char.toLower), ?_, (hb _ hm).right⟩
  rw [ofPath_pathOf hv hc hp, hx, Option.getD_some, (hb _ hm).left]

end

-- A file that is kept for bookkeeping or documentation is an asset exactly if it is listed and its
-- name is one of the two that start with their only dot.
theorem scan_bookkeeping_iff {fs : FileSystem} {root : String} {es : List (String × Entry)}
    (hr : fs.entry root = .ok (.dir es)) (hw : (Entry.dir es).WellFormed) (options : ScanOptions)
    (parser : Script.Parser) :
    ∃ r, scan fs parser options root = .ok r ∧
      ∀ dirs name, (Entry.dir es).HoldsFile (dirs ++ [name]) → Bookkeeping name →
        (IsAsset r (pathOf (dirs ++ [name])) ↔
          Listed fs options.exclusion root (.dir es) (dirs ++ [name]) ∧ name ∈ dotNames) := by
  refine ⟨_, scanWithout_eq hr parser options.exclusion options.includeSource, ?_⟩
  intro dirs name ha hb
  have hv : ValidNames (dirs ++ [name]) := ha.validNames hw
  rw [isAsset_iff hr hw parser _ ha]
  refine and_congr_right fun _ => ?_
  by_cases hd : name ∈ dotNames
  case pos =>
    simp only [hd, iff_true]
    exact ⟨_, ofPath_of_dotName hv hd, by decide⟩
  case neg =>
    obtain ⟨ext, hk, hn⟩ := ofPath_of_bookkeeping hv hb hd
    simp [hk, hn, hd]

def keptEntries : List (String × Entry) :=
  [(".gitignore", .file []), ("docs", .dir [("to.do.TXT", .file [])])]

def keptSystem : FileSystem :=
  { root := .dir [("game", .dir keptEntries)] }

theorem scan_bookkeeping_sample :
    keptSystem.entry "game" = .ok (.dir keptEntries) ∧ (Entry.dir keptEntries).WellFormed ∧
      Bookkeeping "to.do.TXT" ∧ ∃ r, scan keptSystem Script.unavailable {} "game" = .ok r ∧
        ¬IsAsset r "docs/to.do.TXT" := by
  have hr : keptSystem.entry "game" = .ok (.dir keptEntries) := rfl
  have hw : (Entry.dir keptEntries).WellFormed := by decide
  have hb : Bookkeeping "to.do.TXT" :=
    .inr ⟨"to.do".toList, "TXT".toList, by decide, by decide, by decide, by decide⟩
  have ⟨r, hs, ha⟩ := scan_bookkeeping_iff hr hw {} Script.unavailable
  refine ⟨hr, hw, hb, r, hs, fun h => ?_⟩
  exact absurd ((ha ["docs"] "to.do.TXT" ⟨_, rfl, rfl⟩ hb).mp h).right (by decide)

theorem gitignore_isAsset : Bookkeeping ".gitignore" ∧
    ∃ r, scan keptSystem Script.unavailable {} "game" = .ok r ∧ IsAsset r ".gitignore" := by
  have hr : keptSystem.entry "game" = .ok (.dir keptEntries) := rfl
  have hw : (Entry.dir keptEntries).WellFormed := by decide
  have hf : (Entry.dir keptEntries).HoldsFile [".gitignore"] := ⟨_, rfl, rfl⟩
  have hl : Listed keptSystem ({} : ScanOptions).exclusion "game" (.dir keptEntries)
      [".gitignore"] := by
    refine ⟨⟨hf, by simp, fun _ _ _ => rfl⟩, fun p hp hn => ?_⟩
    obtain rfl : p = [] := by simpa [List.prefix_cons_iff, hn] using hp
    decide
  refine ⟨.inl (by decide), _, scanWithout_eq hr _ _ _, ?_⟩
  exact (isAsset_iff hr hw _ _ hf).mpr ⟨hl, "", by decide, by decide⟩

end Report

end GodotAtlas
