import GodotAtlas.Proofs.Files.Spelling
import GodotAtlas.Proofs.Report.Runs
import GodotAtlas.Report.Scan

namespace GodotAtlas.Report

open Files Format Symbols Text

def Step.path : Step → String
  | .script t _ => t.path
  | .scene path _ | .resource path _ | .other _ path => path

def Step.kind : Step → FileKind
  | .script _ _ => .script
  | .scene _ _ => .scene
  | .resource _ _ => .resource
  | .other ext _ => .other ext

-- A path is in the map of a report that files of some kind belong to.
def Holds (r : Report) (path : String) : FileKind → Prop
  | .script => path ∈ r.scripts.keys
  | .scene => path ∈ r.scenes.keys
  | .resource => path ∈ r.resources.keys
  | .other ext => path ∈ (r.otherFiles.get? ext).getD []
  | .ignored => False

-- A later step takes the place of an earlier one if both are about the same script, scene or
-- resource. Other files are never replaced.
def Step.Replaces (a b : Step) : Prop :=
  a.path = b.path ∧ a.kind = b.kind ∧ ∀ ext, a.kind ≠ .other ext

namespace Findings

variable {f : Findings} {root : String} {project : Project} {s : Step}

theorem holds_add {path : String} {kind : FileKind} :
    Holds ((f.add s).report root project) path kind ↔
      Holds (f.report root project) path kind ∨ s.path = path ∧ s.kind = kind := by
  cases s <;> cases kind
  case other.other e p ext =>
    simp only [Holds, report, add_other, SortedMap.get?_alter, Step.path, Step.kind]
    by_cases he : ext = e
    case pos => simp [he, eq_comm]
    case neg => simp [he, Ne.symm he]
  all_goals simp [Holds, report, Step.path, Step.kind, SortedMap.mem_keys_insert, or_comm, eq_comm]

theorem holds_ofSteps {steps : List Step} {path : String} {kind : FileKind} :
    Holds ((ofSteps steps).report root project) path kind ↔
      ∃ s ∈ steps, s.path = path ∧ s.kind = kind := by
  induction steps using ofSteps_induction
  case nil => cases kind <;> simp [Holds, report]
  case add steps s hi => simp [holds_add, hi, or_and_right, exists_or]

def paths (f : Findings) : List String :=
  f.scripts.keys ++ f.scenes.keys ++ f.resources.keys ++ f.otherFiles.values.flatten

-- A step that replaces nothing adds its path to those that are there.
theorem paths_add_perm
    (h : Holds (f.report root project) s.path s.kind → ∃ ext, s.kind = .other ext) :
    (f.add s).paths.Perm (f.paths ++ [s.path]) := by
  -- The four maps are lists behind each other, so it is easier to count each path than to move it.
  apply List.perm_iff_count.mpr
  intro p
  cases s <;> simp only [paths, Step.path, List.count_append]
  case script t source =>
    have hn : t.path ∉ f.scripts.keys := fun hm => by simpa [Step.kind] using h hm
    have hc := (SortedMap.keys_insert_perm (v := t) hn).count_eq p
    simp only [scripts_add_script, scenes_add_script, resources_add_script, otherFiles_add_script,
      hc, List.count_append]
    omega
  case scene path scene =>
    have hn : path ∉ f.scenes.keys := fun hm => by simpa [Step.kind] using h hm
    have hc := (SortedMap.keys_insert_perm (v := scene) hn).count_eq p
    simp only [add_scene, hc, List.count_append]
    omega
  case resource path resource =>
    have hn : path ∉ f.resources.keys := fun hm => by simpa [Step.kind] using h hm
    have hc := (SortedMap.keys_insert_perm (v := resource) hn).count_eq p
    simp only [add_resource, hc, List.count_append]
    omega
  case other ext path =>
    have hp := SortedMap.values_flatten_alter_perm (m := f.otherFiles) (k := ext) (x := path)
    have hc := hp.count_eq p
    simp only [add_other, hc, List.count_append]
    omega

theorem paths_ofSteps_perm {steps : List Step} (h : steps.Pairwise fun a b => ¬a.Replaces b) :
    (ofSteps steps).paths.Perm (steps.map Step.path) := by
  induction steps using ofSteps_induction
  case nil => simp [paths]
  case add steps s hi =>
    have ⟨hs, _, hn⟩ := List.pairwise_append.mp h
    -- A path that is held already came with a step that this one would replace.
    have hfree : Holds ((ofSteps steps).report "" {}) s.path s.kind →
        ∃ ext, s.kind = .other ext := by
      intro hm
      have ⟨a, ha, hp, hk⟩ := holds_ofSteps.mp hm
      apply Classical.byContradiction
      intro hne
      exact hn a ha s List.mem_cons_self ⟨hp, hk, fun ext he => hne ⟨ext, hk ▸ he⟩⟩
    rw [List.map_append]
    exact (paths_add_perm hfree).trans ((hi hs).append_right _)

end Findings

theorem pairwise_sortStrings (ss : List String) :
    (sortStrings ss).Pairwise fun s t => (compare s t).isLE :=
  List.pairwise_mergeSort (fun _ _ _ => Std.TransCmp.isLE_trans)
    (fun _ _ => isLE_compare_total) ss

theorem sortStrings_eq_of_perm {ss ts : List String} (h : ss.Perm ts)
    (ha : Ascending ts) : sortStrings ss = ts := by
  have hts : ts.Pairwise fun s t => (compare s t).isLE :=
    List.Pairwise.imp (fun hlt => isLE_compare_iff.mpr (.inr hlt)) ha
  have hp : (sortStrings ss).Perm ts := (List.mergeSort_perm _ _).trans h
  refine hp.eq_of_pairwise (fun s t _ _ hst hts => ?_) (pairwise_sortStrings ss) hts
  exact Std.LawfulEqOrd.eq_of_compare (Std.OrientedCmp.isLE_antisymm hst hts)

-- The kinds of the files that a scan opens. Of the others it knows the path.
def Opened : FileKind → Prop
  | .script | .scene | .resource => True
  | .ignored | .other _ => False

section

variable {fs : FileSystem} {parser : Script.Parser} {includeSource : Bool}

theorem fileStep?_eq_some {f : ProjectFile} {s : Step}
    (h : fileStep? fs parser includeSource f = some s) :
    s.path = f.relative ∧ s.kind = f.kind ∧ f.kind ≠ .ignored := by
  unfold fileStep? at h
  split at h
  case h_1 hk =>
    cases h
    simp only [scriptStep, hk]
    split
    case h_1 =>
      simp only [Step.path, Step.kind, Symbols.extract]
      split <;> simp [extractLines]
    case h_2 => simp [Step.path, Step.kind]
  all_goals cases h
  all_goals simp_all [Step.path, Step.kind]

variable (fs parser includeSource) in
theorem exists_fileStep? {f : ProjectFile} (h : f.kind ≠ .ignored) :
    ∃ s, fileStep? fs parser includeSource f = some s := by
  unfold fileStep?
  split <;> simp_all

theorem fileStep?_congr {fs' : FileSystem} {f f' : ProjectFile} (hrel : f.relative = f'.relative)
    (hk : f.kind = f'.kind) (hr : Opened f.kind → fs.read f.path = fs'.read f'.path) :
    fileStep? fs parser includeSource f = fileStep? fs' parser includeSource f' := by
  simp only [fileStep?, hrel, ← hk]
  cases he : f.kind
  case script => simp only [scriptStep, hr (he ▸ trivial)]
  case scene => simp only [sceneAt, hr (he ▸ trivial)]
  case resource => simp only [resourceAt, hr (he ▸ trivial)]
  all_goals rfl

theorem holds_ofFiles {files : List ProjectFile} {root path : String} {kind : FileKind} :
    Holds (ofFiles fs parser includeSource root files) path kind ↔
      ∃ f ∈ files, f.relative = path ∧ f.kind = kind ∧ f.kind ≠ .ignored := by
  rw [ofFiles, Findings.holds_ofSteps]
  constructor
  case mp =>
    rintro ⟨s, hs, rfl, rfl⟩
    obtain ⟨f, hf, hfs⟩ := List.mem_filterMap.mp hs
    obtain ⟨hp, hk, hi⟩ := fileStep?_eq_some hfs
    exact ⟨f, hf, hp.symm, hk.symm, hi⟩
  case mpr =>
    rintro ⟨f, hf, rfl, rfl, hi⟩
    obtain ⟨s, hs⟩ := exists_fileStep? fs parser includeSource hi
    obtain ⟨hp, hk, _⟩ := fileStep?_eq_some hs
    exact ⟨s, List.mem_filterMap.mpr ⟨f, hf, hs⟩, hp, hk⟩

variable (fs parser includeSource) in
theorem map_path_filterMap_fileStep? {files : List ProjectFile} :
    (files.filterMap (fileStep? fs parser includeSource)).map Step.path =
      (files.filter (·.kind ≠ .ignored)).map (·.relative) := by
  induction files
  case nil => rfl
  case cons f files hi =>
    by_cases hk : f.kind = .ignored
    case pos =>
      have hn : fileStep? fs parser includeSource f = none := by simp [fileStep?, hk]
      simpa [hn, hk] using hi
    case neg =>
      have ⟨s, hs⟩ := exists_fileStep? fs parser includeSource hk
      simpa [hs, hk, (fileStep?_eq_some hs).left] using hi

end

section

variable {fs : FileSystem} {root : String} {es : List (String × Entry)}
  (h : fs.entry root = .ok (.dir es)) (parser : Script.Parser)
include h

theorem scanWithout_eq (x : Exclusion) (includeSource : Bool) :
    scanWithout fs parser x includeSource root =
      .ok (ofFiles fs parser includeSource root (listing fs x root es)) := by
  simp only [scanWithout, checkRoot, h, list, listFiles_eq h]
  rfl

variable {x : Exclusion} (hw : (Entry.dir es).WellFormed) (includeSource : Bool)
include hw

theorem steps_ascending :
    Ascending (((listing fs x root es).filterMap (fileStep? fs parser includeSource)).map
      Step.path) := by
  rw [map_path_filterMap_fileStep?]
  exact (listing_ascending h hw).sublist (List.filter_sublist.map _)

theorem steps_not_replaces :
    ((listing fs x root es).filterMap (fileStep? fs parser includeSource)).Pairwise fun a b =>
      ¬a.Replaces b := by
  have hne := (steps_ascending (x := x) h parser hw includeSource).pairwise_ne
  rw [List.pairwise_map] at hne
  exact hne.imp fun h hr => h hr.left

theorem allFiles_ofFiles :
    (ofFiles fs parser includeSource root (listing fs x root es)).allFiles =
      ((listing fs x root es).filter (·.kind ≠ .ignored)).map (·.relative) := by
  rw [← map_path_filterMap_fileStep? fs parser includeSource]
  apply sortStrings_eq_of_perm
  case h => exact Findings.paths_ofSteps_perm (steps_not_replaces h parser hw includeSource)
  case ha => exact steps_ascending h parser hw includeSource

-- The kind of a listed file is read off its path, so no path is held under two kinds.
theorem holds_ofFiles_iff {f : ProjectFile} (hf : f ∈ listing fs x root es)
    (hk : f.kind ≠ .ignored) {kind : FileKind} :
    Holds (ofFiles fs parser includeSource root (listing fs x root es)) f.relative kind ↔
      kind = f.kind := by
  rw [holds_ofFiles]
  constructor
  case mp =>
    rintro ⟨g, hg, hrel, hgk, _⟩
    obtain ⟨_, _, hgf⟩ := (mem_listing h hw).mp hg
    obtain ⟨_, _, hff⟩ := (mem_listing h hw).mp hf
    -- Some listed file has the same path, and so the same kind.
    have hgk' : g.kind = .ofPath g.relative := by simp [hgf, fileAt]
    have hfk' : f.kind = .ofPath f.relative := by simp [hff, fileAt]
    rw [← hgk, hgk', hfk', hrel]
  case mpr =>
    intro he
    exact ⟨f, hf, rfl, he.symm, hk⟩

end

-- Pruning the walk comes to the same as looking at every directory on the way to a file, and what
-- is listed then reaches the report, all of it but the ignored files, each in the one map of its
-- kind.
theorem scan_covers_listing {fs : FileSystem} {root : String} {es : List (String × Entry)}
    (hr : fs.entry root = .ok (.dir es)) (hw : (Entry.dir es).WellFormed) (x : Exclusion)
    (parser : Script.Parser) (includeSource : Bool) :
    ∃ files r, listFiles x root fs = .ok files ∧
      Ascending (files.map (·.relative)) ∧
      (∀ f, f ∈ files ↔ ∃ names, Listed fs x root (.dir es) names ∧ f = fileAt root names) ∧
      scanWithout fs parser x includeSource root = .ok r ∧
      (∀ options : ScanOptions, options.exclusion = x → options.includeSource = includeSource →
        scan fs parser options root = .ok r) ∧
      r.allFiles = (files.filter (·.kind ≠ .ignored)).map (·.relative) ∧
      ∀ f ∈ files, f.kind ≠ .ignored → ∀ kind, Holds r f.relative kind ↔ kind = f.kind := by
  have hs := scanWithout_eq hr parser x includeSource
  refine ⟨_, _, listFiles_eq hr, listing_ascending hr hw, fun f => mem_listing hr hw, hs, ?_,
    allFiles_ofFiles hr parser hw includeSource, ?_⟩
  · rintro options rfl rfl
    exact hs
  · intro f hf hk kind
    exact holds_ofFiles_iff hr parser hw includeSource hf hk

-- A project with a directory and a file of one excluded name, and a directory that is excluded by
-- its path. A link is no file of the project, and what is behind a closed door is not seen.
def sampleEntries : List (String × Entry) :=
  [("main.gd", .file []), ("hero.png.import", .file []),
   ("build", .dir [("a.gd", .file [])]),
   ("docs", .dir [("notes.md", .file [])]),
   ("art", .dir [("build", .file []), ("hero.PNG", .file [])]),
   ("latest.gd", .link "main.gd"), ("private", .locked true .denied)]

def sampleSystem : FileSystem :=
  { root := .dir [("game", .dir sampleEntries)] }

def sampleExclusion : Exclusion :=
  { dirs := ["build"], paths := (· == "docs") }

theorem scan_covers_sample :
    sampleSystem.entry "game" = .ok (.dir sampleEntries) ∧ (Entry.dir sampleEntries).WellFormed ∧
      ∃ files r, listFiles sampleExclusion "game" sampleSystem = .ok files ∧
        scanWithout sampleSystem Script.unavailable sampleExclusion false "game" = .ok r ∧
        Listed sampleSystem sampleExclusion "game" (.dir sampleEntries) ["art", "build"] ∧
        fileAt "game" ["art", "build"] ∈ files ∧ Holds r "art/build" (.other "") := by
  have hr : sampleSystem.entry "game" = .ok (.dir sampleEntries) := rfl
  have hw : (Entry.dir sampleEntries).WellFormed := by decide
  have ⟨files, r, hf, _, hm, hs, _, _, hh⟩ :=
    scan_covers_listing hr hw sampleExclusion Script.unavailable false
  have hl : Listed sampleSystem sampleExclusion "game" (.dir sampleEntries) ["art", "build"] := by
    refine ⟨⟨⟨_, rfl, rfl⟩, by decide, fun p hp hn => ?_⟩, fun p hp hn => ?_⟩
    all_goals simp only [List.prefix_cons_iff, List.prefix_nil] at hp
    all_goals rcases hp with rfl | ⟨p, rfl, rfl | ⟨p, rfl, rfl⟩⟩
    all_goals first | contradiction | decide
  have hb := (hm _).mpr ⟨_, hl, rfl⟩
  exact ⟨hr, hw, files, r, hf, hs, hl, hb, (hh _ hb (by decide) _).mpr (by decide)⟩

-- No walk comes to a file behind a directory whose path is too long to be opened.
def deepEntries : List (String × Entry) :=
  [("art", .dir [("hero.gd", .file [])])]

def deepSystem : FileSystem :=
  { root := .dir [("game", .dir deepEntries)] }

theorem listing_dotted {k : Nat} (hk : k ≠ 0) (hl : FileSystem.maxPath < 4 + k * 2 + 4) :
    listing deepSystem {} (dotted k) deepEntries = [] := by
  have hc := checkPath_dotted hk (List.forall_mem_singleton.mpr (by decide : ValidName "art"))
    (List.forall_mem_singleton.mpr (by decide))
  have hsum : (["art"].map (·.utf8ByteSize + 1)).sum = 4 := rfl
  rw [hsum, if_pos hl, walked_singleton] at hc
  have hopen : (deepSystem.readDir (join (dotted k) "art")).toBool = false := by
    simp [FileSystem.readDir, FileSystem.entry_eq, FileSystem.locate_eq, hc, bind, Except.bind,
      Except.toBool]
  simp [listing, deepEntries, filesIn, filesAt, hopen]

theorem listFiles_dotted :
    deepSystem.entry (dotted 2045) = .ok (.dir deepEntries) ∧
      (Entry.dir deepEntries).WellFormed ∧ Kept {} (.dir deepEntries) ["art", "hero.gd"] ∧
      listFiles {} (dotted 2045) deepSystem = .ok [] := by
  have hp : deepSystem.place (dotted 2045) = .ok ["game"] :=
    place_dotted rfl rfl (by decide) (by decide)
  have he : deepSystem.entry (dotted 2045) = .ok (.dir deepEntries) :=
    FileSystem.entry_of_place hp rfl
  have hk : Kept {} (.dir deepEntries) ["art", "hero.gd"] :=
    ⟨⟨_, rfl, rfl⟩, by simp, fun _ _ _ => rfl⟩
  refine ⟨he, by decide, hk, ?_⟩
  rw [listFiles_eq he, listing_dotted (by decide) (by decide)]

end GodotAtlas.Report
