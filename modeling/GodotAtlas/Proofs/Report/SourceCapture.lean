import GodotAtlas.Proofs.Files.Spelling
import GodotAtlas.Proofs.Report.Coverage

namespace GodotAtlas.Report

open Files Format Symbols Text

def Step.sourceless : Step → Step
  | .script t _ => .script t none
  | s => s

namespace Findings

def sourceless (f : Findings) : Findings :=
  { f with sources := .empty }

-- No other part of the findings looks at the source of a script.
theorem sourceless_add {f : Findings} {s : Step} :
    (f.add s).sourceless = f.sourceless.add s.sourceless := by
  cases s
  case script t source =>
    simp only [add, Step.sourceless]
    cases t.className <;> cases source <;> rfl
  all_goals rfl

theorem ofSteps_map_sourceless {steps : List Step} :
    ofSteps (steps.map Step.sourceless) = (ofSteps steps).sourceless := by
  induction steps using ofSteps_induction
  case nil => rfl
  case add steps s hi =>
    rw [List.map_append, List.map_singleton, ofSteps_append, hi, sourceless_add]

end Findings

def sourceOf? (fs : FileSystem) (f : ProjectFile) : Option (String × String) :=
  if f.kind = .script then
    (fs.read f.path).toOption.map fun bytes => (f.relative, String.ofList (decodeLossy bytes))
  else none

-- The scripts that are listed can be read, each by its path, and are what the tree holds.
def Readable (fs : FileSystem) (x : Exclusion) (root : String) (tree : Entry) : Prop :=
  ∀ names, Listed fs x root tree names → FileKind.ofPath (pathOf names) = .script →
    ∃ bytes, tree.at? names = some (.file bytes) ∧ fs.read (walked root names) = .ok bytes

section

variable {fs : FileSystem} {parser : Script.Parser} {f : ProjectFile} {files : List ProjectFile}
  {root : String}

@[simp]
theorem path_extract {path source : String} : (extract parser path source).path = path := by
  simp only [extract]
  split <;> rfl

theorem map_sourceless_fileStep? :
    (fileStep? fs parser true f).map Step.sourceless = fileStep? fs parser false f := by
  unfold fileStep? scriptStep
  split
  case h_1 => cases fs.read f.path <;> rfl
  all_goals rfl

theorem ofFiles_without_sources : ofFiles fs parser false root files =
    { ofFiles fs parser true root files with sources := .empty } := by
  have hs : files.filterMap (fileStep? fs parser false) =
      (files.filterMap (fileStep? fs parser true)).map Step.sourceless := by
    rw [List.map_filterMap]
    exact List.filterMap_congr fun _ _ => map_sourceless_fileStep?.symm
  rw [ofFiles, hs, Findings.ofSteps_map_sourceless]
  rfl

theorem source?_fileStep? : (fileStep? fs parser true f).bind Step.source? = sourceOf? fs f := by
  unfold fileStep? sourceOf? scriptStep
  split
  case h_1 hk => cases hr : fs.read f.path <;> simp [hk, Step.source?, Except.toOption]
  all_goals simp_all [Step.source?]

theorem sources_ofFiles : (ofFiles fs parser true root files).sources =
    .ofList (files.filterMap (sourceOf? fs)) := by
  have hs : (ofFiles fs parser true root files).sources =
      .ofList ((files.filterMap (fileStep? fs parser true)).filterMap Step.source?) :=
    Findings.sources_ofSteps
  rw [hs, List.filterMap_filterMap, List.filterMap_congr fun f _ => source?_fileStep?]

theorem sourceOf?_eq_some_iff {e : String × String} : sourceOf? fs f = some e ↔
    f.kind = .script ∧ ∃ bytes, fs.read f.path = .ok bytes ∧
      e = (f.relative, String.ofList (decodeLossy bytes)) := by
  unfold sourceOf?
  split <;> cases fs.read f.path <;> simp_all [Except.toOption, eq_comm]

theorem mem_keys_scripts_of_sources {path : String}
    (h : path ∈ (ofFiles fs parser true root files).sources.keys) :
    path ∈ (ofFiles fs parser true root files).scripts.keys := by
  rw [sources_ofFiles, SortedMap.mem_keys_ofList] at h
  obtain ⟨e, he, rfl⟩ := List.mem_map.mp h
  obtain ⟨f, hf, hs⟩ := List.mem_filterMap.mp he
  obtain ⟨hk, _, _, rfl⟩ := sourceOf?_eq_some_iff.mp hs
  have hh : Holds (ofFiles fs parser true root files) f.relative .script :=
    holds_ofFiles.mpr ⟨f, hf, rfl, hk, by simp [hk]⟩
  exact hh

theorem script?_fileStep? (h : f.kind = .script → ∃ bytes, fs.read f.path = .ok bytes) :
    ((fileStep? fs parser true f).bind Step.script?).map (·.1) = (sourceOf? fs f).map (·.1) := by
  unfold fileStep? sourceOf? scriptStep
  split
  case h_1 hk =>
    obtain ⟨bytes, hr⟩ := h hk
    simp [hk, hr, Step.script?, Except.toOption]
  all_goals simp_all [Step.script?]

theorem keys_sources_ofFiles
    (h : ∀ f ∈ files, f.kind = .script → ∃ bytes, fs.read f.path = .ok bytes) :
    (ofFiles fs parser true root files).sources.keys =
      (ofFiles fs parser true root files).scripts.keys := by
  have hs : (ofFiles fs parser true root files).scripts =
      .ofList ((files.filterMap (fileStep? fs parser true)).filterMap Step.script?) :=
    Findings.scripts_ofSteps
  rw [sources_ofFiles, hs]
  apply SortedMap.keys_ofList_eq
  rw [List.filterMap_filterMap, List.map_filterMap, List.map_filterMap]
  exact List.filterMap_congr fun f hf => (script?_fileStep? (h f hf)).symm

end

section

variable {fs : FileSystem} {x : Exclusion} {root : String} {es : List (String × Entry)}
  (hr : fs.entry root = .ok (.dir es)) (hw : (Entry.dir es).WellFormed)
include hr hw

theorem nodup_sources_listing :
    (((listing fs x root es).filterMap (sourceOf? fs)).map (·.1)).Nodup := by
  have hn := (listing_ascending (x := x) hr hw).pairwise_ne
  refine List.Nodup.sublist ?_ hn
  generalize listing fs x root es = files
  induction files
  case nil => simp
  case cons f files hi =>
    cases hs : sourceOf? fs f
    case none => simpa [hs] using hi.cons f.relative
    case some e =>
      obtain ⟨_, _, _, rfl⟩ := sourceOf?_eq_some_iff.mp hs
      simpa [hs] using hi

theorem get?_sources_listing {path text : String}
    (hread : Readable fs x root (.dir es)) :
    (SortedMap.ofList ((listing fs x root es).filterMap (sourceOf? fs))).get? path = some text ↔
      ∃ names bytes, Listed fs x root (.dir es) names ∧
        (Entry.dir es).at? names = some (.file bytes) ∧ path = pathOf names ∧
        FileKind.ofPath path = .script ∧ text = String.ofList (decodeLossy bytes) := by
  rw [SortedMap.get?_ofList_eq_some_iff (nodup_sources_listing hr hw), List.mem_filterMap]
  constructor
  case mp =>
    rintro ⟨f, hf, he⟩
    obtain ⟨names, hl, rfl⟩ := (mem_listing hr hw).mp hf
    obtain ⟨hk, bytes, hb, he⟩ := sourceOf?_eq_some_iff.mp he
    obtain ⟨rfl, rfl⟩ := Prod.mk.inj he
    obtain ⟨bytes', ha, hb'⟩ := hread names hl hk
    obtain rfl : bytes' = bytes := Except.ok.inj (hb'.symm.trans hb)
    exact ⟨names, bytes', hl, ha, rfl, hk, rfl⟩
  case mpr =>
    rintro ⟨names, bytes, hl, ha, rfl, hk, rfl⟩
    obtain ⟨bytes', ha', hb⟩ := hread names hl hk
    obtain rfl : bytes' = bytes := by simpa [ha] using ha'.symm
    exact ⟨_, (mem_listing hr hw).mpr ⟨names, hl, rfl⟩,
      sourceOf?_eq_some_iff.mpr ⟨hk, bytes', hb, rfl⟩⟩

end

-- What keeping the sources adds to a report: under the path of each script the text of its file,
-- and nothing else.
structure AddsSources (fs : FileSystem) (x : Exclusion) (root : String) (tree : Entry)
    (without kept : Report) : Prop where
  rest : kept = { without with sources := kept.sources }
  without : without.sources = .empty
  keys : kept.sources.keys = kept.scripts.keys
  texts : ∀ path text, kept.sources.get? path = some text ↔
    ∃ names bytes, Listed fs x root tree names ∧ tree.at? names = some (.file bytes) ∧
      path = pathOf names ∧ FileKind.ofPath path = .script ∧
      text = String.ofList (decodeLossy bytes)

theorem exists_scans_addsSources {fs : FileSystem} {root : String} {es : List (String × Entry)}
    (hr : fs.entry root = .ok (.dir es)) (hw : (Entry.dir es).WellFormed) (parser : Script.Parser)
    (options : ScanOptions) (hread : Readable fs options.exclusion root (.dir es)) :
    ∃ without kept, scan fs parser { options with includeSource := false } root = .ok without ∧
      scan fs parser { options with includeSource := true } root = .ok kept ∧
      AddsSources fs options.exclusion root (.dir es) without kept := by
  refine ⟨_, _, scanWithout_eq hr parser options.exclusion false,
    scanWithout_eq hr parser options.exclusion true, ?_⟩
  rw [ofFiles_without_sources]
  constructor
  case rest => rfl
  case without => rfl
  case keys =>
    apply keys_sources_ofFiles
    intro f hf hk
    obtain ⟨names, hl, rfl⟩ := (mem_listing hr hw).mp hf
    obtain ⟨bytes, _, hb⟩ := hread names hl hk
    exact ⟨bytes, hb⟩
  case texts =>
    intro path text
    rw [sources_ofFiles]
    exact get?_sources_listing hr hw hread

theorem readable_of_storable {fs : FileSystem} {x : Exclusion} {root : String}
    {es : List (String × Entry)} (hr : fs.entry root = .ok (.dir es))
    (hs : (Entry.dir es).Storable) (hc : ∀ names, Kept x (.dir es) names →
      FileKind.ofPath (pathOf names) = .script →
        (∃ bytes, (Entry.dir es).at? names = some (.file bytes)) ∧
          FileSystem.checkPath (walked root names) = .ok ()) :
    Readable fs x root (.dir es) := by
  obtain ⟨place, hp, ha⟩ := FileSystem.exists_locate_of_entry hr
  intro names hl hk
  obtain ⟨⟨bytes, hb⟩, hcheck⟩ := hc names hl.toKept hk
  exact ⟨bytes, hb, FileSystem.read_walked hp ha hs hb hcheck⟩

end GodotAtlas.Report
