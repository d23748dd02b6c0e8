import GodotAtlas.Proofs.CommandLine.Outcome
import GodotAtlas.Proofs.Files.Contents
import GodotAtlas.Proofs.Files.Spelling
import GodotAtlas.Proofs.Report.Independence
import GodotAtlas.Proofs.Render.FullSource
import GodotAtlas.Proofs.Text.Decoding

namespace GodotAtlas.CommandLine

open Files FileSystem

def chosenConfig? (fs : FileSystem) (a : Arguments) : Option String :=
  a.config.or (Config.discover? fs a.project)

-- The files that a run opens: its configuration, the settings of the project, and what is listed as
-- a script, a scene or a resource.
inductive Opens (fs : FileSystem) (a : Arguments) : String → Prop
  | config {path : String} (chosen : chosenConfig? fs a = some path) : Opens fs a path
  | settings : Opens fs a (join a.project Format.projectFile)
  | file {config : Config} {options : Report.ScanOptions} {es : List (String × Entry)}
      {f : ProjectFile} (config_eq : a.loadConfig fs = .ok config)
      (options_eq : config.scanOptions = .ok options) (root_eq : fs.entry a.project = .ok (.dir es))
      (listed : f ∈ listing fs options.exclusion a.project es) (opened : Report.Opened f.kind) :
      Opens fs a f.path

def OpensOutside (places : List (List String)) (fs : FileSystem) (a : Arguments) : Prop :=
  ∀ path found, Opens fs a path → fs.locate path = .ok found → found ∉ places

-- No file that a run opens is the one that its report goes to, by whatever name.
def Apart (fs : FileSystem) (a : Arguments) : Prop :=
  ∀ place, fs.target a.outputPath = .ok place → fs.look place ≠ some .device →
    OpensOutside (fs.namesOf place) fs a

theorem find?_eq_of_forall {α : Type} {p q : α → Bool} {l : List α}
    (hn : ∀ c ∈ l, q c = false → p c = false) (hs : ∀ c, l.find? q = some c → p c) :
    l.find? p = l.find? q := by
  induction l
  case nil => rfl
  case cons c l hi =>
    cases hq : q c
    case true =>
      have hp : p c := hs c (List.find?_cons_of_pos hq)
      rw [List.find?_cons_of_pos hq, List.find?_cons_of_pos hp]
    case false =>
      have hp : p c = false := hn c List.mem_cons_self hq
      have hq : ¬q c := by simpa using hq
      have hp : ¬p c := by simpa using hp
      rw [List.find?_cons_of_neg hq] at hs
      rw [List.find?_cons_of_neg hq, List.find?_cons_of_neg hp]
      exact hi (fun c hc => hn c (List.mem_cons_of_mem _ hc)) hs

section

variable {fs fs' after : FileSystem} {color : Bool} {a : Arguments} {config : Config}
  {r : Report} {path printed : String} {place : List String} {places : List (List String)}
  {bytes : List UInt8}

theorem reportOf_eq_ok_iff : reportOf fs a = .ok (config, r) ↔
    a.loadConfig fs = .ok config ∧ ∃ options, config.scanOptions = .ok options ∧
      Report.scan fs Script.parse options a.project = .ok r := by
  simp only [reportOf]
  cases a.loadConfig fs
  case error => simp
  case ok c =>
    cases ho : c.scanOptions
    case error => grind
    case ok options => cases hs : Report.scan fs Script.parse options a.project <;> grind

theorem run_of_reportOf (color : Bool) (h : reportOf fs a = .ok (config, r))
    (ht : fs.target a.outputPath = .ok place) :
    run fs color a = .written (fs.store place (reportBytes a config.limits r))
      (Render.summary color r a.outputPath) := by
  simp only [run, h, writeReport_of_target ht]

theorem exists_reportOf_of_written (h : run fs color a = .written after printed) :
    ∃ config r place, reportOf fs a = .ok (config, r) ∧ fs.target a.outputPath = .ok place ∧
      after = fs.store place (reportBytes a config.limits r) ∧
      printed = Render.summary color r a.outputPath := by
  have he := run_ends fs color a
  rw [h] at he
  cases he
  case written config options r place hc ho hs ht =>
    exact ⟨config, r, place, reportOf_eq_ok_iff.mpr ⟨hc, options, ho, hs⟩, ht, rfl, rfl⟩

theorem loadConfig_congr (hd : chosenConfig? fs a = chosenConfig? fs' a)
    (hr : ∀ path, chosenConfig? fs a = some path → fs.read path = fs'.read path) :
    a.loadConfig fs = a.loadConfig fs' := by
  have hg : a.givenConfig fs = a.givenConfig fs' := by
    simp only [chosenConfig?] at hd hr
    simp only [Arguments.givenConfig, ← hd]
    cases hp : a.config.or (Config.discover? fs a.project)
    case none => rfl
    case some path => simp only [Config.ofFile, hr path hp]
  rw [Arguments.loadConfig, Arguments.loadConfig, hg]

theorem exists_read_of_loadConfig (h : a.loadConfig fs = .ok config)
    (hp : chosenConfig? fs a = some path) : ∃ bytes, fs.read path = .ok bytes := by
  rw [chosenConfig?] at hp
  simp only [Arguments.loadConfig, Arguments.givenConfig, hp, Config.ofFile] at h
  cases hr : fs.read path
  case ok bytes => exact ⟨bytes, rfl⟩
  case error => simp [hr, bind, Except.bind] at h

section

variable (h : Rewritten places bytes fs after) (hout : OpensOutside places after a)
include h hout

-- A report that is no configuration of the next run was none of this one.
theorem chosenConfig?_of_rewritten : chosenConfig? fs a = chosenConfig? after a := by
  rw [chosenConfig?, chosenConfig?]
  cases hc : a.config
  case some => rfl
  case none =>
    apply find?_eq_of_forall
    case hn =>
      intro path _ hf
      by_contra hn
      simp [h.isFile (by simpa using hn)] at hf
    case hs =>
      intro path hp
      have hf : after.isFile path := List.find?_some hp
      obtain ⟨e, he⟩ := exists_entry_of_isFile hf
      obtain ⟨found, hl, _⟩ := exists_locate_of_entry he
      have hopens : Opens after a path := .config (by rw [chosenConfig?, hc]; exact hp)
      rwa [isFile_congr (fun _ => Entry.isFile_surface) (h.entry_surface hl (hout _ _ hopens hl))]

theorem loadConfig_of_rewritten (hconfig : a.loadConfig fs = .ok config) :
    a.loadConfig after = .ok config := by
  have hd := chosenConfig?_of_rewritten h hout
  rw [← hconfig]
  refine (loadConfig_congr hd fun path hp => ?_).symm
  obtain ⟨bytes, hr⟩ := exists_read_of_loadConfig hconfig hp
  obtain ⟨e, he⟩ := exists_entry_of_read hr
  obtain ⟨found, hl, _⟩ := exists_locate_of_entry he
  have hl' := h.locate_eq_ok_iff.mpr hl
  exact read_congr (h.entry_surface hl' (hout path found (.config (hd ▸ hp)) hl'))

theorem exists_reportOf_of_rewritten (hr : reportOf fs a = .ok (config, r)) :
    ∃ r', reportOf after a = .ok (config, r') := by
  obtain ⟨hconfig, options, ho, hs⟩ := reportOf_eq_ok_iff.mp hr
  obtain ⟨es, hroot⟩ := hasRoot_of_scan hs
  obtain ⟨r', hs'⟩ := exists_scan (h.exists_dir hroot) Script.parse options
  exact ⟨r', reportOf_eq_ok_iff.mpr ⟨loadConfig_of_rewritten h hout hconfig, options, ho, hs'⟩⟩

end

theorem reportOf_of_alike (h : Alike places fs fs') (hout : OpensOutside places fs a)
    (hr : reportOf fs a = .ok (config, r)) : reportOf fs' a = .ok (config, r) := by
  obtain ⟨hconfig, options, ho, hs⟩ := reportOf_eq_ok_iff.mp hr
  obtain ⟨es, hroot⟩ := hasRoot_of_scan hs
  obtain ⟨es', hroot', hl⟩ := h.exists_listing_eq hroot
  have hread {path : String} (hp : Opens fs a path) : fs.read path = fs'.read path :=
    h.read_eq fun found => hout path found hp
  have hd : chosenConfig? fs a = chosenConfig? fs' a := by
    have hf : fs.isFile = fs'.isFile := funext fun _ => h.isFile_eq
    rw [chosenConfig?, chosenConfig?, Config.discover?, Config.discover?, hf]
  have hconfig' : a.loadConfig fs' = .ok config := by
    rw [← loadConfig_congr hd fun path hp => hread (.config hp), hconfig]
  have hstep : ∀ f ∈ listing fs options.exclusion a.project es,
      Report.fileStep? fs Script.parse options.includeSource f =
        Report.fileStep? fs' Script.parse options.includeSource f :=
    fun f hf => Report.fileStep?_congr rfl rfl fun hk => hread (.file hconfig ho hroot hf hk)
  refine reportOf_eq_ok_iff.mpr ⟨hconfig', options, ho, ?_⟩
  rw [← hs, Report.scan, Report.scan, Report.scanWithout_eq hroot, Report.scanWithout_eq hroot',
    ← hl, Report.ofFiles, Report.ofFiles, Report.projectAt_congr (hread .settings),
    List.filterMap_congr hstep]

theorem run_twice_of_file (color : Bool) (hr : reportOf fs a = .ok (config, r))
    (ht : fs.target a.outputPath = .ok place) (hf : ∃ old, fs.look place = some (.file old))
    (hout : OpensOutside (fs.namesOf place) fs a) :
    ∃ after printed, run fs color a = .written after printed ∧
      run after color a = .written after printed := by
  obtain ⟨old, ho⟩ := hf
  have hd : fs.look place ≠ some .device := by simp [ho]
  have hw := rewritten_of_target ht hd (reportBytes a config.limits r)
  have halike := alike_store ⟨old, ho⟩ (reportBytes a config.limits r)
  have hr' := run_of_reportOf color (reportOf_of_alike halike hout hr)
    (hw.target List.mem_cons_self ht)
  rw [hw.store_eq_self] at hr'
  exact ⟨_, _, run_of_reportOf color hr ht, hr'⟩

end

section

variable (format : Format)

-- The names that a run without options looks for in its project.
def soughtNames : List String :=
  format.defaultFileName :: Format.projectFile :: Config.fileNames

theorem storableName_of_mem {name : String} (h : name ∈ soughtNames format) :
    StorableName name := by
  cases format <;> fin_cases h <;> decide

theorem defaultFileName_not_mem :
    format.defaultFileName ∉ Format.projectFile :: Config.fileNames := by
  cases format <;> decide

theorem not_opened_defaultFileName : ¬Report.Opened (.ofPath format.defaultFileName) := by
  have hk : ∃ ext, FileKind.ofPath format.defaultFileName = .other ext := by
    cases format
    case markdown => exact ⟨"md", by decide⟩
    case json => exact ⟨"json", by decide⟩
  obtain ⟨ext, hk⟩ := hk
  rw [hk]
  exact id

end

theorem eq_of_locate_join {fs : FileSystem} {root n : String} {place found : List String}
    {es : List (String × Entry)} (hp : fs.locate root = .ok place)
    (ha : fs.look place = some (.dir es)) (hn : PlainName n)
    (hl : ∀ target, es.lookup n ≠ some (.link target))
    (h : fs.locate (join root n) = .ok found) : found = place ++ [n] := by
  rw [locate_join hp ha hn hl] at h
  cases hc : checkPath (join root n)
  case error => simp [hc, Except.bind] at h
  case ok =>
    simp only [hc, Except.bind] at h
    split at h
    case isTrue => cases h
    case isFalse =>
      cases h
      rfl

-- A project in which every file has one name, and no sought name is a link.
structure Plain (fs : FileSystem) (a : Arguments) (es : List (String × Entry)) : Prop where
  entry : fs.entry a.project = .ok (.dir es)
  storable : (Entry.dir es).Storable
  single : fs.hardLinks = []
  unlinked : ∀ n ∈ soughtNames a.format, ∀ target, es.lookup n ≠ some (.link target)

namespace Plain

variable {fs : FileSystem} {a : Arguments} {es : List (String × Entry)} {n : String}
  {base place found : List String} (h : Plain fs a es)
include h

theorem namesOf_eq : FileSystem.namesOf fs place = [place] := by
  simp [FileSystem.namesOf, h.single]

section

variable (hp : fs.locate a.project = .ok base) (ha : fs.look base = some (.dir es))
include hp ha

theorem eq_of_locate (hn : n ∈ soughtNames a.format)
    (hl : fs.locate (join a.project n) = .ok found) : found = base ++ [n] :=
  eq_of_locate_join hp ha (storableName_of_mem a.format hn).toPlainName (h.unlinked n hn) hl

theorem eq_of_target (ho : a.output = none) (ht : fs.target a.outputPath = .ok place) :
    place = base ++ [a.format.defaultFileName] := by
  rw [Arguments.outputPath, ho, Option.getD_none] at ht
  exact h.eq_of_locate hp ha List.mem_cons_self (target_eq_ok_iff.mp ht).left

end

-- The report has its name for itself.
theorem apart (ho : a.output = none) (hc : a.config = none) : Apart fs a := by
  intro place ht _ path found hopens hfound
  obtain ⟨base, hp, ha⟩ := exists_locate_of_entry h.entry
  have hplace := h.eq_of_target hp ha ho ht
  have hother {n : String} (hn : n ∈ Format.projectFile :: Config.fileNames)
      (hq : fs.locate (join a.project n) = .ok found) : found ≠ place := by
    rw [h.eq_of_locate hp ha (List.mem_cons_of_mem _ hn) hq, hplace]
    intro he
    obtain rfl : n = a.format.defaultFileName := by simpa using he
    exact defaultFileName_not_mem a.format hn
  rw [h.namesOf_eq, List.mem_singleton]
  cases hopens
  case config chosen =>
    rw [chosenConfig?, hc, Option.none_or] at chosen
    obtain ⟨n, hn, rfl⟩ := List.mem_map.mp (List.mem_of_find?_eq_some chosen)
    exact hother (List.mem_cons_of_mem _ hn) hfound
  case settings => exact hother List.mem_cons_self hfound
  case file config options es' f config_eq options_eq root_eq listed opened =>
    obtain rfl : es = es' := by simpa [h.entry] using root_eq
    obtain ⟨names, hlisted, rfl⟩ := (mem_listing h.entry h.storable.wellFormed).mp listed
    obtain ⟨e, hat, hfile⟩ := hlisted.file
    have htarget : e.target? = none := by
      cases e <;> first | rfl | cases hfile
    rw [fileAt, locate_walked hp ha h.storable hat htarget] at hfound
    have hfound : found = base ++ names := by
      cases hcheck : checkPath (walked a.project names) <;> simp_all [Except.map]
    rintro rfl
    obtain rfl : names = [a.format.defaultFileName] := by simpa [hfound] using hplace
    exact not_opened_defaultFileName a.format (by simpa [fileAt] using opened)

-- A report is one more plain file of the project.
theorem store (ho : a.output = none) (ht : fs.target a.outputPath = .ok place)
    (hd : fs.look place ≠ some .device) (bytes : List UInt8) :
    Plain (fs.store place bytes) a
      (Entry.putEntry a.format.defaultFileName (.file bytes) es) := by
  obtain ⟨base, hp, ha⟩ := exists_locate_of_entry h.entry
  obtain rfl := h.eq_of_target hp ha ho ht
  have hroot : fs.root.at? base = some (.dir es) := by
    obtain ⟨es', hroot⟩ := (target_eq_ok_iff.mp ht).right.right.exists_dir hd
    have he : es' = es := by simpa [ha] using (look_of_at? hroot).symm
    rwa [he] at hroot
  have hw := rewritten_of_target ht hd bytes
  have hlook : (fs.store (base ++ [a.format.defaultFileName]) bytes).look base =
      some (.dir (Entry.putEntry a.format.defaultFileName (.file bytes) es)) := by
    apply look_of_at?
    rw [store_eq hd, h.namesOf_eq]
    exact Entry.at?_put_concat hroot
  refine ⟨?entry, ?storable, hw.hardLinks.trans h.single, ?unlinked⟩
  case entry =>
    obtain ⟨es', he⟩ := hw.exists_dir h.entry
    obtain ⟨base', hp', ha'⟩ := exists_locate_of_entry he
    have hp' := hw.locate_eq_ok_iff.mp hp'
    obtain rfl : base = base' := by simpa [hp] using hp'
    obtain rfl : _ = es' := by simpa [hlook] using ha'
    exact he
  case storable =>
    exact h.storable.putEntry (storableName_of_mem a.format List.mem_cons_self) .file
  case unlinked =>
    intro n hn target
    rw [Entry.lookup_putEntry]
    split
    case isTrue => simp
    case isFalse => exact h.unlinked n hn target

theorem apart_run (ho : a.output = none) (hc : a.config = none) (color : Bool) :
    Apart ((run fs color a).fileSystem fs) a := by
  have he := run_ends fs color a
  generalize run fs color a = outcome at he ⊢
  cases he
  case refused => exact h.apart ho hc
  case failed => exact h.apart ho hc
  case written config options r place config_eq options_eq scan_eq target_eq =>
    by_cases hd : fs.look place = some .device
    case pos =>
      rw [Outcome.fileSystem, store_of_device hd]
      exact h.apart ho hc
    case neg => exact (h.store ho target_eq hd _).apart ho hc

end Plain

-- A run can be repeated unless its report is written over something that the next run opens. The
-- second report may have one more file to list, the report of the first run; with the third run
-- nothing changes any more, and if there was such a file from the start, already with the second.
theorem run_reaches_fixed_point {fs : FileSystem} {color : Bool} {a : Arguments}
    (h : (run fs color a).exitCode = 0) (hapart : Apart ((run fs color a).fileSystem fs) a) :
    ∃ first printed second printed', run fs color a = .written first printed ∧
      run first color a = .written second printed' ∧
      run second color a = .written second printed' ∧
      (fs.isFile a.outputPath → second = first ∧ printed' = printed) := by
  cases hrun : run fs color a
  case refused => simp [hrun, Outcome.exitCode] at h
  case failed => simp [hrun, Outcome.exitCode] at h
  case written first printed =>
    have hapart : Apart first a := by simpa [hrun, Outcome.fileSystem] using hapart
    obtain ⟨config, r, place, hr, ht, hfirst, hprinted⟩ := exists_reportOf_of_written hrun
    by_cases hd : fs.look place = some .device
    case pos =>
      rw [store_of_device hd] at hfirst
      subst hfirst
      exact ⟨first, printed, first, printed, rfl, hrun, hrun, fun _ => ⟨rfl, rfl⟩⟩
    case neg =>
      have hw := rewritten_of_target ht hd (reportBytes a config.limits r)
      rw [← hfirst] at hw
      have ht' := hw.target List.mem_cons_self ht
      have hf := hw.look_content List.mem_cons_self
      have hout := hapart place ht' (by simp [hf])
      obtain ⟨r', hr'⟩ := exists_reportOf_of_rewritten hw (hw.namesOf_eq ▸ hout) hr
      obtain ⟨second, printed', hs, hs'⟩ := run_twice_of_file color hr' ht' ⟨_, hf⟩ hout
      refine ⟨first, printed, second, printed', rfl, hs, hs', fun hold => ?_⟩
      -- Then the first run has changed no more than a content that no run looks at.
      obtain ⟨old, ho⟩ := file_of_isFile ht hold
      have halike := alike_store ⟨old, ho⟩ (reportBytes a config.limits r)
      rw [← hfirst] at halike
      have hsame := reportOf_of_alike halike.symm (hw.namesOf_eq ▸ hout) hr'
      obtain ⟨-, rfl⟩ : config = config ∧ r = r' := by simpa using hr.symm.trans hsame
      have hagain := run_of_reportOf color hr' ht'
      rw [hw.store_eq_self, hs] at hagain
      cases hagain
      exact ⟨rfl, hprinted.symm⟩

theorem run_reaches_fixed_point_sample :
    let a : Arguments := { project := "game", format := .json }
    a.output = none ∧ a.config = none ∧ (run Report.sampleSystem false a).exitCode = 0 ∧
      Apart ((run Report.sampleSystem false a).fileSystem Report.sampleSystem) a ∧
      ∃ first printed second printed', run Report.sampleSystem false a = .written first printed ∧
        run first false a = .written second printed' ∧
        run second false a = .written second printed' := by
  intro a
  have h : (run Report.sampleSystem false a).exitCode = 0 := by decide
  have hr : Report.sampleSystem.entry "game" = .ok (.dir Report.sampleEntries) := rfl
  have hplain : Plain Report.sampleSystem a Report.sampleEntries := by
    refine ⟨hr, by decide, rfl, fun n hn target hl => ?_⟩
    simp only [soughtNames, Config.fileNames, List.mem_cons, List.not_mem_nil, or_false] at hn
    obtain rfl | rfl | rfl | rfl := hn <;> cases hl
  have hapart := hplain.apart_run rfl rfl false
  obtain ⟨first, printed, second, printed', h₁, h₂, h₃, _⟩ := run_reaches_fixed_point h hapart
  exact ⟨rfl, rfl, h, hapart, first, printed, second, printed', h₁, h₂, h₃⟩

def linkedSystem (bytes : List UInt8) : FileSystem :=
  { root := .dir [("game", .dir
      [("PROJECT_ARCHITECTURE.md", .link "main.gd"), ("main.gd", .file bytes)])] }

def linkedArguments : Arguments :=
  { project := "game", fullSource := true }

-- The report goes into the script, and what has been in the script goes into the report.
theorem run_linkedSystem (bytes : List UInt8) : ∃ limits r printed,
    run (linkedSystem bytes) false linkedArguments =
      .written (linkedSystem (reportBytes linkedArguments limits r)) printed ∧
    ("main.gd", String.ofList (Text.decodeLossy bytes)) ∈ r.sources.entries := by
  have hroot : (linkedSystem bytes).entry "game" = .ok (.dir
      [("PROJECT_ARCHITECTURE.md", .link "main.gd"), ("main.gd", .file bytes)]) := rfl
  have hconfig : linkedArguments.loadConfig (linkedSystem bytes) = .ok { fullSource := true } := rfl
  have hoptions : ({ fullSource := true } : Config).scanOptions =
      .ok { includeSource := true } := rfl
  have ht : (linkedSystem bytes).target linkedArguments.outputPath = .ok ["game", "main.gd"] := rfl
  have hs := Report.scanWithout_eq hroot Script.parse
    ({ includeSource := true } : Report.ScanOptions).exclusion true
  have hr := reportOf_eq_ok_iff.mpr ⟨hconfig, _, hoptions, hs⟩
  refine ⟨_, _, _, run_of_reportOf false hr ht, ?_⟩
  have hl : listing (linkedSystem bytes) ({ includeSource := true } : Report.ScanOptions).exclusion
      "game" [("PROJECT_ARCHITECTURE.md", .link "main.gd"), ("main.gd", .file bytes)] =
        [fileAt "game" ["main.gd"]] := List.mergeSort_singleton _
  have he : [fileAt "game" ["main.gd"]].filterMap (Report.sourceOf? (linkedSystem bytes)) =
      [("main.gd", String.ofList (Text.decodeLossy bytes))] := rfl
  rw [Report.sources_ofFiles, hl, he]
  exact List.mem_cons_self

-- Each report would have to hold itself, so there is never a last one.
theorem run_through_link :
    linkedArguments.output = none ∧ linkedArguments.config = none ∧
      (run (linkedSystem []) false linkedArguments).exitCode = 0 ∧
      ¬∃ first printed second printed',
        run (linkedSystem []) false linkedArguments = .written first printed ∧
        run first false linkedArguments = .written second printed' ∧
        run second false linkedArguments = .written second printed' := by
  refine ⟨rfl, rfl, by decide, ?_⟩
  rintro ⟨first, printed, second, printed', h₁, h₂, h₃⟩
  obtain ⟨l₁, r₁, p₁, e₁, _⟩ := run_linkedSystem []
  cases h₁.symm.trans e₁
  obtain ⟨l₂, r₂, p₂, e₂, _⟩ := run_linkedSystem (reportBytes linkedArguments l₁ r₁)
  cases h₂.symm.trans e₂
  obtain ⟨l₃, r₃, p₃, e₃, hm⟩ := run_linkedSystem (reportBytes linkedArguments l₂ r₂)
  have he : linkedSystem (reportBytes linkedArguments l₂ r₂) =
      linkedSystem (reportBytes linkedArguments l₃ r₃) :=
    (Outcome.written.inj (h₃.symm.trans e₃)).left
  have hb : reportBytes linkedArguments l₂ r₂ = reportBytes linkedArguments l₃ r₃ := by
    simpa [linkedSystem] using he
  rw [hb, reportBytes, Text.decodeLossy_encodeUtf8, String.ofList_toList] at hm
  exact Render.renderMarkdown_ne_source hm rfl

end GodotAtlas.CommandLine
