import GodotAtlas.CommandLine.Run
import GodotAtlas.Proofs.Files.Writing
import GodotAtlas.Proofs.Report.Coverage
import GodotAtlas.Proofs.Text.Decoding

namespace GodotAtlas.CommandLine

open Files FileSystem

def HasRoot (fs : FileSystem) (a : Arguments) : Prop :=
  ∃ es, fs.entry a.project = .ok (.dir es)

def Unwritable (fs : FileSystem) (path : String) : Prop :=
  ∀ bytes, ∃ e, fs.write path bytes = .error e

section

variable {fs after : FileSystem} {color : Bool} {a : Arguments} {config : Config}
  {options : Report.ScanOptions} {r : Report} {path printed : String} {place : List String}

theorem unwritable_iff : Unwritable fs path ↔ ∃ e, fs.target path = .error e := by
  simp only [Unwritable, write_eq]
  cases fs.target path <;> simp [Except.map]

theorem not_unwritable_of_target (h : fs.target path = .ok place) : ¬Unwritable fs path := by
  simp [unwritable_iff, h]

theorem exists_scanOptions (h : a.loadConfig fs = .ok config) :
    ∃ options, config.scanOptions = .ok options := by
  simp only [Arguments.loadConfig, bind, Except.bind] at h
  split at h
  case h_1 => cases h
  case h_2 c _ =>
    split at h
    case h_1 => cases h
    case h_2 hv =>
      cases h
      simp only [Config.validate, Config.scanOptions] at hv ⊢
      cases hp : readPatterns (a.override c).excludedPaths
      case error => simp [hp, Except.map] at hv
      case ok => exact ⟨_, rfl⟩

theorem exists_scan (h : HasRoot fs a) (parser : Script.Parser) (options : Report.ScanOptions) :
    ∃ r, Report.scan fs parser options a.project = .ok r := by
  obtain ⟨es, he⟩ := h
  exact ⟨_, Report.scanWithout_eq he parser options.exclusion options.includeSource⟩

theorem scan_of_not_hasRoot (h : ¬HasRoot fs a) (parser : Script.Parser)
    (options : Report.ScanOptions) :
    ∃ e, Report.scan fs parser options a.project = .error e := by
  have hdir : ∀ es, fs.entry a.project ≠ .ok (.dir es) := not_exists.mp h
  cases he : fs.entry a.project
  case error e =>
    have hc : ∃ e, Report.checkRoot fs a.project = .error e := by
      cases e <;> simp [Report.checkRoot, he]
    obtain ⟨e, hc⟩ := hc
    exact ⟨e, by simp only [Report.scan, Report.scanWithout, hc]; rfl⟩
  case ok e =>
    cases e
    case dir es => exact absurd he (hdir es)
    case locked isDirectory cause =>
      cases isDirectory <;> exact ⟨_, by
        simp only [Report.scan, Report.scanWithout, Report.checkRoot, Report.list, listFiles, he]
        rfl⟩
    all_goals exact ⟨_, by simp only [Report.scan, Report.scanWithout, Report.checkRoot, he]; rfl⟩

theorem hasRoot_of_scan {parser : Script.Parser}
    (h : Report.scan fs parser options a.project = .ok r) : HasRoot fs a := by
  by_contra hn
  obtain ⟨e, he⟩ := scan_of_not_hasRoot hn parser options
  simp [he] at h

theorem run_of_config {e : ConfigError} (h : a.loadConfig fs = .error e) :
    ∃ printed, run fs color a = .refused printed := by
  simp [run, reportOf, h]

theorem run_of_not_hasRoot (hc : a.loadConfig fs = .ok config) (hr : ¬HasRoot fs a) :
    ∃ printed, run fs color a = .refused printed := by
  obtain ⟨options, ho⟩ := exists_scanOptions hc
  obtain ⟨e, he⟩ := scan_of_not_hasRoot hr Script.parse options
  simp [run, reportOf, hc, ho, he]

theorem run_of_scan (hc : a.loadConfig fs = .ok config) (ho : config.scanOptions = .ok options)
    (hs : Report.scan fs Script.parse options a.project = .ok r) :
    run fs color a = writeReport fs color a config.limits r := by
  simp [run, reportOf, hc, ho, hs]

theorem writeReport_of_target (h : fs.target a.outputPath = .ok place) :
    writeReport fs color a config.limits r =
      .written (fs.store place (reportBytes a config.limits r))
        (Render.summary color r a.outputPath) := by
  simp [writeReport, write_eq, h, Except.map]

theorem writeReport_of_unwritable (h : Unwritable fs a.outputPath) :
    ∃ message, writeReport fs color a config.limits r = .failed message := by
  obtain ⟨e, he⟩ := unwritable_iff.mp h
  simp [writeReport, write_eq, he, Except.map]

end

-- The ways in which a run may end, each with what leads to it and what it leaves behind.
inductive Ends (fs : FileSystem) (color : Bool) (a : Arguments) : Outcome → Prop
  | written {config : Config} {options : Report.ScanOptions} {r : Report} {place : List String}
      (config_eq : a.loadConfig fs = .ok config) (options_eq : config.scanOptions = .ok options)
      (scan_eq : Report.scan fs Script.parse options a.project = .ok r)
      (target_eq : fs.target a.outputPath = .ok place) :
      Ends fs color a (.written (fs.store place (reportBytes a config.limits r))
        (Render.summary color r a.outputPath))
  | refused {printed : String} (stopped : (∃ e, a.loadConfig fs = .error e) ∨ ¬HasRoot fs a) :
      Ends fs color a (.refused printed)
  | failed {message : String} (configured : ∃ config, a.loadConfig fs = .ok config)
      (root : HasRoot fs a) (unwritable : Unwritable fs a.outputPath) :
      Ends fs color a (.failed message)

section

variable (fs : FileSystem) (color : Bool) (a : Arguments)

theorem run_ends : Ends fs color a (run fs color a) := by
  cases hc : a.loadConfig fs
  case error e =>
    obtain ⟨printed, hr⟩ := run_of_config hc
    rw [hr]
    exact .refused (.inl ⟨e, hc⟩)
  case ok config =>
    by_cases hr : HasRoot fs a
    case neg =>
      obtain ⟨printed, hp⟩ := run_of_not_hasRoot hc hr
      rw [hp]
      exact .refused (.inr hr)
    case pos =>
      obtain ⟨options, ho⟩ := exists_scanOptions hc
      obtain ⟨r, hs⟩ := exists_scan hr Script.parse options
      rw [run_of_scan hc ho hs]
      cases ht : fs.target a.outputPath
      case error e =>
        have hu : Unwritable fs a.outputPath := unwritable_iff.mpr ⟨e, ht⟩
        obtain ⟨message, hm⟩ := writeReport_of_unwritable hu
        rw [hm]
        exact .failed ⟨config, hc⟩ hr hu
      case ok place =>
        rw [writeReport_of_target ht]
        exact .written hc ho hs ht

end

-- The three ways to end exclude one another, so each is told by what leads to it.
namespace Ends

variable {fs : FileSystem} {color : Bool} {a : Arguments} {o : Outcome}

theorem refused_iff (h : Ends fs color a o) : (∃ printed, o = .refused printed) ↔
    (∃ e, a.loadConfig fs = .error e) ∨ ¬HasRoot fs a := by
  cases h
  case written hc _ hs _ => simp [hc, hasRoot_of_scan hs]
  case refused hr => simp [hr]
  case failed hc hr _ =>
    obtain ⟨config, hc⟩ := hc
    simp [hc, hr]

theorem failed_iff (h : Ends fs color a o) : (∃ message, o = .failed message) ↔
    (∃ config options r, a.loadConfig fs = .ok config ∧ config.scanOptions = .ok options ∧
      Report.scan fs Script.parse options a.project = .ok r) ∧ Unwritable fs a.outputPath := by
  cases h
  case written ht => simp [not_unwritable_of_target ht]
  case refused hr =>
    have hn : ¬∃ config options r, a.loadConfig fs = .ok config ∧
        config.scanOptions = .ok options ∧
        Report.scan fs Script.parse options a.project = .ok r := by
      rintro ⟨config, options, r, hc, _, hs⟩
      simp [hc, hasRoot_of_scan hs] at hr
    exact iff_of_false (by simp) fun h => hn h.left
  case failed hc hr hu =>
    obtain ⟨config, hc⟩ := hc
    obtain ⟨options, ho⟩ := exists_scanOptions hc
    obtain ⟨r, hs⟩ := exists_scan hr Script.parse options
    exact ⟨fun _ => ⟨⟨config, options, r, hc, ho, hs⟩, hu⟩, fun _ => ⟨_, rfl⟩⟩

end Ends

theorem fileSystem_run_of_device {fs : FileSystem} {color : Bool} {a : Arguments}
    {place : List String} (ht : fs.target a.outputPath = .ok place)
    (hd : fs.look place = some .device) : (run fs color a).fileSystem fs = fs := by
  have h := run_ends fs color a
  generalize run fs color a = o at h ⊢
  cases h
  case written target_eq =>
    cases ht.symm.trans target_eq
    exact store_of_device hd
  case refused => rfl
  case failed => rfl

theorem reportBytes_ne_nil {a : Arguments} (ha : a.format = .markdown) (limits : Render.Limits)
    (r : Report) : reportBytes a limits r ≠ [] := by
  intro h
  have hd := Text.decodeLossy_encodeUtf8 (renderReport a.format limits r).toList
  rw [reportBytes] at h
  rw [h, ha, renderReport, Render.renderMarkdown, String.toList_append] at hd
  exact List.append_ne_nil_of_right_ne_nil _ (by simp) hd.symm

def deviceArguments : Arguments :=
  { project := "game", output := some "/dev/null" }

end GodotAtlas.CommandLine
