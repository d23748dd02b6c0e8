import GodotAtlas.Proofs.Files.Spelling
import GodotAtlas.Proofs.Report.Dependencies
import GodotAtlas.Proofs.Report.Independence
import GodotAtlas.Proofs.Report.SourceCapture

namespace GodotAtlas.Report

open Files Format Symbols Text

-- The files that a scan looks at: those that are listed, and the one with the settings.
def Sought (x : Exclusion) (tree : Entry) (names : List String) : Prop :=
  Kept x tree names ∨
    names = [projectFile] ∧ ∃ e, tree.at? names = some e ∧ e.isDir = false

-- A path that leads to a directory, and that is not too long to be followed to the files below.
structure Spells (fs : FileSystem) (x : Exclusion) (place : List String)
    (es : List (String × Entry)) (root : String) : Prop where
  leads : fs.place root = .ok place
  dir : fs.look place = some (.dir es)
  usable : ∀ names, Sought x (.dir es) names → FileSystem.checkPath (walked root names) = .ok ()

-- The walk by joined paths finds what is listed, sees each file by its names, and can open it.
structure WalksFrom (fs : FileSystem) (x : Exclusion) (es : List (String × Entry)) (root : String) :
    Prop where
  files : listFiles x root fs = .ok ((visitAt fs x root root (.dir es)).mergeSort pathLe)
  relative : ∀ names, Kept x (.dir es) names → relativePath root (walked root names) = pathOf names
  read : ∀ names bytes, Kept x (.dir es) names → (Entry.dir es).at? names = some (.file bytes) →
    fs.read (walked root names) = .ok bytes

-- Whatever a report keeps under the path of a file, it keeps under the names that lead there.
structure KeyedByNames (x : Exclusion) (tree : Entry) (r : Report) : Prop where
  holds : ∀ path kind, Holds r path kind ↔ ∃ names, Kept x tree names ∧ path = pathOf names ∧
    kind = .ofPath (pathOf names) ∧ kind ≠ .ignored
  sources : ∀ path ∈ r.sources.keys, path ∈ r.scripts.keys
  dependencies : ∀ path ∈ r.dependencies.keys, path ∈ r.scripts.keys

section

variable {fs : FileSystem} {x : Exclusion} {place names : List String}
  {es : List (String × Entry)} {root root' : String} {parser : Script.Parser}
  {includeSource : Bool}

namespace Spells

theorem entry (h : Spells fs x place es root) : fs.entry root = .ok (.dir es) :=
  FileSystem.entry_of_place h.leads h.dir

theorem projectAt_eq (h : Spells fs x place es root)
    (hl : ∀ target, es.lookup projectFile ≠ some (.link target)) :
    projectAt fs root = (((es.lookup projectFile).bind fun e => e.content.toOption).map fun bytes =>
      Project.ofText (decodeLossy bytes)).getD {} := by
  rw [projectAt, FileSystem.read_eq, map_entry_projectFile h.entry hl]
  cases he : es.lookup projectFile
  case none => cases FileSystem.checkPath (join root projectFile) <;> rfl
  case some e =>
    by_cases hd : e.isDir
    case pos =>
      have hc : ∃ cause, e.content = .error cause := by
        cases e <;> simp_all [Entry.isDir, Entry.content]
      obtain ⟨cause, hc⟩ := hc
      cases FileSystem.checkPath (join root projectFile) <;>
        simp [Except.bind, hc, Except.toOption]
    case neg =>
      have ha : (Entry.dir es).at? [projectFile] = some e := by
        simp [Entry.at?, Entry.child?, Entry.entries, he]
      have hc : FileSystem.checkPath (join root projectFile) = .ok () :=
        h.usable [projectFile] (.inr ⟨rfl, e, ha, by simpa using hd⟩)
      rw [hc]
      cases hcontent : e.content <;> simp [Except.bind, hcontent, Except.toOption]

variable (hs : (Entry.dir es).Storable) (h : Spells fs x place es root)
  (h' : Spells fs x place es root')
include hs h

theorem listed_iff : Listed fs x root (.dir es) names ↔ Kept x (.dir es) names := by
  rw [FileSystem.listed_iff (FileSystem.locate_of_place h.leads) h.dir h.entry hs]
  constructor
  case mp => exact And.left
  case mpr =>
    intro hk
    have hr := FileSystem.ne_empty_of_entry h.entry
    exact ⟨hk, fun p hp _ hn => checkPath_of_prefix hr (hk.file.validNames hs.wellFormed) hp hn
      (h.usable names (.inl hk))⟩

theorem entry_walked (hk : Kept x (.dir es) names) :
    ∃ e, (Entry.dir es).at? names = some e ∧ fs.entry (walked root names) = .ok e := by
  obtain ⟨e, ha, hf⟩ := hk.file
  have ht : e.target? = none := by cases e <;> simp_all [Entry.isFile, Entry.target?]
  refine ⟨e, ha, ?_⟩
  rw [FileSystem.entry_walked (FileSystem.locate_of_place h.leads) h.dir hs ha hk.file.ne_nil ht,
    h.usable names (.inl hk)]
  rfl

theorem walksFrom : WalksFrom fs x es root where
  files := listFiles_eq_visitAt h.entry hs x
  relative _ hk := by
    obtain ⟨e, ha, _⟩ := hk.file
    exact relativePath_walked (FileSystem.ne_empty_of_entry h.entry) (hs.plain_of_at? ha)
  read names bytes hk ha :=
    FileSystem.read_walked (FileSystem.locate_of_place h.leads) h.dir hs ha
      (h.usable names (.inl hk))

include h'

theorem steps_eq :
    (listing fs x root es).filterMap (fileStep? fs parser includeSource) =
      (listing fs x root' es).filterMap (fileStep? fs parser includeSource) := by
  have hw := hs.wellFormed
  have hnames : listedNames fs x root es = listedNames fs x root' es :=
    listedNames_congr h.entry hw h'.entry hw fun _ =>
      (h.listed_iff hs).trans (h'.listed_iff hs).symm
  rw [listing_eq_map h.entry hw, listing_eq_map h'.entry hw, hnames, List.filterMap_map,
    List.filterMap_map]
  apply List.filterMap_congr
  intro names hm
  have hk := (h'.listed_iff hs).mp ((mem_listedNames h'.entry hw).mp hm)
  obtain ⟨e, ha, he⟩ := h.entry_walked hs hk
  obtain ⟨e', ha', he'⟩ := h'.entry_walked hs hk
  obtain rfl : e = e' := by simpa [ha] using ha'
  have hread : fs.read (fileAt root names).path = fs.read (fileAt root' names).path :=
    FileSystem.read_congr (by rw [fileAt, fileAt, he, he'])
  exact fileStep?_congr rfl rfl fun _ => hread

end Spells

theorem keyedByNames_ofFiles (hs : (Entry.dir es).Storable) (h : Spells fs x place es root) :
    KeyedByNames x (.dir es) (ofFiles fs parser includeSource root (listing fs x root es)) := by
  have hw := hs.wellFormed
  constructor
  case holds =>
    intro path kind
    rw [holds_ofFiles]
    constructor
    case mp =>
      rintro ⟨f, hf, rfl, rfl, hi⟩
      obtain ⟨names, hl, rfl⟩ := (mem_listing h.entry hw).mp hf
      exact ⟨names, (h.listed_iff hs).mp hl, rfl, rfl, hi⟩
    case mpr =>
      rintro ⟨names, hk, rfl, rfl, hi⟩
      exact ⟨fileAt root names,
        (mem_listing h.entry hw).mpr ⟨names, (h.listed_iff hs).mpr hk, rfl⟩, rfl, rfl, hi⟩
  case sources =>
    intro path hp
    cases includeSource
    case true => exact mem_keys_scripts_of_sources hp
    case false =>
      rw [ofFiles_without_sources] at hp
      cases hp
  case dependencies => exact dependenciesMatch_report.scripts

end

-- Only the root tells the reports of two spellings apart.
theorem scan_of_same_place {fs : FileSystem} {place : List String} {es : List (String × Entry)}
    {root root' : String} {options : ScanOptions} (hs : (Entry.dir es).Storable)
    (hl : ∀ target, es.lookup projectFile ≠ some (.link target))
    (h : Spells fs options.exclusion place es root)
    (h' : Spells fs options.exclusion place es root') (parser : Script.Parser) :
    ∃ r, scan fs parser options root = .ok r ∧
      scan fs parser options root' = .ok { r with root := root' } ∧ r.root = root ∧
      KeyedByNames options.exclusion (.dir es) r ∧
      WalksFrom fs options.exclusion es root ∧ WalksFrom fs options.exclusion es root' := by
  have hscan' := scanWithout_eq h'.entry parser options.exclusion options.includeSource
  have hproject : projectAt fs root = projectAt fs root' :=
    (h.projectAt_eq hl).trans (h'.projectAt_eq hl).symm
  rw [ofFiles, ← hproject, ← h.steps_eq hs h'] at hscan'
  exact ⟨_, scanWithout_eq h.entry parser options.exclusion options.includeSource, hscan', rfl,
    keyedByNames_ofFiles hs h, h.walksFrom hs, h'.walksFrom hs⟩

def heroEntries : List (String × Entry) :=
  [(projectFile, .file []), ("art", .dir [("hero.gd", .file [])])]

def heroSystem : FileSystem :=
  { root := .dir [("game", .dir heroEntries), ("home", .dir [])], cwd := ["home"] }

theorem sought_heroEntries {x : Exclusion} {names : List String}
    (h : Sought x (.dir heroEntries) names) :
    names = [projectFile] ∨ names = ["art", "hero.gd"] := by
  cases h
  case inr h => exact .inl h.left
  case inl hk =>
    obtain ⟨n, ms, e, rfl, hl, he⟩ := Entry.holdsFile_dir.mp hk.file
    simp only [heroEntries, Entry.lookup_cons, List.lookup_nil] at hl
    split at hl
    case isTrue hn =>
      cases hl
      have hm := ((Entry.holdsFile_iff_of_leaf (by simp)).mp he).left
      exact .inl (by rw [hn, hm])
    case isFalse =>
      split at hl
      case isFalse => cases hl
      case isTrue hn =>
        cases hl
        obtain ⟨m, ks, f, rfl, hl, hf⟩ := Entry.holdsFile_dir.mp he
        rw [Entry.lookup_cons] at hl
        split at hl
        case isFalse => cases hl
        case isTrue hm =>
          cases hl
          have hk := ((Entry.holdsFile_iff_of_leaf (by simp)).mp hf).left
          exact .inr (by rw [hn, hm, hk])

theorem scan_of_same_place_hero :
    let options : ScanOptions := {}
    (Entry.dir heroEntries).Storable ∧
      Spells heroSystem options.exclusion ["game"] heroEntries "..//game/" ∧
      Spells heroSystem options.exclusion ["game"] heroEntries "/game/art/../." ∧
      ∃ r, scan heroSystem Script.unavailable options "..//game/" = .ok r ∧
        scan heroSystem Script.unavailable options "/game/art/../." =
          .ok { r with root := "/game/art/../." } ∧
        "art/hero.gd" ∈ r.scripts.keys := by
  intro options
  have hstorable : (Entry.dir heroEntries).Storable := by decide
  have hs : Spells heroSystem options.exclusion ["game"] heroEntries "..//game/" := by
    refine ⟨rfl, rfl, fun names h => ?_⟩
    cases sought_heroEntries h <;> subst names <;> decide
  have hs' : Spells heroSystem options.exclusion ["game"] heroEntries "/game/art/../." := by
    refine ⟨rfl, rfl, fun names h => ?_⟩
    cases sought_heroEntries h <;> subst names <;> decide
  have hl : ∀ target, heroEntries.lookup projectFile ≠ some (.link target) := by
    intro target h
    cases h
  obtain ⟨r, hr, hr', _, hk, _⟩ := scan_of_same_place hstorable hl hs hs' Script.unavailable
  have hkept : Kept options.exclusion (.dir heroEntries) ["art", "hero.gd"] :=
    ⟨⟨_, rfl, rfl⟩, by decide, fun _ _ _ => rfl⟩
  have hh : Holds r "art/hero.gd" .script :=
    (hk.holds _ _).mpr ⟨_, hkept, by decide, by decide, by decide⟩
  exact ⟨hstorable, hs, hs', r, hr, hr', hh⟩

-- Under a path that is nearly as long as it may be, the file with the settings cannot be opened.
def bareSystem : FileSystem :=
  { root := .dir [("game", .dir [(projectFile, .file [])])] }

section

variable {k : Nat} (hk : k ≠ 0) (hs : 4 + k * 2 ≤ FileSystem.maxPath)
include hk hs

theorem projectAt_dotted (hl : FileSystem.maxPath < 4 + k * 2 + 14) :
    projectAt bareSystem (dotted k) = {} := by
  have hp : bareSystem.place (dotted k) = .ok ["game"] := place_dotted rfl rfl hk hs
  have he := FileSystem.entry_of_place hp rfl
  have hv : ValidNames [projectFile] :=
    List.forall_mem_singleton.mpr plainName_projectFile.toValidName
  have hc := checkPath_dotted hk hv (List.forall_mem_singleton.mpr (by decide))
  have hsum : ([projectFile].map (·.utf8ByteSize + 1)).sum = 14 := rfl
  rw [hsum, if_pos hl, walked_singleton] at hc
  have hl : ∀ target, [(projectFile, Entry.file [])].lookup projectFile ≠ some (.link target) := by
    intro target h
    cases h
  rw [projectAt, FileSystem.read_eq, map_entry_projectFile he hl, hc]
  rfl

theorem exists_scans_dotted (hl : FileSystem.maxPath < 4 + k * 2 + 14) :
    ∃ r s, scan bareSystem Script.unavailable {} "game" = .ok r ∧
      scan bareSystem Script.unavailable {} (dotted k) = .ok s ∧
      r.project.found = true ∧ s.project.found = false := by
  have hr : bareSystem.entry "game" = .ok (.dir [(projectFile, .file [])]) := rfl
  have hp : bareSystem.place (dotted k) = .ok ["game"] := place_dotted rfl rfl hk hs
  have hr' := FileSystem.entry_of_place hp rfl
  refine ⟨_, _, scanWithout_eq hr _ _ _, scanWithout_eq hr' _ _ _, rfl, ?_⟩
  exact congrArg Project.found (projectAt_dotted hk hs hl)

end

theorem scan_of_dotted :
    bareSystem.place "game" = .ok ["game"] ∧ bareSystem.place (dotted 2043) = .ok ["game"] ∧
      ∃ r s, scan bareSystem Script.unavailable {} "game" = .ok r ∧
        scan bareSystem Script.unavailable {} (dotted 2043) = .ok s ∧
        s ≠ { r with root := dotted 2043 } := by
  have hs : 4 + 2043 * 2 ≤ FileSystem.maxPath := by decide
  obtain ⟨r, s, hr, hs', hfound, hmissing⟩ := exists_scans_dotted (by decide) hs (by decide)
  refine ⟨rfl, place_dotted rfl rfl (by decide) hs, r, s, hr, hs', ?_⟩
  rintro rfl
  rw [hfound] at hmissing
  cases hmissing

end GodotAtlas.Report
