import GodotAtlas.Proofs.Format.ProjectSettings

namespace GodotAtlas.Format

open Text

theorem sectionOf?_of_stops {l : List Char} (h : Stops (· == '[') l) : sectionOf? l = none := by
  cases l
  case nil => rfl
  case cons c l =>
    have hc : c ≠ '[' := by simpa using h
    simp [sectionOf?, skip?, Ne.symm hc]

theorem sectionOf?_header {n : String} (hn : n ≠ "") (h : ']' ∉ n.toList) :
    sectionOf? (headerLine n) = some n.toList := by
  have hs : skip? ['['] (headerLine n) = some (n.toList ++ [']']) := rfl
  have hc : n.toList ≠ [] := by simpa using hn
  obtain ⟨c, cs, he⟩ := List.exists_cons_of_ne_nil hc
  rw [sectionOf?, hs, Option.bind_some, until?_append h, he]

section

variable {α : Type} {name : List Char} {read? : List Char → Option α} {ls : List (List Char)}

theorem entriesIn_filter (h : ∀ l, isFiller l → read? l = none) (current : Option (List Char)) :
    entriesIn name read? current (ls.filter (!isFiller ·)) = entriesIn name read? current ls := by
  induction ls generalizing current
  case nil => rfl
  case cons l ls hi =>
    cases hf : isFiller l
    case false =>
      simp only [List.filter_cons, hf, Bool.not_false, if_true, entriesIn]
      split
      case h_1 next _ => exact hi (some next)
      case h_2 => rw [hi current]
    case true =>
      have hs : sectionOf? l = none := sectionOf?_of_stops (stops_of_isFiller rfl hf)
      simp [hf, entriesIn, hs, h l hf, hi]

theorem entriesIn_append {rest : List (List Char)} (h : ∀ l ∈ ls, sectionOf? l = none)
    (current : Option (List Char)) : entriesIn name read? current (ls ++ rest) =
      (if current = some name then ls.filterMap read? else []) ++
        entriesIn name read? current rest := by
  induction ls
  case nil => simp
  case cons l ls hi =>
    have ⟨hl, hls⟩ := List.forall_mem_cons.mp h
    rw [List.cons_append, entriesIn, hl, hi hls, filterMap_cons_eq]
    by_cases hc : current = some name <;> simp [hc]

-- What is read in a section does not depend on the sections in front of it.
theorem entriesIn_sectionLines {n : String} {es rest : List (List Char)} {found : List α}
    (hn : n ≠ "" ∧ ']' ∉ n.toList) (he : ∀ l ∈ es, sectionOf? l = none)
    (hr : ∀ current, entriesIn name read? current rest = found) (we : Bool)
    (current : Option (List Char)) :
    entriesIn name read? current (sectionLines we n es ++ rest) =
      (if n.toList = name then es.filterMap read? else []) ++ found := by
  rw [sectionLines]
  split
  case isTrue hc =>
    simp only [Bool.and_eq_true, List.isEmpty_iff] at hc
    simp [hc.left, hr]
  case isFalse =>
    rw [List.cons_append, entriesIn, sectionOf?_header hn.left hn.right]
    simp only [entriesIn_append he, hr, Option.some.injEq]

end

-- A line that is not a header and has no white space in front.
def StartsEntry (l : List Char) : Prop :=
  Stops (fun c => isBlank c || c == '[') l

theorem sectionOf?_trim {l : List Char} (h : StartsEntry l) : sectionOf? (trim l) = none := by
  cases l
  case nil => rfl
  case cons c l =>
    have hc : isBlank c = false ∧ (c == '[') = false := by simpa [StartsEntry] using h
    rw [trim_cons hc.left]
    exact sectionOf?_of_stops (stops_cons.mpr hc.right)

theorem startsEntry_settingText (w : Run isWord) (v : List Char) :
    StartsEntry (settingText w.chars v) := by
  apply w.stops_append
  intro c hc
  have hn : (c == '[') = false := by
    rw [beq_eq_false_iff_ne]
    rintro rfl
    cases hc
  rw [isBlank_of_isWord hc, hn]
  rfl

theorem BlockLine.startsEntry (b : BlockLine) : StartsEntry b.chars :=
  stops_cons.mpr (b.of_first (p := fun c => (isBlank c || c == '[') = false) rfl rfl rfl)

theorem ProjectSource.startsEntry_rendererLine (s : ProjectSource) :
    StartsEntry s.rendererLine := by
  have ⟨tail, ht⟩ := s.prefix_rendererLine
  exact ht ▸ rfl

theorem entriesIn_trimmed {α : Type} {name : List Char} {read? : List Char → Option α} {n : String}
    {es rest : List (List Char)} {found : List α} (hn : n ≠ "" ∧ ']' ∉ n.toList)
    (he : ∀ l ∈ es, StartsEntry l)
    (hr : ∀ current, entriesIn name read? current (rest.map trim) = found) (we : Bool)
    (current : Option (List Char)) :
    entriesIn name read? current ((sectionLines we n es ++ rest).map trim) =
      (if n.toList = name then (es.map trim).filterMap read? else []) ++ found := by
  rw [List.map_append, map_trim_sectionLines]
  refine entriesIn_sectionLines hn ?_ hr we current
  exact List.forall_mem_map.mpr fun l hl => sectionOf?_trim (he l hl)

theorem ProjectSource.entriesIn_content {α : Type} {name : List Char}
    {read? : List Char → Option α} (s : ProjectSource) :
    entriesIn name read? none (s.content.map trim) =
      (if "application".toList = name then
        ([s.nameLine, s.mainSceneLine, s.featuresLine].map trim).filterMap read? else []) ++
      ((if "autoload".toList = name then
        ((s.autoloads.map AutoloadEntry.line).map trim).filterMap read? else []) ++
      ((if "input".toList = name then
        ((s.actions.flatMap ActionEntry.lines).map trim).filterMap read? else []) ++
      (if "rendering".toList = name then
        ([s.rendererLine].map trim).filterMap read? else []))) := by
  have hv : sectionOf? (trim s.versionLine) = none :=
    sectionOf?_trim (startsEntry_settingText configVersion _)
  have hn : ∀ current, entriesIn name read? current (([] : List (List Char)).map trim) = [] :=
    fun _ => rfl
  have hr := entriesIn_trimmed (n := "rendering") (by decide)
    (List.forall_mem_singleton.mpr s.startsEntry_rendererLine) hn s.writesEmpty
  simp only [List.append_nil] at hr
  -- The line of the version is in front of all sections, so it is not an entry of any.
  rw [content, List.map_cons, entriesIn, hv]
  simp only [reduceCtorEq, if_false, List.nil_append]
  apply entriesIn_trimmed (by decide)
  case he =>
    simp only [List.forall_mem_cons]
    exact ⟨rfl, rfl, rfl, by simp⟩
  apply entriesIn_trimmed (by decide)
  case he => exact List.forall_mem_map.mpr fun a _ => startsEntry_settingText a.name _
  apply entriesIn_trimmed (by decide)
  case he =>
    exact forall_mem_actions (fun a => startsEntry_settingText a.name _) BlockLine.startsEntry
      s.actions
  exact hr

theorem assignedName?_settingText (w : Run isWord) {c : Char} (hc : isBlank c = false)
    (v : List Char) :
    assignedName? (settingText w.chars (c :: v)) = some (w.text, c :: v) := by
  have hw : word? (w.chars ++ '=' :: c :: v) = some (w.chars, '=' :: c :: v) :=
    run?_append w (stops_cons.mpr rfl)
  have he : skip? ['='] (trimStart ('=' :: c :: v)) = some (c :: v) := rfl
  simp only [settingText, assignedName?, hw, Option.bind_some, he, Option.map_some,
    trimStart_of_stops (stops_cons.mpr hc)]
  rfl

theorem AutoloadEntry.trim_line (a : AutoloadEntry) : trim a.line = a.line := by
  apply trim_of_ends
  case hs => exact a.name.stops_append (fun _ => isBlank_of_isWord) _
  case he => simp [line, settingText, inQuotes, show isBlank '"' = false from rfl]

theorem AutoloadEntry.quote_not_mem_path (a : AutoloadEntry) : '"' ∉ a.path := by
  have hs : '"' ∉ a.scheme.chars := by cases a.scheme <;> decide
  simp [path, hs, a.rest.not_mem (c := '"') rfl]

-- A path starts with its scheme, so there is no asterisk that could be taken for a flag.
theorem AutoloadEntry.skip?_path (a : AutoloadEntry) (cs : List Char) :
    skip? ['*'] (a.path ++ cs) = none ∧ ((skip? "res://".toList (a.path ++ cs)).isSome ||
      (skip? "uid://".toList (a.path ++ cs)).isSome) = true := by
  rw [path, List.append_assoc]
  cases a.scheme
  case res =>
    have hs : skip? "res://".toList (Scheme.res.chars ++ (a.rest.chars ++ cs)) =
      some (a.rest.chars ++ cs) := skip?_append _
    exact ⟨rfl, by simp only [hs, Option.isSome_some, Bool.true_or]⟩
  case uid =>
    have hs : skip? "uid://".toList (Scheme.uid.chars ++ (a.rest.chars ++ cs)) =
      some (a.rest.chars ++ cs) := skip?_append _
    exact ⟨rfl, by simp only [hs, Option.isSome_some, Bool.or_true]⟩

theorem AutoloadEntry.autoloadOf?_line (a : AutoloadEntry) :
    autoloadOf? a.line = some ⟨a.name.text, String.ofList a.path, a.isGlobal⟩ := by
  have ⟨hs, hp⟩ := a.skip?_path ['"']
  have hu : until? '"' (a.path ++ ['"']) = some (a.path, []) := until?_append a.quote_not_mem_path
  have hq (cs : List Char) : skip? ['"'] ('"' :: cs) = some cs := rfl
  have ha (cs : List Char) : skip? ['*'] ('*' :: cs) = some cs := rfl
  rw [line, inQuotes, autoloadOf?, assignedName?_settingText _ rfl, Option.bind_some]
  cases hg : a.isGlobal
  case false =>
    simp only [hq, hs, hp, hu, Option.bind_some, Bool.false_eq_true, if_false, List.nil_append,
      Option.getD_none, if_true, Option.map_some, Option.isSome_none]
  case true =>
    simp only [hq, ha, hp, hu, Option.bind_some, if_true, List.cons_append, List.nil_append,
      Option.getD_some, Option.map_some, Option.isSome_some]

theorem BlockLine.actionOf?_trim (b : BlockLine) : actionOf? (trim b.chars) = none := by
  have hw : word? (b.first :: trimEnd b.rest.chars) = none :=
    run?_of_stops (stops_cons.mpr b.isWord_first)
  rw [chars, trim_cons b.isBlank_first, actionOf?, assignedName?, hw]
  rfl

theorem ActionEntry.trim_opening (a : ActionEntry) :
    trim a.opening = settingText a.name.chars ('\x7b' :: trimEnd a.opened.chars) := by
  have hs : Stops isBlank a.opening := a.name.stops_append (fun _ => isBlank_of_isWord) _
  have hn : ∀ c ∈ a.name.chars, isBlank c = false := fun c hc =>
    isBlank_of_isWord (a.name.all c hc)
  have he : isBlank '=' = false := rfl
  have hb : isBlank '\x7b' = false := rfl
  rw [trim, trimStart_of_stops hs, opening, settingText, trimEnd_append hn, trimEnd_cons he,
    trimEnd_cons hb, settingText]

theorem ActionEntry.filterMap_lines (a : ActionEntry) :
    (a.lines.map trim).filterMap actionOf? = [a.name.text] := by
  have hb : ((a.block.map BlockLine.chars).map trim).filterMap actionOf? = [] := by
    simp only [List.filterMap_eq_nil_iff, List.forall_mem_map]
    exact fun b _ => b.actionOf?_trim
  have ha : actionOf? (settingText a.name.chars ('\x7b' :: trimEnd a.opened.chars)) =
      some a.name.text := by
    rw [actionOf?, assignedName?_settingText _ rfl]
    rfl
  rw [lines, List.map_cons, a.trim_opening, List.filterMap_cons_some ha, hb]

-- A reader of entries needs a word at the start of the line.
theorem assignedName?_of_isFiller {l : List Char} (h : isFiller l) : assignedName? l = none := by
  have hw : word? l = none := run?_of_stops (stops_of_isFiller rfl h)
  rw [assignedName?, hw]
  rfl

namespace LaidOut

variable {s : ProjectSource} {ls : List (List Char)} (h : LaidOut s ls)
include h

theorem filter_map_trim :
    ((lines (['\n'].intercalate ls)).map trim).filter (!isFiller ·) = s.content.map trim := by
  have hl : (lines (['\n'].intercalate ls)).filterMap (Option.guard (!isFiller ·) ∘ trim) =
      ls.filterMap (Option.guard (!isFiller ·) ∘ trim) := by
    refine filterMap_lines_intercalate rfl (fun l => ?_) h.one_line
    rw [Function.comp_apply, Function.comp_apply, trim_append_blank rfl]
  have ht : ∀ l ∈ ls, (!isFiller (trim l)) = !isFiller l := by
    intro l hl
    rw [isFiller, isFiller, head?_trim (h.stops l hl)]
  calc ((lines (['\n'].intercalate ls)).map trim).filter (!isFiller ·)
    _ = (ls.map trim).filter (!isFiller ·) := by
      rw [← List.filterMap_eq_filter, List.filterMap_map, hl, ← List.filterMap_map]
    _ = (ls.filter (!isFiller ·)).map trim := by
      rw [List.filter_map]
      exact congrArg (List.map trim) (List.filter_congr ht)
    _ = s.content.map trim := by rw [h.content]

theorem entriesIn_lines {α : Type} {name : List Char} {read? : List Char → Option α}
    (hf : ∀ l, isFiller l → read? l = none) :
    entriesIn name read? none ((lines (['\n'].intercalate ls)).map trim) =
      entriesIn name read? none (s.content.map trim) := by
  rw [← entriesIn_filter hf, h.filter_map_trim]

theorem autoloads_eq :
    entriesIn "autoload".toList autoloadOf? none ((lines (['\n'].intercalate ls)).map trim) =
      s.project.autoloads := by
  have hf (l : List Char) (hl : isFiller l) : autoloadOf? l = none := by
    rw [autoloadOf?, assignedName?_of_isFiller hl]
    rfl
  rw [h.entriesIn_lines hf, s.entriesIn_content, if_neg (by decide), if_pos rfl,
    if_neg (by decide), if_neg (by decide)]
  simp [Function.comp_def, AutoloadEntry.trim_line, AutoloadEntry.autoloadOf?_line,
    ProjectSource.project]

theorem inputActions_eq :
    entriesIn "input".toList actionOf? none ((lines (['\n'].intercalate ls)).map trim) =
      s.project.inputActions := by
  have hf (l : List Char) (hl : isFiller l) : actionOf? l = none := by
    rw [actionOf?, assignedName?_of_isFiller hl]
    rfl
  rw [h.entriesIn_lines hf, s.entriesIn_content, if_neg (by decide), if_neg (by decide),
    if_pos rfl, if_neg (by decide)]
  simp only [List.map_flatMap, List.filterMap_flatMap, ActionEntry.filterMap_lines,
    List.nil_append, List.append_nil]
  exact List.map_eq_flatMap.symm

end LaidOut

-- Every project can be written, and each of its texts is read as what is written in it.
theorem ofText_laidOut (s : ProjectSource) : LaidOut s s.content ∧
    ∀ ls, LaidOut s ls → Project.ofText (['\n'].intercalate ls) = s.project := by
  refine ⟨laidOut_content s, fun ls h => ?_⟩
  have hn : (quotedLine "config/name").find? (['\n'].intercalate ls) = some s.name.text := by
    rw [quotedLine_eq, h.find?_eq readsSettings_name]
    rfl
  have hm : (quotedLine "run/main_scene").find? (['\n'].intercalate ls) =
      some s.mainScene.text := by
    rw [quotedLine_eq, h.find?_eq readsSettings_mainScene]
    rfl
  have hr : rendererLine.find? (['\n'].intercalate ls) = some s.renderer.text := by
    rw [rendererLine_eq, h.find?_eq readsSettings_renderer]
    rfl
  have hf : featureLine.all (['\n'].intercalate ls) = [featuresText s.features] := by
    rw [featureLine_eq, h.all_eq readsSettings_features]
    rfl
  have hv : (fun f => decide (VersionShaped f)) = isVersion := by
    funext f
    rw [Bool.eq_iff_iff, decide_eq_true_iff, isVersion_iff]
  simp only [Project.ofText, hn, hm, hr, hf, h.autoloads_eq, h.inputActions_eq,
    List.getLast?_singleton, Option.map_some, Option.getD_some, splitFeatures_written, ← hv]
  rfl

def spaceMiner : ProjectSource where
  version := .ofAll "5".toList (by decide) (by decide)
  name := (Run.ofAll "run/main_scene=[input]".toList (by decide) (by decide)).toChars
  mainScene := (Run.ofAll "res://main.tscn".toList (by decide) (by decide)).toChars
  features :=
    [.ofAll "GL Compatibility".toList (by decide) (by decide),
     .ofAll "4.3".toList (by decide) (by decide)]
  autoloads :=
    [{ name := .ofAll "Music".toList (by decide) (by decide)
       scheme := .res
       rest := (Run.ofAll "music.gd".toList (by decide) (by decide)).toChars
       isGlobal := true }]
  actions :=
    [{ name := .ofAll "shoot".toList (by decide) (by decide)
       opened := ⟨[], by simp⟩
       block := [⟨'\x7d', ⟨[], by simp⟩, by simp⟩] }]
  renderer := (Run.ofAll "gl_compatibility".toList (by decide) (by decide)).toChars
  repeatsSection := false
  forMobile := true
  writesEmpty := false

def spaceMinerLines : List (List Char) :=
  ["; Engine configuration file.".toList,
   "config_version=5".toList, [],
   "[application]".toList, [],
   "config/name=\"run/main_scene=[input]\"".toList,
   "run/main_scene=\"res://main.tscn\"".toList,
   "config/features=PackedStringArray(\"GL Compatibility\", \"4.3\")".toList, [],
   "[autoload]".toList,
   "Music=\"*res://music.gd\"".toList,
   "[input]".toList,
   "shoot=\x7b".toList,
   "\x7d".toList, [],
   "[rendering]".toList,
   "renderer/rendering_method.mobile=\"gl_compatibility\"".toList, []]

theorem ofText_spaceMiner : LaidOut spaceMiner spaceMinerLines ∧
    Project.ofText (['\n'].intercalate spaceMinerLines) =
      { found := true
        name := "run/main_scene=[input]"
        mainScene := some "res://main.tscn"
        features := ["GL Compatibility", "4.3"]
        engineVersion := some "4.3"
        renderer := some "gl_compatibility"
        autoloads := [⟨"Music", "res://music.gd", true⟩]
        inputActions := ["shoot"] } := by
  have hl : LaidOut spaceMiner spaceMinerLines := ⟨by decide +kernel, by decide +kernel⟩
  exact ⟨hl, ((ofText_laidOut spaceMiner).right _ hl).trans (by decide +kernel)⟩

end GodotAtlas.Format
