import GodotAtlas.Proofs.Text.LineStart
import GodotAtlas.Format.Project

namespace GodotAtlas.Format

open Text

def isPlain (c : Char) : Bool :=
  c != '"' && c != '\\' && c != '\n'

def isFeatureChar (c : Char) : Bool :=
  c != '"' && c != ',' && c != ')' && c != '\n'

def isPathChar (c : Char) : Bool :=
  c != '"' && c != '\n'

inductive Scheme where
  | res | uid

def Scheme.chars : Scheme → List Char
  | res => "res://".toList
  | uid => "uid://".toList

structure AutoloadEntry where
  name : Run isWord
  scheme : Scheme
  rest : Chars isPathChar
  isGlobal : Bool

structure BlockLine where
  first : Char
  rest : Chars (· != '\n')
  starts : first ∈ ['"', '\x7b', '\x7d']

-- An input action. Behind the brace that opens its value anything may stand, and on the lines below
-- whatever starts with a quote or a brace, such as the brace that closes the value.
structure ActionEntry where
  name : Run isWord
  opened : Chars (· != '\n')
  block : List BlockLine

structure ProjectSource where
  version : Run isDigit
  name : Chars isPlain
  mainScene : Chars isPlain
  features : List (Run isFeatureChar)
  autoloads : List AutoloadEntry
  actions : List ActionEntry
  renderer : Chars isPlain
  -- The key of the rendering method may repeat its section and may name a device.
  repeatsSection : Bool
  forMobile : Bool
  -- Whether the header of a section stands there even if the section has no entries.
  writesEmpty : Bool

def settingText (key value : List Char) : List Char :=
  key ++ '=' :: value

def inQuotes (cs : List Char) : List Char :=
  '"' :: (cs ++ ['"'])

def featuresText : List (Run isFeatureChar) → List Char
  | [] => []
  | [f] => inQuotes f.chars
  | f :: fs => inQuotes f.chars ++ ',' :: ' ' :: featuresText fs

def AutoloadEntry.path (a : AutoloadEntry) : List Char :=
  a.scheme.chars ++ a.rest.chars

def AutoloadEntry.line (a : AutoloadEntry) : List Char :=
  settingText a.name.chars (inQuotes ((if a.isGlobal then ['*'] else []) ++ a.path))

def BlockLine.chars (b : BlockLine) : List Char :=
  b.first :: b.rest.chars

def ActionEntry.opening (a : ActionEntry) : List Char :=
  settingText a.name.chars ('\x7b' :: a.opened.chars)

def ActionEntry.lines (a : ActionEntry) : List (List Char) :=
  a.opening :: a.block.map BlockLine.chars

def headerLine (name : String) : List Char :=
  '[' :: (name.toList ++ [']'])

def sectionLines (writesEmpty : Bool) (name : String) (entries : List (List Char)) :
    List (List Char) :=
  if entries.isEmpty && !writesEmpty then [] else headerLine name :: entries

namespace ProjectSource

variable (s : ProjectSource)

def versionLine : List Char :=
  settingText "config_version".toList s.version.chars

def nameLine : List Char :=
  settingText "config/name".toList (inQuotes s.name.chars)

def mainSceneLine : List Char :=
  settingText "run/main_scene".toList (inQuotes s.mainScene.chars)

def featuresLine : List Char :=
  settingText "config/features".toList
    ("PackedStringArray(".toList ++ (featuresText s.features ++ [')']))

def rendererKey : List Char :=
  (if s.repeatsSection then "rendering/".toList else []) ++
    ("renderer/rendering_method".toList ++ if s.forMobile then ".mobile".toList else [])

def rendererLine : List Char :=
  settingText s.rendererKey (inQuotes s.renderer.chars)

def content : List (List Char) :=
  s.versionLine ::
    (sectionLines s.writesEmpty "application" [s.nameLine, s.mainSceneLine, s.featuresLine] ++
      (sectionLines s.writesEmpty "autoload" (s.autoloads.map AutoloadEntry.line) ++
        (sectionLines s.writesEmpty "input" (s.actions.flatMap ActionEntry.lines) ++
          sectionLines s.writesEmpty "rendering" [s.rendererLine])))

end ProjectSource

def isFiller (l : List Char) : Bool :=
  l.head?.all (· == ';')

-- The lines of a project file. Empty lines and comments may stand anywhere.
structure LaidOut (s : ProjectSource) (ls : List (List Char)) : Prop where
  one_line : ∀ l ∈ ls, '\n' ∉ l
  content : ls.filter (!isFiller ·) = s.content

def VersionShaped (feature : String) : Prop :=
  ∃ major minor : Run isDigit, feature = String.ofList (major.chars ++ '.' :: minor.chars)

theorem isVersion_iff {feature : String} : isVersion feature ↔ VersionShaped feature := by
  constructor
  case mp =>
    intro h
    rw [isVersion] at h
    split at h
    case h_1 taken cs hr =>
      have ⟨major, _, hc, _⟩ := run?_eq_some_iff.mp hr
      simp only [Bool.and_eq_true, Bool.not_eq_true', List.isEmpty_eq_false_iff] at h
      exact ⟨major, .ofAll cs h.left h.right, by simp [← hc]⟩
    case h_2 => cases h
  case mpr =>
    rintro ⟨major, minor, he⟩
    have hr : run? isDigit (major.chars ++ '.' :: minor.chars) =
      some (major.chars, '.' :: minor.chars) := run?_append major (stops_cons.mpr rfl)
    simpa [isVersion, he, hr, minor.ne_nil] using minor.all

instance {feature : String} : Decidable (VersionShaped feature) :=
  decidable_of_iff _ isVersion_iff

def ProjectSource.project (s : ProjectSource) : Project where
  found := true
  name := s.name.text
  mainScene := some s.mainScene.text
  features := s.features.map Run.text
  engineVersion := (s.features.map Run.text).find? (VersionShaped ·)
  renderer := some s.renderer.text
  autoloads := s.autoloads.map fun a => ⟨a.name.text, String.ofList a.path, a.isGlobal⟩
  inputActions := s.actions.map (·.name.text)

def configVersion : Run isWord :=
  .ofAll "config_version".toList (by decide) (by decide)

theorem prefix_settingText {key value : List Char} : key <+: settingText key value :=
  List.prefix_append key _

namespace ProjectSource

variable {s : ProjectSource}

def settings (s : ProjectSource) : List (List Char) :=
  [s.nameLine, s.mainSceneLine, s.featuresLine, s.rendererLine]

theorem prefix_rendererLine : "render".toList <+: s.rendererLine := by
  rw [rendererLine, rendererKey]
  cases s.repeatsSection
  case false => exact ⟨_, rfl⟩
  case true => exact ⟨_, rfl⟩

end ProjectSource

theorem eq_of_isFiller {l : List Char} (h : isFiller l) : l = [] ∨ ∃ cs, l = ';' :: cs := by
  cases l
  case nil => exact .inl rfl
  case cons c cs =>
    have hc : c = ';' := by simpa [isFiller] using h
    exact .inr ⟨cs, by rw [hc]⟩

theorem stops_of_isFiller {p : Char → Bool} {l : List Char} (hp : p ';' = false)
    (h : isFiller l) : Stops p l := by
  rcases eq_of_isFiller h with he | ⟨cs, he⟩
  case inl => exact he ▸ stops_nil
  case inr => exact he ▸ stops_cons.mpr hp

theorem forall_mem_sectionLines {p : List Char → Prop} {we : Bool} {n : String}
    {es : List (List Char)} (hh : p (headerLine n)) (he : ∀ l ∈ es, p l) :
    ∀ l ∈ sectionLines we n es, p l := by
  rw [sectionLines]
  split
  case isTrue => simp
  case isFalse => exact List.forall_mem_cons.mpr ⟨hh, he⟩

theorem filterMap_sectionLines {α : Type} {f : List Char → Option α} {we : Bool} {n : String}
    (h : f (headerLine n) = none) (es : List (List Char)) :
    (sectionLines we n es).filterMap f = es.filterMap f := by
  rw [sectionLines]
  split
  case isTrue he =>
    simp only [Bool.and_eq_true, List.isEmpty_iff] at he
    rw [he.left]
  case isFalse => simp [h]

theorem map_trim_sectionLines {we : Bool} {n : String} {es : List (List Char)} :
    (sectionLines we n es).map trim = sectionLines we n (es.map trim) := by
  have ht : trim (headerLine n) = headerLine n := by
    apply trim_of_ends
    case hs => exact stops_cons.mpr rfl
    case he => simp [headerLine, show isBlank ']' = false from rfl]
  rw [sectionLines, sectionLines, List.isEmpty_map]
  split
  case isTrue => rfl
  case isFalse => rw [List.map_cons, ht]

theorem BlockLine.of_first {p : Char → Prop} (b : BlockLine) (hq : p '"') (ho : p '\x7b')
    (hc : p '\x7d') : p b.first := by
  have hs := b.starts
  simp only [List.mem_cons, List.not_mem_nil, or_false] at hs
  rcases hs with h | h | h
  case inl => exact h ▸ hq
  case inr.inl => exact h ▸ ho
  case inr.inr => exact h ▸ hc

theorem BlockLine.isWord_first (b : BlockLine) : isWord b.first = false :=
  b.of_first (p := fun c => isWord c = false) rfl rfl rfl

theorem BlockLine.isBlank_first (b : BlockLine) : isBlank b.first = false :=
  b.of_first (p := fun c => isBlank c = false) rfl rfl rfl

theorem forall_mem_actions {p : List Char → Prop} (action : ∀ a : ActionEntry, p a.opening)
    (block : ∀ b : BlockLine, p b.chars) (actions : List ActionEntry) :
    ∀ l ∈ actions.flatMap ActionEntry.lines, p l := by
  simp only [List.mem_flatMap]
  rintro l ⟨a, _, hl⟩
  rcases List.mem_cons.mp hl with he | hb
  case inl => exact he ▸ action a
  case inr => exact (List.forall_mem_map.mpr fun b _ => block b) l hb

theorem ProjectSource.forall_mem_content {p : List Char → Prop} {s : ProjectSource}
    (version : p s.versionLine) (header : ∀ n : String, '\n' ∉ n.toList → p (headerLine n))
    (setting : ∀ l ∈ s.settings, p l) (autoload : ∀ a : AutoloadEntry, p a.line)
    (action : ∀ a : ActionEntry, p a.opening) (block : ∀ b : BlockLine, p b.chars) :
    ∀ l ∈ s.content, p l := by
  simp only [settings, List.forall_mem_cons] at setting
  have ⟨hn, hm, hf, hr, _⟩ := setting
  simp only [content, List.forall_mem_cons, List.forall_mem_append]
  refine ⟨version, ?_, ?_, ?_, ?_⟩ <;> apply forall_mem_sectionLines (header _ (by decide))
  · simp [hn, hm, hf]
  · exact List.forall_mem_map.mpr fun a _ => autoload a
  · exact forall_mem_actions action block s.actions
  · simp [hr]

theorem LaidOut.forall_mem {p : List Char → Prop} {s : ProjectSource} {ls : List (List Char)}
    (h : LaidOut s ls) (empty : p []) (comment : ∀ cs, p (';' :: cs)) (header : ∀ cs, p ('[' :: cs))
    (setting : ∀ l ∈ s.settings, p l) (entry : ∀ (w : Run isWord) v, p (settingText w.chars v))
    (block : ∀ b : BlockLine, p b.chars) : ∀ l ∈ ls, p l := by
  have hc : ∀ l ∈ s.content, p l :=
    s.forall_mem_content (entry configVersion _) (fun _ _ => header _) setting
      (fun a => entry a.name _) (fun a => entry a.name _) block
  intro l hl
  cases hf : isFiller l
  case false =>
    have hm : l ∈ ls.filter (!isFiller ·) := List.mem_filter.mpr ⟨hl, by simp [hf]⟩
    exact hc l (h.content ▸ hm)
  case true =>
    rcases eq_of_isFiller hf with he | ⟨cs, he⟩
    case inl => exact he ▸ empty
    case inr => exact he ▸ comment cs

theorem LaidOut.stops {s : ProjectSource} {ls : List (List Char)} (h : LaidOut s ls) :
    ∀ l ∈ ls, Stops isBlank l := by
  apply h.forall_mem (p := Stops isBlank)
  case empty => exact stops_nil
  case comment => exact fun _ => stops_cons.mpr rfl
  case header => exact fun _ => stops_cons.mpr rfl
  case setting =>
    have ⟨tail, ht⟩ := s.prefix_rendererLine
    have hr : Stops isBlank s.rendererLine := ht ▸ rfl
    simp only [ProjectSource.settings, List.forall_mem_cons]
    exact ⟨rfl, rfl, rfl, hr, by simp⟩
  case entry => exact fun w v => w.stops_append (fun _ => isBlank_of_isWord) _
  case block => exact fun b => stops_cons.mpr b.isBlank_first

theorem newline_not_mem_settingText {key value : List Char} (hk : '\n' ∉ key)
    (hv : '\n' ∉ value) : '\n' ∉ settingText key value := by
  simp [settingText, hk, hv]

theorem newline_not_mem_inQuotes {cs : List Char} (h : '\n' ∉ cs) : '\n' ∉ inQuotes cs := by
  simp [inQuotes, h]

theorem not_mem_featuresText {c : Char} (hf : isFeatureChar c = false) (hq : c ≠ '"')
    (hc : c ≠ ',') (hs : c ≠ ' ') (fs : List (Run isFeatureChar)) : c ∉ featuresText fs := by
  induction fs using featuresText.induct
  case case1 => simp [featuresText]
  case case2 f => simp [featuresText, inQuotes, hq, f.not_mem hf]
  case case3 f fs hne hi =>
    rw [featuresText]
    case x_1 => exact hne
    simp [inQuotes, hq, hc, hs, f.not_mem hf, hi]

theorem ProjectSource.newline_not_mem_setting (s : ProjectSource) :
    ∀ l ∈ s.settings, '\n' ∉ l := by
  have hf := not_mem_featuresText (c := '\n') rfl (by decide) (by decide) (by decide) s.features
  have hr : '\n' ∉ s.rendererKey := by
    rw [rendererKey]
    cases s.repeatsSection <;> cases s.forMobile <;> decide
  simp only [settings, List.forall_mem_cons]
  refine ⟨?_, ?_, ?_, ?_, by simp⟩
  · exact newline_not_mem_settingText (by decide) (newline_not_mem_inQuotes (s.name.not_mem rfl))
  · exact newline_not_mem_settingText (by decide)
      (newline_not_mem_inQuotes (s.mainScene.not_mem rfl))
  · exact newline_not_mem_settingText (by decide) (by simp [hf])
  · exact newline_not_mem_settingText hr (newline_not_mem_inQuotes (s.renderer.not_mem rfl))

theorem AutoloadEntry.newline_not_mem_line (a : AutoloadEntry) : '\n' ∉ a.line := by
  have hs : '\n' ∉ a.scheme.chars := by cases a.scheme <;> decide
  have hr : '\n' ∉ a.rest.chars := a.rest.not_mem rfl
  apply newline_not_mem_settingText (a.name.not_mem rfl)
  apply newline_not_mem_inQuotes
  cases a.isGlobal <;> simp [path, hs, hr]

theorem ActionEntry.newline_not_mem_opening (a : ActionEntry) : '\n' ∉ a.opening := by
  have ho : '\n' ∉ a.opened.chars := a.opened.not_mem rfl
  exact newline_not_mem_settingText (a.name.not_mem rfl) (by simp [ho])

theorem BlockLine.newline_not_mem (b : BlockLine) : '\n' ∉ b.chars := by
  have hf : '\n' ≠ b.first :=
    b.of_first (p := ('\n' ≠ ·)) (by decide) (by decide) (by decide)
  have hr : '\n' ∉ b.rest.chars := b.rest.not_mem rfl
  simp [chars, hf, hr]

theorem isFiller_settingText (w : Run isWord) (v : List Char) :
    isFiller (settingText w.chars v) = false := by
  have ⟨c, cs, he, hc⟩ := w.exists_cons
  have hn : c ≠ ';' := by
    rintro rfl
    cases hc
  simp [settingText, he, isFiller, hn]

theorem laidOut_content (s : ProjectSource) : LaidOut s s.content where
  one_line := by
    have hv : '\n' ∉ s.version.chars := s.version.not_mem rfl
    apply s.forall_mem_content (p := ('\n' ∉ ·))
    case version => exact newline_not_mem_settingText (by decide) hv
    case header => exact fun n hn => by simp [headerLine, hn]
    case setting => exact s.newline_not_mem_setting
    case autoload => exact AutoloadEntry.newline_not_mem_line
    case action => exact ActionEntry.newline_not_mem_opening
    case block => exact BlockLine.newline_not_mem
  content := by
    have hf : ∀ l ∈ s.content, isFiller l = false := by
      apply s.forall_mem_content (p := (isFiller · = false))
      case version => rfl
      case header => exact fun _ _ => rfl
      case setting =>
        have ⟨tail, ht⟩ := s.prefix_rendererLine
        have hr : isFiller s.rendererLine = false := ht ▸ rfl
        simp only [ProjectSource.settings, List.forall_mem_cons]
        exact ⟨rfl, rfl, rfl, hr, by simp⟩
      case autoload => exact fun a => isFiller_settingText a.name _
      case action => exact fun a => isFiller_settingText a.name _
      case block =>
        intro b
        have hb : (b.first == ';') = false :=
          b.of_first (p := fun c => (c == ';') = false) rfl rfl rfl
        simpa [BlockLine.chars, isFiller] using hb
    exact List.filter_eq_self.mpr fun l hl => by simp [hf l hl]

end GodotAtlas.Format
