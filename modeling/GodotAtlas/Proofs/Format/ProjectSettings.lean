import GodotAtlas.Proofs.Format.ProjectSource

namespace GodotAtlas.Format

open Text

def assigned? {α : Type} (value? : List Char → Option (α × List Char)) (cs : List Char) :
    Option (α × List Char) :=
  (skip? ['='] (trimStart cs)).bind fun cs => value? (trimStart cs)

def setting? {α : Type} (key : String) (value? : List Char → Option (α × List Char))
    (cs : List Char) : Option (α × List Char) :=
  (skip? key.toList cs).bind (assigned? value?)

def quoted? (cs : List Char) : Option (String × List Char) :=
  (skip? ['"'] cs).bind fun cs => (until? '"' cs).map fun (t, r) => (String.ofList t, r)

def packed? (cs : List Char) : Option (List Char × List Char) :=
  (skip? "PackedStringArray(".toList cs).bind (until? ')')

def renderer? (cs : List Char) : Option (String × List Char) :=
  (skip? "renderer/rendering_method".toList ((skip? "rendering/".toList cs).getD cs)).bind
    fun cs => assigned? quoted? ((skip? ".mobile".toList cs).getD cs)

theorem anchored_setting? {α : Type} {key : String} {before : Option Char} {cs : List Char}
    {value? : List Char → Option (α × List Char)} :
    (settingAt? key before cs).bind value? = anchored (setting? key value?) before cs := by
  rw [settingAt?, anchored]
  split
  case isTrue =>
    simp only [setting?, assigned?, Option.bind_assoc, Option.bind_map]
    rfl
  case isFalse => rfl

theorem quotedLine_eq {key : String} : quotedLine key = anchored (setting? key quoted?) := by
  funext before cs
  exact anchored_setting?

theorem featureLine_eq : featureLine = anchored (setting? "config/features" packed?) := by
  funext before cs
  exact anchored_setting?

theorem rendererLine_eq : rendererLine = anchored renderer? :=
  rfl

theorem consumes_assigned? {α : Type} {value? : List Char → Option (α × List Char)}
    (h : Consumes value?) : Consumes (assigned? value?) := by
  have ht (cs : List Char) : (trimStart cs).length ≤ cs.length := List.length_dropWhile_le _ _
  exact (h.comp ht).skip.comp ht

theorem consumes_quoted? : Consumes quoted? := by
  apply Consumes.skip
  intro cs found rest h
  have ⟨⟨t, r⟩, ht, he⟩ := Option.map_eq_some_iff.mp h
  cases he
  exact consumes_until? '"' cs t rest ht

theorem length_getD_skip?_le {k cs : List Char} : ((skip? k cs).getD cs).length ≤ cs.length := by
  cases hs : skip? k cs
  case none => simp
  case some rest => simp [eq_append_of_skip? hs]

theorem consumes_renderer? : Consumes renderer? :=
  ((consumes_assigned? consumes_quoted?).comp fun _ => length_getD_skip?_le).skip.comp
    fun _ => length_getD_skip?_le

-- Every key goes on with a slash behind its first word. A line with another character there is
-- not read.
def Unkeyed (l : List Char) : Prop :=
  ∃ c, l.find? (!isWord ·) = some c ∧ c ≠ '/'

theorem skip?_of_unkeyed {k l : List Char} (hk : k.find? (!isWord ·) = some '/') (hl : Unkeyed l)
    (rest : List Char) : skip? k (l ++ rest) = none := by
  obtain ⟨c, hc, hn⟩ := hl
  cases hs : skip? k (l ++ rest)
  case none => rfl
  case some ds =>
    have hf := congrArg (List.find? (!isWord ·)) (eq_append_of_skip? hs)
    rw [List.find?_append, List.find?_append, hc, hk] at hf
    exact absurd (Option.some.inj hf) hn

theorem skip?_of_clash {k front l : List Char} (hf : front <+: l)
    (hc : ¬front <+: k ∧ ¬k <+: front) (rest : List Char) : skip? k (l ++ rest) = none := by
  cases hs : skip? k (l ++ rest)
  case none => rfl
  case some ds =>
    have hk : k <+: l ++ rest := ⟨ds, (eq_append_of_skip? hs).symm⟩
    have hl : front <+: l ++ rest := hf.trans (List.prefix_append l rest)
    exact ((List.prefix_or_prefix_of_prefix hl hk).elim hc.left hc.right).elim

section

variable {α : Type} {key : String} {value? : List Char → Option (α × List Char)}
  {found : Option α} {l v : List Char}

theorem reads_setting?_of_none (h : ∀ rest, skip? key.toList (l ++ rest) = none) :
    Reads (setting? key value?) l none := by
  intro rest
  rw [setting?, h]
  rfl

theorem reads_setting?_of_clash {front : List Char} (hf : front <+: l)
    (hc : ¬front <+: key.toList ∧ ¬key.toList <+: front) : Reads (setting? key value?) l none :=
  reads_setting?_of_none (skip?_of_clash hf hc)

theorem reads_renderer?_of_none (hs : ∀ rest, skip? "rendering/".toList (l ++ rest) = none)
    (hr : ∀ rest, skip? "renderer/rendering_method".toList (l ++ rest) = none) :
    Reads renderer? l none := by
  intro rest
  rw [renderer?, hs, Option.getD_none, hr]
  rfl

theorem reads_assigned? {c : Char} (hc : isBlank c = false) (h : Reads value? (c :: v) found) :
    Reads (assigned? value?) ('=' :: c :: v) found := by
  intro rest
  have ht : trimStart (c :: v ++ rest) = c :: v ++ rest :=
    trimStart_of_stops (stops_cons.mpr hc)
  have he : skip? ['='] (trimStart ('=' :: c :: v ++ rest)) = some (c :: v ++ rest) := rfl
  rw [assigned?, he, Option.bind_some, ht]
  exact h rest

theorem reads_setting? {c : Char} (hc : isBlank c = false) (h : Reads value? (c :: v) found) :
    Reads (setting? key value?) (settingText key.toList (c :: v)) found :=
  (reads_assigned? hc h).skip

theorem reads_quoted? {cs : List Char} (h : '"' ∉ cs) :
    Reads quoted? (inQuotes cs) (some (String.ofList cs)) := by
  intro rest
  have hs : skip? ['"'] (inQuotes cs ++ rest) = some (cs ++ '"' :: rest) := by
    simp [inQuotes, skip?]
  rw [quoted?, hs, Option.bind_some, until?_append h]
  rfl

theorem reads_packed? {cs : List Char} (h : ')' ∉ cs) :
    Reads packed? ("PackedStringArray(".toList ++ (cs ++ [')'])) (some cs) := by
  refine Reads.skip fun rest => ?_
  rw [List.append_assoc]
  exact until?_append h

end

namespace ProjectSource

variable {s : ProjectSource}

theorem reads_nameLine : Reads (setting? "config/name" quoted?) s.nameLine (some s.name.text) :=
  reads_setting? rfl (reads_quoted? (s.name.not_mem rfl))

theorem reads_mainSceneLine :
    Reads (setting? "run/main_scene" quoted?) s.mainSceneLine (some s.mainScene.text) :=
  reads_setting? rfl (reads_quoted? (s.mainScene.not_mem rfl))

theorem reads_rendererLine : Reads renderer? s.rendererLine (some s.renderer.text) := by
  intro rest
  have hm (cs : List Char) : skip? ".mobile".toList ('=' :: cs) = none := rfl
  have hr (cs : List Char) :
      skip? "rendering/".toList ("renderer/rendering_method".toList ++ cs) = none :=
    skip?_of_clash (List.prefix_refl _) (by decide) cs
  simp only [rendererLine, rendererKey, settingText, List.append_assoc, List.cons_append]
  rw [renderer?, getD_skip?_optional (hr _), skip?_append, Option.bind_some,
    getD_skip?_optional (hm _)]
  exact reads_assigned? rfl (reads_quoted? (s.renderer.not_mem rfl)) rest

end ProjectSource

theorem stripEnds_inQuotes {p : Char → Bool} (hp : ∀ c, p c → (c == '"') = false) (r : Run p) :
    stripEnds (· == '"') (inQuotes r.chars) = r.chars := by
  have hs := r.stops_append (q := (· == '"')) hp ['"']
  have he := r.reverse.stops_append (q := (· == '"')) hp []
  rw [List.append_nil] at he
  simp only [stripEnds, inQuotes, List.dropWhile_cons, beq_self_eq_true, if_true,
    dropWhile_of_stops hs, List.reverse_append, List.reverse_singleton, List.singleton_append]
  exact (congrArg List.reverse (dropWhile_of_stops he)).trans (List.reverse_reverse _)

theorem trim_inQuotes {cs : List Char} : trim (inQuotes cs) = inQuotes cs := by
  apply trim_of_ends
  case hs => exact stops_cons.mpr rfl
  case he => simp [inQuotes, show isBlank '"' = false from rfl]

theorem splitFeatures_written (fs : List (Run isFeatureChar)) :
    splitFeatures (featuresText fs) = fs.map Run.text := by
  have hp (c : Char) (h : isFeatureChar c) : (c == '"') = false := by
    simp only [isFeatureChar, Bool.and_eq_true, bne_iff_ne] at h
    simp [h]
  have hn (f : Run isFeatureChar) : ',' ∉ inQuotes f.chars := by
    simp [inQuotes, f.not_mem (c := ',') rfl]
  induction fs using featuresText.induct
  case case1 => rfl
  case case2 f =>
    simp [splitFeatures, featuresText, splitAt_of_not_mem (hn f), trim_inQuotes,
      stripEnds_inQuotes hp, f.ne_nil, Run.text]
  case case3 f fs hne hi =>
    have hm (cs : List Char) : splitFeatures cs =
        ((((splitAt ',' cs).map trim).map (stripEnds (· == '"'))).filter (!·.isEmpty)).map
          String.ofList := by
      simp [splitFeatures, Function.comp_def]
    rw [featuresText]
    case x_1 => exact hne
    rw [hm] at hi ⊢
    rw [splitAt_append (hn f), List.map_cons, map_trim_splitAt_space (by decide)]
    simpa [trim_inQuotes, stripEnds_inQuotes hp, f.ne_nil, Run.text] using hi

theorem ProjectSource.reads_featuresLine {s : ProjectSource} :
    Reads (setting? "config/features" packed?) s.featuresLine (some (featuresText s.features)) := by
  have hn := not_mem_featuresText (c := ')') rfl (by decide) (by decide) (by decide) s.features
  exact reads_setting? rfl (reads_packed? hn)

structure ReadsSettings {α : Type} (read? : List Char → Option (α × List Char)) (s : ProjectSource)
    (found : List (Option α)) : Prop where
  consumes : Consumes read?
  unkeyed : ∀ l, Unkeyed l → Reads read? l none
  settings : List.Forall₂ (Reads read?) s.settings found

section

variable {s : ProjectSource} {α : Type} {key : String}
  {value? : List Char → Option (α × List Char)} {found : List (Option α)}

theorem readsSettings_setting? (hc : Consumes value?)
    (hk : key.toList.find? (!isWord ·) = some '/')
    (hs : List.Forall₂ (Reads (setting? key value?)) s.settings found) :
    ReadsSettings (setting? key value?) s found where
  consumes := (consumes_assigned? hc).skip
  unkeyed _ hl := reads_setting?_of_none (skip?_of_unkeyed hk hl)
  settings := hs

theorem readsSettings_name :
    ReadsSettings (setting? "config/name" quoted?) s [some s.name.text, none, none, none] := by
  apply readsSettings_setting? consumes_quoted? (by decide)
  refine .cons s.reads_nameLine (.cons ?mainScene (.cons ?features (.cons ?renderer .nil)))
  case mainScene => exact reads_setting?_of_clash prefix_settingText (by decide)
  case features => exact reads_setting?_of_clash prefix_settingText (by decide)
  case renderer => exact reads_setting?_of_clash s.prefix_rendererLine (by decide)

theorem readsSettings_mainScene :
    ReadsSettings (setting? "run/main_scene" quoted?) s
      [none, some s.mainScene.text, none, none] := by
  apply readsSettings_setting? consumes_quoted? (by decide)
  refine .cons ?name (.cons s.reads_mainSceneLine (.cons ?features (.cons ?renderer .nil)))
  case name => exact reads_setting?_of_clash prefix_settingText (by decide)
  case features => exact reads_setting?_of_clash prefix_settingText (by decide)
  case renderer => exact reads_setting?_of_clash s.prefix_rendererLine (by decide)

theorem readsSettings_features :
    ReadsSettings (setting? "config/features" packed?) s
      [none, none, some (featuresText s.features), none] := by
  apply readsSettings_setting? (consumes_until? ')').skip (by decide)
  refine .cons ?name (.cons ?mainScene (.cons s.reads_featuresLine (.cons ?renderer .nil)))
  case name => exact reads_setting?_of_clash prefix_settingText (by decide)
  case mainScene => exact reads_setting?_of_clash prefix_settingText (by decide)
  case renderer => exact reads_setting?_of_clash s.prefix_rendererLine (by decide)

theorem readsSettings_renderer :
    ReadsSettings renderer? s [none, none, none, some s.renderer.text] where
  consumes := consumes_renderer?
  unkeyed l hl :=
    reads_renderer?_of_none (skip?_of_unkeyed (by decide) hl) (skip?_of_unkeyed (by decide) hl)
  settings := by
    have hc {k v : List Char} (h : ∀ key ∈ ["rendering/", "renderer/rendering_method"],
        ¬k <+: key.toList ∧ ¬key.toList <+: k) : Reads renderer? (settingText k v) none :=
      reads_renderer?_of_none (skip?_of_clash prefix_settingText (h _ (by simp)))
        (skip?_of_clash prefix_settingText (h _ (by simp)))
    exact .cons (hc (by decide)) (.cons (hc (by decide)) (.cons (hc (by decide))
      (.cons s.reads_rendererLine .nil)))

end

theorem unkeyed_cons {c : Char} (hw : isWord c = false) (hc : c ≠ '/') (l : List Char) :
    Unkeyed (c :: l) :=
  ⟨c, by simp [hw], hc⟩

theorem unkeyed_settingText (w : Run isWord) (value : List Char) :
    Unkeyed (settingText w.chars value) := by
  have hw : w.chars.find? (!isWord ·) = none := by simpa using w.all
  have he : isWord '=' = false := rfl
  exact ⟨'=', by simp [settingText, hw, he], by decide⟩

theorem BlockLine.unkeyed (b : BlockLine) : Unkeyed b.chars :=
  unkeyed_cons b.isWord_first (b.of_first (p := (· ≠ '/')) (by decide) (by decide) (by decide)) _

theorem ProjectSource.filterMap_content {α : Type} {f : List Char → Option α}
    (hf : ∀ l, Unkeyed l → f l = none) (s : ProjectSource) :
    s.content.filterMap f = s.settings.filterMap f := by
  have hv : f s.versionLine = none :=
    hf _ (unkeyed_settingText configVersion _)
  have hh (n : String) : f (headerLine n) = none :=
    hf _ (unkeyed_cons rfl (by decide) _)
  have ha : (s.autoloads.map AutoloadEntry.line).filterMap f = [] := by
    simp only [List.filterMap_eq_nil_iff, List.forall_mem_map]
    exact fun a _ => hf _ (unkeyed_settingText _ _)
  have hi : (s.actions.flatMap ActionEntry.lines).filterMap f = [] := by
    rw [List.filterMap_eq_nil_iff]
    exact forall_mem_actions (fun a => hf _ (unkeyed_settingText a.name _))
      (fun b => hf _ b.unkeyed) s.actions
  rw [content, List.filterMap_cons_none hv]
  simp only [List.filterMap_append, filterMap_sectionLines (hh _), ha, hi, List.nil_append]
  rw [← List.filterMap_append]
  rfl

namespace LaidOut

variable {s : ProjectSource} {ls : List (List Char)} (h : LaidOut s ls)
include h

theorem setting_or_unkeyed : ∀ l ∈ ls, l ≠ [] → l ∈ s.settings ∨ Unkeyed l := by
  apply h.forall_mem (p := fun l => l ≠ [] → l ∈ s.settings ∨ Unkeyed l)
  case empty => exact fun hn => absurd rfl hn
  case comment => exact fun cs _ => .inr (unkeyed_cons rfl (by decide) cs)
  case header => exact fun cs _ => .inr (unkeyed_cons rfl (by decide) cs)
  case setting => exact fun _ hl _ => .inl hl
  case entry => exact fun w v _ => .inr (unkeyed_settingText w v)
  case block => exact fun b _ => .inr b.unkeyed

theorem filterMap_eq {α : Type} {f : List Char → Option α} (hn : f [] = none)
    (hf : ∀ l, Unkeyed l → f l = none) : ls.filterMap f = s.settings.filterMap f := by
  rw [← s.filterMap_content hf, ← h.content, List.filterMap_filter]
  congr 1
  funext l
  cases hl : isFiller l
  case false => rfl
  case true =>
    rcases eq_of_isFiller hl with he | ⟨cs, he⟩
    case inl => exact he ▸ hn
    case inr => exact he ▸ hf _ (unkeyed_cons rfl (by decide) cs)

-- The whole text is searched, and each setting is found on its own line.
theorem all_eq {α : Type} {read? : List Char → Option (α × List Char)} {found : List (Option α)}
    (hr : ReadsSettings read? s found) :
    (anchored read?).all (['\n'].intercalate ls) = found.reduceOption := by
  have ⟨he, hf⟩ := forall₂_reads hr.settings
  have ha : ∀ l ∈ ls, ReadAlone read? l := by
    intro l hl
    refine ⟨h.one_line l hl, h.stops l hl, fun hn => ?_⟩
    rcases h.setting_or_unkeyed l hl hn with hs | hu
    case inl => exact he l hs
    case inr => exact (hr.unkeyed l hu).enclosed
  have hn : (read? []).map (·.1) = none := by rw [hr.consumes.nil, Option.map_none]
  rw [all_anchored hr.consumes ha, h.filterMap_eq hn fun l hu => (hr.unkeyed l hu).map_eq, hf]

theorem find?_eq {α : Type} {read? : List Char → Option (α × List Char)}
    {found : List (Option α)} (hr : ReadsSettings read? s found) :
    (anchored read?).find? (['\n'].intercalate ls) = found.reduceOption.head? := by
  rw [find?_anchored hr.consumes, h.all_eq hr]

end LaidOut

end GodotAtlas.Format
