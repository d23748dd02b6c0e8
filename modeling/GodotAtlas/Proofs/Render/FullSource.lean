import GodotAtlas.Proofs.Render.AssetSummary
import GodotAtlas.Proofs.Report.SourceCapture

namespace GodotAtlas.Render

open Report Files

def shownSections (ss : List (List String)) : List String :=
  (ss.map joinLines).filter (!·.isEmpty)

def textInFront (ss : List (List String)) : String :=
  String.join ((shownSections ss).map (· ++ "\n\n"))

def textBehind (ss : List (List String)) : String :=
  String.join ((shownSections ss).map ("\n\n" ++ ·))

def documentWith (inserted : String) (limits : Limits) (r : GodotAtlas.Report) : String :=
  textInFront ((sections limits r).take 10) ++ joinLines (dependencySection r) ++ inserted ++
    textBehind [warningSection r, statsSection r] ++ "\n"

def sourceText (sources : List (String × String)) : String :=
  "\n\n".intercalate (["## Full Source Code", "> Included with `--full-source`."] ++
    sources.map fun e =>
      "### `" ++ e.1 ++ "`\n```gdscript\n" ++ String.ofList (Text.trimEnd e.2.toList) ++ "\n```")

section

variable {limits : Limits} {r : GodotAtlas.Report}

theorem intercalate_around {sep s : String} {front back : List String} :
    sep.intercalate (front ++ s :: back) =
      String.join (front.map (· ++ sep)) ++ s ++ String.join (back.map (sep ++ ·)) := by
  induction front
  case nil =>
    induction back generalizing s
    case nil => simp
    case cons t back hi =>
      have hi := @hi t
      simp only [List.nil_append, List.map_nil, String.join_nil, String.empty_append] at hi
      simp [hi, String.append_assoc]
  case cons t front hi =>
    rw [List.cons_append, String.intercalate_cons_of_ne_nil (by simp), hi]
    simp [String.append_assoc]

theorem renderMarkdown_eq {front back : List (List String)} {graph : List String}
    (hs : sections limits r = front ++ graph :: back) (hg : joinLines graph ≠ "") :
    renderMarkdown limits r =
      textInFront front ++ joinLines graph ++ textBehind back ++ "\n" := by
  have hshown : ((sections limits r).map joinLines).filter (!·.isEmpty) =
      shownSections front ++ joinLines graph :: shownSections back := by
    simp [hs, shownSections, hg]
  rw [renderMarkdown, hshown, intercalate_around]
  rfl

theorem textBehind_cons {s : List String} {ss : List (List String)} :
    textBehind (s :: ss) =
      (if joinLines s = "" then "" else "\n\n" ++ joinLines s) ++ textBehind ss := by
  by_cases h : joinLines s = "" <;> simp [textBehind, shownSections, h, String.append_assoc]

theorem joinLines_append {ls ms : List String} (hl : ls ≠ []) (hm : ms ≠ []) :
    joinLines (ls ++ ms) = joinLines ls ++ "\n" ++ joinLines ms :=
  String.intercalate_append_of_ne_nil hl hm

theorem joinLines_intercalate {blocks : List (List String)} (h : ∀ b ∈ blocks, b ≠ []) :
    joinLines ([""].intercalate blocks) = "\n\n".intercalate (blocks.map joinLines) := by
  induction blocks
  case nil => rfl
  case cons b blocks hi =>
    have ⟨hb, hbs⟩ := List.forall_mem_cons.mp h
    by_cases hn : blocks = []
    case pos => simp [hn]
    case neg =>
      have hne : [""].intercalate blocks ≠ [] := by
        obtain ⟨c, cs, rfl⟩ := List.exists_cons_of_ne_nil hn
        cases cs <;> simp [(List.forall_mem_cons.mp hbs).left]
      have hempty : joinLines [""] = "" := rfl
      have htwo : "\n\n" = "\n" ++ "\n" := rfl
      rw [List.intercalate_cons_of_ne_nil hn, List.append_assoc, joinLines_append hb (by simp),
        joinLines_append (by simp) hne, hi hbs, hempty, List.map_cons,
        String.intercalate_cons_of_ne_nil (by simpa using hn), String.empty_append]
      nth_rewrite 2 [htwo]
      simp only [String.append_assoc]

-- Only the empty line behind the last block is dropped if that ends with another line.
theorem dropTrailingBlank_flatMap {blocks : List (List String)} {ls : List String} {l : String}
    (h : l ≠ "") : dropTrailingBlank ((blocks ++ [ls ++ [l]]).flatMap (· ++ [""])) =
      [""].intercalate (blocks ++ [ls ++ [l]]) := by
  have hb : (blocks ++ [ls ++ [l]]).flatMap (· ++ [""]) =
      blocks.flatMap (· ++ [""]) ++ ls ++ [l] ++ [""] := by simp
  rw [hb, dropTrailingBlank_append_blank h, intercalate_append_singleton]
  simp

def sourceBlock (e : String × String) : List String :=
  ["### `" ++ e.1 ++ "`", "```gdscript", String.ofList (Text.trimEnd e.2.toList), "```"]

def sourceBlocks (sources : List (String × String)) : List (List String) :=
  [["## Full Source Code"], ["> Included with `--full-source`."]] ++ sources.map sourceBlock

theorem sourceSection_eq (h : r.sources.entries ≠ []) :
    sourceSection r = (sourceBlocks r.sources.entries).flatMap (· ++ [""]) := by
  have hl (e : String × String) : sourceLines e.1 e.2 = sourceBlock e ++ [""] := by
    simp [sourceLines, sourceBlock]
    rfl
  simp [sourceSection, unlessEmpty, h, sourceBlocks, hl, List.flatMap_map]

theorem joinLines_sourceBlock (e : String × String) : joinLines (sourceBlock e) =
    "### `" ++ e.1 ++ "`\n```gdscript\n" ++ String.ofList (Text.trimEnd e.2.toList) ++ "\n```" := by
  apply String.toList_injective
  simp [sourceBlock, joinLines]

theorem joinLines_sourceSection (h : r.sources.entries ≠ []) :
    joinLines (dropTrailingBlank (sourceSection r)) = sourceText r.sources.entries := by
  have hd : dropTrailingBlank (sourceSection r) =
      [""].intercalate (sourceBlocks r.sources.entries) := by
    have hb : sourceBlocks r.sources.entries = sourceBlocks r.sources.entries.dropLast ++
        [(sourceBlock (r.sources.entries.getLast h)).dropLast ++ ["```"]] := by
      nth_rewrite 1 [← List.dropLast_append_getLast h]
      simp [sourceBlocks, sourceBlock]
    rw [sourceSection_eq h, hb, dropTrailingBlank_flatMap (by simp)]
  have hn : ∀ b ∈ sourceBlocks r.sources.entries, b ≠ [] := by
    intro b hb
    cases List.mem_append.mp hb
    case inl hb =>
      rintro rfl
      simp at hb
    case inr hb =>
      obtain ⟨e, _, rfl⟩ := List.mem_map.mp hb
      simp [sourceBlock]
  have hj : joinLines ∘ sourceBlock = fun e =>
      "### `" ++ e.1 ++ "`\n```gdscript\n" ++ String.ofList (Text.trimEnd e.2.toList) ++ "\n```" :=
    funext joinLines_sourceBlock
  rw [hd, joinLines_intercalate hn, sourceBlocks, sourceText, List.map_append, List.map_map, hj]
  rfl

theorem sourceText_ne_empty {sources : List (String × String)} : sourceText sources ≠ "" := by
  rw [sourceText, List.cons_append, String.intercalate_cons_of_ne_nil (by simp)]
  simp

theorem joinLines_dependencySection : joinLines (dependencySection r) ≠ "" := by
  rw [dependencySection, List.append_assoc, List.cons_append, joinLines,
    String.intercalate_cons_of_ne_nil (by simp)]
  simp

theorem renderMarkdown_sources (sources : SortedMap String String) :
    renderMarkdown limits { r with sources } = documentWith
      (if sources.entries = [] then "" else "\n\n" ++ sourceText sources.entries) limits r := by
  have hs : sections limits { r with sources } = (sections limits r).take 10 ++
      dependencySection r :: dropTrailingBlank (sourceSection { r with sources }) ::
        [warningSection r, statsSection r] := rfl
  have hb : (if joinLines (dropTrailingBlank (sourceSection { r with sources })) = "" then "" else
      "\n\n" ++ joinLines (dropTrailingBlank (sourceSection { r with sources }))) =
        if sources.entries = [] then "" else "\n\n" ++ sourceText sources.entries := by
    by_cases he : sources.entries = []
    case pos => simp [sourceSection, unlessEmpty, he, dropTrailingBlank, joinLines]
    case neg =>
      have hj : joinLines (dropTrailingBlank (sourceSection { r with sources })) =
        sourceText sources.entries := joinLines_sourceSection he
      rw [hj, if_neg sourceText_ne_empty, if_neg he]
  rw [renderMarkdown_eq hs joinLines_dependencySection, textBehind_cons, documentWith, hb]
  simp only [String.append_assoc]

variable (limits) in
theorem infix_renderMarkdown {path text : String} (h : (path, text) ∈ r.sources.entries) :
    Text.trimEnd text.toList ++ "\n```".toList <:+: (renderMarkdown limits r).toList := by
  have hr : renderMarkdown limits r =
      documentWith ("\n\n" ++ sourceText r.sources.entries) limits r := by
    have hd : renderMarkdown limits { r with sources := r.sources } = documentWith
        (if r.sources.entries = [] then "" else "\n\n" ++ sourceText r.sources.entries) limits r :=
      renderMarkdown_sources r.sources
    rwa [if_neg (List.ne_nil_of_mem h)] at hd
  obtain ⟨before, behind, he⟩ := List.append_of_mem h
  have hs : Text.trimEnd text.toList ++ "\n```".toList <:+:
      (sourceText r.sources.entries).toList := by
    rw [sourceText, he, List.map_append, List.map_cons, ← List.append_assoc, intercalate_around,
      String.toList_append, String.toList_append]
    refine List.IsInfix.trans (List.IsSuffix.isInfix ?_) (List.infix_append _ _ _)
    simp only [String.toList_append, String.toList_ofList, List.append_assoc]
    exact ((List.suffix_append _ _).trans (List.suffix_append _ _)).trans (List.suffix_append _ _)
  rw [hr, documentWith]
  simp only [String.toList_append]
  exact ((hs.trans (List.suffix_append _ _).isInfix).trans (List.infix_append _ _ _)).trans
    (List.prefix_append _ _).isInfix

-- A document is longer than any of the sources in it.
theorem renderMarkdown_ne_source {path text : String} (h : (path, text) ∈ r.sources.entries) :
    renderMarkdown limits r ≠ text := by
  obtain ⟨front, back, hr⟩ := infix_renderMarkdown limits h
  intro he
  have ht : text.toList = (front ++ Text.trimEnd text.toList ++ ['\n']) ++
      '`' :: ('`' :: '`' :: back) := by
    nth_rewrite 1 [← he, ← hr]
    simp
  have hl := congrArg (fun cs => (Text.trimEnd cs).length) ht
  simp only [Text.trimEnd_append_cons (by decide : Text.isBlank '`' = false),
    List.length_append, List.length_cons] at hl
  omega

end

-- Keeping the sources changes nothing in a report but the sources, which are then those of all
-- scripts, and nothing in a document but that they are put behind the dependency graph, if there
-- are any.
theorem scan_with_sources {fs : FileSystem} {root : String} {es : List (String × Entry)}
    (hr : fs.entry root = .ok (.dir es)) (hw : (Entry.dir es).WellFormed) (parser : Script.Parser)
    (options : ScanOptions) (hread : Readable fs options.exclusion root (.dir es)) :
    ∃ without kept, scan fs parser { options with includeSource := false } root = .ok without ∧
      scan fs parser { options with includeSource := true } root = .ok kept ∧
      AddsSources fs options.exclusion root (.dir es) without kept ∧
      ∀ limits, renderMarkdown limits without = documentWith "" limits without ∧
        renderMarkdown limits kept = documentWith (if kept.scripts.keys = [] then "" else
          "\n\n" ++ sourceText kept.sources.entries) limits without := by
  obtain ⟨without, kept, hs, hk, ha⟩ := exists_scans_addsSources hr hw parser options hread
  refine ⟨without, kept, hs, hk, ha, fun limits => ⟨?without, ?kept⟩⟩
  case without =>
    have hw : without = { without with sources := .empty } := by
      rw [← ha.without]
    nth_rewrite 1 [hw]
    exact renderMarkdown_sources .empty
  case kept =>
    have he : kept.scripts.keys = [] ↔ kept.sources.entries = [] := by
      rw [← ha.keys, SortedMap.keys, List.map_eq_nil_iff]
    simp only [he]
    nth_rewrite 1 [ha.rest]
    exact renderMarkdown_sources kept.sources

def playerEntries : List (String × Entry) :=
  [("icon.png", .file []), ("player.gd", .file (Text.encodeUtf8 "tool\n\n".toList))]

def playerSystem : FileSystem :=
  { root := .dir [("game", .dir playerEntries)] }

theorem readable_playerEntries {x : Exclusion} :
    Readable playerSystem x "game" (.dir playerEntries) := by
  refine readable_of_storable rfl (by decide) fun names hk hkind => ?_
  obtain ⟨n, ms, e, rfl, hl, he⟩ := Entry.holdsFile_dir.mp hk.file
  simp only [playerEntries, Entry.lookup_cons, List.lookup_nil] at hl
  split at hl
  case isTrue hn =>
    cases hl
    obtain ⟨rfl, _⟩ := (Entry.holdsFile_iff_of_leaf (by simp)).mp he
    subst hn
    exact absurd hkind (by decide)
  case isFalse =>
    split at hl
    case isFalse => cases hl
    case isTrue hn =>
      cases hl
      obtain ⟨rfl, _⟩ := (Entry.holdsFile_iff_of_leaf (by simp)).mp he
      subst hn
      exact ⟨⟨_, rfl⟩, by decide⟩

theorem scan_with_sources_player :
    playerSystem.entry "game" = .ok (.dir playerEntries) ∧ (Entry.dir playerEntries).WellFormed ∧
      ∃ without kept,
        scan playerSystem Script.unavailable { includeSource := false } "game" = .ok without ∧
        scan playerSystem Script.unavailable { includeSource := true } "game" = .ok kept ∧
        kept = { without with sources := kept.sources } ∧
        kept.sources.get? "player.gd" = some "tool\n\n" ∧
        renderMarkdown {} kept =
          documentWith ("\n\n" ++ sourceText kept.sources.entries) {} without := by
  have hr : playerSystem.entry "game" = .ok (.dir playerEntries) := rfl
  have hw : (Entry.dir playerEntries).WellFormed := by decide
  obtain ⟨without, kept, hs, hk, ha, hm⟩ :=
    scan_with_sources hr hw Script.unavailable {} readable_playerEntries
  have hl : Listed playerSystem ({} : ScanOptions).exclusion "game" (.dir playerEntries)
      ["player.gd"] := by
    refine ⟨⟨⟨_, rfl, rfl⟩, by simp, fun _ _ _ => rfl⟩, fun p hp hn => ?_⟩
    obtain rfl : p = [] := by simpa [List.prefix_cons_iff, hn] using hp
    decide
  have hg : kept.sources.get? "player.gd" = some "tool\n\n" :=
    (ha.texts _ _).mpr ⟨_, _, hl, rfl, by decide, by decide, by decide⟩
  have hn : kept.scripts.keys ≠ [] := by
    rw [← ha.keys]
    exact List.ne_nil_of_mem (SortedMap.mem_keys_iff.mpr ⟨_, hg⟩)
  have hd := (hm {}).right
  rw [if_neg hn] at hd
  exact ⟨hr, hw, without, kept, hs, hk, ha.rest, hg, hd⟩

end GodotAtlas.Render
