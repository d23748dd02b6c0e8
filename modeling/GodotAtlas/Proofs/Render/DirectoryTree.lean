import GodotAtlas.Proofs.Files.Names
import GodotAtlas.Proofs.Report.Coverage
import GodotAtlas.Render.Markdown

namespace GodotAtlas.Render

open Text Files Report

inductive Shown
  | dir (names : List String)
  | file (path : String)
deriving DecidableEq

def Shown.file? : Shown → Option String
  | .dir _ => none
  | .file path => some path

def parentNames (file : String) : List String :=
  (pathNames file).dropLast

def lastName (file : String) : String :=
  (pathNames file).getLastD ""

-- A file is below a directory: it is in the directory or in one further down.
structure Encloses (d : List String) (file : String) : Prop where
  ne_nil : d ≠ []
  isPrefix : d <+: parentNames file

instance {d : List String} {file : String} : Decidable (Encloses d file) :=
  decidable_of_iff (d ≠ [] ∧ d <+: parentNames file)
    ⟨fun ⟨hn, hp⟩ => ⟨hn, hp⟩, fun ⟨hn, hp⟩ => ⟨hn, hp⟩⟩

def TreeEntry.label (e : TreeEntry) : String :=
  e.name ++ if e.isDir then "/" else ""

def directoryName? (label : String) : Option String :=
  if label.toList.getLast? = some '/' then some (String.ofList label.toList.dropLast) else none

-- Read levels and labels with a stack: a directory sets the name at its level, and a file is found
-- below the names of the levels in front of its own.
def replay (stack : List String) : List (Nat × String) → List Shown
  | [] => []
  | (level, label) :: es =>
    match directoryName? label with
    | some name => .dir (stack.take level ++ [name]) :: replay (stack.take level ++ [name]) es
    | none => .file (pathOf (stack.take level ++ [label])) :: replay stack es

-- Each file is listed, in order, and each directory that leads to one, once and in front of it.
structure Lists (shown : List Shown) (files : List String) : Prop where
  all : shown.filterMap Shown.file? = files
  once : ∀ d, ∀ f ∈ files, Encloses d f → shown.count (.dir d) = 1
  only : ∀ d, .dir d ∈ shown → ∃ f ∈ files, Encloses d f
  first : ∀ d f, Encloses d f → ¬[.file f, .dir d].Sublist shown

section

variable {n file : String} {ns : List String}

theorem pathNames_ne_nil : pathNames file ≠ [] := by
  simp [pathNames, splitAt_ne_nil]

theorem slash_not_mem_of_mem (h : n ∈ pathNames file) : '/' ∉ n.toList := by
  obtain ⟨p, hp, rfl⟩ := List.mem_map.mp h
  simpa using not_mem_of_mem_splitAt hp

theorem parentNames_append_lastName : parentNames file ++ [lastName file] = pathNames file := by
  have hl : lastName file = (pathNames file).getLast pathNames_ne_nil := by
    rw [lastName, List.getLastD_eq_getLast?, List.getLast?_eq_some_getLast pathNames_ne_nil,
      Option.getD_some]
  rw [hl, parentNames, List.dropLast_append_getLast]

theorem slash_not_mem_lastName : '/' ∉ (lastName file).toList := by
  apply slash_not_mem_of_mem
  rw [← parentNames_append_lastName]
  exact List.mem_append_right _ (List.mem_singleton_self _)

theorem pathOf_pathNames (path : String) : pathOf (pathNames path) = path := by
  apply String.toList_injective
  rw [pathOf, String.toList_intercalate, pathNames, List.map_map]
  simpa [Function.comp_def] using intercalate_splitAt

-- A directory is in front of a file in its path, with a slash behind it.
theorem prefix_parentNames_iff (hn : ns ≠ []) (hs : ∀ n ∈ ns, '/' ∉ n.toList) :
    ns <+: parentNames file ↔ (pathOf ns).toList ++ ['/'] <+: file.toList := by
  have hp : splitAt '/' (pathOf ns).toList = ns.map String.toList := by
    rw [pathOf, String.toList_intercalate]
    exact splitAt_intercalate (by simpa using hn) (by simpa using hs)
  constructor
  case mp =>
    rintro ⟨below, hb⟩
    have hl : below ++ [lastName file] ≠ [] := by simp
    have hf : pathOf (ns ++ (below ++ [lastName file])) = file := by
      rw [← List.append_assoc, hb, parentNames_append_lastName, pathOf_pathNames]
    rw [← hf, pathOf, pathOf, String.intercalate_append_of_ne_nil hn hl]
    simp
  case mpr =>
    rintro ⟨rest, hr⟩
    have hf : pathNames file = ns ++ (splitAt '/' rest).map String.ofList := by
      rw [pathNames, ← hr, List.append_assoc, List.singleton_append, splitAt_append_sep, hp,
        List.map_append, List.map_map]
      simp [Function.comp_def]
    rw [parentNames, hf, List.dropLast_append_of_ne_nil (by simpa using splitAt_ne_nil)]
    exact List.prefix_append _ _

end

theorem prefix_of_between {p x y z : List Char} (hx : p <+: x) (hz : p <+: z) (hxy : ¬y < x)
    (hyz : ¬z < y) : p <+: y := by
  induction p generalizing x y z
  case nil => exact List.nil_prefix
  case cons c p hi =>
    obtain ⟨x, rfl, hpx⟩ := List.cons_prefix_iff.mp hx
    obtain ⟨z, rfl, hpz⟩ := List.cons_prefix_iff.mp hz
    cases y
    case nil => exact absurd (List.nil_lt_cons c x) hxy
    case cons d y =>
      simp only [List.cons_lt_cons_iff, not_or, not_and] at hxy hyz
      obtain rfl : c = d := le_antisymm (not_lt.mp hxy.left) (not_lt.mp hyz.left)
      exact (List.prefix_cons_inj c).mpr (hi hpx hpz (hxy.right rfl) (hyz.right rfl))

theorem not_lt_of_isLE {x y : String} (h : (compare x y).isLE) : ¬y.toList < x.toList := by
  intro hlt
  have hc : compare y x = .lt := compareOfLessAndEq_eq_lt.mpr (String.lt_iff.mpr hlt)
  simp [Std.OrientedCmp.gt_of_lt hc] at h

theorem Encloses.between {d : List String} {f g h : String} (hf : Encloses d f) (hh : Encloses d h)
    (hfg : (compare f g).isLE) (hgh : (compare g h).isLE) : Encloses d g := by
  have hs : ∀ n ∈ d, '/' ∉ n.toList := fun n hn =>
    slash_not_mem_of_mem (List.dropLast_subset _ (hf.isPrefix.subset hn))
  have hpf := (prefix_parentNames_iff hf.ne_nil hs).mp hf.isPrefix
  have hph := (prefix_parentNames_iff hf.ne_nil hs).mp hh.isPrefix
  have hpg := prefix_of_between hpf hph (not_lt_of_isLE hfg) (not_lt_of_isLE hgh)
  exact ⟨hf.ne_nil, (prefix_parentNames_iff hf.ne_nil hs).mpr hpg⟩

-- The directories below one on the way to a file, the nearest first.
def dirsBelow (shown names : List String) : List (List String) :=
  names.dropLast.inits.tail.map (shown ++ ·)

def newDirs (seen : List (List String)) (shown names : List String) : List (List String) :=
  (dirsBelow shown names).filter (!seen.contains ·)

def dirEntry (d : List String) : TreeEntry where
  level := d.length - 1
  name := d.getLastD ""
  isDir := true

section

variable {seen : List (List String)} {shown names ns d : List String} {n m : String}

theorem dirsBelow_cons : dirsBelow shown (n :: m :: ns) =
    (shown ++ [n]) :: dirsBelow (shown ++ [n]) (m :: ns) := by
  have ⟨tail, ht⟩ : ∃ tail, (m :: ns).dropLast.inits = [] :: tail := by
    cases (m :: ns).dropLast <;> simp
  simp [dirsBelow, List.dropLast_cons_of_ne_nil, ht]

theorem mem_tail_inits {t l : List String} : t ∈ l.inits.tail ↔ t ≠ [] ∧ t <+: l := by
  cases l
  case nil => simp [and_comm]
  case cons n l => cases t <;> simp [and_comm, eq_comm]

theorem mem_dirsBelow_iff : d ∈ dirsBelow shown names ↔
    ∃ t, (t ≠ [] ∧ t <+: names.dropLast) ∧ shown ++ t = d := by
  simp only [dirsBelow, List.mem_map, mem_tail_inits]

theorem not_mem_dirsBelow : shown ∉ dirsBelow shown names := by
  simp [mem_dirsBelow_iff]

theorem mem_newDirs_iff {file : String} :
    d ∈ newDirs seen [] (pathNames file) ↔ Encloses d file ∧ d ∉ seen := by
  simp only [newDirs, List.mem_filter, mem_dirsBelow_iff, List.nil_append]
  constructor
  case mp =>
    rintro ⟨⟨t, ⟨hn, hp⟩, rfl⟩, hs⟩
    exact ⟨⟨hn, hp⟩, by simpa using hs⟩
  case mpr => exact fun ⟨⟨hn, hp⟩, hs⟩ => ⟨⟨d, ⟨hn, hp⟩, rfl⟩, by simpa using hs⟩

theorem nodup_dirsBelow : (dirsBelow shown names).Nodup := by
  have hi (l : List String) : l.inits.Nodup := by
    induction l
    case nil => simp
    case cons n l hi => simpa using hi.map (List.cons_injective)
  exact ((hi _).sublist (List.tail_sublist _)).map (List.append_right_injective shown)

theorem newDirs_of_mem (h : shown ++ [n] ∈ seen) :
    newDirs seen shown (n :: m :: ns) = newDirs seen (shown ++ [n]) (m :: ns) := by
  simp [newDirs, dirsBelow_cons, h]

theorem newDirs_of_not_mem (h : shown ++ [n] ∉ seen) : newDirs seen shown (n :: m :: ns) =
    (shown ++ [n]) :: newDirs ((shown ++ [n]) :: seen) (shown ++ [n]) (m :: ns) := by
  have hf : ∀ d ∈ dirsBelow (shown ++ [n]) (m :: ns), (!seen.contains d) =
      !((shown ++ [n]) :: seen).contains d := by
    intro d hd
    have hne : d ≠ shown ++ [n] := by
      rintro rfl
      exact not_mem_dirsBelow hd
    simp [hne]
  rw [newDirs, dirsBelow_cons, List.filter_cons_of_pos (by simpa using h), newDirs,
    List.filter_congr hf]

theorem dirEntries_eq : dirEntries seen shown names =
    ((newDirs seen shown names).map dirEntry, (newDirs seen shown names).reverse ++ seen) := by
  fun_induction dirEntries seen shown names
  case case1 => rfl
  case case2 => rfl
  case case3 h hi => rw [hi, newDirs_of_mem (by simpa using h)]
  case case4 h es seen' he hi =>
    rw [he, Prod.mk.injEq] at hi
    rw [newDirs_of_not_mem (by simpa using h), hi.left, hi.right]
    simp +zetaDelta [dirEntry]

end

-- What a listing of files ought to show, where some directories are shown already: in front of each
-- file the directories that lead to it and are not shown yet.
def listed (seen : List (List String)) : List String → List Shown
  | [] => []
  | f :: fs =>
    let ds := newDirs seen [] (pathNames f)
    ds.map .dir ++ .file f :: listed (ds.reverse ++ seen) fs

section

variable {seen : List (List String)} {files : List String} {d : List String}

theorem filterMap_listed : (listed seen files).filterMap Shown.file? = files := by
  induction files generalizing seen
  case nil => rfl
  case cons f fs hi =>
    have hd (ds : List (List String)) : (ds.map Shown.dir).filterMap Shown.file? = [] := by
      simp [List.filterMap_map, Shown.file?, Function.comp_def]
    rw [listed, List.filterMap_append, hd, List.nil_append, List.filterMap_cons, hi]
    rfl

theorem mem_seen_iff {f : String} : d ∈ (newDirs seen [] (pathNames f)).reverse ++ seen ↔
    Encloses d f ∨ d ∈ seen := by
  by_cases hs : d ∈ seen <;> simp [mem_newDirs_iff, hs]

theorem count_listed : (listed seen files).count (.dir d) =
    if d ∉ seen ∧ ∃ f ∈ files, Encloses d f then 1 else 0 := by
  induction files generalizing seen
  case nil => simp [listed]
  case cons f fs hi =>
    have hn : (newDirs seen [] (pathNames f)).Nodup := nodup_dirsBelow.filter _
    have hc : ((newDirs seen [] (pathNames f)).map Shown.dir).count (.dir d) =
        if Encloses d f ∧ d ∉ seen then 1 else 0 := by
      rw [List.count_map_of_injective _ _ (fun _ _ h => Shown.dir.inj h), hn.count]
      simp only [mem_newDirs_iff]
    rw [listed, List.count_append, hc, List.count_cons_of_ne (by simp), hi]
    by_cases hf : Encloses d f <;> simp only [mem_seen_iff] <;> simp [hf]

theorem pairwise_listed : (listed seen files).Pairwise fun a b =>
    ∀ d f, a = .file f → b = .dir d → ¬Encloses d f := by
  induction files generalizing seen
  case nil => exact .nil
  case cons f fs hi =>
    rw [listed, List.pairwise_append, List.pairwise_map, List.pairwise_cons]
    refine ⟨List.pairwise_of_forall (by simp), ⟨?_, hi⟩, by simp⟩
    rintro _ hb d _ ⟨⟩ rfl he
    have hc := List.count_pos_iff.mpr hb
    rw [count_listed, if_neg fun h => h.left (mem_seen_iff.mpr (.inl he))] at hc
    cases hc

theorem lists_listed : Lists (listed [] files) files where
  all := filterMap_listed
  once d f hf he := by rw [count_listed, if_pos ⟨List.not_mem_nil, f, hf, he⟩]
  only d hd := by
    have hc := List.count_pos_iff.mpr hd
    rw [count_listed] at hc
    by_contra hn
    simp [hn] at hc
  first d f he hs := List.pairwise_iff_forall_sublist.mp pairwise_listed hs d f rfl rfl he

end

theorem directoryName?_dir (n : String) : directoryName? (n ++ "/") = some n := by
  simp [directoryName?]

theorem directoryName?_file {n : String} (h : '/' ∉ n.toList) : directoryName? n = none := by
  have hl : n.toList.getLast? ≠ some '/' := fun he => h (List.mem_of_getLast? he)
  rw [directoryName?, if_neg hl]

def TreeEntry.pair (e : TreeEntry) : Nat × String :=
  (e.level, e.label)

theorem replay_dirEntry {stack d : List String} {n : String} (h : d <+: stack)
    (es : List (Nat × String)) : replay stack ((dirEntry (d ++ [n])).pair :: es) =
      .dir (d ++ [n]) :: replay (d ++ [n]) es := by
  have ht : stack.take d.length = d := (List.prefix_iff_eq_take.mp h).symm
  have hl : (dirEntry (d ++ [n])).pair = (d.length, n ++ "/") := by
    simp [TreeEntry.pair, TreeEntry.label, dirEntry]
  simp only [hl, replay, directoryName?_dir, ht]

theorem replay_file {stack d : List String} {n : String} (h : d <+: stack) (hn : '/' ∉ n.toList)
    (es : List (Nat × String)) :
    replay stack ((d.length, n) :: es) = .file (pathOf (d ++ [n])) :: replay stack es := by
  have ht : stack.take d.length = d := (List.prefix_iff_eq_take.mp h).symm
  simp only [replay, directoryName?_file hn, ht]

def PrefixClosed (seen : List (List String)) : Prop :=
  ∀ p ∈ seen, ∀ q, q ≠ [] → q <+: p → q ∈ seen

-- Of the directories that have been shown the stack holds those that lead to a place.
def Keeps (seen : List (List String)) (stack place : List String) : Prop :=
  ∀ p ∈ seen, p <+: place → p <+: stack

section

variable {seen : List (List String)} {stack shown names place : List String} {n : String}

theorem PrefixClosed.cons (h : PrefixClosed seen) (hs : shown = [] ∨ shown ∈ seen) :
    PrefixClosed ((shown ++ [n]) :: seen) := by
  intro p hp q hq hqp
  rcases List.mem_cons.mp hp with rfl | hp
  case inl =>
    rcases List.prefix_concat_iff.mp hqp with rfl | hqs
    case inl => exact List.mem_cons_self
    case inr =>
      rcases hs with rfl | hs
      case inl => exact absurd (List.prefix_nil.mp hqs) hq
      case inr => exact List.mem_cons_of_mem _ (h shown hs q hq hqs)
  case inr => exact List.mem_cons_of_mem _ (h p hp q hq hqp)

-- A directory that is shown for the first time has none below it that has been shown.
theorem Keeps.cons {d : List String} (h : PrefixClosed seen) (hd : d ∉ seen) (hn : d ≠ [])
    (hp : d <+: place) : Keeps (d :: seen) d place := by
  intro p hs hpp
  rcases List.mem_cons.mp hs with rfl | hs
  case inl => exact List.prefix_rfl
  case inr =>
    rcases List.prefix_or_prefix_of_prefix hpp hp with hpd | hdp
    case inl => exact hpd
    case inr => exact absurd (h p hs d hn hdp) hd

theorem Keeps.prefix_stack (h : Keeps seen stack place) (hs : shown = [] ∨ shown ∈ seen)
    (hp : shown <+: place) : shown <+: stack := by
  rcases hs with rfl | hs
  case inl => exact List.nil_prefix
  case inr => exact h shown hs hp

-- The stack holds the way to a file when the directories that lead to it have been shown.
theorem replay_newDirs (hc : PrefixClosed seen) (hs : shown = [] ∨ shown ∈ seen)
    (hn : names ≠ []) (hk : Keeps seen stack (shown ++ names).dropLast) :
    ∃ stack', (shown ++ names).dropLast <+: stack' ∧ ∀ es,
      replay stack ((newDirs seen shown names).map (fun d => (dirEntry d).pair) ++ es) =
        (newDirs seen shown names).map .dir ++ replay stack' es := by
  induction names generalizing shown seen stack
  case nil => contradiction
  case cons n ns hi =>
    have hp : shown <+: (shown ++ n :: ns).dropLast := by
      rw [List.dropLast_append_of_ne_nil (List.cons_ne_nil n ns)]
      exact List.prefix_append _ _
    cases ns
    case nil =>
      rw [List.dropLast_concat] at hk ⊢
      exact ⟨stack, hk.prefix_stack hs List.prefix_rfl, fun _ => rfl⟩
    case cons m ns =>
      have he : shown ++ n :: m :: ns = (shown ++ [n]) ++ m :: ns := by simp
      have hd : shown ++ [n] <+: (shown ++ n :: m :: ns).dropLast := by
        rw [he, List.dropLast_append_of_ne_nil (List.cons_ne_nil m ns)]
        exact List.prefix_append _ _
      by_cases hm : shown ++ [n] ∈ seen
      case pos =>
        rw [newDirs_of_mem hm, he]
        exact hi hc (.inr hm) (List.cons_ne_nil m ns) (he ▸ hk)
      case neg =>
        have hk' := Keeps.cons hc hm (by simp) hd
        obtain ⟨stack', hs', hr⟩ := hi (hc.cons hs) (.inr List.mem_cons_self)
          (List.cons_ne_nil m ns) (he ▸ hk')
        refine ⟨stack', he ▸ hs', fun es => ?_⟩
        rw [newDirs_of_not_mem hm, List.map_cons, List.cons_append,
          replay_dirEntry (hk.prefix_stack hs hp), hr]
        rfl

end

-- What must hold of the directories that have been shown for the files to come to be read aright:
-- the stack has those on the way to a file, and of the files to come those below one stand first.
structure Ready (seen : List (List String)) (stack : List String) (files : List String) : Prop where
  closed : PrefixClosed seen
  keeps : ∀ f ∈ files, Keeps seen stack (parentNames f)
  grouped : ∀ d ∈ seen, files.Pairwise fun f g => d <+: parentNames g → d <+: parentNames f

section

variable {seen : List (List String)} {stack stack' files : List String} {f : String}

theorem Ready.next (h : Ready seen stack (f :: files))
    (hs : (f :: files).Pairwise fun f g => (compare f g).isLE) (hp : parentNames f <+: stack') :
    Ready ((newDirs seen [] (pathNames f)).reverse ++ seen) stack' files where
  closed p hm q hq hqp := by
    rcases mem_seen_iff.mp hm with he | hm
    case inl => exact mem_seen_iff.mpr (.inl ⟨hq, hqp.trans he.isPrefix⟩)
    case inr => exact mem_seen_iff.mpr (.inr (h.closed p hm q hq hqp))
  keeps g hg p hm hpg := by
    rcases mem_seen_iff.mp hm with he | hm
    case inl => exact he.isPrefix.trans hp
    case inr => exact ((List.pairwise_cons.mp (h.grouped p hm)).left g hg hpg).trans hp
  grouped d hm := by
    have ⟨hf, hs⟩ := List.pairwise_cons.mp hs
    rcases mem_seen_iff.mp hm with he | hm
    case inl =>
      refine hs.imp_of_mem fun {g k} hg _ hgk hk => ?_
      exact (he.between ⟨he.ne_nil, hk⟩ (hf g hg) hgk).isPrefix
    case inr => exact (List.pairwise_cons.mp (h.grouped d hm)).right

theorem map_pair_treeEntries : (treeEntries seen (f :: files)).map TreeEntry.pair =
    (newDirs seen [] (pathNames f)).map (fun d => (dirEntry d).pair) ++
      ((parentNames f).length, lastName f) ::
        (treeEntries ((newDirs seen [] (pathNames f)).reverse ++ seen) files).map
          TreeEntry.pair := by
  rw [treeEntries, dirEntries_eq]
  simp [TreeEntry.pair, TreeEntry.label, parentNames, lastName]

-- The entries of the tree are read as what ought to be listed.
theorem replay_treeEntries (h : Ready seen stack files)
    (hs : files.Pairwise fun f g => (compare f g).isLE) :
    replay stack ((treeEntries seen files).map TreeEntry.pair) = listed seen files := by
  induction files generalizing seen stack
  case nil => rfl
  case cons f fs hi =>
    obtain ⟨stack', hp, hr⟩ := replay_newDirs h.closed (.inl rfl) pathNames_ne_nil
      (h.keeps f List.mem_cons_self)
    have hp : parentNames f <+: stack' := hp
    have hf : pathOf (parentNames f ++ [lastName f]) = f := by
      rw [parentNames_append_lastName, pathOf_pathNames]
    rw [map_pair_treeEntries, hr, replay_file hp slash_not_mem_lastName, hf,
      hi (h.next hs hp) (List.pairwise_cons.mp hs).right, listed]

end

theorem line_eq (e : TreeEntry) : e.line = indentation e.pair.1 ++ e.pair.2 := by
  simp [TreeEntry.line, TreeEntry.pair, TreeEntry.label, String.append_assoc]

-- The tree of a report is written entry by entry, and lists the files of the report.
theorem lists_treeEntries (r : GodotAtlas.Report) :
    treeSection r = ["## 2. Directory Structure", "", "```"] ++
      ((treeEntries [] r.allFiles).map TreeEntry.pair).map (fun e => indentation e.1 ++ e.2) ++
        ["```"] ∧
    Lists (replay [] ((treeEntries [] r.allFiles).map TreeEntry.pair)) r.allFiles := by
  constructor
  case left => simp [treeSection, Function.comp_def, ← line_eq]
  case right =>
    have h : Ready [] [] r.allFiles :=
      { closed := by simp [PrefixClosed], keeps := by simp [Keeps], grouped := by simp }
    rw [replay_treeEntries h (pairwise_sortStrings _)]
    exact lists_listed

def dashedReport : GodotAtlas.Report :=
  (Findings.ofSteps
    [.other "png" "a/b/x.png", .script { path := "a.gd", summary := {} } none,
     .other "png" "a/b-c.png", .scene "a/b.tscn" {}, .other "png" "a-1/y.png"]).report "" {}

def dashedFiles : List String :=
  ["a-1/y.png", "a.gd", "a/b-c.png", "a/b.tscn", "a/b/x.png"]

theorem lists_treeEntries_dashed : dashedReport.allFiles = dashedFiles ∧
    Lists (replay [] ((treeEntries [] dashedFiles).map TreeEntry.pair)) dashedFiles ∧
    replay [] ((treeEntries [] dashedFiles).map TreeEntry.pair) =
      [.dir ["a-1"], .file "a-1/y.png", .file "a.gd", .dir ["a"], .file "a/b-c.png",
       .file "a/b.tscn", .dir ["a", "b"], .file "a/b/x.png"] := by
  have hs : Ascending dashedFiles := by
    unfold Ascending
    decide +kernel
  have ha : dashedReport.allFiles = dashedFiles :=
    sortStrings_eq_of_perm (by decide +kernel) hs
  have ⟨_, hl⟩ := lists_treeEntries dashedReport
  exact ⟨ha, ha ▸ hl, by decide +kernel⟩

end GodotAtlas.Render
