import GodotAtlas.Proofs.Files.Names
import GodotAtlas.Proofs.Text.ByteOrder

namespace GodotAtlas.Files

open Text

-- A file stands where some names lead.
def Entry.HoldsFile (e : Entry) (names : List String) : Prop :=
  ∃ f, e.at? names = some f ∧ f.isFile

-- The walk comes by a file below an entry: `front` leads from the root to the entry, and `names`
-- from there to the file.
structure Passed (fs : FileSystem) (x : Exclusion) (root : String) (front names : List String) :
    Prop where
  dirs : ∀ n ∈ names.dropLast, n ∉ x.dirs
  paths : ∀ p, p <+: names → p ≠ [] → x.paths (pathOf (front ++ p)) = false
  opens : ∀ p, p <+: names → p ≠ names → (fs.readDir (walked root (front ++ p))).toBool

section

variable {fs : FileSystem} {x : Exclusion} {root n path relative : String} {e f : Entry}
  {front ns : List String} {es : List (String × Entry)}

theorem Passed.nil : Passed fs x root front [] where
  dirs := by simp
  paths := by simp +contextual
  opens := by simp +contextual

theorem Passed.cons_iff : Passed fs x root front (n :: ns) ↔
    (fs.readDir (walked root front)).toBool ∧ (ns ≠ [] → n ∉ x.dirs) ∧
      x.paths (pathOf (front ++ [n])) = false ∧ Passed fs x root (front ++ [n]) ns := by
  constructor
  case mp =>
    rintro ⟨hd, hp, ho⟩
    refine ⟨by simpa using ho [] (by simp) (by simp), ?_, hp [n] (by simp) (by simp), ?_, ?_, ?_⟩
    · intro hn
      exact hd n (by simp [List.dropLast_cons_of_ne_nil hn])
    · intro m hm
      have hn : ns ≠ [] := by rintro rfl; simp at hm
      exact hd m (by simp [List.dropLast_cons_of_ne_nil hn, hm])
    · intro p hpn _
      simpa using hp (n :: p) (by simpa using hpn) (by simp)
    · intro p hpn hne
      simpa using ho (n :: p) (by simpa using hpn) (by simpa using hne)
  case mpr =>
    rintro ⟨ho, hn, hp, hk⟩
    constructor
    case dirs =>
      intro m hm
      cases ns
      case nil => simp at hm
      case cons k ks =>
        rw [List.dropLast_cons_of_ne_nil (by simp), List.mem_cons] at hm
        cases hm
        case inl h => exact h ▸ hn (by simp)
        case inr h => exact hk.dirs m h
    case paths =>
      intro p hpn hne
      cases p
      case nil => contradiction
      case cons k p =>
        have ⟨he, hpre⟩ := List.cons_prefix_cons.mp hpn
        subst he
        by_cases hp' : p = []
        case pos => simpa [hp'] using hp
        case neg => simpa using hk.paths p hpre hp'
    case opens =>
      intro p hpn hne
      cases p
      case nil => simpa using ho
      case cons k p =>
        have ⟨he, hpre⟩ := List.cons_prefix_cons.mp hpn
        subst he
        simpa using hk.opens p hpre (by simpa using hne)

theorem Entry.holdsFile_iff_of_leaf (h : ∀ es, e ≠ .dir es) :
    e.HoldsFile ns ↔ ns = [] ∧ e.isFile := by
  cases ns
  case nil => simp [HoldsFile, at?]
  case cons =>
    cases e
    case dir es => exact absurd rfl (h es)
    all_goals simp [HoldsFile, at?, child?, entries]

theorem Entry.holdsFile_dir : (dir es).HoldsFile ns ↔
    ∃ n ms e, ns = n :: ms ∧ es.lookup n = some e ∧ e.HoldsFile ms := by
  cases ns
  case nil => simp [HoldsFile, at?, isFile]
  case cons n ms =>
    constructor
    case mp =>
      rintro ⟨f, ha, hf⟩
      obtain ⟨e, hl, ha⟩ := Option.bind_eq_some_iff.mp ha
      exact ⟨n, ms, e, rfl, hl, f, ha, hf⟩
    case mpr =>
      rintro ⟨_, _, e, ⟨⟩, hl, f, ha, hf⟩
      exact ⟨f, by simp [at?, child?, entries, hl, ha], hf⟩

theorem Entry.HoldsFile.isDir_iff (h : e.HoldsFile ns) : e.isDir ↔ ns ≠ [] := by
  obtain ⟨f, ha, hf⟩ := h
  cases ns
  case nil =>
    cases ha
    cases e <;> simp_all [isDir, isFile]
  case cons =>
    cases e
    case dir => simp [isDir]
    all_goals simp [at?, child?, entries] at ha

theorem covers_eq_false_iff (h : e.HoldsFile ns) :
    x.covers n path e = false ↔ (ns ≠ [] → n ∉ x.dirs) ∧ x.paths path = false := by
  have hd := h.isDir_iff
  by_cases hn : ns = [] <;> simp_all [Exclusion.covers]

theorem filesAt_leaf (h : ∀ es, e ≠ .dir es) : filesAt fs x path relative e =
    if e.isFile then [{ path, relative, kind := .ofPath relative }] else [] := by
  cases e
  case dir es => exact absurd rfl (h es)
  case locked isDirectory _ => cases isDirectory <;> rfl
  all_goals rfl

end

theorem lookup_eq_some_iff_mem {es : List (String × Entry)} {n : String} {e : Entry}
    (h : (es.map (·.1)).Nodup) : es.lookup n = some e ↔ (n, e) ∈ es := by
  induction es
  case nil => simp
  case cons f es hi =>
    obtain ⟨m, f⟩ := f
    have ⟨hm, hd⟩ := List.nodup_cons.mp h
    by_cases hn : n = m
    case pos =>
      have hf : (n, e) ∉ es := fun he => hm (List.mem_map.mpr ⟨_, he, hn⟩)
      subst hn
      simp [hf, eq_comm]
    case neg =>
      have hb : (n == m) = false := by simpa using hn
      simp [List.lookup_cons, hb, hn, hi hd]

theorem validNames_of_at? {e f : Entry} {ns : List String} (hw : e.WellFormed)
    (h : e.at? ns = some f) : ValidNames ns := by
  induction ns generalizing e
  case nil => simp [ValidNames]
  case cons n ns hi =>
    have ⟨g, hl, ha⟩ := Option.bind_eq_some_iff.mp h
    cases hw
    case dir es hd hn hw =>
      have hm := (lookup_eq_some_iff_mem hd).mp hl
      intro m hm'
      cases hm'
      case head => exact hn _ hm
      case tail hm' => exact hi (hw _ hm) ha m hm'
    all_goals simp [Entry.child?, Entry.entries] at hl

section

variable {e : Entry} {ns ms : List String}

theorem Entry.HoldsFile.validNames (h : e.HoldsFile ns) (hw : e.WellFormed) : ValidNames ns := by
  obtain ⟨f, ha, _⟩ := h
  exact validNames_of_at? hw ha

theorem Entry.HoldsFile.ne_nil {es : List (String × Entry)} (h : (dir es).HoldsFile ns) :
    ns ≠ [] := by
  rintro rfl
  obtain ⟨f, ha, hf⟩ := h
  cases ha
  cases hf

theorem Entry.HoldsFile.eq_of_pathOf_eq {es : List (String × Entry)} (h : (dir es).HoldsFile ns)
    (hw : (dir es).WellFormed) (h' : (dir es).HoldsFile ms) (hp : pathOf ns = pathOf ms) :
    ns = ms :=
  pathOf_injective h.ne_nil h'.ne_nil (h.validNames hw) (h'.validNames hw) hp

end

def fileAt (root : String) (names : List String) : ProjectFile :=
  { path := walked root names, relative := pathOf names, kind := .ofPath (pathOf names) }

section

variable {fs : FileSystem} {x : Exclusion} {root : String} {f : ProjectFile}

theorem mem_filesAt_leaf {e : Entry} {front : List String} (h : ∀ es, e ≠ .dir es) :
    f ∈ filesAt fs x (walked root front) (pathOf front) e ↔
      ∃ ns, f = fileAt root (front ++ ns) ∧ e.HoldsFile ns ∧ Passed fs x root front ns := by
  rw [filesAt_leaf h]
  constructor
  case mp =>
    intro hf
    split at hf
    case isTrue he =>
      have hn : e.HoldsFile [] := (Entry.holdsFile_iff_of_leaf h).mpr ⟨rfl, he⟩
      exact ⟨[], by simpa [fileAt] using hf, hn, .nil⟩
    case isFalse => cases hf
  case mpr =>
    rintro ⟨ns, hf, hn, _⟩
    obtain ⟨rfl, he⟩ := (Entry.holdsFile_iff_of_leaf h).mp hn
    simp [he, hf, fileAt]

mutual

theorem mem_filesAt {front : List String} (hv : ValidNames front) : (e : Entry) → e.WellFormed →
    (f ∈ filesAt fs x (walked root front) (pathOf front) e ↔
      ∃ ns, f = fileAt root (front ++ ns) ∧ e.HoldsFile ns ∧ Passed fs x root front ns)
  | .file _, _ | .link _, _ | .device, _ | .locked _ _, _ => mem_filesAt_leaf (by simp)
  | .dir es, .dir hd hn hw => by
    rw [filesAt]
    constructor
    case mp =>
      intro h
      split at h
      case isFalse => cases h
      case isTrue ho =>
        obtain ⟨n, e, ns, hm, hf, he, hnd, hnp, hk⟩ := (mem_filesIn hv es hn hw).mp h
        have hl := (lookup_eq_some_iff_mem hd).mpr hm
        exact ⟨n :: ns, hf, Entry.holdsFile_dir.mpr ⟨n, ns, e, rfl, hl, he⟩,
          Passed.cons_iff.mpr ⟨ho, hnd, hnp, hk⟩⟩
    case mpr =>
      rintro ⟨ns, hf, he, hk⟩
      obtain ⟨n, ns, e, rfl, hl, he⟩ := Entry.holdsFile_dir.mp he
      obtain ⟨ho, hnd, hnp, hk⟩ := Passed.cons_iff.mp hk
      rw [if_pos ho]
      exact (mem_filesIn hv es hn hw).mpr
        ⟨n, e, ns, (lookup_eq_some_iff_mem hd).mp hl, hf, he, hnd, hnp, hk⟩

theorem mem_filesIn {front : List String} (hv : ValidNames front) : (es : List (String × Entry)) →
    (∀ e ∈ es, ValidName e.1) → (∀ e ∈ es, e.2.WellFormed) →
    (f ∈ filesIn fs x (walked root front) (pathOf front) es ↔
      ∃ n e ns, (n, e) ∈ es ∧ f = fileAt root (front ++ n :: ns) ∧ e.HoldsFile ns ∧
        (ns ≠ [] → n ∉ x.dirs) ∧ x.paths (pathOf (front ++ [n])) = false ∧
        Passed fs x root (front ++ [n]) ns)
  | [], _, _ => by simp [filesIn]
  | (n, e) :: es, hn, hw => by
    have hvn : ValidName n := hn (n, e) List.mem_cons_self
    have hv' : ValidNames (front ++ [n]) := hv.append (by simpa [ValidNames] using hvn)
    have hi := mem_filesIn hv es
      (fun e he => hn e (List.mem_cons_of_mem _ he)) (fun e he => hw e (List.mem_cons_of_mem _ he))
    have ha := mem_filesAt hv' e (hw (n, e) List.mem_cons_self)
    rw [filesIn, List.mem_append, hi, below_pathOf hv, ← walked_concat]
    constructor
    case mp =>
      intro h
      cases h
      case inl h =>
        split at h
        case isTrue => cases h
        case isFalse hc =>
          -- What is found below the entry keeps its names; the entry itself is one more.
          obtain ⟨ns, hf, he, hk⟩ := ha.mp h
          obtain ⟨hd, hx⟩ := (covers_eq_false_iff he).mp (Bool.eq_false_iff.mpr hc)
          exact ⟨n, e, ns, List.mem_cons_self, by simpa using hf, he, hd, hx, hk⟩
      case inr h =>
        obtain ⟨m, g, ns, hm, h⟩ := h
        exact ⟨m, g, ns, List.mem_cons_of_mem _ hm, h⟩
    case mpr =>
      rintro ⟨m, g, ns, hm, hf, he, hd, hx, hk⟩
      cases hm
      case head =>
        refine .inl ?_
        rw [(covers_eq_false_iff he).mpr ⟨hd, hx⟩, if_neg (by simp)]
        exact ha.mpr ⟨ns, by simpa using hf, he, hk⟩
      case tail hm => exact .inr ⟨m, g, ns, hm, hf, he, hd, hx, hk⟩

end

end

section

variable {fs : FileSystem} {x : Exclusion} {root : String} {front : List String}

theorem nodup_filesAt_leaf {path relative : String} {e : Entry} (h : ∀ es, e ≠ .dir es) :
    ((filesAt fs x path relative e).map (·.relative)).Nodup := by
  rw [filesAt_leaf h]
  split <;> simp

mutual

theorem nodup_filesAt {front : List String} (hv : ValidNames front) : (e : Entry) →
    e.WellFormed → ((filesAt fs x (walked root front) (pathOf front) e).map (·.relative)).Nodup
  | .file _, _ | .link _, _ | .device, _ | .locked _ _, _ => nodup_filesAt_leaf (by simp)
  | .dir es, .dir hd hn hw => by
    rw [filesAt]
    split
    case isTrue => exact nodup_filesIn hv es hd hn hw
    case isFalse => simp

theorem nodup_filesIn {front : List String} (hv : ValidNames front) :
    (es : List (String × Entry)) → (es.map (·.1)).Nodup → (∀ e ∈ es, ValidName e.1) →
    (∀ e ∈ es, e.2.WellFormed) →
    ((filesIn fs x (walked root front) (pathOf front) es).map (·.relative)).Nodup
  | [], _, _, _ => by simp [filesIn]
  | (n, e) :: es, hd, hn, hw => by
    obtain ⟨hne, hd⟩ := List.nodup_cons.mp hd
    have hvn : ValidName n := hn (n, e) List.mem_cons_self
    have hv' : ValidNames (front ++ [n]) := hv.append (by simpa [ValidNames] using hvn)
    have hn' := fun f hf => hn f (List.mem_cons_of_mem _ hf)
    have hw' := fun f hf => hw f (List.mem_cons_of_mem _ hf)
    have hwe := hw (n, e) List.mem_cons_self
    rw [filesIn, below_pathOf hv, ← walked_concat, List.map_append, List.nodup_append]
    refine ⟨?_, nodup_filesIn hv es hd hn' hw', ?_⟩
    · split
      case isTrue => simp
      case isFalse => exact nodup_filesAt hv' e hwe
    · intro p hp q hq hpq
      split at hp
      case isTrue => simp at hp
      case isFalse =>
        obtain ⟨f, hf, rfl⟩ := List.mem_map.mp hp
        obtain ⟨g, hg, rfl⟩ := List.mem_map.mp hq
        obtain ⟨ns, rfl, ha, _⟩ := (mem_filesAt hv' e hwe).mp hf
        obtain ⟨m, h, ms, hm, rfl, hb, _⟩ := (mem_filesIn hv es hn' hw').mp hg
        -- Behind `front` the two paths would have to go on with the same name.
        have hvs := hv'.append (ha.validNames hwe)
        have hvm : ValidNames [m] := by simpa [ValidNames] using hn' _ hm
        have hvt := (hv.append hvm).append (hb.validNames (hw' _ hm))
        have hpath : pathOf (front ++ [n] ++ ns) = pathOf (front ++ [m] ++ ms) := by
          simpa [fileAt] using hpq
        have hnames := pathOf_injective (by simp) (by simp) hvs hvt hpath
        simp only [List.append_assoc, List.append_cancel_left_eq, List.cons_append, List.nil_append,
          List.cons.injEq] at hnames
        exact hne (List.mem_map.mpr ⟨_, hm, hnames.left.symm⟩)

end

end

-- A file of a tree that no exclusion cuts off: a directory is left out by its name or by its path,
-- the file itself only by its path, and the root not at all.
structure Kept (x : Exclusion) (tree : Entry) (names : List String) : Prop where
  file : tree.HoldsFile names
  dirs : ∀ n ∈ names.dropLast, n ∉ x.dirs
  paths : ∀ p, p <+: names → p ≠ [] → x.paths (pathOf p) = false

-- Moreover the walk can open each directory on the way by its path.
structure Listed (fs : FileSystem) (x : Exclusion) (root : String) (tree : Entry)
    (names : List String) : Prop extends Kept x tree names where
  opens : ∀ p, p <+: names → p ≠ names → (fs.readDir (walked root p)).toBool

def listing (fs : FileSystem) (x : Exclusion) (root : String) (es : List (String × Entry)) :
    List ProjectFile :=
  (filesIn fs x root "" es).mergeSort pathLe

section

variable {fs : FileSystem} {x : Exclusion} {root : String} {es : List (String × Entry)}
  (h : fs.entry root = .ok (.dir es))
include h

theorem readDir_eq : fs.readDir root = .ok es := by
  simp only [FileSystem.readDir, h]
  rfl

theorem listFiles_eq : listFiles x root fs = .ok (listing fs x root es) := by
  simp only [listFiles, h]
  rfl

theorem listing_eq_filesAt : listing fs x root es =
    (filesAt fs x (walked root []) (pathOf []) (.dir es)).mergeSort pathLe := by
  rw [filesAt, walked_nil, readDir_eq h]
  rfl

variable (hw : (Entry.dir es).WellFormed)
include hw

theorem mem_listing {f : ProjectFile} : f ∈ listing fs x root es ↔
    ∃ names, Listed fs x root (.dir es) names ∧ f = fileAt root names := by
  have hv : ValidNames [] := List.forall_mem_nil _
  rw [listing_eq_filesAt h, List.mem_mergeSort, mem_filesAt hv _ hw]
  constructor
  case mp =>
    rintro ⟨names, hf, he, hk⟩
    exact ⟨names, ⟨⟨he, hk.dirs, hk.paths⟩, hk.opens⟩, hf⟩
  case mpr =>
    rintro ⟨names, hl, hf⟩
    exact ⟨names, hf, hl.file, hl.dirs, hl.paths, hl.opens⟩

-- The walk finds no path twice, so what the sort leaves in order is in strict order.
theorem listing_ascending : Ascending ((listing fs x root es).map (·.relative)) := by
  have hsorted : (listing fs x root es).Pairwise fun a b => pathLe a b :=
    List.pairwise_mergeSort (fun _ _ _ => Std.TransCmp.isLE_trans)
      (fun _ _ => isLE_compare_total) _
  have hdistinct : (listing fs x root es).Pairwise fun a b => a.relative ≠ b.relative := by
    have hv : ValidNames [] := List.forall_mem_nil _
    have hn : ((filesAt fs x (walked root []) (pathOf []) (.dir es)).map (·.relative)).Nodup :=
      nodup_filesAt hv _ hw
    rw [List.nodup_iff_pairwise_ne, List.pairwise_map] at hn
    rw [listing_eq_filesAt h]
    exact (List.mergeSort_perm _ _).symm.pairwise hn fun h => Ne.symm h
  refine List.pairwise_map.mpr (hsorted.imp₂ (fun a b hle hne => ?_) hdistinct)
  exact (isLE_compare_iff.mp hle).resolve_left hne

end

def listedNames (fs : FileSystem) (x : Exclusion) (root : String) (es : List (String × Entry)) :
    List (List String) :=
  (listing fs x root es).map fun f => namesOfPath f.relative

section

variable {fs fs' : FileSystem} {x : Exclusion} {root root' : String}
  {es es' : List (String × Entry)} (h : fs.entry root = .ok (.dir es))
  (hw : (Entry.dir es).WellFormed)

include hw in
theorem namesOfPath_fileAt {names : List String} (hl : Listed fs x root (.dir es) names) :
    namesOfPath (fileAt root names).relative = names :=
  namesOfPath_pathOf hl.file.ne_nil (hl.file.validNames hw)

include h hw

theorem listing_eq_map : listing fs x root es = (listedNames fs x root es).map (fileAt root) := by
  rw [listedNames, List.map_map]
  nth_rewrite 1 [← List.map_id (listing fs x root es)]
  refine List.map_congr_left fun f hf => ?_
  obtain ⟨names, hl, rfl⟩ := (mem_listing h hw).mp hf
  simp [namesOfPath_fileAt hw hl]

theorem mem_listedNames {names : List String} :
    names ∈ listedNames fs x root es ↔ Listed fs x root (.dir es) names := by
  rw [listedNames, List.mem_map]
  constructor
  case mp =>
    rintro ⟨f, hf, rfl⟩
    obtain ⟨names, hl, rfl⟩ := (mem_listing h hw).mp hf
    rwa [namesOfPath_fileAt hw hl]
  case mpr =>
    intro hl
    exact ⟨fileAt root names, (mem_listing h hw).mpr ⟨names, hl, rfl⟩, namesOfPath_fileAt hw hl⟩

theorem listedNames_ascending :
    (listedNames fs x root es).Pairwise fun a b => bytesOf (pathOf a) < bytesOf (pathOf b) := by
  have ha := listing_ascending (x := x) h hw
  rw [listing_eq_map h hw, List.map_map, Ascending, List.pairwise_map] at ha
  exact ha

theorem nodup_listedNames : (listedNames fs x root es).Nodup := by
  refine (listedNames_ascending h hw).imp fun {a b} hlt he => ?_
  rw [he] at hlt
  exact List.lt_irrefl _ hlt

theorem listedNames_congr (h' : fs'.entry root' = .ok (.dir es'))
    (hw' : (Entry.dir es').WellFormed) (hl : ∀ names,
      Listed fs x root (.dir es) names ↔ Listed fs' x root' (.dir es') names) :
    listedNames fs x root es = listedNames fs' x root' es' := by
  have hp : (listedNames fs x root es).Perm (listedNames fs' x root' es') := by
    refine (List.perm_ext_iff_of_nodup (nodup_listedNames h hw) (nodup_listedNames h' hw')).mpr ?_
    intro names
    rw [mem_listedNames h hw, mem_listedNames h' hw', hl]
  exact hp.eq_of_pairwise (fun _ _ _ _ hlt hgt => absurd hlt (List.lt_asymm hgt))
    (listedNames_ascending h hw) (listedNames_ascending h' hw')

end

end GodotAtlas.Files
