import GodotAtlas.Proofs.Files.Listing
import GodotAtlas.Proofs.Files.Places

namespace GodotAtlas.Files

open Text

section

variable {root n : String} {names : List String}

section

variable (hr : root ≠ "")
include hr

theorem join_ne_empty (hv : ValidName n) : join root n ≠ "" := by
  obtain ⟨front, hj, _⟩ := toList_join hr hv
  intro he
  simp [he] at hj

theorem walked_ne_empty (hv : ValidNames names) : walked root names ≠ "" := by
  induction names generalizing root
  case nil => exact hr
  case cons n names hi =>
    obtain ⟨hn, hv⟩ := List.forall_mem_cons.mp hv
    exact hi (join_ne_empty hr hn) hv

theorem parts_walked (hv : ValidNames names) :
    parts (walked root names) = parts root ++ names.map String.toList := by
  induction names generalizing root
  case nil => simp [walked]
  case cons n names hi =>
    obtain ⟨hn, hv⟩ := List.forall_mem_cons.mp hv
    rw [walked_cons, hi (join_ne_empty hr hn) hv, parts_join hr hn]
    simp

theorem isAbsolute_walked (hv : ValidNames names) :
    isAbsolute (walked root names) = isAbsolute root := by
  induction names generalizing root
  case nil => rfl
  case cons n names hi =>
    obtain ⟨hn, hv⟩ := List.forall_mem_cons.mp hv
    rw [walked_cons, hi (join_ne_empty hr hn) hv, isAbsolute_join hr hn]

theorem namesDirectory_walked (hv : ValidNames names) (hn : names ≠ []) :
    FileSystem.namesDirectory (walked root names) = false := by
  obtain ⟨dirs, n, rfl⟩ := (List.eq_nil_or_concat names).resolve_left hn
  rw [List.concat_eq_append] at hv ⊢
  obtain ⟨hvd, hvn⟩ := List.forall_mem_append.mp hv
  rw [walked_concat]
  exact namesDirectory_join (walked_ne_empty hr hvd) (hvn n List.mem_cons_self)

theorem components_walked (hp : ∀ n ∈ names, PlainName n) :
    components (walked root names) = components root ++ names.map .name := by
  have hv := validNames_of_plain hp
  have hc : (names.map String.toList).filter (· != ['.']) = names.map String.toList := by
    rw [List.filter_eq_self]
    intro part hm
    obtain ⟨n, hn, rfl⟩ := List.mem_map.mp hm
    simpa using (hp n hn).toList_ne_current
  have hm : (names.map String.toList).map Component.ofPart = names.map .name := by
    rw [List.map_map]
    refine List.map_congr_left fun n hn => ?_
    simp [Component.ofPart, (hp n hn).toList_ne_parent]
  have hh : ((parts root ++ names.map String.toList).head? == some ['.']) =
      ((parts root).head? == some ['.']) := by
    cases parts root
    case cons => rfl
    case nil =>
      cases names
      case nil => rfl
      case cons n names => simpa using (hp n List.mem_cons_self).toList_ne_current
  rw [components, components, parts_walked hr hv, isAbsolute_walked hr hv, List.filter_append, hc,
    List.map_append, hm, hh]
  split_ifs <;> rfl

end

end

theorem join_eq {root n : String} (hr : root ≠ "") (hd : FileSystem.namesDirectory root = false)
    (hv : ValidName n) : join root n = root ++ "/" ++ n := by
  have he : root.isEmpty = false := by simpa using hr
  have hl : root.toList.getLast? ≠ some '/' := by simpa [FileSystem.namesDirectory] using hd
  simp [join, isAbsolute_of_validName hv, he, hl]

theorem dropStart?_append {α : Type} [DecidableEq α] (start rest : List α) :
    dropStart? start (start ++ rest) = some rest := by
  induction start
  case nil => rfl
  case cons a start hi => simpa [dropStart?] using hi

section

variable {root : String} {names : List String} (hr : root ≠ "") (hp : ∀ n ∈ names, PlainName n)
include hr hp

theorem relativePath_walked : relativePath root (walked root names) = pathOf names := by
  have ht : (names.map Component.name).map (·.text) = names := by
    rw [List.map_map]
    exact List.map_id names
  simp only [relativePath, components_walked hr hp, dropStart?_append, Option.getD_some, ht]
  rfl

theorem ofPath_walked (hn : names ≠ []) :
    FileKind.ofPath (walked root names) = .ofPath (pathOf names) := by
  obtain ⟨dirs, n, rfl⟩ := (List.eq_nil_or_concat names).resolve_left hn
  rw [List.concat_eq_append] at hp ⊢
  have hl := hp n (by simp)
  have hv := validNames_of_plain hp
  have hw : fileName? (walked root (dirs ++ [n])) = some n := by
    rw [fileName?, components_walked hr hp]
    simp
  rw [FileKind.ofPath, FileKind.ofPath, extension, extension, hw,
    fileName?_pathOf hv hl.ne_current hl.ne_parent]

end

structure StorableName (name : String) : Prop extends PlainName name where
  short : name.utf8ByteSize ≤ FileSystem.maxName

instance {name : String} : Decidable (StorableName name) :=
  decidable_of_iff (PlainName name ∧ name.utf8ByteSize ≤ FileSystem.maxName)
    ⟨fun ⟨h, hs⟩ => ⟨h, hs⟩, fun h => ⟨h.toPlainName, h.short⟩⟩

abbrev Entry.Storable (e : Entry) : Prop :=
  e.Named StorableName

namespace Entry.Storable

variable {e f : Entry} {n : String} {names : List String}

theorem wellFormed (h : e.Storable) : e.WellFormed :=
  h.mono fun _ hn => hn.toValidName

theorem child (h : e.Storable) (hc : e.child? n = some f) : StorableName n ∧ f.Storable := by
  cases h
  case dir es hd hs hb =>
    have hm : (n, f) ∈ es := (lookup_eq_some_iff_mem hd).mp hc
    exact ⟨hs _ hm, hb _ hm⟩
  all_goals simp [child?, entries] at hc

theorem plain_of_at? (h : e.Storable) (ha : e.at? names = some f) : ∀ n ∈ names, PlainName n := by
  induction names generalizing e
  case nil => simp
  case cons n names hi =>
    obtain ⟨g, hc, ha⟩ := Option.bind_eq_some_iff.mp ha
    obtain ⟨hn, hg⟩ := h.child hc
    exact List.forall_mem_cons.mpr ⟨hn.toPlainName, hi hg ha⟩

theorem mem_putEntry {es : List (String × Entry)} {g : String × Entry}
    (h : g ∈ Entry.putEntry n e es) : g = (n, e) ∨ g ∈ es := by
  induction es
  case nil => simpa [Entry.putEntry] using h
  case cons k es hi =>
    rw [putEntry] at h
    split at h
    case isTrue hk =>
      cases h
      case head => exact .inl (hk ▸ rfl)
      case tail h => exact .inr (List.mem_cons_of_mem _ h)
    case isFalse =>
      cases h
      case head => exact .inr List.mem_cons_self
      case tail h => exact (hi h).imp id (List.mem_cons_of_mem _)

theorem nodup_putEntry {es : List (String × Entry)} (h : (es.map (·.1)).Nodup) :
    ((putEntry n e es).map (·.1)).Nodup := by
  induction es
  case nil => simp [putEntry]
  case cons g es hi =>
    obtain ⟨m, g⟩ := g
    obtain ⟨hm, h⟩ := List.nodup_cons.mp h
    rw [putEntry]
    split
    case isTrue hmn => exact List.nodup_cons.mpr ⟨hmn ▸ hm, h⟩
    case isFalse hmn =>
      refine List.nodup_cons.mpr ⟨fun hk => ?_, hi h⟩
      obtain ⟨k, hk, hkm⟩ := List.mem_map.mp hk
      cases mem_putEntry hk
      case inl he => exact hmn (hkm.symm.trans (congrArg Prod.fst he))
      case inr hk => exact hm (List.mem_map.mpr ⟨k, hk, hkm⟩)

theorem putEntry {es : List (String × Entry)} (h : (dir es).Storable) (hn : StorableName n)
    (he : e.Storable) : (dir (Entry.putEntry n e es)).Storable := by
  cases h
  case dir hd hs hb =>
    refine .dir (nodup_putEntry hd) (fun f hf => ?valid) fun f hf => ?below
    case valid =>
      cases mem_putEntry hf
      case inl hf => exact hf ▸ hn
      case inr hf => exact hs f hf
    case below =>
      cases mem_putEntry hf
      case inl hf => exact hf ▸ he
      case inr hf => exact hb f hf

theorem put {bytes bytes' : List UInt8} (h : e.Storable) (ha : e.at? names = some (.file bytes)) :
    (e.put names (.file bytes')).Storable := by
  induction names generalizing e
  case nil => exact .file
  case cons n names hi =>
    obtain ⟨g, hc, hg⟩ := Option.bind_eq_some_iff.mp ha
    obtain ⟨hn, hb⟩ := h.child hc
    cases e
    case dir es =>
      rw [Entry.put, hc, Option.getD_some]
      exact h.putEntry hn (hi hb hg)
    all_goals simp [child?, entries] at hc

end Entry.Storable

theorem Entry.HoldsFile.exists_dir_of_prefix {e : Entry} {names front : List String}
    (h : e.HoldsFile names) (hp : front <+: names) (hn : front ≠ names) :
    ∃ ds, e.at? front = some (.dir ds) := by
  obtain ⟨f, ha, _⟩ := h
  obtain ⟨back, rfl⟩ := hp
  have hb : back ≠ [] := by simpa using hn
  rw [Entry.at?_append] at ha
  obtain ⟨g, hg, ha⟩ := Option.bind_eq_some_iff.mp ha
  cases g
  case dir ds => exact ⟨ds, hg⟩
  all_goals simp [Entry.at?_leaf _ hb] at ha

namespace FileSystem

variable {fs : FileSystem} {root path : String} {place names : List String} {e f : Entry}
  {es : List (String × Entry)} {links : Nat}

theorem look_append (ha : fs.look place = some e) (hf : e.at? names = some f) :
    fs.look (place ++ names) = some f := by
  induction names generalizing place e
  case nil =>
    cases hf
    simpa using ha
  case cons n names hi =>
    obtain ⟨g, hc, hg⟩ := Option.bind_eq_some_iff.mp hf
    cases e
    case dir es =>
      have hl : es.lookup n = some g := hc
      simpa using hi (look_child_of_lookup ha hl) hg
    all_goals simp [Entry.child?, Entry.entries] at hc

theorem follow_names (hs : e.Storable) (ha : fs.look place = some e)
    (hf : e.at? names = some f) (hn : f.target? = none) :
    fs.follow links place (names.map String.toList) = .ok (place ++ names) := by
  induction names generalizing place e
  case nil => simp [follow_nil]
  case cons n names hi =>
    obtain ⟨g, hc, hg⟩ := Option.bind_eq_some_iff.mp hf
    obtain ⟨hp, hb⟩ := hs.child hc
    cases e
    case dir es =>
      have hl : es.lookup n = some g := hc
      have hnext := look_child_of_lookup ha hl
      have htarget : g.target? = none := by
        cases names
        case nil =>
          cases hg
          exact hn
        case cons =>
          cases g
          case dir => rfl
          all_goals simp [Entry.at?, Entry.child?, Entry.entries] at hg
      have he : fs.enter place n.toList = .ok (place ++ [n]) := by
        rw [enter_name ha hp.toPlainName, if_neg (Nat.not_lt.mpr hp.short)]
      rw [List.map_cons, follow_cons he (by simpa [hnext] using htarget), hi hb hnext hg]
      simp
    all_goals simp [Entry.child?, Entry.entries] at hc

section

variable (hp : fs.locate root = .ok place) (ha : fs.look place = some (.dir es))
include hp ha

theorem locate_walked (hs : (Entry.dir es).Storable) (hf : (Entry.dir es).at? names = some f)
    (ht : f.target? = none) :
    fs.locate (walked root names) =
      (checkPath (walked root names)).map fun _ => place ++ names := by
  have hr := ne_empty_of_locate hp
  have hv : ValidNames names := validNames_of_at? hs.wellFormed hf
  have hfollow : fs.follow maxLinks (startFrom fs.cwd (walked root names))
      (parts (walked root names)) = .ok (place ++ names) := by
    rw [startFrom, isAbsolute_walked hr hv, ← startFrom, parts_walked hr hv]
    exact follow_append (follow_of_locate hp).right fun _ => follow_names hs ha hf ht
  rw [locate_eq]
  cases checkPath (walked root names)
  case error => rfl
  case ok => exact hfollow

theorem entry_walked (hs : (Entry.dir es).Storable) (hf : (Entry.dir es).at? names = some f)
    (hn : names ≠ []) (ht : f.target? = none) :
    fs.entry (walked root names) = (checkPath (walked root names)).map fun _ => f := by
  have hv : ValidNames names := validNames_of_at? hs.wellFormed hf
  have hd := namesDirectory_walked (ne_empty_of_locate hp) hv hn
  rw [entry_eq, locate_walked hp ha hs hf ht]
  cases checkPath (walked root names)
  case error => rfl
  case ok => simp [Except.bind, Except.map, look_append ha hf, hd]

theorem read_walked {bytes : List UInt8} (hs : (Entry.dir es).Storable)
    (hf : (Entry.dir es).at? names = some (.file bytes))
    (hc : checkPath (walked root names) = .ok ()) : fs.read (walked root names) = .ok bytes := by
  have hn : names ≠ [] := by
    rintro rfl
    cases hf
  simp only [read, bind, Except.bind, entry_walked hp ha hs hf hn rfl, hc, Except.map]
  rfl

theorem readDir_walked {ds : List (String × Entry)} (hs : (Entry.dir es).Storable)
    (hf : (Entry.dir es).at? names = some (.dir ds)) (hn : names ≠ []) :
    fs.readDir (walked root names) = (checkPath (walked root names)).map fun _ => ds := by
  simp only [readDir, bind, Except.bind, entry_walked hp ha hs hf hn rfl]
  cases checkPath (walked root names) <;> rfl

-- The directories on the way to a file can be opened if their paths can be used at all.
theorem listed_iff {x : Exclusion} (he : fs.entry root = .ok (.dir es))
    (hs : (Entry.dir es).Storable) : Listed fs x root (.dir es) names ↔
      Kept x (.dir es) names ∧
        ∀ p, p <+: names → p ≠ names → p ≠ [] → checkPath (walked root p) = .ok () := by
  have hopen {p : List String} (hk : Kept x (.dir es) names) (hpre : p <+: names)
      (hne : p ≠ names) : (fs.readDir (walked root p)).toBool ↔
        (p ≠ [] → checkPath (walked root p) = .ok ()) := by
    obtain ⟨ds, hds⟩ := hk.file.exists_dir_of_prefix hpre hne
    by_cases hn : p = []
    case pos => simp [hn, walked_nil, readDir_eq he, Except.toBool]
    case neg =>
      rw [readDir_walked hp ha hs hds hn]
      cases checkPath (walked root p) <;> simp [Except.map, Except.toBool, hn]
  constructor
  case mp =>
    exact fun h => ⟨h.toKept, fun p hpre hne => (hopen h.toKept hpre hne).mp (h.opens p hpre hne)⟩
  case mpr => exact fun ⟨hk, hc⟩ => ⟨hk, fun p hpre hne => (hopen hk hpre hne).mpr (hc p hpre hne)⟩

omit hp in
theorem follow_current (k : Nat) :
    fs.follow links place (List.replicate k ['.']) = .ok place := by
  induction k
  case zero => exact follow_nil
  case succ k hi =>
    have he : fs.enter place ['.'] = .ok place := by simp [enter, ha]
    rw [List.replicate_succ, follow_cons he (by simp [ha, Entry.target?])]
    exact hi

theorem locate_walked_current {k : Nat}
    (hc : checkPath (walked root (List.replicate k ".")) = .ok ()) :
    fs.locate (walked root (List.replicate k ".")) = .ok place := by
  have hr := ne_empty_of_locate hp
  have hv : ValidNames (List.replicate k ".") := validNames_replicate (by decide) k
  have hm : (List.replicate k ".").map String.toList = List.replicate k ['.'] :=
    List.map_replicate
  rw [locate_eq, hc, startFrom, isAbsolute_walked hr hv, ← startFrom, parts_walked hr hv, hm]
  exact follow_append (follow_of_locate hp).right fun _ => follow_current ha k

end

end FileSystem

section

variable {root n : String} {names : List String} (hr : root ≠ "")
  (hd : FileSystem.namesDirectory root = false)
include hr hd

theorem utf8ByteSize_walked (hv : ValidNames names) : (walked root names).utf8ByteSize =
    root.utf8ByteSize + (names.map (·.utf8ByteSize + 1)).sum := by
  induction names generalizing root
  case nil => rfl
  case cons n names hi =>
    obtain ⟨hn, hv⟩ := List.forall_mem_cons.mp hv
    have hs : "/".utf8ByteSize = 1 := rfl
    have hj := join_eq hr hd hn
    rw [walked_cons, hi (join_ne_empty hr hn) (namesDirectory_join hr hn) hv, hj,
      String.utf8ByteSize_append, String.utf8ByteSize_append, List.map_cons, List.sum_cons, hs]
    omega

theorem walked_eq_append (hv : ValidNames names) : ∃ rest, walked root names = root ++ rest := by
  induction names generalizing root
  case nil => exact ⟨"", by simp [walked_nil]⟩
  case cons n names hi =>
    obtain ⟨hn, hv⟩ := List.forall_mem_cons.mp hv
    obtain ⟨rest, hrest⟩ := hi (join_ne_empty hr hn) (namesDirectory_join hr hn) hv
    refine ⟨"/" ++ n ++ rest, ?_⟩
    rw [walked_cons, hrest, join_eq hr hd hn]
    simp only [String.append_assoc]

theorem nul_not_mem_walked (hv : ValidNames names) (hz : '\x00' ∉ root.toList)
    (hzn : ∀ n ∈ names, '\x00' ∉ n.toList) : '\x00' ∉ (walked root names).toList := by
  induction names generalizing root
  case nil => exact hz
  case cons n names hi =>
    obtain ⟨hn, hv⟩ := List.forall_mem_cons.mp hv
    obtain ⟨hzn, hzs⟩ := List.forall_mem_cons.mp hzn
    refine hi (join_ne_empty hr hn) (namesDirectory_join hr hn) hv ?_ hzs
    simp [join_eq hr hd hn, hz, hzn]

theorem checkPath_walked (hv : ValidNames names) (hz : '\x00' ∉ root.toList)
    (hzn : ∀ n ∈ names, '\x00' ∉ n.toList) : FileSystem.checkPath (walked root names) =
      if FileSystem.maxPath < root.utf8ByteSize + (names.map (·.utf8ByteSize + 1)).sum
      then .error .nameTooLong else .ok () := by
  have hc := nul_not_mem_walked hr hd hv hz hzn
  have he := walked_ne_empty hr hv
  simp [FileSystem.checkPath, hc, he, utf8ByteSize_walked hr hd hv]

end

theorem checkPath_of_prefix {root : String} {front names : List String} (hr : root ≠ "")
    (hv : ValidNames names) (hp : front <+: names) (hn : front ≠ [])
    (hc : FileSystem.checkPath (walked root names) = .ok ()) :
    FileSystem.checkPath (walked root front) = .ok () := by
  obtain ⟨back, rfl⟩ := hp
  obtain ⟨hvf, hvb⟩ := List.forall_mem_append.mp hv
  have he := walked_ne_empty hr hvf
  obtain ⟨rest, hrest⟩ := walked_eq_append he (namesDirectory_walked hr hvf hn) hvb
  have hw : walked root (front ++ back) = walked root front ++ rest := by
    rw [← hrest, walked, walked, walked, List.foldl_append]
  rw [hw] at hc
  simp only [FileSystem.checkPath] at hc ⊢
  split at hc
  case isTrue => cases hc
  case isFalse hz =>
    split at hc
    case isTrue => cases hc
    case isFalse =>
      split at hc
      case isTrue => cases hc
      case isFalse hs =>
        rw [String.utf8ByteSize_append] at hs
        have hs : ¬FileSystem.maxPath < (walked root front).utf8ByteSize := by omega
        simp_all

-- A directory that is asked for itself so often that there is hardly any room left in the path.
def dotted (k : Nat) : String :=
  walked "game" (List.replicate k ".")

theorem checkPath_dotted {k : Nat} (hk : k ≠ 0) {names : List String} (hv : ValidNames names)
    (hz : ∀ n ∈ names, '\x00' ∉ n.toList) : FileSystem.checkPath (walked (dotted k) names) =
      if FileSystem.maxPath < 4 + k * 2 + (names.map (·.utf8ByteSize + 1)).sum
      then .error .nameTooLong else .ok () := by
  have hvd : ValidNames (List.replicate k ".") := validNames_replicate (by decide) k
  have hzn : ∀ n ∈ List.replicate k ".", '\x00' ∉ n.toList := by
    intro n hn
    rw [List.eq_of_mem_replicate hn]
    decide
  have hr : dotted k ≠ "" := walked_ne_empty (by decide) hvd
  have hd : FileSystem.namesDirectory (dotted k) = false :=
    namesDirectory_walked (by decide) hvd (by simpa using hk)
  have hzd : '\x00' ∉ (dotted k).toList :=
    nul_not_mem_walked (by decide) (by decide) hvd (by decide) hzn
  have hsize : (dotted k).utf8ByteSize = 4 + k * 2 := by
    rw [dotted, utf8ByteSize_walked (by decide) (by decide) hvd, List.map_replicate,
      List.sum_replicate]
    rfl
  rw [checkPath_walked hr hd hv hzd hz, hsize]

theorem place_dotted {fs : FileSystem} {place : List String} {es : List (String × Entry)} {k : Nat}
    (hp : fs.locate "game" = .ok place) (ha : fs.look place = some (.dir es)) (hk : k ≠ 0)
    (hs : 4 + k * 2 ≤ FileSystem.maxPath) : fs.place (dotted k) = .ok place := by
  have hc := checkPath_dotted hk (List.forall_mem_nil _) (List.forall_mem_nil _)
  rw [List.map_nil, List.sum_nil, Nat.add_zero, if_neg (Nat.not_lt.mpr hs), walked_nil] at hc
  rw [FileSystem.place_eq, dotted, FileSystem.locate_walked_current hp ha hc]
  simp [Except.bind, ha, Entry.isDir]

mutual

-- The walk as it is told by joined paths alone: what is left out, and under which path and as what
-- a file is listed, is read off its path as the walk has put it together.
def visitAt (fs : FileSystem) (x : Exclusion) (root path : String) : Entry → List ProjectFile
  | .file _ => [{ path, relative := relativePath root path, kind := .ofPath path }]
  | .locked false _ => [{ path, relative := relativePath root path, kind := .ofPath path }]
  | .dir es => if (fs.readDir path).toBool then visitIn fs x root path es else []
  | _ => []

def visitIn (fs : FileSystem) (x : Exclusion) (root path : String) :
    List (String × Entry) → List ProjectFile
  | [] => []
  | (name, e) :: es =>
    (if x.covers name (relativePath root (join path name)) e then []
      else visitAt fs x root (join path name) e) ++ visitIn fs x root path es

end

section

variable {fs : FileSystem} {x : Exclusion} {root : String} (hr : root ≠ "")
include hr

theorem visitAt_leaf {names : List String} {e : Entry} (hp : ∀ n ∈ names, PlainName n)
    (hn : names ≠ []) (h : ∀ es, e ≠ .dir es) :
    visitAt fs x root (walked root names) e =
      filesAt fs x (walked root names) (pathOf names) e := by
  cases e
  case dir es => exact absurd rfl (h es)
  case file => simp only [visitAt, filesAt, relativePath_walked hr hp, ofPath_walked hr hp hn]
  case locked isDirectory _ =>
    cases isDirectory
    case true => rfl
    case false => simp only [visitAt, filesAt, relativePath_walked hr hp, ofPath_walked hr hp hn]
  all_goals rfl

mutual

theorem visitAt_walked {names : List String} (hp : ∀ n ∈ names, PlainName n) (hn : names ≠ []) :
    (e : Entry) → e.Storable →
      visitAt fs x root (walked root names) e = filesAt fs x (walked root names) (pathOf names) e
  | .file _, _ | .link _, _ | .device, _ | .locked _ _, _ => visitAt_leaf hr hp hn (by simp)
  | .dir es, .dir _ hs hb => by
    rw [visitAt, filesAt, visitIn_walked hp es (fun e he => (hs e he).toPlainName) hb]

theorem visitIn_walked {names : List String} (hp : ∀ n ∈ names, PlainName n) :
    (es : List (String × Entry)) → (∀ e ∈ es, PlainName e.1) → (∀ e ∈ es, e.2.Storable) →
      visitIn fs x root (walked root names) es = filesIn fs x (walked root names) (pathOf names) es
  | [], _, _ => rfl
  | (n, e) :: es, hpl, hb => by
    obtain ⟨hn, hpl⟩ := List.forall_mem_cons.mp hpl
    obtain ⟨he, hb⟩ := List.forall_mem_cons.mp hb
    have hp' : ∀ m ∈ names ++ [n], PlainName m :=
      List.forall_mem_append.mpr ⟨hp, List.forall_mem_singleton.mpr hn⟩
    rw [visitIn, filesIn, ← walked_concat, relativePath_walked hr hp',
      below_pathOf (validNames_of_plain hp),
      visitIn_walked hp es hpl hb, visitAt_walked hp' (by simp) e he]

end

end

theorem listFiles_eq_visitAt {fs : FileSystem} {root : String} {es : List (String × Entry)}
    (h : fs.entry root = .ok (.dir es)) (hs : (Entry.dir es).Storable) (x : Exclusion) :
    listFiles x root fs = .ok ((visitAt fs x root root (.dir es)).mergeSort pathLe) := by
  have hr := FileSystem.ne_empty_of_entry h
  cases hs
  case dir hd hs hb =>
    have hw : visitIn fs x root root es = filesIn fs x root "" es :=
      visitIn_walked hr (List.forall_mem_nil _) es (fun e he => (hs e he).toPlainName) hb
    rw [listFiles_eq h, visitAt, readDir_eq h, hw]
    rfl

end GodotAtlas.Files
