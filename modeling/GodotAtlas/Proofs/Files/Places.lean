import GodotAtlas.Proofs.Files.Names

namespace GodotAtlas.Files

open Text

-- A name that stands for an entry of a directory and not for a way through it.
structure PlainName (name : String) : Prop extends ValidName name where
  ne_current : name ≠ "."
  ne_parent : name ≠ ".."

instance {name : String} : Decidable (PlainName name) :=
  decidable_of_iff (ValidName name ∧ name ≠ "." ∧ name ≠ "..")
    ⟨fun ⟨h, hc, hp⟩ => ⟨h, hc, hp⟩, fun h => ⟨h.toValidName, h.ne_current, h.ne_parent⟩⟩

theorem validNames_of_plain {names : List String} (h : ∀ n ∈ names, PlainName n) :
    ValidNames names :=
  fun n hn => (h n hn).toValidName

theorem PlainName.toList_ne_current {n : String} (h : PlainName n) : n.toList ≠ ['.'] :=
  fun hn => h.ne_current (String.toList_injective hn)

theorem PlainName.toList_ne_parent {n : String} (h : PlainName n) : n.toList ≠ ['.', '.'] :=
  fun hn => h.ne_parent (String.toList_injective hn)

section

variable {root n : String}

theorem isAbsolute_of_validName (hv : ValidName n) : isAbsolute n = false := by
  cases hn : n.toList
  case nil => simp [isAbsolute, hn]
  case cons c cs =>
    have hs : '/' ∉ c :: cs := hn ▸ hv.no_slash
    have hc : c ≠ '/' := Ne.symm (List.ne_of_not_mem_cons hs)
    simp [isAbsolute, hn, hc]

-- A path is joined to a name by one slash, and has one already if it ends in one.
theorem toList_join (hr : root ≠ "") (hv : ValidName n) :
    ∃ front, (join root n).toList = front ++ '/' :: n.toList ∧
      (root.toList = front ∨ root.toList = front ++ ['/']) := by
  have he : root.isEmpty = false := by simpa using hr
  simp only [join, isAbsolute_of_validName hv, he, Bool.or_false, Bool.false_eq_true, if_false]
  split
  case isTrue hl =>
    obtain ⟨front, hf⟩ := List.getLast?_eq_some_iff.mp hl
    exact ⟨front, by simp [hf], .inr hf⟩
  case isFalse => exact ⟨root.toList, by simp, .inl rfl⟩

theorem parts_join (hr : root ≠ "") (hv : ValidName n) :
    parts (join root n) = parts root ++ [n.toList] := by
  obtain ⟨front, hj, hf⟩ := toList_join hr hv
  have hn : n.toList.isEmpty = false := by simpa using hv.ne_empty
  have hp : parts (join root n) = (splitAt '/' front).filter (!·.isEmpty) ++ [n.toList] := by
    rw [parts, hj, splitAt_append_sep, splitAt_of_not_mem hv.no_slash]
    simp [hn]
  have hq : parts root = (splitAt '/' front).filter (!·.isEmpty) := by
    cases hf
    case inl hf => rw [parts, hf]
    case inr hf =>
      rw [parts, hf, splitAt_append_sep]
      simp [splitAt]
  rw [hp, hq]

theorem isAbsolute_join (hr : root ≠ "") (hv : ValidName n) :
    isAbsolute (join root n) = isAbsolute root := by
  obtain ⟨front, hj, hf⟩ := toList_join hr hv
  cases front
  case nil =>
    have hf : root.toList = ['/'] := by
      cases hf
      case inl hf => exact absurd (String.toList_injective hf) hr
      case inr hf => exact hf
    simp [isAbsolute, hj, hf]
  case cons c front => cases hf <;> simp_all [isAbsolute]

theorem namesDirectory_join (hr : root ≠ "") (hv : ValidName n) :
    FileSystem.namesDirectory (join root n) = false := by
  obtain ⟨front, hj, _⟩ := toList_join hr hv
  have hn : n.toList ≠ [] := by simpa using hv.ne_empty
  have hl : n.toList.getLast hn ≠ '/' := by
    intro h
    exact hv.no_slash (h ▸ List.getLast_mem hn)
  have hj : (join root n).toList.getLast? = some (n.toList.getLast hn) := by
    simp [hj, List.getLast?_cons, List.getLast?_eq_some_getLast hn]
  simp [FileSystem.namesDirectory, hj, hl]

end

namespace Entry

variable {e : Entry} {es : List (String × Entry)} {n m : String} {ns ms : List String}

theorem lookup_cons : ((n, e) :: es).lookup m = if m = n then some e else es.lookup m := by
  by_cases h : m = n
  case pos => simp [h]
  case neg =>
    have hb : (m == n) = false := by simpa using h
    simp [List.lookup_cons, hb, h]

theorem at?_append :
    e.at? (ns ++ ms) = (e.at? ns).bind (·.at? ms) := by
  induction ns generalizing e
  case nil => rfl
  case cons n ns hi =>
    simp only [List.cons_append, at?]
    cases e.child? n
    case none => rfl
    case some f => exact hi

theorem at?_singleton : (dir [(n, e)]).at? (m :: ms) = if m = n then e.at? ms else none := by
  simp only [at?, child?, entries, lookup_cons, List.lookup_nil]
  split <;> rfl

theorem at?_leaf (he : ∀ es, e ≠ dir es) (h : ns ≠ []) : e.at? ns = none := by
  cases ns
  case nil => contradiction
  case cons =>
    cases e
    case dir es => exact absurd rfl (he es)
    all_goals rfl

def surface : Entry → Entry
  | dir _ => dir []
  | e => e

theorem map_surface_eq_file_iff {o : Option Entry} {bytes : List UInt8} :
    o.map surface = some (file bytes) ↔ o = some (file bytes) := by
  cases o
  case none => simp
  case some e => cases e <;> simp [surface]

@[simp]
theorem content_surface : e.surface.content = e.content := by
  cases e <;> rfl

-- What finding a way through an entry depends on.
def shape : Entry → Entry
  | file _ => file []
  | dir _ => dir []
  | e => e

@[simp]
theorem shape_surface : e.surface.shape = e.shape := by
  cases e <;> rfl

@[simp]
theorem isDir_shape : e.shape.isDir = e.isDir := by
  cases e <;> rfl

@[simp]
theorem isFile_shape : e.shape.isFile = e.isFile := by
  cases e <;> rfl

@[simp]
theorem target?_shape : e.shape.target? = e.target? := by
  cases e <;> rfl

@[simp]
theorem isDir_surface : e.surface.isDir = e.isDir := by
  rw [← isDir_shape, shape_surface, isDir_shape]

@[simp]
theorem isFile_surface : e.surface.isFile = e.isFile := by
  rw [← isFile_shape, shape_surface, isFile_shape]

-- Of two views of an entry one may show all that the other shows.
theorem map_congr_of_comp {f g : Entry → Entry} (hfg : ∀ e, f (g e) = f e) {o o' : Option Entry}
    (h : o.map g = o'.map g) : o.map f = o'.map f := by
  simpa [Function.comp_def, hfg] using congrArg (Option.map f) h

theorem bind_target?_congr {o o' : Option Entry} (h : o.map shape = o'.map shape) :
    o.bind target? = o'.bind target? := by
  have hs (o : Option Entry) : o.bind target? = (o.map shape).bind target? := by
    cases o <;> simp
  rw [hs, h, ← hs]

end Entry

theorem target?_devices (names : List String) :
    (FileSystem.devices.at? names).bind Entry.target? = none := by
  cases names
  case nil => rfl
  case cons n names =>
    rw [FileSystem.devices, Entry.at?_singleton]
    split
    case isFalse => rfl
    case isTrue =>
      cases names
      case nil => rfl
      case cons m names =>
        rw [Entry.at?_singleton]
        split
        case isFalse => rfl
        case isTrue => cases names <;> rfl

theorem devices_at?_concat {place : List String} {n : String} (hd : n ≠ "dev") (hn : n ≠ "null") :
    FileSystem.devices.at? (place ++ [n]) = none := by
  cases place
  case nil => rw [List.nil_append, FileSystem.devices, Entry.at?_singleton, if_neg hd]
  case cons m names =>
    rw [List.cons_append, FileSystem.devices, Entry.at?_singleton]
    split
    case isFalse => rfl
    case isTrue =>
      cases names
      case nil => rw [List.nil_append, Entry.at?_singleton, if_neg hn]
      case cons k names =>
        rw [List.cons_append, Entry.at?_singleton]
        split
        case isFalse => rfl
        case isTrue => exact Entry.at?_leaf (by simp) (by simp)

namespace FileSystem

variable {fs : FileSystem} {path root n : String} {here place next : List String}
  {part : List Char} {ps qs : List (List Char)} {es : List (String × Entry)} {links : Nat}

theorem startFrom_join (hr : root ≠ "") (hv : ValidName n) :
    startFrom here (join root n) = startFrom here root := by
  simp only [startFrom, isAbsolute_join hr hv]

theorem look_child (h : fs.look place = some (.dir es)) (n : String) :
    fs.look (place ++ [n]) = (es.lookup n).or (devices.at? (place ++ [n])) := by
  rw [look] at h ⊢
  rw [Entry.at?_append]
  cases hr : fs.root.at? place
  case none =>
    rw [hr, Option.none_or] at h
    simp [Entry.at?_append, h, Entry.at?, Entry.child?, Entry.entries]
  case some e =>
    rw [hr, Option.some_or, Option.some.injEq] at h
    subst h
    simp [Entry.at?, Entry.child?, Entry.entries]

theorem look_child_of_lookup {e : Entry} (h : fs.look place = some (.dir es))
    (hl : es.lookup n = some e) : fs.look (place ++ [n]) = some e := by
  rw [look_child h, hl, Option.some_or]

theorem target?_look_child (h : fs.look place = some (.dir es))
    (hl : ∀ target, es.lookup n ≠ some (.link target)) :
    (fs.look (place ++ [n])).bind Entry.target? = none := by
  rw [look_child h]
  cases he : es.lookup n
  case none => simpa using target?_devices (place ++ [n])
  case some e =>
    cases e
    case link target => exact absurd he (hl target)
    all_goals rfl

theorem enter_part (h : fs.look place = some (.dir es)) (hc : part ≠ ['.'])
    (hp : part ≠ ['.', '.']) : fs.enter place part =
      if maxName < (String.ofList part).utf8ByteSize then .error .nameTooLong
      else .ok (place ++ [String.ofList part]) := by
  simp only [enter, h, hc, hp, if_false]

theorem enter_name (h : fs.look place = some (.dir es)) (hn : PlainName n) :
    fs.enter place n.toList =
      if maxName < n.utf8ByteSize then .error .nameTooLong else .ok (place ++ [n]) := by
  rw [enter_part h hn.toList_ne_current hn.toList_ne_parent, String.ofList_toList]

theorem advance_cons : fs.advance here (part :: ps) =
    match fs.enter here part with
    | .error e => .fault e
    | .ok next => ((fs.look next).bind Entry.target?).elim (fs.advance next ps) fun target =>
      .link (startFrom here target) (waysOf target ++ ps) := by
  rw [advance]
  cases fs.enter here part
  case error => rfl
  case ok next =>
    dsimp only
    cases (fs.look next).bind Entry.target? <;> rfl

theorem follow_congr {here' : List String} {ps' : List (List Char)}
    (h : fs.advance here ps = fs.advance here' ps') :
    fs.follow links here ps = fs.follow links here' ps' := by
  rw [follow.eq_def, follow.eq_def, h]

theorem follow_nil : fs.follow links here [] = .ok here := by
  rw [follow.eq_def, advance]

theorem follow_cons_error {e : FileError} (h : fs.enter here part = .error e) :
    fs.follow links here (part :: ps) = .error e := by
  rw [follow.eq_def, advance_cons, h]

theorem follow_cons (h : fs.enter here part = .ok next)
    (hn : (fs.look next).bind Entry.target? = none) :
    fs.follow links here (part :: ps) = fs.follow links next ps := by
  apply follow_congr
  rw [advance_cons, h]
  simp only [hn, Option.elim_none]

theorem follow_cons_link {target : String} (h : fs.enter here part = .ok next)
    (hn : (fs.look next).bind Entry.target? = some target) :
    fs.follow links here (part :: ps) = match links with
      | 0 => .error .tooManyLinks
      | links + 1 => fs.follow links (startFrom here target) (waysOf target ++ ps) := by
  rw [follow.eq_def, advance_cons, h]
  simp only [hn, Option.elim_some]
  cases links <;> rfl

theorem advance_append : fs.advance here (ps ++ qs) =
    match fs.advance here ps with
    | .place next => fs.advance next qs
    | .link start rest => .link start (rest ++ qs)
    | .fault e => .fault e := by
  induction ps generalizing here
  case nil => rfl
  case cons p ps hi =>
    rw [List.cons_append, advance_cons, advance_cons]
    cases fs.enter here p
    case error => rfl
    case ok next =>
      dsimp only
      cases (fs.look next).bind Entry.target?
      case none => exact hi
      case some target => simp only [Option.elim_some, List.append_assoc]

-- Behind a path it may go on in a way that does not depend on how many links are still allowed.
theorem follow_append {r : Except FileError (List String)} (h : fs.follow links here ps = .ok next)
    (hr : ∀ links, fs.follow links next qs = r) : fs.follow links here (ps ++ qs) = r := by
  induction links using Nat.strongRec generalizing here ps
  case ind links hi =>
    rw [follow.eq_def] at h
    cases ha : fs.advance here ps
    case place found =>
      rw [ha] at h
      cases h
      rw [← hr links]
      apply follow_congr
      rw [advance_append, ha]
    case fault => simp [ha] at h
    case link start rest =>
      rw [ha] at h
      cases links
      case zero => cases h
      case succ links =>
        rw [follow.eq_def, advance_append, ha]
        exact hi links (by omega) h

theorem locate_eq : fs.locate path = (checkPath path).bind fun _ =>
    fs.follow maxLinks (startFrom fs.cwd path) (parts path) :=
  rfl

theorem place_eq : fs.place path = (fs.locate path).bind fun place =>
    (fs.look place).elim (.error .notFound) fun e =>
      if namesDirectory path && !e.isDir then .error .notADirectory else .ok place := by
  simp only [FileSystem.place, bind, Except.bind]
  cases fs.locate path
  case error => rfl
  case ok place =>
    cases ha : fs.look place <;> simp only [ha] <;> rfl

theorem entry_eq : fs.entry path = (fs.locate path).bind fun place =>
    (fs.look place).elim (.error .notFound) fun e =>
      if namesDirectory path && !e.isDir then .error .notADirectory else .ok e := by
  simp only [entry, place_eq, bind, Except.bind]
  cases fs.locate path
  case error => rfl
  case ok place =>
    dsimp only
    cases ha : fs.look place
    case none => rfl
    case some e =>
      by_cases hd : namesDirectory path && !e.isDir
      case pos => simp only [Option.elim_some, hd, if_true]
      case neg =>
        simp only [Option.elim_some, hd, if_false, Bool.false_eq_true, ha, pure, Except.pure]

theorem enter_congr {fs' : FileSystem}
    (h : (fs.look here).map Entry.shape = (fs'.look here).map Entry.shape) :
    fs.enter here part = fs'.enter here part := by
  simp only [enter]
  cases hl : fs.look here
  case none =>
    rw [hl] at h
    rw [Option.map_eq_none_iff.mp h.symm]
  case some e =>
    rw [hl, Option.map_some, eq_comm, Option.map_eq_some_iff] at h
    obtain ⟨e', hl', hs⟩ := h
    rw [hl']
    cases e <;> cases e' <;> simp_all [Entry.shape]

theorem entry_congr {fs' : FileSystem} {view : Entry → Entry} (hv : ∀ e, (view e).isDir = e.isDir)
    (hl : fs.locate path = fs'.locate path)
    (hs : ∀ p, fs.locate path = .ok p → (fs.look p).map view = (fs'.look p).map view) :
    (fs.entry path).map view = (fs'.entry path).map view := by
  rw [entry_eq, entry_eq, ← hl]
  cases h : fs.locate path
  case error => rfl
  case ok p =>
    have hp := hs p h
    simp only [Except.bind]
    cases ha : fs.look p
    case none =>
      rw [ha] at hp
      rw [Option.map_eq_none_iff.mp hp.symm]
    case some e =>
      rw [ha, Option.map_some, eq_comm, Option.map_eq_some_iff] at hp
      obtain ⟨e', ha', he⟩ := hp
      have hd : e'.isDir = e.isDir := by rw [← hv, he, hv]
      simp only [ha', Option.elim_some, hd]
      split
      case isTrue => rfl
      case isFalse => simp [Except.map, he]

theorem read_eq : fs.read path = ((fs.entry path).map Entry.surface).bind Entry.content := by
  simp only [read, bind]
  cases fs.entry path <;> simp [Except.bind, Except.map]

theorem read_congr {fs' : FileSystem} {path' : String}
    (h : (fs.entry path).map Entry.surface = (fs'.entry path').map Entry.surface) :
    fs.read path = fs'.read path' := by
  rw [read_eq, h, ← read_eq]

theorem isFile_congr {fs' : FileSystem} {view : Entry → Entry}
    (hv : ∀ e, (view e).isFile = e.isFile)
    (h : (fs.entry path).map view = (fs'.entry path).map view) :
    fs.isFile path = fs'.isFile path := by
  have hf (fs : FileSystem) :
      fs.isFile path = ((fs.entry path).map view).toOption.any Entry.isFile := by
    simp only [isFile]
    cases fs.entry path <;> simp [Except.map, Except.toOption, hv]
  rw [hf, h, ← hf]

theorem toBool_readDir_congr {fs' : FileSystem}
    (h : (fs.entry path).map Entry.shape = (fs'.entry path).map Entry.shape) :
    (fs.readDir path).toBool = (fs'.readDir path).toBool := by
  simp only [readDir, bind, Except.bind]
  cases he : fs.entry path <;> cases he' : fs'.entry path
  case ok.ok e e' =>
    have h : e.shape = e'.shape := by simpa [he, he', Except.map] using h
    cases e <;> cases e' <;> simp_all [Entry.shape]
    all_goals rfl
  all_goals simp_all [Except.map]

theorem exists_entry_of_isFile (h : fs.isFile path) : ∃ e, fs.entry path = .ok e := by
  cases he : fs.entry path
  case error => simp [isFile, he] at h
  case ok e => exact ⟨e, rfl⟩

theorem exists_entry_of_read {bytes : List UInt8} (h : fs.read path = .ok bytes) :
    ∃ e, fs.entry path = .ok e := by
  cases he : fs.entry path
  case error => simp [read, he, bind, Except.bind] at h
  case ok e => exact ⟨e, rfl⟩

theorem exists_locate_of_entry {e : Entry} (h : fs.entry path = .ok e) :
    ∃ place, fs.locate path = .ok place ∧ fs.look place = some e := by
  rw [entry_eq] at h
  cases hl : fs.locate path
  case error => simp [hl, Except.bind] at h
  case ok place =>
    cases ha : fs.look place
    case none => simp [hl, ha, Except.bind] at h
    case some f =>
      simp only [hl, ha, Except.bind, Option.elim_some] at h
      split at h
      case isTrue => cases h
      case isFalse =>
        cases h
        exact ⟨place, rfl, ha⟩

theorem locate_of_place (h : fs.place path = .ok place) : fs.locate path = .ok place := by
  rw [place_eq] at h
  cases hl : fs.locate path
  case error => simp [hl, Except.bind] at h
  case ok found =>
    simp only [hl, Except.bind] at h
    cases ha : fs.look found
    case none => simp [ha] at h
    case some e =>
      simp only [ha, Option.elim_some] at h
      split at h
      case isTrue => cases h
      case isFalse =>
        cases h
        rfl

theorem entry_of_place {e : Entry} (h : fs.place path = .ok place) (ha : fs.look place = some e) :
    fs.entry path = .ok e := by
  simp only [entry, h, bind, Except.bind, ha]
  rfl

theorem follow_of_locate (h : fs.locate path = .ok place) : checkPath path = .ok () ∧
    fs.follow maxLinks (startFrom fs.cwd path) (parts path) = .ok place := by
  rw [locate_eq] at h
  cases hc : checkPath path
  case error => simp [hc, Except.bind] at h
  case ok => exact ⟨rfl, by simpa [hc, Except.bind] using h⟩

theorem ne_empty_of_locate (h : fs.locate path = .ok place) : path ≠ "" := by
  rintro rfl
  cases (follow_of_locate h).left

theorem ne_empty_of_entry {e : Entry} (h : fs.entry path = .ok e) : path ≠ "" := by
  obtain ⟨_, hl, _⟩ := exists_locate_of_entry h
  exact ne_empty_of_locate hl

theorem locate_join (h : fs.locate root = .ok place) (ha : fs.look place = some (.dir es))
    (hn : PlainName n) (hl : ∀ target, es.lookup n ≠ some (.link target)) :
    fs.locate (join root n) = (checkPath (join root n)).bind fun _ =>
      if maxName < n.utf8ByteSize then .error .nameTooLong else .ok (place ++ [n]) := by
  have hr := ne_empty_of_locate h
  rw [locate_eq, startFrom_join hr hn.toValidName, parts_join hr hn.toValidName,
    follow_append (follow_of_locate h).right]
  intro links
  have he := enter_name ha hn
  by_cases hm : maxName < n.utf8ByteSize
  case pos =>
    rw [if_pos hm] at he ⊢
    exact follow_cons_error he
  case neg =>
    rw [if_neg hm] at he ⊢
    rw [follow_cons he (target?_look_child ha hl), follow_nil]

theorem map_entry_join (h : fs.locate root = .ok place) (ha : fs.look place = some (.dir es))
    (hn : PlainName n) (hl : ∀ target, es.lookup n ≠ some (.link target))
    (hd : devices.at? (place ++ [n]) = none) :
    (fs.entry (join root n)).map Entry.surface = (checkPath (join root n)).bind fun _ =>
      if maxName < n.utf8ByteSize then .error .nameTooLong
      else ((es.lookup n).map Entry.surface).elim (.error .notFound) .ok := by
  rw [entry_eq, locate_join h ha hn hl]
  cases checkPath (join root n)
  case error => rfl
  case ok =>
    by_cases hm : maxName < n.utf8ByteSize
    case pos =>
      simp only [Except.bind, if_pos hm]
      rfl
    case neg =>
      have hj := namesDirectory_join (ne_empty_of_locate h) hn.toValidName
      simp only [Except.bind, if_neg hm, look_child ha n, hd, Option.or_none, hj, Bool.false_and]
      cases es.lookup n <;> rfl

end FileSystem

end GodotAtlas.Files
