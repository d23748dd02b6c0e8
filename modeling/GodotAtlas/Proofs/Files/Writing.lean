import GodotAtlas.Proofs.Files.Places

namespace GodotAtlas.Files

namespace Entry

variable {e f new : Entry} {es : List (String × Entry)} {n m : String} {ns ms : List String}

theorem lookup_putEntry :
    (putEntry n e es).lookup m = if m = n then some e else es.lookup m := by
  induction es
  case nil => exact lookup_cons
  case cons f es hi =>
    obtain ⟨k, f⟩ := f
    rw [putEntry]
    split
    case isTrue hk =>
      subst hk
      simp only [lookup_cons]
      split <;> rfl
    case isFalse hk =>
      by_cases h : m = k
      case pos => simp [h, hk]
      case neg => simp [lookup_cons, h, hi]

theorem putEntry_of_lookup (h : es.lookup n = some e) : putEntry n e es = es := by
  induction es
  case nil => simp at h
  case cons f es hi =>
    obtain ⟨k, f⟩ := f
    rw [lookup_cons] at h
    rw [putEntry]
    split
    case isTrue hk => simp_all
    case isFalse hk =>
      rw [if_neg (Ne.symm hk)] at h
      rw [hi h]

theorem child?_put : (e.put (n :: ns) new).child? m =
    if m = n then some (((e.child? n).getD (dir [])).put ns new) else e.child? m :=
  lookup_putEntry

theorem at?_put : (e.put ns new).at? ns = some new := by
  induction ns generalizing e
  case nil => rfl
  case cons n ns hi =>
    rw [at?, child?_put, if_pos rfl, Option.bind_some]
    exact hi

theorem at?_put_concat (h : e.at? ns = some (dir es)) :
    (e.put (ns ++ [n]) new).at? ns = some (dir (putEntry n new es)) := by
  induction ns generalizing e
  case nil =>
    cases h
    rfl
  case cons m ns hi =>
    obtain ⟨g, hg, ha⟩ := Option.bind_eq_some_iff.mp h
    rw [List.cons_append, at?, child?_put, if_pos rfl, hg, Option.bind_some, Option.getD_some]
    exact hi ha

theorem put_of_at? (h : e.at? ns = some f) : e.put ns f = e := by
  induction ns generalizing e
  case nil => simpa [at?, put, eq_comm] using h
  case cons n ns hi =>
    obtain ⟨g, hg, ha⟩ := Option.bind_eq_some_iff.mp h
    cases e
    case dir es =>
      have hp : putEntry n g es = es := putEntry_of_lookup hg
      simp [put, hg, hi ha, entries, hp]
    all_goals simp [child?, entries] at hg

theorem surface_at?_put {bytes : List UInt8} (hd : e.at? ns = some (dir es))
    (hn : ∀ ds, es.lookup n ≠ some (dir ds)) (hm : ms ≠ ns ++ [n]) :
    ((e.put (ns ++ [n]) (file bytes)).at? ms).map surface = (e.at? ms).map surface := by
  induction ns generalizing e ms
  case nil =>
    cases hd
    cases ms
    case nil => rfl
    case cons m ms =>
      rw [List.nil_append, at?, at?, child?_put]
      by_cases he : m = n
      case neg => simp [he]
      case pos =>
        -- There was no directory to go into, and there is none now.
        have hms : ms ≠ [] := by simpa [he] using hm
        have hnew : (file bytes).at? ms = none := at?_leaf (by simp) hms
        subst he
        cases hl : es.lookup m
        case none => simp [child?, entries, hl, put, hnew]
        case some f =>
          have hold : f.at? ms = none := at?_leaf (fun ds hf => hn ds (hf ▸ hl)) hms
          simp [child?, entries, hl, put, hnew, hold]
  case cons k ns hi =>
    obtain ⟨g, hg, ha⟩ := Option.bind_eq_some_iff.mp hd
    cases ms
    case nil =>
      cases e
      case dir => rfl
      all_goals simp [child?, entries] at hg
    case cons m ms =>
      rw [List.cons_append, at?, at?, child?_put]
      by_cases he : m = k
      case neg => simp [he]
      case pos =>
        subst he
        simpa [hg] using hi ha (by simpa using hm)

theorem exists_dir_of_concat (h : e.at? (ns ++ [n]) = some f) :
    ∃ es, e.at? ns = some (dir es) ∧ es.lookup n = some f := by
  rw [at?_append] at h
  obtain ⟨g, hg, ha⟩ := Option.bind_eq_some_iff.mp h
  cases g
  case dir es => exact ⟨es, hg, by simpa [at?, child?, entries] using ha⟩
  all_goals simp [at?, child?, entries] at ha

theorem surface_at?_put_of_file {bytes bytes' : List UInt8} (h : e.at? ns = some (file bytes))
    (hm : ms ≠ ns) : ((e.put ns (file bytes')).at? ms).map surface = (e.at? ms).map surface := by
  obtain rfl | ⟨front, n, rfl⟩ := List.eq_nil_or_concat ns
  · cases h
    simp [put, at?_leaf _ hm]
  · rw [List.concat_eq_append] at h hm ⊢
    obtain ⟨es, hd, hl⟩ := exists_dir_of_concat h
    exact surface_at?_put hd (by simp [hl]) hm

theorem foldl_put {places : List (List String)}
    (h : ∀ p ∈ places, ∃ old, e.at? p = some (file old)) (bytes : List UInt8) :
    let new := places.foldl (fun e p => e.put p (file bytes)) e
    (∀ p ∈ places, new.at? p = some (file bytes)) ∧
      ∀ p ∉ places, (new.at? p).map surface = (e.at? p).map surface := by
  induction places generalizing e
  case nil => simp
  case cons q places hi =>
    obtain ⟨⟨old, hq⟩, h⟩ := List.forall_mem_cons.mp h
    have hothers : ∀ p, p ≠ q →
        ((e.put q (file bytes)).at? p).map surface = (e.at? p).map surface :=
      fun p => surface_at?_put_of_file hq
    have hfiles : ∀ p ∈ places, ∃ old, (e.put q (file bytes)).at? p = some (file old) := by
      intro p hp
      by_cases hpq : p = q
      case pos => exact ⟨bytes, hpq ▸ at?_put⟩
      case neg =>
        obtain ⟨old, ho⟩ := h p hp
        have hs := (hothers p hpq).trans (map_surface_eq_file_iff.mpr ho)
        exact ⟨old, map_surface_eq_file_iff.mp hs⟩
    obtain ⟨hc, ho⟩ := hi hfiles
    rw [List.foldl_cons]
    constructor
    case left =>
      intro p hp
      by_cases hm : p ∈ places
      case pos => exact hc p hm
      case neg =>
        obtain rfl : p = q := (List.mem_cons.mp hp).resolve_right hm
        exact map_surface_eq_file_iff.mp ((ho p hm).trans (map_surface_eq_file_iff.mpr at?_put))
    case right =>
      intro p hp
      rw [List.mem_cons, not_or] at hp
      rw [ho p hp.right, hothers p hp.left]

end Entry

namespace FileSystem

variable {fs fs' before after : FileSystem} {path : String} {place here : List String}
  {places : List (List String)} {part : List Char} {ps : List (List Char)} {bytes : List UInt8}
  {links : Nat} {view : FileError → FileError}

-- A place that a file can be written at.
inductive Takes (fs : FileSystem) (place : List String) : Prop
  | device (held : fs.look place = some .device)
  | file {old : List UInt8} (held : fs.look place = some (.file old))
  | new {es : List (String × Entry)} (free : fs.look place = none)
      (dir : fs.root.at? place.dropLast = some (.dir es))

theorem target_eq_ok_iff : fs.target path = .ok place ↔
    fs.locate path = .ok place ∧ namesDirectory path = false ∧ fs.Takes place := by
  simp only [target, bind, Except.bind]
  cases fs.locate path
  case error => simp
  case ok found =>
    cases namesDirectory path
    case true => simp [throw, throwThe, MonadExceptOf.throw]
    case false =>
      simp only [Bool.false_eq_true, if_false, pure, Except.pure]
      constructor
      case mp =>
        intro h
        split at h
        case h_1 ha =>
          cases h
          exact ⟨rfl, trivial, .file ha⟩
        case h_2 ha =>
          cases h
          exact ⟨rfl, trivial, .device ha⟩
        case h_3 | h_4 => cases h
        case h_5 ha =>
          split at h
          case h_1 hd =>
            cases h
            exact ⟨rfl, trivial, .new ha hd⟩
          case h_2 => cases h
      case mpr =>
        rintro ⟨⟨⟩, -, h⟩
        cases h
        case device ha => simp [ha]
        case file ha => simp [ha]
        case new ha hd => simp [ha, hd]

theorem at?_of_look_file (h : fs.look place = some (.file bytes)) :
    fs.root.at? place = some (.file bytes) := by
  rw [look, Option.or_eq_some_iff] at h
  refine h.resolve_right ?_
  rintro ⟨-, hd⟩
  rw [devices] at hd
  cases place
  case nil => cases hd
  case cons n names =>
    rw [Entry.at?_singleton] at hd
    split at hd
    case isFalse => cases hd
    case isTrue =>
      cases names
      case nil => cases hd
      case cons m names =>
        rw [Entry.at?_singleton] at hd
        split at hd
        case isFalse => cases hd
        case isTrue => cases names <;> cases hd

theorem look_of_at? {e : Entry} (h : fs.root.at? place = some e) : fs.look place = some e := by
  rw [look, h, Option.some_or]

-- Paths lead to the same places in file systems that lead on from every place alike, where
-- `view` tells which faults are to be told apart.
theorem follow_congr_view
    (he : ∀ here part, (fs.enter here part).mapError view = (fs'.enter here part).mapError view)
    (ht : ∀ p, (fs.look p).bind Entry.target? = (fs'.look p).bind Entry.target?) :
    (fs.follow links here ps).mapError view = (fs'.follow links here ps).mapError view := by
  induction links using Nat.strongRec generalizing here ps
  case ind links hlinks =>
    induction ps generalizing here
    case nil => rw [follow_nil, follow_nil]
    case cons p ps hi =>
      have hp := he here p
      cases h : fs.enter here p
      case error =>
        cases h' : fs'.enter here p
        case ok => simp [h, h', Except.mapError] at hp
        case error =>
          rw [follow_cons_error h, follow_cons_error h']
          simpa [h, h', Except.mapError] using hp
      case ok next =>
        cases h' : fs'.enter here p
        case error => simp [h, h', Except.mapError] at hp
        case ok next' =>
          obtain rfl : next = next' := by simpa [h, h', Except.mapError] using hp
          cases hl : (fs.look next).bind Entry.target?
          case none =>
            rw [follow_cons h hl, follow_cons h' (ht next ▸ hl)]
            exact hi
          case some target =>
            rw [follow_cons_link h hl, follow_cons_link h' (ht next ▸ hl)]
            cases links
            case zero => rfl
            case succ links => exact hlinks links (Nat.lt_succ_self links)

theorem locate_congr_view (hc : fs.cwd = fs'.cwd)
    (he : ∀ here part, (fs.enter here part).mapError view = (fs'.enter here part).mapError view)
    (ht : ∀ p, (fs.look p).bind Entry.target? = (fs'.look p).bind Entry.target?) :
    (fs.locate path).mapError view = (fs'.locate path).mapError view := by
  rw [locate_eq, locate_eq, hc]
  cases checkPath path
  case error => rfl
  case ok => exact follow_congr_view he ht

theorem eq_ok_iff_of_mapError {α ε ε' : Type} {f : ε → ε'} {x y : Except ε α} {a : α}
    (h : x.mapError f = y.mapError f) : x = .ok a ↔ y = .ok a := by
  cases x <;> cases y <;> simp_all [Except.mapError]

theorem eq_of_mapError_id {α ε : Type} {x y : Except ε α} (h : x.mapError id = y.mapError id) :
    x = y := by
  cases x <;> cases y <;> simp_all [Except.mapError]

-- A file system that has changed at most in the files at some places. There were files or nothing.
structure Rewritten (places : List (List String)) (bytes : List UInt8)
    (before after : FileSystem) : Prop where
  cwd : after.cwd = before.cwd
  hardLinks : after.hardLinks = before.hardLinks
  content : ∀ p ∈ places, after.root.at? p = some (.file bytes)
  replaced : ∀ p ∈ places, ∀ e, before.look p = some e → ∃ old, e = .file old
  others : ∀ p ∉ places,
    (after.root.at? p).map Entry.surface = (before.root.at? p).map Entry.surface

theorem store_of_device (h : fs.look place = some .device) : fs.store place bytes = fs := by
  simp only [store, h]

theorem store_eq (h : fs.look place ≠ some .device) : fs.store place bytes = { fs with
    root := (fs.namesOf place).foldl (fun root name => root.put name (.file bytes)) fs.root } := by
  rw [store]
  split
  case h_1 hd => exact absurd hd h
  case h_2 => rfl

theorem store_eq_self (h : ∀ p ∈ fs.namesOf place, fs.root.at? p = some (.file bytes)) :
    fs.store place bytes = fs := by
  have hput : ∀ names : List (List String), (∀ p ∈ names, fs.root.at? p = some (.file bytes)) →
      names.foldl (fun root name => root.put name (.file bytes)) fs.root = fs.root := by
    intro names hn
    induction names
    case nil => rfl
    case cons p names hi =>
      obtain ⟨hp, hn⟩ := List.forall_mem_cons.mp hn
      rw [List.foldl_cons, Entry.put_of_at? hp, hi hn]
  rw [store]
  split
  case h_1 => rfl
  case h_2 => rw [hput _ h]

theorem write_eq : fs.write path bytes = (fs.target path).map (fs.store · bytes) := by
  simp only [write, bind, Except.bind]
  cases fs.target path <;> rfl

theorem file_of_mem_namesOf {name : List String} (h : name ∈ fs.namesOf place)
    (hn : name ≠ place) : ∃ old, fs.root.at? name = some (.file old) := by
  have h := (List.mem_cons.mp h).resolve_left hn
  simp only [List.mem_filter, Bool.and_eq_true, Option.any_eq_true] at h
  obtain ⟨_, _, e, he, hf⟩ := h
  cases e
  case file old => exact ⟨old, he⟩
  all_goals simp at hf

theorem surface_at?_put (ht : fs.Takes place) (hd : fs.look place ≠ some .device)
    {p : List String} (hp : p ≠ place) :
    ((fs.root.put place (.file bytes)).at? p).map Entry.surface =
      (fs.root.at? p).map Entry.surface := by
  cases ht
  case device held => exact absurd held hd
  case file held => exact Entry.surface_at?_put_of_file (at?_of_look_file held) hp
  case new free dir =>
    obtain rfl | ⟨front, n, rfl⟩ := List.eq_nil_or_concat place
    · cases free
    · rw [List.concat_eq_append] at hp free dir ⊢
      rw [List.dropLast_concat] at dir
      rw [look_child (look_of_at? dir) n, Option.or_eq_none_iff] at free
      exact Entry.surface_at?_put dir (by simp [free.left]) hp

-- The directory of a file that is written is in the tree itself.
theorem Takes.exists_dir {n : String} (h : fs.Takes (place ++ [n]))
    (hd : fs.look (place ++ [n]) ≠ some .device) : ∃ es, fs.root.at? place = some (.dir es) := by
  cases h
  case device held => exact absurd held hd
  case file held =>
    obtain ⟨es, hes, _⟩ := Entry.exists_dir_of_concat (at?_of_look_file held)
    exact ⟨es, hes⟩
  case new es _ dir =>
    rw [List.dropLast_concat] at dir
    exact ⟨es, dir⟩

theorem rewritten_store (ht : fs.Takes place) (hd : fs.look place ≠ some .device)
    (bytes : List UInt8) : Rewritten (fs.namesOf place) bytes fs (fs.store place bytes) := by
  -- Once there is a file at the place, there is one under each of its names.
  have hfiles : ∀ p ∈ fs.namesOf place,
      ∃ old, (fs.root.put place (.file bytes)).at? p = some (.file old) := by
    intro p hp
    by_cases hn : p = place
    case pos => exact ⟨bytes, hn ▸ Entry.at?_put⟩
    case neg =>
      obtain ⟨old, ho⟩ := file_of_mem_namesOf hp hn
      refine ⟨old, Entry.map_surface_eq_file_iff.mp ?_⟩
      rw [surface_at?_put ht hd hn, Entry.map_surface_eq_file_iff.mpr ho]
  have hroot : (fs.store place bytes).root =
      (fs.namesOf place).foldl (fun root name => root.put name (.file bytes))
        (fs.root.put place (.file bytes)) := by
    rw [store_eq hd, namesOf, List.foldl_cons, List.foldl_cons, Entry.put_of_at? Entry.at?_put]
  obtain ⟨hc, ho⟩ := Entry.foldl_put hfiles bytes
  rw [← hroot] at hc ho
  constructor
  case cwd => rw [store_eq hd]
  case hardLinks => rw [store_eq hd]
  case content => exact hc
  case replaced =>
    intro p hp e he
    by_cases hn : p = place
    case neg =>
      obtain ⟨old, hold⟩ := file_of_mem_namesOf hp hn
      exact ⟨old, Option.some.inj (he.symm.trans (look_of_at? hold))⟩
    case pos =>
      subst hn
      cases ht
      case device held => exact absurd held hd
      case file old held => exact ⟨old, Option.some.inj (he.symm.trans held)⟩
      case new free _ => simp [free] at he
  case others =>
    intro p hp
    have hn : p ≠ place := by
      rintro rfl
      exact hp List.mem_cons_self
    rw [ho p hp, surface_at?_put ht hd hn]

theorem rewritten_of_target (h : fs.target path = .ok place) (hd : fs.look place ≠ some .device)
    (bytes : List UInt8) : Rewritten (fs.namesOf place) bytes fs (fs.store place bytes) :=
  rewritten_store (target_eq_ok_iff.mp h).right.right hd bytes

namespace Rewritten

variable (h : Rewritten places bytes before after) {p : List String}
include h

theorem look_content (hp : p ∈ places) : after.look p = some (.file bytes) :=
  look_of_at? (h.content p hp)

theorem look_others (hp : p ∉ places) :
    (after.look p).map Entry.surface = (before.look p).map Entry.surface := by
  have ho := h.others p hp
  rw [look, look]
  cases ha : after.root.at? p <;> cases hb : before.root.at? p <;> simp_all

theorem look_replaced (hp : p ∈ places) :
    before.look p = none ∨ ∃ old, before.look p = some (.file old) := by
  cases hb : before.look p
  case none => exact .inl rfl
  case some e =>
    obtain ⟨old, rfl⟩ := h.replaced p hp e hb
    exact .inr ⟨old, rfl⟩

theorem look_shape_others (hp : p ∉ places) :
    (before.look p).map Entry.shape = (after.look p).map Entry.shape :=
  Entry.map_congr_of_comp (fun _ => Entry.shape_surface) (h.look_others hp).symm

theorem bind_target? (p : List String) :
    (before.look p).bind Entry.target? = (after.look p).bind Entry.target? := by
  by_cases hp : p ∈ places
  case neg => exact Entry.bind_target?_congr (h.look_shape_others hp)
  case pos =>
    rw [h.look_content hp]
    obtain hb | ⟨old, hb⟩ := h.look_replaced hp <;> rw [hb] <;> rfl

theorem locate_eq_ok_iff : after.locate path = .ok p ↔ before.locate path = .ok p := by
  let view (_ : FileError) : FileError := .notFound
  have he : ∀ here part,
      (before.enter here part).mapError view = (after.enter here part).mapError view := by
    intro here part
    by_cases hp : here ∈ places
    case neg => rw [enter_congr (h.look_shape_others hp)]
    case pos =>
      have ha := h.look_content hp
      obtain hb | ⟨old, hb⟩ := h.look_replaced hp <;> simp [enter, ha, hb, Except.mapError, view]
  exact (eq_ok_iff_of_mapError (locate_congr_view h.cwd.symm he h.bind_target?)).symm

theorem look_shape (hp : before.look p ≠ none) :
    (before.look p).map Entry.shape = (after.look p).map Entry.shape := by
  by_cases hm : p ∈ places
  case neg => exact h.look_shape_others hm
  case pos =>
    obtain ⟨old, ho⟩ := (h.look_replaced hm).resolve_left hp
    rw [ho, h.look_content hm]
    rfl

theorem isFile (hf : before.isFile path) : after.isFile path := by
  obtain ⟨e, he⟩ := exists_entry_of_isFile hf
  obtain ⟨p, hl, ha⟩ := exists_locate_of_entry he
  have hl' := h.locate_eq_ok_iff.mpr hl
  have hs : (before.entry path).map Entry.shape = (after.entry path).map Entry.shape := by
    refine entry_congr (fun _ => Entry.isDir_shape) (hl.trans hl'.symm) fun q hq => ?_
    obtain rfl : p = q := Except.ok.inj (hl.symm.trans hq)
    exact h.look_shape (by simp [ha])
  rwa [← isFile_congr (fun _ => Entry.isFile_shape) hs]

theorem entry_surface (hl : after.locate path = .ok p) (hp : p ∉ places) :
    (before.entry path).map Entry.surface = (after.entry path).map Entry.surface := by
  have hl' := h.locate_eq_ok_iff.mp hl
  refine entry_congr (fun _ => Entry.isDir_surface) (hl'.trans hl.symm) fun q hq => ?_
  obtain rfl : p = q := Except.ok.inj (hl'.symm.trans hq)
  exact (h.look_others hp).symm

theorem exists_dir {es : List (String × Entry)} (he : before.entry path = .ok (.dir es)) :
    ∃ es', after.entry path = .ok (.dir es') := by
  obtain ⟨p, hl, ha⟩ := exists_locate_of_entry he
  have hp : p ∉ places := by
    intro hm
    obtain ⟨old, ho⟩ := h.replaced p hm _ ha
    cases ho
  have hs := h.entry_surface (h.locate_eq_ok_iff.mpr hl) hp
  rw [he] at hs
  cases he' : after.entry path
  case error => simp [he', Except.map] at hs
  case ok e =>
    cases e
    case dir es' => exact ⟨es', rfl⟩
    all_goals simp [he', Except.map, Entry.surface] at hs

theorem takes (hp : p ∈ places) : after.Takes p :=
  .file (h.look_content hp)

theorem target (hp : p ∈ places) (ht : before.target path = .ok p) : after.target path = .ok p := by
  rw [target_eq_ok_iff] at ht ⊢
  exact ⟨h.locate_eq_ok_iff.mpr ht.left, ht.right.left, h.takes hp⟩

theorem place_eq_ok (hp : p ∈ places) (ht : before.target path = .ok p) :
    after.place path = .ok p := by
  obtain ⟨hl, hd, _⟩ := target_eq_ok_iff.mp ht
  rw [place_eq, h.locate_eq_ok_iff.mpr hl]
  simp [Except.bind, h.look_content hp, hd]

theorem read_eq_ok (hp : p ∈ places) (ht : before.target path = .ok p) :
    after.read path = .ok bytes := by
  have he := entry_of_place (h.place_eq_ok hp ht) (h.look_content hp)
  rw [read_eq, he]
  rfl

end Rewritten

theorem Rewritten.namesOf_eq (h : Rewritten (before.namesOf place) bytes before after) :
    after.namesOf place = before.namesOf place := by
  rw [namesOf, namesOf, h.hardLinks]
  congr 1
  apply List.filter_congr
  intro name hname
  by_cases hn : name = place
  case pos => simp [hn]
  case neg =>
    by_cases hm : name ∈ before.namesOf place
    case pos =>
      obtain ⟨old, ho⟩ := file_of_mem_namesOf hm hn
      simp [ho, h.content name hm]
    case neg =>
      have hs := h.others name hm
      cases ha : after.root.at? name <;> cases hb : before.root.at? name
      case some.some e e' =>
        rw [ha, hb] at hs
        cases e <;> cases e' <;> simp_all [Entry.surface]
      all_goals simp_all

theorem Rewritten.store_eq_self (h : Rewritten (before.namesOf place) bytes before after) :
    after.store place bytes = after :=
  FileSystem.store_eq_self fun p hp => h.content p (h.namesOf_eq ▸ hp)

theorem file_of_isFile (ht : fs.target path = .ok place) (hf : fs.isFile path) :
    ∃ old, fs.look place = some (.file old) := by
  obtain ⟨hl, hd, ht⟩ := target_eq_ok_iff.mp ht
  cases ht
  case file old held => exact ⟨old, held⟩
  all_goals simp_all [isFile, entry_eq, Except.bind, Entry.isFile]

end FileSystem

end GodotAtlas.Files
