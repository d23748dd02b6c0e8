import GodotAtlas.Proofs.Files.Listing
import GodotAtlas.Proofs.Files.Writing

namespace GodotAtlas.Files

namespace Entry

mutual

def hollow : Entry → Entry
  | file _ => file []
  | dir es => dir (hollowIn es)
  | e => e

def hollowIn : List (String × Entry) → List (String × Entry)
  | [] => []
  | (n, e) :: es => (n, e.hollow) :: hollowIn es

end

variable {e f : Entry} {es : List (String × Entry)} {n : String} {ns : List String}

@[simp]
theorem shape_hollow : e.hollow.shape = e.shape := by
  cases e <;> rfl

@[simp]
theorem isDir_hollow : e.hollow.isDir = e.isDir := by
  rw [← isDir_shape, shape_hollow, isDir_shape]

theorem lookup_hollowIn : (hollowIn es).lookup n = (es.lookup n).map hollow := by
  induction es
  case nil => rfl
  case cons f es hi =>
    obtain ⟨m, f⟩ := f
    rw [hollowIn, lookup_cons, lookup_cons, hi]
    split <;> rfl

theorem at?_hollow : e.hollow.at? ns = (e.at? ns).map hollow := by
  induction ns generalizing e
  case nil => rfl
  case cons n ns hi =>
    cases e
    case dir es =>
      simp only [hollow, at?, child?, entries, lookup_hollowIn]
      cases es.lookup n
      case none => rfl
      case some f => exact hi
    all_goals rfl

theorem hollowIn_putEntry (h : es.lookup n = some e) (hf : f.hollow = e.hollow) :
    hollowIn (putEntry n f es) = hollowIn es := by
  induction es
  case nil => simp at h
  case cons g es hi =>
    obtain ⟨m, g⟩ := g
    rw [lookup_cons] at h
    rw [putEntry]
    split
    case isTrue hm =>
      subst hm
      rw [if_pos rfl] at h
      cases h
      rw [hollowIn, hollowIn, hf]
    case isFalse hm =>
      rw [if_neg (Ne.symm hm)] at h
      rw [hollowIn, hollowIn, hi h]

theorem hollow_put {old new : List UInt8} (h : e.at? ns = some (file old)) :
    (e.put ns (file new)).hollow = e.hollow := by
  induction ns generalizing e
  case nil =>
    cases h
    rfl
  case cons n ns hi =>
    obtain ⟨g, hg, ha⟩ := Option.bind_eq_some_iff.mp h
    cases e
    case dir es =>
      have hl : es.lookup n = some g := hg
      rw [put, hg, Option.getD_some, hollow, hollow, entries, hollowIn_putEntry hl (hi ha)]
    all_goals simp [child?, entries] at hg

theorem hollow_foldl_put {places : List (List String)} {bytes : List UInt8}
    (h : ∀ p ∈ places, ∃ old, e.at? p = some (file old)) :
    (places.foldl (fun e p => e.put p (file bytes)) e).hollow = e.hollow := by
  induction places generalizing e
  case nil => rfl
  case cons q places hi =>
    obtain ⟨⟨old, hq⟩, h⟩ := List.forall_mem_cons.mp h
    rw [List.foldl_cons, hi, hollow_put hq]
    intro p hp
    obtain ⟨old, ho⟩ := h p hp
    obtain ⟨hc, hothers⟩ := foldl_put (List.forall_mem_singleton.mpr ⟨_, hq⟩) bytes
    by_cases hpq : p = q
    case pos => exact ⟨bytes, hc p (List.mem_singleton.mpr hpq)⟩
    case neg =>
      have hs := hothers p (by simpa using hpq)
      exact ⟨old, map_surface_eq_file_iff.mp (hs.trans (map_surface_eq_file_iff.mpr ho))⟩

end Entry

open Entry

section

variable {fs fs' : FileSystem} {x : Exclusion}

mutual

theorem filesAt_hollow {path relative : String} : (e : Entry) →
    filesAt fs x path relative e.hollow = filesAt fs x path relative e
  | .file _ | .link _ | .device | .locked _ _ => rfl
  | .dir es => by rw [hollow, filesAt, filesAt, filesIn_hollow es]

theorem filesIn_hollow {path relative : String} : (es : List (String × Entry)) →
    filesIn fs x path relative (hollowIn es) = filesIn fs x path relative es
  | [] => rfl
  | (n, e) :: es => by
    have hc : x.covers n (below relative n) e.hollow = x.covers n (below relative n) e := by
      simp only [Exclusion.covers, isDir_hollow]
    rw [hollowIn, filesIn, filesIn, hc, filesAt_hollow e, filesIn_hollow es]

end

mutual

theorem filesAt_congr (h : ∀ path, (fs.readDir path).toBool = (fs'.readDir path).toBool)
    {path relative : String} : (e : Entry) →
    filesAt fs x path relative e = filesAt fs' x path relative e
  | .file _ | .link _ | .device | .locked true _ | .locked false _ => rfl
  | .dir es => by rw [filesAt, filesAt, h, filesIn_congr h es]

theorem filesIn_congr (h : ∀ path, (fs.readDir path).toBool = (fs'.readDir path).toBool)
    {path relative : String} : (es : List (String × Entry)) →
    filesIn fs x path relative es = filesIn fs' x path relative es
  | [] => rfl
  | (n, e) :: es => by rw [filesIn, filesIn, filesAt_congr h e, filesIn_congr h es]

end

end

namespace FileSystem

-- Two file systems that differ at most in what the files at some places hold.
structure Alike (places : List (List String)) (fs fs' : FileSystem) : Prop where
  cwd : fs.cwd = fs'.cwd
  tree : fs.root.hollow = fs'.root.hollow
  others : ∀ p ∉ places, (fs.root.at? p).map surface = (fs'.root.at? p).map surface

variable {fs fs' : FileSystem} {places : List (List String)} {place p : List String} {path : String}
  {es : List (String × Entry)} {bytes : List UInt8}

theorem alike_store (h : ∃ old, fs.look place = some (.file old)) (bytes : List UInt8) :
    Alike (fs.namesOf place) fs (fs.store place bytes) := by
  obtain ⟨old, ho⟩ := h
  have hd : fs.look place ≠ some .device := by simp [ho]
  have hw := rewritten_store (.file ho) hd bytes
  have hfiles : ∀ p ∈ fs.namesOf place, ∃ old, fs.root.at? p = some (.file old) := by
    intro p hp
    by_cases hn : p = place
    case pos => exact ⟨old, hn ▸ at?_of_look_file ho⟩
    case neg => exact file_of_mem_namesOf hp hn
  constructor
  case cwd => exact hw.cwd.symm
  case tree => rw [store_eq hd, hollow_foldl_put hfiles]
  case others => exact fun p hp => (hw.others p hp).symm

namespace Alike

theorem symm (h : Alike places fs fs') : Alike places fs' fs :=
  ⟨h.cwd.symm, h.tree.symm, fun p hp => (h.others p hp).symm⟩

variable (h : Alike places fs fs')
include h

theorem look_hollow (p : List String) :
    (fs.look p).map hollow = (fs'.look p).map hollow := by
  have ha : (fs.root.at? p).map hollow = (fs'.root.at? p).map hollow := by
    rw [← at?_hollow, ← at?_hollow, h.tree]
  rw [look, look]
  cases hl : fs.root.at? p <;> cases hl' : fs'.root.at? p <;> simp_all

theorem look_others (hp : p ∉ places) : (fs.look p).map surface = (fs'.look p).map surface := by
  have ho := h.others p hp
  rw [look, look]
  cases hl : fs.root.at? p <;> cases hl' : fs'.root.at? p <;> simp_all

theorem look_shape (p : List String) : (fs.look p).map shape = (fs'.look p).map shape :=
  map_congr_of_comp (fun _ => shape_hollow) (h.look_hollow p)

theorem locate_eq : fs.locate path = fs'.locate path := by
  refine eq_of_mapError_id (locate_congr_view h.cwd (fun here part => ?_) fun p => ?_)
  · rw [enter_congr (h.look_shape here)]
  · exact bind_target?_congr (h.look_shape p)

theorem entry_shape : (fs.entry path).map shape = (fs'.entry path).map shape :=
  entry_congr (fun _ => isDir_shape) h.locate_eq fun p _ => h.look_shape p

theorem isFile_eq : fs.isFile path = fs'.isFile path :=
  isFile_congr (fun _ => isFile_shape) h.entry_shape

theorem read_eq (hp : ∀ p, fs.locate path = .ok p → p ∉ places) :
    fs.read path = fs'.read path :=
  read_congr (entry_congr (fun _ => isDir_surface) h.locate_eq fun p hl => h.look_others (hp p hl))

theorem exists_listing_eq {root : String} (hr : fs.entry root = .ok (.dir es)) :
    ∃ es', fs'.entry root = .ok (.dir es') ∧
      ∀ x, listing fs x root es = listing fs' x root es' := by
  have he : (fs.entry root).map hollow = (fs'.entry root).map hollow :=
    entry_congr (fun _ => isDir_hollow) h.locate_eq fun p _ => h.look_hollow p
  rw [hr] at he
  cases he' : fs'.entry root
  case error => simp [he', Except.map] at he
  case ok e =>
    have he : (Entry.dir es).hollow = e.hollow := by simpa [he', Except.map] using he
    cases e
    case dir es' =>
      have hes : hollowIn es = hollowIn es' := by simpa [hollow] using he
      refine ⟨es', rfl, fun x => ?_⟩
      rw [listing, listing, ← filesIn_hollow es, ← filesIn_hollow es', hes,
        filesIn_congr fun path => toBool_readDir_congr h.entry_shape]
    all_goals simp [hollow] at he

end Alike

end FileSystem

end GodotAtlas.Files
