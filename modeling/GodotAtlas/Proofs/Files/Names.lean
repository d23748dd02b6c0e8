import GodotAtlas.Files.Listing
import GodotAtlas.Proofs.Text.Matching

namespace GodotAtlas.Files

open Text

def pathOf (names : List String) : String :=
  "/".intercalate names

def walked (root : String) (names : List String) : String :=
  names.foldl join root

structure ValidName (name : String) : Prop where
  ne_empty : name ≠ ""
  no_slash : '/' ∉ name.toList

def ValidNames (names : List String) : Prop :=
  ∀ n ∈ names, ValidName n

theorem ValidNames.append {ns ms : List String} (hn : ValidNames ns) (hm : ValidNames ms) :
    ValidNames (ns ++ ms) := by
  intro n h
  cases List.mem_append.mp h
  case inl h => exact hn n h
  case inr h => exact hm n h

theorem validNames_replicate {n : String} (h : ValidName n) (k : Nat) :
    ValidNames (List.replicate k n) := by
  intro m hm
  rwa [List.eq_of_mem_replicate hm]

-- Every directory of a tree gives each of its entries a name of its own, of the sort `p`.
inductive Entry.Named (p : String → Prop) : Entry → Prop
  | file {bytes : List UInt8} : Named p (.file bytes)
  | link {target : String} : Named p (.link target)
  | device : Named p .device
  | locked {isDirectory : Bool} {cause : FileError} : Named p (.locked isDirectory cause)
  | dir {es : List (String × Entry)} (distinct : (es.map (·.1)).Nodup)
      (valid : ∀ e ∈ es, p e.1) (below : ∀ e ∈ es, Named p e.2) : Named p (.dir es)

abbrev Entry.WellFormed (e : Entry) : Prop :=
  e.Named ValidName

theorem Entry.Named.mono {p q : String → Prop} (h : ∀ n, p n → q n) {e : Entry} (he : e.Named p) :
    e.Named q := by
  induction he
  case file => exact .file
  case link => exact .link
  case device => exact .device
  case locked => exact .locked
  case dir hd hp _ hi => exact .dir hd (fun e he => h _ (hp e he)) hi

instance {name : String} : Decidable (ValidName name) :=
  decidable_of_iff (name ≠ "" ∧ '/' ∉ name.toList) ⟨fun ⟨h, h'⟩ => ⟨h, h'⟩, fun ⟨h, h'⟩ => ⟨h, h'⟩⟩

section

variable (p : String → Prop) [DecidablePred p]

mutual

def Entry.isNamed : Entry → Bool
  | .dir es => decide (es.map (·.1)).Nodup && areNamed es
  | _ => true

def areNamed : List (String × Entry) → Bool
  | [] => true
  | (n, e) :: es => decide (p n) && e.isNamed && areNamed es

end

mutual

theorem Entry.isNamed_iff : (e : Entry) → (e.isNamed p ↔ e.Named p)
  | .file _ => by simp [Entry.isNamed, Entry.Named.file]
  | .link _ => by simp [Entry.isNamed, Entry.Named.link]
  | .device => by simp [Entry.isNamed, Entry.Named.device]
  | .locked _ _ => by simp [Entry.isNamed, Entry.Named.locked]
  | .dir es => by
    simp only [Entry.isNamed, Bool.and_eq_true, decide_eq_true_eq, areNamed_iff es]
    constructor
    case mp => exact fun ⟨hd, he⟩ => .dir hd (fun e h => (he e h).left) fun e h => (he e h).right
    case mpr => exact fun | .dir hd hv hw => ⟨hd, fun e h => ⟨hv e h, hw e h⟩⟩

theorem areNamed_iff : (es : List (String × Entry)) →
    (areNamed p es ↔ ∀ e ∈ es, p e.1 ∧ e.2.Named p)
  | [] => by simp [areNamed]
  | (n, e) :: es => by
    simp [areNamed, Entry.isNamed_iff e, areNamed_iff es]

end

instance {e : Entry} : Decidable (e.Named p) :=
  decidable_of_iff _ (e.isNamed_iff p)

end

section

variable {root n : String} {names : List String}

theorem walked_nil : walked root [] = root :=
  rfl

theorem walked_singleton : walked root [n] = join root n :=
  rfl

theorem walked_cons : walked root (n :: names) = walked (join root n) names :=
  rfl

theorem walked_concat : walked root (names ++ [n]) = join (walked root names) n := by
  simp [walked]

end

@[simp]
theorem pathOf_nil : pathOf [] = "" :=
  rfl

@[simp]
theorem pathOf_singleton {n : String} : pathOf [n] = n := by
  simp [pathOf]

theorem pathOf_cons {n : String} {ns : List String} (h : ns ≠ []) :
    pathOf (n :: ns) = n ++ "/" ++ pathOf ns :=
  String.intercalate_cons_of_ne_nil h

theorem splitAt_pathOf {ns : List String} (hn : ns ≠ []) (hv : ValidNames ns) :
    splitAt '/' (pathOf ns).toList = ns.map String.toList := by
  rw [pathOf, String.toList_intercalate]
  exact splitAt_intercalate (by simpa using hn) (by simpa using fun n hm => (hv n hm).no_slash)

def namesOfPath (path : String) : List String :=
  (splitAt '/' path.toList).map String.ofList

theorem namesOfPath_pathOf {ns : List String} (hn : ns ≠ []) (hv : ValidNames ns) :
    namesOfPath (pathOf ns) = ns := by
  rw [namesOfPath, splitAt_pathOf hn hv, List.map_map]
  exact List.map_id'' (fun _ => String.ofList_toList) ns

theorem pathOf_injective {ns ms : List String} (hn : ns ≠ []) (hm : ms ≠ [])
    (hvn : ValidNames ns) (hvm : ValidNames ms) (h : pathOf ns = pathOf ms) : ns = ms := by
  rw [← namesOfPath_pathOf hn hvn, h, namesOfPath_pathOf hm hvm]

theorem pathOf_ne_empty {ns : List String} (hn : ns ≠ []) (hv : ValidNames ns) :
    pathOf ns ≠ "" := by
  intro h
  cases ns
  case nil => contradiction
  case cons n ns =>
    have hne := (hv n List.mem_cons_self).ne_empty
    by_cases he : ns = []
    case pos => simp_all
    case neg => simp [pathOf_cons he] at h

theorem below_pathOf {ds : List String} {n : String} (hv : ValidNames ds) :
    below (pathOf ds) n = pathOf (ds ++ [n]) := by
  by_cases hd : ds = []
  case pos => simp [hd, below]
  case neg =>
    have hne := pathOf_ne_empty hd hv
    simp only [below, String.isEmpty_iff, hne, if_false]
    simp [pathOf, String.intercalate_append_of_ne_nil hd]

section

variable {dirs : List String} {name : String}

theorem parts_pathOf {names : List String} (hn : names ≠ []) (hv : ValidNames names) :
    parts (pathOf names) = names.map String.toList := by
  rw [parts, splitAt_pathOf hn hv, List.filter_eq_self]
  intro cs hc
  obtain ⟨n, hm, rfl⟩ := List.mem_map.mp hc
  simpa using (hv n hm).ne_empty

theorem fileName?_pathOf (hv : ValidNames (dirs ++ [name])) (hc : name ≠ ".") (hp : name ≠ "..") :
    fileName? (pathOf (dirs ++ [name])) = some name := by
  have hc' : name.toList ≠ ['.'] := fun h => hc (String.toList_injective h)
  have hp' : name.toList ≠ ['.', '.'] := fun h => hp (String.toList_injective h)
  have hl : (((parts (pathOf (dirs ++ [name]))).filter (· != ['.'])).map Component.ofPart).getLast?
      = some (.name name) := by
    simp [parts_pathOf (by simp) hv, hc', Component.ofPart, hp']
  have hcs : (components (pathOf (dirs ++ [name]))).getLast? = some (.name name) := by
    rw [components]
    split_ifs <;> simp [List.getLast?_cons, hl]
  rw [fileName?, hcs]

theorem ofPath_pathOf (hv : ValidNames (dirs ++ [name])) (hc : name ≠ ".") (hp : name ≠ "..") :
    FileKind.ofPath (pathOf (dirs ++ [name])) =
      .ofExtension (String.ofList (((extensionOf? name.toList).getD []).map Char.toLower)) := by
  rw [FileKind.ofPath, extension, fileName?_pathOf hv hc hp, Option.bind_some]

end

end GodotAtlas.Files
