namespace GodotAtlas

structure SortedMap (κ α : Type) [Ord κ] where
  entries : List (κ × α) := []
  ascending : entries.Pairwise fun a b => compare a.1 b.1 = .lt := by exact List.Pairwise.nil

namespace SortedMap

variable {κ α β : Type} [Ord κ]

@[ext]
theorem ext {m n : SortedMap κ α} (h : m.entries = n.entries) : m = n := by
  cases m; cases n; cases h; rfl

def empty : SortedMap κ α := {}

instance : Inhabited (SortedMap κ α) := ⟨empty⟩

def keys (m : SortedMap κ α) : List κ :=
  m.entries.map (·.1)

def values (m : SortedMap κ α) : List α :=
  m.entries.map (·.2)

def size (m : SortedMap κ α) : Nat :=
  m.entries.length

def isEmpty (m : SortedMap κ α) : Bool :=
  m.entries.isEmpty

def get? (m : SortedMap κ α) (k : κ) : Option α :=
  (m.entries.find? fun e => compare k e.1 == .eq).map (·.2)

def contains (m : SortedMap κ α) (k : κ) : Bool :=
  (m.get? k).isSome

def alterEntries (k : κ) (f : Option α → α) : List (κ × α) → List (κ × α)
  | [] => [(k, f none)]
  | (l, v) :: es =>
    match compare k l with
    | .lt => (k, f none) :: (l, v) :: es
    | .eq => (k, f (some v)) :: es
    | .gt => (l, v) :: alterEntries k f es

theorem mem_alterEntries {k : κ} {f : Option α → α} {es : List (κ × α)} {e : κ × α}
    (h : e ∈ alterEntries k f es) : e.1 = k ∨ e ∈ es := by
  fun_induction alterEntries k f es with
  | case1 => simp_all
  | case2 l v es _ => simp_all; grind
  | case3 l v es _ => simp_all; grind
  | case4 l v es _ ih => simp_all; grind

variable [Std.TransOrd κ]

theorem alterEntries_ascending [Std.LawfulEqOrd κ] (k : κ) (f : Option α → α)
    (es : List (κ × α)) (h : es.Pairwise fun a b => compare a.1 b.1 = .lt) :
    (alterEntries k f es).Pairwise fun a b => compare a.1 b.1 = .lt := by
  fun_induction alterEntries k f es with
  | case1 => simp
  | case2 l v es hk =>
    refine List.pairwise_cons.2 ⟨fun e he => ?_, h⟩
    rcases List.mem_cons.1 he with rfl | he
    · exact hk
    · exact Std.TransCmp.lt_trans hk ((List.pairwise_cons.1 h).1 e he)
  | case3 l v es hk =>
    obtain rfl := Std.LawfulEqOrd.eq_of_compare hk
    exact List.pairwise_cons.2 (List.pairwise_cons.1 h)
  | case4 l v es hk ih =>
    refine List.pairwise_cons.2 ⟨fun e he => ?_, ih (List.pairwise_cons.1 h).2⟩
    rcases mem_alterEntries he with rfl | he
    · exact Std.OrientedCmp.lt_of_gt hk
    · exact (List.pairwise_cons.1 h).1 e he

variable [Std.LawfulEqOrd κ]

def alter (m : SortedMap κ α) (k : κ) (f : Option α → α) : SortedMap κ α where
  entries := alterEntries k f m.entries
  ascending := alterEntries_ascending k f m.entries m.ascending

def insert (m : SortedMap κ α) (k : κ) (v : α) : SortedMap κ α :=
  m.alter k fun _ => v

def ofList (es : List (κ × α)) : SortedMap κ α :=
  es.foldl (fun m e => m.insert e.1 e.2) empty

def group (es : List (κ × α)) : SortedMap κ (List α) :=
  es.foldl (fun m e => m.alter e.1 fun vs => vs.getD [] ++ [e.2]) empty

omit [Std.TransOrd κ] [Std.LawfulEqOrd κ] in
theorem map_ascending (f : κ → α → β) (es : List (κ × α))
    (h : es.Pairwise fun a b => compare a.1 b.1 = .lt) :
    (es.map fun e => (e.1, f e.1 e.2)).Pairwise fun a b => compare a.1 b.1 = .lt :=
  List.pairwise_map.2 h

omit [Std.TransOrd κ] [Std.LawfulEqOrd κ] in
def map (f : κ → α → β) (m : SortedMap κ α) : SortedMap κ β where
  entries := m.entries.map fun e => (e.1, f e.1 e.2)
  ascending := map_ascending f m.entries m.ascending

def filter (p : κ → α → Bool) (m : SortedMap κ α) : SortedMap κ α where
  entries := m.entries.filter fun e => p e.1 e.2
  ascending := m.ascending.filter _

end SortedMap

end GodotAtlas
