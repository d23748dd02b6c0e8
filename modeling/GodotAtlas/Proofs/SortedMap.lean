import Mathlib
import GodotAtlas.Proofs.Text.ByteOrder
import GodotAtlas.SortedMap
import GodotAtlas.Total

namespace GodotAtlas.SortedMap

variable {κ α β : Type} [Ord κ]

def find? (es : List (κ × α)) (k : κ) : Option α :=
  (es.find? fun e => compare k e.1 == .eq).map (·.2)

@[simp]
theorem get?_empty {k : κ} : (empty : SortedMap κ α).get? k = none :=
  rfl

@[simp]
theorem keys_empty : (empty : SortedMap κ α).keys = [] :=
  rfl

@[simp]
theorem values_empty : (empty : SortedMap κ α).values = [] :=
  rfl

theorem find?_eq_none_of_lt {es : List (κ × α)} {k : κ} (h : ∀ e ∈ es, compare k e.1 = .lt) :
    find? es k = none := by
  simp only [find?, Option.map_eq_none_iff, List.find?_eq_none]
  intro e he
  simp [h e he]

variable [Std.LawfulEqOrd κ] [DecidableEq κ]

theorem find?_cons {e : κ × α} {es : List (κ × α)} {k : κ} :
    find? (e :: es) k = if k = e.1 then some e.2 else find? es k := by
  by_cases h : k = e.1
  case pos => simp [find?, h]
  case neg =>
    have hc : compare k e.1 ≠ .eq := mt Std.LawfulEqOrd.eq_of_compare h
    simp [find?, h, hc]

theorem mem_of_find?_eq_some {es : List (κ × α)} {k : κ} {v : α} (h : find? es k = some v) :
    (k, v) ∈ es := by
  induction es
  case nil => cases h
  case cons e es hi =>
    rw [find?_cons] at h
    split at h
    case isTrue he => cases h; simp [he]
    case isFalse => exact List.mem_cons_of_mem _ (hi h)

theorem find?_eq_none_of_not_mem {es : List (κ × α)} {k : κ} (h : k ∉ es.map (·.1)) :
    find? es k = none := by
  cases hf : find? es k
  case none => rfl
  case some v => exact absurd (List.mem_map_of_mem (mem_of_find?_eq_some hf)) h

theorem find?_eq_some_of_mem {es : List (κ × α)} {k : κ} {v : α}
    (ha : es.Pairwise fun a b => compare a.1 b.1 = .lt) (h : (k, v) ∈ es) :
    find? es k = some v := by
  induction es
  case nil => cases h
  case cons e es hi =>
    have ⟨hlt, ha⟩ := List.pairwise_cons.mp ha
    rw [find?_cons]
    cases h
    case head => simp
    case tail h =>
      have hne : k ≠ e.1 := by
        intro he
        have := hlt _ h
        simp [he] at this
      simp [hne, hi ha h]

variable [Std.TransOrd κ]

omit [Std.LawfulEqOrd κ] [DecidableEq κ] in
theorem find?_eq_none_of_first {e : κ × α} {es : List (κ × α)} {k : κ}
    (ha : (e :: es).Pairwise fun a b => compare a.1 b.1 = .lt) (hk : compare k e.1 = .lt) :
    find? (e :: es) k = none := by
  apply find?_eq_none_of_lt
  intro d hd
  cases hd
  case head => exact hk
  case tail hd => exact Std.TransCmp.lt_trans hk ((List.pairwise_cons.mp ha).left d hd)

theorem find?_alterEntries {es : List (κ × α)} {k l : κ} {f : Option α → α}
    (ha : es.Pairwise fun a b => compare a.1 b.1 = .lt) :
    find? (alterEntries k f es) l = if l = k then some (f (find? es k)) else find? es l := by
  fun_induction alterEntries k f es
  case case1 => simp [find?]
  case case2 j v es hk => rw [find?_eq_none_of_first ha hk, find?_cons]
  case case3 j v es hk =>
    cases Std.LawfulEqOrd.eq_of_compare hk
    simp only [find?_cons, if_true]
    split <;> simp_all
  case case4 j v es hk hi =>
    have hne : k ≠ j := by rintro rfl; simp at hk
    simp only [find?_cons, hi (List.pairwise_cons.mp ha).right, if_neg hne]
    by_cases hl : l = j
    case pos => simp [hl, Ne.symm hne]
    case neg => simp [hl]

omit [DecidableEq κ] [Std.TransOrd κ] in
theorem alterEntries_perm {es : List (κ × α)} {k : κ} {f : Option α → α}
    (h : k ∉ es.map (·.1)) : (alterEntries k f es).Perm (es ++ [(k, f none)]) := by
  fun_induction alterEntries k f es
  case case1 => simp
  case case2 => exact (List.perm_append_singleton _ _).symm
  case case3 j v es hk =>
    cases Std.LawfulEqOrd.eq_of_compare hk
    simp at h
  case case4 j v es hk hi =>
    simp only [List.map_cons, List.mem_cons, not_or] at h
    exact (hi h.right).cons _

section

variable {m : SortedMap κ α} {k l : κ} {v : α}

omit [Std.LawfulEqOrd κ] [DecidableEq κ] [Std.TransOrd κ] in
theorem keys_ascending : m.keys.Pairwise fun a b => compare a b = .lt :=
  List.pairwise_map.mpr m.ascending

theorem keys_ascending_bytes {m : SortedMap String α} : Text.Ascending m.keys :=
  m.keys_ascending.imp Text.compare_eq_lt_iff.mp

omit [DecidableEq κ] [Std.TransOrd κ] in
theorem keys_nodup : m.keys.Nodup := by
  apply m.keys_ascending.imp
  rintro a _ h rfl
  simp at h

omit [Std.LawfulEqOrd κ] [DecidableEq κ] [Std.TransOrd κ] in
theorem size_eq_length_keys : m.size = m.keys.length := by
  simp [size, keys]

omit [Std.TransOrd κ] in
theorem get?_eq_some_iff : m.get? k = some v ↔ (k, v) ∈ m.entries where
  mp  := mem_of_find?_eq_some
  mpr := find?_eq_some_of_mem m.ascending

omit [Std.TransOrd κ] in
theorem mem_keys_iff : k ∈ m.keys ↔ ∃ v, m.get? k = some v := by
  simp [keys, get?_eq_some_iff]

omit [Std.TransOrd κ] in
theorem contains_iff : m.contains k ↔ k ∈ m.keys := by
  rw [contains, Option.isSome_iff_exists, mem_keys_iff]

theorem get?_alter {f : Option α → α} :
    (m.alter k f).get? l = if l = k then some (f (m.get? k)) else m.get? l :=
  find?_alterEntries m.ascending

theorem get?_insert : (m.insert k v).get? l = if l = k then some v else m.get? l :=
  get?_alter

theorem mem_keys_insert : l ∈ (m.insert k v).keys ↔ l = k ∨ l ∈ m.keys := by
  simp only [mem_keys_iff, get?_insert]
  split <;> simp_all

omit [DecidableEq κ] in
theorem entries_insert_perm (h : k ∉ m.keys) :
    (m.insert k v).entries.Perm (m.entries ++ [(k, v)]) :=
  alterEntries_perm h

omit [DecidableEq κ] in
theorem keys_insert_perm (h : k ∉ m.keys) : (m.insert k v).keys.Perm (m.keys ++ [k]) := by
  simpa [keys] using (entries_insert_perm (v := v) h).map (·.1)

omit [DecidableEq κ] in
theorem values_insert_perm (h : k ∉ m.keys) : (m.insert k v).values.Perm (m.values ++ [v]) := by
  simpa [values] using (entries_insert_perm (v := v) h).map (·.2)

end

omit [Std.LawfulEqOrd κ] [DecidableEq κ] [Std.TransOrd κ] in
theorem flatten_alterEntries_perm {k : κ} {x : α} {es : List (κ × List α)} :
    ((alterEntries k (fun vs => vs.getD [] ++ [x]) es).map (·.2)).flatten.Perm
      ((es.map (·.2)).flatten ++ [x]) := by
  fun_induction alterEntries k _ es
  case case1 => simp
  case case2 j v es _ => exact List.perm_append_comm
  case case3 j v es _ =>
    simp only [Option.getD_some, List.map_cons, List.flatten_cons, List.append_assoc]
    exact List.Perm.append_left v List.perm_append_comm
  case case4 j v es _ hi =>
    simp only [List.map_cons, List.flatten_cons, List.append_assoc]
    exact List.Perm.append_left v hi

omit [DecidableEq κ] in
theorem values_flatten_alter_perm {m : SortedMap κ (List α)} {k : κ} {x : α} :
    (m.alter k fun vs => vs.getD [] ++ [x]).values.flatten.Perm (m.values.flatten ++ [x]) :=
  flatten_alterEntries_perm

-- A new value adds its size, less the size of the value that it replaces.
theorem total_alterEntries {size : α → Nat} {k : κ} {f : Option α → α} {es : List (κ × α)}
    (ha : es.Pairwise fun a b => compare a.1 b.1 = .lt) :
    total ((alterEntries k f es).map (size ·.2)) + ((find? es k).map size).getD 0 =
      total (es.map (size ·.2)) + size (f (find? es k)) := by
  fun_induction alterEntries k f es
  case case1 => simp [find?]
  case case2 j v es hk =>
    rw [find?_eq_none_of_first ha hk]
    simp [Nat.add_comm]
  case case3 j v es hk =>
    cases Std.LawfulEqOrd.eq_of_compare hk
    simp only [find?_cons, if_true, List.map_cons, total_cons, Option.map_some, Option.getD_some]
    omega
  case case4 j v es hk hi =>
    have hne : k ≠ j := by rintro rfl; simp at hk
    have hi := hi (List.pairwise_cons.mp ha).right
    simp only [find?_cons, if_neg hne, List.map_cons, total_cons]
    omega

theorem total_values_alter (size : α → Nat) (m : SortedMap κ α) (k : κ) (f : Option α → α) :
    total ((m.alter k f).values.map size) + ((m.get? k).map size).getD 0 =
      total (m.values.map size) + size (f (m.get? k)) := by
  simp only [values, List.map_map]
  exact total_alterEntries m.ascending

theorem ext_get? {m n : SortedMap κ α} (h : ∀ k, m.get? k = n.get? k) : m = n := by
  have hn {m : SortedMap κ α} : m.entries.Nodup := .of_map _ keys_nodup
  have hm : ∀ e, e ∈ m.entries ↔ e ∈ n.entries := by
    intro e
    rw [← get?_eq_some_iff, ← get?_eq_some_iff, h]
  have hp : m.entries.Perm n.entries := (List.perm_ext_iff_of_nodup hn hn).mpr hm
  apply SortedMap.ext
  refine hp.eq_of_pairwise (fun a b _ _ hab hba => ?_) m.ascending n.ascending
  exact absurd hba (Std.OrientedCmp.not_lt_of_lt hab)

omit [DecidableEq κ] in
theorem keys_eq {m : SortedMap κ α} {n : SortedMap κ β} (h : ∀ k, k ∈ m.keys ↔ k ∈ n.keys) :
    m.keys = n.keys := by
  have hp : m.keys.Perm n.keys := (List.perm_ext_iff_of_nodup keys_nodup keys_nodup).mpr h
  refine hp.eq_of_pairwise (fun a b _ _ hab hba => ?_) m.keys_ascending n.keys_ascending
  exact absurd hba (Std.OrientedCmp.not_lt_of_lt hab)

section

variable {m : SortedMap κ α} {k : κ}

omit [Std.TransOrd κ] in
theorem get?_map {f : κ → α → β} : (m.map f).get? k = (m.get? k).map (f k) := by
  apply Option.ext
  intro w
  simp only [get?_eq_some_iff, Option.map_eq_some_iff, map, List.mem_map, Prod.mk.injEq,
    Prod.exists]
  constructor
  case mp =>
    rintro ⟨l, v, hm, rfl, hw⟩
    exact ⟨v, hm, hw⟩
  case mpr =>
    rintro ⟨v, hm, hw⟩
    exact ⟨k, v, hm, rfl, hw⟩

omit [Std.TransOrd κ] in
theorem get?_filter {p : κ → α → Bool} : (m.filter p).get? k = (m.get? k).filter (p k) := by
  apply Option.ext
  intro v
  simp only [get?_eq_some_iff, Option.filter_eq_some_iff, filter, List.mem_filter]

-- Entries that change a map one after the other, each under its own key.
theorem get?_foldl_alter {es : List (κ × β)} {f : κ → β → Option α → α}
    (h : (es.map (·.1)).Nodup) :
    (es.foldl (fun m e => m.alter e.1 (f e.1 e.2)) m).get? k =
      (find? es k).elim (m.get? k) fun v => some (f k v (m.get? k)) := by
  induction es generalizing m
  case nil => rfl
  case cons e es hi =>
    have ⟨hn, h⟩ := List.nodup_cons.mp h
    rw [List.foldl_cons, hi h, find?_cons, get?_alter]
    by_cases hk : k = e.1
    case pos => simp [hk, find?_eq_none_of_not_mem hn]
    case neg => simp [hk]

end

def valuesOf (k : κ) (es : List (κ × α)) : List α :=
  es.filterMap fun e => if e.1 = k then some e.2 else none

section

variable {k : κ} {v : α} {e : κ × α} {es fs : List (κ × α)}

omit [Ord κ] [Std.LawfulEqOrd κ] [Std.TransOrd κ] in
theorem valuesOf_append : valuesOf k (es ++ fs) = valuesOf k es ++ valuesOf k fs :=
  List.filterMap_append

omit [Ord κ] [Std.LawfulEqOrd κ] [Std.TransOrd κ] in
theorem valuesOf_cons :
    valuesOf k (e :: es) = if e.1 = k then e.2 :: valuesOf k es else valuesOf k es := by
  by_cases h : e.1 = k <;> simp [valuesOf, h]

omit [Ord κ] [Std.LawfulEqOrd κ] [Std.TransOrd κ] in
@[simp]
theorem valuesOf_nil : valuesOf k ([] : List (κ × α)) = [] :=
  rfl

omit [Ord κ] [Std.LawfulEqOrd κ] [Std.TransOrd κ] in
theorem valuesOf_map {xs : List β} {f : β → κ} {g : β → α} :
    valuesOf k (xs.map fun x => (f x, g x)) = (xs.filter fun x => f x = k).map g := by
  induction xs
  case nil => rfl
  case cons x xs hi => by_cases h : f x = k <;> simp [valuesOf_cons, hi, h]

omit [Ord κ] [Std.LawfulEqOrd κ] [Std.TransOrd κ] in
theorem mem_valuesOf_iff : v ∈ valuesOf k es ↔ (k, v) ∈ es := by
  simp only [valuesOf, List.mem_filterMap, Option.ite_none_right_eq_some, Option.some.injEq,
    Prod.exists]
  constructor
  case mp =>
    rintro ⟨l, w, hm, rfl, rfl⟩
    exact hm
  case mpr => exact fun hm => ⟨k, v, hm, rfl, rfl⟩

omit [DecidableEq κ] in
theorem ofList_append : ofList (es ++ [e]) = (ofList es).insert e.1 e.2 := by
  simp [ofList]

omit [DecidableEq κ] in
theorem group_append :
    group (es ++ [e]) = (group es).alter e.1 fun vs => vs.getD [] ++ [e.2] := by
  simp [group]

theorem get?_ofList : (ofList es).get? k = (valuesOf k es).getLast? := by
  induction es using List.reverseRecOn
  case nil => rfl
  case append_singleton es e hi =>
    rw [ofList_append, get?_insert, valuesOf_append, valuesOf_cons]
    by_cases h : e.1 = k
    case pos => simp [h]
    case neg => simp [h, Ne.symm h, hi]

theorem mem_keys_ofList : k ∈ (ofList es).keys ↔ k ∈ es.map (·.1) := by
  simp only [mem_keys_iff, get?_ofList, List.mem_map, Prod.exists, exists_and_right,
    exists_eq_right]
  constructor
  case mp =>
    rintro ⟨v, hv⟩
    exact ⟨v, mem_valuesOf_iff.mp (List.mem_of_getLast? hv)⟩
  case mpr =>
    rintro ⟨v, hv⟩
    have hn : valuesOf k es ≠ [] := List.ne_nil_of_mem (mem_valuesOf_iff.mpr hv)
    exact ⟨_, List.getLast?_eq_some_getLast hn⟩

theorem keys_ofList_eq {gs : List (κ × β)} (h : es.map (·.1) = gs.map (·.1)) :
    (ofList es).keys = (ofList gs).keys := by
  apply keys_eq
  intro k
  rw [mem_keys_ofList, mem_keys_ofList, h]

theorem get?_group :
    (group es).get? k = if valuesOf k es = [] then none else some (valuesOf k es) := by
  induction es using List.reverseRecOn
  case nil => rfl
  case append_singleton es e hi =>
    rw [group_append, get?_alter, valuesOf_append, valuesOf_cons]
    by_cases h : e.1 = k
    case pos => by_cases hn : valuesOf k es = [] <;> simp [h, hi, hn]
    case neg => simp [h, Ne.symm h, hi]

theorem get?_ofList_eq_some_iff (h : (es.map (·.1)).Nodup) :
    (ofList es).get? k = some v ↔ (k, v) ∈ es := by
  induction es using List.reverseRecOn
  case nil => simp [ofList]
  case append_singleton es e hi =>
    rw [List.map_append, List.nodup_append] at h
    have ⟨hes, _, hne⟩ := h
    rw [ofList_append, get?_insert, List.mem_append, List.mem_singleton]
    by_cases hk : k = e.1
    case pos =>
      subst hk
      have hn : (e.1, v) ∉ es := fun hm => hne _ (List.mem_map_of_mem hm) e.1 (by simp) rfl
      simp [hn, Prod.ext_iff, eq_comm]
    case neg => simp [hk, hi hes, Prod.ext_iff]

theorem ofList_eq_of_perm (hp : es.Perm fs) (h : (es.map (·.1)).Nodup) :
    ofList es = ofList fs := by
  apply ext_get?
  intro k
  apply Option.ext
  intro v
  have hf : (fs.map (·.1)).Nodup := (hp.map _).nodup_iff.mp h
  rw [get?_ofList_eq_some_iff h, get?_ofList_eq_some_iff hf, hp.mem_iff]

theorem group_eq (h : ∀ k, valuesOf k es = valuesOf k fs) : group es = group fs := by
  apply ext_get?
  intro k
  rw [get?_group, get?_group, h]

end

end GodotAtlas.SortedMap
