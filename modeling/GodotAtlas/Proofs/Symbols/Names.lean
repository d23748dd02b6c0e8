import GodotAtlas.Proofs.Symbols.LineRules
import GodotAtlas.Symbols.Walk

namespace GodotAtlas.Symbols

open Script (Item)

-- The members that are told apart by name, properties of all three sorts together.
inductive MemberKind where
  | signal | property | function | constant | enumeration
deriving DecidableEq

def Members.names (m : Members) : MemberKind → List String
  | .signal => m.signals.map (·.name)
  | .property => (m.exported ++ m.deferred ++ m.plain).map (·.name)
  | .function => m.allFunctions.map (·.name)
  | .constant => m.constants.map (·.name)
  | .enumeration => m.enums.filterMap (·.name)

structure Summary.Within (a b : Summary) : Prop where
  className : ∀ n, a.className = some n → b.className = some n
  base : ∀ n, a.base = some n → b.base = some n
  members : ∀ kind, ∀ n ∈ a.members.names kind, n ∈ b.members.names kind

instance {a b : Summary} : Decidable (a.Within b) :=
  decidable_of_iff ((∀ n ∈ a.className, b.className = some n) ∧ (∀ n ∈ a.base, b.base = some n) ∧
    ∀ kind ∈ [MemberKind.signal, .property, .function, .constant, .enumeration],
      ∀ n ∈ a.members.names kind, n ∈ b.members.names kind)
    ⟨fun ⟨hc, hb, hm⟩ => ⟨hc, hb, fun kind => hm kind (by cases kind <;> decide)⟩,
      fun ⟨hc, hb, hm⟩ => ⟨hc, hb, fun kind _ => hm kind⟩⟩

def First {α : Type} (named : α → String → Prop) (xs : List α) (n : String) : Prop :=
  ∃ front x rest, xs = front ++ x :: rest ∧ named x n ∧ ∀ y ∈ front, ∀ m, ¬named y m

def Last {α : Type} (named : α → String → Prop) (xs : List α) (n : String) : Prop :=
  ∃ front x rest, xs = front ++ x :: rest ∧ named x n ∧ ∀ y ∈ rest, ∀ m, ¬named y m

section

variable {α : Type} {named : α → String → Prop} {x : α} {xs : List α} {n : String}

@[simp]
theorem first_nil : ¬First named [] n := by
  simp [First]

@[simp]
theorem last_nil : ¬Last named [] n := by
  simp [Last]

theorem first_cons :
    First named (x :: xs) n ↔ named x n ∨ (∀ m, ¬named x m) ∧ First named xs n := by
  constructor
  case mp =>
    rintro ⟨front, y, rest, he, hn, hf⟩
    cases front
    case nil =>
      have ⟨hx, _⟩ := List.cons.inj he
      exact .inl (hx ▸ hn)
    case cons z front =>
      have ⟨hx, hxs⟩ := List.cons.inj he
      exact .inr ⟨hx ▸ hf z List.mem_cons_self, front, y, rest, hxs, hn,
        fun w hw => hf w (List.mem_cons_of_mem _ hw)⟩
  case mpr =>
    intro h
    cases h
    case inl hn => exact ⟨[], x, xs, rfl, hn, by simp⟩
    case inr h =>
      have ⟨hx, front, y, rest, he, hn, hf⟩ := h
      exact ⟨x :: front, y, rest, by simp [he], hn, by simpa [hx] using hf⟩

theorem last_cons :
    Last named (x :: xs) n ↔ Last named xs n ∨ named x n ∧ ∀ y ∈ xs, ∀ m, ¬named y m := by
  constructor
  case mp =>
    rintro ⟨front, y, rest, he, hn, hf⟩
    cases front
    case nil =>
      have ⟨hx, hxs⟩ := List.cons.inj he
      exact .inr ⟨hx ▸ hn, hxs ▸ hf⟩
    case cons z front =>
      have ⟨_, hxs⟩ := List.cons.inj he
      exact .inl ⟨front, y, rest, hxs, hn, hf⟩
  case mpr =>
    intro h
    cases h
    case inl h =>
      have ⟨front, y, rest, he, hn, hf⟩ := h
      exact ⟨x :: front, y, rest, by simp [he], hn, hf⟩
    case inr h => exact ⟨[], x, xs, rfl, h.left, h.right⟩

end

section

variable {n : String} {kind : MemberKind}

theorem mem_names_append {a b : Members} :
    n ∈ (a.append b).names kind ↔ n ∈ a.names kind ∨ n ∈ b.names kind := by
  cases kind
  case property =>
    simp only [Members.names, Members.append, List.map_append, List.mem_append]
    grind
  case function =>
    simp only [Members.names, Members.append, Members.allFunctions, List.map_append,
      List.mem_append]
    grind
  all_goals simp [Members.names, Members.append]

@[simp]
theorem names_empty : Members.names {} kind = [] := by
  cases kind <;> rfl

variable {α : Type} {f : α → Summary} {xs : List α}

theorem mem_names_mergeAll : n ∈ (Summary.mergeAll (xs.map f)).members.names kind ↔
    ∃ x ∈ xs, n ∈ (f x).members.names kind := by
  induction xs
  case nil => simp [Summary.mergeAll]
  case cons x xs hi => simp [Summary.mergeAll, Summary.merge, mem_names_append, hi]

theorem className_mergeAll : (Summary.mergeAll (xs.map f)).className = some n ↔
    First (fun x n => (f x).className = some n) xs n := by
  induction xs
  case nil => simp [Summary.mergeAll]
  case cons x xs hi =>
    rw [first_cons, ← hi]
    simp [Summary.mergeAll, Summary.merge, Option.eq_none_iff_forall_ne_some]

theorem base_mergeAll_eq_none : (Summary.mergeAll (xs.map f)).base = none ↔
    ∀ x ∈ xs, ∀ m, ¬(f x).base = some m := by
  induction xs
  case nil => simp [Summary.mergeAll]
  case cons x xs hi =>
    simp only [List.map_cons, Summary.mergeAll, Summary.merge, Option.or_eq_none_iff, hi,
      List.forall_mem_cons]
    rw [and_comm, Option.eq_none_iff_forall_ne_some]

theorem base_mergeAll : (Summary.mergeAll (xs.map f)).base = some n ↔
    Last (fun x n => (f x).base = some n) xs n := by
  induction xs
  case nil => simp [Summary.mergeAll]
  case cons x xs hi =>
    rw [last_cons, ← hi, ← base_mergeAll_eq_none]
    simp [Summary.mergeAll, Summary.merge, and_comm]

end

def memberOf? : Item → Option (MemberKind × String)
  | .signal n _ => some (.signal, n)
  | .variable n _ _ => some (.property, n)
  | .function n _ _ => some (.function, n)
  | .constant n _ => some (.constant, n)
  | .enumeration n _ => n.map (MemberKind.enumeration, ·)
  | _ => none

section

variable {n : String} {kind : MemberKind} {pending : Option Marker} {item : Item}
  {items : List Item}

theorem names_propertySummary {p : Property} : (propertySummary pending p).members.names kind =
    if kind = .property then [p.name] else [] := by
  rcases pending with _ | _ | _ | _ | _ <;> cases kind <;> rfl

theorem names_functionSummary {params : List Script.Param} {returnType : Option String} :
    (functionSummary pending n params returnType).members.names kind =
      if kind = .function then [n] else [] := by
  rw [functionSummary]
  split <;> cases kind <;> rfl

theorem mem_names_itemSummary : n ∈ (itemSummary pending item).members.names kind ↔
    memberOf? item = some (kind, n) := by
  cases item
  case «variable» name type value =>
    rw [itemSummary, names_propertySummary]
    cases kind <;> simp [memberOf?, eq_comm]
  case function name params returnType =>
    rw [itemSummary, names_functionSummary]
    cases kind <;> simp [memberOf?, eq_comm]
  case enumeration name values =>
    cases kind
    case enumeration => cases name <;> simp [itemSummary, Members.names, memberOf?, eq_comm]
    all_goals simp [itemSummary, Members.names, Members.allFunctions, memberOf?]
  all_goals
    cases kind <;>
      simp [itemSummary, Members.names, Members.allFunctions, memberOf?, eq_comm]

theorem mem_names_walk : n ∈ (walk pending items).members.names kind ↔
    ∃ item ∈ items, memberOf? item = some (kind, n) := by
  induction items generalizing pending
  case nil => simp [walk]
  case cons item items hi => simp [walk, Summary.merge, mem_names_append, mem_names_itemSummary, hi]

@[simp]
theorem className_propertySummary {p : Property} :
    (propertySummary pending p).className = none := by
  rcases pending with _ | _ | _ | _ | _ <;> rfl

@[simp]
theorem base_propertySummary {p : Property} : (propertySummary pending p).base = none := by
  rcases pending with _ | _ | _ | _ | _ <;> rfl

@[simp]
theorem className_functionSummary {params : List Script.Param} {returnType : Option String} :
    (functionSummary pending n params returnType).className = none := by
  rw [functionSummary]
  split <;> rfl

@[simp]
theorem base_functionSummary {params : List Script.Param} {returnType : Option String} :
    (functionSummary pending n params returnType).base = none := by
  rw [functionSummary]
  split <;> rfl

theorem className_itemSummary :
    (itemSummary pending item).className = some n ↔ item = .className n := by
  cases item <;> simp [itemSummary]

theorem base_itemSummary : (itemSummary pending item).base = some n ↔ item = .extends n := by
  cases item <;> simp [itemSummary]

theorem className_walk : (walk pending items).className = some n ↔
    First (fun item n => item = .className n) items n := by
  induction items generalizing pending
  case nil => simp [walk]
  case cons item items hi =>
    simp only [walk, Summary.merge, Option.or_eq_some_iff, Option.eq_none_iff_forall_ne_some, ne_eq,
      className_itemSummary, hi, first_cons]

theorem base_walk_eq_none : (walk pending items).base = none ↔
    ∀ item ∈ items, ∀ m, ¬item = .extends m := by
  induction items generalizing pending
  case nil => simp [walk]
  case cons item items hi =>
    rw [List.forall_mem_cons, walk, Summary.merge, Option.or_eq_none_iff, hi, and_comm,
      Option.eq_none_iff_forall_ne_some]
    simp only [ne_eq, base_itemSummary]

theorem base_walk : (walk pending items).base = some n ↔
    Last (fun item n => item = .extends n) items n := by
  induction items generalizing pending
  case nil => simp [walk]
  case cons item items hi =>
    rw [last_cons, walk, Summary.merge, Option.or_eq_some_iff, hi, base_walk_eq_none,
      base_itemSummary, and_comm]

end

end GodotAtlas.Symbols
