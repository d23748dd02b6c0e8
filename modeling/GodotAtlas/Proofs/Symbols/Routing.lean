import GodotAtlas.Proofs.Text.Matching
import GodotAtlas.Symbols.Walk

namespace GodotAtlas.Symbols

open Text

open Script (Item)

def annotationName? : Item → Option String
  | .annotates name => some name
  | _ => none

def runAfter (front : List Item) : List String :=
  ((front.reverse.takeWhile fun item => (annotationName? item).isSome).filterMap
    annotationName?).reverse

-- A declaration with the annotations directly in front of it.
structure Occurrence where
  run : List String
  item : Item

def occurrencesAfter : (front items : List Item) → List Occurrence
  | _, [] => []
  | front, item :: items => ⟨runAfter front, item⟩ :: occurrencesAfter (front ++ [item]) items

def occurrences (items : List Item) : List Occurrence :=
  occurrencesAfter [] items

def Exports (run : List String) : Prop :=
  ∃ name ∈ run, "export".toList <+: name.toList

instance {run : List String} : Decidable (Exports run) :=
  inferInstanceAs (Decidable (∃ name ∈ run, "export".toList <+: name.toList))

def MakesStatic (run : List String) : Prop :=
  "static" ∈ run ∧ "onready" ∉ run ∧ ¬Exports run

instance {run : List String} : Decidable (MakesStatic run) :=
  inferInstanceAs (Decidable ("static" ∈ run ∧ "onready" ∉ run ∧ ¬Exports run))

inductive PropertySort where
  | exported | deferred | plain
deriving DecidableEq

-- The sort of the variable behind a run.
def PropertySort.ofRun (run : List String) : PropertySort :=
  if Exports run then exported else if "onready" ∈ run then deferred else plain

def Members.properties (m : Members) : PropertySort → List Property
  | .exported => m.exported
  | .deferred => m.deferred
  | .plain => m.plain

def Members.functionsOf (m : Members) (isStatic : Bool) : List Function :=
  if isStatic then m.staticFunctions else m.functions

def property? : Item → Option Property
  | .variable name type value => some { name, type, default := value.map cleanExpr }
  | _ => none

def function? (isStatic : Bool) : Item → Option Function
  | .function name params returnType =>
    some { name, params := params.map parameterOf, returnType, isStatic }
  | _ => none

-- Every variable and every function of a list is a member once, in the list that the annotations
-- in front of it tell, and each list is in the order of the source.
structure RoutesTo (items : List Item) (m : Members) : Prop where
  properties : ∀ sort, m.properties sort =
    (occurrences items).filterMap fun o => if .ofRun o.run = sort then property? o.item else none
  functions : ∀ isStatic, m.functionsOf isStatic =
    (occurrences items).filterMap fun o =>
      if MakesStatic o.run ↔ isStatic then function? isStatic o.item else none

def classBody? : Item → Option (List Item)
  | .class _ _ body => some body
  | _ => none

-- So it is in a list, and in the bodies of its classes at every depth.
inductive Routed : List Item → Members → List InnerType → Prop
  | intro {items : List Item} {m : Members} {ts : List InnerType} (here : RoutesTo items m)
      (inner : List.Forall₂ (fun body t => Routed body t.members t.innerTypes)
        (items.filterMap classBody?) ts) : Routed items m ts

def pendingOf (run : List String) : Option Marker :=
  run.foldl (fun pending name => Marker.add pending (.ofName name)) none

section

variable {run : List String} {name : String}

theorem exports_append :
    Exports (run ++ [name]) ↔ Exports run ∨ "export".toList <+: name.toList := by
  simp [Exports, or_and_right, exists_or]

theorem pendingOf_append :
    pendingOf (run ++ [name]) = Marker.add (pendingOf run) (.ofName name) := by
  simp [pendingOf]

-- The most significant annotation counts, however many there are.
theorem pendingOf_eq : pendingOf run =
    if Exports run then some .exported else if "onready" ∈ run then some .deferred
    else if "static" ∈ run then some .static else if run = [] then none else some .other := by
  induction run using List.reverseRecOn
  case nil => rfl
  case append_singleton run name hi =>
    rw [pendingOf_append, hi]
    simp only [exports_append, List.mem_append, List.mem_singleton, Marker.ofName,
      List.isPrefixOf_iff_prefix, List.append_eq_nil_iff, List.cons_ne_self, and_false]
    -- The last annotation is of one of four sorts, and counts unless an earlier one counts more.
    by_cases hx : "export".toList <+: name.toList
    case pos =>
      simp only [hx, or_true, if_true]
      split_ifs <;> rfl
    case neg =>
      simp only [hx, or_false, if_false]
      by_cases ho : name = "onready"
      case pos =>
        simp only [ho, or_true, if_true]
        split_ifs <;> rfl
      case neg =>
        simp only [ho, Ne.symm ho, or_false, if_false]
        by_cases hs : name = "static"
        case pos =>
          simp only [hs, or_true, if_true]
          split_ifs <;> rfl
        case neg =>
          simp only [hs, Ne.symm hs, or_false, if_false]
          split_ifs <;> rfl

theorem pendingOf_eq_static_iff : pendingOf run = some .static ↔ MakesStatic run := by
  rw [pendingOf_eq, MakesStatic]
  split_ifs <;> simp_all

end

def PropertySort.ofMarker : Option Marker → PropertySort
  | some .exported => .exported
  | some .deferred => .deferred
  | _ => .plain

theorem PropertySort.ofMarker_pendingOf {run : List String} :
    ofMarker (pendingOf run) = ofRun run := by
  rw [pendingOf_eq, ofRun]
  split_ifs <;> rfl

theorem pendingOf_runAfter_append {front : List Item} {item : Item} :
    pendingOf (runAfter (front ++ [item])) = pendingAfter (pendingOf (runAfter front)) item := by
  cases item
  case annotates name => simp [runAfter, annotationName?, pendingAfter, pendingOf_append]
  all_goals simp [runAfter, annotationName?, pendingAfter, pendingOf]

section

variable {a b : Members} {pending : Option Marker} {item : Item}

theorem properties_append {sort : PropertySort} :
    (a.append b).properties sort = a.properties sort ++ b.properties sort := by
  cases sort <;> rfl

theorem functionsOf_append {isStatic : Bool} :
    (a.append b).functionsOf isStatic = a.functionsOf isStatic ++ b.functionsOf isStatic := by
  cases isStatic <;> rfl

theorem properties_itemSummary {sort : PropertySort} :
    (itemSummary pending item).members.properties sort =
      (if .ofMarker pending = sort then property? item else none).toList := by
  cases item
  case «variable» name type value =>
    rw [itemSummary]
    rcases pending with _ | _ | _ | _ | _ <;> cases sort <;> rfl
  case function name params returnType =>
    rw [itemSummary, functionSummary]
    split <;> cases sort <;> simp [property?, Members.properties]
  all_goals cases sort <;> simp [itemSummary, property?, Members.properties]

theorem functionsOf_itemSummary {isStatic : Bool} :
    (itemSummary pending item).members.functionsOf isStatic =
      (if pending = some .static ↔ isStatic then function? isStatic item else none).toList := by
  cases item
  case «variable» name type value =>
    rw [itemSummary]
    rcases pending with _ | _ | _ | _ | _ <;> cases isStatic <;> rfl
  case function name params returnType =>
    rw [itemSummary, functionSummary]
    by_cases hp : pending = some .static <;> cases isStatic <;>
      simp [hp, function?, Members.functionsOf]
  all_goals cases isStatic <;> simp [itemSummary, function?, Members.functionsOf]

end

theorem properties_walk (front items : List Item) (sort : PropertySort) :
    (walk (pendingOf (runAfter front)) items).members.properties sort =
      (occurrencesAfter front items).filterMap fun o =>
        if .ofRun o.run = sort then property? o.item else none := by
  induction items generalizing front
  case nil => cases sort <;> simp [walk, occurrencesAfter, Members.properties]
  case cons item items hi =>
    rw [walk, Summary.merge, properties_append, properties_itemSummary,
      PropertySort.ofMarker_pendingOf, ← pendingOf_runAfter_append, hi, occurrencesAfter,
      filterMap_cons_eq]

theorem functionsOf_walk (front items : List Item) (isStatic : Bool) :
    (walk (pendingOf (runAfter front)) items).members.functionsOf isStatic =
      (occurrencesAfter front items).filterMap fun o =>
        if MakesStatic o.run ↔ isStatic then function? isStatic o.item else none := by
  induction items generalizing front
  case nil => cases isStatic <;> simp [walk, occurrencesAfter, Members.functionsOf]
  case cons item items hi =>
    rw [walk, Summary.merge, functionsOf_append, functionsOf_itemSummary,
      ← pendingOf_runAfter_append, hi, occurrencesAfter, filterMap_cons_eq]
    simp only [pendingOf_eq_static_iff]

theorem routesTo_walk {items : List Item} : RoutesTo items (walk none items).members where
  properties := properties_walk [] items
  functions := functionsOf_walk [] items

def innerType? : Item → Option InnerType
  | .class name ext body =>
    let inner := walk none body
    some (.mk name (inner.base.or ext) inner.members inner.innerTypes)
  | _ => none

section

variable {pending : Option Marker} {item : Item} {items : List Item}

theorem innerTypes_itemSummary :
    (itemSummary pending item).innerTypes = (innerType? item).toList := by
  cases item
  case «variable» name type value =>
    rw [itemSummary]
    rcases pending with _ | _ | _ | _ | _ <;> rfl
  case function name params returnType =>
    rw [itemSummary, functionSummary]
    split <;> rfl
  all_goals simp [itemSummary, innerType?]

theorem innerTypes_walk : (walk pending items).innerTypes = items.filterMap innerType? := by
  induction items generalizing pending
  case nil => simp [walk]
  case cons item items hi =>
    rw [walk, Summary.merge, innerTypes_itemSummary, hi, filterMap_cons_eq]

end

theorem routed_innerTypes : (items : List Item) →
    List.Forall₂ (fun body t => Routed body t.members t.innerTypes)
      (items.filterMap classBody?) (items.filterMap innerType?)
  | [] => .nil
  | .class name ext body :: items =>
    have hb : Routed body (walk none body).members (walk none body).innerTypes :=
      .intro routesTo_walk (innerTypes_walk ▸ routed_innerTypes body)
    .cons hb (routed_innerTypes items)
  | .tool :: items | .className _ :: items | .extends _ :: items | .signal _ _ :: items
  | .annotates _ :: items | .variable _ _ _ :: items | .function _ _ _ :: items
  | .enumeration _ _ :: items | .constant _ _ :: items | .other :: items =>
    routed_innerTypes items

theorem Summary.merge_assoc {a b c : Summary} : (a.merge b).merge c = a.merge (b.merge c) := by
  simp [merge, Members.append, Option.or_assoc, Bool.or_assoc]

theorem merge_walk {pending : Option Marker} {front rest : List Item} :
    walk pending (front ++ rest) =
      (walk pending front).merge (walk (front.foldl pendingAfter pending) rest) := by
  induction front generalizing pending
  case nil => simp [walk, Summary.merge, Members.append]
  case cons item front hi =>
    rw [List.cons_append, walk, hi, walk, Summary.merge_assoc, List.foldl_cons]

-- Whatever stands in front of a declaration that is no annotation is of no effect behind it.
theorem walk_of_separated {front rest : List Item} {item : Item}
    (h : annotationName? item = none) :
    walk none (front ++ item :: rest) =
      (walk none (front ++ [item])).merge (walk none rest) := by
  have hp (pending : Option Marker) : pendingAfter pending item = none := by
    cases item
    case annotates => cases h
    all_goals rfl
  rw [← List.singleton_append, ← List.append_assoc, merge_walk, List.foldl_append,
    List.foldl_cons, List.foldl_nil, hp]

-- Variables and functions go where the annotations directly in front of them send them, at the top
-- level and inside of every class; annotations further away are of no effect.
theorem walk_routes (items : List Item) :
    Routed items (walk none items).members (walk none items).innerTypes ∧
      ∀ front item rest, items = front ++ item :: rest → annotationName? item = none →
        walk none items = (walk none (front ++ [item])).merge (walk none rest) :=
  ⟨.intro routesTo_walk (innerTypes_walk ▸ routed_innerTypes items),
    fun _ _ _ he h => he ▸ walk_of_separated h⟩

end GodotAtlas.Symbols
