import GodotAtlas.Proofs.Symbols.Names
import GodotAtlas.Proofs.Symbols.Routing
import GodotAtlas.Symbols.Extract

namespace GodotAtlas.Symbols

open Text

open Script (Item)

def className? : Item → Option String
  | .className name => some name
  | _ => none

def base? : Item → Option String
  | .extends base => some base
  | _ => none

def signal? : Item → Option Signal
  | .signal name params => some { name, params := params.map parameterOf }
  | _ => none

def enumeration? : Item → Option Enumeration
  | .enumeration name values => some { name, values }
  | _ => none

def constant? : Item → Option Constant
  | .constant name value => some { name, value := constantValue value }
  | _ => none

def lastBase? (items : List Item) : Option String :=
  (items.filterMap base?).getLast?

-- The inner type of a class from its own body.
def typeOf? : Item → Option InnerType
  | .class name ext body =>
    some (.mk name ((lastBase? body).or ext) (walk none body).members (walk none body).innerTypes)
  | _ => none

-- A summary that holds what the declarations of a list say, and nothing that is further inside.
structure Summary.ScopedTo (s : Summary) (items : List Item) : Prop where
  className : s.className = (items.filterMap className?).head?
  base : s.base = lastBase? items
  isTool : s.isTool ↔ .tool ∈ items
  signals : s.members.signals = items.filterMap signal?
  enums : s.members.enums = items.filterMap enumeration?
  constants : s.members.constants = items.filterMap constant?
  innerTypes : s.innerTypes = items.filterMap typeOf?

-- Declarations that differ in the body and the base of one class. The way to it counts the classes
-- in front at each level.
inductive RedefinedAt : List Nat → List Item → List Item → Prop
  | here {front rest : List Item} {name : String} {ext ext' : Option String}
      {body body' : List Item} :
      RedefinedAt [(front.filterMap classBody?).length] (front ++ .class name ext body :: rest)
        (front ++ .class name ext' body' :: rest)
  | inner {way : List Nat} {front rest : List Item} {name : String} {ext : Option String}
      {body body' : List Item} (h : RedefinedAt way body body') :
      RedefinedAt ((front.filterMap classBody?).length :: way)
        (front ++ .class name ext body :: rest) (front ++ .class name ext body' :: rest)

inductive RetypedAt : List Nat → List InnerType → List InnerType → Prop
  | here {front rest ts ts' : List InnerType} {name : String} {base base' : Option String}
      {m m' : Members} :
      RetypedAt [front.length] (front ++ .mk name base m ts :: rest)
        (front ++ .mk name base' m' ts' :: rest)
  | inner {way : List Nat} {front rest ts ts' : List InnerType} {name : String}
      {base : Option String} {m : Members} (h : RetypedAt way ts ts') :
      RetypedAt (front.length :: way) (front ++ .mk name base m ts :: rest)
        (front ++ .mk name base m ts' :: rest)

section

variable {pending : Option Marker} {item : Item} {items : List Item}

theorem className_itemSummary_eq : (itemSummary pending item).className = className? item := by
  cases item <;> simp [itemSummary, className?]

theorem base_itemSummary_eq : (itemSummary pending item).base = base? item := by
  cases item <;> simp [itemSummary, base?]

theorem isTool_itemSummary : (itemSummary pending item).isTool ↔ item = .tool := by
  cases item
  case «variable» name type value =>
    rw [itemSummary]
    rcases pending with _ | _ | _ | _ | _ <;> simp [propertySummary]
  case function name params returnType =>
    rw [itemSummary, functionSummary]
    split <;> simp
  all_goals simp [itemSummary]

theorem members_itemSummary : (itemSummary pending item).members.signals = (signal? item).toList ∧
    (itemSummary pending item).members.enums = (enumeration? item).toList ∧
    (itemSummary pending item).members.constants = (constant? item).toList := by
  cases item
  case «variable» name type value =>
    rw [itemSummary]
    rcases pending with _ | _ | _ | _ | _ <;> exact ⟨rfl, rfl, rfl⟩
  case function name params returnType =>
    rw [itemSummary, functionSummary]
    split <;> exact ⟨rfl, rfl, rfl⟩
  all_goals simp [itemSummary, signal?, enumeration?, constant?]

theorem className_walk_eq :
    (walk pending items).className = (items.filterMap className?).head? := by
  induction items generalizing pending
  case nil => simp [walk]
  case cons item items hi =>
    rw [walk, Summary.merge, className_itemSummary_eq, hi, filterMap_cons_eq]
    cases className? item <;> simp

theorem base_walk_eq : (walk pending items).base = lastBase? items := by
  induction items generalizing pending
  case nil => simp [walk, lastBase?]
  case cons item items hi =>
    rw [walk, Summary.merge, base_itemSummary_eq, hi, lastBase?, lastBase?, filterMap_cons_eq,
      List.getLast?_append]
    cases base? item <;> simp

theorem isTool_walk : (walk pending items).isTool ↔ .tool ∈ items := by
  induction items generalizing pending
  case nil => simp [walk]
  case cons item items hi =>
    rw [walk, Summary.merge, Bool.or_eq_true, isTool_itemSummary, hi, List.mem_cons, eq_comm]

theorem part_walk {β : Type} {part : Members → List β} {held? : Item → Option β}
    (hn : part {} = []) (ha : ∀ a b, part (a.append b) = part a ++ part b)
    (hi : ∀ pending item, part (itemSummary pending item).members = (held? item).toList) :
    part (walk pending items).members = items.filterMap held? := by
  induction items generalizing pending
  case nil => simpa [walk] using hn
  case cons item items ih => rw [walk, Summary.merge, ha, hi, ih, filterMap_cons_eq]

theorem typeOf?_eq : typeOf? item = innerType? item := by
  cases item
  case «class» => simp [typeOf?, innerType?, base_walk_eq]
  all_goals rfl

theorem scopedTo_walk : (walk pending items).ScopedTo items where
  className := className_walk_eq
  base := base_walk_eq
  isTool := isTool_walk
  signals := part_walk rfl (fun _ _ => rfl) fun _ _ => members_itemSummary.left
  enums := part_walk rfl (fun _ _ => rfl) fun _ _ => members_itemSummary.right.left
  constants := part_walk rfl (fun _ _ => rfl) fun _ _ => members_itemSummary.right.right
  innerTypes := by simp only [innerTypes_walk, typeOf?_eq]

end

theorem map_innerTypes_walk (pending : Option Marker) (items : List Item) :
    (walk pending items).innerTypes.map (fun t => (t.members, t.innerTypes)) =
      (items.filterMap classBody?).map fun body =>
        ((walk none body).members, (walk none body).innerTypes) := by
  rw [innerTypes_walk, List.map_filterMap, List.map_filterMap]
  congr
  funext item
  cases item <;> rfl

section

variable {pending : Option Marker} {front rest : List Item}

theorem length_innerTypes_walk :
    (walk pending front).innerTypes.length = (front.filterMap classBody?).length := by
  simpa using congrArg List.length (map_innerTypes_walk pending front)

theorem walk_class {name : String} {ext : Option String} {body : List Item} :
    walk pending (front ++ .class name ext body :: rest) =
      { (walk pending front).merge (walk none rest) with
        innerTypes := (walk pending front).innerTypes ++
          .mk name ((walk none body).base.or ext) (walk none body).members
            (walk none body).innerTypes :: (walk none rest).innerTypes } := by
  rw [merge_walk, walk, itemSummary]
  simp [Summary.merge, Members.append, pendingAfter]

end

-- What changes in one class changes the inner type of that class and nothing else.
theorem walk_of_redefinedAt {way : List Nat} {items items' : List Item}
    (h : RedefinedAt way items items') (pending : Option Marker) :
    ∃ ts, walk pending items' = { walk pending items with innerTypes := ts } ∧
      RetypedAt way (walk pending items).innerTypes ts := by
  induction h generalizing pending
  case here front rest name ext ext' body body' =>
    refine ⟨_, by rw [walk_class, walk_class], ?_⟩
    rw [walk_class, ← length_innerTypes_walk]
    exact .here
  case inner way front rest name ext body body' _ hi =>
    -- The class has the same base and members as before, by the induction inside of it.
    obtain ⟨ts, hw, ht⟩ := hi none
    refine ⟨_, by rw [walk_class, walk_class], ?_⟩
    rw [walk_class, hw, ← length_innerTypes_walk]
    exact .inner ht

theorem extract_of_ok {parser : Script.Parser} {source : String} {items : List Item}
    (h : parser source = .ok items) (path : String) : extract parser path source =
      { path, summary := walk none items, dependencies := loadReferences source } := by
  rw [extract, h]

-- The table of a script holds what is declared at its top level, and one inner type for each class
-- there, from its body alone. So a class that is defined in another way, at whatever depth, changes
-- the base and the contents of its own inner type and nothing else.
theorem extract_scoped {parser : Script.Parser} {source : String} {items : List Item}
    (h : parser source = .ok items) (path : String) :
    (extract parser path source).summary.ScopedTo items ∧
      ∀ (parser' : Script.Parser) (way : List Nat) (items' : List Item),
        parser' source = .ok items' → RedefinedAt way items items' →
          ∃ ts, extract parser' path source =
            { extract parser path source with
              summary := { (extract parser path source).summary with innerTypes := ts } } ∧
            RetypedAt way (extract parser path source).summary.innerTypes ts := by
  rw [extract_of_ok h]
  refine ⟨scopedTo_walk, fun parser' way items' h' hr => ?_⟩
  obtain ⟨ts, hw, ht⟩ := walk_of_redefinedAt hr none
  exact ⟨ts, by rw [extract_of_ok h', hw], ht⟩

-- A script with a class inside of a class, which is open to change.
def nestedItems (ext : Option String) (body : List Item) : List Item :=
  [.className "Player", .extends "Node2D", .annotates "export"] ++
    .class "State" (some "RefCounted")
      ([.tool, .extends "Resource"] ++ .class "Step" ext body :: [.signal "left" []]) ::
    [.variable "speed" none none, .signal "hit" []]

def nestedTable (ext : Option String) (body : List Item) : Table :=
  extract (fun _ => .ok (nestedItems ext body)) "player.gd" ""

theorem extract_scoped_nestedItems :
    (nestedTable none []).summary.ScopedTo (nestedItems none []) ∧
      (nestedTable none []).summary.isTool = false ∧
      (nestedTable none []).summary.innerTypes.map (·.base) = [some "Resource"] ∧
      RedefinedAt [0, 0] (nestedItems none []) (nestedItems (some "Node") [.tool]) ∧
      ∃ ts, nestedTable (some "Node") [.tool] = { nestedTable none [] with
          summary := { (nestedTable none []).summary with innerTypes := ts } } ∧
        RetypedAt [0, 0] (nestedTable none []).summary.innerTypes ts := by
  have hr : RedefinedAt [0, 0] (nestedItems none []) (nestedItems (some "Node") [.tool]) :=
    @RedefinedAt.inner _ [.className "Player", .extends "Node2D", .annotates "export"] _ _ _ _ _
      (@RedefinedAt.here [.tool, .extends "Resource"] _ _ _ _ _ _)
  have ⟨hs, hf⟩ := @extract_scoped (fun _ => .ok (nestedItems none [])) "" _ rfl "player.gd"
  exact ⟨hs, by decide, by decide, hr, hf _ _ _ rfl hr⟩

end GodotAtlas.Symbols
