import GodotAtlas.Proofs.Symbols.Scopes
import GodotAtlas.Script.Parse

namespace GodotAtlas.Symbols

open Text

open Script (Item Param)

-- The declarations at the end of a way into nested classes, which counts the classes in front at
-- each level.
def scopeAt? : List Item → List Nat → Option (List Item)
  | items, [] => some items
  | items, i :: way => (items.filterMap classBody?)[i]?.bind (scopeAt? · way)

def membersAt? : Members → List InnerType → List Nat → Option Members
  | m, _, [] => some m
  | _, ts, i :: way => ts[i]?.bind fun t => membersAt? t.members t.innerTypes way

def Table.membersAt? (t : Table) (way : List Nat) : Option Members :=
  Symbols.membersAt? t.members t.summary.innerTypes way

def functionOf (isStatic : Bool) (name : String) (params : List Param)
    (returnType : Option String) : Function :=
  { name, params := params.map parameterOf, returnType, isStatic }

-- Between what stands in front of it and what stands behind it, a function is one of the static
-- functions and none of the others.
structure AmongStatic (front rest : List Item) (f : Function) (m : Members) : Prop where
  isStatic : f.isStatic
  here : m.staticFunctions =
    (walk none front).members.staticFunctions ++ f :: (walk none rest).members.staticFunctions
  nowhereElse : m.functions =
    (walk none front).members.functions ++ (walk none rest).members.functions

theorem membersAt?_walk {way : List Nat} {items body : List Item}
    (h : scopeAt? items way = some body) :
    membersAt? (walk none items).members (walk none items).innerTypes way =
      some (walk none body).members := by
  induction way generalizing items
  case nil =>
    cases h
    rfl
  case cons i way hi =>
    obtain ⟨inner, hc, hw⟩ := Option.bind_eq_some_iff.mp h
    have ht := congrArg (·[i]?) (map_innerTypes_walk none items)
    simp only [List.getElem?_map, hc, Option.map_some, Option.map_eq_some_iff, Prod.mk.injEq] at ht
    obtain ⟨t, ht, hm, hts⟩ := ht
    rw [membersAt?, ht, Option.bind_some, hm, hts, hi hw]

section

variable {front rest : List Item} {name : String} {params : List Param}
  {returnType : Option String}

theorem foldl_pendingAfter : front.foldl pendingAfter none = pendingOf (runAfter front) := by
  induction front using List.reverseRecOn
  case nil => rfl
  case append_singleton front item hi =>
    rw [List.foldl_append, List.foldl_cons, List.foldl_nil, hi, pendingOf_runAfter_append]

theorem walk_function : (walk none (front ++ .function name params returnType :: rest)).members =
    (walk none front).members.append
      ((functionSummary (pendingOf (runAfter front)) name params returnType).members.append
        (walk none rest).members) := by
  rw [merge_walk, foldl_pendingAfter, walk, itemSummary]
  rfl

theorem amongStatic_iff : AmongStatic front rest (functionOf true name params returnType)
    (walk none (front ++ .function name params returnType :: rest)).members ↔
      MakesStatic (runAfter front) := by
  rw [walk_function, functionSummary, ← pendingOf_eq_static_iff]
  by_cases hs : pendingOf (runAfter front) = some .static
  case pos =>
    simp only [hs, if_true, iff_true]
    constructor
    case isStatic => rfl
    case here => simp [Members.append, functionOf]
    case nowhereElse => simp [Members.append]
  case neg =>
    simp only [hs, if_false, iff_false]
    intro h
    -- The function is missing among the static ones.
    simpa [Members.append] using congrArg List.length h.here

end

-- Wherever a script declares a function behind `static`, the function is one of the static ones
-- there exactly if no annotation in front of it is `onready` or starts with `export`.
theorem static_kept_iff {parser : Script.Parser} {source : String} {items : List Item}
    (h : parser source = .ok items) (path : String) {way : List Nat} {body : List Item}
    (hb : scopeAt? items way = some body) :
    ∃ m, (extract parser path source).membersAt? way = some m ∧
      ∀ front name params returnType rest,
        body = front ++ .function name params returnType :: rest → "static" ∈ runAfter front →
          (AmongStatic front rest (functionOf true name params returnType) m ↔
            "onready" ∉ runAfter front ∧ ¬Exports (runAfter front)) := by
  refine ⟨(walk none body).members, ?_, ?_⟩
  · rw [extract_of_ok h]
    exact membersAt?_walk hb
  · rintro front name params returnType rest rfl hs
    rw [amongStatic_iff, MakesStatic]
    exact and_iff_right hs

-- A static function inside of a class, behind another annotation.
def remoteItems : List Item :=
  [.className "Tools", .class "Remote" none
    [.signal "sent" [], .annotates "rpc", .annotates "static", .function "send" [] none]]

theorem static_kept_remoteItems :
    ∃ m, (extract (fun _ => .ok remoteItems) "tools.gd" "").membersAt? [0] = some m ∧
      "static" ∈ runAfter [.signal "sent" [], .annotates "rpc", .annotates "static"] ∧
      AmongStatic [.signal "sent" [], .annotates "rpc", .annotates "static"] []
        (functionOf true "send" [] none) m := by
  have ⟨m, hm, hf⟩ := @static_kept_iff (fun _ => .ok remoteItems) "" _ rfl "tools.gd" [0] _ rfl
  have hs : "static" ∈ runAfter [.signal "sent" [], .annotates "rpc", .annotates "static"] := by
    decide
  exact ⟨m, hm, hs, (hf _ "send" [] none [] rfl hs).mpr (by decide)⟩

def groupedSource : String :=
  "@export_group(\"Tools\")\nstatic func make():\n\tpass\n"

def groupedItems : List Item :=
  [.annotates "export_group", .annotates "static", .function "make" [] none]

theorem static_lost_groupedItems :
    "static" ∈ runAfter [.annotates "export_group", .annotates "static"] ∧
      (extract (fun _ => .ok groupedItems) "tools.gd" groupedSource).members =
        { functions := [functionOf false "make" [] none] } ∧
      (extract Script.parse "tools.gd" groupedSource).diagnostic = none ∧
      (extract Script.parse "tools.gd" groupedSource).members =
        { functions := [functionOf false "make" [] none] } ∧
      (extractLines "tools.gd" groupedSource).members =
        { staticFunctions := [functionOf true "make" [] none] } := by
  decide +kernel

end GodotAtlas.Symbols
