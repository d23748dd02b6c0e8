import Mathlib
import GodotAtlas.Script.Lowering

namespace GodotAtlas.Script

namespace Tree

variable {t : Tree}

def paramsIn (t : Tree) : List Param :=
  (t.namedChildren.filter (·.kind != .comment)).filterMap param?

def enumeratorName? (t : Tree) : Option String :=
  (t.fieldText? .left).or (t.namedChildren.head?.bind fun c => nonEmpty c.trimmedText)

def valuesIn (t : Tree) : List String :=
  (t.namedChildren.filter (·.kind == .enumerator)).filterMap enumeratorName?

theorem params_eq : t.params =
    (((t.child? .parameters).or (t.childOfKind? [.parameters])).map paramsIn).getD [] := by
  rw [params]
  split
  case h_1 hp => rw [hp, Option.map_some, Option.getD_some, paramsIn]
  case h_2 hp => rw [hp, Option.map_none, Option.getD_none]

theorem enumValues_eq : t.enumValues =
    (((t.child? .body).or (t.childOfKind? [.enumerators])).map valuesIn).getD [] := by
  rw [enumValues]
  split
  case h_1 hb => rw [hb, Option.map_some, Option.getD_some, valuesIn]; rfl
  case h_2 hb => rw [hb, Option.map_none, Option.getD_none]

theorem annotationName_eq : t.annotationName =
    ((t.childOfKind? [.identifier]).map trimmedText).getD
      (String.ofList ((t.trimmedText.toList.dropWhile (· == '@')).takeWhile fun c =>
        Text.isAlphanumeric c || c == '_')) := by
  rw [annotationName]
  split
  case h_1 hc => rw [hc, Option.map_some, Option.getD_some]
  case h_2 hc => rw [hc, Option.map_none, Option.getD_none]

def typeMark (t : Tree) : Kind × String :=
  (t.kind, if t.kind = .type then t.trimmedText else "")

theorem trailingType?_eq : t.trailingType? =
    ((((t.namedChildren.map typeMark).takeWhile (·.fst != .body)).dropWhile
      (·.fst != .parameters)).filter (·.fst == .type)).getLast?.bind (nonEmpty ·.snd) := by
  rw [List.takeWhile_map, List.dropWhile_map, List.filter_map, List.getLast?_map, Option.bind_map]
  refine Option.bind_congr fun c hc => ?_
  have hk := (List.mem_filter.mp (List.mem_of_getLast? hc)).right
  simp only [Function.comp_apply, typeMark] at hk ⊢
  rw [if_pos (eq_of_beq hk)]

end Tree

namespace Item

variable {t : Tree} {ts us : List Tree}

theorem ofStatements_eq : ofStatements ts = (ts.filter (·.info.named)).flatMap ofStatement := by
  induction ts
  case nil => rw [ofStatements, List.filter_nil, List.flatMap_nil]
  case cons t ts hi => by_cases h : t.info.named <;> simp [ofStatements, h, hi]

theorem ofAnnotations_eq : ofAnnotations ts = (ts.filter isAnnotating).flatMap ofStatement := by
  induction ts
  case nil => rw [ofAnnotations, List.filter_nil, List.flatMap_nil]
  case cons t ts hi => by_cases h : isAnnotating t <;> simp [ofAnnotations, h, hi]

theorem ofBlock_eq : ofBlock t = ofStatements t.children := by
  cases t
  rw [ofBlock, Tree.children]

theorem ofBody_eq : ofBody t.children = ((t.child? .body).map ofBlock).getD [] := by
  rw [Tree.child?]
  induction t.children
  case nil => rw [ofBody, List.find?_nil, Option.map_none, Option.getD_none]
  case cons t ts hi =>
    by_cases h : t.info.field == some .body
    case pos => simp [ofBody, h]
    case neg => simp [ofBody, h, hi]

theorem ofStatements_append : ofStatements (ts ++ us) = ofStatements ts ++ ofStatements us := by
  simp [ofStatements_eq]

theorem ofStatements_namedChildren : ofStatements t.namedChildren = ofBlock t := by
  rw [ofBlock_eq, ofStatements_eq, ofStatements_eq, Tree.namedChildren, List.filter_filter]
  simp

end Item

end GodotAtlas.Script
