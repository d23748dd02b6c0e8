import GodotAtlas.Proofs.Script.Lowering
import GodotAtlas.Script.Parse
import GodotAtlas.Symbols.Extract

namespace GodotAtlas.Script

inductive Role where
  | block | statement | parameters | parameter | enumerators | enumerator
  -- What is extended: the text of the first child is recorded.
  | base
  -- The text of the node is recorded as it stands.
  | quoted
deriving DecidableEq

def Role.Open (r : Role) : Prop :=
  r ≠ .base ∧ r ≠ .quoted

instance : DecidablePred Role.Open :=
  fun _ => inferInstanceAs (Decidable (_ ∧ _))

namespace Tree

-- An annotation without a name of its own, which is recorded as a whole.
def Wordless (t : Tree) : Prop :=
  t.kind = .annotates ∧ (t.childOfKind? [.identifier]).isNone

instance {t : Tree} : Decidable t.Wordless :=
  inferInstanceAs (Decidable (_ ∧ _))

def Recorded (fields : List Field) (t : Tree) : Prop :=
  (∃ f ∈ fields, t.info.field = some f) ∨ t.kind ∈ [Kind.identifier, .name, .type]

instance {fields : List Field} {t : Tree} : Decidable (t.Recorded fields) :=
  inferInstanceAs (Decidable (_ ∨ _))

def statementRoles (t : Tree) : List Role :=
  if t.Wordless then [.statement, .quoted] else [.statement]

def declarationKinds : List Kind :=
  [.className, .signal, .variable, .exportVariable, .onreadyVariable, .constant, .function,
    .constructor, .enumeration, .class]

def declarationRoles (p c : Tree) : List Role :=
  (if c.Recorded [.name, .type, .value, .returnType] then [.quoted] else [])
  ++ (if Item.isAnnotating c then c.statementRoles else [])
  ++ (if c.info.field = some .parameters ∨ c.kind = .parameters then [.parameters] else [])
  ++ (if c.info.field = some .extends then [.base] else [])
  ++ (if p.kind = .class ∧ c.info.field = some .body then [.block] else [])
  ++ (if p.kind = .enumeration ∧ (c.info.field = some .body ∨ c.kind = .enumerators) then
      [.enumerators] else [])

end Tree

-- How a child of a node is read if the node is read in some way; there may be several ways or none.
def Role.ofChild (p c : Tree) : Role → List Role
  | .block => c.statementRoles
  | .statement =>
    if p.kind ∈ Tree.declarationKinds then p.declarationRoles c
    else match p.kind with
      | .annotations => c.statementRoles
      | .annotates => if c.kind = .identifier then [.quoted] else []
      | .extends => [.quoted]
      | _ => []
  | .parameters => if c.kind = .identifier ∨ c.kind = .name then [.quoted] else [.parameter]
  | .parameter => if c.Recorded [.name, .type] then [.quoted] else []
  | .enumerators => if c.kind = .enumerator then [.enumerator] else []
  | .enumerator =>
    if c.info.field = some .left ∨ (p.fieldText? .left).isNone then [.quoted] else []
  | .base | .quoted => [.quoted]

-- The nodes among whose children comments come and go: the script, bodies of classes (and of
-- functions), groups of annotations, and lists of parameters and of enumerators.
def commentHolders : List Kind :=
  [.source, .body, .annotations, .parameters, .enumerators]

structure IsComment (t : Tree) : Prop where
  kind : t.kind = .comment
  field : t.info.field = none

-- One change to a tree that is read in some ways: a node moves, or a comment comes up among the
-- children of a node, however deep. The texts of all nodes around the comment change along with it.
-- Comments do not come up in nodes that are read in a way that does not admit them, so these keep
-- their text.
inductive Edit (admits : Role → Prop) : List Role → Tree → Tree → Prop where
  | moved {roles i cs} (line column : Nat) :
    Edit admits roles (.node i cs) (.node { i with line, column } cs)
  | comment {roles i c rest} (front : List Tree) (text : String) (hr : ∀ r ∈ roles, admits r)
    (hk : i.kind ∈ commentHolders) (hc : IsComment c) :
    Edit admits roles (.node i (front ++ rest)) (.node { i with text } (front ++ c :: rest))
  | inside {roles i c c' rest} (front : List Tree) (text : String)
    (ht : (∃ r ∈ roles, ¬admits r) → text = i.text)
    (h : Edit admits (roles.flatMap (Role.ofChild (.node i (front ++ c :: rest)) c)) c c') :
    Edit admits roles (.node i (front ++ c :: rest)) (.node { i with text } (front ++ c' :: rest))

-- What is read off two nodes is the same. Of a node that is recorded as a whole this asks for the
-- same text.
def Role.Same (t t' : Tree) : Role → Prop
  | .block => Item.ofBlock t = Item.ofBlock t'
  | .statement => (t.Wordless → t.trimmedText = t'.trimmedText) →
      Item.ofStatement t = Item.ofStatement t'
  | .parameters => t.paramsIn = t'.paramsIn
  | .parameter => t.kind ∉ [Kind.identifier, .name] → t.param? = t'.param?
  | .enumerators => t.valuesIn = t'.valuesIn
  | .enumerator => t.kind = .enumerator → t.enumeratorName? = t'.enumeratorName?
  | .base => t.extendsTarget? = t'.extendsTarget?
  | .quoted => t.trimmedText = t'.trimmedText

section

variable {α β : Type} {front rest : List α} {a a' : α} {q : α → Bool}

theorem bind_eq_of_map_eq {o o' : Option α} {g : α → Option β} (h : o.map g = o'.map g) :
    o.bind g = o'.bind g := by
  cases o <;> cases o' <;> simp_all

theorem map_find?_replaced {g : α → β} (hq : q a = q a') (hg : q a → g a = g a') :
    ((front ++ a :: rest).find? q).map g = ((front ++ a' :: rest).find? q).map g := by
  rw [List.find?_append, List.find?_append, List.find?_cons, List.find?_cons, ← hq]
  cases hf : front.find? q <;> cases ha : q a <;> simp [hg, ha]

theorem map_filter_replaced {g : α → β} (hq : q a = q a') (hg : q a → g a = g a') :
    ((front ++ a :: rest).filter q).map g = ((front ++ a' :: rest).filter q).map g := by
  cases ha : q a <;> simp [← hq, ha, hg]

theorem filterMap_filter_replaced {g : α → Option β} (hq : q a = q a') (hg : q a → g a = g a') :
    ((front ++ a :: rest).filter q).filterMap g = ((front ++ a' :: rest).filter q).filterMap g := by
  cases ha : q a <;> simp [List.filterMap_cons, ← hq, ha, hg]

theorem flatMap_filter_replaced {g : α → List β} (hq : q a = q a') (hg : q a → g a = g a') :
    ((front ++ a :: rest).filter q).flatMap g = ((front ++ a' :: rest).filter q).flatMap g := by
  rw [List.flatMap_def, List.flatMap_def, map_filter_replaced hq hg]

end

namespace Tree

theorem kind_node {i : Info} {cs : List Tree} : (node i cs).kind = i.kind :=
  rfl

structure SameLabel (t t' : Tree) : Prop where
  kind : t.kind = t'.kind
  named : t.info.named = t'.info.named
  field : t.info.field = t'.info.field

structure Replaces (c c' p p' : Tree) : Prop where
  label : c.SameLabel c'
  children : ∃ front rest, p.children = front ++ c :: rest ∧ p'.children = front ++ c' :: rest

namespace Replaces

variable {c c' p p' : Tree} {f : Field} {kinds : List Kind} {β : Type} (h : Replaces c c' p p')

include h

theorem map_child? {g : Tree → β} (hg : c.info.field = some f → g c = g c') :
    (p.child? f).map g = (p'.child? f).map g := by
  have ⟨_, _, hp, hp'⟩ := h.children
  rw [child?, child?, hp, hp']
  exact map_find?_replaced (by simp only [h.label.field]) fun hf => hg (eq_of_beq hf)

theorem map_childOfKind? {g : Tree → β} (hg : c.kind ∈ kinds → g c = g c') :
    (p.childOfKind? kinds).map g = (p'.childOfKind? kinds).map g := by
  have ⟨_, _, hp, hp'⟩ := h.children
  rw [childOfKind?, childOfKind?, namedChildren, namedChildren, List.find?_filter,
    List.find?_filter, hp, hp']
  refine map_find?_replaced (by simp only [h.label.kind, h.label.named]) fun hk => hg ?_
  simpa using (of_decide_eq_true hk).right

theorem map_namedChildren {g : Tree → β} (hg : g c = g c') :
    p.namedChildren.map g = p'.namedChildren.map g := by
  have ⟨_, _, hp, hp'⟩ := h.children
  rw [namedChildren, namedChildren, hp, hp']
  exact map_filter_replaced h.label.named fun _ => hg

theorem bind_head? {g : Tree → Option β} (hg : g c = g c') :
    p.namedChildren.head?.bind g = p'.namedChildren.head?.bind g := by
  apply bind_eq_of_map_eq
  rw [← List.head?_map, ← List.head?_map, h.map_namedChildren hg]

theorem filterMap_namedChildren {q : Kind → Bool} {g : Tree → Option β}
    (hg : q c.kind → g c = g c') : (p.namedChildren.filter (q ·.kind)).filterMap g =
      (p'.namedChildren.filter (q ·.kind)).filterMap g := by
  have ⟨_, _, hp, hp'⟩ := h.children
  rw [namedChildren, namedChildren, List.filter_filter, List.filter_filter, hp, hp']
  refine filterMap_filter_replaced (by simp only [h.label.kind, h.label.named]) fun hk => hg ?_
  exact (Bool.and_eq_true_iff.mp hk).left

theorem fieldText? (ht : c.info.field = some f → c.trimmedText = c'.trimmedText) :
    p.fieldText? f = p'.fieldText? f :=
  bind_eq_of_map_eq (h.map_child? fun hf => by rw [ht hf])

theorem declaredName?
    (ht : c.info.field = some .name ∨ c.kind ∈ [Kind.identifier, .name] →
      c.trimmedText = c'.trimmedText) : p.declaredName? = p'.declaredName? := by
  rw [Tree.declaredName?, Tree.declaredName?, h.fieldText? fun hf => ht (.inl hf),
    bind_eq_of_map_eq (h.map_childOfKind? fun hk => by rw [ht (.inr hk)])]

theorem variableType? (ht : c.info.field = some .type → c.trimmedText = c'.trimmedText) :
    p.variableType? = p'.variableType? :=
  bind_eq_of_map_eq (h.map_child? fun hf => by rw [ht hf, h.label.kind])

theorem paramType?
    (ht : c.info.field = some .type ∨ c.kind = .type → c.trimmedText = c'.trimmedText) :
    p.paramType? = p'.paramType? := by
  apply bind_eq_of_map_eq
  rw [Option.map_or, Option.map_or, h.map_child? fun hf => by rw [ht (.inl hf), h.label.kind],
    h.map_childOfKind? fun hk => by rw [ht (.inr (List.mem_singleton.mp hk)), h.label.kind]]

theorem extendsTarget? (ht : c.trimmedText = c'.trimmedText) :
    p.extendsTarget? = p'.extendsTarget? :=
  h.bind_head? (by rw [ht])

theorem annotationName (hw : p.Wordless → p.trimmedText = p'.trimmedText)
    (hk : p.kind = .annotates) (ht : c.kind = .identifier → c.trimmedText = c'.trimmedText) :
    p.annotationName = p'.annotationName := by
  have hn : (p.childOfKind? [.identifier]).map trimmedText =
      (p'.childOfKind? [.identifier]).map trimmedText :=
    h.map_childOfKind? fun hi => ht (List.mem_singleton.mp hi)
  rw [annotationName_eq, annotationName_eq, ← hn]
  cases hi : p.childOfKind? [.identifier]
  case none => rw [hw ⟨hk, by rw [hi, Option.isNone_none]⟩]
  case some => rw [Option.map_some, Option.getD_some, Option.getD_some]

theorem param? (hp : p.kind = p'.kind) (hk : p.kind ∉ [Kind.identifier, .name])
    (ht : c.Recorded [.name, .type] → c.trimmedText = c'.trimmedText) : p.param? = p'.param? := by
  have hn : p.declaredName? = p'.declaredName? := h.declaredName? fun hc => ht <|
    hc.imp (fun hf => ⟨.name, by simp, hf⟩) fun hi => List.mem_append_left [.type] hi
  have hy : p.paramType? = p'.paramType? := h.paramType? fun hc => ht <|
    hc.imp (fun hf => ⟨.type, by simp, hf⟩) fun hi => by simp [hi]
  simp only [List.mem_cons, List.not_mem_nil, or_false, not_or] at hk
  rw [Tree.param?, Tree.param?, ← hp, ← hn, ← hy]
  split
  case h_1 hi => exact absurd hi hk.left
  case h_2 hi => exact absurd hi hk.right
  all_goals rfl

theorem paramsIn (hc : c.kind ≠ .comment → c.param? = c'.param?) : p.paramsIn = p'.paramsIn :=
  h.filterMap_namedChildren (q := (· != .comment)) fun hk => hc (by simpa using hk)

theorem params (hc : c.info.field = some .parameters ∨ c.kind = .parameters →
    c.paramsIn = c'.paramsIn) : p.params = p'.params := by
  rw [params_eq, params_eq, Option.map_or, Option.map_or, h.map_child? fun hf => hc (.inl hf),
    h.map_childOfKind? fun hk => hc (.inr (List.mem_singleton.mp hk))]

theorem returnType? (ht : c.info.field = some .returnType ∨ c.kind = .type →
    c.trimmedText = c'.trimmedText) : p.returnType? = p'.returnType? := by
  have hm : c.typeMark = c'.typeMark := by
    by_cases hk : c.kind = .type
    case pos => simp only [typeMark, ← h.label.kind, ht (.inr hk)]
    case neg => simp only [typeMark, ← h.label.kind, if_neg hk]
  rw [Tree.returnType?, Tree.returnType?, h.fieldText? fun hf => ht (.inl hf), trailingType?_eq,
    trailingType?_eq, h.map_namedChildren hm]

theorem enumeratorName? (ht : c.info.field = some .left ∨ (p.fieldText? .left).isNone →
    c.trimmedText = c'.trimmedText) : p.enumeratorName? = p'.enumeratorName? := by
  rw [Tree.enumeratorName?, Tree.enumeratorName?, ← h.fieldText? fun hf => ht (.inl hf)]
  cases hl : p.fieldText? .left
  case none =>
    have hc : c.trimmedText = c'.trimmedText := ht (.inr (by rw [hl, Option.isNone_none]))
    rw [h.bind_head? (by rw [hc])]
  case some => rfl

theorem valuesIn (hc : c.kind = .enumerator → c.enumeratorName? = c'.enumeratorName?) :
    p.valuesIn = p'.valuesIn :=
  h.filterMap_namedChildren (q := (· == .enumerator)) fun hk => hc (by simpa using hk)

theorem enumValues (hc : c.info.field = some .body ∨ c.kind = .enumerators →
    c.valuesIn = c'.valuesIn) : p.enumValues = p'.enumValues := by
  rw [enumValues_eq, enumValues_eq, Option.map_or, Option.map_or,
    h.map_child? fun hf => hc (.inl hf),
    h.map_childOfKind? fun hk => hc (.inr (List.mem_singleton.mp hk))]

theorem isStatic : p.isStatic = p'.isStatic := by
  have ⟨_, _, hp, hp'⟩ := h.children
  simp [Tree.isStatic, hp, hp', h.label.kind]

theorem ofStatements (hc : Item.ofStatement c = Item.ofStatement c') :
    Item.ofStatements p.children = Item.ofStatements p'.children := by
  have ⟨_, _, hp, hp'⟩ := h.children
  rw [Item.ofStatements_eq, Item.ofStatements_eq, hp, hp']
  exact flatMap_filter_replaced h.label.named fun _ => hc

theorem ofAnnotations (hc : Item.isAnnotating c → Item.ofStatement c = Item.ofStatement c') :
    Item.ofAnnotations p.children = Item.ofAnnotations p'.children := by
  have ⟨_, _, hp, hp'⟩ := h.children
  rw [Item.ofAnnotations_eq, Item.ofAnnotations_eq, hp, hp']
  refine flatMap_filter_replaced ?_ hc
  rw [Item.isAnnotating, Item.isAnnotating, h.label.named, h.label.kind]

theorem ofBody (hc : c.info.field = some .body → Item.ofBlock c = Item.ofBlock c') :
    Item.ofBody p.children = Item.ofBody p'.children := by
  rw [Item.ofBody_eq, Item.ofBody_eq, h.map_child? hc]

end Replaces

-- All that a declaration is made from.
structure SameParts (p p' : Tree) : Prop where
  name : p.declaredName? = p'.declaredName?
  value : p.fieldText? .value = p'.fieldText? .value
  type : p.variableType? = p'.variableType?
  params : p.params = p'.params
  returnType : p.returnType? = p'.returnType?
  isStatic : p.isStatic = p'.isStatic
  base : (p.child? .extends).bind extendsTarget? = (p'.child? .extends).bind extendsTarget?
  annotations : Item.ofAnnotations p.children = Item.ofAnnotations p'.children
  values : p.kind = .enumeration → p.enumValues = p'.enumValues
  body : p.kind = .class → Item.ofBody p.children = Item.ofBody p'.children

namespace SameParts

variable {p p' : Tree} (h : SameParts p p')

include h

theorem named {f : String → Item} : Item.named p f = Item.named p' f := by
  rw [Item.named, Item.named, h.name]

theorem ofVariable : Item.ofVariable p = Item.ofVariable p' := by
  rw [Item.ofVariable, Item.ofVariable, h.named, h.type, h.value]

theorem ofFunction (hk : p.kind = p'.kind) : Item.ofFunction p = Item.ofFunction p' := by
  rw [Item.ofFunction, Item.ofFunction, h.name, h.params, h.returnType, hk]

theorem ofClass {body : List Item} : Item.ofClass p body = Item.ofClass p' body := by
  rw [Item.ofClass, Item.ofClass, h.named, h.base]

end SameParts

end Tree

section

variable {c c' p p' : Tree}

theorem ofStatement_of_same (h : ∀ r ∈ c.statementRoles, r.Same c c') :
    Item.ofStatement c = Item.ofStatement c' := by
  rw [Tree.statementRoles] at h
  split at h
  case isTrue => exact h .statement (by simp) fun _ => h .quoted (by simp)
  case isFalse hw => exact h .statement (by simp) fun hw' => absurd hw' hw

theorem param?_of_same (hl : c.kind = c'.kind)
    (h : ∀ r ∈ Role.parameters.ofChild p c, r.Same c c') : c.param? = c'.param? := by
  rw [Role.ofChild] at h
  split at h
  case isTrue hk =>
    have ht : c.trimmedText = c'.trimmedText := h .quoted (by simp)
    rcases hk with hk | hk <;> simp [Tree.param?, ← hl, hk, ht]
  case isFalse hk => exact h .parameter (by simp) (by simpa using hk)

theorem sameParts_of_same (hc : c.Replaces c' p p')
    (h : ∀ r ∈ p.declarationRoles c, r.Same c c') : p.SameParts p' := by
  have ht (hr : c.Recorded [.name, .type, .value, .returnType]) : c.trimmedText = c'.trimmedText :=
    h .quoted (by simp [Tree.declarationRoles, hr])
  constructor
  case name =>
    exact hc.declaredName? fun hn => ht <|
      hn.imp (fun hf => ⟨.name, by simp, hf⟩) fun hk => List.mem_append_left [.type] hk
  case value => exact hc.fieldText? fun hf => ht (.inl ⟨.value, by simp, hf⟩)
  case type => exact hc.variableType? fun hf => ht (.inl ⟨.type, by simp, hf⟩)
  case params => exact hc.params fun hp => h .parameters (by simp [Tree.declarationRoles, hp])
  case returnType =>
    exact hc.returnType? fun hr => ht <|
      hr.imp (fun hf => ⟨.returnType, by simp, hf⟩) fun hk => by simp [hk]
  case isStatic => exact hc.isStatic
  case base =>
    exact bind_eq_of_map_eq (hc.map_child? fun hf => h .base (by simp [Tree.declarationRoles, hf]))
  case annotations =>
    refine hc.ofAnnotations fun ha => ofStatement_of_same fun r hr => h r ?_
    simp [Tree.declarationRoles, ha, hr]
  case values =>
    exact fun hk => hc.enumValues fun he => h .enumerators (by simp [Tree.declarationRoles, hk, he])
  case body =>
    exact fun hk => hc.ofBody fun hf => h .block (by simp [Tree.declarationRoles, hk, hf])

theorem ofStatement_of_replaces (hc : c.Replaces c' p p') (hl : p.kind = p'.kind)
    (hw : p.Wordless → p.trimmedText = p'.trimmedText)
    (h : ∀ r ∈ Role.statement.ofChild p c, r.Same c c') :
    Item.ofStatement p = Item.ofStatement p' := by
  have hd (hk : p.kind ∈ Tree.declarationKinds) : p.SameParts p' :=
    sameParts_of_same hc fun r hr => h r (by rwa [Role.ofChild, if_pos hk])
  obtain ⟨i, cs⟩ := p
  obtain ⟨i', cs'⟩ := p'
  rw [Item.ofStatement, Item.ofStatement, show i'.kind = i.kind from hl.symm]
  split
  case h_1 | h_2 | h_16 => rfl
  case h_4 hk =>
    have ht : c.trimmedText = c'.trimmedText :=
      h .quoted (by simp [Role.ofChild, Tree.kind_node, Tree.declarationKinds, hk])
    rw [Item.ofExtends, Item.ofExtends, hc.extendsTarget? ht]
  case h_6 hk =>
    refine hc.ofStatements (ofStatement_of_same fun r hr => h r ?_)
    simpa [Role.ofChild, Tree.kind_node, Tree.declarationKinds, hk] using hr
  case h_7 hk =>
    rw [Item.ofAnnotationNode, Item.ofAnnotationNode, hc.annotationName hw hk]
    intro hi
    exact h .quoted (by simp [Role.ofChild, Tree.kind_node, Tree.declarationKinds, hk, hi])
  -- What remains are the declarations.
  all_goals
    have hs := hd (by rw [Tree.kind_node, ‹i.kind = _›]; decide)
    have ha : Item.ofAnnotations cs = Item.ofAnnotations cs' := hs.annotations
  case h_3 => rw [hs.named]
  case h_5 => rw [hs.params, hs.named]
  case h_8 | h_9 | h_10 => rw [ha, hs.ofVariable]
  case h_11 | h_12 => rw [ha, hs.isStatic, hs.ofFunction hl]
  case h_13 hk => rw [hs.name, hs.values hk]
  case h_14 => rw [hs.value, hs.named]
  case h_15 hk => rw [show Item.ofBody cs = Item.ofBody cs' from hs.body hk, hs.ofClass]

theorem same_of_replaces (hc : c.Replaces c' p p') (hl : p.kind = p'.kind) {r : Role}
    (ht : ¬r.Open → p.trimmedText = p'.trimmedText) (h : ∀ s ∈ r.ofChild p c, s.Same c c') :
    r.Same p p' := by
  cases r
  case block =>
    rw [Role.Same, Item.ofBlock_eq, Item.ofBlock_eq, hc.ofStatements (ofStatement_of_same h)]
  case statement => exact fun hw => ofStatement_of_replaces hc hl hw h
  case parameters => exact hc.paramsIn fun _ => param?_of_same hc.label.kind h
  case parameter =>
    exact fun hk => hc.param? hl hk fun hr => h .quoted (by simp [Role.ofChild, hr])
  case enumerators =>
    exact hc.valuesIn fun hk => h .enumerator (by simp [Role.ofChild, hk]) hk
  case enumerator =>
    refine fun _ => hc.enumeratorName? fun hf => h .quoted ?_
    rw [Role.ofChild, if_pos hf]
    exact List.mem_singleton_self _
  case base => exact hc.extendsTarget? (h .quoted (List.mem_singleton_self _))
  case quoted => exact ht (by decide)

end

structure Tree.Gains (c p p' : Tree) : Prop where
  comment : IsComment c
  children : ∃ front rest, p.children = front ++ rest ∧ p'.children = front ++ c :: rest

namespace Tree.Gains

variable {c p p' : Tree} (h : Gains c p p')

include h

theorem child? {f : Field} : p.child? f = p'.child? f := by
  have ⟨_, _, hp, hp'⟩ := h.children
  simp [Tree.child?, hp, hp', h.comment.field]

theorem childOfKind? {kinds : List Kind} (hk : .comment ∉ kinds) :
    p.childOfKind? kinds = p'.childOfKind? kinds := by
  have ⟨_, _, hp, hp'⟩ := h.children
  simp [Tree.childOfKind?, namedChildren, hp, hp', h.comment.kind, hk]

theorem filter_namedChildren {q : Kind → Bool} (hq : q .comment = false) :
    p.namedChildren.filter (q ·.kind) = p'.namedChildren.filter (q ·.kind) := by
  have ⟨_, _, hp, hp'⟩ := h.children
  simp [namedChildren, hp, hp', h.comment.kind, hq]

theorem declaredName? : p.declaredName? = p'.declaredName? := by
  rw [Tree.declaredName?, Tree.declaredName?, fieldText?, fieldText?, h.child?,
    h.childOfKind? (by decide)]

theorem paramsIn : p.paramsIn = p'.paramsIn := by
  rw [Tree.paramsIn, Tree.paramsIn, h.filter_namedChildren (q := (· != .comment)) rfl]

theorem valuesIn : p.valuesIn = p'.valuesIn := by
  rw [Tree.valuesIn, Tree.valuesIn, h.filter_namedChildren (q := (· == .enumerator)) rfl]

theorem ofStatements : Item.ofStatements p.children = Item.ofStatements p'.children := by
  have ⟨_, rest, hp, hp'⟩ := h.children
  have hc : Item.ofStatement c = [] := by
    obtain ⟨i, cs⟩ := c
    rw [Item.ofStatement, show i.kind = .comment from h.comment.kind]
  have hr : Item.ofStatements (c :: rest) = Item.ofStatements rest := by
    rw [Item.ofStatements, hc, ite_self, List.nil_append]
  rw [hp, hp', Item.ofStatements_append, Item.ofStatements_append, hr]

end Tree.Gains

theorem same_of_gains {c p p' : Tree} (hg : c.Gains p p') (hl : p.kind = p'.kind)
    (hk : p.kind ∈ commentHolders) {r : Role} (hr : r.Open) : r.Same p p' := by
  simp only [commentHolders, List.mem_cons, List.not_mem_nil, or_false] at hk
  cases r
  case block => rw [Role.Same, Item.ofBlock_eq, Item.ofBlock_eq, hg.ofStatements]
  case statement =>
    intro _
    have hs := hg.ofStatements
    obtain ⟨i, cs⟩ := p
    obtain ⟨i', cs'⟩ := p'
    rw [Tree.kind_node] at hk
    rw [Item.ofStatement, Item.ofStatement, show i'.kind = i.kind from hl.symm]
    -- Of the statements only groups of annotations hold comments.
    rcases hk with hk | hk | hk | hk | hk <;> simp only [hk]
    exact hs
  case parameters => exact hg.paramsIn
  case parameter =>
    intro _
    rw [Tree.param?, Tree.param?, ← hl, hg.declaredName?]
    rcases hk with hk | hk | hk | hk | hk <;> rw [hk]
  case enumerators => exact hg.valuesIn
  case enumerator =>
    intro he
    simp [he] at hk
  case base => exact absurd rfl hr.left
  case quoted => exact absurd rfl hr.right

-- By induction on the way down to the change. The labels of the nodes on the way stay, since by
-- these the nodes above find their parts.
theorem same_of_edit {roles : List Role} {t t' : Tree} (h : Edit Role.Open roles t t') :
    t.SameLabel t' ∧ ∀ r ∈ roles, r.Same t t' := by
  induction h
  case moved =>
    refine ⟨⟨rfl, rfl, rfl⟩, fun r _ => ?_⟩
    cases r
    case statement =>
      intro _
      rw [Item.ofStatement, Item.ofStatement]
      rfl
    case parameter | enumerator => exact fun _ => rfl
    all_goals rfl
  case comment i c rest front text hr hk hc =>
    have hg : c.Gains (.node i (front ++ rest)) (.node { i with text } (front ++ c :: rest)) :=
      ⟨hc, front, rest, rfl, rfl⟩
    exact ⟨⟨rfl, rfl, rfl⟩, fun r hm => same_of_gains hg rfl hk (hr r hm)⟩
  case inside i c c' rest front text ht _ hi =>
    have hc : c.Replaces c' (.node i (front ++ c :: rest))
        (.node { i with text } (front ++ c' :: rest)) := ⟨hi.left, front, rest, rfl, rfl⟩
    refine ⟨⟨rfl, rfl, rfl⟩, fun r hm => same_of_replaces hc rfl (fun ho => ?_) fun s hs => ?_⟩
    case refine_1 => rw [Tree.trimmedText, Tree.trimmedText, Tree.info, Tree.info, ht ⟨r, hm, ho⟩]
    case refine_2 => exact hi.right s (List.mem_flatMap.mpr ⟨r, hm, hs⟩)

-- Comments that come and go leave the declarations of a script as they are, and with them all that
-- is told of the script but what it loads, unless they are in a part that is recorded as it stands.
theorem ofBlock_of_edits {t t' : Tree} (h : Relation.EqvGen (Edit Role.Open [.block]) t t') :
    Item.ofBlock t = Item.ofBlock t' ∧
      ∀ (parser : Parser) (path source source' : String),
        parser source = .ok (Item.ofBlock t) → parser source' = .ok (Item.ofBlock t') →
          { Symbols.extract parser path source with dependencies := [] } =
            { Symbols.extract parser path source' with dependencies := [] } := by
  have hb : Item.ofBlock t = Item.ofBlock t' := by
    induction h
    case rel h => exact (same_of_edit h).right .block (List.mem_singleton_self _)
    case refl => rfl
    case symm _ hi => exact hi.symm
    case trans _ _ h₁ h₂ => exact h₁.trans h₂
  refine ⟨hb, fun parser path source source' hs hs' => ?_⟩
  rw [Symbols.extract, Symbols.extract, hs, hs', hb]

def carTree (note : String) (between : List Tree) (line : Nat) : Tree :=
  .node { kind := .source, text := "class Car:\n\t@export" ++ note ++ "\n\tvar speed" }
    [.node { kind := .class, text := "class Car:\n\t@export" ++ note ++ "\n\tvar speed" }
      [.node { kind := .name, field := some .name, text := "Car" } [],
       .node { kind := .body, field := some .body,
               text := "\n\t@export" ++ note ++ "\n\tvar speed" }
        (.node { kind := .annotations, text := "@export" }
          [.node { kind := .annotates, text := "@export" }
            [.node { kind := .identifier, text := "export" } []]] ::
        (between ++ [.node { kind := .variable, text := "var speed", line }
          [.node { kind := .name, field := some .name, text := "speed" } []]]))]]

def plainCar : Tree :=
  carTree "" [] 2

def notedCar : Tree :=
  carTree "\n\t# In metres." [.node { kind := .comment, text := "# In metres.", line := 2 } []] 3

theorem edits_notedCar : Relation.EqvGen (Edit Role.Open [.block]) plainCar notedCar := by
  apply Relation.EqvGen.trans _ (carTree "" [] 3)
  case a =>
    refine .rel _ _ (.inside [] _ (by decide) (.inside [_] _ (by decide) ?_))
    exact .inside [_] _ (by decide) (.moved 3 0)
  case a =>
    refine .rel _ _ (.inside [] _ (by decide) (.inside [_] _ (by decide) ?_))
    exact .comment [_] _ (by decide) (by decide) ⟨rfl, rfl⟩

def carParser : Parser := fun source =>
  .ok (Item.ofBlock (if source = plainCar.info.text then plainCar else notedCar))

theorem ofBlock_notedCar :
    Relation.EqvGen (Edit Role.Open [.block]) plainCar notedCar ∧
      Item.ofBlock plainCar = Item.ofBlock notedCar ∧
      { Symbols.extract carParser "car.gd" plainCar.info.text with dependencies := [] } =
        { Symbols.extract carParser "car.gd" notedCar.info.text with dependencies := [] } ∧
      (Symbols.walk none (Item.ofBlock notedCar)).innerTypes.map (·.members) =
        [{ exported := [⟨"speed", none, none⟩] }] := by
  have h := ofBlock_of_edits edits_notedCar
  have hp : carParser plainCar.info.text = .ok (Item.ofBlock plainCar) := by
    rw [carParser, if_pos rfl]
  have hn : carParser notedCar.info.text = .ok (Item.ofBlock notedCar) := by
    rw [carParser, if_neg (by decide +kernel)]
  exact ⟨edits_notedCar, h.left, h.right carParser _ _ _ hp hn, by decide +kernel⟩

-- A variable whose initializer is a lambda with two parameters, one on a line of its own.
def lambdaTree (note : String) (between : List Tree) : Tree :=
  .node { kind := .source, text := "var f = func(a, " ++ note ++ "\n\tb): pass" }
    [.node { kind := .variable, text := "var f = func(a, " ++ note ++ "\n\tb): pass" }
      [.node { kind := .name, field := some .name, text := "f" } [],
       .node { kind := .other "lambda", field := some .value,
               text := "func(a, " ++ note ++ "\n\tb): pass" }
        [.node { kind := .parameters, field := some .parameters,
                 text := "(a, " ++ note ++ "\n\tb)" }
          (.node { kind := .identifier, text := "a" } [] ::
          (between ++ [.node { kind := .identifier, text := "b", line := 1, column := 1 } []]))]]]

def plainLambda : Tree :=
  lambdaTree "" []

def notedLambda : Tree :=
  lambdaTree "# note" [.node { kind := .comment, text := "# note", column := 16 } []]

-- The initializer is recorded as it stands, and with it a comment between the parameters.
theorem ofBlock_notedLambda :
    Edit (fun _ => True) [.block] plainLambda notedLambda ∧
      Item.ofBlock plainLambda ≠ Item.ofBlock notedLambda ∧
      (Symbols.extract parse "f.gd" "var f = func(a, \n\tb): pass\n").members =
        { plain := [⟨"f", none, some "func(a, b): pass"⟩] } ∧
      (Symbols.extract parse "f.gd" "var f = func(a, # note\n\tb): pass\n").members =
        { plain := [⟨"f", none, some "func(a, # note b): pass"⟩] } := by
  refine ⟨?_, fun h => ?_, by decide +kernel, by decide +kernel⟩
  case refine_1 =>
    refine .inside [] _ (by simp) (.inside [_] _ (by simp) (.inside [] _ (by simp) ?_))
    exact .comment [_] _ (by simp) (by decide) ⟨rfl, rfl⟩
  case refine_2 =>
    exact absurd (congrArg (fun items => (Symbols.walk none items).members) h) (by decide +kernel)

end GodotAtlas.Script
