import GodotAtlas.Proofs.Symbols.Printed
import GodotAtlas.Symbols.Lines

namespace GodotAtlas.Symbols

open Text

@[simp]
theorem Summary.empty_merge {s : Summary} : Summary.merge {} s = s := by
  simp [merge, Members.append]

@[simp]
theorem Summary.merge_empty {s : Summary} : s.merge {} = s := by
  simp [merge, Members.append]

def lead (cs : List Char) : List Char :=
  cs.takeWhile (!isBlank ·)

def Unspaced (k : String) : Bool :=
  k.toList.all (!isBlank ·)

section

variable {k : String} {cs rest l : List Char}

@[simp]
theorem headed_append : headed k cs ++ rest = headed k (cs ++ rest) := by
  simp [headed]

theorem not_mem_headed {c : Char} (hk : c ∉ k.toList) (hs : c ≠ ' ') (h : c ∉ cs) :
    c ∉ headed k cs := by
  simp [headed, hk, hs, h]

theorem lead_headed (hk : Unspaced k) :
    lead (headed k rest) = k.toList := by
  have hs : Stops (!isBlank ·) (' ' :: rest) := by simp [isBlank]
  rw [lead, headed, List.takeWhile_append_of_pos (List.all_eq_true.mp hk), takeWhile_of_stops hs,
    List.append_nil]

theorem prefix_lead_of_skip? (hk : Unspaced k)
    (h : skip? k.toList cs = some rest) : k.toList <+: lead cs := by
  rw [eq_append_of_skip? h, lead, List.takeWhile_append_of_pos (List.all_eq_true.mp hk)]
  exact List.prefix_append ..

theorem lead_of_keyword? (hk : Unspaced k)
    (h : keyword? k cs = some rest) : lead cs = k.toList := by
  have ⟨ds, hs, hb⟩ := Option.bind_eq_some_iff.mp h
  have hd : Stops (!isBlank ·) ds := by
    cases ds
    case nil => exact stops_nil
    case cons d ds =>
      cases hd : isBlank d
      case true => simp [hd]
      case false => simp [blank?_of_stops (stops_cons.mpr hd)] at hb
  rw [eq_append_of_skip? hs, lead, List.takeWhile_append_of_pos (List.all_eq_true.mp hk),
    takeWhile_of_stops hd, List.append_nil]

theorem skip?_of_lead (hl : lead cs = l) (hn : ¬k.toList <+: l)
    (hk : Unspaced k) : skip? k.toList cs = none := by
  cases h : skip? k.toList cs
  case none => rfl
  case some => exact absurd (hl ▸ prefix_lead_of_skip? hk h) hn

theorem keyword?_of_lead (hl : lead cs = l) (hn : l ≠ k.toList)
    (hk : Unspaced k) : keyword? k cs = none := by
  cases h : keyword? k cs
  case none => rfl
  case some => exact absurd (hl ▸ lead_of_keyword? hk h) hn

theorem declared?_of_lead (hl : lead cs = l) (hn : l ≠ k.toList)
    (hk : Unspaced k) : declared? k cs = none := by
  simp [declared?, keyword?_of_lead hl hn hk]

theorem dropAnnotations_of_ne (h : cs.head? ≠ some '@') (n : Nat) : dropAnnotations n cs = cs := by
  cases n
  case zero => rfl
  case succ n =>
    rw [dropAnnotations]
    intro ds hc
    simp [hc] at h

theorem keyword?_headed (h : Stops isBlank rest) : keyword? k (headed k rest) = some rest := by
  simp [keyword?, headed, skip?_append, blank?_space h]

theorem declared?_headed (w : Word) (h : Stops isWord rest) :
    declared? k (headed k (w.chars ++ rest)) = some (w.text, rest) := by
  have hb := w.stops_append (fun _ => isBlank_of_isWord) rest
  simp [declared?, keyword?_headed hb, word?, run?_append w h, Run.text]

end

section

variable {line l : List Char} (hl : lead line = l)
include hl

theorem classNameLine_of_lead (hn : l ≠ "class_name".toList) : classNameLine line = {} := by
  simp [classNameLine, declared?_of_lead hl hn (by decide)]

theorem extendsLine_of_lead (hn : l ≠ "extends".toList) : extendsLine line = {} := by
  simp [extendsLine, extendsBase?, keyword?_of_lead hl hn (by decide)]

theorem signalLine_of_lead (hn : l ≠ "signal".toList) : signalLine line = {} := by
  simp [signalLine, declared?_of_lead hl hn (by decide)]

theorem toolLine_of_lead (hp : ¬"@tool".toList <+: l) (hn : l ≠ "tool".toList) :
    toolLine line = {} := by
  have ht : "@tool".toList.isPrefixOf line = false := by
    cases h : "@tool".toList.isPrefixOf line
    case false => rfl
    case true =>
      have ⟨rest, he⟩ := List.isPrefixOf_iff_prefix.mp h
      exact absurd (hl ▸ prefix_lead_of_skip? (by decide) (he ▸ skip?_append _)) hp
  have hw : (line == "tool".toList) = false := by
    cases h : line == "tool".toList
    case false => rfl
    case true =>
      rw [beq_iff_eq.mp h] at hl
      exact absurd hl.symm hn
  rw [toolLine, ht, hw]
  rfl

theorem variableLine_of_lead (hn : l ≠ "var".toList) : variableLine line = {} := by
  simp [variableLine, variableText?, declared?_of_lead hl hn (by decide)]

theorem constantLine_of_lead (hn : l ≠ "const".toList) : constantLine line = {} := by
  simp [constantLine, declared?_of_lead hl hn (by decide)]

theorem enumLine_of_lead (hn : l ≠ "enum".toList) : enumLine line = {} := by
  simp [enumLine, declared?_of_lead hl hn (by decide)]

theorem exportedVariable?_of_lead (hn : ¬"@export".toList <+: l) :
    exportedVariable? line = none := by
  rw [exportedVariable?, skip?_of_lead hl hn (by decide)]
  rfl

theorem deferredVariable?_of_lead (hn : l ≠ "@onready".toList) :
    deferredVariable? line = none := by
  simp [deferredVariable?, keyword?_of_lead hl hn (by decide)]

theorem dropAnnotations_of_lead (hn : ¬"@".toList <+: l) (n : Nat) :
    dropAnnotations n line = line := by
  apply dropAnnotations_of_ne
  intro h
  have ⟨ds, he⟩ := List.head?_eq_some_iff.mp h
  have hs := skip?_of_lead hl hn (by decide)
  simp [he, skip?] at hs

theorem functionLine_of_lead (ha : ¬"@".toList <+: l) (hs : l ≠ "static".toList)
    (hf : l ≠ "func".toList) : functionLine line = {} := by
  simp [functionLine, dropAnnotations_of_lead hl ha, keyword?_of_lead hl hs (by decide),
    declared?_of_lead hl hf (by decide)]

end

def headerWords : List (List Char) :=
  ["class_name", "extends", "signal"].map String.toList

def memberWords : List (List Char) :=
  ["@export", "@onready", "var", "static", "func", "const", "enum"].map String.toList

section

variable {line l : List Char} (hl : lead line = l)
include hl

theorem memberLine_of_header (h : l ∈ headerWords) : memberLine line = {} := by
  have hne : ∀ l ∈ headerWords, ¬"@export".toList <+: l ∧ l ≠ "@onready".toList ∧
      l ≠ "var".toList ∧ ¬"@".toList <+: l ∧ l ≠ "static".toList ∧ l ≠ "func".toList ∧
      l ≠ "const".toList ∧ l ≠ "enum".toList := by decide
  have ⟨he, ho, hv, ha, hs, hf, hc, hn⟩ := hne l h
  simp [memberLine, exportedVariable?_of_lead hl he, deferredVariable?_of_lead hl ho,
    variableLine_of_lead hl hv, functionLine_of_lead hl ha hs hf, constantLine_of_lead hl hc,
    enumLine_of_lead hl hn]

theorem trimmedLine_of_member (h : l ∈ memberWords) : trimmedLine line = memberLine line := by
  have hne : ∀ l ∈ memberWords, l ≠ "class_name".toList ∧ l ≠ "extends".toList ∧
      ¬"@tool".toList <+: l ∧ l ≠ "tool".toList ∧ l ≠ "signal".toList := by decide
  have ⟨hc, he, hp, ht, hs⟩ := hne l h
  simp [trimmedLine, classNameLine_of_lead hl hc, extendsLine_of_lead hl he,
    toolLine_of_lead hl hp ht, signalLine_of_lead hl hs]

theorem functionLine_of_member (h : l = "static".toList ∨ l = "func".toList) :
    memberLine line = functionLine line := by
  have hne : ¬"@export".toList <+: l ∧ l ≠ "@onready".toList ∧ l ≠ "var".toList ∧
      l ≠ "const".toList ∧ l ≠ "enum".toList := by
    cases h
    case inl h => exact h ▸ by decide
    case inr h => exact h ▸ by decide
  have ⟨he, ho, hv, hc, hn⟩ := hne
  simp [memberLine, exportedVariable?_of_lead hl he, deferredVariable?_of_lead hl ho,
    variableLine_of_lead hl hv, constantLine_of_lead hl hc, enumLine_of_lead hl hn]

end

section

variable {line : List Char}

theorem trimmedLine_className (hl : lead line = "class_name".toList) :
    trimmedLine line = classNameLine line := by
  simp [trimmedLine, extendsLine_of_lead hl (by decide),
    toolLine_of_lead hl (by decide) (by decide), signalLine_of_lead hl (by decide),
    memberLine_of_header hl (by decide)]

theorem trimmedLine_extends (hl : lead line = "extends".toList) :
    trimmedLine line = extendsLine line := by
  simp [trimmedLine, classNameLine_of_lead hl (by decide),
    toolLine_of_lead hl (by decide) (by decide), signalLine_of_lead hl (by decide),
    memberLine_of_header hl (by decide)]

theorem trimmedLine_signal (hl : lead line = "signal".toList) :
    trimmedLine line = signalLine line := by
  simp [trimmedLine, classNameLine_of_lead hl (by decide), extendsLine_of_lead hl (by decide),
    toolLine_of_lead hl (by decide) (by decide), memberLine_of_header hl (by decide)]

theorem trimmedLine_function (hl : lead line = "static".toList ∨ lead line = "func".toList) :
    trimmedLine line = functionLine line := by
  have hm : lead line ∈ memberWords := by
    cases hl
    case inl hl => exact hl ▸ by decide
    case inr hl => exact hl ▸ by decide
  rw [trimmedLine_of_member rfl hm, functionLine_of_member rfl hl]

theorem trimmedLine_constant (hl : lead line = "const".toList) :
    trimmedLine line = constantLine line := by
  rw [trimmedLine_of_member hl (by decide)]
  simp [memberLine, exportedVariable?_of_lead hl (by decide),
    deferredVariable?_of_lead hl (by decide), variableLine_of_lead hl (by decide),
    functionLine_of_lead hl (by decide) (by decide) (by decide), enumLine_of_lead hl (by decide)]

theorem trimmedLine_enum (hl : lead line = "enum".toList) :
    trimmedLine line = enumLine line := by
  rw [trimmedLine_of_member hl (by decide)]
  simp [memberLine, exportedVariable?_of_lead hl (by decide),
    deferredVariable?_of_lead hl (by decide), variableLine_of_lead hl (by decide),
    functionLine_of_lead hl (by decide) (by decide) (by decide),
    constantLine_of_lead hl (by decide)]

end

end GodotAtlas.Symbols
