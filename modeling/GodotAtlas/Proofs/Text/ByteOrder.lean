import Mathlib
import GodotAtlas.Text.Utf8

namespace GodotAtlas.Text

-- `xs` is less than `ys` at a byte they both have, whatever follows either of them.
def FirstLess (xs ys : List UInt8) : Prop :=
  ∀ us vs, xs ++ us < ys ++ vs

namespace FirstLess

variable {a b : UInt8} {xs ys : List UInt8}

theorem head (h : a < b) : FirstLess (a :: xs) (b :: ys) := by
  intro us vs
  exact List.cons_lt_cons_iff.mpr (.inl h)

theorem tail (h : FirstLess xs ys) : FirstLess (a :: xs) (a :: ys) := by
  intro us vs
  exact List.cons_lt_cons_iff.mpr (.inr ⟨rfl, h us vs⟩)

-- Of two bytes either the first is less, or they are the same and what follows decides.
theorem cons (h : a < b ∨ a = b ∧ FirstLess xs ys) : FirstLess (a :: xs) (b :: ys) := by
  cases h
  case inl h => exact head h
  case inr h => exact h.left ▸ tail h.right

end FirstLess

theorem ofNat_lt_ofNat {m n : Nat} (h : m < n) (hn : n < 256) : UInt8.ofNat m < UInt8.ofNat n := by
  simp only [UInt8.lt_iff_toNat_lt, UInt8.toNat_ofNat']
  omega

theorem firstLess_ofNat {m n : Nat} {xs ys : List UInt8} (hn : n < 256)
    (h : m < n ∨ m = n ∧ FirstLess xs ys) :
    FirstLess (UInt8.ofNat m :: xs) (UInt8.ofNat n :: ys) := by
  apply FirstLess.cons
  cases h
  case inl h => exact .inl (ofNat_lt_ofNat h hn)
  case inr h => exact .inr ⟨h.left ▸ rfl, h.right⟩

theorem firstLess_digit {m n : Nat} {xs ys : List UInt8} (hn : n < 256) (hle : m ≤ n)
    (h : m = n → FirstLess xs ys) : FirstLess (UInt8.ofNat m :: xs) (UInt8.ofNat n :: ys) := by
  apply firstLess_ofNat hn
  by_cases he : m = n
  case pos => exact .inr ⟨he, h he⟩
  case neg => exact .inl (by omega)

-- The lead bytes grow with the length of the encoding, so only encodings of the same length have
-- to be compared digit by digit.
theorem firstLess_utf8EncodeChar {c d : Char} (h : c < d) :
    FirstLess (String.utf8EncodeChar c) (String.utf8EncodeChar d) := by
  have hcd : c.val.toNat < d.val.toNat := h
  have hd : d.val.toNat < 1114112 := by
    cases d.valid
    case inl h => exact Nat.lt_trans h (by decide)
    case inr h => exact h.right
  unfold String.utf8EncodeChar
  generalize c.val.toNat = m at hcd
  generalize d.val.toNat = n at hcd hd
  simp only
  split
  case isTrue =>
    split
    case isTrue => exact firstLess_ofNat (by omega) (.inl (by omega))
    case isFalse =>
      split
      case isTrue => exact firstLess_ofNat (by omega) (.inl (by omega))
      case isFalse => split <;> exact firstLess_ofNat (by omega) (.inl (by omega))
  case isFalse =>
    rw [if_neg (show ¬n ≤ 0x7f by omega)]
    split
    case isTrue =>
      split
      case isTrue =>
        refine firstLess_digit (by omega) (by omega) fun _ => ?_
        exact firstLess_ofNat (by omega) (.inl (by omega))
      case isFalse => split <;> exact firstLess_ofNat (by omega) (.inl (by omega))
    case isFalse =>
      rw [if_neg (show ¬n ≤ 0x7ff by omega)]
      split
      case isTrue =>
        split
        case isTrue =>
          refine firstLess_digit (by omega) (by omega) fun _ => ?_
          refine firstLess_digit (by omega) (by omega) fun _ => ?_
          exact firstLess_ofNat (by omega) (.inl (by omega))
        case isFalse => exact firstLess_ofNat (by omega) (.inl (by omega))
      case isFalse =>
        rw [if_neg (show ¬n ≤ 0xffff by omega)]
        refine firstLess_digit (by omega) (by omega) fun _ => ?_
        refine firstLess_digit (by omega) (by omega) fun _ => ?_
        refine firstLess_digit (by omega) (by omega) fun _ => ?_
        exact firstLess_ofNat (by omega) (.inl (by omega))

theorem encodeUtf8_lt {cs ds : List Char} (h : cs < ds) : encodeUtf8 cs < encodeUtf8 ds := by
  induction cs generalizing ds <;> cases ds
  case nil.nil => exact absurd h (List.lt_irrefl _)
  case cons.nil => exact absurd h (List.not_lt_nil _)
  case nil.cons d ds =>
    have hne : String.utf8EncodeChar d ≠ [] := by simp
    have ⟨b, bs, he⟩ := List.exists_cons_of_ne_nil hne
    simp [encodeUtf8, he]
  case cons.cons c cs hi d ds =>
    simp only [encodeUtf8, List.flatMap_cons]
    cases List.cons_lt_cons_iff.mp h
    case inl h => exact firstLess_utf8EncodeChar h _ _
    case inr h =>
      have ⟨he, ht⟩ := h
      exact he ▸ List.append_left_lt (hi ht)

def bytesOf (s : String) : List UInt8 :=
  encodeUtf8 s.toList

theorem bytesOf_lt {s t : String} (h : s < t) : bytesOf s < bytesOf t :=
  encodeUtf8_lt (String.lt_iff.mp h)

theorem compare_eq_lt_iff {s t : String} : compare s t = .lt ↔ bytesOf s < bytesOf t := by
  constructor <;> intro h
  case mp => exact bytesOf_lt (compareOfLessAndEq_eq_lt.mp h)
  case mpr =>
    cases hc : compare s t
    case lt => rfl
    case eq =>
      have he := Std.LawfulEqOrd.eq_of_compare hc
      exact absurd (he ▸ h) (List.lt_irrefl _)
    case gt =>
      have hlt := Std.OrientedCmp.lt_of_gt hc
      exact absurd h (List.lt_asymm (bytesOf_lt (compareOfLessAndEq_eq_lt.mp hlt)))

theorem isLE_compare_iff {s t : String} :
    (compare s t).isLE ↔ s = t ∨ bytesOf s < bytesOf t := by
  cases hc : compare s t
  case lt => simp [compare_eq_lt_iff.mp hc]
  case eq => simp [Std.LawfulEqOrd.eq_of_compare hc]
  case gt =>
    have hlt := Std.OrientedCmp.lt_of_gt hc
    have hne : s ≠ t := by rintro rfl; simp at hc
    simpa [hne] using List.lt_asymm (compare_eq_lt_iff.mp hlt)

theorem isLE_compare_total {s t : String} : (compare s t).isLE || (compare t s).isLE := by
  cases hc : compare s t
  case lt | eq => rfl
  case gt => simp [Std.OrientedCmp.lt_of_gt hc]

def Ascending (ss : List String) : Prop :=
  ss.Pairwise fun s t => bytesOf s < bytesOf t

namespace Ascending

variable {ss ts : List String}

theorem sublist (h : Ascending ts) (hs : ss.Sublist ts) : Ascending ss :=
  List.Pairwise.sublist hs h

theorem pairwise_ne (h : Ascending ss) : ss.Pairwise (· ≠ ·) := by
  apply List.Pairwise.imp _ h
  rintro s _ hlt rfl
  exact List.lt_irrefl _ hlt

end Ascending

end GodotAtlas.Text
