import Mathlib
import GodotAtlas.Text.Utf8

namespace GodotAtlas.Text

@[simp]
theorem continues_nil {lo hi : UInt8} : continues lo hi [] = false :=
  rfl

@[simp]
theorem continues_cons {lo hi b : UInt8} {bs : List UInt8} :
    continues lo hi (b :: bs) = (lo ≤ b && b ≤ hi) :=
  rfl

-- Bytes that do not go on with a sequence, whatever stands in front of them.
def Breaks (bs : List UInt8) : Prop :=
  ∀ lo hi, 0x80 ≤ lo → continues lo hi bs = false

theorem breaks_cons {b : UInt8} {bs : List UInt8} (h : b < 0x80) : Breaks (b :: bs) := by
  intro lo hi hl
  have hb : ¬lo ≤ b := by
    simp only [UInt8.le_iff_toNat_le, UInt8.lt_iff_toNat_lt] at hl h ⊢
    omega
  simp [hb]

theorem le_secondBounds (b : UInt8) : 0x80 ≤ (secondBounds b).1 := by
  rw [secondBounds]
  split_ifs <;> decide

section

variable {b : UInt8} {xs ys : List UInt8}

theorem lt_length_of_continues {lo hi : UInt8} {i : Nat} (h : continues lo hi (xs.drop i)) :
    i < xs.length := by
  by_contra hn
  rw [List.drop_eq_nil_of_le (Nat.le_of_not_lt hn)] at h
  cases h

theorem readSequence_le : (readSequence b xs).2 ≤ xs.length := by
  have h₀ {lo hi : UInt8} (h : continues lo hi xs) : 0 < xs.length :=
    lt_length_of_continues (by rwa [List.drop_zero])
  have h₁ {lo hi : UInt8} (h : continues lo hi (xs.drop 1)) : 1 < xs.length :=
    lt_length_of_continues h
  have h₂ {lo hi : UInt8} (h : continues lo hi (xs.drop 2)) : 2 < xs.length :=
    lt_length_of_continues h
  simp only [readSequence]
  split_ifs <;> grind

theorem readSequence_append (h : Breaks ys) : readSequence b (xs ++ ys) = readSequence b xs := by
  have hc : continues 0x80 0xbf ys = false := h _ _ (UInt8.le_refl _)
  have hs : continues (secondBounds b).1 (secondBounds b).2 ys = false := h _ _ (le_secondBounds b)
  match xs with
  | [] => simp [readSequence, hc, hs]
  | [_] => simp [readSequence, hc, lowBits]
  | [_, _] => simp [readSequence, hc, lowBits]
  | _ :: _ :: _ :: _ => simp [readSequence, lowBits]

theorem decodeFrom_append (h : Breaks ys) {n : Nat} (hn : n ≤ xs.length) :
    decodeFrom n (xs ++ ys) = decodeFrom n xs ++ decodeFrom 0 ys := by
  induction xs generalizing n
  case nil =>
    cases Nat.le_zero.mp hn
    simp [decodeFrom]
  case cons x xs hi =>
    cases n
    case zero => simp [decodeFrom, readSequence_append h, hi readSequence_le]
    case succ n => simpa [decodeFrom] using hi (Nat.le_of_succ_le_succ hn)

theorem decodeLossy_append (h : Breaks ys) :
    decodeLossy (xs ++ ys) = decodeLossy xs ++ decodeLossy ys := by
  simp [decodeLossy, decodeFrom_append h (Nat.zero_le _)]

end

theorem decodeLossy_newline (line rest : List UInt8) :
    decodeLossy (line ++ 0x0a :: rest) = decodeLossy line ++ '\n' :: decodeLossy rest :=
  decodeLossy_append (breaks_cons (by decide))

section

variable {m k l j : Nat} {lo hi b : UInt8} {bs rest : List UInt8}

theorem toNat_ofNat_of_lt (h : m < 256) : (UInt8.ofNat m).toNat = m := by
  rw [UInt8.toNat_ofNat']
  omega

theorem ofNat_lt_iff (h : m < 256) : UInt8.ofNat m < b ↔ m < b.toNat := by
  rw [UInt8.lt_iff_toNat_lt, toNat_ofNat_of_lt h]

theorem lt_ofNat_iff (h : m < 256) : b < UInt8.ofNat m ↔ b.toNat < m := by
  rw [UInt8.lt_iff_toNat_lt, toNat_ofNat_of_lt h]

theorem continues_ofNat (hm : m < 256) (hl : lo.toNat ≤ m) (hh : m ≤ hi.toNat) :
    continues lo hi (UInt8.ofNat m :: bs) = true := by
  simp [UInt8.le_iff_toNat_le, toNat_ofNat_of_lt hm, hl, hh]

theorem continues_secondBounds (hm : m < 256) (hk : 0x80 ≤ k ∧ k ≤ 0xbf)
    (h₁ : m = 0xe0 → 0xa0 ≤ k) (h₂ : m = 0xed → k ≤ 0x9f) (h₃ : m = 0xf0 → 0x90 ≤ k)
    (h₄ : m = 0xf4 → k ≤ 0x8f) :
    continues (secondBounds (UInt8.ofNat m)).1 (secondBounds (UInt8.ofNat m)).2
      (UInt8.ofNat k :: bs) = true := by
  have he (b : UInt8) : (UInt8.ofNat m == b) = true ↔ m = b.toNat := by
    rw [beq_iff_eq, ← UInt8.toNat_inj, toNat_ofNat_of_lt hm]
  simp only [secondBounds, he]
  split_ifs <;> apply continues_ofNat (by omega) <;> simp_all

theorem lowBits_eq {i : Nat} (hb : bs.getD i 0 = UInt8.ofNat k) (hk : 0x80 ≤ k ∧ k ≤ 0xbf) :
    lowBits bs i = k - 0x80 := by
  rw [lowBits, hb, toNat_ofNat_of_lt (by omega)]
  omega

theorem readSequence_one (hm : m < 0x80) :
    readSequence (UInt8.ofNat m) rest = (some (Char.ofNat m), 0) := by
  have hlt : UInt8.ofNat m < 0x80 := (ofNat_lt_iff (by omega)).mpr hm
  rw [readSequence, if_pos hlt, toNat_ofNat_of_lt (by omega)]

theorem readSequence_two (hm : 0xc2 ≤ m ∧ m < 0xe0) (hk : 0x80 ≤ k ∧ k ≤ 0xbf) :
    readSequence (UInt8.ofNat m) (UInt8.ofNat k :: rest) =
      (some (Char.ofNat ((m - 0xc0) * 64 + (k - 0x80))), 1) := by
  have hb : m < 256 := by omega
  have h₁ : ¬UInt8.ofNat m < 0x80 := by simp [ofNat_lt_iff hb]; omega
  have h₂ : ¬UInt8.ofNat m < 0xc2 := by simp [ofNat_lt_iff hb]; omega
  have h₃ : ¬0xf4 < UInt8.ofNat m := by simp [lt_ofNat_iff hb]; omega
  have h₄ : UInt8.ofNat m < 0xe0 := by simp [ofNat_lt_iff hb]; omega
  have hc : continues 0x80 0xbf (UInt8.ofNat k :: rest) = true :=
    continues_ofNat (by omega) hk.left hk.right
  have hlow : lowBits (UInt8.ofNat k :: rest) 0 = k - 0x80 := lowBits_eq rfl hk
  have hmod : m % 32 = m - 0xc0 := by omega
  simp [readSequence, h₁, h₂, h₃, h₄, hc, hlow, toNat_ofNat_of_lt hb, hmod]

theorem readSequence_three (hm : 0xe0 ≤ m ∧ m < 0xf0) (hk : 0x80 ≤ k ∧ k ≤ 0xbf)
    (hl : 0x80 ≤ l ∧ l ≤ 0xbf) (h₁ : m = 0xe0 → 0xa0 ≤ k) (h₂ : m = 0xed → k ≤ 0x9f) :
    readSequence (UInt8.ofNat m) (UInt8.ofNat k :: UInt8.ofNat l :: rest) =
      (some (Char.ofNat (((m - 0xe0) * 64 + (k - 0x80)) * 64 + (l - 0x80))), 2) := by
  have hb : m < 256 := by omega
  have h₃ : ¬UInt8.ofNat m < 0x80 := by simp [ofNat_lt_iff hb]; omega
  have h₄ : ¬UInt8.ofNat m < 0xc2 := by simp [ofNat_lt_iff hb]; omega
  have h₅ : ¬0xf4 < UInt8.ofNat m := by simp [lt_ofNat_iff hb]; omega
  have h₆ : ¬UInt8.ofNat m < 0xe0 := by simp [ofNat_lt_iff hb]; omega
  have h₇ : UInt8.ofNat m < 0xf0 := by simp [ofNat_lt_iff hb]; omega
  have hs : continues (secondBounds (UInt8.ofNat m)).1 (secondBounds (UInt8.ofNat m)).2
      (UInt8.ofNat k :: UInt8.ofNat l :: rest) = true :=
    continues_secondBounds hb hk h₁ h₂ (by omega) (by omega)
  have hc : continues 0x80 0xbf (UInt8.ofNat l :: rest) = true :=
    continues_ofNat (by omega) hl.left hl.right
  have hlow₀ : lowBits (UInt8.ofNat k :: UInt8.ofNat l :: rest) 0 = k - 0x80 := lowBits_eq rfl hk
  have hlow₁ : lowBits (UInt8.ofNat k :: UInt8.ofNat l :: rest) 1 = l - 0x80 := lowBits_eq rfl hl
  have hmod : m % 16 = m - 0xe0 := by omega
  simp [readSequence, h₃, h₄, h₅, h₆, h₇, hs, hc, hlow₀, hlow₁, toNat_ofNat_of_lt hb, hmod,
    -continues_cons]

theorem readSequence_four (hm : 0xf0 ≤ m ∧ m ≤ 0xf4) (hk : 0x80 ≤ k ∧ k ≤ 0xbf)
    (hl : 0x80 ≤ l ∧ l ≤ 0xbf) (hj : 0x80 ≤ j ∧ j ≤ 0xbf) (h₁ : m = 0xf0 → 0x90 ≤ k)
    (h₂ : m = 0xf4 → k ≤ 0x8f) :
    readSequence (UInt8.ofNat m) (UInt8.ofNat k :: UInt8.ofNat l :: UInt8.ofNat j :: rest) =
      (some (Char.ofNat ((((m - 0xf0) * 64 + (k - 0x80)) * 64 + (l - 0x80)) * 64 + (j - 0x80))),
        3) := by
  have hb : m < 256 := by omega
  have h₃ : ¬UInt8.ofNat m < 0x80 := by simp [ofNat_lt_iff hb]; omega
  have h₄ : ¬UInt8.ofNat m < 0xc2 := by simp [ofNat_lt_iff hb]; omega
  have h₅ : ¬0xf4 < UInt8.ofNat m := by simp [lt_ofNat_iff hb]; omega
  have h₆ : ¬UInt8.ofNat m < 0xe0 := by simp [ofNat_lt_iff hb]; omega
  have h₇ : ¬UInt8.ofNat m < 0xf0 := by simp [ofNat_lt_iff hb]; omega
  let bs := UInt8.ofNat k :: UInt8.ofNat l :: UInt8.ofNat j :: rest
  have hs : continues (secondBounds (UInt8.ofNat m)).1 (secondBounds (UInt8.ofNat m)).2 bs = true :=
    continues_secondBounds hb hk (by omega) (by omega) h₁ h₂
  have hc₁ : continues 0x80 0xbf (bs.drop 1) = true :=
    continues_ofNat (by omega) hl.left hl.right
  have hc₂ : continues 0x80 0xbf (bs.drop 2) = true :=
    continues_ofNat (by omega) hj.left hj.right
  have hlow₀ : lowBits bs 0 = k - 0x80 := lowBits_eq rfl hk
  have hlow₁ : lowBits bs 1 = l - 0x80 := lowBits_eq rfl hl
  have hlow₂ : lowBits bs 2 = j - 0x80 := lowBits_eq rfl hj
  have hmod : m % 8 = m - 0xf0 := by omega
  change readSequence (UInt8.ofNat m) bs = _
  simp [readSequence, h₃, h₄, h₅, h₆, h₇, hs, hc₁, hc₂, hlow₀, hlow₁, hlow₂, toNat_ofNat_of_lt hb,
    hmod, -continues_cons, -List.drop_one]

end

theorem decodeFrom_utf8EncodeChar (c : Char) (rest : List UInt8) :
    decodeFrom 0 (String.utf8EncodeChar c ++ rest) = some c :: decodeFrom 0 rest := by
  have hc : Char.ofNat c.val.toNat = c := Char.ofNat_toNat c
  have hv : c.val.toNat < 0xd800 ∨ 0xdfff < c.val.toNat ∧ c.val.toNat < 0x110000 := c.valid
  unfold String.utf8EncodeChar
  generalize c.val.toNat = n at hc hv
  simp only
  split
  case isTrue => simp [decodeFrom, readSequence_one (show n < 0x80 by omega), hc]
  case isFalse =>
    split
    case isTrue =>
      rw [List.cons_append, List.cons_append, decodeFrom, readSequence_two (by omega) (by omega)]
      have hn : (n / 64 % 32 + 192 - 192) * 64 + (n % 64 + 128 - 128) = n := by omega
      rw [hn, hc]
      rfl
    case isFalse =>
      split
      case isTrue =>
        rw [List.cons_append, List.cons_append, List.cons_append, decodeFrom,
          readSequence_three (by omega) (by omega) (by omega) (by omega) (by omega)]
        have hn : ((n / 4096 % 16 + 224 - 224) * 64 + (n / 64 % 64 + 128 - 128)) * 64 +
            (n % 64 + 128 - 128) = n := by omega
        rw [hn, hc]
        rfl
      case isFalse =>
        rw [List.cons_append, List.cons_append, List.cons_append, List.cons_append, decodeFrom,
          readSequence_four (by omega) (by omega) (by omega) (by omega) (by omega) (by omega)]
        have hn : (((n / 262144 % 8 + 240 - 240) * 64 + (n / 4096 % 64 + 128 - 128)) * 64 +
            (n / 64 % 64 + 128 - 128)) * 64 + (n % 64 + 128 - 128) = n := by omega
        rw [hn, hc]
        rfl

theorem decodeLossy_encodeUtf8 (cs : List Char) : decodeLossy (encodeUtf8 cs) = cs := by
  have h : decodeFrom 0 (encodeUtf8 cs) = cs.map some := by
    induction cs
    case nil => rfl
    case cons c cs hi =>
      rw [encodeUtf8, List.flatMap_cons, decodeFrom_utf8EncodeChar, List.map_cons]
      exact congrArg _ hi
  rw [decodeLossy, h, List.map_map]
  exact List.map_id cs

end GodotAtlas.Text
