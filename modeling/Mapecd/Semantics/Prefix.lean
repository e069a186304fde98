import Mapecd.Semantics.Checked

/-! Numbers of a fixed width that share their leading bits. Bit zero is the
least significant one, so the first `n` bits of `w` are those from `w - n` on. -/
namespace Prefix

variable {w : Nat}

def mask (w n : Nat) : BitVec w := BitVec.allOnes w <<< (w - n)

/-- The first `n` bits agree. -/
def Agree (n : Nat) (x y : BitVec w) : Prop := ∀ i, w - n ≤ i → x.getLsbD i = y.getLsbD i

/-- All bits behind the first `n` are zero. -/
def Truncated (n : Nat) (x : BitVec w) : Prop := ∀ i, i < w - n → x.getLsbD i = false

variable {n : Nat} {x y z : BitVec w}

/-- The mask has the upper `n` bits. -/
theorem getLsbD_mask (w n i : Nat) :
    (mask w n).getLsbD i = (decide (i < w) && decide (w - n ≤ i)) := by
  rw [mask, BitVec.getLsbD_shiftLeft, BitVec.getLsbD_allOnes]
  by_cases hIn : w - n ≤ i
  · have hIndex : i < w → i - (w - n) < w := by omega
    by_cases hWidth : i < w
    · rw [decide_eq_false (Nat.not_lt.mpr hIn), decide_eq_true hIn, decide_eq_true (hIndex hWidth),
        Bool.not_false, Bool.and_true]
    · simp [hWidth]
  · rw [decide_eq_true (Nat.lt_of_not_le hIn), decide_eq_false hIn]
    simp

theorem getLsbD_and_mask (x : BitVec w) (n i : Nat) :
    (x &&& mask w n).getLsbD i = (x.getLsbD i && decide (w - n ≤ i)) := by
  rw [BitVec.getLsbD_and, getLsbD_mask]
  by_cases hWidth : i < w
  · simp [hWidth]
  · simp [BitVec.getLsbD_of_ge x i (Nat.le_of_not_lt hWidth)]

theorem agree_and_mask (x : BitVec w) (n : Nat) : Agree n (x &&& mask w n) x := by
  intro i hi
  rw [getLsbD_and_mask, decide_eq_true hi, Bool.and_true]

theorem truncated_and_mask (x : BitVec w) (n : Nat) : Truncated n (x &&& mask w n) := by
  intro i hi
  rw [getLsbD_and_mask, decide_eq_false (Nat.not_le.mpr hi), Bool.and_false]

theorem Truncated.and_mask (h : Truncated n x) : x &&& mask w n = x := by
  apply BitVec.eq_of_getLsbD_eq
  intro i _
  rw [getLsbD_and_mask]
  by_cases hIn : w - n ≤ i
  · rw [decide_eq_true hIn, Bool.and_true]
  · rw [h i (Nat.lt_of_not_le hIn), Bool.false_and]

/-- Truncated numbers are determined by their leading bits. -/
theorem Truncated.eq (hx : Truncated n x) (hy : Truncated n y) (h : Agree n x y) : x = y := by
  apply BitVec.eq_of_getLsbD_eq
  intro i _
  by_cases hIn : w - n ≤ i
  · exact h i hIn
  · rw [hx i (Nat.lt_of_not_le hIn), hy i (Nat.lt_of_not_le hIn)]

/-- Agreement on `n` leading bits is equality of what is left of a shift. -/
theorem agree_iff_ushiftRight : Agree n x y ↔ x >>> (w - n) = y >>> (w - n) := by
  constructor
  · intro h
    apply BitVec.eq_of_getLsbD_eq
    intro i _
    rw [BitVec.getLsbD_ushiftRight, BitVec.getLsbD_ushiftRight]
    exact h _ (Nat.le_add_right _ _)
  · intro h i hi
    have hBit := congrArg (fun z => z.getLsbD (i - (w - n))) h
    simp only [BitVec.getLsbD_ushiftRight] at hBit
    rwa [Nat.add_sub_of_le hi] at hBit

theorem agree_iff_div :
    Agree n x y ↔ x.toNat / 2 ^ (w - n) = y.toNat / 2 ^ (w - n) := by
  rw [agree_iff_ushiftRight, ← BitVec.toNat_inj, BitVec.toNat_ushiftRight,
    BitVec.toNat_ushiftRight, Nat.shiftRight_eq_div_pow, Nat.shiftRight_eq_div_pow]

theorem toNat_and_mask (x : BitVec w) (n : Nat) :
    (x &&& mask w n).toNat = x.toNat / 2 ^ (w - n) * 2 ^ (w - n) := by
  rw [mask, ← BitVec.shiftLeft_ushiftRight, BitVec.toNat_shiftLeft, BitVec.toNat_ushiftRight,
    Nat.shiftRight_eq_div_pow, Nat.shiftLeft_eq]
  exact Nat.mod_eq_of_lt ((Nat.div_mul_le_self _ _).trans_lt x.isLt)

/-- The complement of a mask has all the bits below it. -/
theorem toNat_not_mask (w n : Nat) : (~~~ mask w n).toNat = 2 ^ (w - n) - 1 := by
  have hOnes : ~~~ mask w n = BitVec.ofNat w (2 ^ (w - n) - 1) := by
    apply BitVec.eq_of_getLsbD_eq
    intro i hi
    rw [BitVec.getLsbD_not, getLsbD_mask, BitVec.getLsbD_ofNat, Nat.testBit_two_pow_sub_one]
    by_cases hIn : w - n ≤ i
    · rw [decide_eq_true hIn, decide_eq_false (Nat.not_lt.mpr hIn)]
      simp
    · rw [decide_eq_false hIn, decide_eq_true (Nat.lt_of_not_le hIn)]
      simp [hi]
  have hLe : 2 ^ (w - n) ≤ 2 ^ w := Nat.pow_le_pow_right Nat.two_pos (Nat.sub_le _ _)
  have hPos := Nat.two_pow_pos (w - n)
  rw [hOnes, BitVec.toNat_ofNat, Nat.mod_eq_of_lt (by omega)]

/-- The numbers from the first to the last one with the leading bits of `x`. -/
theorem between_iff_agree : x &&& mask w n ≤ y ∧ y ≤ x ||| ~~~ mask w n ↔ Agree n y x := by
  have hLast : (x ||| ~~~ mask w n).toNat =
      x.toNat / 2 ^ (w - n) * 2 ^ (w - n) + (2 ^ (w - n) - 1) := by
    have hSame : x ||| ~~~ mask w n = (x &&& mask w n) ||| ~~~ mask w n := by
      apply BitVec.eq_of_getLsbD_eq
      intro i hi
      rw [BitVec.getLsbD_or, BitVec.getLsbD_or, BitVec.getLsbD_and, BitVec.getLsbD_not]
      cases (mask w n).getLsbD i with
      | false => simp [hi]
      | true => simp
    rw [hSame, Checked.toNat_or_low _ _ (w - n) _ (toNat_and_mask x n), toNat_not_mask]
    rw [toNat_not_mask]
    exact Nat.sub_lt (Nat.two_pow_pos _) Nat.one_pos
  have hPos := Nat.two_pow_pos (w - n)
  rw [BitVec.le_def, BitVec.le_def, hLast, toNat_and_mask, agree_iff_div]
  constructor
  · intro ⟨hLow, hHigh⟩
    exact Nat.div_eq_of_lt_le hLow (by rw [Nat.succ_mul]; omega)
  · intro h
    rw [← h]
    have hLow := Nat.div_mul_le_self y.toNat (2 ^ (w - n))
    have hRest := Nat.mod_lt y.toNat hPos
    have hSplit := Nat.div_add_mod' y.toNat (2 ^ (w - n))
    omega

/-- Every pattern of bits is a number. -/
theorem exists_bits (w : Nat) (bits : Nat → Bool) :
    ∃ x : BitVec w, ∀ i, i < w → x.getLsbD i = bits i := by
  induction w with
  | zero => exact ⟨0, fun i hi => absurd hi (Nat.not_lt_zero i)⟩
  | succ w ih =>
      obtain ⟨x, hBits⟩ := ih
      refine ⟨BitVec.cons (bits w) x, fun i hi => ?_⟩
      rw [BitVec.getLsbD_cons]
      by_cases hTop : i = w
      · rw [if_pos hTop, hTop]
      · rw [if_neg hTop]
        exact hBits i (by omega)

end Prefix
