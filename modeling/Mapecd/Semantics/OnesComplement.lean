import Mathlib.Data.Nat.ModEq
import Mathlib.Tactic

/-! One's-complement arithmetic on words of a fixed width, with the end-around
carry, and checksums whose words have to sum to all ones. -/
namespace OnesComplement

variable {w : Nat}

def add (x y : BitVec w) : BitVec w :=
  BitVec.ofNat w ((x.toNat + y.toNat) % 2 ^ w + (x.toNat + y.toNat) / 2 ^ w)

/-- Without a carry the sum is exact, with one it is short by `2 ^ w - 1`. -/
theorem toNat_add (x y : BitVec w) :
    (x.toNat + y.toNat < 2 ^ w ∧ (add x y).toNat = x.toNat + y.toNat) ∨
      (2 ^ w ≤ x.toNat + y.toNat ∧ (add x y).toNat + (2 ^ w - 1) = x.toNat + y.toNat) := by
  have hx := x.isLt
  have hy := y.isLt
  rw [add, BitVec.toNat_ofNat]
  rcases Nat.lt_or_ge (x.toNat + y.toNat) (2 ^ w) with hLt | hGe
  · left
    rw [Nat.mod_eq_of_lt hLt, Nat.div_eq_of_lt hLt, Nat.add_zero, Nat.mod_eq_of_lt hLt]
    exact ⟨hLt, rfl⟩
  · right
    have hDiv : (x.toNat + y.toNat) / 2 ^ w = 1 :=
      Nat.div_eq_of_lt_le (by omega) (by omega)
    have hMod : (x.toNat + y.toNat) % 2 ^ w = x.toNat + y.toNat - 2 ^ w := by
      rw [Nat.mod_eq_sub_mod hGe, Nat.mod_eq_of_lt (by omega)]
    rw [hDiv, hMod, Nat.mod_eq_of_lt (by omega)]
    omega

theorem add_modEq (x y : BitVec w) :
    (add x y).toNat ≡ x.toNat + y.toNat [MOD 2 ^ w - 1] := by
  rcases toNat_add x y with ⟨-, hExact⟩ | ⟨-, hCarry⟩
  · rw [hExact]
  · rw [← hCarry]
    exact (Nat.add_modEq_right).symm

/-- The carry never produces a zero. -/
theorem add_eq_zero_iff (x y : BitVec w) : add x y = 0 ↔ x = 0 ∧ y = 0 := by
  simp only [← BitVec.toNat_inj, BitVec.ofNat_eq_ofNat, BitVec.toNat_ofNat, Nat.zero_mod]
  have hx := x.isLt
  have hy := y.isLt
  rcases toNat_add x y with ⟨hLt, hExact⟩ | ⟨hGe, hCarry⟩
  · omega
  · omega

/-- All ones is the only multiple of `2 ^ w - 1` other than zero. -/
theorem eq_allOnes_iff (hw : 0 < w) (x : BitVec w) :
    x = BitVec.allOnes w ↔ x.toNat ≡ 0 [MOD 2 ^ w - 1] ∧ x ≠ 0 := by
  have hTwo : 2 ^ 1 ≤ 2 ^ w := Nat.pow_le_pow_right Nat.two_pos hw
  have hLt := x.isLt
  rw [← BitVec.toNat_inj, BitVec.toNat_allOnes, ne_eq, ← BitVec.toNat_inj, BitVec.ofNat_eq_ofNat,
    BitVec.toNat_ofNat, Nat.zero_mod, Nat.modEq_zero_iff_dvd]
  constructor
  · intro hTop
    rw [hTop]
    exact ⟨dvd_rfl, by omega⟩
  · intro ⟨⟨q, hq⟩, hNonzero⟩
    have hPos : 0 < q := by
      by_contra hZero
      rw [Nat.eq_zero_of_not_pos hZero, Nat.mul_zero] at hq
      exact hNonzero hq
    have hLe : 2 ^ w - 1 ≤ x.toNat := by
      rw [hq]
      exact Nat.le_mul_of_pos_right _ hPos
    omega

def sum (words : List (BitVec w)) : BitVec w := words.foldl add 0

def total (words : List (BitVec w)) : Nat := (words.map BitVec.toNat).sum

/-- The end-around carry is addition modulo `2 ^ w - 1`. -/
theorem foldl_modEq (words : List (BitVec w)) (x : BitVec w) :
    (words.foldl add x).toNat ≡ x.toNat + total words [MOD 2 ^ w - 1] := by
  induction words generalizing x with
  | nil => rfl
  | cons word words ih =>
      have hTotal : total (word :: words) = word.toNat + total words := rfl
      rw [List.foldl_cons, hTotal, ← Nat.add_assoc]
      exact (ih (add x word)).trans ((add_modEq x word).add_right _)

theorem foldl_eq_zero_iff (words : List (BitVec w)) (x : BitVec w) :
    words.foldl add x = 0 ↔ x = 0 ∧ ∀ word ∈ words, word = 0 := by
  induction words generalizing x with
  | nil => simp
  | cons word words ih => rw [List.foldl_cons, ih, add_eq_zero_iff, List.forall_mem_cons, and_assoc]

/-- The receiver's test of words that include a checksum. -/
def Verifies (words : List (BitVec w)) : Prop := sum words = BitVec.allOnes w

instance (words : List (BitVec w)) : Decidable (Verifies words) := inferInstanceAs (Decidable (_ = _))

/-- A receiver accepts the words if they sum to zero and are not all zero. -/
theorem verifies_iff (hw : 0 < w) (words : List (BitVec w)) :
    Verifies words ↔ total words ≡ 0 [MOD 2 ^ w - 1] ∧ ∃ word ∈ words, word ≠ 0 := by
  have hSum := foldl_modEq words 0
  have hZero : (0 : BitVec w).toNat = 0 := by simp
  rw [hZero, Nat.zero_add] at hSum
  rw [Verifies, eq_allOnes_iff hw, sum, ne_eq, foldl_eq_zero_iff]
  refine and_congr ⟨fun h => hSum.symm.trans h, fun h => hSum.trans h⟩ ?_
  simp

/-- The checksum after one word has changed, without the other words. -/
def update (checksum old new : BitVec w) : BitVec w :=
  ~~~ add (add (~~~ checksum) (~~~ old)) new

/-- An incremental update moves the checksum by the difference of the two words. -/
theorem update_modEq (checksum old new : BitVec w) :
    (update checksum old new).toNat + new.toNat ≡ checksum.toNat + old.toNat [MOD 2 ^ w - 1] := by
  have hChecksum := checksum.isLt
  have hOld := old.isLt
  have hNot (x : BitVec w) : (~~~ x).toNat + x.toNat = 2 ^ w - 1 := by
    have hx := x.isLt
    rw [BitVec.toNat_not]
    omega
  have hTop := hNot (add (add (~~~ checksum) (~~~ old)) new)
  have hSum := (add_modEq (add (~~~ checksum) (~~~ old)) new).trans
    ((add_modEq (~~~ checksum) (~~~ old)).add_right new.toNat)
  have hZero : 2 ^ w - 1 ≡ 0 [MOD 2 ^ w - 1] := Nat.modEq_zero_iff_dvd.mpr dvd_rfl
  -- both sides are completed to the same multiple of all ones
  have hComplete : (update checksum old new).toNat + new.toNat +
      ((~~~ checksum).toNat + (~~~ old).toNat) ≡ checksum.toNat + old.toNat +
      ((~~~ checksum).toNat + (~~~ old).toNat) [MOD 2 ^ w - 1] := by
    have hLeft : (update checksum old new).toNat + new.toNat +
        ((~~~ checksum).toNat + (~~~ old).toNat) ≡ 2 ^ w - 1 [MOD 2 ^ w - 1] := by
      calc (update checksum old new).toNat + new.toNat + ((~~~ checksum).toNat + (~~~ old).toNat)
          = (update checksum old new).toNat +
              ((~~~ checksum).toNat + (~~~ old).toNat + new.toNat) := by ring
        _ ≡ (update checksum old new).toNat +
              (add (add (~~~ checksum) (~~~ old)) new).toNat [MOD 2 ^ w - 1] := hSum.symm.add_left _
        _ = 2 ^ w - 1 := hTop
    have hRight : checksum.toNat + old.toNat + ((~~~ checksum).toNat + (~~~ old).toNat) =
        (2 ^ w - 1) + (2 ^ w - 1) := by
      have := hNot checksum
      have := hNot old
      omega
    rw [hRight]
    exact hLeft.trans (hZero.trans (hZero.add hZero).symm)
  exact Nat.ModEq.add_right_cancel' _ hComplete

/-- The update is zero exactly if the new word makes up for checksum and old word. -/
theorem update_eq_zero_iff {checksum old new : BitVec w} (hw : 0 < w) (hNew : new ≠ 0) :
    update checksum old new = 0 ↔
      checksum.toNat + old.toNat ≡ new.toNat [MOD 2 ^ w - 1] := by
  have hMod := update_modEq checksum old new
  constructor
  · intro hZero
    rw [hZero, BitVec.ofNat_eq_ofNat, BitVec.toNat_ofNat, Nat.zero_mod, Nat.zero_add] at hMod
    exact hMod.symm
  · intro hSame
    have hUpdate : (update checksum old new).toNat ≡ 0 [MOD 2 ^ w - 1] := by
      have hCancel : (update checksum old new).toNat + new.toNat ≡ 0 + new.toNat
          [MOD 2 ^ w - 1] := by
        rw [Nat.zero_add]
        exact hMod.trans hSame
      exact Nat.ModEq.add_right_cancel' _ hCancel
    by_contra hNonzero
    have hTop := (eq_allOnes_iff hw _).mpr ⟨hUpdate, hNonzero⟩
    have hSum : add (add (~~~ checksum) (~~~ old)) new = 0 := by
      rw [update, ← BitVec.not_zero, BitVec.not_inj] at hTop
      exact hTop
    exact hNew ((add_eq_zero_iff _ _).mp hSum).2

/-- A word that stays changes the checksum only if that is all ones, the other zero. -/
theorem update_self_iff {checksum value : BitVec w} (hw : 0 < w) (hValue : value ≠ 0) :
    update checksum value value = checksum ↔ checksum ≠ BitVec.allOnes w := by
  have hSame : (update checksum value value).toNat ≡ checksum.toNat [MOD 2 ^ w - 1] :=
    Nat.ModEq.add_right_cancel' _ (update_modEq checksum value value)
  have hZero : update checksum value value = 0 ↔ checksum.toNat ≡ 0 [MOD 2 ^ w - 1] := by
    rw [update_eq_zero_iff hw hValue]
    constructor
    · intro h
      apply Nat.ModEq.add_right_cancel' value.toNat
      rwa [Nat.zero_add]
    · intro h
      have hSum := h.add_right value.toNat
      rwa [Nat.zero_add] at hSum
  rw [ne_eq, eq_allOnes_iff hw]
  constructor
  · intro h ⟨hMod, hNonzero⟩
    exact hNonzero (h.symm.trans (hZero.mpr hMod))
  · intro h
    by_cases hMod : checksum.toNat ≡ 0 [MOD 2 ^ w - 1]
    · have hAbsent : checksum = 0 := by
        by_contra hNonzero
        exact h ⟨hMod, hNonzero⟩
      rw [hZero.mpr hMod, hAbsent]
    · -- neither of the two is a multiple of all ones, so both lie below it
      have hBelow (x : BitVec w) (hx : ¬ x.toNat ≡ 0 [MOD 2 ^ w - 1]) : x.toNat < 2 ^ w - 1 := by
        have hLt := x.isLt
        have hNe : x.toNat ≠ 2 ^ w - 1 := by
          intro hTop
          apply hx
          rw [hTop]
          exact Nat.modEq_zero_iff_dvd.mpr dvd_rfl
        omega
      have hUpdate := hBelow _ fun hBoth => hMod (hSame.symm.trans hBoth)
      exact BitVec.eq_of_toNat_eq (hSame.eq_of_lt_of_lt hUpdate (hBelow checksum hMod))

section Replace

variable {words : List (BitVec w)} {old new checksum checksum' : BitVec w} {i j : Nat}

/-- One word replaced changes the sum by the difference. -/
theorem total_set (h : words[i]? = some old) :
    total (words.set i new) + old.toNat = total words + new.toNat := by
  induction words generalizing i with
  | nil => cases h
  | cons word words ih =>
      cases i with
      | zero =>
          cases h
          change new.toNat + total words + old.toNat = old.toNat + total words + new.toNat
          omega
      | succ i =>
          have hRest := ih h
          change word.toNat + total (words.set i new) + old.toNat =
            word.toNat + total words + new.toNat
          omega

/-- A word and the checksum are replaced by others that keep the total. -/
theorem Verifies.set (hw : 0 < w) (h : Verifies words) (hWord : words[i]? = some old)
    (hChecksum : words[j]? = some checksum) (hNe : i ≠ j) (hNew : new ≠ 0)
    (hMod : checksum'.toNat + new.toNat ≡ checksum.toNat + old.toNat [MOD 2 ^ w - 1]) :
    Verifies ((words.set i new).set j checksum') := by
  rw [verifies_iff hw] at h ⊢
  have hStill : (words.set i new)[j]? = some checksum := by
    rw [List.getElem?_set_ne hNe]
    exact hChecksum
  have hFirst : total (words.set i new) + old.toNat = total words + new.toNat := total_set hWord
  have hSecond : total ((words.set i new).set j checksum') + checksum.toNat =
      total (words.set i new) + checksum'.toNat := total_set hStill
  have hTotal : total ((words.set i new).set j checksum') + (checksum.toNat + old.toNat) =
      total words + (checksum'.toNat + new.toNat) := by omega
  constructor
  · have hSame : total ((words.set i new).set j checksum') + (checksum.toNat + old.toNat) ≡
        total words + (checksum.toNat + old.toNat) [MOD 2 ^ w - 1] := by
      rw [hTotal]
      exact hMod.add_left _
    exact (Nat.ModEq.add_right_cancel' _ hSame).trans h.1
  · refine ⟨new, ?_, hNew⟩
    apply List.mem_of_getElem? (i := i)
    rw [List.getElem?_set_ne (Ne.symm hNe),
      List.getElem?_set_self (List.getElem?_eq_some_iff.mp hWord).1]

end Replace

end OnesComplement
