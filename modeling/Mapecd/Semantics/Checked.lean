import Mathlib.Data.Nat.Bitwise
import Mathlib.Tactic

/-! Fixed-width unsigned arithmetic with overflow checks. `none` is the panic
of a checked build: a sum, difference or product outside the width, or a shift
by at least the width. Wrapping and saturating operations never panic. -/
namespace Checked

/-- A computation that either returns or panics. -/
abbrev Result (α : Type) := Option α

variable {w v : Nat}

def add (x y : BitVec w) : Result (BitVec w) :=
  if x.toNat + y.toNat < 2 ^ w then some (x + y) else none

def sub (x y : BitVec w) : Result (BitVec w) :=
  if y.toNat ≤ x.toNat then some (x - y) else none

def mul (x y : BitVec w) : Result (BitVec w) :=
  if x.toNat * y.toNat < 2 ^ w then some (x * y) else none

/-- Only the shift amount is checked. Bits shifted out are lost silently. -/
def shl (x : BitVec w) (amount : BitVec v) : Result (BitVec w) :=
  if amount.toNat < w then some (x <<< amount.toNat) else none

def shr (x : BitVec w) (amount : BitVec v) : Result (BitVec w) :=
  if amount.toNat < w then some (x >>> amount.toNat) else none

def saturatingSub (x y : BitVec w) : BitVec w :=
  if y.toNat ≤ x.toNat then x - y else 0

/-- An assertion of a checked build. -/
def debugAssert (condition : Prop) [Decidable condition] : Result Unit :=
  if condition then some () else none

theorem debugAssert_eq_some {condition : Prop} [Decidable condition] :
    debugAssert condition = some () ↔ condition := by
  simp [debugAssert]

/-- The sum exists as soon as it fits. The other operations follow the same
pattern: a bound on the natural numbers gives the value and its meaning. -/
theorem exists_add {x y : BitVec w} (h : x.toNat + y.toNat < 2 ^ w) :
    ∃ z, add x y = some z ∧ z.toNat = x.toNat + y.toNat :=
  ⟨x + y, if_pos h, by rw [BitVec.toNat_add, Nat.mod_eq_of_lt h]⟩

theorem exists_sub {x y : BitVec w} (h : y.toNat ≤ x.toNat) :
    ∃ z, sub x y = some z ∧ z.toNat = x.toNat - y.toNat :=
  ⟨x - y, if_pos h, BitVec.toNat_sub_of_le (BitVec.le_def.mpr h)⟩

theorem le_of_sub {x y z : BitVec w} (h : sub x y = some z) :
    y.toNat ≤ x.toNat ∧ z.toNat = x.toNat - y.toNat := by
  unfold sub at h
  split_ifs at h with hLe
  cases h
  exact ⟨hLe, BitVec.toNat_sub_of_le (BitVec.le_def.mpr hLe)⟩

theorem exists_mul {x y : BitVec w} (h : x.toNat * y.toNat < 2 ^ w) :
    ∃ z, mul x y = some z ∧ z.toNat = x.toNat * y.toNat :=
  ⟨x * y, if_pos h, by rw [BitVec.toNat_mul, Nat.mod_eq_of_lt h]⟩

/-- A left shift that loses no bit multiplies by a power of two. -/
theorem exists_shl {x : BitVec w} {n : BitVec v} (hn : n.toNat < w)
    (h : x.toNat * 2 ^ n.toNat < 2 ^ w) :
    ∃ z, shl x n = some z ∧ z.toNat = x.toNat * 2 ^ n.toNat :=
  ⟨x <<< n.toNat, if_pos hn, by
    rw [BitVec.toNat_shiftLeft, Nat.shiftLeft_eq, Nat.mod_eq_of_lt h]⟩

theorem lt_of_shl {x z : BitVec w} {n : BitVec v} (h : shl x n = some z) : n.toNat < w := by
  unfold shl at h
  split_ifs at h with hLt
  exact hLt

theorem exists_shr {x : BitVec w} {n : BitVec v} (hn : n.toNat < w) :
    ∃ z, shr x n = some z ∧ z.toNat = x.toNat / 2 ^ n.toNat :=
  ⟨x >>> n.toNat, if_pos hn, by rw [BitVec.toNat_ushiftRight, Nat.shiftRight_eq_div_pow]⟩

theorem toNat_saturatingSub (x y : BitVec w) :
    (saturatingSub x y).toNat = x.toNat - y.toNat := by
  unfold saturatingSub
  split_ifs with h
  · exact BitVec.toNat_sub_of_le (BitVec.le_def.mpr h)
  · simp only [BitVec.ofNat_eq_ofNat, BitVec.toNat_ofNat, Nat.zero_mod]
    omega

/-- Masking with `2 ^ n - 1` keeps the remainder modulo `2 ^ n`. -/
theorem toNat_and_mask (x y : BitVec w) (n : Nat) (h : y.toNat = 2 ^ n - 1) :
    (x &&& y).toNat = x.toNat % 2 ^ n := by
  rw [BitVec.toNat_and, h, Nat.and_two_pow_sub_one_eq_mod]

/-- `2 ^ n - 1` has the low `n` bits. -/
theorem exists_lowMask {n : BitVec v} (hn : n.toNat < w) :
    ∃ one mask, shl (1 : BitVec w) n = some one ∧ sub one 1 = some mask ∧
      ∀ i, mask.getLsbD i = decide (i < n.toNat) := by
  have hOne : (1 : BitVec w).toNat = 1 :=
    Nat.mod_eq_of_lt (Nat.one_lt_two_pow (Nat.ne_of_gt (Nat.zero_lt_of_lt hn)))
  have hPow : (1 : BitVec w).toNat * 2 ^ n.toNat < 2 ^ w := by
    rw [hOne, Nat.one_mul]
    exact Nat.pow_lt_pow_right Nat.one_lt_two hn
  obtain ⟨one, hShl, hNat⟩ := exists_shl hn hPow
  rw [hOne, Nat.one_mul] at hNat
  obtain ⟨mask, hSub, hMask⟩ := exists_sub (x := one) (y := 1) (by
    rw [hOne, hNat]
    exact Nat.one_le_two_pow)
  refine ⟨one, mask, hShl, hSub, fun i => ?_⟩
  rw [BitVec.getLsbD, hMask, hNat, hOne, Nat.testBit_two_pow_sub_one]

theorem getLsbD_shiftLeft_of_lt (x : BitVec w) (n : Nat) {i : Nat} (hi : i < w) :
    (x <<< n).getLsbD i = (decide (n ≤ i) && x.getLsbD (i - n)) := by
  rw [BitVec.getLsbD_shiftLeft, decide_eq_true hi, Bool.true_and]
  by_cases hLe : n ≤ i
  · rw [decide_eq_true hLe, decide_eq_false (Nat.not_lt.mpr hLe), Bool.not_false]
  · rw [decide_eq_false hLe, decide_eq_true (Nat.lt_of_not_le hLe), Bool.not_true]

/-- Combining a multiple of `2 ^ n` with a smaller number is an addition. -/
theorem toNat_or_low (x y : BitVec w) (n q : Nat) (hx : x.toNat = q * 2 ^ n)
    (hy : y.toNat < 2 ^ n) : (x ||| y).toNat = q * 2 ^ n + y.toNat := by
  rw [BitVec.toNat_or, hx, ← Nat.shiftLeft_eq, Nat.shiftLeft_add_eq_or_of_lt hy]

/-- The values from `lo` up to but excluding `hi`, as a counting loop visits them. -/
def range (lo hi : BitVec w) : List (BitVec w) :=
  (List.range' lo.toNat (hi.toNat - lo.toNat)).map (BitVec.ofNat w)

/-- As a list of numbers a range of words never wraps around. -/
theorem range_map_toNat (lo hi : BitVec w) :
    (range lo hi).map BitVec.toNat = List.range' lo.toNat (hi.toNat - lo.toNat) := by
  rw [range, List.map_map]
  conv_rhs => rw [← List.map_id (List.range' lo.toNat (hi.toNat - lo.toNat))]
  refine List.map_congr_left ?_
  intro n hn
  have hLt : n < 2 ^ w := by
    have := (List.mem_range'_1.mp hn).2
    have := hi.isLt
    have := lo.isLt
    omega
  exact Nat.mod_eq_of_lt hLt

theorem mem_range {lo hi x : BitVec w} :
    x ∈ range lo hi ↔ lo.toNat ≤ x.toNat ∧ x.toNat < hi.toNat := by
  have hMap : x ∈ range lo hi ↔ x.toNat ∈ (range lo hi).map BitVec.toNat :=
    (List.mem_map_of_injective fun _ _ => BitVec.eq_of_toNat_eq).symm
  rw [hMap, range_map_toNat, List.mem_range'_1]
  omega

theorem range_pairwise (lo hi : BitVec w) : (range lo hi).Pairwise fun x y => x.toNat < y.toNat := by
  rw [← List.pairwise_map, range_map_toNat]
  exact List.pairwise_lt_range'

/-- A loop whose body never panics returns the list of the bodies' values. -/
theorem mapM_eq_map {α β : Type} {f : α → Result β} {g : α → β} {xs : List α}
    (h : ∀ x ∈ xs, f x = some (g x)) : xs.mapM f = some (xs.map g) := by
  induction xs with
  | nil => rfl
  | cons x xs ih =>
      rw [List.mapM_cons, h x List.mem_cons_self,
        ih fun y hy => h y (List.mem_cons_of_mem x hy)]
      rfl

end Checked
