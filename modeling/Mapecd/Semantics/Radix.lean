import Mathlib.Data.Nat.Count
import Mathlib.Data.Set.Function
import Mathlib.Order.Interval.Set.Defs
import Mathlib.Tactic

/-! Three-digit numbers in a mixed radix: a high digit, a middle digit below
`K` and a low digit below `M`. The numbers with a fixed middle digit form
equally spaced blocks, and closing the gaps between the blocks is a bijection
onto an interval. -/
namespace Radix

variable {K M N q : Nat}

def join (K M high mid low : Nat) : Nat := (high * K + mid) * M + low

def high (K M p : Nat) : Nat := p / M / K

def mid (K M p : Nat) : Nat := p / M % K

def low (M p : Nat) : Nat := p % M

theorem join_split (K M p : Nat) : join K M (high K M p) (mid K M p) (low M p) = p := by
  unfold join high mid low
  rw [Nat.div_add_mod' (p / M) K, Nat.div_add_mod' p M]

theorem join_div {r j : Nat} (hLow : j < M) : join K M r q j / M = r * K + q := by
  rw [join, Nat.add_comm, Nat.add_mul_div_right j _ (Nat.zero_lt_of_lt hLow),
    Nat.div_eq_of_lt hLow, Nat.zero_add]

@[simp] theorem high_join {r j : Nat} (hMid : q < K) (hLow : j < M) :
    high K M (join K M r q j) = r := by
  rw [high, join_div hLow, Nat.add_comm, Nat.add_mul_div_right q r (Nat.zero_lt_of_lt hMid),
    Nat.div_eq_of_lt hMid, Nat.zero_add]

@[simp] theorem mid_join {r j : Nat} (hMid : q < K) (hLow : j < M) :
    mid K M (join K M r q j) = q := by
  rw [mid, join_div hLow, Nat.mul_add_mod', Nat.mod_eq_of_lt hMid]

@[simp] theorem low_join {r j : Nat} (hLow : j < M) : low M (join K M r q j) = j := by
  rw [low, join, Nat.mul_add_mod', Nat.mod_eq_of_lt hLow]

theorem low_lt (hM : 0 < M) (p : Nat) : low M p < M := Nat.mod_lt p hM

/-- The high digit is the quotient by a whole block row. -/
theorem high_eq_div (K M p : Nat) : high K M p = p / (K * M) := by
  rw [high, Nat.div_div_eq_div_mul, Nat.mul_comm]

/-- A bound on the high digit bounds the whole number. -/
theorem join_lt {r j bound : Nat} (hHigh : r < bound) (hMid : q < K) (hLow : j < M) :
    join K M r q j < bound * (K * M) := by
  have hRow : r * K + q + 1 ≤ bound * K := by
    calc r * K + q + 1 ≤ r * K + K := by omega
      _ = (r + 1) * K := by ring
      _ ≤ bound * K := Nat.mul_le_mul_right K hHigh
  calc join K M r q j < (r * K + q) * M + M := by unfold join; omega
    _ = (r * K + q + 1) * M := by ring
    _ ≤ bound * K * M := Nat.mul_le_mul_right M hRow
    _ = bound * (K * M) := Nat.mul_assoc bound K M

/-- Of two numbers the one with the greater high digit is greater. -/
theorem join_lt_join_high {r r' q' j : Nat} (h : r < r') (hMid : q < K) (hLow : j < M) :
    join K M r q j < join K M r' q' j := by
  have hRow : (r + 1) * (K * M) ≤ r' * (K * M) := Nat.mul_le_mul_right (K * M) h
  calc join K M r q j < (r + 1) * (K * M) := join_lt (Nat.lt_succ_self r) hMid hLow
    _ ≤ r' * (K * M) := hRow
    _ ≤ r' * (K * M) + (q' * M + j) := Nat.le_add_right _ _
    _ = join K M r' q' j := by unfold join; ring

theorem join_lt_join_mid {q' j : Nat} (r : Nat) (h : q < q') (hLow : j < M) :
    join K M r q j < join K M r q' j := by
  have hBlock : (r * K + q) * M < (r * K + q') * M :=
    Nat.mul_lt_mul_of_pos_right (Nat.add_lt_add_left h _) (Nat.zero_lt_of_lt hLow)
  exact Nat.add_lt_add_right hBlock j

/-- The numbers whose middle digit is `q` and whose high digit runs from one
to `N`. Row zero is left out. -/
def blocks (K M N q : Nat) : Set Nat :=
  {p | 1 ≤ high K M p ∧ high K M p ≤ N ∧ mid K M p = q}

/-- The interval of `N * M` numbers that starts at row one. -/
def compact (K M N : Nat) : Set Nat := Set.Ico (K * M) (K * M + N * M)

theorem mem_blocks_iff (hq : q < K) (hM : 0 < M) (p : Nat) :
    p ∈ blocks K M N q ↔ ∃ r j, 1 ≤ r ∧ r ≤ N ∧ j < M ∧ p = join K M r q j := by
  constructor
  · rintro ⟨hOne, hLast, hMid⟩
    exact ⟨high K M p, low M p, hOne, hLast, low_lt hM p, by rw [← hMid, join_split]⟩
  · rintro ⟨r, j, hOne, hLast, hLow, rfl⟩
    exact ⟨by rwa [high_join hq hLow], by rwa [high_join hq hLow], mid_join hq hLow⟩

/-- Move a number of the interval into its block. -/
def spread (K M q s : Nat) : Nat := join K M ((s - K * M) / M + 1) q ((s - K * M) % M)

/-- Move a number of a block back into the interval. -/
def gather (K M p : Nat) : Nat := K * M + ((high K M p - 1) * M + low M p)

/-- The image of the first number of a row. -/
theorem spread_row (hM : 0 < M) (t : Nat) :
    spread K M q (K * M + t * M) = ((t + 1) * K + q) * M := by
  rw [spread, Nat.add_sub_cancel_left, Nat.mul_div_cancel t hM, Nat.mul_mod_left, join,
    Nat.add_zero]

theorem le_spread (K M q s : Nat) : K * M ≤ spread K M q s := by
  have hRow : 1 * K ≤ ((s - K * M) / M + 1) * K := Nat.mul_le_mul_right K (Nat.succ_pos _)
  have hBlock : (1 * K) * M ≤ (((s - K * M) / M + 1) * K + q) * M :=
    Nat.mul_le_mul_right M (Nat.le_add_right_of_le hRow)
  rw [Nat.one_mul] at hBlock
  exact Nat.le_add_right_of_le hBlock

/-- Spreading leads from the compact range into the blocks. -/
theorem spread_mem (hq : q < K) (hM : 0 < M) {s : Nat} (hs : s ∈ compact K M N) :
    spread K M q s ∈ blocks K M N q := by
  obtain ⟨hLower, hUpper⟩ := hs
  have hRow : (s - K * M) / M < N := by
    rw [Nat.div_lt_iff_lt_mul hM]
    omega
  exact (mem_blocks_iff hq hM _).mpr
    ⟨(s - K * M) / M + 1, (s - K * M) % M, Nat.succ_pos _, hRow, Nat.mod_lt _ hM, rfl⟩

/-- Gathering leads back into the compact range. -/
theorem gather_mem (hM : 0 < M) {p : Nat} (hp : p ∈ blocks K M N q) :
    gather K M p ∈ compact K M N := by
  obtain ⟨hOne, hLast, -⟩ := hp
  have hLow := low_lt hM p
  have hRow : (high K M p - 1) * M + M ≤ N * M := by
    rw [← Nat.succ_mul]
    exact Nat.mul_le_mul_right M (by omega)
  exact ⟨Nat.le_add_right _ _, by unfold gather; omega⟩

theorem gather_spread (hq : q < K) (hM : 0 < M) {s : Nat} (hs : s ∈ compact K M N) :
    gather K M (spread K M q s) = s := by
  have hLow := Nat.mod_lt (s - K * M) hM
  unfold gather spread
  rw [high_join hq hLow, low_join hLow, Nat.add_sub_cancel, Nat.div_add_mod' (s - K * M) M]
  exact Nat.add_sub_cancel' hs.1

/-- Within the blocks the digits are put back where they were. -/
theorem spread_gather (hM : 0 < M) {p : Nat} (hp : p ∈ blocks K M N q) :
    spread K M q (gather K M p) = p := by
  obtain ⟨hOne, -, hMid⟩ := hp
  have hLow := low_lt hM p
  have hIndex : gather K M p - K * M = (high K M p - 1) * M + low M p :=
    Nat.add_sub_cancel_left (K * M) _
  have hRow : ((high K M p - 1) * M + low M p) / M + 1 = high K M p := by
    rw [Nat.add_comm (_ * M), Nat.add_mul_div_right _ _ hM, Nat.div_eq_of_lt hLow]
    omega
  rw [spread, hIndex, hRow, Nat.mul_add_mod', Nat.mod_eq_of_lt hLow, ← hMid, join_split]

/-- A number is fixed exactly in the first block of the zero middle digit, or
everywhere when there is only one middle digit. -/
theorem spread_eq_self_iff (hq : q < K) (hM : 0 < M) {s : Nat} (hs : K * M ≤ s) :
    spread K M q s = s ↔ K = 1 ∨ ((s - K * M) / M = 0 ∧ q = 0) := by
  set r := (s - K * M) / M with hr
  have hSplit : s = K * M + (r * M + (s - K * M) % M) := by
    rw [hr, Nat.div_add_mod' (s - K * M) M, Nat.add_sub_cancel' hs]
  have hSpread : spread K M q s = (r * K + K + q) * M + (s - K * M) % M := by
    rw [spread, join, ← hr]
    ring
  have hSelf : s = (K + r) * M + (s - K * M) % M := by
    rw [Nat.add_mul, Nat.add_assoc]
    exact hSplit
  have hCancel : spread K M q s = s ↔ r * K + q = r := by
    rw [hSpread]
    constructor
    · intro h
      have hRows : (r * K + K + q) * M = (K + r) * M := by omega
      have := Nat.eq_of_mul_eq_mul_right hM hRows
      omega
    · intro h
      rw [show r * K + K + q = K + r by omega]
      exact hSelf.symm
  rw [hCancel]
  constructor
  · intro h
    rcases Nat.lt_or_ge 1 K with hK | hK
    · have hGrow : r * 2 ≤ r * K := Nat.mul_le_mul_left r hK
      exact Or.inr (by omega)
    · exact Or.inl (by omega)
  · rintro (rfl | ⟨h0, rfl⟩)
    · omega
    · rw [h0]
      simp

/-- So are the numbers of the blocks when they are gathered. -/
theorem gather_eq_self_iff (hq : q < K) (hM : 0 < M) (hN : 0 < N) {p : Nat}
    (hp : p ∈ blocks K M N q) :
    gather K M p = p ↔ K = 1 ∨ ((p - K * M) / M = 0 ∧ q = 0) := by
  have hLower : K * M ≤ p := by
    have hOne := hp.1
    rw [high_eq_div, Nat.le_div_iff_mul_le (Nat.mul_pos (Nat.zero_lt_of_lt hq) hM)] at hOne
    omega
  rw [← spread_eq_self_iff hq hM hLower]
  constructor
  · intro h
    have hBack := spread_gather hM hp
    rwa [h] at hBack
  · intro h
    have hCompact : p ∈ compact K M N := by
      refine ⟨hLower, ?_⟩
      rcases (spread_eq_self_iff hq hM hLower).mp h with hK | ⟨hRow, -⟩
      · have hLast := Nat.lt_succ_of_le hp.2.1
        rw [high_eq_div, hK, Nat.one_mul, Nat.div_lt_iff_lt_mul hM, Nat.succ_mul] at hLast
        rw [hK]
        omega
      · have hBlock : M ≤ N * M := Nat.le_mul_of_pos_left M hN
        have hFirst := (Nat.div_eq_zero_iff_lt hM).mp hRow
        omega
    have hBack := gather_spread hq hM hCompact
    rwa [h] at hBack

end Radix
