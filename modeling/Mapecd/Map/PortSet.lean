import Mapecd.Map.Rule

/-! The port list that the daemon derives from the port parameters, and the
merge of neighbouring ports into ranges. -/
namespace Mapecd

open Checked

namespace RangeInclusive

def Contains (range : RangeInclusive) (port : U16) : Prop :=
  range.start ≤ port ∧ port ≤ range.stop

def single (port : U16) : RangeInclusive := ⟨port, port⟩

theorem single_contains {port p : U16} : (single port).Contains p ↔ p = port := by
  simp only [Contains, single, BitVec.le_def, ← BitVec.toNat_inj]
  omega

end RangeInclusive

def covered (ranges : List RangeInclusive) : Set U16 := {p | ∃ range ∈ ranges, range.Contains p}

/-- One port of the formula, cast to `u16` as the source does. -/
def calcPort (a k : U32) (psid : U16) (r j : U32) : Result U16 := do
  let row ← mul r (← shl (1 : U32) (← add a k))
  let column ← mul j (← shl (1 : U32) k)
  let port ← add (← add row column) (psid.setWidth 32)
  return port.setWidth 16

/-- The nested loops over R and j. -/
def calcPorts (a k : U32) (psid : U16) : Result (List U16) := do
  let rCount ← shl (1 : U32) (← sub (← sub 16 a) k)
  let jCount ← shl (1 : U32) a
  let rows ← (range 1 rCount).mapM fun r => (range 0 jCount).mapM fun j => calcPort a k psid r j
  return rows.flatten

/-- The ranges that are closed already, and the one that still grows. -/
structure MergeState where
  merged : List RangeInclusive
  current : RangeInclusive

def MergeState.push (state : MergeState) (port : U16) : MergeState :=
  if add state.current.stop 1 = some port then
    { state with current := { state.current with stop := port } }
  else
    { merged := state.merged ++ [state.current], current := .single port }

def MergeState.close (state : MergeState) : List RangeInclusive := state.merged ++ [state.current]

def mergePorts : List U16 → List RangeInclusive
  | [] => []
  | first :: rest => (rest.foldl MergeState.push ⟨[], .single first⟩).close

def calcPortRanges (portParams : PortParams) (psid : U16) : Result (List RangeInclusive) := do
  let ports ← calcPorts (portParams.psidOffset.setWidth 32) (portParams.psidLength.setWidth 32) psid
  return mergePorts ports

/-- One range more covers its own ports in addition. -/
theorem covered_append_single (ranges : List RangeInclusive) (range : RangeInclusive) (p : U16) :
    p ∈ covered (ranges ++ [range]) ↔ p ∈ covered ranges ∨ range.Contains p := by
  simp only [covered, Set.mem_ofPred_eq, List.mem_append, List.mem_singleton]
  constructor
  · rintro ⟨r, hr | rfl, hp⟩
    · exact Or.inl ⟨r, hr, hp⟩
    · exact Or.inr hp
  · rintro (⟨r, hr, hp⟩ | hp)
    · exact ⟨r, Or.inl hr, hp⟩
    · exact ⟨range, Or.inr rfl, hp⟩

/-- One port enlarges the covered set by itself and keeps the current range nonempty. -/
theorem MergeState.push_spec {state : MergeState} (hOrder : state.current.start ≤ state.current.stop)
    (port : U16) :
    (state.push port).current.start ≤ (state.push port).current.stop ∧
      ∀ p, p ∈ covered (state.push port).close ↔ p ∈ covered state.close ∨ p = port := by
  unfold push
  split_ifs with hNext
  · unfold add at hNext
    split_ifs at hNext with hFits
    cases hNext
    have hNat : (state.current.stop + 1).toNat = state.current.stop.toNat + 1 := by
      rw [BitVec.toNat_add, Nat.mod_eq_of_lt hFits]
      rfl
    rw [BitVec.le_def] at hOrder
    refine ⟨by rw [BitVec.le_def, hNat]; exact Nat.le_succ_of_le hOrder, fun p => ?_⟩
    simp only [close, covered_append_single, RangeInclusive.Contains, BitVec.le_def,
      ← BitVec.toNat_inj, hNat, or_assoc]
    refine or_congr_right ?_
    omega
  · exact ⟨BitVec.le_refl _, fun p => by
      rw [close, covered_append_single, RangeInclusive.single_contains]
      rfl⟩

/-- Pushing covers the pushed ports in addition and no others. -/
theorem MergeState.foldl_covered (rest : List U16) (state : MergeState)
    (hOrder : state.current.start ≤ state.current.stop) (p : U16) :
    p ∈ covered (rest.foldl push state).close ↔ p ∈ covered state.close ∨ p ∈ rest := by
  induction rest generalizing state with
  | nil => simp
  | cons port rest ih =>
      obtain ⟨hNext, hCovered⟩ := push_spec hOrder port
      rw [List.foldl_cons, ih _ hNext, hCovered, List.mem_cons, or_assoc]

/-- Merging loses no port and adds none, whatever the order of the list. -/
theorem mergePorts_covered (ports : List U16) : covered (mergePorts ports) = {p | p ∈ ports} := by
  ext p
  cases ports with
  | nil => simp [mergePorts, covered]
  | cons first rest =>
      rw [mergePorts, MergeState.foldl_covered rest _ (BitVec.le_refl _)]
      have hFirst : p ∈ covered [RangeInclusive.single first] ↔ p = first := by
        simp [covered, RangeInclusive.single_contains]
      exact (or_congr_left hFirst).trans List.mem_cons.symm

/-- The ports of the formula, computed without a bound on the numbers. -/
def formulaPorts (a k psid : Nat) : Set Nat :=
  {n | ∃ r j, 1 ≤ r ∧ r < 2 ^ (16 - a - k) ∧ j < 2 ^ a ∧ n = r * 2 ^ (a + k) + j * 2 ^ k + psid}

/-- The PSID is in the low bits, and nothing is below `2 ^ (a + k)`. -/
theorem mem_formulaPorts {a k psid : Nat} (hFits : a + k ≤ 16) (hPsid : psid < 2 ^ k) {n : Nat} :
    n ∈ formulaPorts a k psid ↔ n < 2 ^ 16 ∧ 2 ^ (a + k) ≤ n ∧ n % 2 ^ k = psid := by
  have hSpace : 2 ^ (16 - a - k) * (2 ^ a * 2 ^ k) = 2 ^ 16 := by
    rw [← pow_add, ← pow_add]
    congr 1
    omega
  have hRowPos : 0 < 2 ^ a * 2 ^ k := Nat.mul_pos (Nat.two_pow_pos a) (Nat.two_pow_pos k)
  have hJoin (r j : Nat) : r * (2 ^ a * 2 ^ k) + j * 2 ^ k + psid =
      Radix.join (2 ^ a) (2 ^ k) r j psid := by
    rw [Radix.join]
    ring
  simp only [formulaPorts, Set.mem_ofPred_eq, pow_add 2 a k, hJoin]
  constructor
  · rintro ⟨r, j, hrOne, hrLt, hjLt, rfl⟩
    refine ⟨hSpace ▸ Radix.join_lt hrLt hjLt hPsid, ?_, Radix.low_join hPsid⟩
    rw [← hJoin, Nat.add_assoc]
    exact Nat.le_add_right_of_le (Nat.le_mul_of_pos_left _ hrOne)
  · rintro ⟨hLt, hLower, hLow⟩
    refine ⟨Radix.high (2 ^ a) (2 ^ k) n, Radix.mid (2 ^ a) (2 ^ k) n, ?_, ?_,
      Nat.mod_lt _ (Nat.two_pow_pos a), ?_⟩
    · rw [Radix.high_eq_div]
      exact (Nat.one_le_div_iff hRowPos).mpr hLower
    · rw [Radix.high_eq_div, Nat.div_lt_iff_lt_mul hRowPos, hSpace]
      exact hLt
    · rw [← hLow]
      exact (Radix.join_split _ _ n).symm

section Formula

variable {a k : U32} {psid : U16}

/-- `Port(R, j)` as a number: R, j and the PSID are the three digits. -/
def portValue (a k : U32) (psid : U16) (r j : U32) : U16 :=
  BitVec.ofNat 16 (Radix.join (2 ^ a.toNat) (2 ^ k.toNat) r.toNat j.toNat psid.toNat)

theorem join_eq_sum (r j : U32) :
    Radix.join (2 ^ a.toNat) (2 ^ k.toNat) r.toNat j.toNat psid.toNat =
      r.toNat * 2 ^ (a.toNat + k.toNat) + j.toNat * 2 ^ k.toNat + psid.toNat := by
  rw [Radix.join, pow_add]
  ring

/-- R and j in their ranges stay below the port space. -/
theorem row_column_lt (hFits : a.toNat + k.toNat ≤ 16) {r j : U32}
    (hr : r.toNat < 2 ^ (16 - a.toNat - k.toNat)) (hj : j.toNat < 2 ^ a.toNat) :
    r.toNat * 2 ^ (a.toNat + k.toNat) + j.toNat * 2 ^ k.toNat < 2 ^ 16 := by
  have hLt := Radix.join_lt hr hj (Nat.two_pow_pos k.toNat)
  rw [← pow_add, ← pow_add, show 16 - a.toNat - k.toNat + (a.toNat + k.toNat) = 16 by omega,
    Radix.join, Nat.add_zero, Nat.add_mul, Nat.mul_assoc, ← pow_add] at hLt
  exact hLt

/-- No product or sum of the formula overflows `u32`, whatever the PSID. -/
theorem calcPort_eq (hFits : a.toNat + k.toNat ≤ 16) {r j : U32}
    (hr : r.toNat < 2 ^ (16 - a.toNat - k.toNat)) (hj : j.toNat < 2 ^ a.toNat) :
    calcPort a k psid r j = some (portValue a k psid r j) := by
  have hBound := row_column_lt hFits hr hj
  have hPsidLt := psid.isLt
  have hWide : (psid.setWidth 32).toNat = psid.toNat := by
    rw [BitVec.toNat_setWidth]
    exact Nat.mod_eq_of_lt (psid.isLt.trans (by decide))
  obtain ⟨sum, hSum, hSumNat⟩ := exists_add (x := a) (y := k) (by omega)
  have hPow (n : Nat) (hn : n ≤ 16) : (1 : U32).toNat * 2 ^ n < 2 ^ 32 := by
    refine lt_of_eq_of_lt (Nat.one_mul _) (Nat.pow_lt_pow_right Nat.one_lt_two (by omega))
  obtain ⟨rowSize, hRowSize, hRowSizeNat⟩ := exists_shl (x := (1 : U32)) (n := sum) (by omega)
    (hPow _ (by omega))
  replace hRowSizeNat : rowSize.toNat = 2 ^ (a.toNat + k.toNat) := by
    rw [hRowSizeNat, hSumNat]
    exact Nat.one_mul _
  obtain ⟨step, hStep, hStepNat⟩ := exists_shl (x := (1 : U32)) (n := k) (by omega)
    (hPow _ (by omega))
  replace hStepNat : step.toNat = 2 ^ k.toNat := hStepNat.trans (Nat.one_mul _)
  obtain ⟨row, hRow, hRowNat⟩ := exists_mul (x := r) (y := rowSize)
    (by rw [hRowSizeNat]; omega)
  obtain ⟨column, hColumn, hColumnNat⟩ := exists_mul (x := j) (y := step)
    (by rw [hStepNat]; omega)
  rw [hRowSizeNat] at hRowNat
  rw [hStepNat] at hColumnNat
  obtain ⟨both, hBoth, hBothNat⟩ := exists_add (x := row) (y := column) (by omega)
  obtain ⟨port, hPort, hPortNat⟩ := exists_add (x := both) (y := psid.setWidth 32) (by omega)
  have hCast : port.setWidth 16 = portValue a k psid r j := by
    refine BitVec.eq_of_toNat_eq ?_
    rw [portValue, join_eq_sum, BitVec.toNat_setWidth, BitVec.toNat_ofNat, hPortNat,
      hBothNat, hRowNat, hColumnNat, hWide]
  simp only [calcPort, hSum, hRowSize, hRow, hStep, hColumn, hBoth, hPort, hCast,
    Option.bind_eq_bind, Option.bind_some, pure]

/-- A PSID of `k` bits is not touched by the cast to `u16`. -/
theorem toNat_portValue (hFits : a.toNat + k.toNat ≤ 16) (hPsid : psid.toNat < 2 ^ k.toNat)
    {r j : U32} (hr : r.toNat < 2 ^ (16 - a.toNat - k.toNat)) (hj : j.toNat < 2 ^ a.toNat) :
    (portValue a k psid r j).toNat =
      Radix.join (2 ^ a.toNat) (2 ^ k.toNat) r.toNat j.toNat psid.toNat := by
  have hLt := Radix.join_lt hr hj hPsid
  rw [← pow_add, ← pow_add, show 16 - a.toNat - k.toNat + (a.toNat + k.toNat) = 16 by omega] at hLt
  exact Nat.mod_eq_of_lt hLt

/-- The nested loops in full: R outermost, then j. -/
theorem calcPorts_eq (hFits : a.toNat + k.toNat ≤ 16) (psid : U16) :
    ∃ rCount jCount : U32, rCount.toNat = 2 ^ (16 - a.toNat - k.toNat) ∧
      jCount.toNat = 2 ^ a.toNat ∧
      calcPorts a k psid = some
        ((range 1 rCount).map fun r => (range 0 jCount).map (portValue a k psid r)).flatten := by
  have hPow (n : Nat) (hn : n ≤ 16) : (1 : U32).toNat * 2 ^ n < 2 ^ 32 := by
    refine lt_of_eq_of_lt (Nat.one_mul _) (Nat.pow_lt_pow_right (by decide) (by omega))
  have hSixteen : (16 : U32).toNat = 16 := rfl
  obtain ⟨upper, hUpper, hUpperNat⟩ := exists_sub (x := (16 : U32)) (y := a) (by omega)
  obtain ⟨width, hWidth, hWidthNat⟩ := exists_sub (x := upper) (y := k) (by omega)
  obtain ⟨rCount, hRCount, hRCountNat⟩ := exists_shl (x := (1 : U32)) (n := width) (by omega)
    (hPow _ (by omega))
  obtain ⟨jCount, hJCount, hJCountNat⟩ := exists_shl (x := (1 : U32)) (n := a) (by omega)
    (hPow _ (by omega))
  replace hRCountNat : rCount.toNat = 2 ^ (16 - a.toNat - k.toNat) := by
    rw [hRCountNat, hWidthNat, hUpperNat]
    exact Nat.one_mul _
  replace hJCountNat : jCount.toNat = 2 ^ a.toNat := hJCountNat.trans (Nat.one_mul _)
  refine ⟨rCount, jCount, hRCountNat, hJCountNat, ?_⟩
  have hRows : ((range 1 rCount).mapM fun r => (range 0 jCount).mapM fun j => calcPort a k psid r j) =
      some ((range 1 rCount).map fun r => (range 0 jCount).map (portValue a k psid r)) := by
    refine mapM_eq_map fun r hr => mapM_eq_map fun j hj => ?_
    exact calcPort_eq hFits (hRCountNat ▸ (mem_range.mp hr).2) (hJCountNat ▸ (mem_range.mp hj).2)
  simp only [calcPorts, hUpper, hWidth, hRCount, hJCount, hRows, Option.bind_eq_bind,
    Option.bind_some, pure]

/-- The loops visit exactly the ports of the formula, each of them once and in
increasing order. -/
theorem calcPorts_formula (hFits : a.toNat + k.toNat ≤ 16) (hPsid : psid.toNat < 2 ^ k.toNat) :
    ∃ ports, calcPorts a k psid = some ports ∧
      (∀ p, p ∈ ports ↔ p.toNat ∈ formulaPorts a.toNat k.toNat psid.toNat) ∧
      ports.Pairwise fun p q => p.toNat < q.toNat := by
  obtain ⟨rCount, jCount, hRCount, hJCount, hPorts⟩ := calcPorts_eq hFits psid
  have hRow {r : U32} (hr : r ∈ range 1 rCount) : r.toNat < 2 ^ (16 - a.toNat - k.toNat) :=
    hRCount ▸ (mem_range.mp hr).2
  have hColumn {j : U32} (hj : j ∈ range 0 jCount) : j.toNat < 2 ^ a.toNat :=
    hJCount ▸ (mem_range.mp hj).2
  have hValue {r j : U32} (hr : r ∈ range 1 rCount) (hj : j ∈ range 0 jCount) :=
    toNat_portValue hFits hPsid (hRow hr) (hColumn hj)
  refine ⟨_, hPorts, fun p => ?_, ?_⟩
  · simp only [List.mem_flatten, List.mem_map, exists_exists_and_eq_and]
    constructor
    · rintro ⟨r, hr, j, hj, rfl⟩
      refine ⟨r.toNat, j.toNat, (mem_range.mp hr).1, hRow hr, hColumn hj, ?_⟩
      rw [hValue hr hj, join_eq_sum]
    · rintro ⟨r, j, hrOne, hrLt, hjLt, hp⟩
      have hPow (n : Nat) (hn : n ≤ 16) : 2 ^ n < 2 ^ 32 :=
        Nat.pow_lt_pow_right (by decide) (by omega)
      have hrNat : (BitVec.ofNat 32 r).toNat = r :=
        Nat.mod_eq_of_lt (hrLt.trans (hPow _ (by omega)))
      have hjNat : (BitVec.ofNat 32 j).toNat = j :=
        Nat.mod_eq_of_lt (hjLt.trans (hPow _ (by omega)))
      have hr : BitVec.ofNat 32 r ∈ range 1 rCount :=
        mem_range.mpr ⟨by rw [hrNat]; exact hrOne, by rwa [hrNat, hRCount]⟩
      have hj : BitVec.ofNat 32 j ∈ range 0 jCount :=
        mem_range.mpr ⟨Nat.zero_le _, by rwa [hjNat, hJCount]⟩
      refine ⟨_, hr, _, hj, BitVec.eq_of_toNat_eq ?_⟩
      rw [hValue hr hj, join_eq_sum, hrNat, hjNat, hp]
  · -- inside a row the ports follow j, between rows they follow R
    rw [List.pairwise_flatten, List.pairwise_map]
    constructor
    · intro row hMem
      obtain ⟨r, hr, rfl⟩ := List.mem_map.mp hMem
      rw [List.pairwise_map]
      refine (range_pairwise 0 jCount).imp_of_mem ?_
      intro j j' hj hj' hLt
      rw [hValue hr hj, hValue hr hj']
      exact Radix.join_lt_join_mid _ hLt hPsid
    · refine (range_pairwise 1 rCount).imp_of_mem ?_
      intro r r' hr hr' hLt p hp q hq
      obtain ⟨j, hj, rfl⟩ := List.mem_map.mp hp
      obtain ⟨j', hj', rfl⟩ := List.mem_map.mp hq
      rw [hValue hr hj, hValue hr' hj']
      exact Radix.join_lt_join_high hLt (hColumn hj) hPsid

/-- The loops visit the ports with the PSID in the low bits and R at least one. -/
theorem mem_calcPorts (hFits : a.toNat + k.toNat ≤ 16) (hPsid : psid.toNat < 2 ^ k.toNat) :
    ∃ ports, calcPorts a k psid = some ports ∧ ∀ p, p ∈ ports ↔
      2 ^ (a.toNat + k.toNat) ≤ p.toNat ∧ p.toNat % 2 ^ k.toNat = psid.toNat := by
  obtain ⟨ports, hPorts, hFormula, -⟩ := calcPorts_formula hFits hPsid
  refine ⟨ports, hPorts, ?_⟩
  intro p
  rw [hFormula, mem_formulaPorts hFits hPsid, and_iff_right p.isLt]

/-- Without a bit between the PSID and the offset bits there is no port. -/
theorem calcPorts_eq_nil_iff (hFits : a.toNat + k.toNat ≤ 16) (psid : U16) :
    ∃ ports, calcPorts a k psid = some ports ∧ (ports = [] ↔ a.toNat + k.toNat = 16) := by
  obtain ⟨rCount, jCount, hRCount, hJCount, hPorts⟩ := calcPorts_eq hFits psid
  refine ⟨_, hPorts, ?_⟩
  have hOne : (1 : U32).toNat = 1 := rfl
  have hZero : (0 : U32).toNat = 0 := rfl
  rw [List.flatten_eq_nil_iff]
  constructor
  · intro hEmpty
    by_contra hRoom
    have hRow : 2 ^ 1 ≤ 2 ^ (16 - a.toNat - k.toNat) :=
      Nat.pow_le_pow_right Nat.two_pos (by omega)
    have hColumn := Nat.two_pow_pos a.toNat
    have hFirst : (1 : U32) ∈ range 1 rCount := mem_range.mpr ⟨Nat.le_refl _, by omega⟩
    have hNil := hEmpty _ (List.mem_map_of_mem hFirst)
    rw [List.map_eq_nil_iff] at hNil
    have hStart : (0 : U32) ∈ range 0 jCount := mem_range.mpr ⟨Nat.le_refl _, by omega⟩
    rw [hNil] at hStart
    cases hStart
  · intro hFull row hRow
    obtain ⟨r, hr, -⟩ := List.mem_map.mp hRow
    obtain ⟨hLower, hUpper⟩ := mem_range.mp hr
    rw [hRCount, show 16 - a.toNat - k.toNat = 0 by omega, pow_zero] at hUpper
    omega

end Formula

theorem mergePorts_eq_nil_iff (ports : List U16) : mergePorts ports = [] ↔ ports = [] := by
  cases ports with
  | nil => exact iff_of_true rfl rfl
  | cons first rest =>
      simp only [mergePorts, MergeState.close, reduceCtorEq, iff_false]
      exact List.append_ne_nil_of_right_ne_nil _ (List.cons_ne_nil _ _)

theorem toNat_widen32 (x : U8) : (x.setWidth 32).toNat = x.toNat := by
  rw [BitVec.toNat_setWidth]
  exact Nat.mod_eq_of_lt (x.isLt.trans (by decide))

/-- A list is computed only if the bits fit. -/
theorem calcPortRanges_fits {portParams : PortParams} {psid : U16} {ranges : List RangeInclusive}
    (h : calcPortRanges portParams psid = some ranges) :
    portParams.psidOffset.toNat + portParams.psidLength.toNat ≤ 16 := by
  unfold calcPortRanges calcPorts at h
  simp only [Option.bind_eq_bind, Option.bind_eq_some_iff] at h
  obtain ⟨ports, ⟨rest, hRest, width, hWidth, -⟩, -⟩ := h
  obtain ⟨hOffset, hRestNat⟩ := le_of_sub hRest
  obtain ⟨hLength, -⟩ := le_of_sub hWidth
  rw [toNat_widen32] at hOffset hRestNat
  rw [toNat_widen32, hRestNat] at hLength
  have hSixteen : (16 : U32).toNat = 16 := rfl
  omega

/-- There is no range exactly where offset and PSID leave no bits of the port. -/
theorem calcPortRanges_eq_nil_iff (portParams : PortParams) (psid : U16)
    (hFits : portParams.psidOffset.toNat + portParams.psidLength.toNat ≤ 16) :
    ∃ ranges, calcPortRanges portParams psid = some ranges ∧
      (ranges = [] ↔ portParams.psidOffset.toNat + portParams.psidLength.toNat = 16) := by
  obtain ⟨ports, hPorts, hNil⟩ := calcPorts_eq_nil_iff (a := portParams.psidOffset.setWidth 32)
    (k := portParams.psidLength.setWidth 32) (by rwa [toNat_widen32, toNat_widen32]) psid
  rw [toNat_widen32, toNat_widen32] at hNil
  exact ⟨mergePorts ports, by rw [calcPortRanges, hPorts]; rfl, (mergePorts_eq_nil_iff _).trans hNil⟩

/-- The port set of the daemon: the PSID in the low `k` bits, nothing below
`2 ^ (a + k)`. -/
theorem calcPortRanges_covered (portParams : PortParams) (psid : U16)
    (hFits : portParams.psidOffset.toNat + portParams.psidLength.toNat ≤ 16)
    (hPsid : psid.toNat < 2 ^ portParams.psidLength.toNat) :
    ∃ ranges, calcPortRanges portParams psid = some ranges ∧ ∀ p, p ∈ covered ranges ↔
      2 ^ (portParams.psidOffset.toNat + portParams.psidLength.toNat) ≤ p.toNat ∧
        p.toNat % 2 ^ portParams.psidLength.toNat = psid.toNat := by
  obtain ⟨ports, hPorts, hMem⟩ := mem_calcPorts (a := portParams.psidOffset.setWidth 32)
    (k := portParams.psidLength.setWidth 32) (by rwa [toNat_widen32, toNat_widen32])
    (by rwa [toNat_widen32])
  rw [toNat_widen32, toNat_widen32] at hMem
  refine ⟨mergePorts ports, by rw [calcPortRanges, hPorts]; rfl, fun p => ?_⟩
  rw [mergePorts_covered]
  exact hMem p

end Mapecd
