import Mapecd.Map.PortSet
import Mapecd.Semantics.Intervals

/-! The port list as the canonical list of intervals of its formula. The loops
visit the ports in increasing order, so the merge can only close gaps. -/
namespace Mapecd

open Checked Intervals

namespace RangeInclusive

def lo (range : RangeInclusive) : Nat := range.start.toNat

def hi (range : RangeInclusive) : Nat := range.stop.toNat

theorem eq_of_bounds (x y : RangeInclusive) (hLo : x.lo = y.lo) (hHi : x.hi = y.hi) : x = y := by
  obtain ⟨start, stop⟩ := x
  obtain ⟨start', stop'⟩ := y
  rw [BitVec.eq_of_toNat_eq (x := start) hLo, BitVec.eq_of_toNat_eq (x := stop) hHi]

/-- The ports as numbers. -/
theorem union_eq_image (ranges : List RangeInclusive) :
    union lo hi ranges = BitVec.toNat '' covered ranges := by
  ext n
  constructor
  · rintro ⟨range, hRange, hLo, hHi⟩
    have hNat : (BitVec.ofNat 16 n).toNat = n :=
      Nat.mod_eq_of_lt (hHi.trans_lt range.stop.isLt)
    refine ⟨BitVec.ofNat 16 n, ⟨range, hRange, ?_, ?_⟩, hNat⟩
    · rwa [BitVec.le_def, hNat]
    · rwa [BitVec.le_def, hNat]
  · rintro ⟨p, ⟨range, hRange, hLo, hHi⟩, rfl⟩
    exact ⟨range, hRange, hLo, hHi⟩

end RangeInclusive

section Merge

/-- A greater port either grows the current range or starts one behind a gap. -/
theorem MergeState.push_canonical {state : MergeState} {port : U16}
    (h : Canonical RangeInclusive.lo RangeInclusive.hi state.close)
    (hNext : state.current.hi < port.toNat) :
    Canonical RangeInclusive.lo RangeInclusive.hi (state.push port).close ∧
      (state.push port).current.hi = port.toNat := by
  have hFits : state.current.stop.toNat + (1 : U16).toNat < 2 ^ 16 :=
    Nat.lt_of_le_of_lt hNext port.isLt
  unfold push
  split_ifs with hAdjacent
  · constructor
    · exact h.extend rfl (Nat.le_of_lt hNext)
    · rfl
  · have hGap : state.current.stop.toNat + 1 ≠ port.toNat := by
      intro hEq
      apply hAdjacent
      rw [add, if_pos hFits]
      apply congrArg some
      apply BitVec.eq_of_toNat_eq
      rw [BitVec.toNat_add, Nat.mod_eq_of_lt hFits]
      exact hEq
    constructor
    · exact h.append (lt_of_le_of_ne hNext hGap) le_rfl
    · rfl

/-- Pushing ports in ascending order keeps the merged ranges apart and in order. -/
theorem MergeState.foldl_canonical (rest : List U16) (state : MergeState)
    (h : Canonical RangeInclusive.lo RangeInclusive.hi state.close)
    (hNext : ∀ port ∈ rest, state.current.hi < port.toNat)
    (hSorted : rest.Pairwise fun p q => p.toNat < q.toNat) :
    Canonical RangeInclusive.lo RangeInclusive.hi (rest.foldl push state).close := by
  induction rest generalizing state with
  | nil => exact h
  | cons port rest ih =>
      obtain ⟨hBehind, hRest⟩ := List.pairwise_cons.mp hSorted
      obtain ⟨hPush, hLast⟩ := push_canonical h (hNext port List.mem_cons_self)
      rw [List.foldl_cons]
      apply ih _ hPush _ hRest
      intro q hq
      rw [hLast]
      exact hBehind q hq

/-- A sorted list of ports is merged into maximal ranges. -/
theorem mergePorts_canonical {ports : List U16}
    (hSorted : ports.Pairwise fun p q => p.toNat < q.toNat) :
    Canonical RangeInclusive.lo RangeInclusive.hi (mergePorts ports) := by
  cases ports with
  | nil => exact Canonical.nil
  | cons first rest =>
      obtain ⟨hBehind, hRest⟩ := List.pairwise_cons.mp hSorted
      have hFirst : Canonical RangeInclusive.lo RangeInclusive.hi [.single first] :=
        Canonical.singleton le_rfl
      exact MergeState.foldl_canonical rest ⟨[], .single first⟩ hFirst hBehind hRest

end Merge

/-- The ranges are the canonical list of the ports of the formula. -/
theorem calcPortRanges_formula (portParams : PortParams) (psid : U16)
    (hFits : portParams.psidOffset.toNat + portParams.psidLength.toNat ≤ 16)
    (hPsid : psid.toNat < 2 ^ portParams.psidLength.toNat) :
    ∃ ranges, calcPortRanges portParams psid = some ranges ∧
      Canonical RangeInclusive.lo RangeInclusive.hi ranges ∧
      union RangeInclusive.lo RangeInclusive.hi ranges =
        formulaPorts portParams.psidOffset.toNat portParams.psidLength.toNat psid.toNat := by
  obtain ⟨ports, hPorts, hFormula, hSorted⟩ := calcPorts_formula
    (a := portParams.psidOffset.setWidth 32) (k := portParams.psidLength.setWidth 32)
    (by rwa [toNat_widen32, toNat_widen32]) (by rwa [toNat_widen32])
  rw [toNat_widen32, toNat_widen32] at hFormula
  refine ⟨mergePorts ports, ?_, mergePorts_canonical hSorted, ?_⟩
  · rw [calcPortRanges, hPorts]
    rfl
  · ext n
    rw [RangeInclusive.union_eq_image, mergePorts_covered]
    constructor
    · rintro ⟨p, hp, rfl⟩
      exact (hFormula p).mp hp
    · intro hn
      have hNat : (BitVec.ofNat 16 n).toNat = n :=
        Nat.mod_eq_of_lt ((mem_formulaPorts hFits hPsid).mp hn).1
      rw [← hNat] at hn ⊢
      exact ⟨_, (hFormula _).mpr hn, rfl⟩

/-- The list is the canonical form of the formula's ports, and empty exactly if
the formula has none. -/
theorem calcPortRanges_canonical (portParams : PortParams) (psid : U16)
    (hFits : portParams.psidOffset.toNat + portParams.psidLength.toNat ≤ 16)
    (hPsid : psid.toNat < 2 ^ portParams.psidLength.toNat) :
    ∃ ranges, calcPortRanges portParams psid = some ranges ∧
      Canonical RangeInclusive.lo RangeInclusive.hi ranges ∧
      union RangeInclusive.lo RangeInclusive.hi ranges =
        formulaPorts portParams.psidOffset.toNat portParams.psidLength.toNat psid.toNat ∧
      (ranges = [] ↔ portParams.psidOffset.toNat + portParams.psidLength.toNat = 16) := by
  obtain ⟨ranges, hRanges, hCanonical, hUnion⟩ := calcPortRanges_formula portParams psid hFits hPsid
  obtain ⟨ranges', hSame, hNil⟩ := calcPortRanges_eq_nil_iff portParams psid hFits
  cases hRanges.symm.trans hSame
  exact ⟨ranges, hRanges, hCanonical, hUnion, hNil⟩

/-- Four offset bits, eight PSID bits, PSID 5. -/
theorem calcPortRanges_canonical_five :
    ∃ ranges, calcPortRanges ⟨4, 8⟩ 5 = some ranges ∧
      Canonical RangeInclusive.lo RangeInclusive.hi ranges ∧
      union RangeInclusive.lo RangeInclusive.hi ranges = formulaPorts 4 8 5 ∧ ranges ≠ [] := by
  obtain ⟨ranges, hRanges, hCanonical, hUnion, hNil⟩ :=
    calcPortRanges_canonical ⟨4, 8⟩ 5 (by decide) (by decide)
  exact ⟨ranges, hRanges, hCanonical, hUnion, fun hEmpty => absurd (hNil.mp hEmpty) (by decide)⟩

/-- Without PSID bits only the ports below the offset are excluded. -/
theorem formulaPorts_withoutPsid {a : Nat} (ha : a < 16) :
    formulaPorts a 0 0 = Set.Ico (2 ^ a) (2 ^ 16) := by
  ext n
  rw [mem_formulaPorts (Nat.le_of_lt ha) Nat.one_pos, pow_zero, Nat.mod_one, Nat.add_zero,
    Set.mem_Ico]
  constructor
  · rintro ⟨hUpper, hLower, -⟩
    exact ⟨hLower, hUpper⟩
  · rintro ⟨hLower, hUpper⟩
    exact ⟨hUpper, hLower, rfl⟩

/-- Without PSID bits everything from `2 ^ a` on is one range. -/
theorem calcPortRanges_withoutPsid (a : U8) (ha : a.toNat < 16) :
    calcPortRanges ⟨a, 0⟩ 0 = some [⟨BitVec.ofNat 16 (2 ^ a.toNat), 65535⟩] := by
  obtain ⟨ranges, hRanges, hCanonical, hUnion⟩ :=
    calcPortRanges_formula ⟨a, 0⟩ 0 (Nat.le_of_lt ha) Nat.one_pos
  replace hUnion : union RangeInclusive.lo RangeInclusive.hi ranges =
      Set.Ico (2 ^ a.toNat) (2 ^ 16) := hUnion.trans (formulaPorts_withoutPsid ha)
  have hLast : 2 ^ a.toNat < 2 ^ 16 := Nat.pow_lt_pow_right Nat.one_lt_two ha
  have hLo : RangeInclusive.lo ⟨BitVec.ofNat 16 (2 ^ a.toNat), 65535⟩ = 2 ^ a.toNat :=
    Nat.mod_eq_of_lt hLast
  have hHi : RangeInclusive.hi ⟨BitVec.ofNat 16 (2 ^ a.toNat), 65535⟩ = 2 ^ 16 - 1 := rfl
  have hSingle : Canonical RangeInclusive.lo RangeInclusive.hi
      [⟨BitVec.ofNat 16 (2 ^ a.toNat), 65535⟩] := by
    apply Canonical.singleton
    rw [hLo, hHi]
    exact Nat.le_sub_one_of_lt hLast
  rw [hRanges, hCanonical.unique hSingle RangeInclusive.eq_of_bounds]
  rw [hUnion]
  ext n
  simp only [union, List.mem_singleton, exists_eq_left, hLo, hHi, Set.mem_ofPred_eq, Set.mem_Ico]
  omega

end Mapecd
