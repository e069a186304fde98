import Mapecd.Semantics.Checked
import Mapecd.Semantics.Radix

/-! The parameters shared by the daemon and the two BPF programs. The daemon
computes them once and writes them into `CONFIG_MAP`. -/
namespace Mapecd

abbrev U8 := BitVec 8
abbrev U16 := BitVec 16
abbrev U32 := BitVec 32

open Checked

/-- `#[repr(C)]` record of `CONFIG_MAP`. The ports are in host byte order. -/
structure PsidConfig where
  /-- a: the number of offset bits -/
  offset : U8
  /-- k: the width of the PSID -/
  length : U8
  /-- `16 - offset - length` -/
  blockShift : U8
  pad : U8
  psid : U16
  stagingMin : U16
  stagingMax : U16
deriving DecidableEq, Repr

/-- `#[derive(Default)]`, also the content of a map that was never written. -/
def PsidConfig.default : PsidConfig :=
  { offset := 0, length := 0, blockShift := 0, pad := 0, psid := 0, stagingMin := 0, stagingMax := 0 }

/-- There is no configuration with more than sixteen bits in front of and in the PSID. -/
def PsidConfig.tryNew (offset length : U8) (psid : U16) : Result (Option PsidConfig) := do
  if (← add (offset.setWidth 16) (length.setWidth 16)) > (16 : U16) then
    return none
  -- a = 0 has no R dimension: the staging range is every port
  if offset = 0 then
    return some
      { offset := 0, length := length, blockShift := 0, pad := 0, psid := psid,
        stagingMin := 1, stagingMax := 65535 }
  let blockShift := saturatingSub (saturatingSub 16 offset) length
  let stagingMin ← shl (1 : U16) (← sub (16 : U16) (offset.setWidth 16))
  let numRBlocks ← sub (← shl (1 : U32) offset) 1
  let blockSize ← shl (1 : U32) blockShift
  let totalPorts ← mul numRBlocks blockSize
  let stagingMax := (← sub (← add (stagingMin.setWidth 32) totalPorts) 1).setWidth 16
  return some
    { offset := offset, length := length, blockShift := blockShift, pad := 0, psid := psid,
      stagingMin := stagingMin, stagingMax := stagingMax }

namespace PsidConfig

/-- The ports that masquerading may pick. -/
def Staging (cfg : PsidConfig) (port : U16) : Prop :=
  cfg.stagingMin ≤ port ∧ port ≤ cfg.stagingMax

/-- Number of PSIDs, `2 ^ k`. -/
def psids (cfg : PsidConfig) : Nat := 2 ^ cfg.length.toNat

/-- Ports in one block, `2 ^ (16 - a - k)`. -/
def blockSize (cfg : PsidConfig) : Nat := 2 ^ cfg.blockShift.toNat

/-- Blocks of one CE, `2 ^ a - 1`. -/
def rows (cfg : PsidConfig) : Nat := 2 ^ cfg.offset.toNat - 1

/-- What `tryNew` guarantees for `a ≥ 1`: the precomputed fields agree with
the three lengths, in natural numbers without truncation. -/
structure Coherent (cfg : PsidConfig) : Prop where
  offset_pos : 1 ≤ cfg.offset.toNat
  fits : cfg.offset.toNat + cfg.length.toNat ≤ 16
  blockShift : cfg.blockShift.toNat = 16 - cfg.offset.toNat - cfg.length.toNat
  psid_lt : cfg.psid.toNat < cfg.psids
  stagingMin : cfg.stagingMin.toNat = cfg.psids * cfg.blockSize
  stagingMax : cfg.stagingMax.toNat + 1 = cfg.psids * cfg.blockSize + cfg.rows * cfg.blockSize

theorem psids_pos (cfg : PsidConfig) : 0 < cfg.psids := Nat.two_pow_pos _

theorem blockSize_pos (cfg : PsidConfig) : 0 < cfg.blockSize := Nat.two_pow_pos _

variable {cfg : PsidConfig}

theorem Coherent.row_width (h : cfg.Coherent) :
    cfg.psids * cfg.blockSize = 2 ^ (16 - cfg.offset.toNat) := by
  have hFits := h.fits
  rw [psids, blockSize, ← pow_add, h.blockShift]
  congr 1
  omega

/-- All rows together, row zero included, fill the 16-bit port space. -/
theorem Coherent.rows_fill (h : cfg.Coherent) :
    (cfg.rows + 1) * (cfg.psids * cfg.blockSize) = 2 ^ 16 := by
  have hFits := h.fits
  have hPos := Nat.two_pow_pos cfg.offset.toNat
  rw [h.row_width, rows, Nat.sub_add_cancel hPos, ← pow_add]
  congr 1
  omega

theorem Coherent.rows_pos (h : cfg.Coherent) : 1 ≤ cfg.rows := by
  have hTwo : 2 ^ 1 ≤ 2 ^ cfg.offset.toNat := Nat.pow_le_pow_right (by decide) h.offset_pos
  unfold rows
  omega

theorem Coherent.staging_iff (h : cfg.Coherent) (port : U16) :
    cfg.Staging port ↔ port.toNat ∈ Radix.compact cfg.psids cfg.blockSize cfg.rows := by
  have hMin := h.stagingMin
  have hMax := h.stagingMax
  simp only [Staging, BitVec.le_def, Radix.compact, Set.mem_Ico]
  omega

end PsidConfig

theorem toNat_widen (x : U8) : (x.setWidth 16).toNat = x.toNat := by
  rw [BitVec.toNat_setWidth]
  exact Nat.mod_eq_of_lt (x.isLt.trans (by decide))

namespace PsidConfig

/-- The distance `16 - a` by which both programs shift the row number. -/
theorem exists_rowShift (offset : U8) (hFits : offset.toNat ≤ 16) :
    ∃ amount : U16, sub (16 : U16) (offset.setWidth 16) = some amount ∧
      amount.toNat = 16 - offset.toNat := by
  obtain ⟨amount, hAmount, hNat⟩ := exists_sub (x := (16 : U16)) (y := offset.setWidth 16)
    (by rw [toNat_widen]; exact hFits)
  rw [toNat_widen] at hNat
  exact ⟨amount, hAmount, hNat⟩

/-- The shift of `stagingMin` stays in its width for every offset that fits. -/
theorem exists_stagingMin (offset : U8) (hOffset : 1 ≤ offset.toNat) (hFits : offset.toNat ≤ 16) :
    ∃ amount z : U16, sub (16 : U16) (offset.setWidth 16) = some amount ∧
      shl (1 : U16) amount = some z ∧ z.toNat = 2 ^ (16 - offset.toNat) := by
  obtain ⟨amount, hAmount, hAmountNat⟩ := exists_rowShift offset hFits
  have hPow : 2 ^ amount.toNat < 2 ^ 16 := Nat.pow_lt_pow_right (by decide) (by omega)
  obtain ⟨z, hz, hzNat⟩ := exists_shl (x := (1 : U16)) (n := amount) (by omega)
    (lt_of_eq_of_lt (Nat.one_mul _) hPow)
  exact ⟨amount, z, hAmount, hz, by rw [hzNat, hAmountNat]; exact Nat.one_mul _⟩

/-- The number of blocks is counted in 32 bits, where it cannot overflow. -/
theorem exists_numRBlocks (offset : U8) (hFits : offset.toNat ≤ 16) :
    ∃ shifted z : U32, shl (1 : U32) offset = some shifted ∧ sub shifted 1 = some z ∧
      z.toNat = 2 ^ offset.toNat - 1 := by
  have hPow : 2 ^ offset.toNat < 2 ^ 32 := Nat.pow_lt_pow_right (by decide) (by omega)
  obtain ⟨shifted, hShifted, hShiftedNat⟩ := exists_shl (x := (1 : U32)) (n := offset) (by omega)
    (lt_of_eq_of_lt (Nat.one_mul _) hPow)
  replace hShiftedNat : shifted.toNat = 2 ^ offset.toNat :=
    hShiftedNat.trans (Nat.one_mul _)
  obtain ⟨z, hz, hzNat⟩ := exists_sub (x := shifted) (y := (1 : U32))
    (by rw [hShiftedNat]; exact Nat.one_le_two_pow)
  exact ⟨shifted, z, hShifted, hz, by rw [hzNat, hShiftedNat]; rfl⟩

theorem exists_blockSize (shift : U8) (hShift : shift.toNat ≤ 15) :
    ∃ z : U32, shl (1 : U32) shift = some z ∧ z.toNat = 2 ^ shift.toNat := by
  have hPow : 2 ^ shift.toNat < 2 ^ 32 := Nat.pow_lt_pow_right (by decide) (by omega)
  obtain ⟨z, hz, hzNat⟩ := exists_shl (x := (1 : U32)) (n := shift) (by omega)
    (lt_of_eq_of_lt (Nat.one_mul _) hPow)
  exact ⟨z, hz, hzNat.trans (Nat.one_mul _)⟩

/-- The last staging port computed in `u32` fits into `u16`. -/
theorem exists_stagingMax {stagingMin : U16} {rows size : U32} (hRows : 1 ≤ rows.toNat)
    (hSize : 1 ≤ size.toNat)
    (hTotal : stagingMin.toNat + rows.toNat * size.toNat ≤ 2 ^ 16) :
    ∃ total top last : U32, mul rows size = some total ∧
      add (stagingMin.setWidth 32) total = some top ∧ sub top 1 = some last ∧
      (last.setWidth 16).toNat + 1 = stagingMin.toNat + rows.toNat * size.toNat := by
  have hWide : (stagingMin.setWidth 32).toNat = stagingMin.toNat := by
    rw [BitVec.toNat_setWidth]
    exact Nat.mod_eq_of_lt (stagingMin.isLt.trans (by decide))
  have hPos : 1 ≤ rows.toNat * size.toNat := Nat.mul_le_mul hRows hSize
  obtain ⟨total, hMul, hMulNat⟩ := exists_mul (x := rows) (y := size) (by omega)
  obtain ⟨top, hAdd, hAddNat⟩ := exists_add (x := stagingMin.setWidth 32) (y := total)
    (by rw [hWide, hMulNat]; omega)
  rw [hWide, hMulNat] at hAddNat
  have hOne : (1 : U32).toNat = 1 := rfl
  obtain ⟨last, hSub, hSubNat⟩ := exists_sub (x := top) (y := (1 : U32)) (by omega)
  refine ⟨total, top, last, hMul, hAdd, hSub, ?_⟩
  rw [BitVec.toNat_setWidth, Nat.mod_eq_of_lt (by omega)]
  omega

/-- The first test of `try_new` is the one on natural numbers. -/
theorem exists_bitSum (offset length : U8) :
    ∃ sum : U16, add (offset.setWidth 16) (length.setWidth 16) = some sum ∧
      (sum > (16 : U16) ↔ 16 < offset.toNat + length.toNat) := by
  have hOffset := offset.isLt
  have hLength := length.isLt
  obtain ⟨sum, hSum, hNat⟩ := exists_add (x := offset.setWidth 16) (y := length.setWidth 16)
    (by rw [toNat_widen, toNat_widen]; omega)
  rw [toNat_widen, toNat_widen] at hNat
  refine ⟨sum, hSum, ?_⟩
  rw [gt_iff_lt, BitVec.lt_def, hNat]
  rfl

/-- `try_new` neither panics nor truncates for `a ≥ 1` and `a + k ≤ 16`. -/
theorem exists_tryNew (offset length : U8) (psid : U16) (hOffset : 1 ≤ offset.toNat)
    (hFits : offset.toNat + length.toNat ≤ 16) :
    ∃ cfg, tryNew offset length psid = some (some cfg) ∧
      (psid.toNat < 2 ^ length.toNat → cfg.Coherent) ∧
      cfg.offset = offset ∧ cfg.length = length ∧ cfg.psid = psid := by
  obtain ⟨sum, hSum, hGt⟩ := exists_bitSum offset length
  have hNotGt : ¬ sum > (16 : U16) := fun h => absurd (hGt.mp h) (Nat.not_lt.mpr hFits)
  have hNonzero : ¬ offset = 0 := by
    rintro rfl
    exact absurd hOffset (by decide)
  set shift := saturatingSub (saturatingSub 16 offset) length with hShift
  have hShiftNat : shift.toNat = 16 - offset.toNat - length.toNat := by
    rw [hShift, toNat_saturatingSub, toNat_saturatingSub]
    rfl
  obtain ⟨amount, min, hAmount, hMin, hMinNat⟩ := exists_stagingMin offset hOffset (by omega)
  obtain ⟨shifted, rows, hShifted, hRows, hRowsNat⟩ := exists_numRBlocks offset (by omega)
  obtain ⟨size, hSize, hSizeNat⟩ := exists_blockSize shift (by omega)
  have hTwo : 2 ^ 1 ≤ 2 ^ offset.toNat := Nat.pow_le_pow_right (by decide) hOffset
  have hWidth : 2 ^ length.toNat * 2 ^ shift.toNat = 2 ^ (16 - offset.toNat) := by
    rw [← pow_add]
    congr 1
    omega
  have hFill : 2 ^ offset.toNat * 2 ^ (16 - offset.toNat) = 2 ^ 16 := by
    rw [← pow_add]
    congr 1
    omega
  have hBlock : 2 ^ shift.toNat ≤ 2 ^ (16 - offset.toNat) :=
    Nat.pow_le_pow_right (by decide) (by omega)
  have hTotal : min.toNat + rows.toNat * size.toNat ≤ 2 ^ 16 := by
    rw [hMinNat, hRowsNat, hSizeNat, ← hFill]
    calc 2 ^ (16 - offset.toNat) + (2 ^ offset.toNat - 1) * 2 ^ shift.toNat
        ≤ 2 ^ (16 - offset.toNat) + (2 ^ offset.toNat - 1) * 2 ^ (16 - offset.toNat) := by gcongr
      _ = (1 + (2 ^ offset.toNat - 1)) * 2 ^ (16 - offset.toNat) := by ring
      _ = 2 ^ offset.toNat * 2 ^ (16 - offset.toNat) := by
        congr 1
        omega
  obtain ⟨total, top, last, hMul, hAdd, hSub, hLast⟩ := exists_stagingMax (by omega)
    (by rw [hSizeNat]; exact Nat.one_le_two_pow) hTotal
  refine ⟨⟨offset, length, shift, 0, psid, min, last.setWidth 16⟩, ?_, ?_, rfl, rfl, rfl⟩
  · simp only [tryNew, hSum, hNotGt, hNonzero, ← hShift, hAmount, hMin, hShifted, hRows, hSize,
      hMul, hAdd, hSub, Option.bind_eq_bind, Option.bind_some, if_false, pure]
  · exact fun hPsid =>
      { offset_pos := hOffset
        fits := hFits
        blockShift := hShiftNat
        psid_lt := hPsid
        stagingMin := hMinNat.trans hWidth.symm
        stagingMax := by
          rw [hLast, hMinNat, hRowsNat, hSizeNat, ← hWidth]
          rfl }

theorem tryNew_coherent (offset length : U8) (psid : U16) (hOffset : 1 ≤ offset.toNat)
    (hFits : offset.toNat + length.toNat ≤ 16) (hPsid : psid.toNat < 2 ^ length.toNat) :
    ∃ cfg, tryNew offset length psid = some (some cfg) ∧ cfg.Coherent ∧
      cfg.offset = offset ∧ cfg.length = length ∧ cfg.psid = psid := by
  obtain ⟨cfg, hNew, hCoherent, hFields⟩ := exists_tryNew offset length psid hOffset hFits
  exact ⟨cfg, hNew, hCoherent hPsid, hFields⟩

/-- `a = 0`: the staging range is every port but zero. -/
theorem tryNew_zero (length : U8) (psid : U16) (hFits : length.toNat ≤ 16) :
    tryNew 0 length psid = some (some
      { offset := 0, length := length, blockShift := 0, pad := 0, psid := psid
        stagingMin := 1, stagingMax := 65535 }) := by
  obtain ⟨sum, hSum, hGt⟩ := exists_bitSum 0 length
  have hNotGt : ¬ sum > (16 : U16) := fun h =>
    absurd (hGt.mp h) (Nat.not_lt.mpr ((Nat.zero_add _).le.trans hFits))
  simp only [tryNew, hSum, hNotGt, Option.bind_eq_bind, Option.bind_some, if_false, if_true, pure]

/-- The PSID goes into its own field and nowhere else. -/
theorem tryNew_psid (offset length : U8) (psid psid' : U16) :
    tryNew offset length psid' =
      (tryNew offset length psid).map (Option.map fun cfg => { cfg with psid := psid' }) := by
  unfold tryNew
  simp only [Option.bind_eq_bind, Option.map_bind]
  congr 1
  funext sum
  dsimp only [Function.comp_apply]
  split_ifs
  · rfl
  · rfl
  · simp only [Option.map_bind, Function.comp_def]
    rfl

/-- Every call returns, with `None` exactly when the bits do not fit. -/
theorem tryNew_total (offset length : U8) (psid : U16) :
    ∃ result, tryNew offset length psid = some result ∧
      (result = none ↔ 16 < offset.toNat + length.toNat) := by
  rcases Nat.lt_or_ge 16 (offset.toNat + length.toNat) with hWide | hFits
  · obtain ⟨sum, hSum, hGt⟩ := exists_bitSum offset length
    refine ⟨none, ?_, iff_of_true rfl hWide⟩
    simp only [tryNew, hSum, hGt.mpr hWide, Option.bind_eq_bind, Option.bind_some, if_true, pure]
  · by_cases hZero : offset = 0
    · subst hZero
      have hLength : length.toNat ≤ 16 := (Nat.zero_add _).ge.trans hFits
      exact ⟨_, tryNew_zero length psid hLength, iff_of_false (Option.some_ne_none _)
        (Nat.not_lt.mpr hFits)⟩
    · have hPos : 1 ≤ offset.toNat := by
        have hNe : offset.toNat ≠ 0 := fun h => hZero (BitVec.eq_of_toNat_eq h)
        omega
      obtain ⟨cfg, hNew, -⟩ := exists_tryNew offset length psid hPos hFits
      exact ⟨some cfg, hNew, iff_of_false (Option.some_ne_none _) (Nat.not_lt.mpr hFits)⟩

end PsidConfig

end Mapecd
