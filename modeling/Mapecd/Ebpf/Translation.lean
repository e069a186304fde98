import Mapecd.Common.PsidConfig

/-! The arithmetic of the two TC programs. Egress spreads the staging interval
over the port blocks of the CE, ingress moves a port of a block back. The inner
`none` means that the program returns `TC_ACT_OK` without touching the packet. -/
namespace Mapecd

open Checked

/-- `psid_val` of `try_egress`, from the range check to the sum. -/
def egressPsidVal (cfg : PsidConfig) (stagingVal : U16) : Result (Option U16) := do
  if stagingVal < cfg.stagingMin ∨ stagingVal > cfg.stagingMax then
    return none
  let blockShift : U16 := cfg.blockShift.setWidth 16
  let blockMask := (← shl (1 : U16) blockShift) - 1
  let idx ← sub stagingVal cfg.stagingMin
  let r ← add (← shr idx blockShift) 1
  let j := idx &&& blockMask
  let row ← shl r (← sub (16 : U16) (cfg.offset.setWidth 16))
  let block ← shl cfg.psid blockShift
  let psidVal ← add (← add row block) j
  return some psidVal

/-- `staging_val` of `try_ingress`, from the block mask to the sum. -/
def ingressStagingVal (cfg : PsidConfig) (psidVal : U16) : Result (Option U16) := do
  let blockShift : U16 := cfg.blockShift.setWidth 16
  let blockMask := (← shl (1 : U16) blockShift) - 1
  -- R = 0 is an unassigned block
  let r ← shr psidVal (← sub (16 : U16) (cfg.offset.setWidth 16))
  if r = 0 then
    return none
  let psidBits := (← shr psidVal blockShift) &&& (← sub (← shl (1 : U16) cfg.length) 1)
  if psidBits ≠ cfg.psid then
    return none
  let j := psidVal &&& blockMask
  let idx := (← shl (← sub r 1) blockShift) ||| j
  let stagingVal ← add cfg.stagingMin idx
  return some stagingVal

/-- The port that leaves when `port` enters the egress program. -/
def egressPort (cfg : PsidConfig) (port : U16) : Result U16 :=
  if cfg.offset = 0 then some port else (egressPsidVal cfg port).map (·.getD port)

/-- The port that is delivered when `port` enters the ingress program. -/
def ingressPort (cfg : PsidConfig) (port : U16) : Result U16 :=
  if cfg.offset = 0 then some port else (ingressStagingVal cfg port).map (·.getD port)

namespace PsidConfig

variable {cfg : PsidConfig}

/-- The blocks of the PSID: row one to `2 ^ a - 1`, with the PSID bits set. -/
def InBlocks (cfg : PsidConfig) (port : U16) : Prop :=
  port.toNat ∈ Radix.blocks cfg.psids cfg.blockSize cfg.rows cfg.psid.toNat

theorem Coherent.shift_le (h : cfg.Coherent) : cfg.blockShift.toNat ≤ 15 := by
  have := h.blockShift
  have := h.offset_pos
  omega

/-- The mask of the lowest digit, computed without an overflow. -/
theorem Coherent.exists_blockMask (h : cfg.Coherent) :
    ∃ size : U16, shl (1 : U16) (cfg.blockShift.setWidth 16) = some size ∧
      (size - 1).toNat = 2 ^ cfg.blockShift.toNat - 1 := by
  have hShift := h.shift_le
  have hPow : 2 ^ cfg.blockShift.toNat < 2 ^ 16 := Nat.pow_lt_pow_right (by decide) (by omega)
  obtain ⟨size, hSize, hNat⟩ := exists_shl (x := (1 : U16)) (n := cfg.blockShift.setWidth 16)
    (by rw [toNat_widen]; omega) (by rw [toNat_widen]; exact lt_of_eq_of_lt (Nat.one_mul _) hPow)
  rw [toNat_widen] at hNat
  replace hNat : size.toNat = 2 ^ cfg.blockShift.toNat := hNat.trans (Nat.one_mul _)
  have hOne : (1 : U16) ≤ size := by
    rw [BitVec.le_def, hNat]
    exact Nat.one_le_two_pow
  exact ⟨size, hSize, by rw [BitVec.toNat_sub_of_le hOne, hNat]; rfl⟩

/-- The sum of `try_egress` as a three-digit number: no bit is shifted out and
the additions stay below `2 ^ 16`. -/
theorem Coherent.exists_psidVal (h : cfg.Coherent) {r j : U16} (hRow : r.toNat ≤ cfg.rows)
    (hLow : j.toNat < cfg.blockSize) :
    ∃ amount row block sum z : U16, sub (16 : U16) (cfg.offset.setWidth 16) = some amount ∧
      shl r amount = some row ∧ shl cfg.psid (cfg.blockShift.setWidth 16 : U16) = some block ∧
      add row block = some sum ∧ add sum j = some z ∧
      z.toNat = Radix.join cfg.psids cfg.blockSize r.toNat cfg.psid.toNat j.toNat := by
  have hFits := h.fits
  have hPos := h.offset_pos
  have hShift := h.shift_le
  have hBound : Radix.join cfg.psids cfg.blockSize r.toNat cfg.psid.toNat j.toNat < 2 ^ 16 := by
    rw [← h.rows_fill]
    exact Radix.join_lt (Nat.lt_succ_of_le hRow) h.psid_lt hLow
  have hJoin : Radix.join cfg.psids cfg.blockSize r.toNat cfg.psid.toNat j.toNat =
      r.toNat * 2 ^ (16 - cfg.offset.toNat) + cfg.psid.toNat * cfg.blockSize + j.toNat := by
    rw [← h.row_width, Radix.join]
    ring
  rw [hJoin] at hBound
  obtain ⟨amount, hAmount, hAmountNat⟩ := exists_rowShift cfg.offset (by omega)
  obtain ⟨row, hRowShl, hRowNat⟩ := exists_shl (x := r) (n := amount) (by omega)
    (by rw [hAmountNat]; omega)
  rw [hAmountNat] at hRowNat
  have hWiden := toNat_widen cfg.blockShift
  obtain ⟨block, hBlock, hBlockNat⟩ := exists_shl (x := cfg.psid)
    (n := (cfg.blockShift.setWidth 16 : U16)) (by omega)
    (by rw [hWiden]; exact lt_of_le_of_lt (by unfold blockSize; omega) hBound)
  rw [hWiden] at hBlockNat
  replace hBlockNat : block.toNat = cfg.psid.toNat * cfg.blockSize := hBlockNat
  obtain ⟨sum, hSum, hSumNat⟩ := exists_add (x := row) (y := block) (by omega)
  obtain ⟨z, hz, hzNat⟩ := exists_add (x := sum) (y := j) (by omega)
  exact ⟨amount, row, block, sum, z, hAmount, hRowShl, hBlock, hSum, hz,
    by rw [hzNat, hSumNat, hRowNat, hBlockNat, hJoin]⟩

theorem Coherent.rows_lt (h : cfg.Coherent) : cfg.rows < 2 ^ 16 := by
  have hFits := h.fits
  have hPow : 2 ^ cfg.offset.toNat ≤ 2 ^ 16 := Nat.pow_le_pow_right (by decide) (by omega)
  have hPos := Nat.two_pow_pos cfg.offset.toNat
  unfold rows
  omega

/-- Inside the staging range egress computes `Radix.spread`. -/
theorem Coherent.egressPsidVal_staging (h : cfg.Coherent) {s : U16} (hs : cfg.Staging s) :
    ∃ p : U16, egressPsidVal cfg s = some (some p) ∧
      p.toNat = Radix.spread cfg.psids cfg.blockSize cfg.psid.toNat s.toNat := by
  have hCompact := (h.staging_iff s).mp hs
  have hInside : ¬ (s < cfg.stagingMin ∨ s > cfg.stagingMax) := by
    obtain ⟨hMin, hMax⟩ := hs
    simp only [BitVec.le_def] at hMin hMax
    simp only [gt_iff_lt, BitVec.lt_def]
    omega
  have hShift := h.shift_le
  have hWiden := toNat_widen cfg.blockShift
  obtain ⟨size, hSize, hMask⟩ := h.exists_blockMask
  obtain ⟨idx, hIdx, hIdxNat⟩ := exists_sub (x := s) (y := cfg.stagingMin) hs.1
  rw [h.stagingMin] at hIdxNat
  obtain ⟨quot, hQuot, hQuotNat⟩ := exists_shr (x := idx) (n := (cfg.blockShift.setWidth 16 : U16))
    (by omega)
  rw [hWiden, hIdxNat] at hQuotNat
  replace hQuotNat :
      quot.toNat = (s.toNat - cfg.psids * cfg.blockSize) / cfg.blockSize := hQuotNat
  have hQuotLt : quot.toNat < cfg.rows := by
    rw [hQuotNat, Nat.div_lt_iff_lt_mul cfg.blockSize_pos]
    have := hCompact.1
    have := hCompact.2
    omega
  have hRows := h.rows_lt
  obtain ⟨r, hr, hrNat⟩ := exists_add (x := quot) (y := (1 : U16))
    (by rw [show (1 : U16).toNat = 1 from rfl]; omega)
  replace hrNat : r.toNat = quot.toNat + 1 := hrNat
  have hLowNat : (idx &&& (size - 1)).toNat = (s.toNat - cfg.psids * cfg.blockSize) % cfg.blockSize := by
    rw [toNat_and_mask _ _ _ hMask, hIdxNat]
    rfl
  have hLow : (idx &&& (size - 1)).toNat < cfg.blockSize :=
    hLowNat ▸ Nat.mod_lt _ cfg.blockSize_pos
  obtain ⟨amount, row, block, sum, p, hAmount, hRow, hBlock, hSum, hp, hpNat⟩ :=
    h.exists_psidVal (r := r) (by omega) hLow
  refine ⟨p, ?_, ?_⟩
  · simp only [egressPsidVal, hInside, hSize, hIdx, hQuot, hr, hAmount, hRow, hBlock, hSum, hp,
      Option.bind_eq_bind, Option.bind_some, if_false, pure]
  · rw [hpNat, hrNat, hQuotNat, hLowNat]
    rfl

/-- Ports outside the staging range pass through unchanged. -/
theorem egressPsidVal_outside {s : U16} (hs : ¬ cfg.Staging s) :
    egressPsidVal cfg s = some none := by
  have hOutside : s < cfg.stagingMin ∨ s > cfg.stagingMax := by
    simp only [Staging, BitVec.le_def] at hs
    simp only [gt_iff_lt, BitVec.lt_def]
    omega
  simp only [egressPsidVal, hOutside, if_true, pure]

/-- The highest digit of a port, `R`. -/
theorem Coherent.exists_row (h : cfg.Coherent) (p : U16) :
    ∃ amount r : U16, sub (16 : U16) (cfg.offset.setWidth 16) = some amount ∧
      shr p amount = some r ∧ r.toNat = Radix.high cfg.psids cfg.blockSize p.toNat := by
  have hFits := h.fits
  have hPos := h.offset_pos
  obtain ⟨amount, hAmount, hAmountNat⟩ := exists_rowShift cfg.offset (by omega)
  obtain ⟨r, hr, hrNat⟩ := exists_shr (x := p) (n := amount) (by omega)
  refine ⟨amount, r, hAmount, hr, ?_⟩
  rw [hrNat, hAmountNat, ← h.row_width, Radix.high_eq_div]

/-- The digit in the middle, which ingress compares with the PSID. -/
theorem Coherent.exists_psidBits (h : cfg.Coherent) (p : U16) :
    ∃ shifted one mask : U16, shr p (cfg.blockShift.setWidth 16 : U16) = some shifted ∧
      shl (1 : U16) cfg.length = some one ∧ sub one 1 = some mask ∧
      (shifted &&& mask).toNat = Radix.mid cfg.psids cfg.blockSize p.toNat := by
  have hFits := h.fits
  have hPos := h.offset_pos
  have hShift := h.shift_le
  have hWiden := toNat_widen cfg.blockShift
  obtain ⟨shifted, hShifted, hShiftedNat⟩ := exists_shr (x := p)
    (n := (cfg.blockShift.setWidth 16 : U16)) (by omega)
  rw [hWiden] at hShiftedNat
  have hPow : 2 ^ cfg.length.toNat < 2 ^ 16 := Nat.pow_lt_pow_right (by decide) (by omega)
  obtain ⟨one, hOne, hOneNat⟩ := exists_shl (x := (1 : U16)) (n := cfg.length) (by omega)
    (lt_of_eq_of_lt (Nat.one_mul _) hPow)
  replace hOneNat : one.toNat = 2 ^ cfg.length.toNat := hOneNat.trans (Nat.one_mul _)
  obtain ⟨mask, hMask, hMaskNat⟩ := exists_sub (x := one) (y := (1 : U16))
    (by rw [hOneNat]; exact Nat.one_le_two_pow)
  rw [hOneNat] at hMaskNat
  exact ⟨shifted, one, mask, hShifted, hOne, hMask,
    by rw [toNat_and_mask _ _ _ hMaskNat, hShiftedNat]; rfl⟩

/-- A port of 16 bits lies in one of the rows. -/
theorem Coherent.high_le (h : cfg.Coherent) (p : U16) :
    Radix.high cfg.psids cfg.blockSize p.toNat ≤ cfg.rows := by
  rw [Radix.high_eq_div]
  refine Nat.le_of_lt_succ ((Nat.div_lt_iff_lt_mul ?_).mpr ?_)
  · exact Nat.mul_pos cfg.psids_pos cfg.blockSize_pos
  · rw [Nat.succ_eq_add_one, h.rows_fill]
    exact p.isLt

theorem Coherent.inBlocks_iff (h : cfg.Coherent) (p : U16) :
    cfg.InBlocks p ↔ 1 ≤ Radix.high cfg.psids cfg.blockSize p.toNat ∧
      Radix.mid cfg.psids cfg.blockSize p.toNat = cfg.psid.toNat :=
  ⟨fun ⟨hOne, _, hMid⟩ => ⟨hOne, hMid⟩, fun ⟨hOne, hMid⟩ => ⟨hOne, h.high_le p, hMid⟩⟩

/-- On a port of the PSID ingress computes `Radix.gather`. -/
theorem Coherent.ingressStagingVal_inBlocks (h : cfg.Coherent) {p : U16} (hp : cfg.InBlocks p) :
    ∃ s : U16, ingressStagingVal cfg p = some (some s) ∧
      s.toNat = Radix.gather cfg.psids cfg.blockSize p.toNat := by
  obtain ⟨hOne, hMid⟩ := (h.inBlocks_iff p).mp hp
  have hCompact := Radix.gather_mem cfg.blockSize_pos hp
  have hMax := h.stagingMax
  have hShift := h.shift_le
  have hWiden := toNat_widen cfg.blockShift
  obtain ⟨size, hSize, hMask⟩ := h.exists_blockMask
  obtain ⟨amount, r, hAmount, hr, hrNat⟩ := h.exists_row p
  obtain ⟨shifted, one, mask, hShifted, hOneShl, hMaskSub, hBits⟩ := h.exists_psidBits p
  have hRow : ¬ r = 0 := by
    rintro rfl
    exact absurd hOne (by rw [← hrNat]; decide)
  have hOwn : shifted &&& mask = cfg.psid := BitVec.eq_of_toNat_eq (by rw [hBits, hMid])
  obtain ⟨rowIndex, hRowIndex, hRowIndexNat⟩ := exists_sub (x := r) (y := (1 : U16))
    (by rw [hrNat]; exact hOne)
  replace hRowIndexNat : rowIndex.toNat = Radix.high cfg.psids cfg.blockSize p.toNat - 1 := by
    rw [hRowIndexNat, hrNat]
    rfl
  have hGather : Radix.gather cfg.psids cfg.blockSize p.toNat = cfg.psids * cfg.blockSize +
      (rowIndex.toNat * cfg.blockSize + Radix.low cfg.blockSize p.toNat) := by
    rw [hRowIndexNat]
    rfl
  have hTop : Radix.gather cfg.psids cfg.blockSize p.toNat < 2 ^ 16 := by
    have := hCompact.2
    have := cfg.stagingMax.isLt
    omega
  obtain ⟨high, hHigh, hHighNat⟩ := exists_shl (x := rowIndex)
    (n := (cfg.blockShift.setWidth 16 : U16)) (by omega)
    (by rw [hWiden]; change rowIndex.toNat * cfg.blockSize < 2 ^ 16; omega)
  rw [hWiden] at hHighNat
  have hLowNat : (p &&& (size - 1)).toNat = Radix.low cfg.blockSize p.toNat := by
    rw [toNat_and_mask _ _ _ hMask]
    rfl
  have hIdxNat : (high ||| (p &&& (size - 1))).toNat =
      rowIndex.toNat * cfg.blockSize + Radix.low cfg.blockSize p.toNat := by
    rw [toNat_or_low _ _ cfg.blockShift.toNat rowIndex.toNat hHighNat, hLowNat]
    · rfl
    · rw [hLowNat]
      exact Radix.low_lt cfg.blockSize_pos _
  obtain ⟨s, hs, hsNat⟩ := exists_add (x := cfg.stagingMin) (y := high ||| (p &&& (size - 1)))
    (by rw [h.stagingMin, hIdxNat]; omega)
  refine ⟨s, ?_, ?_⟩
  · simp only [ingressStagingVal, hSize, hAmount, hr, hRow, hShifted, hOneShl, hMaskSub, hOwn,
      hRowIndex, hHigh, hs, Option.bind_eq_bind, Option.bind_some, if_false, ne_eq,
      not_true_eq_false, pure]
  · rw [hsNat, h.stagingMin, hIdxNat, hGather]

/-- Every other port passes, and the checks before that do not panic. -/
theorem Coherent.ingressStagingVal_outside (h : cfg.Coherent) {p : U16} (hp : ¬ cfg.InBlocks p) :
    ingressStagingVal cfg p = some none := by
  rw [h.inBlocks_iff] at hp
  obtain ⟨size, hSize, -⟩ := h.exists_blockMask
  obtain ⟨amount, r, hAmount, hr, hrNat⟩ := h.exists_row p
  obtain ⟨shifted, one, mask, hShifted, hOneShl, hMaskSub, hBits⟩ := h.exists_psidBits p
  by_cases hRow : r = 0
  · simp only [ingressStagingVal, hSize, hAmount, hr, hRow, Option.bind_eq_bind, Option.bind_some,
      if_true, pure]
  · have hForeign : shifted &&& mask ≠ cfg.psid := by
      intro hOwn
      refine hp ⟨?_, by rw [← hBits, hOwn]⟩
      have hNonzero : r.toNat ≠ 0 := fun hZero => hRow (BitVec.eq_of_toNat_eq hZero)
      omega
    simp only [ingressStagingVal, hSize, hAmount, hr, hRow, hShifted, hOneShl, hMaskSub, hForeign,
      Option.bind_eq_bind, Option.bind_some, if_false, if_true, ne_eq, not_false_eq_true, pure]

/-- `InBlocks` in the words of the documentation: `R * 2^(16-a) + psid * 2^(16-a-k) + j`. -/
def psidPorts (a k psid : Nat) : Set U16 :=
  {p | ∃ r j, 1 ≤ r ∧ r ≤ 2 ^ a - 1 ∧ j < 2 ^ (16 - a - k) ∧
    p.toNat = r * 2 ^ (16 - a) + psid * 2 ^ (16 - a - k) + j}

/-- The blocks of the configuration are the ports of the PSID. -/
theorem Coherent.inBlocks_iff_mem (h : cfg.Coherent) (p : U16) :
    cfg.InBlocks p ↔ p ∈ psidPorts cfg.offset.toNat cfg.length.toNat cfg.psid.toNat := by
  have hJoin (r j : Nat) : Radix.join cfg.psids cfg.blockSize r cfg.psid.toNat j =
      r * 2 ^ (16 - cfg.offset.toNat) +
        cfg.psid.toNat * 2 ^ (16 - cfg.offset.toNat - cfg.length.toNat) + j := by
    rw [← h.row_width, ← h.blockShift, Radix.join, blockSize]
    ring
  rw [InBlocks, Radix.mem_blocks_iff h.psid_lt cfg.blockSize_pos]
  simp only [hJoin]
  rw [blockSize, h.blockShift]
  rfl

theorem Coherent.offset_ne_zero (h : cfg.Coherent) : cfg.offset ≠ 0 := by
  intro hZero
  have hPos := h.offset_pos
  rw [hZero] at hPos
  exact absurd hPos (by decide)

theorem Coherent.egressPort_staging (h : cfg.Coherent) {s : U16} (hs : cfg.Staging s) :
    ∃ p : U16, egressPort cfg s = some p ∧
      p.toNat = Radix.spread cfg.psids cfg.blockSize cfg.psid.toNat s.toNat := by
  obtain ⟨p, hp, hNat⟩ := h.egressPsidVal_staging hs
  exact ⟨p, by rw [egressPort, if_neg h.offset_ne_zero, hp]; rfl, hNat⟩

theorem Coherent.ingressPort_inBlocks (h : cfg.Coherent) {p : U16} (hp : cfg.InBlocks p) :
    ∃ s : U16, ingressPort cfg p = some s ∧
      s.toNat = Radix.gather cfg.psids cfg.blockSize p.toNat := by
  obtain ⟨s, hs, hNat⟩ := h.ingressStagingVal_inBlocks hp
  exact ⟨s, by rw [ingressPort, if_neg h.offset_ne_zero, hs]; rfl, hNat⟩

theorem Coherent.egressPort_outside (h : cfg.Coherent) {s : U16} (hs : ¬ cfg.Staging s) :
    egressPort cfg s = some s := by
  rw [egressPort, if_neg h.offset_ne_zero, egressPsidVal_outside hs]
  rfl

theorem Coherent.ingressPort_outside (h : cfg.Coherent) {p : U16} (hp : ¬ cfg.InBlocks p) :
    ingressPort cfg p = some p := by
  rw [ingressPort, if_neg h.offset_ne_zero, h.ingressStagingVal_outside hp]
  rfl

/-- Ingress undoes egress on the staging range. -/
theorem Coherent.ingress_egress (h : cfg.Coherent) {s : U16} (hs : cfg.Staging s) :
    ∃ p, egressPort cfg s = some p ∧ cfg.InBlocks p ∧ ingressPort cfg p = some s := by
  have hCompact := (h.staging_iff s).mp hs
  obtain ⟨p, hp, hNat⟩ := h.egressPort_staging hs
  have hIn : cfg.InBlocks p := by
    rw [InBlocks, hNat]
    exact Radix.spread_mem h.psid_lt cfg.blockSize_pos hCompact
  obtain ⟨back, hBack, hBackNat⟩ := h.ingressPort_inBlocks hIn
  rw [hNat, Radix.gather_spread h.psid_lt cfg.blockSize_pos hCompact] at hBackNat
  exact ⟨p, hp, hIn, by rw [hBack, BitVec.eq_of_toNat_eq hBackNat]⟩

/-- Egress undoes ingress on the port blocks. -/
theorem Coherent.egress_ingress (h : cfg.Coherent) {p : U16} (hp : cfg.InBlocks p) :
    ∃ s, ingressPort cfg p = some s ∧ cfg.Staging s ∧ egressPort cfg s = some p := by
  obtain ⟨s, hs, hNat⟩ := h.ingressPort_inBlocks hp
  have hStaging : cfg.Staging s := by
    rw [h.staging_iff, hNat]
    exact Radix.gather_mem cfg.blockSize_pos hp
  obtain ⟨back, hBack, hBackNat⟩ := h.egressPort_staging hStaging
  rw [hNat, Radix.spread_gather cfg.blockSize_pos hp] at hBackNat
  exact ⟨s, hs, hStaging, by rw [hBack, BitVec.eq_of_toNat_eq hBackNat]⟩

/-- Egress takes the staging range onto the blocks, one to one. -/
theorem Coherent.egressPort_bijOn (h : cfg.Coherent) :
    Set.BijOn (egressPort cfg) {s | cfg.Staging s} (some '' {p | cfg.InBlocks p}) := by
  refine ⟨?_, ?_, ?_⟩
  · intro s hs
    obtain ⟨p, hp, hIn, -⟩ := h.ingress_egress hs
    exact ⟨p, hIn, hp.symm⟩
  · intro s hs s' hs' hEq
    obtain ⟨p, hp, -, hBack⟩ := h.ingress_egress hs
    obtain ⟨p', hp', -, hBack'⟩ := h.ingress_egress hs'
    rw [hp, hp'] at hEq
    cases hEq
    exact Option.some.inj (hBack.symm.trans hBack')
  · rintro _ ⟨p, hIn, rfl⟩
    obtain ⟨s, -, hStaging, hp⟩ := h.egress_ingress hIn
    exact ⟨s, hStaging, hp⟩

/-- There are as many staging ports as the CE has ports. -/
theorem Coherent.staging_ncard (h : cfg.Coherent) :
    Set.ncard {s | cfg.Staging s} = cfg.rows * cfg.blockSize := by
  have hImage : BitVec.toNat '' {s | cfg.Staging s} =
      ((Finset.Ico (cfg.psids * cfg.blockSize)
        (cfg.psids * cfg.blockSize + cfg.rows * cfg.blockSize) : Finset Nat) : Set Nat) := by
    ext n
    rw [Finset.coe_Ico]
    constructor
    · rintro ⟨s, hs, rfl⟩
      exact (h.staging_iff s).mp hs
    · intro hn
      have hMax := h.stagingMax
      have hLt := cfg.stagingMax.isLt
      have hFits : n < 2 ^ 16 := by
        have := hn.2
        omega
      have hNat : (BitVec.ofNat 16 n).toNat = n := Nat.mod_eq_of_lt hFits
      exact ⟨BitVec.ofNat 16 n, (h.staging_iff _).mpr (by rwa [hNat]), hNat⟩
  have hInjective : Function.Injective (BitVec.toNat : U16 → Nat) := fun _ _ => BitVec.eq_of_toNat_eq
  rw [← Set.ncard_image_of_injective _ hInjective, hImage, Set.ncard_coe_finset, Nat.card_Ico]
  omega

/-- No step of the arithmetic overflows, for whatever port. -/
theorem Coherent.egressPort_isSome (h : cfg.Coherent) (port : U16) :
    (egressPort cfg port).isSome := by
  by_cases hs : cfg.Staging port
  · obtain ⟨p, hp, -⟩ := h.egressPort_staging hs
    rw [hp]
    rfl
  · rw [h.egressPort_outside hs]
    rfl

theorem Coherent.ingressPort_isSome (h : cfg.Coherent) (port : U16) :
    (ingressPort cfg port).isSome := by
  by_cases hp : cfg.InBlocks port
  · obtain ⟨s, hs, -⟩ := h.ingressPort_inBlocks hp
    rw [hs]
    rfl
  · rw [h.ingressPort_outside hp]
    rfl

end PsidConfig

/-- The translation for every `a ≥ 1` and `a + k ≤ 16`: `try_new` yields the
untruncated staging interval, egress maps it bijectively onto the ports of the
PSID, ingress inverts it, and no arithmetic step leaves its width on any port. -/
theorem translation_bijection (offset length : U8) (psid : U16) (hOffset : 1 ≤ offset.toNat)
    (hFits : offset.toNat + length.toNat ≤ 16) (hPsid : psid.toNat < 2 ^ length.toNat) :
    ∃ cfg, PsidConfig.tryNew offset length psid = some (some cfg) ∧
      cfg.stagingMin.toNat = 2 ^ (16 - offset.toNat) ∧
      cfg.stagingMax.toNat = 2 ^ (16 - offset.toNat) +
        (2 ^ offset.toNat - 1) * 2 ^ (16 - offset.toNat - length.toNat) - 1 ∧
      Set.ncard {s | cfg.Staging s} =
        (2 ^ offset.toNat - 1) * 2 ^ (16 - offset.toNat - length.toNat) ∧
      Set.BijOn (egressPort cfg) {s | cfg.Staging s}
        (some '' PsidConfig.psidPorts offset.toNat length.toNat psid.toNat) ∧
      (∀ s, cfg.Staging s → (egressPort cfg s).bind (ingressPort cfg) = some s) ∧
      (∀ p ∈ PsidConfig.psidPorts offset.toNat length.toNat psid.toNat,
        (ingressPort cfg p).bind (egressPort cfg) = some p) ∧
      ∀ port, (egressPort cfg port).isSome ∧ (ingressPort cfg port).isSome := by
  obtain ⟨cfg, hNew, h, rfl, rfl, rfl⟩ := PsidConfig.tryNew_coherent _ _ psid hOffset hFits hPsid
  have hPorts : {p | cfg.InBlocks p} =
      PsidConfig.psidPorts cfg.offset.toNat cfg.length.toNat cfg.psid.toNat :=
    Set.ext h.inBlocks_iff_mem
  have hSize : cfg.rows * cfg.blockSize =
      (2 ^ cfg.offset.toNat - 1) * 2 ^ (16 - cfg.offset.toNat - cfg.length.toNat) := by
    rw [← h.blockShift]
    rfl
  have hMax := h.stagingMax
  rw [hSize, h.row_width] at hMax
  refine ⟨cfg, hNew, h.stagingMin.trans h.row_width, by omega, h.staging_ncard.trans hSize,
    hPorts ▸ h.egressPort_bijOn, ?_, ?_, ?_⟩
  · intro s hs
    obtain ⟨p, hp, -, hBack⟩ := h.ingress_egress hs
    rw [hp, Option.bind_some, hBack]
  · intro p hp
    obtain ⟨s, hs, -, hBack⟩ := h.egress_ingress ((h.inBlocks_iff_mem p).mpr hp)
    rw [hs, Option.bind_some, hBack]
  · exact fun port => ⟨h.egressPort_isSome port, h.ingressPort_isSome port⟩

/-- Four offset and eight PSID bits, and the extreme of sixteen offset bits. -/
theorem translation_bijection_extremes :
    (∃ cfg, PsidConfig.tryNew 4 8 5 = some (some cfg) ∧
      ∀ s, cfg.Staging s → (egressPort cfg s).bind (ingressPort cfg) = some s) ∧
    (∃ cfg, PsidConfig.tryNew 16 0 0 = some (some cfg) ∧
      ∀ s, cfg.Staging s → (egressPort cfg s).bind (ingressPort cfg) = some s) := by
  refine ⟨?_, ?_⟩
  · obtain ⟨cfg, hNew, -, -, -, -, hInverse, -⟩ :=
      translation_bijection 4 8 5 (by decide) (by decide) (by decide)
    exact ⟨cfg, hNew, hInverse⟩
  · obtain ⟨cfg, hNew, -, -, -, -, hInverse, -⟩ :=
      translation_bijection 16 0 0 (by decide) (by decide) (by decide)
    exact ⟨cfg, hNew, hInverse⟩

end Mapecd
