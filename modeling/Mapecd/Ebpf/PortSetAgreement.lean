import Mapecd.Ebpf.Translation
import Mapecd.Map.PortSet

/-! The daemon's port list against the ports of the two TC programs. The daemon
puts the PSID into the low bits of a port, the programs put it into the middle
bits, so the two sets differ for almost all parameters. -/
namespace Mapecd

/-- The values that egress writes for the staging ports. -/
def egressImage (cfg : PsidConfig) : Set U16 :=
  {p | ∃ s, cfg.Staging s ∧ egressPsidVal cfg s = some (some p)}

/-- The ports that ingress rewrites. -/
def ingressAccepted (cfg : PsidConfig) : Set U16 :=
  {p | ∃ s, ingressStagingVal cfg p = some (some s)}

namespace PsidConfig

variable {cfg : PsidConfig}

/-- Egress sends from the ports of the blocks. -/
theorem Coherent.mem_egressImage (h : cfg.Coherent) (p : U16) :
    p ∈ egressImage cfg ↔ cfg.InBlocks p := by
  constructor
  · rintro ⟨s, hs, hp⟩
    obtain ⟨p', hp', hNat⟩ := h.egressPsidVal_staging hs
    cases hp.symm.trans hp'
    rw [InBlocks, hNat]
    exact Radix.spread_mem h.psid_lt cfg.blockSize_pos ((h.staging_iff s).mp hs)
  · intro hp
    obtain ⟨s, -, hs, hBack⟩ := h.egress_ingress hp
    obtain ⟨p', hp', -⟩ := h.egressPsidVal_staging hs
    have hPort : egressPort cfg s = some p' := by
      rw [egressPort, if_neg h.offset_ne_zero, hp']
      rfl
    cases hBack.symm.trans hPort
    exact ⟨s, hs, hp'⟩

/-- Ingress translates the ports of the blocks. -/
theorem Coherent.mem_ingressAccepted (h : cfg.Coherent) (p : U16) :
    p ∈ ingressAccepted cfg ↔ cfg.InBlocks p := by
  constructor
  · rintro ⟨s, hs⟩
    by_contra hOutside
    exact absurd (hs.symm.trans (h.ingressStagingVal_outside hOutside)) (by simp)
  · intro hp
    obtain ⟨s, hs, -⟩ := h.ingressStagingVal_inBlocks hp
    exact ⟨s, hs⟩

/-- The first block of the PSID is never empty. -/
theorem Coherent.exists_first_block (h : cfg.Coherent) {j : Nat} (hj : j < cfg.blockSize) :
    ∃ p : U16, cfg.InBlocks p ∧
      p.toNat = cfg.psids * cfg.blockSize + cfg.psid.toNat * cfg.blockSize + j := by
  have hJoin : Radix.join cfg.psids cfg.blockSize 1 cfg.psid.toNat j =
      cfg.psids * cfg.blockSize + cfg.psid.toNat * cfg.blockSize + j := by
    rw [Radix.join]
    ring
  have hBound := Radix.join_lt (Nat.lt_succ_of_le h.rows_pos) h.psid_lt hj
  rw [Nat.succ_eq_add_one, h.rows_fill] at hBound
  have hNat : (BitVec.ofNat 16 (Radix.join cfg.psids cfg.blockSize 1 cfg.psid.toNat j)).toNat =
      Radix.join cfg.psids cfg.blockSize 1 cfg.psid.toNat j := Nat.mod_eq_of_lt hBound
  refine ⟨_, ?_, hNat.trans hJoin⟩
  rw [InBlocks, hNat, Radix.mem_blocks_iff h.psid_lt cfg.blockSize_pos]
  exact ⟨1, j, Nat.le_refl 1, h.rows_pos, hj, rfl⟩

/-- A single PSID leaves only the bound on the row. -/
theorem Coherent.inBlocks_of_single (h : cfg.Coherent) (hLength : cfg.length = 0) (p : U16) :
    cfg.InBlocks p ↔ 2 ^ (16 - cfg.offset.toNat) ≤ p.toNat := by
  have hPsids : cfg.psids = 1 := by rw [psids, hLength]; rfl
  have hPsid : cfg.psid.toNat = 0 := by
    have := h.psid_lt
    omega
  have hMid : Radix.mid cfg.psids cfg.blockSize p.toNat = cfg.psid.toNat := by
    rw [hPsids, hPsid, Radix.mid, Nat.mod_one]
  have hWidth := h.row_width
  have hPos : 0 < cfg.psids * cfg.blockSize := Nat.mul_pos cfg.psids_pos cfg.blockSize_pos
  rw [h.inBlocks_iff, and_iff_left hMid, Radix.high_eq_div, Nat.le_div_iff_mul_le hPos, hWidth,
    Nat.one_mul]

/-- Two neighbouring ports of one block cannot both carry the PSID in their low
bits, and without PSID bits the two sets start at `2 ^ a` and at `2 ^ (16 - a)`. -/
theorem Coherent.low_bits_iff (h : cfg.Coherent) :
    (∀ p : U16, 2 ^ (cfg.offset.toNat + cfg.length.toNat) ≤ p.toNat ∧
      p.toNat % 2 ^ cfg.length.toNat = cfg.psid.toNat ↔ cfg.InBlocks p) ↔
        cfg.offset = 8 ∧ cfg.length = 0 := by
  have hPos := h.offset_pos
  have hFits := h.fits
  have hShift := h.blockShift
  constructor
  · intro hSame
    have hSplit : cfg.offset.toNat + cfg.length.toNat < 16 := by
      by_contra hFull
      obtain ⟨p, hIn, -⟩ := h.exists_first_block cfg.blockSize_pos
      have hLow := ((hSame p).mpr hIn).1
      rw [show cfg.offset.toNat + cfg.length.toNat = 16 by omega] at hLow
      exact absurd p.isLt (Nat.not_lt.mpr hLow)
    have hLength : cfg.length.toNat = 0 := by
      by_contra hNonzero
      have hBlock : 2 ^ 1 ≤ cfg.blockSize := Nat.pow_le_pow_right (by decide) (by omega)
      have hPsids : 2 ^ 1 ≤ 2 ^ cfg.length.toNat := Nat.pow_le_pow_right (by decide) (by omega)
      obtain ⟨p, hp, hpNat⟩ := h.exists_first_block (j := 0) (by omega)
      obtain ⟨p', hp', hpNat'⟩ := h.exists_first_block (j := 1) (by omega)
      have hMod := ((hSame p).mpr hp).2
      have hMod' := ((hSame p').mpr hp').2
      have hNext : p'.toNat = p.toNat + 1 := by omega
      have hCongr : p.toNat + 1 ≡ p.toNat + 0 [MOD 2 ^ cfg.length.toNat] :=
        hNext ▸ hMod'.trans hMod.symm
      have hOne := Nat.ModEq.add_left_cancel' _ hCongr
      rw [Nat.ModEq, Nat.mod_eq_of_lt (by omega), Nat.zero_mod] at hOne
      exact absurd hOne (by decide)
    have hZero : cfg.length = 0 := BitVec.eq_of_toNat_eq hLength
    have hStart (n : Nat) (hn : n < 16) :
        ∃ p : U16, p.toNat = 2 ^ n ∧ p.toNat % 2 ^ cfg.length.toNat = cfg.psid.toNat := by
      have hLt : 2 ^ n < 2 ^ 16 := Nat.pow_lt_pow_right (by decide) hn
      have hPsid := h.psid_lt
      rw [psids, hLength, pow_zero] at hPsid
      exact ⟨BitVec.ofNat 16 (2 ^ n), Nat.mod_eq_of_lt hLt, by rw [hLength, pow_zero, Nat.mod_one]; omega⟩
    obtain ⟨p, hpNat, hpMod⟩ := hStart cfg.offset.toNat (by omega)
    obtain ⟨p', hpNat', hpMod'⟩ := hStart (16 - cfg.offset.toNat) (by omega)
    have hUpper := (h.inBlocks_of_single hZero p).mp
      ((hSame p).mp ⟨by rw [hpNat, hLength, Nat.add_zero], hpMod⟩)
    have hLower := ((hSame p').mpr ((h.inBlocks_of_single hZero p').mpr hpNat'.ge)).1
    rw [hpNat, Nat.pow_le_pow_iff_right (by decide)] at hUpper
    rw [hpNat', Nat.pow_le_pow_iff_right (by decide)] at hLower
    refine ⟨BitVec.eq_of_toNat_eq ?_, hZero⟩
    rw [show (8 : U8).toNat = 8 from rfl]
    omega
  · rintro ⟨hOffset, hLength⟩ p
    have hPsid := h.psid_lt
    rw [psids, hLength] at hPsid
    rw [h.inBlocks_of_single hLength, hOffset, hLength]
    constructor
    · exact And.left
    · intro hLow
      refine ⟨hLow, (Nat.mod_one _).trans ?_⟩
      exact (Nat.lt_one_iff.mp hPsid).symm

end PsidConfig

/-- The three definitions of the port set agree for eight offset bits without
PSID bits, and for no other parameters. -/
theorem portSets_agree_iff (offset length : U8) (psid : U16) (hOffset : 1 ≤ offset.toNat)
    (hFits : offset.toNat + length.toNat ≤ 16) (hPsid : psid.toNat < 2 ^ length.toNat) :
    ∃ cfg ranges, PsidConfig.tryNew offset length psid = some (some cfg) ∧
      calcPortRanges ⟨offset, length⟩ psid = some ranges ∧
      ((covered ranges = egressImage cfg ∧ egressImage cfg = ingressAccepted cfg) ↔
        offset = 8 ∧ length = 0) := by
  obtain ⟨cfg, hNew, h, rfl, rfl, rfl⟩ := PsidConfig.tryNew_coherent _ _ psid hOffset hFits hPsid
  obtain ⟨ranges, hRanges, hCovered⟩ :=
    calcPortRanges_covered ⟨cfg.offset, cfg.length⟩ cfg.psid hFits hPsid
  refine ⟨cfg, ranges, hNew, hRanges, ?_⟩
  have hSame : egressImage cfg = ingressAccepted cfg :=
    Set.ext fun p => (h.mem_egressImage p).trans (h.mem_ingressAccepted p).symm
  rw [and_iff_left hSame, ← h.low_bits_iff, Set.ext_iff]
  exact forall_congr' fun p => iff_congr (hCovered p) (h.mem_egressImage p)

/-- With eight bits of offset and no PSID bits the three sets are the same. -/
theorem portSets_agree_iff_eight :
    ∃ cfg ranges, PsidConfig.tryNew 8 0 0 = some (some cfg) ∧
      calcPortRanges ⟨8, 0⟩ 0 = some ranges ∧
      covered ranges = egressImage cfg ∧ egressImage cfg = ingressAccepted cfg := by
  obtain ⟨cfg, ranges, hNew, hRanges, hIff⟩ :=
    portSets_agree_iff 8 0 0 (by decide) (by decide) (by decide)
  exact ⟨cfg, ranges, hNew, hRanges, hIff.mpr ⟨rfl, rfl⟩⟩

/-- Four offset bits, eight PSID bits, PSID 5: port `0x1005` is in the daemon's
set, egress never writes it and ingress passes it. -/
theorem portSets_differ :
    ∃ cfg ranges, PsidConfig.tryNew 4 8 5 = some (some cfg) ∧
      calcPortRanges ⟨4, 8⟩ 5 = some ranges ∧ (0x1005 : U16) ∈ covered ranges ∧
      (0x1005 : U16) ∉ egressImage cfg ∧ (0x1005 : U16) ∉ ingressAccepted cfg := by
  obtain ⟨cfg, hNew, h, hOffset, hLength, hPsid⟩ :=
    PsidConfig.tryNew_coherent 4 8 5 (by decide) (by decide) (by decide)
  obtain ⟨ranges, hRanges, hCovered⟩ := calcPortRanges_covered ⟨4, 8⟩ 5 (by decide) (by decide)
  have hOutside : ¬ cfg.InBlocks 0x1005 := by
    rw [h.inBlocks_iff, PsidConfig.psids, PsidConfig.blockSize, h.blockShift, hOffset, hLength, hPsid]
    decide
  exact ⟨cfg, ranges, hNew, hRanges, (hCovered _).mpr (by decide),
    fun hIn => hOutside ((h.mem_egressImage _).mp hIn),
    fun hIn => hOutside ((h.mem_ingressAccepted _).mp hIn)⟩

end Mapecd
