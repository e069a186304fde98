import Mapecd.Ebpf.ByteOrder

/-! Which arriving ports end in the staging range. A port of the CE is moved
there, every other port passes as it is, also if it is a staging port itself. -/
namespace Mapecd

open Checked

namespace PsidConfig

variable {cfg : PsidConfig}

/-- The port after ingress is a staging port for the ports of the CE and no others. -/
def Confined (cfg : PsidConfig) : Prop :=
  ∀ port, ∃ delivered, ingressPort cfg port = some delivered ∧
    (cfg.Staging delivered ↔ cfg.InBlocks port)

/-- Every port of the CE is moved into the staging range. -/
theorem Coherent.staging_of_inBlocks (h : cfg.Coherent) {port delivered : U16}
    (hPort : cfg.InBlocks port) (hDelivered : ingressPort cfg port = some delivered) :
    cfg.Staging delivered := by
  obtain ⟨s, hs, hStaging, -⟩ := h.egress_ingress hPort
  cases hs.symm.trans hDelivered
  exact hStaging

/-- A delivered port is a staging port if it came from the blocks or was one before. -/
theorem Coherent.delivered_staging_iff (h : cfg.Coherent) (port : U16) :
    ∃ delivered, ingressPort cfg port = some delivered ∧
      (cfg.Staging delivered ↔ cfg.InBlocks port ∨ cfg.Staging port) := by
  by_cases hPort : cfg.InBlocks port
  · obtain ⟨delivered, hDelivered, -⟩ := h.ingressPort_inBlocks hPort
    have hStaging := h.staging_of_inBlocks hPort hDelivered
    exact ⟨delivered, hDelivered, iff_of_true hStaging (Or.inl hPort)⟩
  · exact ⟨port, h.ingressPort_outside hPort, (or_iff_right hPort).symm⟩

/-- Two ports of the blocks are never delivered at the same staging port. -/
theorem Coherent.ingressPort_injOn (h : cfg.Coherent) :
    Set.InjOn (ingressPort cfg) {port | cfg.InBlocks port} := by
  intro port hPort other hOther hSame
  obtain ⟨s, hs, -, hBack⟩ := h.egress_ingress hPort
  obtain ⟨s', hs', -, hBack'⟩ := h.egress_ingress hOther
  rw [hs, hs'] at hSame
  cases hSame
  exact Option.some.inj (hBack.symm.trans hBack')

/-- Two ports share a staging port only if one of them is that port and passes. -/
theorem Coherent.collision (h : cfg.Coherent) {port other delivered : U16} (hNe : port ≠ other)
    (hPort : ingressPort cfg port = some delivered) (hOther : ingressPort cfg other = some delivered) :
    (cfg.InBlocks port ∧ ¬ cfg.InBlocks other ∧ other = delivered) ∨
      (cfg.InBlocks other ∧ ¬ cfg.InBlocks port ∧ port = delivered) := by
  by_cases hIn : cfg.InBlocks port
  · by_cases hInOther : cfg.InBlocks other
    · exact absurd (h.ingressPort_injOn hIn hInOther (hPort.trans hOther.symm)) hNe
    · have hPass := (h.ingressPort_outside hInOther).symm.trans hOther
      exact Or.inl ⟨hIn, hInOther, Option.some.inj hPass⟩
  · have hPass := Option.some.inj ((h.ingressPort_outside hIn).symm.trans hPort)
    by_cases hInOther : cfg.InBlocks other
    · exact Or.inr ⟨hInOther, hIn, hPass⟩
    · have hPassOther := Option.some.inj ((h.ingressPort_outside hInOther).symm.trans hOther)
      exact absurd (hPass.trans hPassOther.symm) hNe

/-- The first staging port of row `t + 1` has the middle digit `t`. -/
theorem Coherent.exists_staging_mid (h : cfg.Coherent) {t : Nat} (hRow : t < cfg.rows)
    (hMid : t < cfg.psids) :
    ∃ port : U16, cfg.Staging port ∧ Radix.mid cfg.psids cfg.blockSize port.toNat = t := by
  have hBlock : t * cfg.blockSize < cfg.rows * cfg.blockSize :=
    Nat.mul_lt_mul_of_pos_right hRow cfg.blockSize_pos
  have hMax := h.stagingMax
  have hMaxLt := cfg.stagingMax.isLt
  have hJoin : Radix.join cfg.psids cfg.blockSize 1 t 0 =
      cfg.psids * cfg.blockSize + t * cfg.blockSize := by
    rw [Radix.join]
    ring
  have hNat : (BitVec.ofNat 16 (Radix.join cfg.psids cfg.blockSize 1 t 0)).toNat =
      Radix.join cfg.psids cfg.blockSize 1 t 0 := Nat.mod_eq_of_lt (by omega)
  refine ⟨BitVec.ofNat 16 (Radix.join cfg.psids cfg.blockSize 1 t 0), ?_, ?_⟩
  · rw [h.staging_iff, hNat, hJoin]
    exact ⟨Nat.le_add_right _ _, Nat.add_lt_add_left hBlock _⟩
  · rw [hNat]
    exact Radix.mid_join hMid cfg.blockSize_pos

/-- The staging range starts with the ports of PSID zero and, from the second
row on, of PSID one. -/
theorem Coherent.exists_foreign_staging (h : cfg.Coherent) (hTrivial : ¬ cfg.Trivial) :
    ∃ port, cfg.Staging port ∧ ¬ cfg.InBlocks port := by
  have hPos := h.offset_pos
  have hLength : cfg.length.toNat ≠ 0 := fun hZero =>
    hTrivial (Or.inl (BitVec.eq_of_toNat_eq hZero))
  have hPsids : 2 ^ 1 ≤ cfg.psids := Nat.pow_le_pow_right Nat.two_pos (by omega)
  have hForeign {t : Nat} (hRow : t < cfg.rows) (hMid : t < cfg.psids) (hNe : t ≠ cfg.psid.toNat) :
      ∃ port, cfg.Staging port ∧ ¬ cfg.InBlocks port := by
    obtain ⟨port, hStaging, hDigit⟩ := h.exists_staging_mid hRow hMid
    refine ⟨port, hStaging, ?_⟩
    intro hIn
    exact hNe (hDigit.symm.trans ((h.inBlocks_iff port).mp hIn).2)
  by_cases hPsid : cfg.psid.toNat = 0
  · have hOffset : cfg.offset.toNat ≠ 1 := fun hOne =>
      hTrivial (Or.inr ⟨BitVec.eq_of_toNat_eq hOne, BitVec.eq_of_toNat_eq hPsid⟩)
    have hFour : 2 ^ 2 ≤ 2 ^ cfg.offset.toNat := Nat.pow_le_pow_right Nat.two_pos (by omega)
    have hRows : 1 < cfg.rows := by
      unfold rows
      omega
    exact hForeign hRows (by omega) (by omega)
  · exact hForeign h.rows_pos cfg.psids_pos (Ne.symm hPsid)

/-- Only a translation that moves no port confines the staging range. -/
theorem Coherent.confined_iff (h : cfg.Coherent) : cfg.Confined ↔ cfg.Trivial := by
  constructor
  · intro hConfined
    by_contra hTrivial
    obtain ⟨port, hStaging, hForeign⟩ := h.exists_foreign_staging hTrivial
    obtain ⟨delivered, hDelivered, hIff⟩ := hConfined port
    cases (h.ingressPort_outside hForeign).symm.trans hDelivered
    exact hForeign (hIff.mp hStaging)
  · intro hTrivial port
    refine ⟨port, h.ingressPort_of_trivial hTrivial port, ?_⟩
    constructor
    · intro hStaging
      obtain ⟨p, hp, hIn, -⟩ := h.ingress_egress hStaging
      rw [h.egressPort_of_trivial hTrivial] at hp
      cases hp
      exact hIn
    · intro hIn
      exact h.staging_of_inBlocks hIn (h.ingressPort_of_trivial hTrivial port)

end PsidConfig

/-- A port that is neither of the CE nor a staging port stays outside the staging
range, and ports that share a staging port are a port of the CE and the staging
port itself. Without such arrivals the staging range is confined, and for all
arrivals only if the translation moves no port. -/
theorem ingress_staging (offset length : U8) (psid : U16) (hOffset : 1 ≤ offset.toNat)
    (hFits : offset.toNat + length.toNat ≤ 16) (hPsid : psid.toNat < 2 ^ length.toNat) :
    ∃ cfg, PsidConfig.tryNew offset length psid = some (some cfg) ∧
      (∀ port, ∃ delivered, ingressPort cfg port = some delivered ∧
        (cfg.Staging delivered ↔
          port ∈ PsidConfig.psidPorts offset.toNat length.toNat psid.toNat ∨ cfg.Staging port)) ∧
      Set.InjOn (ingressPort cfg) (PsidConfig.psidPorts offset.toNat length.toNat psid.toNat) ∧
      (∀ port other delivered, port ≠ other → ingressPort cfg port = some delivered →
        ingressPort cfg other = some delivered →
        (port ∈ PsidConfig.psidPorts offset.toNat length.toNat psid.toNat ∧ other = delivered) ∨
          (other ∈ PsidConfig.psidPorts offset.toNat length.toNat psid.toNat ∧ port = delivered)) ∧
      (cfg.Confined ↔ length = 0 ∨ (offset = 1 ∧ psid = 0)) := by
  obtain ⟨cfg, hNew, h, rfl, rfl, rfl⟩ := PsidConfig.tryNew_coherent _ _ psid hOffset hFits hPsid
  refine ⟨cfg, hNew, ?_, ?_, ?_, h.confined_iff⟩
  · intro port
    rw [← h.inBlocks_iff_mem]
    exact h.delivered_staging_iff port
  · rw [← Set.ext h.inBlocks_iff_mem]
    exact h.ingressPort_injOn
  · intro port other delivered hNe hPort hOther
    rw [← h.inBlocks_iff_mem, ← h.inBlocks_iff_mem]
    exact (h.collision hNe hPort hOther).imp (fun hLeft => ⟨hLeft.1, hLeft.2.2⟩)
      fun hRight => ⟨hRight.1, hRight.2.2⟩

theorem ingress_staging_five :
    ∃ cfg, PsidConfig.tryNew 4 8 5 = some (some cfg) ∧
      Set.InjOn (ingressPort cfg) (PsidConfig.psidPorts 4 8 5) := by
  obtain ⟨cfg, hNew, -, hInj, -⟩ := ingress_staging 4 8 5 (by decide) (by decide) (by decide)
  exact ⟨cfg, hNew, hInj⟩

/-- Port 4096 belongs to PSID zero. Delivered to the CE with PSID five it stays,
and the CE's own port 4176 is moved to it. -/
theorem ingress_collision :
    ∃ cfg, PsidConfig.tryNew 4 8 5 = some (some cfg) ∧ cfg.Staging 4096 ∧
      (4096 : U16) ∉ PsidConfig.psidPorts 4 8 5 ∧ ingressPort cfg 4096 = some 4096 ∧
      ingressPort cfg 4176 = some 4096 := by
  refine ⟨⟨4, 8, 4, 0, 5, 4096, 4335⟩, by decide, by unfold PsidConfig.Staging; decide, ?_,
    by decide, by decide⟩
  intro ⟨r, j, hRow, _, _, hPort⟩
  have hNat : (4096 : U16).toNat = 4096 := rfl
  omega

end Mapecd
