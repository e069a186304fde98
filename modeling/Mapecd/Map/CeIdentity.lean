import Mapecd.Map.AddressMapping

/-! Computed parameters whose prefix ends before the fields of the address: the CE
address tells the IPv4 address and the PSID. -/
namespace Mapecd

open Checked Prefix

/-- `compute_mape_params` has returned them for some prefix. -/
def MapeParams.From (format : CeFormat) (params : MapeParams) : Prop :=
  ∃ cePrefix, computeMapeParams cePrefix params.rule format = some (.ok params)

variable {cePrefix : Ipv6Net} {rule : MapRule} {format : CeFormat} {params old new : MapeParams}

/-- Computed parameters have an address from which the pair can be read back. -/
theorem computeMapeParams_lossless
    (h : computeMapeParams cePrefix rule format = some (.ok params)) (hFits : format.Fits rule) :
    Lossless rule cePrefix format params.ipv4 params.psid params.ceIpv6 := by
  have hLen : cePrefix.prefixLen.toNat = rule.ceLen := by
    by_contra hMismatch
    rw [computeMapeParams_mismatch hMismatch] at h
    cases h
  obtain ⟨eaBits, hExtract, hDerive, hBuild, hRanges, -⟩ := computeMapeParams_steps h
  have hEa := ea_lt_of_extractEaBits hLen hExtract
  have hk : rule.k ≤ 16 := (Nat.le_add_left _ _).trans (calcPortRanges_fits hRanges)
  have hLe : rule.ceLen ≤ 128 := hLen.symm.trans_le cePrefix.prefixLen_le
  obtain ⟨eaBits', ipv4, psid, hExtract', hDerive', -, hPsidBits⟩ := exists_eaBits hLen hEa hk
  cases hExtract.symm.trans hExtract'
  obtain ⟨rfl, rfl⟩ := Prod.mk.inj (Option.some.inj (hDerive.symm.trans hDerive'))
  have hPsid (i : Nat) (hi : rule.k ≤ i) : params.psid.getLsbD i = false := by
    rw [hPsidBits, decide_eq_false (Nat.not_lt.mpr hi), Bool.false_and]
  cases format with
  | rfc7597 =>
      obtain ⟨addr, hAddr, hBits⟩ := buildCeIpv6_rfc7597 cePrefix hLe hk hDerive
      cases hBuild.symm.trans hAddr
      exact lossless_rfc7597 hLen hFits hk hPsid hBits
  | v6Plus =>
      obtain ⟨hShort, hEight⟩ := hFits
      obtain ⟨addr, hAddr, hBits⟩ := buildCeIpv6_v6Plus cePrefix hShort hEight hDerive
      cases hBuild.symm.trans hAddr
      exact lossless_v6Plus hLen hShort (fun i hi => hPsid i (hEight.trans_le hi)) hBits

/-- With the same number of PSID bits one address means one pair. -/
theorem MapeParams.From.pair_eq (hOld : old.From format) (hNew : new.From format)
    (hFitsOld : format.Fits old.rule) (hFitsNew : format.Fits new.rule)
    (hk : old.rule.k = new.rule.k) (hCe : old.ceIpv6 = new.ceIpv6) :
    old.ipv4 = new.ipv4 ∧ old.psid = new.psid := by
  obtain ⟨cePrefix, hOld⟩ := hOld
  obtain ⟨cePrefix', hNew⟩ := hNew
  have hLossless := computeMapeParams_lossless hOld hFitsOld
  have hLossless' := computeMapeParams_lossless hNew hFitsNew
  constructor
  · rw [← hLossless.ipv4, ← hLossless'.ipv4, hCe]
  · rw [← hLossless.psid, ← hLossless'.psid, hCe, hk]

end Mapecd
