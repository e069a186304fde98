import Mapecd.Map.CeAddress

/-! Exactly when a rule and a CE prefix have MAP-E parameters, in either format. -/
namespace Mapecd

open Checked

/-- The prefix has the length of the rule's CE prefixes, no shift goes beyond its
width, and the assertions of the format hold. -/
structure HasParams (cePrefix : Ipv6Net) (rule : MapRule) (format : CeFormat) : Prop where
  len : cePrefix.prefixLen.toNat = rule.ceLen
  ea_lt : rule.ea < 128
  fits : rule.a + rule.k ≤ 16
  layout : format = .v6Plus → rule.ceLen ≤ 64 ∧ rule.k = 8

instance (cePrefix : Ipv6Net) (rule : MapRule) (format : CeFormat) :
    Decidable (HasParams cePrefix rule format) :=
  decidable_of_iff (cePrefix.prefixLen.toNat = rule.ceLen ∧ rule.ea < 128 ∧ rule.a + rule.k ≤ 16 ∧
      (format = .v6Plus → rule.ceLen ≤ 64 ∧ rule.k = 8))
    ⟨fun ⟨len, ea_lt, fits, layout⟩ => ⟨len, ea_lt, fits, layout⟩,
      fun h => ⟨h.len, h.ea_lt, h.fits, h.layout⟩⟩

variable {cePrefix : Ipv6Net} {rule : MapRule} {format : CeFormat}

/-- Computed parameters leave no guard or shift of the computation unmet. -/
theorem hasParams_of_ok {params : MapeParams}
    (h : computeMapeParams cePrefix rule format = some (.ok params)) :
    HasParams cePrefix rule format := by
  by_cases hLen : cePrefix.prefixLen.toNat = rule.ceLen
  · obtain ⟨eaBits, hExtract, -, hBuild, hRanges, -⟩ := computeMapeParams_steps h
    refine ⟨hLen, ea_lt_of_extractEaBits hLen hExtract, calcPortRanges_fits hRanges, ?_⟩
    rintro rfl
    exact layout_of_buildCeIpv6 hBuild
  · rw [computeMapeParams_mismatch hLen] at h
    cases h

/-- The parameters, with the PSID from the low EA bits. -/
theorem HasParams.exists_params (h : HasParams cePrefix rule format) :
    ∃ params, computeMapeParams cePrefix rule format = some (.ok params) ∧ params.rule = rule ∧
      ∀ i, params.psid.getLsbD i = (decide (i < rule.k) && eaBit cePrefix rule i) := by
  have hFits := h.fits
  have hk : rule.k ≤ 16 := by omega
  have hLen : rule.ceLen ≤ 128 := h.len.symm.trans_le cePrefix.prefixLen_le
  obtain ⟨eaBits, ipv4, psid, hExtract, hDerive, -, hPsid⟩ := exists_eaBits h.len h.ea_lt hk
  obtain ⟨ranges, hRanges, -⟩ := calcPortRanges_eq_nil_iff rule.portParams psid hFits
  have hBuild : ∃ addr, buildCeIpv6 cePrefix rule eaBits format = some addr := by
    cases format with
    | rfc7597 =>
        obtain ⟨addr, hBuild, -⟩ := buildCeIpv6_rfc7597 cePrefix hLen hk hDerive
        exact ⟨addr, hBuild⟩
    | v6Plus =>
        obtain ⟨hShort, hEight⟩ := h.layout rfl
        obtain ⟨addr, hBuild, -⟩ := buildCeIpv6_v6Plus cePrefix hShort hEight hDerive
        exact ⟨addr, hBuild⟩
  obtain ⟨addr, hBuild⟩ := hBuild
  let params : MapeParams :=
    { ceIpv6 := addr, ipv4 := ipv4, psid := psid, portRanges := ranges
      brAddress := rule.brAddress, rule := rule, ceFormat := format }
  refine ⟨params, ?_, rfl, hPsid⟩
  simp only [computeMapeParams, hExtract, hDerive, hBuild, hRanges, Option.bind_eq_bind,
    Option.bind_some]
  rfl

/-- The conditions are those under which the computation ends with parameters. -/
theorem hasParams_iff : HasParams cePrefix rule format ↔
    ∃ params, computeMapeParams cePrefix rule format = some (.ok params) := by
  constructor
  · intro h
    obtain ⟨params, hParams, -⟩ := h.exists_params
    exact ⟨params, hParams⟩
  · intro ⟨params, hParams⟩
    exact hasParams_of_ok hParams

/-- What is known of all parameters that the computation returns. -/
theorem ok_spec {params : MapeParams}
    (h : computeMapeParams cePrefix rule format = some (.ok params)) : params.rule = rule ∧
      ∀ i, params.psid.getLsbD i = (decide (i < rule.k) && eaBit cePrefix rule i) := by
  obtain ⟨computed, hComputed, hSpec⟩ := (hasParams_of_ok h).exists_params
  cases Except.ok.inj (Option.some.inj (h.symm.trans hComputed))
  exact hSpec

end Mapecd
