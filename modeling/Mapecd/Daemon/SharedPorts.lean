import Mapecd.Daemon.PortConformity
import Mapecd.Map.HasParams
import Mapecd.Map.AddressMapping

/-! The CEs of one rule share its IPv4 addresses. Every port above the first row
belongs to one CE for each address. -/
namespace Mapecd

open Checked

/-- The CE with the prefix sends from the port of the address. -/
def Serves (config : Config) (rule : MapRule) (format : CeFormat) (cePrefix : Ipv6Net)
    (ipv4 : Ipv4Addr) (port : U16) : Prop :=
  ∃ params, computeMapeParams cePrefix rule format = some (.ok params) ∧ params.ipv4 = ipv4 ∧
    port ∈ emitted config params

section Computed

variable {rule : MapRule} {format : CeFormat} {cePrefix : Ipv6Net} {params : MapeParams}
  {ipv4 : Ipv4Addr} {psid port : U16} {config : Config}

/-- The parameters hold the pair of the prefix. -/
theorem mapAddress_of_computed (h : computeMapeParams cePrefix rule format = some (.ok params)) :
    mapAddress rule cePrefix = some (.ok (params.ipv4, params.psid)) := by
  simp only [computeMapeParams, Option.bind_eq_bind, Option.bind_eq_some_iff] at h
  obtain ⟨extracted, hExtract, h⟩ := h
  cases extracted with
  | error e => cases h
  | ok eaBits =>
      simp only [Option.bind_eq_some_iff] at h
      obtain ⟨derived, hDerive, addr, -, ranges, -, hParams⟩ := h
      cases hParams
      simp only [mapAddress, hExtract, hDerive, Option.bind_eq_bind, Option.bind_some]
      rfl

theorem computed_psid_lt (h : computeMapeParams cePrefix rule format = some (.ok params)) :
    params.psid.toNat < 2 ^ params.rule.portParams.psidLength.toNat := by
  obtain ⟨hRule, hPsid⟩ := ok_spec h
  rw [hRule]
  exact psid_lt hPsid

/-- The ports of a CE whose PSID is known, for a rule with offset bits. -/
theorem mem_emitted_computed (hOffset : 1 ≤ rule.a) (hFits : rule.a + rule.k < 16)
    (h : computeMapeParams cePrefix rule format = some (.ok params)) :
    port ∈ emitted config params ↔ port ∈ rfc7597Ports rule.a rule.k params.psid.toNat := by
  obtain ⟨rfl, -⟩ := ok_spec h
  exact (mem_emitted_pos hOffset hFits.le (computed_psid_lt h) port).trans
    (and_iff_right hFits.ne)

/-- With offset bits, a port is in the blocks of the PSID that it holds, if it is
behind row zero. -/
theorem mem_rfc7597Ports_mid {a k : Nat} (hOffset : 1 ≤ a) :
    port ∈ rfc7597Ports a k psid.toNat ↔
      2 ^ (16 - a) ≤ port.toNat ∧ port.toNat / 2 ^ (16 - a - k) % 2 ^ k = psid.toNat := by
  have hRow : port.toNat / 2 ^ (16 - a) ≠ 0 ↔ 2 ^ (16 - a) ≤ port.toNat := by
    rw [Ne, Nat.div_eq_zero_iff_lt (Nat.two_pow_pos _), Nat.not_lt]
  constructor
  · rintro ⟨hHigh, hMid, -⟩
    exact ⟨hRow.mp (hHigh hOffset), hMid⟩
  · rintro ⟨hHigh, hMid⟩
    refine ⟨fun _ => hRow.mpr hHigh, hMid, ?_⟩
    rintro rfl
    exact absurd hHigh (Nat.not_le.mpr (Nat.two_pow_pos _))

/-- Ingress takes back what the CE sends from. -/
theorem mem_ingressAccepted_iff {cfg : PsidConfig} (hOffset : 1 ≤ rule.a)
    (hFits : rule.a + rule.k < 16)
    (h : computeMapeParams cePrefix rule format = some (.ok params))
    (hConfig : psidConfigFromParams params = some (.ok cfg)) :
    port ∈ ingressAccepted cfg ↔ port ∈ emitted config params := by
  rw [mem_emitted_computed hOffset hFits h]
  have hPsid := computed_psid_lt h
  obtain ⟨rfl, -⟩ := ok_spec h
  obtain ⟨cfg', hNew, hCoherent, hCfgOffset, hCfgLength, hCfgPsid⟩ :=
    PsidConfig.tryNew_coherent _ _ params.psid hOffset hFits.le hPsid
  cases (psidConfigFromParams_some hNew).symm.trans hConfig
  rw [hCoherent.mem_ingressAccepted, ← hCoherent.mem_rfc7597Ports, hCfgOffset, hCfgLength, hCfgPsid]
  rfl

/-- Some CE has the address and the PSID. -/
theorem exists_computed_pair (hConsistent : rule.Consistent) (hLe : rule.ceLen ≤ 128)
    (hFits : rule.a + rule.k ≤ 16) (hLayout : format = .v6Plus → rule.ceLen ≤ 64 ∧ rule.k = 8)
    (hIpv4 : rule.ipv4Prefix.Contains ipv4) (hPsid : psid.toNat < 2 ^ rule.k) :
    ∃ cePrefix ∈ cePrefixes rule, ∃ params,
      computeMapeParams cePrefix rule format = some (.ok params) ∧ params.ipv4 = ipv4 ∧
        params.psid = psid := by
  obtain ⟨cePrefix, hMem, hPair⟩ :=
    mapAddress_surjOn hConsistent hLe ⟨ipv4, psid, rfl, hIpv4, hPsid⟩
  have hEa := hConsistent.ea_lt
  have hHas : HasParams cePrefix rule format := ⟨hMem.1, by omega, hFits, hLayout⟩
  obtain ⟨params, hParams, -⟩ := hHas.exists_params
  have hSame := (mapAddress_of_computed hParams).symm.trans hPair
  cases hSame
  exact ⟨cePrefix, hMem, params, hParams, rfl, rfl⟩

/-- A CE serves nothing of row zero. -/
theorem Serves.high (hOffset : 1 ≤ rule.a) (hFits : rule.a + rule.k < 16)
    (h : Serves config rule format cePrefix ipv4 port) : 2 ^ (16 - rule.a) ≤ port.toNat := by
  obtain ⟨params, hParams, -, hServed⟩ := h
  rw [mem_emitted_computed hOffset hFits hParams, mem_rfc7597Ports_mid hOffset] at hServed
  exact hServed.1

/-- Two CEs that serve the same port of the same address have one PSID. -/
theorem Serves.unique (hConsistent : rule.Consistent) (hOffset : 1 ≤ rule.a)
    (hFits : rule.a + rule.k < 16) {other : Ipv6Net} (hMem : cePrefix ∈ cePrefixes rule)
    (hOther : other ∈ cePrefixes rule) (h : Serves config rule format cePrefix ipv4 port)
    (h' : Serves config rule format other ipv4 port) : cePrefix = other := by
  obtain ⟨params, hParams, hAddress, hServed⟩ := h
  obtain ⟨params', hParams', hAddress', hServed'⟩ := h'
  rw [mem_emitted_computed hOffset hFits hParams, mem_rfc7597Ports_mid hOffset] at hServed
  rw [mem_emitted_computed hOffset hFits hParams', mem_rfc7597Ports_mid hOffset] at hServed'
  have hSamePsid : params.psid = params'.psid :=
    BitVec.eq_of_toNat_eq (hServed.2.symm.trans hServed'.2)
  apply mapAddress_injOn hConsistent hMem hOther
  rw [mapAddress_of_computed hParams, mapAddress_of_computed hParams', hSamePsid, hAddress,
    hAddress']

/-- The PSID that a port holds belongs to some CE. -/
theorem exists_serves (config : Config) (hConsistent : rule.Consistent) (hLe : rule.ceLen ≤ 128)
    (hOffset : 1 ≤ rule.a) (hFits : rule.a + rule.k < 16)
    (hLayout : format = .v6Plus → rule.ceLen ≤ 64 ∧ rule.k = 8)
    (hIpv4 : rule.ipv4Prefix.Contains ipv4) (hPort : 2 ^ (16 - rule.a) ≤ port.toNat) :
    ∃ cePrefix ∈ cePrefixes rule, Serves config rule format cePrefix ipv4 port := by
  let digit := port.toNat / 2 ^ (16 - rule.a - rule.k) % 2 ^ rule.k
  have hDigit : digit < 2 ^ rule.k := Nat.mod_lt _ (Nat.two_pow_pos _)
  have hWide : 2 ^ rule.k < 2 ^ 16 := Nat.pow_lt_pow_right Nat.one_lt_two (by omega)
  let psid : U16 := BitVec.ofNat 16 digit
  have hNat : psid.toNat = digit := Nat.mod_eq_of_lt (hDigit.trans hWide)
  obtain ⟨cePrefix, hMem, params, hParams, hAddress, hPsid⟩ := exists_computed_pair hConsistent
    hLe hFits.le hLayout hIpv4 (hNat.trans_lt hDigit)
  refine ⟨cePrefix, hMem, params, hParams, hAddress, ?_⟩
  rw [mem_emitted_computed hOffset hFits hParams, hPsid, mem_rfc7597Ports_mid hOffset]
  exact ⟨hPort, hNat.symm⟩

end Computed

/-- Every port of an address of the rule behind row zero is served by exactly one
CE, no CE serves a port of row zero, and every CE takes back just the ports that
it serves. The ports are those that the programs compute with. With `a + k = 16`
nothing is installed, so nothing is served. -/
theorem shared_ports_partition (config : Config) (rule : MapRule) (format : CeFormat)
    (hConsistent : rule.Consistent) (hLe : rule.ceLen ≤ 128) (hOffset : 1 ≤ rule.a)
    (hFits : rule.a + rule.k < 16) (hLayout : format = .v6Plus → rule.ceLen ≤ 64 ∧ rule.k = 8)
    (ipv4 : Ipv4Addr) (hIpv4 : rule.ipv4Prefix.Contains ipv4) (port : U16) :
    (2 ^ (16 - rule.a) ≤ port.toNat → ∃! cePrefix, cePrefix ∈ cePrefixes rule ∧
      Serves config rule format cePrefix ipv4 port) ∧
    (port.toNat < 2 ^ (16 - rule.a) → ∀ cePrefix,
      ¬ Serves config rule format cePrefix ipv4 port) ∧
    ∀ cePrefix params cfg, computeMapeParams cePrefix rule format = some (.ok params) →
      psidConfigFromParams params = some (.ok cfg) →
      (port ∈ ingressAccepted cfg ↔ port ∈ emitted config params) := by
  refine ⟨?_, ?_, ?_⟩
  · intro hPort
    obtain ⟨cePrefix, hMem, hServes⟩ := exists_serves config hConsistent hLe hOffset hFits hLayout
      hIpv4 hPort
    refine ⟨cePrefix, ⟨hMem, hServes⟩, ?_⟩
    rintro other ⟨hOther, hServes'⟩
    exact hServes'.unique hConsistent hOffset hFits hOther hMem hServes
  · intro hPort cePrefix hServes
    exact absurd (hServes.high hOffset hFits) (Nat.not_le.mpr hPort)
  · intro cePrefix params cfg hParams hConfig
    exact mem_ingressAccepted_iff hOffset hFits hParams hConfig

/-- The address `192.0.2.18` and the port `0x1057` of the rule of the tests. -/
theorem shared_ports_testRule :
    ∃! cePrefix, cePrefix ∈ cePrefixes testRule ∧
      Serves Config.contrib testRule .rfc7597 cePrefix 0xc0000212 0x1057 :=
  (shared_ports_partition Config.contrib testRule .rfc7597 ⟨by decide, by decide⟩ (by decide)
    (by decide) (by decide) (by decide) 0xc0000212 (by decide) 0x1057).1 (by decide)

end Mapecd
