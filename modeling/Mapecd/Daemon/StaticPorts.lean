import Mapecd.Daemon.RuleSelection
import Mapecd.Daemon.SharedPorts
import Mapecd.Daemon.StaticRules
import Mapecd.Semantics.PrefixFree

/-! The static rules together. No two of them give away the same address, so that
a port of the whole table belongs to at most one CE. -/
namespace Mapecd

open Checked Prefix

/-- In static mode the daemon with the prefix sends from the port of the address. -/
def StaticServes (config : Config) (iaPd : Ipv6Net) (ipv4 : Ipv4Addr) (port : U16) : Prop :=
  isValidIaPdForStaticRules iaPd = true ∧ Truncated iaPd.prefixLen.toNat iaPd.addr ∧
    ∃ params, (staticState iaPd).compute (ceFormat config) = some (.ok (some params)) ∧
      params.ipv4 = ipv4 ∧ port ∈ emitted config params

section Table

variable {rule other : MapRule}

/-- No rule's IPv6 prefix is a part of another one's. -/
theorem ipv6Prefix_unrelated :
    (v6plusMapRules.map fun rule =>
      leading rule.ipv6Prefix.prefixLen.toNat rule.ipv6Prefix.addr).Pairwise Unrelated := by
  have hBuild : (Trie.build (v6plusMapRules.map fun rule =>
      leading rule.ipv6Prefix.prefixLen.toNat rule.ipv6Prefix.addr)).isSome = true := by
    decide +kernel
  obtain ⟨trie, hTrie⟩ := Option.isSome_iff_exists.mp hBuild
  exact (Trie.build_pairwise hTrie).1

/-- The same for the IPv4 prefixes. -/
theorem ipv4Prefix_unrelated :
    (v6plusMapRules.map fun rule =>
      leading rule.ipv4Prefix.prefixLen.toNat rule.ipv4Prefix.addr).Pairwise Unrelated := by
  have hBuild : (Trie.build (v6plusMapRules.map fun rule =>
      leading rule.ipv4Prefix.prefixLen.toNat rule.ipv4Prefix.addr)).isSome = true := by
    decide +kernel
  obtain ⟨trie, hTrie⟩ := Option.isSome_iff_exists.mp hBuild
  exact (Trie.build_pairwise hTrie).1

/-- One rule for a delegated prefix. -/
theorem eq_of_ipv6Prefix {addr : Ipv6Addr} (hRule : rule ∈ v6plusMapRules)
    (hOther : other ∈ v6plusMapRules) (h : rule.ipv6Prefix.Contains addr)
    (h' : other.ipv6Prefix.Contains addr) : rule = other :=
  eq_of_agree ipv6Prefix_unrelated (fun rule => rule.ipv6Prefix.prefixLen_le) hRule hOther
    ((Ipv6Net.contains_iff _).mp h) ((Ipv6Net.contains_iff _).mp h')

/-- One rule for a shared address. -/
theorem eq_of_ipv4Prefix {addr : Ipv4Addr} (hRule : rule ∈ v6plusMapRules)
    (hOther : other ∈ v6plusMapRules) (h : rule.ipv4Prefix.Contains addr)
    (h' : other.ipv4Prefix.Contains addr) : rule = other :=
  eq_of_agree ipv4Prefix_unrelated (fun rule => rule.ipv4Prefix.prefixLen_le) hRule hOther
    ((Ipv4Net.contains_iff _).mp h) ((Ipv4Net.contains_iff _).mp h')

/-- The first two tables share the port parameters. -/
theorem ports_of_mem (hRule : rule ∈ ruleprefix38 ∨ rule ∈ ruleprefix31) :
    rule.a = 4 ∧ rule.k = 8 := by
  cases hRule with
  | inl hRule =>
      obtain ⟨_, _, rfl⟩ := mem_ruleprefix38 hRule
      exact ⟨rfl, rfl⟩
  | inr hRule =>
      obtain ⟨_, _, rfl⟩ := mem_ruleprefix31 hRule
      exact ⟨rfl, rfl⟩

end Table

section Serves

variable {config : Config} {iaPd iaPd' : Ipv6Net} {ipv4 : Ipv4Addr} {port : U16} {rule : MapRule}
  {params : MapeParams} {rules : List MapRule}

/-- The only rule that contains the prefix decides. -/
theorem firstMatch_of_only {format : CeFormat} (hRule : rule ∈ rules)
    (hContains : rule.ipv6Prefix.Contains iaPd.addr)
    (hOnly : ∀ other ∈ rules, other.ipv6Prefix.Contains iaPd.addr → other = rule)
    (hParams : computeMapeParams iaPd rule format = some (.ok params)) :
    firstMatch iaPd format rules = some (.ok params) := by
  induction rules with
  | nil => cases hRule
  | cons head rest ih =>
      by_cases hHead : head.ipv6Prefix.Contains iaPd.addr
      · cases hOnly head List.mem_cons_self hHead
        have hLen := (hasParams_of_ok hParams).len
        have hNot : ¬ rule.PassedOver iaPd := not_or.mpr ⟨not_not.mpr hHead, not_not.mpr hLen⟩
        exact (firstMatch_decided hNot rest).mpr hParams
      · rw [firstMatch_skip hHead]
        refine ih ?_ fun other hOther => hOnly other (List.mem_cons_of_mem _ hOther)
        rcases List.mem_cons.mp hRule with rfl | hRule
        · exact absurd hContains hHead
        · exact hRule

/-- The daemon computes what the loop finds in the table. -/
theorem staticState_compute_iff {format : CeFormat} :
    (staticState iaPd).compute format = some (.ok (some params)) ↔
      firstMatch iaPd format v6plusMapRules = some (.ok params) := by
  rw [DaemonState.compute_ok_iff]
  simp only [staticState, initialState, Option.some.injEq, exists_and_left, exists_eq_left']

/-- Serving in static mode is serving as a CE of one of the first two tables. -/
theorem staticServes_iff (hStatic : config.useV6plusStaticRules = true) :
    StaticServes config iaPd ipv4 port ↔
      ∃ rule, (rule ∈ ruleprefix38 ∨ rule ∈ ruleprefix31) ∧ iaPd ∈ cePrefixes rule ∧
        Serves config rule .v6Plus iaPd ipv4 port := by
  have hFormat : ceFormat config = .v6Plus := if_pos hStatic
  constructor
  · rintro ⟨hValid, hTruncated, params, hCompute, hIpv4, hPort⟩
    have hLen : iaPd.prefixLen.toNat = 56 := congrArg BitVec.toNat (of_decide_eq_true hValid)
    rw [hFormat, staticState_compute_iff] at hCompute
    obtain ⟨hMem, hContains, hParams⟩ := firstMatch_ok_spec hCompute
    have hSame := hLen.trans (ceLen_of_mem hMem).symm
    have hFits := fits_of_computeMapeParams (consistent_of_mem hMem).1 hSame hParams
    exact ⟨params.rule, (fits_iff_of_mem hMem).mp hFits, ⟨hSame, hContains, hTruncated⟩, params,
      hParams, hIpv4, hPort⟩
  · rintro ⟨rule, hTables, ⟨hLen, hContains, hTruncated⟩, params, hParams, hIpv4, hPort⟩
    have hRule := mem_v6plusMapRules.mpr (.inl hTables)
    rw [ceLen_of_mem hRule] at hLen
    refine ⟨decide_eq_true (BitVec.eq_of_toNat_eq hLen), hTruncated, params, ?_, hIpv4, hPort⟩
    rw [hFormat, staticState_compute_iff]
    exact firstMatch_of_only hRule hContains
      (fun other hOther h => eq_of_ipv6Prefix hOther hRule h hContains) hParams

/-- A CE serves addresses of its own rule. -/
theorem Serves.contains {format : CeFormat} (hConsistent : rule.Consistent)
    (hMem : iaPd ∈ cePrefixes rule) (h : Serves config rule format iaPd ipv4 port) :
    rule.ipv4Prefix.Contains ipv4 := by
  obtain ⟨params, hParams, rfl, -⟩ := h
  obtain ⟨ipv4, psid, hPair, hContains, -⟩ := mapAddress_mapsTo hConsistent hMem
  cases (mapAddress_of_computed hParams).symm.trans hPair
  exact hContains

end Serves

/-- In static mode no two delegated prefixes of the whole table send from the same
port of the same address, and some prefix sends from a port of an address exactly
if the address belongs to a rule of the first two tables and the port is not one of
the lowest row. The ports are those that the program computes with, not the ones on
the wire, and the rules of the third table serve nothing because the debug assertion
of `build_ce_ipv6` panics for them. -/
theorem static_ports_partition (config : Config) (hStatic : config.useV6plusStaticRules = true)
    (ipv4 : Ipv4Addr) (port : U16) :
    (∀ iaPd iaPd', StaticServes config iaPd ipv4 port → StaticServes config iaPd' ipv4 port →
      iaPd = iaPd') ∧
    ((∃ iaPd, StaticServes config iaPd ipv4 port) ↔ 2 ^ 12 ≤ port.toNat ∧
      ∃ rule, (rule ∈ ruleprefix38 ∨ rule ∈ ruleprefix31) ∧ rule.ipv4Prefix.Contains ipv4) := by
  constructor
  · intro iaPd iaPd' h h'
    obtain ⟨rule, hTables, hMem, hServes⟩ := (staticServes_iff hStatic).mp h
    obtain ⟨other, hTables', hMem', hServes'⟩ := (staticServes_iff hStatic).mp h'
    have hRule := mem_v6plusMapRules.mpr (.inl hTables)
    have hOther := mem_v6plusMapRules.mpr (.inl hTables')
    have hConsistent := (consistent_of_mem hRule).1
    cases eq_of_ipv4Prefix hRule hOther (hServes.contains hConsistent hMem)
      (hServes'.contains (consistent_of_mem hOther).1 hMem')
    obtain ⟨ha, hk⟩ := ports_of_mem hTables
    exact hServes.unique hConsistent (by omega) (by omega) hMem hMem' hServes'
  · constructor
    · rintro ⟨iaPd, h⟩
      obtain ⟨rule, hTables, hMem, hServes⟩ := (staticServes_iff hStatic).mp h
      have hRule := mem_v6plusMapRules.mpr (.inl hTables)
      obtain ⟨ha, hk⟩ := ports_of_mem hTables
      have hHigh := hServes.high (by omega) (by omega)
      rw [ha] at hHigh
      exact ⟨hHigh, rule, hTables, hServes.contains (consistent_of_mem hRule).1 hMem⟩
    · rintro ⟨hPort, rule, hTables, hContains⟩
      have hRule := mem_v6plusMapRules.mpr (.inl hTables)
      have hLen := ceLen_of_mem hRule
      obtain ⟨ha, hk⟩ := ports_of_mem hTables
      obtain ⟨iaPd, hMem, hServes⟩ := exists_serves config
        (consistent_of_mem hRule).1 (by omega) (by omega) (by omega) (fun _ => by omega) hContains
        (by rwa [ha])
      exact ⟨iaPd, (staticServes_iff hStatic).mpr ⟨rule, hTables, hMem, hServes⟩⟩

/-- The address `125.196.208.18` of the first rule and the port `0x1057`. -/
theorem static_ports_first : ∃ iaPd, StaticServes staticConfig iaPd 0x7dc4d012 0x1057 := by
  have hFirst : table38.rule 0x20010260070000010000000000010275 (0x24047a820000, 0x7dc4d000) ∈
      ruleprefix38 := List.mem_append_left _ List.mem_cons_self
  exact (static_ports_partition staticConfig rfl 0x7dc4d012 0x1057).2.mpr
    ⟨by decide, _, .inl hFirst, by decide⟩

end Mapecd
