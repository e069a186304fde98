import Mapecd.Daemon.Runner
import Mapecd.Map.AddressMapping
import Mapecd.Map.V6plusRules

/-! Static rules and the CE format that goes with them. -/
namespace Mapecd

open Checked Prefix

section FirstMatch

variable {cePrefix : Ipv6Net} {format : CeFormat} {rules rest : List MapRule}

theorem firstMatch_skip {rule : MapRule} (h : ¬ rule.ipv6Prefix.Contains cePrefix.addr) :
    firstMatch cePrefix format (rule :: rest) = firstMatch cePrefix format rest := by
  rw [firstMatch, if_neg h]

/-- Rules that do not contain the prefix are skipped. -/
theorem firstMatch_append (h : ∀ rule ∈ rules, ¬ rule.ipv6Prefix.Contains cePrefix.addr) :
    firstMatch cePrefix format (rules ++ rest) = firstMatch cePrefix format rest := by
  induction rules with
  | nil => rfl
  | cons rule rules ih =>
      rw [List.cons_append, firstMatch_skip (h rule List.mem_cons_self)]
      exact ih fun rule' hRule => h rule' (List.mem_cons_of_mem _ hRule)

/-- A match is found where the matching rules have results. -/
theorem firstMatch_ok (rest : List MapRule)
    (hAny : ∃ rule ∈ rules, rule.ipv6Prefix.Contains cePrefix.addr)
    (hResult : ∀ rule ∈ rules, rule.ipv6Prefix.Contains cePrefix.addr →
      ∃ params, computeMapeParams cePrefix rule format = some (.ok params)) :
    ∃ params, firstMatch cePrefix format (rules ++ rest) = some (.ok params) := by
  induction rules with
  | nil =>
      obtain ⟨rule, hRule, -⟩ := hAny
      cases hRule
  | cons rule rules ih =>
      by_cases hContains : rule.ipv6Prefix.Contains cePrefix.addr
      · obtain ⟨params, hParams⟩ := hResult rule List.mem_cons_self hContains
        refine ⟨params, ?_⟩
        rw [List.cons_append, firstMatch, if_pos hContains, hParams]
        rfl
      · rw [List.cons_append, firstMatch_skip hContains]
        apply ih
        · obtain ⟨rule', hRule, hContains'⟩ := hAny
          cases hRule with
          | head => exact absurd hContains' hContains
          | tail _ hRule => exact ⟨rule', hRule, hContains'⟩
        · exact fun rule' hRule => hResult rule' (List.mem_cons_of_mem _ hRule)

/-- The first match panics where all matching rules do. -/
theorem firstMatch_none (hAny : ∃ rule ∈ rules, rule.ipv6Prefix.Contains cePrefix.addr)
    (hResult : ∀ rule ∈ rules, rule.ipv6Prefix.Contains cePrefix.addr →
      computeMapeParams cePrefix rule format = none) :
    firstMatch cePrefix format rules = none := by
  induction rules with
  | nil =>
      obtain ⟨rule, hRule, -⟩ := hAny
      cases hRule
  | cons rule rules ih =>
      by_cases hContains : rule.ipv6Prefix.Contains cePrefix.addr
      · rw [firstMatch, if_pos hContains, hResult rule List.mem_cons_self hContains]
        rfl
      · rw [firstMatch_skip hContains]
        apply ih
        · obtain ⟨rule', hRule, hContains'⟩ := hAny
          cases hRule with
          | head => exact absurd hContains' hContains
          | tail _ hRule => exact ⟨rule', hRule, hContains'⟩
        · exact fun rule' hRule => hResult rule' (List.mem_cons_of_mem _ hRule)

end FirstMatch

section Format

variable {rule : MapRule} {cePrefix : Ipv6Net}

/-- A computation in the static format comes to an end only behind both assertions. -/
theorem fits_of_computeMapeParams {result : Except MapEError MapeParams}
    (hConsistent : rule.Consistent) (hLen : cePrefix.prefixLen.toNat = rule.ceLen)
    (h : computeMapeParams cePrefix rule .v6Plus = some result) : CeFormat.v6Plus.Fits rule := by
  have hEa := hConsistent.ea_lt
  obtain ⟨eaBits, hExtract, -⟩ := extractEaBits_eq hLen (by omega)
  simp only [computeMapeParams, hExtract, Option.bind_eq_bind, Option.bind_some,
    Option.bind_eq_some_iff] at h
  obtain ⟨derived, -, addr, hBuild, -⟩ := h
  exact layout_of_buildCeIpv6 hBuild

/-- Consistent rules that fit get parameters for every prefix of their length. -/
theorem exists_computed_of_fits (hConsistent : rule.Consistent) (hPorts : rule.a + rule.k ≤ 16)
    (hFits : CeFormat.v6Plus.Fits rule) (hLen : cePrefix.prefixLen.toNat = rule.ceLen) :
    ∃ params, computeMapeParams cePrefix rule .v6Plus = some (.ok params) := by
  have hEa := hConsistent.ea_lt
  obtain ⟨eaBits, ipv4, psid, hExtract, hDerive, -⟩ :=
    exists_eaBits hLen (by omega) hConsistent.k_le
  obtain ⟨addr, hBuild, -⟩ := buildCeIpv6_v6Plus cePrefix hFits.1 hFits.2 hDerive
  obtain ⟨ranges, hRanges, -⟩ := calcPortRanges_eq_nil_iff rule.portParams psid hPorts
  simp only [computeMapeParams, hExtract, hDerive, hBuild, hRanges, Option.bind_eq_bind,
    Option.bind_some]
  exact ⟨_, rfl⟩

/-- With matching lengths the assertions decide whether there is a result. -/
theorem computeMapeParams_v6Plus_isSome_iff (hConsistent : rule.Consistent)
    (hPorts : rule.a + rule.k ≤ 16) (hLen : cePrefix.prefixLen.toNat = rule.ceLen) :
    (computeMapeParams cePrefix rule .v6Plus).isSome ↔ CeFormat.v6Plus.Fits rule := by
  constructor
  · intro hSome
    obtain ⟨result, hResult⟩ := Option.isSome_iff_exists.mp hSome
    exact fits_of_computeMapeParams hConsistent hLen hResult
  · intro hFits
    obtain ⟨params, hParams⟩ := exists_computed_of_fits hConsistent hPorts hFits hLen
    exact Option.isSome_iff_exists.mpr ⟨_, hParams⟩

end Format

section Tables

variable {rule : MapRule}

theorem RuleTable.consistent_rule {table : RuleTable} (hk : table.portParams.psidLength.toNat ≤ 16)
    (hEa : table.eaLength.toNat = 32 - table.ipv4Len.toNat + table.portParams.psidLength.toNat)
    (brAddress : Ipv6Addr) (entry : Nat × Nat) : (table.rule brAddress entry).Consistent :=
  ⟨hk, hEa⟩

/-- A table decides for all its rules. -/
theorem RuleTable.fits_rule (table : RuleTable) (brAddress : Ipv6Addr) (entry : Nat × Nat) :
    CeFormat.v6Plus.Fits (table.rule brAddress entry) ↔
      table.ipv6Len.toNat + table.eaLength.toNat ≤ 64 ∧ table.portParams.psidLength.toNat = 8 :=
  Iff.rfl

theorem mem_v6plusMapRules :
    rule ∈ v6plusMapRules ↔ (rule ∈ ruleprefix38 ∨ rule ∈ ruleprefix31) ∨ rule ∈ ruleprefix38_20 := by
  rw [v6plusMapRules, List.mem_append, List.mem_append]

/-- All tables are for the prefixes that are let through. -/
theorem ceLen_of_mem (hRule : rule ∈ v6plusMapRules) : rule.ceLen = 56 := by
  rcases mem_v6plusMapRules.mp hRule with (hRule | hRule) | hRule
  · obtain ⟨_, _, rfl⟩ := mem_ruleprefix38 hRule
    rfl
  · obtain ⟨_, _, rfl⟩ := mem_ruleprefix31 hRule
    rfl
  · obtain ⟨_, _, rfl⟩ := mem_ruleprefix38_20 hRule
    rfl

theorem RuleTable.ports_rule {table : RuleTable}
    (h : table.portParams.psidOffset.toNat + table.portParams.psidLength.toNat ≤ 16)
    (brAddress : Ipv6Addr) (entry : Nat × Nat) :
    (table.rule brAddress entry).a + (table.rule brAddress entry).k ≤ 16 := h

/-- All tables hold consistent rules, whose PSID fits in a port. -/
theorem consistent_of_mem (hRule : rule ∈ v6plusMapRules) :
    rule.Consistent ∧ rule.a + rule.k ≤ 16 := by
  rcases mem_v6plusMapRules.mp hRule with (hRule | hRule) | hRule
  · obtain ⟨_, _, rfl⟩ := mem_ruleprefix38 hRule
    exact ⟨RuleTable.consistent_rule (by decide) (by decide) _ _, RuleTable.ports_rule (by decide) _ _⟩
  · obtain ⟨_, _, rfl⟩ := mem_ruleprefix31 hRule
    exact ⟨RuleTable.consistent_rule (by decide) (by decide) _ _, RuleTable.ports_rule (by decide) _ _⟩
  · obtain ⟨_, _, rfl⟩ := mem_ruleprefix38_20 hRule
    exact ⟨RuleTable.consistent_rule (by decide) (by decide) _ _, RuleTable.ports_rule (by decide) _ _⟩

/-- The first two tables are in the static format. -/
theorem fits_of_mem (hRule : rule ∈ ruleprefix38 ∨ rule ∈ ruleprefix31) :
    CeFormat.v6Plus.Fits rule := by
  cases hRule with
  | inl hRule =>
      obtain ⟨brAddress, entry, rfl⟩ := mem_ruleprefix38 hRule
      exact (table38.fits_rule brAddress entry).mpr (by decide)
  | inr hRule =>
      obtain ⟨brAddress, entry, rfl⟩ := mem_ruleprefix31 hRule
      exact (table31.fits_rule brAddress entry).mpr (by decide)

/-- The PSID of the last table has six bits. -/
theorem not_fits_of_mem (hRule : rule ∈ ruleprefix38_20) : ¬ CeFormat.v6Plus.Fits rule := by
  obtain ⟨brAddress, entry, rfl⟩ := mem_ruleprefix38_20 hRule
  rw [table38_20.fits_rule brAddress entry]
  decide

/-- The PSID of the first two tables has the eight bits that the format has room for. -/
theorem fits_iff_of_mem (hRule : rule ∈ v6plusMapRules) :
    CeFormat.v6Plus.Fits rule ↔ rule ∈ ruleprefix38 ∨ rule ∈ ruleprefix31 := by
  constructor
  · intro hFits
    rcases mem_v6plusMapRules.mp hRule with hRule | hRule
    · exact hRule
    · exact absurd hFits (not_fits_of_mem hRule)
  · exact fits_of_mem

end Tables

section FirstHextet

variable {rule other : MapRule} {iaPd : Ipv6Net}

/-- A prefix inside a rule has the rule's first hextet. -/
theorem hextet_eq (hLen : 16 ≤ rule.r) (h : rule.ipv6Prefix.Contains iaPd.addr) :
    iaPd.addr >>> 112 = rule.ipv6Prefix.addr >>> 112 := by
  have hAgree := (Ipv6Net.contains_iff _).mp h
  apply BitVec.eq_of_getLsbD_eq
  intro i hi
  rw [BitVec.getLsbD_ushiftRight, BitVec.getLsbD_ushiftRight]
  apply hAgree
  change 128 - rule.r ≤ 112 + i
  omega

/-- No prefix is inside a rule of the last table and a rule of another one. -/
theorem not_contains_both (hRule : rule ∈ ruleprefix38 ∨ rule ∈ ruleprefix31)
    (hOther : other ∈ ruleprefix38_20) (h : rule.ipv6Prefix.Contains iaPd.addr) :
    ¬ other.ipv6Prefix.Contains iaPd.addr := by
  intro hContains
  have hOtherLen : 16 ≤ other.r := by
    obtain ⟨_, _, rfl⟩ := mem_ruleprefix38_20 hOther
    change 16 ≤ table38_20.ipv6Len.toNat
    decide
  have hLast := (hextet_eq hOtherLen hContains).trans (ruleprefix38_20_hextet other hOther)
  cases hRule with
  | inl hRule =>
      have hLen : 16 ≤ rule.r := by
        obtain ⟨_, _, rfl⟩ := mem_ruleprefix38 hRule
        change 16 ≤ table38.ipv6Len.toNat
        decide
      have hFirst := (hextet_eq hLen h).trans (ruleprefix38_hextet rule hRule)
      exact absurd (hFirst.symm.trans hLast) (by decide)
  | inr hRule =>
      have hLen : 16 ≤ rule.r := by
        obtain ⟨_, _, rfl⟩ := mem_ruleprefix31 hRule
        change 16 ≤ table31.ipv6Len.toNat
        decide
      exact ruleprefix31_hextet rule hRule ((hextet_eq hLen h).symm.trans hLast)

/-- The rule of a prefix decides whether the first match panics. -/
theorem firstMatch_isSome_iff (hRule : rule ∈ v6plusMapRules) (hLen : iaPd.prefixLen.toNat = 56)
    (hInside : rule.ipv6Prefix.Contains iaPd.addr) :
    (firstMatch iaPd .v6Plus v6plusMapRules).isSome ↔ rule ∈ ruleprefix38 ∨ rule ∈ ruleprefix31 := by
  rcases mem_v6plusMapRules.mp hRule with hFirst | hLast
  · have hResult (rule : MapRule) (hRule : rule ∈ ruleprefix38 ++ ruleprefix31) :
        ∃ params, computeMapeParams iaPd rule .v6Plus = some (.ok params) := by
      have hTable := List.mem_append_left ruleprefix38_20 hRule
      obtain ⟨hConsistent, hPorts⟩ := consistent_of_mem hTable
      exact exists_computed_of_fits hConsistent hPorts (fits_of_mem (List.mem_append.mp hRule))
        (hLen.trans (ceLen_of_mem hTable).symm)
    obtain ⟨params, hMatch⟩ := firstMatch_ok ruleprefix38_20
      ⟨rule, List.mem_append.mpr hFirst, hInside⟩ fun rule hRule _ => hResult rule hRule
    exact iff_of_true (Option.isSome_iff_exists.mpr ⟨_, hMatch⟩) hFirst
  · have hSkip (other : MapRule) (hOther : other ∈ ruleprefix38 ++ ruleprefix31) :
        ¬ other.ipv6Prefix.Contains iaPd.addr := fun hContains =>
      not_contains_both (List.mem_append.mp hOther) hLast hContains hInside
    have hNone (rule : MapRule) (hRule : rule ∈ ruleprefix38_20) :
        computeMapeParams iaPd rule .v6Plus = none := by
      have hTable := mem_v6plusMapRules.mpr (.inr hRule)
      obtain ⟨hConsistent, hPorts⟩ := consistent_of_mem hTable
      rw [← Option.not_isSome_iff_eq_none, computeMapeParams_v6Plus_isSome_iff hConsistent hPorts
        (hLen.trans (ceLen_of_mem hTable).symm)]
      exact not_fits_of_mem hRule
    have hMatch : firstMatch iaPd .v6Plus v6plusMapRules = none :=
      (firstMatch_append hSkip).trans
        (firstMatch_none ⟨rule, hLast, hInside⟩ fun rule hRule _ => hNone rule hRule)
    have hOther : ¬ (rule ∈ ruleprefix38 ∨ rule ∈ ruleprefix31) := fun hFirst =>
      not_contains_both hFirst hLast hInside hInside
    rw [hMatch]
    exact iff_of_false (by simp) hOther

/-- In static mode both assertions hold for a rule of the table and every prefix
that is let through exactly when the rule is not one of the last table, and
exactly then `tryCompute` does not panic. -/
theorem compute_v6plusMapRules {config : Config} {state : DaemonState}
    (hStatic : config.useV6plusStaticRules = true) (hRule : rule ∈ v6plusMapRules)
    (hValid : isValidIaPdForStaticRules iaPd = true) (hInside : rule.ipv6Prefix.Contains iaPd.addr)
    (hRules : state.pendingMapRules = some v6plusMapRules) (hIaPd : state.pendingIaPd = some iaPd) :
    (rule.r + rule.ea ≤ 64 ∧ rule.k = 8 ↔ rule ∈ ruleprefix38 ∨ rule ∈ ruleprefix31) ∧
      ((computeMapeParams iaPd rule (ceFormat config)).isSome ↔
        rule ∈ ruleprefix38 ∨ rule ∈ ruleprefix31) ∧
      ((state.compute (ceFormat config)).isSome ↔ rule ∈ ruleprefix38 ∨ rule ∈ ruleprefix31) := by
  have hFormat : ceFormat config = .v6Plus := if_pos hStatic
  have hLen : iaPd.prefixLen.toNat = 56 := congrArg BitVec.toNat (of_decide_eq_true hValid)
  obtain ⟨hConsistent, hPorts⟩ := consistent_of_mem hRule
  rw [hFormat, computeMapeParams_v6Plus_isSome_iff hConsistent hPorts
    (hLen.trans (ceLen_of_mem hRule).symm)]
  refine ⟨fits_iff_of_mem hRule, fits_iff_of_mem hRule, ?_⟩
  rw [← firstMatch_isSome_iff hRule hLen hInside]
  cases hTable : v6plusMapRules with
  | nil => exact absurd (hTable ▸ hRule) List.not_mem_nil
  | cons head rest =>
      rw [hTable] at hRules
      simp only [DaemonState.compute, hRules, hIaPd]
      cases firstMatch iaPd .v6Plus (head :: rest) with
      | none => rfl
      | some result => cases result <;> rfl

def staticConfig : Config := { Config.contrib with useV6plusStaticRules := true }

/-- Static mode after the first event with this prefix. -/
def staticState (iaPd : Ipv6Net) : DaemonState :=
  { initialState (some v6plusMapRules) with pendingIaPd := some iaPd }

/-- `2404:7a82:0:100::/56` is inside the first rule of the table. -/
theorem compute_v6plusMapRules_first :
    (staticConfig.useV6plusStaticRules = true ∧
      table38.rule 0x20010260070000010000000000010275 (0x24047a820000, 0x7dc4d000) ∈
        v6plusMapRules) ∧
      ((staticState ⟨0x24047a82000001000000000000000000, 56, by decide⟩).compute
        (ceFormat staticConfig)).isSome := by
  have hFirst : table38.rule 0x20010260070000010000000000010275 (0x24047a820000, 0x7dc4d000) ∈
      ruleprefix38 := List.mem_append_left _ List.mem_cons_self
  have hRule := mem_v6plusMapRules.mpr (.inl (.inl hFirst))
  refine ⟨⟨rfl, hRule⟩, ?_⟩
  exact (compute_v6plusMapRules rfl hRule (by decide) (by decide) rfl rfl).2.2.mpr (.inl hFirst)

/-- `2400:4050:0:100::/56` is let through and is inside a rule whose PSID has
six bits, so an assertion fails. -/
theorem compute_v6plusMapRules_last :
    ∃ rule ∈ v6plusMapRules, ∃ iaPd, isValidIaPdForStaticRules iaPd = true ∧
      rule.ipv6Prefix.Contains iaPd.addr ∧ rule.k = 6 ∧
      computeMapeParams iaPd rule (ceFormat staticConfig) = none ∧
      (staticState iaPd).compute (ceFormat staticConfig) = none := by
  have hLast : table38_20.rule 0x20010380a12000000000000000000009 (0x240040500000, 0x99f00000) ∈
      ruleprefix38_20 := List.mem_cons_self
  refine ⟨_, mem_v6plusMapRules.mpr (.inr hLast),
    ⟨0x24004050000001000000000000000000, 56, by decide⟩, by decide, by decide, rfl, ?_, ?_⟩
  · decide +kernel
  · decide +kernel

end FirstHextet

end Mapecd
