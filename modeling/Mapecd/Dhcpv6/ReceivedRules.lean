import Mapecd.Dhcpv6.RuleEncoding
import Mapecd.Map.Delegation

/-! The computation on the rules of a reply: the parser checks neither the
widths nor their sum. -/
namespace Mapecd

open Checked Bytes Prefix

/-- The computation ends without a panic exactly if the prefix is rejected for
its length or the widths of the rule suffice. -/
theorem computeMapeParams_isSome_iff (cePrefix : Ipv6Net) (rule : MapRule) :
    (computeMapeParams cePrefix rule .rfc7597).isSome ↔
      (cePrefix.prefixLen.toNat = rule.ceLen → rule.ea < 128 ∧ rule.a + rule.k ≤ 16) := by
  constructor
  · intro h hLen
    obtain ⟨result, hResult⟩ := Option.isSome_iff_exists.mp h
    exact computeMapeParams_fits hLen hResult
  · intro h
    by_cases hLen : cePrefix.prefixLen.toNat = rule.ceLen
    · obtain ⟨hEa, hFits⟩ := h hLen
      obtain ⟨params, hParams, -⟩ := exists_computed hLen hEa hFits
      rw [hParams]
      rfl
    · rw [computeMapeParams_mismatch hLen]
      rfl

/-- A PSID of 17 bits, with the address `192.0.2.1` and the prefix `2001:db8::/32`. -/
def wideRule : S46Rule :=
  { flags := 1
    eaLength := 16
    ipv4Prefix := testHost
    ipv6Prefix := testNet6
    portParams := some ⟨0, 17, 0⟩
    ipv4_truncated := testHost_truncated
    ipv6_truncated := testNet6_truncated }

/-- The parser accepts the rule, and `16 - k` underflows. -/
theorem computeMapeParams_wideRule :
    parseS46ContMape (encodeContainer 1 [wideRule]) = pure [wideRule.mapRule 1] ∧
      computeMapeParams ⟨0x20010db8640100000000000000000000, 48, by decide⟩ (wideRule.mapRule 1)
        .rfc7597 = none := by
  constructor
  · exact parseS46ContMape_encode 1 fun wire hWire => by
      cases List.mem_singleton.mp hWire
      exact Or.inl (by decide)
  · decide +kernel

/-- All results of a rule stay inside what was delegated exactly if its EA bits
do, wherever they overlap a prefix. -/
theorem delegated_iff (rule : MapRule) :
    rule.Delegated ↔ (rule.Computable → rule.SuffixInside ∧ rule.FieldsInside) := by
  constructor
  · exact fun h hComputable =>
      ⟨suffixInside_of_delegated h hComputable, fieldsInside_of_delegated h hComputable⟩
  · intro h cePrefix params hContains hParams
    obtain ⟨-, hComputable, -⟩ := params_bits hParams
    obtain ⟨hSuffix, hFields⟩ := h hComputable
    exact delegated_of_inside hSuffix hFields cePrefix params hContains hParams

/-- Sixteen suffix bits for the single address `192.0.2.1`. -/
def spillingRule : S46Rule :=
  { flags := 1
    eaLength := 24
    ipv4Prefix := testHost
    ipv6Prefix := testNet6
    portParams := some ⟨0, 8, 0⟩
    ipv4_truncated := testHost_truncated
    ipv6_truncated := testNet6_truncated }

/-- The suffix 256 turns the address into `192.0.3.1`. -/
theorem not_delegated_spillingRule :
    parseS46Rule spillingRule.encode 1 = pure (spillingRule.mapRule 1) ∧
      ∃ cePrefix params, (spillingRule.mapRule 1).ipv6Prefix.Contains cePrefix.addr ∧
        computeMapeParams cePrefix (spillingRule.mapRule 1) .rfc7597 = some (.ok params) ∧
        ¬ (spillingRule.mapRule 1).ipv4Prefix.Contains params.ipv4 := by
  refine ⟨spillingRule.parse_encode_of_le 1 (by decide), ?_⟩
  have hEval : (computeMapeParams ⟨0x20010db8010000000000000000000000, 56, by decide⟩
      (spillingRule.mapRule 1) .rfc7597).map (fun result => result.toOption.map MapeParams.ipv4) =
        some (some 0xc0000301) := by
    decide +kernel
  obtain ⟨result, hResult, hIpv4⟩ := Option.map_eq_some_iff.mp hEval
  cases result with
  | error e => cases hIpv4
  | ok params =>
      refine ⟨_, params, by decide, hResult, ?_⟩
      have hSame : params.ipv4 = 0xc0000301 := Option.some.inj hIpv4
      rw [hSame]
      decide

end Mapecd
