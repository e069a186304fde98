import Mapecd.Map.CeAddress

/-! When the addresses of a rule stay inside the prefixes that were delegated. -/
namespace Mapecd

open Checked Prefix

variable {rule : MapRule}

/-- Some CE prefix of the right length gets parameters. -/
def MapRule.Computable (rule : MapRule) : Prop :=
  rule.ceLen ≤ 128 ∧ rule.ea < 128 ∧ rule.a + rule.k ≤ 16

/-- EA bits above the suffix only reach bits of the IPv4 prefix that are set. -/
def MapRule.SuffixInside (rule : MapRule) : Prop :=
  ∀ i, rule.suffixLen ≤ i → i < 32 → rule.k + i < rule.ea →
    rule.ipv4Prefix.addr.getLsbD i = true

/-- Where the CE prefix reaches into the fields behind bit 80, a bit of the
rule's prefix is set, or the fields put nothing there, or the very EA bit that
the prefix has there. -/
def MapRule.FieldsInside (rule : MapRule) : Prop :=
  ∀ i, 128 - rule.ceLen ≤ i → i < 48 →
    (128 - rule.r ≤ i ∧ rule.ipv6Prefix.addr.getLsbD i = true) ∨
    ((16 ≤ i → rule.ipv4Prefix.network.getLsbD (i - 16) = false) ∧
      (16 - rule.k ≤ i → i - (16 - rule.k) < rule.ea →
        i < 128 - rule.r ∧ rule.ceLen = 112 + rule.k))

/-- Every result of the rule stays inside what was delegated. -/
def MapRule.Delegated (rule : MapRule) : Prop :=
  ∀ cePrefix params, rule.ipv6Prefix.Contains cePrefix.addr →
    computeMapeParams cePrefix rule .rfc7597 = some (.ok params) →
    rule.ipv4Prefix.Contains params.ipv4 ∧ cePrefix.Contains params.ceIpv6

/-- The bits of parameters that were computed. -/
theorem params_bits {cePrefix : Ipv6Net} {params : MapeParams}
    (h : computeMapeParams cePrefix rule .rfc7597 = some (.ok params)) :
    cePrefix.prefixLen.toNat = rule.ceLen ∧ rule.Computable ∧
      (∀ i, params.ipv4.getLsbD i = ipv4Bit cePrefix rule i) ∧
      ∀ i, i < 128 → params.ceIpv6.getLsbD i =
        (cePrefix.network.getLsbD i || fieldBit cePrefix rule i) := by
  have hLen : cePrefix.prefixLen.toNat = rule.ceLen := by
    by_contra hNe
    rw [computeMapeParams_mismatch hNe] at h
    cases h
  obtain ⟨hEa, hFits⟩ := computeMapeParams_fits hLen h
  obtain ⟨params', hParams', hIpv4, hCeIpv6⟩ := exists_computed hLen hEa hFits
  cases Option.some.inj (hParams'.symm.trans h)
  exact ⟨hLen, ⟨hLen.symm.trans_le cePrefix.prefixLen_le, hEa, hFits⟩, hIpv4, hCeIpv6⟩

/-- A suffix that ends within the address stays inside the rule's IPv4 prefix. -/
theorem ipv4_contained (hSuffix : rule.SuffixInside) {cePrefix : Ipv6Net} {ipv4 : Ipv4Addr}
    (hIpv4 : ∀ i, ipv4.getLsbD i = ipv4Bit cePrefix rule i) : rule.ipv4Prefix.Contains ipv4 := by
  rw [Ipv4Net.contains_iff]
  intro i hi
  have hNetwork := rule.ipv4Prefix.agree_network i hi
  by_cases hWidth : i < 32
  · rw [hIpv4, ipv4Bit, decide_eq_true hWidth, Bool.true_and, hNetwork]
    cases hBit : eaBit cePrefix rule (rule.k + i) with
    | false => rw [Bool.or_false]
    | true =>
        have hInside : rule.k + i < rule.ea := by
          unfold eaBit at hBit
          exact of_decide_eq_true (Bool.and_eq_true_iff.mp hBit).1
        rw [hSuffix i hi hWidth hInside, Bool.or_true]
  · rw [BitVec.getLsbD_of_ge _ i (Nat.le_of_not_lt hWidth),
      BitVec.getLsbD_of_ge _ i (Nat.le_of_not_lt hWidth)]

/-- A field bit inside the CE prefix is a bit of the CE prefix. -/
theorem fieldBit_contained (hFields : rule.FieldsInside) {cePrefix : Ipv6Net}
    (hContains : rule.ipv6Prefix.Contains cePrefix.addr) {i : Nat} (hi : 128 - rule.ceLen ≤ i)
    (hBit : fieldBit cePrefix rule i = true) : cePrefix.addr.getLsbD i = true := by
  have hCases : (16 ≤ i ∧ rule.ipv4Prefix.network.getLsbD (i - 16) = true) ∨
      ((16 - rule.k ≤ i ∧ i < 48) ∧ eaBit cePrefix rule (i - (16 - rule.k)) = true) := by
    simpa only [fieldBit, Bool.or_eq_true, Bool.and_eq_true, decide_eq_true_eq] using hBit
  have hShort : i < 48 := by
    rcases hCases with ⟨-, hNet⟩ | ⟨⟨-, hShort⟩, -⟩
    · have := BitVec.lt_of_getLsbD hNet
      omega
    · exact hShort
  rcases hFields i hi hShort with ⟨hIn, hSet⟩ | ⟨hNet, hEa⟩
  · rw [(Ipv6Net.contains_iff _).mp hContains i hIn]
    exact hSet
  · rcases hCases with ⟨hField, hSet⟩ | ⟨⟨hField, -⟩, hSet⟩
    · rw [hNet hField] at hSet
      cases hSet
    · unfold eaBit at hSet
      obtain ⟨hIndex, hAddr⟩ := Bool.and_eq_true_iff.mp hSet
      obtain ⟨-, hLen⟩ := hEa hField (of_decide_eq_true hIndex)
      have hSame : 128 - rule.ceLen + (i - (16 - rule.k)) = i := by omega
      rwa [hSame] at hAddr

/-- The two conditions are enough. -/
theorem delegated_of_inside (hSuffix : rule.SuffixInside) (hFields : rule.FieldsInside) :
    rule.Delegated := by
  intro cePrefix params hContains hParams
  obtain ⟨hLen, -, hIpv4, hCeIpv6⟩ := params_bits hParams
  refine ⟨ipv4_contained hSuffix hIpv4, ?_⟩
  rw [Ipv6Net.contains_iff]
  intro i hi
  have hNetwork := cePrefix.agree_network i hi
  by_cases hWidth : i < 128
  · rw [hCeIpv6 i hWidth, hNetwork]
    cases hBit : fieldBit cePrefix rule i with
    | false => rw [Bool.or_false]
    | true => rw [fieldBit_contained hFields hContains (by omega) hBit, Bool.true_or]
  · rw [BitVec.getLsbD_of_ge _ i (Nat.le_of_not_lt hWidth),
      BitVec.getLsbD_of_ge _ i (Nat.le_of_not_lt hWidth)]

/-- A field bit inside the CE prefix must be set there. -/
theorem getLsbD_of_delegated (h : rule.Delegated) (hComputable : rule.Computable)
    {cePrefix : Ipv6Net} (hLen : cePrefix.prefixLen.toNat = rule.ceLen)
    (hContains : rule.ipv6Prefix.Contains cePrefix.addr) {i : Nat} (hi : 128 - rule.ceLen ≤ i)
    (hWidth : i < 128) (hBit : fieldBit cePrefix rule i = true) :
    cePrefix.addr.getLsbD i = true := by
  obtain ⟨params, hParams, -, hCeIpv6⟩ := exists_computed hLen hComputable.2.1 hComputable.2.2
  have hSame := (Ipv6Net.contains_iff _).mp (h cePrefix params hContains hParams).2 i (by omega)
  rw [← hSame, hCeIpv6 i hWidth, hBit, Bool.or_true]

/-- A suffix bit within the IPv4 prefix must be set there already, as the prefix with
this one EA bit shows. -/
theorem suffixInside_of_delegated (h : rule.Delegated) (hComputable : rule.Computable) :
    rule.SuffixInside := by
  intro i hi hWidth hj
  obtain ⟨cePrefix, hLen, hContains, -, hBits⟩ :=
    exists_cePrefix hComputable.1 fun j => decide (j = rule.k + i)
  obtain ⟨params, hParams, hIpv4, -⟩ := exists_computed hLen hComputable.2.1 hComputable.2.2
  have hSet : eaBit cePrefix rule (rule.k + i) = true := by
    rw [hBits _ hj]
    exact decide_eq_true rfl
  have hSame := (Ipv4Net.contains_iff _).mp (h cePrefix params hContains hParams).1 i hi
  rw [← hSame, hIpv4, ipv4Bit, hSet, decide_eq_true hWidth, Bool.and_self, Bool.or_true]

/-- A bit of the CE prefix is one of the rule's prefix or an EA bit. -/
theorem getLsbD_cePrefix {cePrefix : Ipv6Net} (hContains : rule.ipv6Prefix.Contains cePrefix.addr)
    {i : Nat} (hi : 128 - rule.ceLen ≤ i) (hWidth : i < 128)
    (hSet : cePrefix.addr.getLsbD i = true) :
    (128 - rule.r ≤ i ∧ rule.ipv6Prefix.addr.getLsbD i = true) ∨
      (i < 128 - rule.r ∧ i - (128 - rule.ceLen) < rule.ea ∧
        eaBit cePrefix rule (i - (128 - rule.ceLen)) = true) := by
  have hLen : rule.ceLen = rule.r + rule.ea := rfl
  by_cases hIn : 128 - rule.r ≤ i
  · exact Or.inl ⟨hIn, ((Ipv6Net.contains_iff _).mp hContains i hIn).symm.trans hSet⟩
  · have hIndex : i - (128 - rule.ceLen) < rule.ea := by omega
    refine Or.inr ⟨Nat.lt_of_not_le hIn, hIndex, ?_⟩
    rw [eaBit, decide_eq_true hIndex, Nat.add_sub_of_le hi, hSet]
    rfl

/-- Two prefixes show it: the one without EA bits, and the one with the EA bit that a
field puts there. -/
theorem fieldsInside_of_delegated (h : rule.Delegated) (hComputable : rule.Computable) :
    rule.FieldsInside := by
  intro i hi hShort
  have hWidth : i < 128 := by omega
  by_cases hPrefix : 128 - rule.r ≤ i ∧ rule.ipv6Prefix.addr.getLsbD i = true
  · exact Or.inl hPrefix
  · refine Or.inr ⟨?_, ?_⟩
    -- No EA bit is set: the IPv4 prefix alone must not show.
    · intro hField
      by_contra hSet
      obtain ⟨cePrefix, hLen, hContains, -, hBits⟩ := exists_cePrefix hComputable.1 fun _ => false
      have hBit : fieldBit cePrefix rule i = true := by
        rw [fieldBit, Bool.eq_true_of_not_eq_false hSet, decide_eq_true hField]
        rfl
      have hAddr := getLsbD_of_delegated h hComputable hLen hContains hi hWidth hBit
      rcases getLsbD_cePrefix hContains hi hWidth hAddr with hRule | ⟨-, hIndex, hEa⟩
      · exact hPrefix hRule
      · rw [hBits _ hIndex] at hEa
        cases hEa
    -- The one EA bit that the fields put here must be the one of the prefix.
    · intro hField hj
      obtain ⟨cePrefix, hLen, hContains, -, hBits⟩ :=
        exists_cePrefix hComputable.1 fun j => decide (j = i - (16 - rule.k))
      have hBoth : 16 - rule.k ≤ i ∧ i < 48 := ⟨hField, hShort⟩
      have hBit : fieldBit cePrefix rule i = true := by
        rw [fieldBit, hBits _ hj, decide_eq_true hBoth, decide_eq_true rfl, Bool.and_self,
          Bool.or_true]
      have hAddr := getLsbD_of_delegated h hComputable hLen hContains hi hWidth hBit
      rcases getLsbD_cePrefix hContains hi hWidth hAddr with hRule | ⟨hOut, hIndex, hEa⟩
      · exact absurd hRule hPrefix
      · rw [hBits _ hIndex] at hEa
        have hSame := of_decide_eq_true hEa
        obtain ⟨hLe, -, hFits⟩ := hComputable
        exact ⟨hOut, by omega⟩

end Mapecd
