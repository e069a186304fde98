import Mapecd.Map.Delegation

/-! Consistent rules: every CE has its own pair of IPv4 address and PSID, and
its address holds the prefix and the pair without loss. -/
namespace Mapecd

open Checked Prefix

/-- The PSID fits in a port and the EA bits are the IPv4 suffix and the PSID.
Host bits of the prefixes are masked wherever they are used. -/
structure MapRule.Consistent (rule : MapRule) : Prop where
  k_le : rule.k ≤ 16
  ea_eq : rule.ea = rule.suffixLen + rule.k

variable {rule : MapRule}

theorem MapRule.Consistent.ea_lt (h : rule.Consistent) : rule.ea < 64 := by
  have hEa := h.ea_eq
  have hk := h.k_le
  have hSuffix : rule.suffixLen ≤ 32 := Nat.sub_le _ _
  omega

/-- No EA bit reaches the rule's IPv4 prefix. -/
theorem MapRule.Consistent.suffixInside (h : rule.Consistent) : rule.SuffixInside := by
  intro i hi _ hj
  have hEa := h.ea_eq
  omega

/-- IPv4 address and PSID of a CE prefix: `extractEaBits`, then `deriveIpv4AndPsid`. -/
def mapAddress (rule : MapRule) (cePrefix : Ipv6Net) :
    Result (Except MapEError (Ipv4Addr × U16)) := do
  match ← extractEaBits cePrefix rule with
  | .error e => return .error e
  | .ok eaBits => return .ok (← deriveIpv4AndPsid eaBits rule)

/-- The CE prefixes inside the rule's prefix. -/
def cePrefixes (rule : MapRule) : Set Ipv6Net :=
  {cePrefix | cePrefix.prefixLen.toNat = rule.ceLen ∧ rule.ipv6Prefix.Contains cePrefix.addr ∧
    Truncated cePrefix.prefixLen.toNat cePrefix.addr}

/-- The pairs that the rule has to give away. -/
def sharedAddresses (rule : MapRule) : Set (Result (Except MapEError (Ipv4Addr × U16))) :=
  {result | ∃ ipv4 psid, result = some (.ok (ipv4, psid)) ∧ rule.ipv4Prefix.Contains ipv4 ∧
    psid.toNat < 2 ^ rule.k}

section Mapping

variable {cePrefix cePrefix' : Ipv6Net}

/-- The pair as the EA bits of the prefix. -/
theorem exists_mapAddress (hConsistent : rule.Consistent)
    (h : cePrefix.prefixLen.toNat = rule.ceLen) :
    ∃ ipv4 psid, mapAddress rule cePrefix = some (.ok (ipv4, psid)) ∧
      (∀ i, ipv4.getLsbD i = ipv4Bit cePrefix rule i) ∧
      ∀ i, psid.getLsbD i = (decide (i < rule.k) && eaBit cePrefix rule i) := by
  have hEa := hConsistent.ea_lt
  obtain ⟨eaBits, ipv4, psid, hExtract, hDerive, hBits⟩ :=
    exists_eaBits h (by omega) hConsistent.k_le
  refine ⟨ipv4, psid, ?_, hBits⟩
  simp only [mapAddress, hExtract, hDerive, Option.bind_eq_bind, Option.bind_some]
  rfl

theorem psid_lt {psid : U16}
    (h : ∀ i, psid.getLsbD i = (decide (i < rule.k) && eaBit cePrefix rule i)) :
    psid.toNat < 2 ^ rule.k := by
  apply Nat.lt_pow_two_of_testBit
  intro i hi
  exact (h i).trans (by rw [decide_eq_false (Nat.not_lt.mpr hi), Bool.false_and])

theorem mapAddress_mapsTo (hConsistent : rule.Consistent) :
    Set.MapsTo (mapAddress rule) (cePrefixes rule) (sharedAddresses rule) := by
  intro cePrefix ⟨hLen, _⟩
  obtain ⟨ipv4, psid, hResult, hIpv4, hPsid⟩ := exists_mapAddress hConsistent hLen
  exact ⟨ipv4, psid, hResult, ipv4_contained hConsistent.suffixInside hIpv4, psid_lt hPsid⟩

/-- Below the rule's prefix the IPv4 address is the suffix. -/
theorem ipv4Bit_suffix {i : Nat} (hi : i < rule.suffixLen) :
    ipv4Bit cePrefix rule i = eaBit cePrefix rule (rule.k + i) := by
  have hWidth : i < 32 := Nat.lt_of_lt_of_le hi (Nat.sub_le _ _)
  rw [ipv4Bit, rule.ipv4Prefix.truncated_network i hi, decide_eq_true hWidth]
  rfl

/-- A CE prefix is determined by its EA bits. -/
theorem cePrefix_eq (h : cePrefix ∈ cePrefixes rule) (h' : cePrefix' ∈ cePrefixes rule)
    (hBits : ∀ j, j < rule.ea → eaBit cePrefix rule j = eaBit cePrefix' rule j) :
    cePrefix = cePrefix' := by
  obtain ⟨hLen, hContains, hTruncated⟩ := h
  obtain ⟨hLen', hContains', hTruncated'⟩ := h'
  have hPrefixLen : cePrefix.prefixLen = cePrefix'.prefixLen :=
    BitVec.eq_of_toNat_eq (hLen.trans hLen'.symm)
  have hSum : rule.ceLen = rule.r + rule.ea := rfl
  rw [← hPrefixLen] at hTruncated'
  have hAddr : cePrefix.addr = cePrefix'.addr := by
    apply hTruncated.eq hTruncated'
    intro i hi
    by_cases hIn : 128 - rule.r ≤ i
    · exact ((Ipv6Net.contains_iff _).mp hContains i hIn).trans
        ((Ipv6Net.contains_iff _).mp hContains' i hIn).symm
    · have hIndex : i - (128 - rule.ceLen) < rule.ea := by omega
      have hPlace : 128 - rule.ceLen + (i - (128 - rule.ceLen)) = i := by omega
      have hBit := hBits _ hIndex
      rw [eaBit, eaBit, decide_eq_true hIndex, hPlace, Bool.true_and, Bool.true_and] at hBit
      exact hBit
  cases cePrefix
  cases cePrefix'
  cases hAddr
  cases hPrefixLen
  rfl

/-- Two CE prefixes with one address and PSID are the same, since the EA bits can be
read back. -/
theorem mapAddress_injOn (hConsistent : rule.Consistent) :
    Set.InjOn (mapAddress rule) (cePrefixes rule) := by
  intro cePrefix h cePrefix' h' hSame
  obtain ⟨ipv4, psid, hResult, hIpv4, hPsid⟩ := exists_mapAddress hConsistent h.1
  obtain ⟨ipv4', psid', hResult', hIpv4', hPsid'⟩ := exists_mapAddress hConsistent h'.1
  rw [hResult, hResult'] at hSame
  cases hSame
  apply cePrefix_eq h h'
  intro j hj
  by_cases hLow : j < rule.k
  · have hBit := (hPsid j).symm.trans (hPsid' j)
    rwa [decide_eq_true hLow, Bool.true_and, Bool.true_and] at hBit
  · have hEa := hConsistent.ea_eq
    have hSuffix : j - rule.k < rule.suffixLen := by omega
    have hIndex : rule.k + (j - rule.k) = j := by omega
    have hBit := (hIpv4 (j - rule.k)).symm.trans (hIpv4' (j - rule.k))
    rwa [ipv4Bit_suffix hSuffix, ipv4Bit_suffix hSuffix, hIndex] at hBit

/-- Each shared address belongs to the CE prefix that is put together from it. -/
theorem mapAddress_surjOn (hConsistent : rule.Consistent) (hLe : rule.ceLen ≤ 128) :
    Set.SurjOn (mapAddress rule) (cePrefixes rule) (sharedAddresses rule) := by
  rintro result ⟨ipv4, psid, rfl, hContains, hPsidLt⟩
  obtain ⟨cePrefix, hLen, hInside, hTruncated, hBits⟩ := exists_cePrefix hLe fun j =>
    if j < rule.k then psid.getLsbD j else ipv4.getLsbD (j - rule.k)
  obtain ⟨ipv4', psid', hResult, hIpv4, hPsid⟩ := exists_mapAddress hConsistent hLen
  have hEa := hConsistent.ea_eq
  have hSamePsid : psid' = psid := by
    apply BitVec.eq_of_getLsbD_eq
    intro i _
    rw [hPsid]
    by_cases hLow : i < rule.k
    · rw [hBits i (by omega), if_pos hLow, decide_eq_true hLow, Bool.true_and]
    · have hHigh : psid.getLsbD i = false := by
        apply Nat.testBit_lt_two_pow
        exact hPsidLt.trans_le (Nat.pow_le_pow_right Nat.two_pos (Nat.le_of_not_lt hLow))
      rw [decide_eq_false hLow, hHigh, Bool.false_and]
  have hSameIpv4 : ipv4' = ipv4 := by
    apply BitVec.eq_of_getLsbD_eq
    intro i hi
    by_cases hSuffix : i < rule.suffixLen
    · have hNot : ¬ rule.k + i < rule.k := by omega
      rw [hIpv4, ipv4Bit_suffix hSuffix, hBits _ (by omega), if_neg hNot, Nat.add_sub_cancel_left]
    · have hInPrefix := Nat.le_of_not_lt hSuffix
      have hContained := ipv4_contained hConsistent.suffixInside hIpv4
      exact ((Ipv4Net.contains_iff _).mp hContained i hInPrefix).trans
        ((Ipv4Net.contains_iff _).mp hContains i hInPrefix).symm
  exact ⟨cePrefix, ⟨hLen, hInside, hTruncated⟩, by rw [hResult, hSamePsid, hSameIpv4]⟩

/-- The CE prefixes of a consistent rule correspond one to one to the pairs of
an IPv4 address of the rule and a PSID. -/
theorem mapAddress_bijOn (hConsistent : rule.Consistent) (hLe : rule.ceLen ≤ 128) :
    Set.BijOn (mapAddress rule) (cePrefixes rule) (sharedAddresses rule) :=
  ⟨mapAddress_mapsTo hConsistent, mapAddress_injOn hConsistent, mapAddress_surjOn hConsistent hLe⟩

end Mapping

/-- The rule of the tests: `2001:db8::/32` and `192.0.2.0/24`, with 8 PSID bits. -/
def testRule : MapRule :=
  { ipv6Prefix := testNet6
    ipv4Prefix := testNet4
    eaLength := 16, isFmr := true, brAddress := 1, portParams := ⟨4, 8⟩ }

theorem mapAddress_bijOn_testRule :
    (testRule.Consistent ∧ testRule.ceLen ≤ 128) ∧
      Set.BijOn (mapAddress testRule) (cePrefixes testRule) (sharedAddresses testRule) :=
  ⟨⟨⟨by decide, by decide⟩, by decide⟩, mapAddress_bijOn ⟨by decide, by decide⟩ (by decide)⟩

section Layout

/-- The prefix ends before the fields of the format, whose width is right. -/
def CeFormat.Fits (rule : MapRule) : CeFormat → Prop
  | .rfc7597 => rule.ceLen ≤ 80
  | .v6Plus => rule.ceLen ≤ 64 ∧ rule.k = 8

/-- The IPv4 address from bits 80 to 111, or from bits 72 to 103. -/
def CeFormat.readIpv4 (addr : Ipv6Addr) : CeFormat → Ipv4Addr
  | .rfc7597 => addr.extractLsb' 16 32
  | .v6Plus => addr.extractLsb' 24 32

/-- The PSID at the top of bits 112 to 127, or from bits 112 to 119. -/
def CeFormat.readPsid (k : Nat) (addr : Ipv6Addr) : CeFormat → U16
  | .rfc7597 => addr.extractLsb' 0 16 >>> (16 - k)
  | .v6Plus => (addr.extractLsb' 8 8).setWidth 16

/-- Bits of the two fields, counted from the least significant one. -/
def CeFormat.InField (k i : Nat) : CeFormat → Prop
  | .rfc7597 => 16 - k ≤ i ∧ i < 48
  | .v6Plus => (24 ≤ i ∧ i < 56) ∨ (8 ≤ i ∧ i < 16)

/-- An address is lossless if its prefix is the CE prefix, the pair can be read
back and everything else is zero. -/
structure Lossless (rule : MapRule) (cePrefix : Ipv6Net) (format : CeFormat) (ipv4 : Ipv4Addr)
    (psid : U16) (addr : Ipv6Addr) : Prop where
  pre : Agree rule.ceLen addr cePrefix.addr
  ipv4 : format.readIpv4 addr = ipv4
  psid : format.readPsid rule.k addr = psid
  rest : ∀ i, i < 128 - rule.ceLen → ¬ format.InField rule.k i → addr.getLsbD i = false

variable {cePrefix : Ipv6Net} {ipv4 : Ipv4Addr} {psid : U16} {addr : Ipv6Addr}

/-- The leading bits stay, since no field reaches them. -/
theorem agree_of_bits (fields : Nat → Bool) (hLen : cePrefix.prefixLen.toNat = rule.ceLen)
    (hAddr : ∀ i, i < 128 → addr.getLsbD i =
      ((cePrefix.network.getLsbD i && decide (128 - rule.ceLen ≤ i)) || fields i))
    (hFields : ∀ i, 128 - rule.ceLen ≤ i → fields i = false) :
    Agree rule.ceLen addr cePrefix.addr := by
  intro i hi
  by_cases hWidth : i < 128
  · rw [hAddr i hWidth, hFields i hi, decide_eq_true hi, Bool.and_true, Bool.or_false]
    exact cePrefix.agree_network i (by omega)
  · rw [BitVec.getLsbD_of_ge _ i (Nat.le_of_not_lt hWidth),
      BitVec.getLsbD_of_ge _ i (Nat.le_of_not_lt hWidth)]

/-- With CE prefixes of at most 80 bits the fields stand below the prefix, and can be
read back. -/
theorem lossless_rfc7597 (hLen : cePrefix.prefixLen.toNat = rule.ceLen) (hFits : rule.ceLen ≤ 80)
    (hk : rule.k ≤ 16) (hPsid : ∀ i, rule.k ≤ i → psid.getLsbD i = false)
    (hAddr : ∀ i, i < 128 → addr.getLsbD i =
      ((cePrefix.network.getLsbD i && decide (128 - rule.ceLen ≤ i)) ||
        (decide (16 ≤ i) && ipv4.getLsbD (i - 16)) ||
        (decide (0 < rule.k) && (decide (16 - rule.k ≤ i) && psid.getLsbD (i - (16 - rule.k)))))) :
    Lossless rule cePrefix .rfc7597 ipv4 psid addr := by
  have hNoPsid (i : Nat) (hi : 16 ≤ i) : psid.getLsbD (i - (16 - rule.k)) = false :=
    hPsid _ (by omega)
  refine ⟨?_, ?_, ?_, ?_⟩
  · refine agree_of_bits (fun i => (decide (16 ≤ i) && ipv4.getLsbD (i - 16)) ||
      (decide (0 < rule.k) && (decide (16 - rule.k ≤ i) && psid.getLsbD (i - (16 - rule.k)))))
      hLen (fun i hi => (hAddr i hi).trans (Bool.or_assoc _ _ _)) ?_
    intro i hi
    rw [BitVec.getLsbD_of_ge ipv4 (i - 16) (by omega), hNoPsid i (by omega)]
    simp
  · apply BitVec.eq_of_getLsbD_eq
    intro i hi
    have hBefore : ¬ 128 - rule.ceLen ≤ 16 + i := by omega
    have hIndex : 16 + i - 16 = i := by omega
    rw [CeFormat.readIpv4, BitVec.getLsbD_extractLsb', hAddr _ (by omega), decide_eq_false hBefore,
      hNoPsid _ (by omega), hIndex, decide_eq_true hi, decide_eq_true (Nat.le_add_right 16 i)]
    simp
  · apply BitVec.eq_of_getLsbD_eq
    intro i hi
    rw [CeFormat.readPsid, BitVec.getLsbD_ushiftRight, BitVec.getLsbD_extractLsb', Nat.zero_add]
    by_cases hLow : i < rule.k
    · have hShort : 16 - rule.k + i < 16 := by omega
      have hNoIpv4 : ¬ 16 ≤ 16 - rule.k + i := by omega
      have hBefore : ¬ 128 - rule.ceLen ≤ 16 - rule.k + i := by omega
      have hPos : 0 < rule.k := by omega
      rw [hAddr _ (by omega), decide_eq_true hShort, decide_eq_false hBefore,
        decide_eq_false hNoIpv4, decide_eq_true hPos, decide_eq_true (Nat.le_add_right _ i),
        Nat.add_sub_cancel_left]
      simp
    · have hLong : ¬ 16 - rule.k + i < 16 := by omega
      rw [decide_eq_false hLong, hPsid i (Nat.le_of_not_lt hLow), Bool.false_and]
  · intro i hi hOut
    have hWidth : i < 128 := by omega
    have hBefore : ¬ 128 - rule.ceLen ≤ i := by omega
    rw [hAddr i hWidth, decide_eq_false hBefore]
    by_cases hLow : i < 16 - rule.k
    · have hNoIpv4 : ¬ 16 ≤ i := by omega
      have hNoField : ¬ 16 - rule.k ≤ i := by omega
      rw [decide_eq_false hNoIpv4, decide_eq_false hNoField]
      simp
    · have hHigh : 48 ≤ i := by
        by_contra hShort
        exact hOut ⟨Nat.le_of_not_lt hLow, Nat.lt_of_not_le hShort⟩
      rw [BitVec.getLsbD_of_ge ipv4 (i - 16) (by omega), hNoPsid i (by omega)]
      simp

/-- The same for the other layout, where the fields start behind 64 bits and the PSID
has eight. -/
theorem lossless_v6Plus (hLen : cePrefix.prefixLen.toNat = rule.ceLen) (hFits : rule.ceLen ≤ 64)
    (hPsid : ∀ i, 8 ≤ i → psid.getLsbD i = false)
    (hAddr : ∀ i, i < 128 → addr.getLsbD i =
      ((cePrefix.network.getLsbD i && decide (128 - rule.ceLen ≤ i)) ||
        (decide (24 ≤ i) && ipv4.getLsbD (i - 24)) || (decide (8 ≤ i) && psid.getLsbD (i - 8)))) :
    Lossless rule cePrefix .v6Plus ipv4 psid addr := by
  have hNoPsid (i : Nat) (hi : 16 ≤ i) : psid.getLsbD (i - 8) = false := hPsid _ (by omega)
  refine ⟨?_, ?_, ?_, ?_⟩
  · refine agree_of_bits (fun i => (decide (24 ≤ i) && ipv4.getLsbD (i - 24)) ||
      (decide (8 ≤ i) && psid.getLsbD (i - 8)))
      hLen (fun i hi => (hAddr i hi).trans (Bool.or_assoc _ _ _)) ?_
    intro i hi
    rw [BitVec.getLsbD_of_ge ipv4 (i - 24) (by omega), hNoPsid i (by omega)]
    simp
  · apply BitVec.eq_of_getLsbD_eq
    intro i hi
    have hBefore : ¬ 128 - rule.ceLen ≤ 24 + i := by omega
    rw [CeFormat.readIpv4, BitVec.getLsbD_extractLsb', hAddr _ (by omega), decide_eq_false hBefore,
      hNoPsid _ (by omega), Nat.add_sub_cancel_left, decide_eq_true hi,
      decide_eq_true (Nat.le_add_right 24 i)]
    simp
  · apply BitVec.eq_of_getLsbD_eq
    intro i hi
    rw [CeFormat.readPsid, BitVec.getLsbD_setWidth, BitVec.getLsbD_extractLsb', decide_eq_true hi]
    by_cases hLow : i < 8
    · have hNoIpv4 : ¬ 24 ≤ 8 + i := by omega
      have hBefore : ¬ 128 - rule.ceLen ≤ 8 + i := by omega
      rw [hAddr _ (by omega), decide_eq_true hLow, decide_eq_false hBefore,
        decide_eq_false hNoIpv4, decide_eq_true (Nat.le_add_right 8 i), Nat.add_sub_cancel_left]
      simp
    · rw [decide_eq_false hLow, hPsid i (Nat.le_of_not_lt hLow), Bool.false_and, Bool.and_false]
  · intro i hi hOut
    have hWidth : i < 128 := by omega
    have hBefore : ¬ 128 - rule.ceLen ≤ i := by omega
    rw [hAddr i hWidth, decide_eq_false hBefore]
    have hIpv4 : (decide (24 ≤ i) && ipv4.getLsbD (i - 24)) = false := by
      by_cases hField : 24 ≤ i
      · rw [BitVec.getLsbD_of_ge ipv4 (i - 24) (by
          by_contra hShort
          exact hOut (Or.inl ⟨hField, by omega⟩)), Bool.and_false]
      · rw [decide_eq_false hField, Bool.false_and]
    have hPsidField : (decide (8 ≤ i) && psid.getLsbD (i - 8)) = false := by
      by_cases hField : 8 ≤ i
      · rw [hNoPsid i (by
          by_contra hShort
          exact hOut (Or.inr ⟨hField, by omega⟩)), Bool.and_false]
      · rw [decide_eq_false hField, Bool.false_and]
    rw [hIpv4, hPsidField]
    simp

/-- The CE address of a consistent rule is built without a panic and is lossless. -/
theorem buildCeIpv6_lossless (rule : MapRule) (cePrefix : Ipv6Net) (format : CeFormat)
    (hConsistent : rule.Consistent) (hLen : cePrefix.prefixLen.toNat = rule.ceLen)
    (hFits : format.Fits rule) :
    ∃ eaBits ipv4 psid addr, extractEaBits cePrefix rule = some (.ok eaBits) ∧
      deriveIpv4AndPsid eaBits rule = some (ipv4, psid) ∧
      buildCeIpv6 cePrefix rule eaBits format = some addr ∧
      Lossless rule cePrefix format ipv4 psid addr := by
  have hEa := hConsistent.ea_lt
  have hLe : rule.ceLen ≤ 128 := hLen.symm.trans_le cePrefix.prefixLen_le
  obtain ⟨eaBits, ipv4, psid, hExtract, hDerive, -, hPsidBits⟩ :=
    exists_eaBits hLen (by omega) hConsistent.k_le
  have hPsid (i : Nat) (hi : rule.k ≤ i) : psid.getLsbD i = false := by
    rw [hPsidBits, decide_eq_false (Nat.not_lt.mpr hi), Bool.false_and]
  cases format with
  | rfc7597 =>
      obtain ⟨addr, hBuild, hAddr⟩ := buildCeIpv6_rfc7597 cePrefix hLe
        hConsistent.k_le hDerive
      exact ⟨eaBits, ipv4, psid, addr, hExtract, hDerive, hBuild,
        lossless_rfc7597 hLen hFits hConsistent.k_le hPsid hAddr⟩
  | v6Plus =>
      obtain ⟨hShort, hk⟩ := hFits
      obtain ⟨addr, hBuild, hAddr⟩ := buildCeIpv6_v6Plus cePrefix hShort hk hDerive
      exact ⟨eaBits, ipv4, psid, addr, hExtract, hDerive, hBuild,
        lossless_v6Plus hLen hShort (fun i hi => hPsid i (hk.trans_le hi)) hAddr⟩

/-- The rule of the tests and one of its prefixes. -/
theorem buildCeIpv6_lossless_testRule :
    (testRule.Consistent ∧ CeFormat.v6Plus.Fits testRule) ∧
    ∃ eaBits ipv4 psid addr,
      extractEaBits ⟨0x20010db8640500000000000000000000, 48, by decide⟩ testRule =
        some (.ok eaBits) ∧
      deriveIpv4AndPsid eaBits testRule = some (ipv4, psid) ∧
      buildCeIpv6 ⟨0x20010db8640500000000000000000000, 48, by decide⟩ testRule eaBits .v6Plus =
        some addr ∧
      Lossless testRule ⟨0x20010db8640500000000000000000000, 48, by decide⟩ .v6Plus ipv4 psid addr :=
  ⟨⟨⟨by decide, by decide⟩, by decide, by decide⟩,
    buildCeIpv6_lossless testRule _ .v6Plus ⟨by decide, by decide⟩ (by decide)
      ⟨by decide, by decide⟩⟩

end Layout

end Mapecd
