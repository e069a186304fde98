import Mapecd.Map.Calc
import Mapecd.Map.Network

/-! Every bit of the EA bits, the IPv4 address, the PSID and the CE address. -/
namespace Mapecd

open Checked Prefix

namespace MapRule

variable (rule : MapRule)

/-- Length of the rule's IPv6 prefix. -/
def r : Nat := rule.ipv6Prefix.prefixLen.toNat

def ea : Nat := rule.eaLength.toNat

def a : Nat := rule.portParams.psidOffset.toNat

def k : Nat := rule.portParams.psidLength.toNat

/-- Number of bits behind the rule's IPv4 prefix. -/
def suffixLen : Nat := 32 - rule.ipv4Prefix.prefixLen.toNat

/-- The length of the CE prefixes that the rule is for. -/
def ceLen : Nat := rule.r + rule.ea

theorem toNat_ceLen : (rule.ipv6Prefix.prefixLen.setWidth 32 : U32).toNat +
    (rule.eaLength.setWidth 32 : U32).toNat = rule.ceLen := by
  rw [toNat_widen32, toNat_widen32]
  rfl

/-- The length of the CE prefix is computed without an overflow. -/
theorem exists_ceLen : ∃ sum : U32,
    add (rule.ipv6Prefix.prefixLen.setWidth 32) (rule.eaLength.setWidth 32) = some sum ∧
      sum.toNat = rule.ceLen := by
  have hSum := rule.toNat_ceLen
  have hr := rule.ipv6Prefix.prefixLen.isLt
  have hea := rule.eaLength.isLt
  obtain ⟨sum, hAdd, hNat⟩ := exists_add (x := (rule.ipv6Prefix.prefixLen.setWidth 32 : U32))
    (y := rule.eaLength.setWidth 32) (by rw [toNat_widen32, toNat_widen32]; omega)
  exact ⟨sum, hAdd, hNat.trans hSum⟩

end MapRule

variable {rule : MapRule} {cePrefix : Ipv6Net} {eaBits : BitVec 64}

/-- Bit `i` of the `ea` bits behind the rule's IPv6 prefix. -/
def eaBit (cePrefix : Ipv6Net) (rule : MapRule) (i : Nat) : Bool :=
  decide (i < rule.ea) && cePrefix.addr.getLsbD (128 - rule.ceLen + i)

/-- The lengths are compared before anything else happens. -/
theorem extractEaBits_mismatch (h : cePrefix.prefixLen.toNat ≠ rule.ceLen) :
    extractEaBits cePrefix rule = some (.error .invalidCePrefix) := by
  obtain ⟨sum, hAdd, hNat⟩ := rule.exists_ceLen
  have hNe : cePrefix.prefixLen.setWidth 32 ≠ sum := by
    intro hSame
    have hSameNat := congrArg BitVec.toNat hSame
    rw [toNat_widen32, hNat] at hSameNat
    exact h hSameNat
  simp only [extractEaBits, hAdd, Option.bind_eq_bind, Option.bind_some, if_pos hNe]
  rfl

/-- The EA bits one by one. More than 64 of them are cut off. -/
theorem extractEaBits_eq (h : cePrefix.prefixLen.toNat = rule.ceLen) (hEa : rule.ea < 128) :
    ∃ eaBits, extractEaBits cePrefix rule = some (.ok eaBits) ∧
      ∀ i, eaBits.getLsbD i = (decide (i < 64) && eaBit cePrefix rule i) := by
  obtain ⟨sum, hAdd, hNat⟩ := rule.exists_ceLen
  have hSame : ¬ cePrefix.prefixLen.setWidth 32 ≠ sum := by
    rw [not_not, ← BitVec.toNat_inj, toNat_widen32, hNat]
    exact h
  have hLe : rule.r + rule.ea ≤ 128 := h.symm.trans_le cePrefix.prefixLen_le
  have hEaNat : (rule.eaLength.setWidth 32 : U32).toNat = rule.ea := toNat_widen32 _
  have hrNat : (rule.ipv6Prefix.prefixLen.setWidth 32 : U32).toNat = rule.r := toNat_widen32 _
  by_cases hZero : rule.ea = 0
  · have hEaZero : (rule.eaLength.setWidth 32 : U32) = 0 :=
      BitVec.eq_of_toNat_eq (hEaNat.trans hZero)
    refine ⟨0, ?_, ?_⟩
    · simp only [extractEaBits, hAdd, Option.bind_eq_bind, Option.bind_some, if_neg hSame,
        if_pos hEaZero]
      rfl
    · intro i
      simp [eaBit, hZero]
  · have hEaPos : ¬ (rule.eaLength.setWidth 32 : U32) = 0 := by
      intro hEq
      exact hZero (hEaNat.symm.trans (congrArg BitVec.toNat hEq))
    have hWidth : (128 : U32).toNat = 128 := rfl
    obtain ⟨upper, hUpper, hUpperNat⟩ := exists_sub (x := (128 : U32))
      (y := rule.ipv6Prefix.prefixLen.setWidth 32) (by omega)
    obtain ⟨shift, hShift, hShiftNat⟩ := exists_sub (x := upper)
      (y := rule.eaLength.setWidth 32) (by omega)
    obtain ⟨one, mask, hOne, hMask, hMaskBits⟩ := exists_lowMask (w := 128)
      (n := (rule.eaLength.setWidth 32 : U32)) (by omega)
    have hShr : shr cePrefix.network shift = some (cePrefix.network >>> shift.toNat) :=
      if_pos (by omega)
    refine ⟨((cePrefix.network >>> shift.toNat) &&& mask).setWidth 64, ?_, ?_⟩
    · simp only [extractEaBits, hAdd, Option.bind_eq_bind, Option.bind_some, if_neg hSame,
        if_neg hEaPos, hUpper, hShift, hOne, hMask, hShr]
      rfl
    · intro i
      have hIndex : shift.toNat = 128 - rule.ceLen := by
        rw [MapRule.ceLen]
        omega
      have hNetwork := cePrefix.agree_network (128 - rule.ceLen + i) (by omega)
      rw [BitVec.getLsbD_setWidth, BitVec.getLsbD_and, BitVec.getLsbD_ushiftRight, hMaskBits,
        hIndex, hNetwork, hEaNat, eaBit, Bool.and_comm (cePrefix.addr.getLsbD _)]

/-- The mask needs a shift by fewer than all bits. -/
theorem ea_lt_of_extractEaBits {result : Except MapEError (BitVec 64)}
    (h : cePrefix.prefixLen.toNat = rule.ceLen)
    (hResult : extractEaBits cePrefix rule = some result) : rule.ea < 128 := by
  obtain ⟨sum, hAdd, hNat⟩ := rule.exists_ceLen
  have hSame : ¬ cePrefix.prefixLen.setWidth 32 ≠ sum := by
    rw [not_not, ← BitVec.toNat_inj, toNat_widen32, hNat]
    exact h
  have hEaNat : (rule.eaLength.setWidth 32 : U32).toNat = rule.ea := toNat_widen32 _
  simp only [extractEaBits, hAdd, Option.bind_eq_bind, Option.bind_some, if_neg hSame] at hResult
  by_cases hZero : (rule.eaLength.setWidth 32 : U32) = 0
  · rw [← hEaNat, hZero]
    decide
  · simp only [if_neg hZero, Option.bind_eq_some_iff] at hResult
    obtain ⟨-, -, shift, -, one, hOne, -⟩ := hResult
    exact hEaNat.symm.trans_lt (lt_of_shl hOne)

/-- The upper EA bits are combined with the rule's IPv4 prefix, the lower `k`
are the PSID. Both are cut to their width. -/
theorem deriveIpv4AndPsid_eq (rule : MapRule) (eaBits : BitVec 64) (hk : rule.k < 64) :
    ∃ ipv4 psid, deriveIpv4AndPsid eaBits rule = some (ipv4, psid) ∧
      (∀ i, ipv4.getLsbD i = (rule.ipv4Prefix.network.getLsbD i ||
        (decide (i < 32) && eaBits.getLsbD (rule.k + i)))) ∧
      ∀ i, psid.getLsbD i = (decide (i < 16) && (eaBits.getLsbD i && decide (i < rule.k))) := by
  have hkNat : (rule.portParams.psidLength.setWidth 32 : U32).toNat = rule.k := toNat_widen32 _
  have hShr : shr eaBits (rule.portParams.psidLength.setWidth 32 : U32) =
      some (eaBits >>> rule.k) := by
    rw [shr, hkNat, if_pos hk]
  obtain ⟨psidMask, hMask, hMaskBits⟩ : ∃ psidMask : BitVec 64,
      (∀ next : BitVec 64 → Result (Ipv4Addr × U16),
        (if (rule.portParams.psidLength.setWidth 32 : U32) = 0 then Option.bind (pure 0) next
        else (shl (1 : BitVec 64) (rule.portParams.psidLength.setWidth 32 : U32)).bind fun one =>
          (sub one 1).bind next) = next psidMask) ∧
      ∀ i, psidMask.getLsbD i = decide (i < rule.k) := by
    by_cases hZero : (rule.portParams.psidLength.setWidth 32 : U32) = 0
    · have hkZero : rule.k = 0 := hkNat.symm.trans (congrArg BitVec.toNat hZero)
      exact ⟨0, fun next => if_pos hZero, fun i => by simp [hkZero]⟩
    · obtain ⟨one, mask, hOne, hMask, hBits⟩ := exists_lowMask (w := 64)
        (n := (rule.portParams.psidLength.setWidth 32 : U32)) (hkNat.trans_lt hk)
      refine ⟨mask, fun next => ?_, fun i => by rw [hBits, hkNat]⟩
      rw [if_neg hZero, hOne, Option.bind_some, hMask, Option.bind_some]
  refine ⟨rule.ipv4Prefix.network ||| (eaBits >>> rule.k).setWidth 32,
    (eaBits &&& psidMask).setWidth 16, ?_, ?_, ?_⟩
  · simp only [deriveIpv4AndPsid, hShr, Option.bind_eq_bind, Option.bind_some]
    exact hMask _
  · intro i
    rw [BitVec.getLsbD_or, BitVec.getLsbD_setWidth, BitVec.getLsbD_ushiftRight]
  · intro i
    rw [BitVec.getLsbD_setWidth, BitVec.getLsbD_and, hMaskBits]

/-- The prefix mask of a CE address keeps the bits of the CE prefix. -/
theorem prefixMask_eq (h : rule.ceLen ≤ 128) {sum : U32} (hSum : sum.toNat = rule.ceLen)
    (next : Ipv6Addr → Result Ipv6Addr) :
    (if sum = 0 then Option.bind (pure 0) next
      else (sub (128 : U32) sum).bind fun rest => (shl (BitVec.allOnes 128) rest).bind next) =
        next (mask 128 rule.ceLen) := by
  have hWidth : (128 : U32).toNat = 128 := rfl
  by_cases hZero : sum = 0
  · have hLen : rule.ceLen = 0 := hSum.symm.trans (congrArg BitVec.toNat hZero)
    have hNone : mask 128 0 = (0 : Ipv6Addr) := by decide
    rw [if_pos hZero, hLen, hNone]
    rfl
  · have hPos : sum.toNat ≠ 0 := fun hNat => hZero (BitVec.eq_of_toNat_eq hNat)
    obtain ⟨rest, hRest, hRestNat⟩ := exists_sub (x := (128 : U32)) (y := sum) (by omega)
    have hShl : shl (BitVec.allOnes 128) rest = some (BitVec.allOnes 128 <<< rest.toNat) :=
      if_pos (by omega)
    rw [if_neg hZero, hRest, Option.bind_some, hShl, Option.bind_some, hRestNat, hSum]
    rfl

/-- Three fields are combined: the prefix, the IPv4 address from bit 16 on and
the PSID at the top of the low 16 bits. -/
theorem buildCeIpv6_rfc7597 (cePrefix : Ipv6Net) {ipv4 : Ipv4Addr} {psid : U16}
    (h : rule.ceLen ≤ 128) (hk : rule.k ≤ 16)
    (hDerive : deriveIpv4AndPsid eaBits rule = some (ipv4, psid)) :
    ∃ addr, buildCeIpv6 cePrefix rule eaBits .rfc7597 = some addr ∧
      ∀ i, i < 128 → addr.getLsbD i =
        ((cePrefix.network.getLsbD i && decide (128 - rule.ceLen ≤ i)) ||
          (decide (16 ≤ i) && ipv4.getLsbD (i - 16)) ||
          (decide (0 < rule.k) && (decide (16 - rule.k ≤ i) && psid.getLsbD (i - (16 - rule.k))))) := by
  obtain ⟨sum, hAdd, hNat⟩ := rule.exists_ceLen
  have hkNat : (rule.portParams.psidLength.setWidth 32 : U32).toNat = rule.k := toNat_widen32 _
  have hSixteen : (16 : U32).toNat = 16 := rfl
  have hPrefix (i : Nat) (hi : i < 128) : (cePrefix.network &&& mask 128 rule.ceLen |||
      ipv4.setWidth 128 <<< 16).getLsbD i =
        ((cePrefix.network.getLsbD i && decide (128 - rule.ceLen ≤ i)) ||
          (decide (16 ≤ i) && ipv4.getLsbD (i - 16))) := by
    have hField : i - 16 < 128 := by omega
    rw [BitVec.getLsbD_or, getLsbD_and_mask, getLsbD_shiftLeft_of_lt _ _ hi, BitVec.getLsbD_setWidth,
      decide_eq_true hField, Bool.true_and]
  by_cases hPos : 0 < rule.k
  · have hkPos : (rule.portParams.psidLength.setWidth 32 : U32) > 0 := by
      rw [gt_iff_lt, BitVec.lt_def, hkNat]
      exact hPos
    obtain ⟨amount, hAmount, hAmountNat⟩ := exists_sub (x := (16 : U32))
      (y := rule.portParams.psidLength.setWidth 32) (by omega)
    have hShl : shl (psid.setWidth 128 : Ipv6Addr) amount =
        some (psid.setWidth 128 <<< amount.toNat) := if_pos (by omega)
    refine ⟨cePrefix.network &&& mask 128 rule.ceLen ||| ipv4.setWidth 128 <<< 16 |||
      psid.setWidth 128 <<< amount.toNat, ?_, ?_⟩
    · simp only [buildCeIpv6, hDerive, hAdd, Option.bind_eq_bind, Option.bind_some,
        if_pos hkPos, hAmount, hShl]
      exact prefixMask_eq h hNat _
    · intro i hi
      have hField : i - amount.toNat < 128 := by omega
      rw [BitVec.getLsbD_or, hPrefix i hi, getLsbD_shiftLeft_of_lt _ _ hi, BitVec.getLsbD_setWidth,
        decide_eq_true hField, Bool.true_and, decide_eq_true hPos, Bool.true_and, hAmountNat,
        hSixteen, hkNat]
  · have hkZero : ¬ (rule.portParams.psidLength.setWidth 32 : U32) > 0 := by
      rw [gt_iff_lt, BitVec.lt_def, hkNat]
      exact hPos
    refine ⟨cePrefix.network &&& mask 128 rule.ceLen ||| ipv4.setWidth 128 <<< 16, ?_, ?_⟩
    · simp only [buildCeIpv6, hDerive, hAdd, Option.bind_eq_bind, Option.bind_some,
        if_neg hkZero]
      exact prefixMask_eq h hNat _
    · intro i hi
      rw [hPrefix i hi, decide_eq_false hPos, Bool.false_and, Bool.or_false]

/-- Octet `j` is moved by 24 bits, like the whole address. -/
theorem getLsbD_octet (ipv4 : Ipv4Addr) {j : Nat} (hj : j ≤ 3) {i : Nat} (hi : i < 128) :
    ((octet ipv4 j).setWidth 128 <<< (48 - 8 * j) : Ipv6Addr).getLsbD i =
      (decide (48 - 8 * j ≤ i ∧ i < 56 - 8 * j) && ipv4.getLsbD (i - 24)) := by
  have hField : i - (48 - 8 * j) < 128 := by omega
  rw [getLsbD_shiftLeft_of_lt _ _ hi, BitVec.getLsbD_setWidth, decide_eq_true hField, octet,
    BitVec.getLsbD_setWidth, BitVec.getLsbD_ushiftRight, Bool.true_and]
  by_cases hLow : 48 - 8 * j ≤ i
  · have hIndex : 24 - 8 * j + (i - (48 - 8 * j)) = i - 24 := by omega
    have hHigh : i - (48 - 8 * j) < 8 ↔ i < 56 - 8 * j := by omega
    simp only [hLow, hIndex, hHigh, decide_true, Bool.true_and, true_and]
  · simp only [hLow, decide_false, Bool.false_and, false_and]

/-- The four octets next to each other are the address. -/
theorem octets_eq (ipv4 : Ipv4Addr) :
    ((octet ipv4 0).setWidth 128 <<< 48 |||
        ((octet ipv4 1).setWidth 128 <<< 8 ||| (octet ipv4 2).setWidth 128) <<< 32 |||
      (octet ipv4 3).setWidth 128 <<< 24 : Ipv6Addr) = ipv4.setWidth 128 <<< 24 := by
  apply BitVec.eq_of_getLsbD_eq
  intro i hi
  have h0 := getLsbD_octet ipv4 (j := 0) (by omega) hi
  have h1 := getLsbD_octet ipv4 (j := 1) (by omega) hi
  have h2 := getLsbD_octet ipv4 (j := 2) (by omega) hi
  have h3 := getLsbD_octet ipv4 (j := 3) (by omega) hi
  have hField : i - 24 < 128 := by omega
  rw [BitVec.shiftLeft_or_distrib, ← BitVec.shiftLeft_add, BitVec.getLsbD_or, BitVec.getLsbD_or,
    BitVec.getLsbD_or, h0, h1, h2, h3, getLsbD_shiftLeft_of_lt _ _ hi, BitVec.getLsbD_setWidth,
    decide_eq_true hField, Bool.true_and]
  cases hBit : ipv4.getLsbD (i - 24) with
  | false => simp only [Bool.and_false, Bool.or_false]
  | true =>
      have hInside : i - 24 < 32 := BitVec.lt_of_getLsbD hBit
      simp only [Bool.and_true, ← Bool.decide_or]
      apply decide_eq_decide.mpr
      omega

/-- A v6plus address is built only behind the assertions. -/
theorem layout_of_buildCeIpv6 {addr : Ipv6Addr}
    (h : buildCeIpv6 cePrefix rule eaBits .v6Plus = some addr) : rule.ceLen ≤ 64 ∧ rule.k = 8 := by
  obtain ⟨sum, hAdd, hNat⟩ := rule.exists_ceLen
  simp only [buildCeIpv6, hAdd, Option.bind_eq_bind, Option.bind_eq_some_iff,
    Option.bind_some] at h
  obtain ⟨derived, -, h⟩ := h
  have hAsserts : debugAssert (sum ≤ 64) = some () ∧
      debugAssert (rule.portParams.psidLength = 8) = some () := by
    split_ifs at h with hZero
    · simp only [Option.pure_def, Option.bind_some, Option.bind_eq_some_iff] at h
      obtain ⟨_, hLen, _, hk, -⟩ := h
      exact ⟨hLen, hk⟩
    · simp only [Option.bind_eq_some_iff] at h
      obtain ⟨-, -, -, -, _, hLen, _, hk, -⟩ := h
      exact ⟨hLen, hk⟩
  have hLen := debugAssert_eq_some.mp hAsserts.1
  rw [BitVec.le_def, hNat] at hLen
  exact ⟨hLen, congrArg BitVec.toNat (debugAssert_eq_some.mp hAsserts.2)⟩

/-- With the assertions the same fields stand at other positions. -/
theorem buildCeIpv6_v6Plus (cePrefix : Ipv6Net) {ipv4 : Ipv4Addr} {psid : U16}
    (h : rule.ceLen ≤ 64) (hk : rule.k = 8)
    (hDerive : deriveIpv4AndPsid eaBits rule = some (ipv4, psid)) :
    ∃ addr, buildCeIpv6 cePrefix rule eaBits .v6Plus = some addr ∧
      ∀ i, i < 128 → addr.getLsbD i =
        ((cePrefix.network.getLsbD i && decide (128 - rule.ceLen ≤ i)) ||
          (decide (24 ≤ i) && ipv4.getLsbD (i - 24)) ||
          (decide (8 ≤ i) && psid.getLsbD (i - 8))) := by
  obtain ⟨sum, hAdd, hNat⟩ := rule.exists_ceLen
  have hSum : sum ≤ 64 := by
    rw [BitVec.le_def, hNat]
    exact h
  have hLength : rule.portParams.psidLength = 8 := BitVec.eq_of_toNat_eq hk
  refine ⟨cePrefix.network &&& mask 128 rule.ceLen ||| ipv4.setWidth 128 <<< 24 |||
    psid.setWidth 128 <<< 8, ?_, ?_⟩
  · simp only [buildCeIpv6, hDerive, hAdd, Option.bind_eq_bind, Option.bind_some, debugAssert,
      if_pos hSum, if_pos hLength]
    rw [prefixMask_eq (h.trans (by decide)) hNat, ← octets_eq]
    simp only [BitVec.or_assoc, pure]
  · intro i hi
    have hIpv4 : i - 24 < 128 := by omega
    have hPsid : i - 8 < 128 := by omega
    rw [BitVec.getLsbD_or, BitVec.getLsbD_or, getLsbD_and_mask, getLsbD_shiftLeft_of_lt _ _ hi,
      getLsbD_shiftLeft_of_lt _ _ hi, BitVec.getLsbD_setWidth, BitVec.getLsbD_setWidth,
      decide_eq_true hIpv4, decide_eq_true hPsid, Bool.true_and, Bool.true_and]

/-- Every pattern of EA bits belongs to a CE prefix of the rule. -/
theorem exists_cePrefix (hLe : rule.ceLen ≤ 128) (bits : Nat → Bool) :
    ∃ cePrefix : Ipv6Net, cePrefix.prefixLen.toNat = rule.ceLen ∧
      rule.ipv6Prefix.Contains cePrefix.addr ∧
      Truncated cePrefix.prefixLen.toNat cePrefix.addr ∧
      ∀ j, j < rule.ea → eaBit cePrefix rule j = bits j := by
  have hSum : rule.ceLen = rule.r + rule.ea := rfl
  have hLen : (BitVec.ofNat 8 rule.ceLen).toNat = rule.ceLen := by
    rw [BitVec.toNat_ofNat]
    exact Nat.mod_eq_of_lt (hLe.trans_lt (by decide))
  obtain ⟨eaField, hField⟩ := exists_bits 128 fun i =>
    decide (128 - rule.ceLen ≤ i ∧ i < 128 - rule.r) && bits (i - (128 - rule.ceLen))
  have hOutside (i : Nat) (hi : ¬ (128 - rule.ceLen ≤ i ∧ i < 128 - rule.r)) :
      eaField.getLsbD i = false := by
    by_cases hWidth : i < 128
    · rw [hField i hWidth, decide_eq_false hi, Bool.false_and]
    · exact BitVec.getLsbD_of_ge _ _ (Nat.le_of_not_lt hWidth)
  refine ⟨⟨rule.ipv6Prefix.network ||| eaField, BitVec.ofNat 8 rule.ceLen, hLen.trans_le hLe⟩, hLen,
    ?_, ?_, ?_⟩
  · rw [Ipv6Net.contains_iff]
    intro i hi
    change 128 - rule.r ≤ i at hi
    rw [BitVec.getLsbD_or, hOutside i (by omega), Bool.or_false, rule.ipv6Prefix.agree_network i hi]
  · intro i hi
    change i < 128 - (BitVec.ofNat 8 rule.ceLen).toNat at hi
    have hPrefix : i < 128 - rule.r := by omega
    rw [BitVec.getLsbD_or, hOutside i (by omega), Bool.or_false,
      rule.ipv6Prefix.truncated_network i hPrefix]
  · intro j hj
    have hIn : 128 - rule.ceLen ≤ 128 - rule.ceLen + j ∧ 128 - rule.ceLen + j < 128 - rule.r := by
      omega
    change (decide (j < rule.ea) && (rule.ipv6Prefix.network ||| eaField).getLsbD _) = bits j
    rw [BitVec.getLsbD_or, hField _ (by omega), decide_eq_true hIn, Nat.add_sub_cancel_left,
      rule.ipv6Prefix.truncated_network _ hIn.2, decide_eq_true hj]
    simp

section Computed

/-- Bit `i` of the derived IPv4 address. -/
def ipv4Bit (cePrefix : Ipv6Net) (rule : MapRule) (i : Nat) : Bool :=
  rule.ipv4Prefix.network.getLsbD i || (decide (i < 32) && eaBit cePrefix rule (rule.k + i))

/-- Bit `i` of the two fields behind the prefix. A PSID bit and an IPv4 suffix
bit stand at the same distance from their EA bit. -/
def fieldBit (cePrefix : Ipv6Net) (rule : MapRule) (i : Nat) : Bool :=
  (decide (16 ≤ i) && rule.ipv4Prefix.network.getLsbD (i - 16)) ||
    (decide (16 - rule.k ≤ i ∧ i < 48) && eaBit cePrefix rule (i - (16 - rule.k)))

/-- The steps of the computation when the lengths match and the widths suffice. -/
theorem exists_eaBits (h : cePrefix.prefixLen.toNat = rule.ceLen) (hEa : rule.ea < 128)
    (hk : rule.k ≤ 16) :
    ∃ eaBits ipv4 psid, extractEaBits cePrefix rule = some (.ok eaBits) ∧
      deriveIpv4AndPsid eaBits rule = some (ipv4, psid) ∧
      (∀ i, ipv4.getLsbD i = ipv4Bit cePrefix rule i) ∧
      ∀ i, psid.getLsbD i = (decide (i < rule.k) && eaBit cePrefix rule i) := by
  obtain ⟨eaBits, hExtract, hBits⟩ := extractEaBits_eq h hEa
  obtain ⟨ipv4, psid, hDerive, hIpv4, hPsid⟩ := deriveIpv4AndPsid_eq rule eaBits (by omega)
  refine ⟨eaBits, ipv4, psid, hExtract, hDerive, ?_, ?_⟩
  · intro i
    rw [hIpv4, hBits, ipv4Bit]
    by_cases hi : i < 32
    · have hInside : rule.k + i < 64 := by omega
      simp only [hi, hInside, decide_true, Bool.true_and]
    · simp only [hi, decide_false, Bool.false_and]
  · intro i
    rw [hPsid, hBits, Bool.and_comm (decide (i < 64) && _)]
    by_cases hi : i < rule.k
    · have hInside : i < 64 := by omega
      have hShort : i < 16 := by omega
      simp only [hi, hInside, hShort, decide_true, Bool.true_and]
    · simp only [hi, decide_false, Bool.false_and, Bool.and_false]

/-- The computed parameters, bit by bit. -/
theorem exists_computed (h : cePrefix.prefixLen.toNat = rule.ceLen) (hEa : rule.ea < 128)
    (hFits : rule.a + rule.k ≤ 16) :
    ∃ params, computeMapeParams cePrefix rule .rfc7597 = some (.ok params) ∧
      (∀ i, params.ipv4.getLsbD i = ipv4Bit cePrefix rule i) ∧
      ∀ i, i < 128 → params.ceIpv6.getLsbD i =
        (cePrefix.network.getLsbD i || fieldBit cePrefix rule i) := by
  have hk : rule.k ≤ 16 := by omega
  have hLen : rule.ceLen ≤ 128 := h.symm.trans_le cePrefix.prefixLen_le
  obtain ⟨eaBits, ipv4, psid, hExtract, hDerive, hIpv4, hPsid⟩ := exists_eaBits h hEa hk
  obtain ⟨addr, hBuild, hAddr⟩ := buildCeIpv6_rfc7597 cePrefix hLen hk hDerive
  obtain ⟨ranges, hRanges, -⟩ := calcPortRanges_eq_nil_iff rule.portParams psid hFits
  let params : MapeParams :=
    { ceIpv6 := addr, ipv4 := ipv4, psid := psid, portRanges := ranges
      brAddress := rule.brAddress, rule := rule, ceFormat := .rfc7597 }
  refine ⟨params, ?_, hIpv4, ?_⟩
  · simp only [computeMapeParams, hExtract, hDerive, hBuild, hRanges, Option.bind_eq_bind,
      Option.bind_some]
    rfl
  · intro i hi
    have hNetwork : (cePrefix.network.getLsbD i && decide (128 - rule.ceLen ≤ i)) =
        cePrefix.network.getLsbD i := by
      by_cases hIn : 128 - rule.ceLen ≤ i
      · rw [decide_eq_true hIn, Bool.and_true]
      · rw [cePrefix.truncated_network i (by omega), Bool.false_and]
    rw [hAddr i hi, hNetwork, Bool.or_assoc, hPsid, hIpv4, ipv4Bit, fieldBit]
    congr 1
    by_cases hIpv4Field : 16 ≤ i
    · have hNoPsid : ¬ i - (16 - rule.k) < rule.k := by omega
      have hInside : 16 - rule.k ≤ i := by omega
      have hIndex : rule.k + (i - 16) = i - (16 - rule.k) := by omega
      have hBound : i - 16 < 32 ↔ i < 48 := by omega
      simp only [hIpv4Field, hNoPsid, hInside, hIndex, hBound, decide_true, decide_false,
        Bool.true_and, Bool.false_and, Bool.and_false, Bool.or_false, true_and]
    · have hShort : i < 48 := by omega
      simp only [hIpv4Field, hShort, decide_false, Bool.false_and, Bool.false_or, and_true]
      by_cases hPsidField : 16 - rule.k ≤ i
      · have hPos : 0 < rule.k := by omega
        have hInside : i - (16 - rule.k) < rule.k := by omega
        simp only [hPsidField, hPos, hInside, decide_true, Bool.true_and]
      · simp only [hPsidField, decide_false, Bool.false_and, Bool.and_false]

/-- With matching lengths a result is there only if the EA bits fit in the mask
and the port parameters in a port. -/
theorem computeMapeParams_fits {result : Except MapEError MapeParams}
    (hLen : cePrefix.prefixLen.toNat = rule.ceLen)
    (h : computeMapeParams cePrefix rule .rfc7597 = some result) :
    rule.ea < 128 ∧ rule.a + rule.k ≤ 16 := by
  simp only [computeMapeParams, Option.bind_eq_bind, Option.bind_eq_some_iff] at h
  obtain ⟨extracted, hExtract, h⟩ := h
  have hEa := ea_lt_of_extractEaBits hLen hExtract
  obtain ⟨eaBits, hSome, -⟩ := extractEaBits_eq hLen hEa
  cases Option.some.inj (hSome.symm.trans hExtract)
  simp only [Option.bind_eq_some_iff] at h
  obtain ⟨derived, -, addr, -, ranges, hRanges, -⟩ := h
  exact ⟨hEa, calcPortRanges_fits hRanges⟩

theorem computeMapeParams_mismatch (h : cePrefix.prefixLen.toNat ≠ rule.ceLen) (format : CeFormat) :
    computeMapeParams cePrefix rule format = some (.error .invalidCePrefix) := by
  simp only [computeMapeParams, extractEaBits_mismatch h, Option.bind_eq_bind, Option.bind_some]
  rfl

end Computed

end Mapecd
