import Mapecd.Error
import Mapecd.Map.PortSet

/-! EA bits, IPv4 address, PSID and CE address. -/
namespace Mapecd

open Checked

/-- The EA bits stand directly behind the rule prefix. -/
def extractEaBits (cePrefix : Ipv6Net) (rule : MapRule) :
    Result (Except MapEError (BitVec 64)) := do
  let r : U32 := rule.ipv6Prefix.prefixLen.setWidth 32
  let eaLen : U32 := rule.eaLength.setWidth 32
  if cePrefix.prefixLen.setWidth 32 ≠ (← add r eaLen) then
    return .error .invalidCePrefix
  if eaLen = 0 then
    return .ok 0
  let shift ← sub (← sub (128 : U32) r) eaLen
  let mask ← sub (← shl (1 : BitVec 128) eaLen) 1
  let eaBits := (← shr cePrefix.network shift) &&& mask
  return .ok (eaBits.setWidth 64)

/-- The upper EA bits are the suffix of the IPv4 address, the lower ones the PSID. -/
def deriveIpv4AndPsid (eaBits : BitVec 64) (rule : MapRule) : Result (Ipv4Addr × U16) := do
  let k : U32 := rule.portParams.psidLength.setWidth 32
  let psidMask ← if k = 0 then pure (0 : BitVec 64) else do sub (← shl (1 : BitVec 64) k) 1
  let psid : U16 := (eaBits &&& psidMask).setWidth 16
  let ipv4Suffix : U32 := (← shr eaBits k).setWidth 32
  return (rule.ipv4Prefix.network ||| ipv4Suffix, psid)

/-- Octet `i` of an address, the first one at index zero. -/
def octet (addr : Ipv4Addr) (i : Nat) : U8 := (addr >>> (24 - 8 * i)).setWidth 8

/-- The interface identifier by the two formats, below the delegated prefix. -/
def buildCeIpv6 (cePrefix : Ipv6Net) (rule : MapRule) (eaBits : BitVec 64) (format : CeFormat) :
    Result Ipv6Addr := do
  let (ipv4, psid) ← deriveIpv4AndPsid eaBits rule
  let rPlusEa ← add (rule.ipv6Prefix.prefixLen.setWidth 32 : U32) (rule.eaLength.setWidth 32)
  let prefixMask ← if rPlusEa = 0 then pure (0 : Ipv6Addr) else do
    shl (BitVec.allOnes 128) (← sub (128 : U32) rPlusEa)
  let addr := cePrefix.network &&& prefixMask
  match format with
  | .rfc7597 =>
      let addr := addr ||| (ipv4.setWidth 128 <<< 16)
      let k : U32 := rule.portParams.psidLength.setWidth 32
      if k > 0 then
        return addr ||| (← shl (psid.setWidth 128 : Ipv6Addr) (← sub (16 : U32) k))
      return addr
  | .v6Plus =>
      debugAssert (rPlusEa ≤ 64)
      debugAssert (rule.portParams.psidLength = 8)
      let addr := addr ||| ((octet ipv4 0).setWidth 128 <<< 48)
      let addr := addr |||
        (((octet ipv4 1).setWidth 128 <<< 8 ||| (octet ipv4 2).setWidth 128) <<< 32)
      let addr := addr ||| ((octet ipv4 3).setWidth 128 <<< 24)
      return addr ||| (psid.setWidth 128 <<< 8)

/-- The parameters of a CE. Errors are those of `extract_ea_bits`. -/
def computeMapeParams (cePrefix : Ipv6Net) (rule : MapRule) (format : CeFormat) :
    Result (Except MapEError MapeParams) := do
  match ← extractEaBits cePrefix rule with
  | .error e => return .error e
  | .ok eaBits =>
      let (ipv4, psid) ← deriveIpv4AndPsid eaBits rule
      let ceIpv6 ← buildCeIpv6 cePrefix rule eaBits format
      let portRanges ← calcPortRanges rule.portParams psid
      return .ok
        { ceIpv6 := ceIpv6
          ipv4 := ipv4
          psid := psid
          portRanges := portRanges
          brAddress := rule.brAddress
          rule := rule
          ceFormat := format }

variable {cePrefix : Ipv6Net} {rule : MapRule} {format : CeFormat} {params : MapeParams}

/-- The steps of a computation that succeeds. -/
theorem computeMapeParams_steps (h : computeMapeParams cePrefix rule format = some (.ok params)) :
    ∃ eaBits, extractEaBits cePrefix rule = some (.ok eaBits) ∧
      deriveIpv4AndPsid eaBits rule = some (params.ipv4, params.psid) ∧
      buildCeIpv6 cePrefix rule eaBits format = some params.ceIpv6 ∧
      calcPortRanges rule.portParams params.psid = some params.portRanges ∧ params.rule = rule := by
  simp only [computeMapeParams, Option.bind_eq_bind, Option.bind_eq_some_iff] at h
  obtain ⟨extracted, hExtract, h⟩ := h
  cases extracted with
  | error e => cases h
  | ok eaBits =>
      simp only [Option.bind_eq_some_iff] at h
      obtain ⟨⟨ipv4, psid⟩, hDerive, ceIpv6, hBuild, ranges, hRanges, h⟩ := h
      cases h
      exact ⟨eaBits, hExtract, hDerive, hBuild, hRanges, rfl⟩

end Mapecd
