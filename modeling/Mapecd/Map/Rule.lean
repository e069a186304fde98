import Mapecd.Common.PsidConfig

/-! Rules, prefixes and the result of the MAP-E computation. -/
namespace Mapecd

abbrev Ipv4Addr := BitVec 32
abbrev Ipv6Addr := BitVec 128

/-- An address with a prefix length, as the constructor `new` accepts it. Host
bits may be set. -/
structure Ipv4Net where
  addr : Ipv4Addr
  prefixLen : U8
  prefixLen_le : prefixLen.toNat ≤ 32
deriving DecidableEq, Repr

/-- An address with the length of its prefix, which may have bits behind it. -/
structure Ipv6Net where
  addr : Ipv6Addr
  prefixLen : U8
  prefixLen_le : prefixLen.toNat ≤ 128
deriving DecidableEq, Repr

namespace Ipv4Net

def new (addr : Ipv4Addr) (prefixLen : U8) : Option Ipv4Net :=
  if h : prefixLen.toNat ≤ 32 then some ⟨addr, prefixLen, h⟩ else none

def netmask (net : Ipv4Net) : Ipv4Addr := BitVec.allOnes 32 <<< (32 - net.prefixLen.toNat)

def network (net : Ipv4Net) : Ipv4Addr := net.addr &&& net.netmask

end Ipv4Net

namespace Ipv6Net

def new (addr : Ipv6Addr) (prefixLen : U8) : Option Ipv6Net :=
  if h : prefixLen.toNat ≤ 128 then some ⟨addr, prefixLen, h⟩ else none

def netmask (net : Ipv6Net) : Ipv6Addr := BitVec.allOnes 128 <<< (128 - net.prefixLen.toNat)

def network (net : Ipv6Net) : Ipv6Addr := net.addr &&& net.netmask

def broadcast (net : Ipv6Net) : Ipv6Addr := net.addr ||| ~~~net.netmask

/-- `contains` for one address. -/
def Contains (net : Ipv6Net) (other : Ipv6Addr) : Prop :=
  net.network ≤ other ∧ other ≤ net.broadcast

instance (net : Ipv6Net) (other : Ipv6Addr) : Decidable (net.Contains other) :=
  inferInstanceAs (Decidable (_ ∧ _))

end Ipv6Net

/-- The two layouts of the interface identifier. -/
inductive CeFormat where
  | rfc7597
  | v6Plus
deriving DecidableEq, Repr

/-- `OPTION_S46_PORTPARAMS`. -/
structure PortParams where
  /-- a -/
  psidOffset : U8
  /-- k -/
  psidLength : U8
deriving DecidableEq, Repr

def PortParams.default : PortParams := { psidOffset := 0, psidLength := 0 }

/-- A mapping rule with the border relay that serves it. -/
structure MapRule where
  ipv6Prefix : Ipv6Net
  ipv4Prefix : Ipv4Net
  eaLength : U8
  isFmr : Bool
  brAddress : Ipv6Addr
  portParams : PortParams
deriving DecidableEq, Repr

/-- Ports from `start` to `stop`, both included. -/
structure RangeInclusive where
  start : U16
  stop : U16
deriving DecidableEq, Repr

/-- What a CE needs to take part in its domain. -/
structure MapeParams where
  ceIpv6 : Ipv6Addr
  ipv4 : Ipv4Addr
  psid : U16
  portRanges : List RangeInclusive
  brAddress : Ipv6Addr
  rule : MapRule
  ceFormat : CeFormat
deriving DecidableEq, Repr

/-- `2001:db8::/32`, the prefix of the rules in the tests. -/
def testNet6 : Ipv6Net := ⟨0x20010db8000000000000000000000000, 32, by decide⟩

/-- `192.0.2.0/24`, the addresses of the rules in the tests. -/
def testNet4 : Ipv4Net := ⟨0xc0000200, 24, by decide⟩

/-- The single address `192.0.2.1`. -/
def testHost : Ipv4Net := ⟨0xc0000201, 32, by decide⟩

/-- A subscriber's prefix inside `testNet6`, `2001:db8:1234::/48`. -/
def nestedPrefix : Ipv6Net := ⟨0x20010db8123400000000000000000000, 48, by decide⟩

/-- Parameters in `2001:db8::/32`, as the tests of the daemon build them. -/
def makeParams (ceIpv6 : Ipv6Addr) (ipv4 : Ipv4Addr) (brAddress : Ipv6Addr) (psid : U16)
    (portParams : PortParams) : MapeParams :=
  { ceIpv6 := ceIpv6, ipv4 := ipv4, psid := psid, portRanges := [⟨1, 65535⟩]
    brAddress := brAddress
    rule :=
      { ipv6Prefix := testNet6
        ipv4Prefix := testNet4
        eaLength := 40, isFmr := true, brAddress := brAddress, portParams := portParams }
    ceFormat := .rfc7597 }

end Mapecd
