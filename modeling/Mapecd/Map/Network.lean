import Mapecd.Map.Rule
import Mapecd.Semantics.Prefix

/-! Prefixes of addresses: the addresses they contain are those that share
their leading bits. -/
namespace Mapecd

open Prefix

namespace Ipv4Net

/-- The prefix without host bits. -/
def trunc (net : Ipv4Net) : Ipv4Net := ⟨net.network, net.prefixLen, net.prefixLen_le⟩

def broadcast (net : Ipv4Net) : Ipv4Addr := net.addr ||| ~~~net.netmask

/-- `contains` for one address. -/
def Contains (net : Ipv4Net) (other : Ipv4Addr) : Prop :=
  net.network ≤ other ∧ other ≤ net.broadcast

instance (net : Ipv4Net) (other : Ipv4Addr) : Decidable (net.Contains other) :=
  inferInstanceAs (Decidable (_ ∧ _))

variable (net : Ipv4Net)

theorem agree_network : Agree net.prefixLen.toNat net.network net.addr := agree_and_mask _ _

theorem truncated_network : Truncated net.prefixLen.toNat net.network := truncated_and_mask _ _

theorem contains_iff {other : Ipv4Addr} :
    net.Contains other ↔ Agree net.prefixLen.toNat other net.addr := between_iff_agree

variable {net}

theorem trunc_eq (h : Truncated net.prefixLen.toNat net.addr) : net.trunc = net := by
  cases net with
  | mk addr prefixLen prefixLen_le =>
      have hSame : addr &&& mask 32 prefixLen.toNat = addr := Truncated.and_mask h
      exact congrArg (fun addr => Ipv4Net.mk addr prefixLen prefixLen_le) hSame

end Ipv4Net

namespace Ipv6Net

def trunc (net : Ipv6Net) : Ipv6Net := ⟨net.network, net.prefixLen, net.prefixLen_le⟩

variable (net : Ipv6Net)

theorem agree_network : Agree net.prefixLen.toNat net.network net.addr := agree_and_mask _ _

theorem truncated_network : Truncated net.prefixLen.toNat net.network := truncated_and_mask _ _

theorem contains_iff {other : Ipv6Addr} :
    net.Contains other ↔ Agree net.prefixLen.toNat other net.addr := between_iff_agree

variable {net}

theorem trunc_eq (h : Truncated net.prefixLen.toNat net.addr) : net.trunc = net := by
  cases net with
  | mk addr prefixLen prefixLen_le =>
      have hSame : addr &&& mask 128 prefixLen.toNat = addr := Truncated.and_mask h
      exact congrArg (fun addr => Ipv6Net.mk addr prefixLen prefixLen_le) hSame

/-- There is one network of length zero. -/
theorem eq_of_prefixLen_zero (hLen : net.prefixLen = 0)
    (h : Truncated net.prefixLen.toNat net.addr) : net = ⟨0, 0, by decide⟩ := by
  cases net with
  | mk addr prefixLen prefixLen_le =>
      cases hLen
      have hZero : addr = 0 := BitVec.eq_of_getLsbD_eq fun i hi => (h i hi).trans (by simp)
      cases hZero
      rfl

end Ipv6Net

end Mapecd
