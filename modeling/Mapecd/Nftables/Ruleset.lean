import Mapecd.Map.Rule
import Mapecd.Error
import Mathlib.Data.Finset.Basic

/-! The nft commands that the daemon sends and their effect on the two tables.
A script is one transaction. `flush table` empties the chains of a table and
keeps the elements of its sets, as nft documents it. -/
namespace Mapecd

/-- The protocols that masquerading matches. -/
inductive L4Proto where
  | tcp
  | udp
  | icmp
deriving DecidableEq, Repr

/-- `oifname … meta l4proto { … } masquerade to :min-max`. -/
structure MasqueradeRule where
  oifname : String
  l4protos : List L4Proto
  portMin : U16
  portMax : U16
deriving DecidableEq, Repr

/-- One rule of the forward chain. -/
inductive LinkMatch where
  | oifname (name : String)
  | iifname (name : String)
deriving DecidableEq, Repr

/-- Table `ip mapecd`: the set `port_ranges`, the NAT rules and the rules that
clamp the segment size to the path MTU. -/
structure NftIpTable where
  portRanges : Finset RangeInclusive
  postrouting : List MasqueradeRule
  forward : List LinkMatch
deriving DecidableEq

/-- Table `ip6 mapecd`: encapsulated packets from other sources than these are dropped. -/
structure NftIp6Table where
  prerouting : List Ipv6Addr
deriving DecidableEq

/-- The two tables of the daemon. -/
structure NftTables where
  ip : Option NftIpTable
  ip6 : Option NftIp6Table
deriving DecidableEq

def NftTables.none : NftTables := { ip := Option.none, ip6 := Option.none }

/-- The commands of a ruleset, a table with its content being one of them. -/
inductive NftCommand where
  | addTableIp
  | flushTableIp
  | addTableIp6
  | flushTableIp6
  | tableIp (elements : List RangeInclusive) (postrouting : List MasqueradeRule)
      (forward : List LinkMatch)
  | tableIp6 (prerouting : List Ipv6Addr)
  | deleteTableIp
  | deleteTableIp6
deriving DecidableEq

namespace NftCommand

/-- Elements and rules of a table block are added to what the table holds. -/
def run (tables : NftTables) : NftCommand → Except Errno NftTables
  | addTableIp => .ok { tables with ip := some (tables.ip.getD ⟨∅, [], []⟩) }
  | addTableIp6 => .ok { tables with ip6 := some (tables.ip6.getD ⟨[]⟩) }
  | flushTableIp =>
      match tables.ip with
      | some table => .ok { tables with ip := some { table with postrouting := [], forward := [] } }
      | none => .error .enoent
  | flushTableIp6 =>
      match tables.ip6 with
      | some _ => .ok { tables with ip6 := some { prerouting := [] } }
      | none => .error .enoent
  | tableIp elements postrouting forward =>
      let table := tables.ip.getD ⟨∅, [], []⟩
      let table' : NftIpTable :=
        { portRanges := table.portRanges ∪ elements.toFinset
          postrouting := table.postrouting ++ postrouting
          forward := table.forward ++ forward }
      .ok { tables with ip := some table' }
  | tableIp6 prerouting =>
      let table := tables.ip6.getD ⟨[]⟩
      .ok { tables with ip6 := some { prerouting := table.prerouting ++ prerouting } }
  | deleteTableIp =>
      match tables.ip with
      | some _ => .ok { tables with ip := Option.none }
      | none => .error .enoent
  | deleteTableIp6 =>
      match tables.ip6 with
      | some _ => .ok { tables with ip6 := Option.none }
      | none => .error .enoent

def runAll (script : List NftCommand) (tables : NftTables) : Except Errno NftTables :=
  script.foldlM run tables

end NftCommand

end Mapecd
