import Mapecd.Daemon.State

/-! The ruleset of the daemon. -/
namespace Mapecd

open Effects

/-- The whole ruleset in one transaction. Neither flush removes the elements of the set. -/
def generateRuleset (portRanges : List RangeInclusive) (tunnelInterface : String)
    (brAddress : Ipv6Addr) (stagingRange : U16 × U16) : List NftCommand :=
  [.addTableIp, .flushTableIp, .addTableIp6, .flushTableIp6,
    .tableIp portRanges
      [{ oifname := tunnelInterface, l4protos := [.tcp, .udp, .icmp]
         portMin := stagingRange.1, portMax := stagingRange.2 }]
      [.oifname tunnelInterface, .iifname tunnelInterface],
    .tableIp6 [brAddress]]

/-- The tables after the ruleset ran: the rules are new, the elements of the
set are added to those that were there. -/
def installedTables (tables : NftTables) (portRanges : List RangeInclusive)
    (tunnelInterface : String) (brAddress : Ipv6Addr) (range : U16 × U16) : NftTables :=
  { ip := some
      { portRanges := (tables.ip.getD ⟨∅, [], []⟩).portRanges ∪ portRanges.toFinset
        postrouting := [{ oifname := tunnelInterface, l4protos := [.tcp, .udp, .icmp]
                          portMin := range.1, portMax := range.2 }]
        forward := [.oifname tunnelInterface, .iifname tunnelInterface] }
    ip6 := some { prerouting := [brAddress] } }

theorem runAll_generateRuleset (tables : NftTables) (portRanges : List RangeInclusive)
    (tunnelInterface : String) (brAddress : Ipv6Addr) (range : U16 × U16) :
    NftCommand.runAll (generateRuleset portRanges tunnelInterface brAddress range) tables =
      .ok (installedTables tables portRanges tunnelInterface brAddress range) := by
  obtain ⟨ip, ip6⟩ := tables
  cases ip <;> cases ip6 <;> rfl

/-- Replace the rules in one transaction. -/
def applyRuleset (portRanges : List RangeInclusive) (tunnelInterface : String)
    (brAddress : Ipv6Addr) (stagingRange : U16 × U16) : DaemonM Unit := do
  if portRanges.isEmpty then
    fail .emptyPortRanges
  request (.nftError "nft exited with") (Kernel.runNft
    (generateRuleset portRanges tunnelInterface brAddress stagingRange))

/-- Both tables are there, or neither. -/
def NftTables.Paired (tables : NftTables) : Prop := tables.ip.isSome = tables.ip6.isSome

theorem runNft_generateRuleset (k : Kernel) (portRanges : List RangeInclusive)
    (tunnelInterface : String) (brAddress : Ipv6Addr) (range : U16 × U16) :
    Kernel.runNft (generateRuleset portRanges tunnelInterface brAddress range) k =
      .ok ((), k.withNft (installedTables k.nft portRanges tunnelInterface brAddress range)) := by
  rw [Kernel.runNft, runAll_generateRuleset]

def deleteTables : DaemonM Unit :=
  request (.nftError "nft exited with") (Kernel.runNft [.deleteTableIp, .deleteTableIp6])

end Mapecd
