import Mapecd.Nftables.Ruleset
import Mapecd.Semantics.Requests

/-! The part of the kernel that the daemon configures, with one operation for
each request. The upstream link exists before the daemon starts; the tunnel is
the only link the daemon creates. -/
namespace Mapecd

open Effects

/-- The attributes of a link that the daemon reads, the others by their number. -/
inductive LinkAttribute where
  | mtu (value : Nat)
  | other (kind : Nat)
deriving DecidableEq, Repr

/-- Reply to `RTM_GETLINK`. -/
structure LinkMessage where
  index : Nat
  attributes : List LinkAttribute
deriving DecidableEq, Repr

/-- The link towards the provider. It exists throughout. -/
structure UpstreamLink where
  name : String
  ifindex : Nat
  mtu : Nat
  /-- the assigned `/128` addresses -/
  addrs : Finset Ipv6Addr
deriving DecidableEq

/-- The attributes of `RTM_NEWLINK` for an ip6tnl link. -/
structure Ip6tnl where
  name : String
  mtu : Nat
  link : Nat
  localAddr : Ipv6Addr
  remote : Ipv6Addr
  proto : U8
  encapLimit : U8
deriving DecidableEq, Repr

/-- The `ip6tnl` link, of which there is at most one. -/
structure TunnelLink where
  spec : Ip6tnl
  ifindex : Nat
  up : Bool
  /-- the assigned `/32` addresses -/
  addrs : Finset Ipv4Addr
deriving DecidableEq

inductive RouteScope where
  | universe
  | other (value : Nat)
deriving DecidableEq, Repr

inductive RouteAttribute where
  | oif (ifindex : Nat)
  | multiPath (hops : List Nat)
  | priority (metric : Nat)
  | other (kind value : Nat)
deriving DecidableEq, Repr

/-- An IPv4 route as a dump reports it. -/
structure RouteMessage where
  table : Nat
  destinationPrefixLength : Nat
  scope : RouteScope
  attributes : List RouteAttribute
deriving DecidableEq, Repr

namespace RouteMessage

/-- The links of the next hops. -/
def ifindexes (route : RouteMessage) : List Nat :=
  route.attributes.flatMap fun attr =>
    match attr with
    | .oif ifindex => [ifindex]
    | .multiPath hops => hops
    | _ => []

def metric (route : RouteMessage) : Nat :=
  route.attributes.findSome? (fun attr =>
    match attr with
    | .priority metric => some metric
    | _ => none) |>.getD 0

/-- The route disappears together with the link. -/
def dependsOn (route : RouteMessage) (ifindex : Nat) : Bool :=
  !route.ifindexes.isEmpty && route.ifindexes.all (· == ifindex)

/-- A route that does not name the link survives its deletion. -/
theorem dependsOn_of_notMem {route : RouteMessage} {ifindex : Nat} (h : ifindex ∉ route.ifindexes) :
    route.dependsOn ifindex = false := by
  rw [dependsOn]
  cases hIndexes : route.ifindexes with
  | nil => rfl
  | cons i rest =>
      have hNe : i ≠ ifindex := by
        rintro rfl
        exact h (by rw [hIndexes]; exact List.mem_cons_self)
      simp [hNe]

end RouteMessage

def mainTable : Nat := 254

/-- The hook of the link at which a program is attached. -/
inductive TcAttachType where
  | egress
  | ingress
deriving DecidableEq, Repr

/-- A loaded BPF object: the entry of `CONFIG_MAP` and the links, by ifindex,
to which the two programs are attached. -/
structure BpfObject where
  id : Nat
  config : PsidConfig
  egress : Option Nat
  ingress : Option Nat
deriving DecidableEq, Repr

namespace BpfObject

def attached (obj : BpfObject) : TcAttachType → Option Nat
  | .egress => obj.egress
  | .ingress => obj.ingress

def attach (obj : BpfObject) (attachType : TcAttachType) (link : Option Nat) : BpfObject :=
  match attachType with
  | .egress => { obj with egress := link }
  | .ingress => { obj with ingress := link }

theorem attach_id (obj : BpfObject) (attachType : TcAttachType) (link : Option Nat) :
    (obj.attach attachType link).id = obj.id := by
  cases attachType <;> rfl

/-- Filters disappear together with the link. -/
def unlink (obj : BpfObject) (ifindex : Nat) : BpfObject :=
  { obj with
    egress := if obj.egress = some ifindex then none else obj.egress
    ingress := if obj.ingress = some ifindex then none else obj.ingress }

end BpfObject

inductive Sysctl where
  /-- `/proc/sys/net/ipv4/ip_forward` -/
  | ipv4Forward
  /-- `/proc/sys/net/ipv6/conf/all/forwarding` -/
  | ipv6ForwardAll
deriving DecidableEq, Repr

/-- What the requests of the daemon read and change, in the network namespace and in its
file of rules. -/
structure Kernel where
  upstream : UpstreamLink
  tunnel : Option TunnelLink
  routes : List RouteMessage
  nft : NftTables
  ipForward : String
  ipv6Forward : String
  bpf : List BpfObject
  nextIfindex : Nat
  nextBpf : Nat
  /-- content of the rules cache file -/
  rulesCache : Option (List MapRule)

namespace Kernel

/-- An upstream link and nothing else. -/
def idle (upstream : String) : Kernel :=
  { upstream := { name := upstream, ifindex := 2, mtu := 1500, addrs := ∅ }
    tunnel := none, routes := [], nft := .none, ipForward := "0", ipv6Forward := "0", bpf := []
    nextIfindex := 3, nextBpf := 0, rulesCache := none }

section Setters

variable (k : Kernel)

@[simps] def withUpstreamAddrs (addrs : Finset Ipv6Addr) : Kernel :=
  { k with upstream := { k.upstream with addrs := addrs } }

@[simps] def withTunnel (tunnel : Option TunnelLink) : Kernel := { k with tunnel := tunnel }

@[simps] def withRoutes (routes : List RouteMessage) : Kernel := { k with routes := routes }

@[simps] def withNft (tables : NftTables) : Kernel := { k with nft := tables }

@[simps] def withIpForward (value : String) : Kernel := { k with ipForward := value }

@[simps] def withIpv6Forward (value : String) : Kernel := { k with ipv6Forward := value }

@[simps] def withBpf (bpf : List BpfObject) : Kernel := { k with bpf := bpf }

@[simps] def withRulesCache (rules : Option (List MapRule)) : Kernel :=
  { k with rulesCache := rules }

@[simps] def withNextIfindex (ifindex : Nat) : Kernel := { k with nextIfindex := ifindex }

@[simps] def withNextBpf (id : Nat) : Kernel := { k with nextBpf := id }

end Setters

variable (k : Kernel)

def hasLink (ifindex : Nat) : Bool :=
  k.upstream.ifindex == ifindex || k.tunnel.any fun tunnel => tunnel.ifindex == ifindex

def linkIndex (name : String) : Option Nat :=
  if k.upstream.name = name then
    some k.upstream.ifindex
  else
    k.tunnel.bind fun tunnel => if tunnel.spec.name = name then some tunnel.ifindex else none

def readSysctl (sysctl : Sysctl) : Operation Kernel Errno String := fun k =>
  match sysctl with
  | .ipv4Forward => .ok (k.ipForward, k)
  | .ipv6ForwardAll => .ok (k.ipv6Forward, k)

def writeSysctl (sysctl : Sysctl) (value : String) : Operation Kernel Errno Unit := fun k =>
  match sysctl with
  | .ipv4Forward => .ok ((), k.withIpForward value)
  | .ipv6ForwardAll => .ok ((), k.withIpv6Forward value)

/-- A link is looked up by its name. -/
def getLink (name : String) : Operation Kernel Errno LinkMessage := fun k =>
  if k.upstream.name = name then
    .ok (⟨k.upstream.ifindex, [.mtu k.upstream.mtu]⟩, k)
  else
    match k.tunnel with
    | some tunnel =>
        if tunnel.spec.name = name then
          .ok (⟨tunnel.ifindex, [.mtu tunnel.spec.mtu]⟩, k)
        else
          .error .enodev
    | none => .error .enodev

/-- `RTM_NEWADDR` with `NLM_F_EXCL`. -/
def newAddr6 (ifindex : Nat) (addr : Ipv6Addr) : Operation Kernel Errno Unit := fun k =>
  if k.upstream.ifindex = ifindex then
    if addr ∈ k.upstream.addrs then
      .error .eexist
    else
      .ok ((), k.withUpstreamAddrs (insert addr k.upstream.addrs))
  else
    .error .enodev

/-- Deleting an address that is not assigned is refused. -/
def delAddr6 (ifindex : Nat) (addr : Ipv6Addr) : Operation Kernel Errno Unit := fun k =>
  if k.upstream.ifindex = ifindex then
    if addr ∈ k.upstream.addrs then
      .ok ((), k.withUpstreamAddrs (k.upstream.addrs.erase addr))
    else
      .error .eaddrnotavail
  else
    .error .enodev

/-- An address that is assigned already is refused. -/
def newAddr4 (ifindex : Nat) (addr : Ipv4Addr) : Operation Kernel Errno Unit := fun k =>
  match k.tunnel with
  | some tunnel =>
      if tunnel.ifindex = ifindex then
        if addr ∈ tunnel.addrs then
          .error .eexist
        else
          .ok ((), k.withTunnel (some { tunnel with addrs := insert addr tunnel.addrs }))
      else
        .error .enodev
  | none => .error .enodev

/-- The routes of the link disappear with its last address. -/
def delAddr4 (ifindex : Nat) (addr : Ipv4Addr) : Operation Kernel Errno Unit := fun k =>
  match k.tunnel with
  | some tunnel =>
      if tunnel.ifindex = ifindex then
        if addr ∉ tunnel.addrs then
          .error .eaddrnotavail
        else if tunnel.addrs.erase addr = ∅ then
          .ok ((), k.withTunnel (some { tunnel with addrs := ∅ })
            |>.withRoutes (k.routes.filter fun route => !route.dependsOn ifindex))
        else
          .ok ((), k.withTunnel (some { tunnel with addrs := tunnel.addrs.erase addr }))
      else
        .error .enodev
  | none => .error .enodev

/-- `RTM_NEWLINK` with `NLM_F_EXCL`. The link is down and gets a fresh index. -/
def newLink (spec : Ip6tnl) : Operation Kernel Errno Unit := fun k =>
  if k.upstream.name = spec.name ∨ k.tunnel.isSome then
    .error .eexist
  else
    .ok ((), k.withNextIfindex (k.nextIfindex + 1)
      |>.withTunnel (some { spec := spec, ifindex := k.nextIfindex, up := false, addrs := ∅ }))

/-- Only the tunnel is ever set up. -/
def setLinkUp (ifindex : Nat) : Operation Kernel Errno Unit := fun k =>
  match k.tunnel with
  | some tunnel =>
      if tunnel.ifindex = ifindex then
        .ok ((), k.withTunnel (some { tunnel with up := true }))
      else
        .error .enodev
  | none => .error .enodev

/-- Routes and filters of the link disappear with it. -/
def delLink (ifindex : Nat) : Operation Kernel Errno Unit := fun k =>
  match k.tunnel with
  | some tunnel =>
      if tunnel.ifindex = ifindex then
        .ok ((), k.withTunnel none
          |>.withRoutes (k.routes.filter fun route => !route.dependsOn ifindex)
          |>.withBpf (k.bpf.map fun obj => obj.unlink ifindex))
      else
        .error .enodev
  | none => .error .enodev

def getRoutes : Operation Kernel Errno (List RouteMessage) := fun k => .ok (k.routes, k)

def delRoute (route : RouteMessage) : Operation Kernel Errno Unit := fun k =>
  if route ∈ k.routes then
    .ok ((), k.withRoutes (k.routes.erase route))
  else
    .error .esrch

/-- `RTM_NEWROUTE` with `NLM_F_EXCL`: one default route for each table and metric. -/
def newDefaultRoute (oif : Nat) (route : RouteMessage) : Operation Kernel Errno Unit := fun k =>
  if ¬ k.hasLink oif then
    .error .enodev
  else if ∃ present ∈ k.routes, present.table = route.table ∧
      present.destinationPrefixLength = 0 ∧ present.metric = route.metric then
    .error .eexist
  else
    .ok ((), k.withRoutes (k.routes ++ [route]))

/-- Create the maps of the ELF object. `CONFIG_MAP` starts zeroed. -/
def loadBpf : Operation Kernel Errno Nat := fun k =>
  .ok (k.nextBpf, k.withNextBpf (k.nextBpf + 1)
    |>.withBpf (k.bpf ++ [{ id := k.nextBpf, config := .default, egress := none, ingress := none }]))

def modifyBpf (id : Nat) (f : BpfObject → BpfObject) (k : Kernel) : Kernel :=
  k.withBpf (k.bpf.map fun obj => if obj.id = id then f obj else obj)

def setConfigMap (id : Nat) (config : PsidConfig) : Operation Kernel Errno Unit := fun k =>
  .ok ((), k.modifyBpf id fun obj => { obj with config := config })

/-- Adding clsact or loading a program changes nothing that is observed here. -/
def addClsact (name : String) : Operation Kernel Errno Unit := fun k =>
  if (k.linkIndex name).isSome then .ok ((), k) else .error .enodev

def loadProgram : Operation Kernel Errno Unit := fun k => .ok ((), k)

def attachTc (id : Nat) (attachType : TcAttachType) (name : String) : Operation Kernel Errno Nat :=
  fun k =>
    match k.linkIndex name with
    | some ifindex => .ok (ifindex, k.modifyBpf id fun obj => obj.attach attachType (some ifindex))
    | none => .error .enodev

def detachTc (id : Nat) (attachType : TcAttachType) : Operation Kernel Errno Unit := fun k =>
  if ∃ obj ∈ k.bpf, obj.id = id ∧ (obj.attached attachType).isSome then
    .ok ((), k.modifyBpf id fun obj => obj.attach attachType none)
  else
    .error .enoent

/-- Closing the object detaches its filters and frees its maps. -/
def dropBpf (id : Nat) (k : Kernel) : Kernel :=
  k.withBpf (k.bpf.filter fun obj => obj.id ≠ id)

def runNft (script : List NftCommand) : Operation Kernel Errno Unit := fun k =>
  match NftCommand.runAll script k.nft with
  | .ok tables => .ok ((), k.withNft tables)
  | .error e => .error e

def writeRulesCache (rules : List MapRule) : Operation Kernel Errno Unit := fun k =>
  .ok ((), k.withRulesCache (some rules))

end Kernel

end Mapecd
