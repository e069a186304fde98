import Mapecd.Kernel.State

/-! The configuration of the kernel up to the numbers that it hands out: the
index of the tunnel link and the ids of BPF objects. -/
namespace Mapecd

namespace RouteMessage

def renumberAttribute (f : Nat → Nat) : RouteAttribute → RouteAttribute
  | .oif ifindex => .oif (f ifindex)
  | .multiPath hops => .multiPath (hops.map f)
  | attr => attr

def renumber (f : Nat → Nat) (route : RouteMessage) : RouteMessage :=
  { route with attributes := route.attributes.map (renumberAttribute f) }

/-- Renumbering that fixes all links of a route leaves the route alone. -/
theorem renumber_eq {f : Nat → Nat} {route : RouteMessage}
    (hFixed : ∀ i ∈ route.ifindexes, f i = i) : route.renumber f = route := by
  have hAttribute (attr : RouteAttribute) (hAttr : attr ∈ route.attributes) :
      renumberAttribute f attr = attr := by
    cases attr with
    | oif i =>
        have hMem : i ∈ route.ifindexes :=
          List.mem_flatMap.mpr ⟨.oif i, hAttr, List.mem_singleton.mpr rfl⟩
        exact congrArg RouteAttribute.oif (hFixed i hMem)
    | multiPath hops =>
        have hHop (i : Nat) (hi : i ∈ hops) : f i = i :=
          hFixed i (List.mem_flatMap.mpr ⟨.multiPath hops, hAttr, hi⟩)
        exact congrArg RouteAttribute.multiPath ((List.map_congr_left hHop).trans (List.map_id' hops))
    | priority _ => rfl
    | other _ _ => rfl
  have hAttributes : route.attributes.map (renumberAttribute f) = route.attributes :=
    (List.map_congr_left hAttribute).trans (List.map_id' _)
  rw [renumber, hAttributes]

end RouteMessage

/-- Addresses, tunnel, routes, nftables, sysctls and BPF objects. -/
structure View where
  upstream : UpstreamLink
  tunnel : Option TunnelLink
  routes : List RouteMessage
  nft : NftTables
  ipForward : String
  ipv6Forward : String
  bpf : List BpfObject
deriving DecidableEq

namespace Kernel

/-- The index of the tunnel becomes 0, which no link has. -/
def renumber (k : Kernel) (ifindex : Nat) : Nat :=
  if k.tunnel.any fun tunnel => tunnel.ifindex = ifindex then 0 else ifindex

/-- The kernel without the numbers that depend on how often a link or an object was
made. -/
def view (k : Kernel) : View :=
  { upstream := k.upstream
    tunnel := k.tunnel.map fun tunnel => { tunnel with ifindex := 0 }
    routes := k.routes.map fun route => route.renumber k.renumber
    nft := k.nft
    ipForward := k.ipForward
    ipv6Forward := k.ipv6Forward
    bpf := k.bpf.map fun obj =>
      { id := 0, config := obj.config, egress := obj.egress.map k.renumber
        ingress := obj.ingress.map k.renumber } }

end Kernel

end Mapecd
