import Mapecd.Daemon.State

/-! Addresses, the tunnel link and the IPv4 default route through netlink. -/
namespace Mapecd

open Effects

section Addr

def addIpv6Addr (ifindex : Nat) (addr : Ipv6Addr) : DaemonM Unit :=
  request (.netlinkError "add IPv6 addr") (Kernel.newAddr6 ifindex addr)

def delIpv6Addr (ifindex : Nat) (addr : Ipv6Addr) : DaemonM Unit :=
  request (.netlinkError "del IPv6 addr") (Kernel.delAddr6 ifindex addr)

def addIpv4Addr (ifindex : Nat) (addr : Ipv4Addr) : DaemonM Unit :=
  request (.netlinkError "add IPv4 addr") (Kernel.newAddr4 ifindex addr)

/-- A device that is already gone is no error. -/
def delIpv4Addr (ifindex : Nat) (addr : Ipv4Addr) : DaemonM Unit := do
  match ← attempt (request (.netlinkError "del IPv4 addr") (Kernel.delAddr4 ifindex addr)) with
  | .ok () => return ()
  | .error e =>
      if e = .netlinkError "del IPv4 addr" (some .enodev) then
        return ()
      fail e

end Addr

section Tunnel

def ipprotoIpip : U8 := 4

def findLinkByName (name : String) : DaemonM LinkMessage :=
  request (.netlinkError "get link") (Kernel.getLink name)

/-- The first MTU attribute counts. -/
def getLinkMtu (name : String) : DaemonM Nat := do
  let msg ← findLinkByName name
  let mtus := msg.attributes.filterMap fun attr =>
    match attr with
    | .mtu value => some value
    | _ => none
  match mtus with
  | mtu :: _ => return mtu
  | [] => fail (.netlinkError "MTU attribute not found in RTM_GETLINK response" none)

def getLinkIndex (name : String) : DaemonM Nat := do
  let msg ← findLinkByName name
  return msg.index

/-- `RTM_NEWLINK`, `RTM_GETLINK` and set-up. -/
def createIp6tnl (name : String) (localAddr remote : Ipv6Addr) (linkIndex mtu : Nat) :
    DaemonM Nat := do
  request (.netlinkError "RTM_NEWLINK response error") (Kernel.newLink
    { name := name, mtu := mtu, link := linkIndex, localAddr := localAddr, remote := remote
      proto := ipprotoIpip, encapLimit := 0 })
  let ifindex ← getLinkIndex name
  request (.netlinkError "set link up") (Kernel.setLinkUp ifindex)
  return ifindex

def deleteLink (ifindex : Nat) : DaemonM Unit :=
  request (.netlinkError "delete link") (Kernel.delLink ifindex)

end Tunnel

section Route

/-- The links of the default routes in a dump. -/
def defaultRouteOifs (routes : List RouteMessage) : List Nat :=
  routes.flatMap fun msg =>
    if msg.destinationPrefixLength ≠ 0 ∨ msg.scope ≠ .universe then
      []
    else
      msg.attributes.filterMap fun attr =>
        match attr with
        | .oif oif => some oif
        | _ => none

def getIpv4DefaultRoutes : DaemonM (List Nat) := do
  let routes ← request (.netlinkError "get IPv4 routes") Kernel.getRoutes
  return defaultRouteOifs routes

/-- All default routes through the link are listed first and then deleted one by one. -/
def delIpv4DefaultRouteByOif (oif : Nat) : DaemonM Unit := do
  let routes ← request (.netlinkError "get IPv4 routes (del)") Kernel.getRoutes
  let toDelete := routes.filter fun msg =>
    msg.destinationPrefixLength = 0 ∧ .oif oif ∈ msg.attributes
  toDelete.forM fun msg =>
    request (.netlinkError "del default route") (Kernel.delRoute msg)

def tunnelDefaultRoute (oif : Nat) : RouteMessage :=
  { table := mainTable, destinationPrefixLength := 0, scope := .universe, attributes := [.oif oif] }

/-- Remove the existing default routes, then add the one through the tunnel. -/
def addIpv4DefaultRoute (oif : Nat) : DaemonM Unit := do
  let existing ← getIpv4DefaultRoutes
  existing.forM fun existingOif => ignore (delIpv4DefaultRouteByOif existingOif)
  request (.netlinkError "add default route")
    (Kernel.newDefaultRoute oif (tunnelDefaultRoute oif))

end Route

end Mapecd
