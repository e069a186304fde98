import Mapecd.Ebpf.Manager
import Mapecd.Netlink.Handle
import Mapecd.Nftables.Manager

/-! `apply`, `update` and `cleanup`. -/
namespace Mapecd

open Effects Checked

def readSysctl (sysctl : Sysctl) : DaemonM String :=
  request (.netlinkError "read sysctl") (Kernel.readSysctl sysctl)

def writeSysctl (sysctl : Sysctl) (value : String) : DaemonM Unit :=
  request (.netlinkError "write sysctl") (Kernel.writeSysctl sysctl value)

/-- Step 1: save before writing, so that cleanup can restore. -/
def applyStep1Sysctl : DaemonM Unit := do
  let origIpv4 ← readSysctl .ipv4Forward
  modifyState fun state => { state with originalIpForward := some origIpv4 }
  writeSysctl .ipv4Forward "1"
  let origIpv6 ← readSysctl .ipv6ForwardAll
  modifyState fun state => { state with originalIpv6Forward := some origIpv6 }
  writeSysctl .ipv6ForwardAll "1"

def applyStep2AddIpv6 (config : Config) (params : MapeParams) : DaemonM Unit := do
  let upstreamIfindex ← getLinkIndex config.upstreamInterface
  addIpv6Addr upstreamIfindex params.ceIpv6

/-- Room for the outer IPv6 header, but never below the IPv6 minimum. -/
def tunnelMtu (upstreamMtu : Nat) : Nat := max (upstreamMtu - 40) 1280

def resolveMtu (config : Config) : DaemonM Nat := do
  match config.tunnelMtu with
  | some mtu => return mtu
  | none => return tunnelMtu (← getLinkMtu config.upstreamInterface)

/-- The index is recorded only when the tunnel is there and up. -/
def applyStep3CreateTunnel (config : Config) (params : MapeParams) : DaemonM Unit := do
  let upstreamIfindex ← getLinkIndex config.upstreamInterface
  let mtu ← resolveMtu config
  let tunnelIfindex ← createIp6tnl config.tunnelInterface params.ceIpv6 params.brAddress
    upstreamIfindex mtu
  modifyState fun state => { state with tunnelIfindex := some tunnelIfindex }

/-- Storing the manager drops an earlier one. -/
def storeEbpf (manager : EbpfManager) : DaemonM Unit := do
  match (← getState).ebpf with
  | some old => internal (Kernel.dropBpf old.id)
  | none => pure ()
  modifyState fun state => { state with ebpf := some manager }

def applyStep5_5Ebpf (config : Config) (params : MapeParams) : DaemonM Unit := do
  let psidCfg ← ofExcept (← checked (psidConfigFromParams params))
  let ebpf ← EbpfManager.load psidCfg
  let linked ← orDrop ebpf.id (ebpf.linkTc config.tunnelInterface)
  storeEbpf linked

/-- The masquerade range: the staging range, or every port if there is none. -/
def stagingRange (psidConfig : Except MapEError PsidConfig) : U16 × U16 :=
  match psidConfig with
  | .ok cfg => (cfg.stagingMin, cfg.stagingMax)
  | .error _ => (1, 65535)

def applyStep6Nftables (config : Config) (params : MapeParams) : DaemonM Unit := do
  let portRanges ← checked (calcPortRanges params.rule.portParams params.psid)
  let psidConfig ← checked (psidConfigFromParams params)
  applyRuleset portRanges config.tunnelInterface params.brAddress (stagingRange psidConfig)

/-- `ok_or_else` on the recorded tunnel. -/
def recordedTunnel (operation : String) : DaemonM Nat := do
  match (← getState).tunnelIfindex with
  | some ifindex => return ifindex
  | none => fail (.netlinkError operation none)

/-- Steps 4 to 6 of a new tunnel: address, default route, BPF, then nftables. -/
def applySteps4To6 (config : Config) (params : MapeParams) (operation : String) :
    DaemonM Unit := do
  let tunnelIfindex ← recordedTunnel operation
  addIpv4Addr tunnelIfindex params.ipv4
  addIpv4DefaultRoute tunnelIfindex
  applyStep5_5Ebpf config params
  applyStep6Nftables config params

def apply (config : Config) (params : MapeParams) : DaemonM Unit := do
  applyStep1Sysctl
  applyStep2AddIpv6 config params
  applyStep3CreateTunnel config params
  applySteps4To6 config params "tunnel_ifindex not set after create"

/-- `Option::take` on the manager, then unlink and drop. -/
def takeEbpf : DaemonM Unit := do
  match (← getState).ebpf with
  | some manager =>
      modifyState fun state => { state with ebpf := none }
      unlinkAndDrop manager
  | none => pure ()

/-- Remove the old tunnel. Only the deletion of the link can fail. -/
def removeTunnel : DaemonM Unit := do
  match (← getState).tunnelIfindex with
  | some oif =>
      ignore (delIpv4DefaultRouteByOif oif)
      deleteLink oif
      modifyState fun state => { state with tunnelIfindex := none }
  | none => pure ()

def recreateTunnelAndApply (config : Config) (new : MapeParams) : DaemonM Unit := do
  takeEbpf
  removeTunnel
  applyStep3CreateTunnel config new
  applySteps4To6 config new "tunnel_ifindex not set after recreate"

/-- Write `CONFIG_MAP` of a present manager. Errors are ignored. -/
def updateConfigMap (new : MapeParams) : DaemonM Unit := do
  match (← getState).ebpf with
  | some manager =>
      match ← checked (psidConfigFromParams new) with
      | .ok cfg => ignore (manager.updateConfig cfg)
      | .error _ => pure ()
  | none => pure ()

/-- The first field that differs decides how much is made anew. -/
def update (config : Config) (old new : MapeParams) : DaemonM Unit := do
  if old.ceIpv6 ≠ new.ceIpv6 then
    let upstreamIfindex ← getLinkIndex config.upstreamInterface
    ignore (delIpv6Addr upstreamIfindex old.ceIpv6)
    addIpv6Addr upstreamIfindex new.ceIpv6
    recreateTunnelAndApply config new
  else if old.brAddress ≠ new.brAddress then
    recreateTunnelAndApply config new
  else if old.ipv4 ≠ new.ipv4 then
    let tunnelIfindex ← recordedTunnel "tunnel_ifindex not set for IPv4 addr update"
    ignore (delIpv4Addr tunnelIfindex old.ipv4)
    addIpv4Addr tunnelIfindex new.ipv4
    addIpv4DefaultRoute tunnelIfindex
    applyStep6Nftables config new
  else
    applyStep6Nftables config new
  updateConfigMap new

/-- Steps 2 to 4 of `cleanup`, for a recorded tunnel. -/
def cleanupTunnel (params : MapeParams) : DaemonM Unit := do
  match (← getState).tunnelIfindex with
  | some oif =>
      ignore (delIpv4DefaultRouteByOif oif)
      ignore (deleteLink oif)
      modifyState fun state => { state with tunnelIfindex := none }
      ignore (delIpv4Addr oif params.ipv4)
  | none => pure ()

/-- Step 5 of `cleanup`. -/
def cleanupAddr6 (config : Config) (params : MapeParams) : DaemonM Unit := do
  match ← attempt (getLinkIndex config.upstreamInterface) with
  | .ok upstreamIfindex => ignore (delIpv6Addr upstreamIfindex params.ceIpv6)
  | .error _ => pure ()

/-- The recorded value is used once. -/
def restoreIpv6Forward : DaemonM Unit := do
  match (← getState).originalIpv6Forward with
  | some value =>
      modifyState fun state => { state with originalIpv6Forward := none }
      ignore (writeSysctl .ipv6ForwardAll value)
  | none => pure ()

def restoreIpForward : DaemonM Unit := do
  match (← getState).originalIpForward with
  | some value =>
      modifyState fun state => { state with originalIpForward := none }
      ignore (writeSysctl .ipv4Forward value)
  | none => pure ()

/-- Step 6 of `cleanup`: IPv6 first, the reverse of `apply`. -/
def cleanupSysctl : DaemonM Unit := do
  restoreIpv6Forward
  restoreIpForward

/-- The nft tables go first: without BPF the staging range must not be in use. -/
def cleanup (config : Config) (params : MapeParams) : DaemonM Unit := do
  ignore deleteTables
  takeEbpf
  cleanupTunnel params
  cleanupAddr6 config params
  cleanupSysctl

/-- The rule itself is not compared, only what the configuration depends on. -/
def hasChanged (old new : MapeParams) : Bool :=
  old.ceIpv6 ≠ new.ceIpv6 || old.ipv4 ≠ new.ipv4 || old.psid ≠ new.psid ||
    old.brAddress ≠ new.brAddress || old.portRanges ≠ new.portRanges ||
    old.rule.portParams ≠ new.rule.portParams

end Mapecd
