import Mapecd.Daemon.Requests
import Mapecd.Daemon.Runner

/-! Which part of the kernel each helper of the daemon can change. None of the
helpers here touches the state of the daemon. -/
namespace Mapecd

open Effects

namespace Kernel

def Unchanged (k k' : Kernel) : Prop := k' = k

def SysctlChange (k k' : Kernel) : Prop :=
  ∃ v4 v6, k' = { k with ipForward := v4, ipv6Forward := v6 }

def UpstreamAddrsChange (k k' : Kernel) : Prop :=
  ∃ addrs, k' = { k with upstream := { k.upstream with addrs := addrs } }

/-- Addresses and state of the tunnel link, not the link itself. -/
def TunnelAddrsChange (k k' : Kernel) : Prop :=
  k' = k ∨ ∃ tunnel up addrs, k.tunnel = some tunnel ∧
    k' = { k with tunnel := some { tunnel with up := up, addrs := addrs } }

/-- The routes through the tunnel can go with its last address. -/
def DelAddr4Change (k k' : Kernel) : Prop :=
  TunnelAddrsChange k k' ∨ ∃ tunnel, k.tunnel = some tunnel ∧
    k' = { k with
      tunnel := some { tunnel with addrs := ∅ }
      routes := k.routes.filter fun route => !route.dependsOn tunnel.ifindex }

/-- The tunnel link and the next index. -/
def TunnelChange (k k' : Kernel) : Prop :=
  ∃ tunnel next, k' = { k with tunnel := tunnel, nextIfindex := next }

/-- What goes with the tunnel link: its routes and filters. -/
def DelLinkChange (k k' : Kernel) : Prop :=
  ∃ routes bpf, k' = { k with tunnel := none, routes := routes, bpf := bpf }

def RoutesChange (k k' : Kernel) : Prop := ∃ routes, k' = { k with routes := routes }

/-- One object is modified, its id stays. -/
def BpfObjectChange (id : Nat) (k k' : Kernel) : Prop :=
  ∃ f : BpfObject → BpfObject, (∀ obj, (f obj).id = obj.id) ∧ k' = modifyBpf id f k

def BpfChange (k k' : Kernel) : Prop := ∃ bpf next, k' = { k with bpf := bpf, nextBpf := next }

def NftChange (k k' : Kernel) : Prop := ∃ tables : NftTables, tables.Paired ∧ k' = k.withNft tables

section Operations

variable {k k' : Kernel}

theorem readSysctl_unchanged {sysctl : Sysctl} {value : String}
    (h : readSysctl sysctl k = .ok (value, k')) : Unchanged k k' := by
  cases sysctl <;> cases h <;> rfl

/-- A sysctl is written and nothing else. -/
theorem writeSysctl_change {sysctl : Sysctl} {value : String}
    (h : writeSysctl sysctl value k = .ok ((), k')) : SysctlChange k k' := by
  cases sysctl with
  | ipv4Forward =>
      cases h
      exact ⟨value, k.ipv6Forward, rfl⟩
  | ipv6ForwardAll =>
      cases h
      exact ⟨k.ipForward, value, rfl⟩

theorem getLink_unchanged {name : String} {msg : LinkMessage}
    (h : getLink name k = .ok (msg, k')) : Unchanged k k' := by
  unfold getLink at h
  split at h
  · cases h
    rfl
  · split at h
    · split at h
      · cases h
        rfl
      · cases h
    · cases h

theorem newAddr6_change {ifindex : Nat} {addr : Ipv6Addr}
    (h : newAddr6 ifindex addr k = .ok ((), k')) : UpstreamAddrsChange k k' := by
  unfold newAddr6 at h
  split_ifs at h
  cases h
  exact ⟨_, rfl⟩

theorem delAddr6_change {ifindex : Nat} {addr : Ipv6Addr}
    (h : delAddr6 ifindex addr k = .ok ((), k')) : UpstreamAddrsChange k k' := by
  unfold delAddr6 at h
  split_ifs at h
  cases h
  exact ⟨_, rfl⟩

theorem newAddr4_change {ifindex : Nat} {addr : Ipv4Addr}
    (h : newAddr4 ifindex addr k = .ok ((), k')) : TunnelAddrsChange k k' := by
  unfold newAddr4 at h
  split at h
  · rename_i tunnel hTunnel
    split_ifs at h
    cases h
    exact Or.inr ⟨tunnel, _, _, hTunnel, rfl⟩
  · cases h

/-- An address of the tunnel goes, and with the last one the routes through it. -/
theorem delAddr4_change {ifindex : Nat} {addr : Ipv4Addr}
    (h : delAddr4 ifindex addr k = .ok ((), k')) : DelAddr4Change k k' := by
  unfold delAddr4 at h
  split at h
  · rename_i tunnel hTunnel
    split_ifs at h with hIfindex
    · cases h
      subst hIfindex
      exact Or.inr ⟨tunnel, hTunnel, rfl⟩
    · cases h
      exact Or.inl (Or.inr ⟨tunnel, _, _, hTunnel, rfl⟩)
  · cases h

theorem newLink_change {spec : Ip6tnl} (h : newLink spec k = .ok ((), k')) : TunnelChange k k' := by
  unfold newLink at h
  split_ifs at h
  cases h
  exact ⟨_, _, rfl⟩

theorem setLinkUp_change {ifindex : Nat} (h : setLinkUp ifindex k = .ok ((), k')) :
    TunnelChange k k' := by
  unfold setLinkUp at h
  split at h
  · split_ifs at h
    cases h
    exact ⟨_, k.nextIfindex, rfl⟩
  · cases h

/-- With the link go its routes and attachments. -/
theorem delLink_change {ifindex : Nat} (h : delLink ifindex k = .ok ((), k')) :
    DelLinkChange k k' := by
  unfold delLink at h
  split at h
  · split_ifs at h
    cases h
    exact ⟨_, _, rfl⟩
  · cases h

theorem getRoutes_unchanged {routes : List RouteMessage}
    (h : getRoutes k = .ok (routes, k')) : Unchanged k k' := by
  cases h
  rfl

theorem delRoute_change {route : RouteMessage} (h : delRoute route k = .ok ((), k')) :
    RoutesChange k k' := by
  unfold delRoute at h
  split_ifs at h
  cases h
  exact ⟨_, rfl⟩

theorem newDefaultRoute_change {oif : Nat} {route : RouteMessage}
    (h : newDefaultRoute oif route k = .ok ((), k')) : RoutesChange k k' := by
  unfold newDefaultRoute at h
  split_ifs at h
  cases h
  exact ⟨_, rfl⟩

theorem loadBpf_change {id : Nat} (h : loadBpf k = .ok (id, k')) : BpfChange k k' := by
  cases h
  exact ⟨_, _, rfl⟩

theorem setConfigMap_change {id : Nat} {config : PsidConfig}
    (h : setConfigMap id config k = .ok ((), k')) : BpfObjectChange id k k' := by
  cases h
  exact ⟨fun obj => { obj with config := config }, fun _ => rfl, rfl⟩

theorem addClsact_unchanged {name : String} (h : addClsact name k = .ok ((), k')) :
    Unchanged k k' := by
  unfold addClsact at h
  split_ifs at h
  cases h
  rfl

theorem loadProgram_unchanged (h : loadProgram k = .ok ((), k')) : Unchanged k k' := by
  cases h
  rfl

theorem attachTc_change {id ifindex : Nat} {attachType : TcAttachType} {name : String}
    (h : attachTc id attachType name k = .ok (ifindex, k')) : BpfObjectChange id k k' := by
  unfold attachTc at h
  split at h
  · cases h
    exact ⟨fun obj => obj.attach attachType (some ifindex), fun obj => BpfObject.attach_id obj _ _, rfl⟩
  · cases h

theorem detachTc_change {id : Nat} {attachType : TcAttachType}
    (h : detachTc id attachType k = .ok ((), k')) : BpfObjectChange id k k' := by
  unfold detachTc at h
  split_ifs at h
  cases h
  exact ⟨fun obj => obj.attach attachType none, fun obj => BpfObject.attach_id obj _ _, rfl⟩

theorem dropBpf_change (id : Nat) (k : Kernel) : BpfChange k (dropBpf id k) := ⟨_, _, rfl⟩

theorem runNft_delete_change (h : runNft [.deleteTableIp, .deleteTableIp6] k = .ok ((), k')) :
    NftChange k k' := by
  obtain ⟨upstream, tunnel, routes, ⟨ip, ip6⟩, _⟩ := k
  cases ip with
  | none => cases h
  | some _ =>
      cases ip6 with
      | none => cases h
      | some _ =>
          cases h
          exact ⟨.none, rfl, rfl⟩

theorem runNft_generate_change {portRanges : List RangeInclusive} {tunnelInterface : String}
    {brAddress : Ipv6Addr} {range : U16 × U16}
    (h : runNft (generateRuleset portRanges tunnelInterface brAddress range) k = .ok ((), k')) :
    NftChange k k' := by
  rw [runNft_generateRuleset] at h
  cases h
  exact ⟨installedTables k.nft portRanges tunnelInterface brAddress range, rfl, rfl⟩

theorem TunnelAddrsChange.bpf (h : TunnelAddrsChange k k') : k'.bpf = k.bpf := by
  rcases h with rfl | ⟨_, _, _, _, rfl⟩ <;> rfl

/-- Addresses first, then routes. -/
theorem DelAddr4Change.split (h : DelAddr4Change k k') :
    ∃ k₁, TunnelAddrsChange k k₁ ∧ RoutesChange k₁ k' := by
  rcases h with hAddrs | ⟨tunnel, hTunnel, rfl⟩
  · exact ⟨k', hAddrs, k'.routes, rfl⟩
  · exact ⟨_, Or.inr ⟨tunnel, tunnel.up, ∅, hTunnel, rfl⟩, _, rfl⟩

theorem TunnelAddrsChange.routes (h : TunnelAddrsChange k k') : k'.routes = k.routes := by
  rcases h with rfl | ⟨_, _, _, _, rfl⟩ <;> rfl

theorem RoutesChange.bpf (h : RoutesChange k k') : k'.bpf = k.bpf := by
  obtain ⟨_, rfl⟩ := h
  rfl

theorem BpfObjectChange.bpfChange {id : Nat} (h : BpfObjectChange id k k') : BpfChange k k' := by
  obtain ⟨f, -, rfl⟩ := h
  exact ⟨_, _, rfl⟩

theorem Unchanged.bpfObjectChange (id : Nat) (h : Unchanged k k') : BpfObjectChange id k k' := by
  refine ⟨fun obj => obj, fun _ => rfl, h.trans ?_⟩
  simp only [modifyBpf, ite_self, List.map_id']
  rfl

theorem Unchanged.upstreamAddrsChange (h : Unchanged k k') : UpstreamAddrsChange k k' :=
  ⟨k.upstream.addrs, h⟩

theorem Unchanged.tunnelChange (h : Unchanged k k') : TunnelChange k k' :=
  ⟨k.tunnel, k.nextIfindex, h⟩

theorem Unchanged.routesChange (h : Unchanged k k') : RoutesChange k k' := ⟨k.routes, h⟩

end Operations

end Kernel

open Kernel

section Netlink

theorem findLinkByName_steps (name : String) : Steps Unchanged (findLinkByName name) :=
  request_steps fun _ _ _ => getLink_unchanged

theorem getLinkIndex_steps (name : String) : Steps Unchanged (getLinkIndex name) :=
  Steps.bind (findLinkByName_steps name) fun _ => Steps.pure _

theorem getLinkMtu_steps (name : String) : Steps Unchanged (getLinkMtu name) := by
  refine Steps.bind (findLinkByName_steps name) fun msg => ?_
  dsimp only
  split
  · exact Steps.pure _
  · exact Steps.fail _

theorem resolveMtu_steps (config : Config) : Steps Unchanged (resolveMtu config) := by
  unfold resolveMtu
  split
  · exact Steps.pure _
  · exact Steps.bind (getLinkMtu_steps _) fun _ => Steps.pure _

theorem addIpv6Addr_steps (ifindex : Nat) (addr : Ipv6Addr) :
    Steps UpstreamAddrsChange (addIpv6Addr ifindex addr) :=
  request_steps fun _ _ _ => newAddr6_change

theorem delIpv6Addr_steps (ifindex : Nat) (addr : Ipv6Addr) :
    Steps UpstreamAddrsChange (delIpv6Addr ifindex addr) :=
  request_steps fun _ _ _ => delAddr6_change

theorem createIp6tnl_steps (name : String) (localAddr remote : Ipv6Addr) (linkIndex mtu : Nat) :
    Steps TunnelChange (createIp6tnl name localAddr remote linkIndex mtu) :=
  Steps.bind (request_steps fun _ _ _ => newLink_change) fun _ =>
    Steps.bind ((getLinkIndex_steps name).mono fun _ _ => Unchanged.tunnelChange) fun _ =>
      Steps.bind (request_steps fun _ _ _ => setLinkUp_change) fun _ => Steps.pure _

theorem deleteLink_steps (ifindex : Nat) : Steps DelLinkChange (deleteLink ifindex) :=
  request_steps fun _ _ _ => delLink_change

theorem addIpv4Addr_steps (ifindex : Nat) (addr : Ipv4Addr) :
    Steps TunnelAddrsChange (addIpv4Addr ifindex addr) :=
  request_steps fun _ _ _ => newAddr4_change

/-- One request, which an address that is not there makes an error. -/
theorem delIpv4Addr_steps (ifindex : Nat) (addr : Ipv4Addr) :
    Steps DelAddr4Change (delIpv4Addr ifindex addr) := by
  refine Steps.bind (Steps.attempt (request_steps fun _ _ _ => delAddr4_change)) fun result => ?_
  cases result with
  | ok _ => exact Steps.pure _
  | error e =>
      dsimp only
      split
      · exact Steps.pure _
      · exact Steps.fail _

theorem getIpv4DefaultRoutes_steps : Steps Unchanged getIpv4DefaultRoutes :=
  Steps.bind (request_steps fun _ _ _ => getRoutes_unchanged) fun _ => Steps.pure _

theorem delIpv4DefaultRouteByOif_steps (oif : Nat) :
    Steps RoutesChange (delIpv4DefaultRouteByOif oif) :=
  Steps.bind (request_steps fun _ _ _ h => (getRoutes_unchanged h).routesChange) fun _ =>
    Steps.forM _ fun _ => request_steps fun _ _ _ => delRoute_change

theorem addIpv4DefaultRoute_steps (oif : Nat) : Steps RoutesChange (addIpv4DefaultRoute oif) :=
  Steps.bind (getIpv4DefaultRoutes_steps.mono fun _ _ => Unchanged.routesChange) fun _ =>
    Steps.bind (Steps.forM _ fun _ => Steps.ignore (delIpv4DefaultRouteByOif_steps _)) fun _ =>
      request_steps fun _ _ _ => newDefaultRoute_change

end Netlink

section Bpf

theorem orDrop_steps {α : Type} {id : Nat} {x : DaemonM α} (hx : Steps BpfChange x) :
    Steps BpfChange (orDrop id x) := by
  refine Steps.bind (Steps.attempt hx) fun result => ?_
  cases result with
  | ok _ => exact Steps.pure _
  | error _ => exact Steps.bind (Steps.internal (dropBpf_change id)) fun _ => Steps.fail _

theorem setConfigMap_steps (id : Nat) (config : PsidConfig) :
    Steps (BpfObjectChange id) (EbpfManager.setConfigMap id config) :=
  request_steps fun _ _ _ => setConfigMap_change

theorem load_steps (config : PsidConfig) : Steps BpfChange (EbpfManager.load config) :=
  Steps.bind (request_steps fun _ _ _ => loadBpf_change) fun _ =>
    Steps.bind (orDrop_steps ((setConfigMap_steps _ _).mono fun _ _ => BpfObjectChange.bpfChange))
      fun _ => Steps.pure _

theorem linkTc_steps (manager : EbpfManager) (interface : String) :
    Steps (BpfObjectChange manager.id) (manager.linkTc interface) :=
  have hLoad (error : Option Errno → MapEError) :
      Steps (BpfObjectChange manager.id) (request error loadProgram) :=
    request_steps fun _ _ _ h => (loadProgram_unchanged h).bpfObjectChange manager.id
  Steps.bind
    (Steps.ignore (request_steps fun _ _ _ h => (addClsact_unchanged h).bpfObjectChange manager.id))
    fun _ => Steps.bind (hLoad _) fun _ =>
      Steps.bind (request_steps fun _ _ _ => attachTc_change) fun _ =>
        Steps.bind (hLoad _) fun _ =>
          Steps.bind (request_steps fun _ _ _ => attachTc_change) fun _ => Steps.pure _

theorem detach_steps (id : Nat) (attachType : TcAttachType) (linkId : Option Nat) :
    Steps (BpfObjectChange id) (EbpfManager.detach id attachType linkId) := by
  unfold EbpfManager.detach
  split
  · exact Steps.ignore (request_steps fun _ _ _ => detachTc_change)
  · exact Steps.pure _

theorem unlinkTc_steps (manager : EbpfManager) :
    Steps (BpfObjectChange manager.id) manager.unlinkTc :=
  Steps.bind (detach_steps _ _ _) fun _ => detach_steps _ _ _

theorem updateConfigMap_steps (new : MapeParams) : Steps BpfChange (updateConfigMap new) := by
  refine Steps.bind Steps.getState fun state => ?_
  cases state.ebpf with
  | none => exact Steps.pure _
  | some manager =>
      refine Steps.bind (Steps.checked (psidConfigFromParams_isSome new)) fun result => ?_
      cases result with
      | ok cfg =>
          exact Steps.ignore ((setConfigMap_steps _ _).mono fun _ _ => BpfObjectChange.bpfChange)
      | error _ => exact Steps.pure _

end Bpf

section Nft

theorem deleteTables_steps : Steps NftChange deleteTables :=
  request_steps fun _ _ _ => runNft_delete_change

theorem applyRuleset_steps (portRanges : List RangeInclusive) (tunnelInterface : String)
    (brAddress : Ipv6Addr) (range : U16 × U16) :
    Steps NftChange (applyRuleset portRanges tunnelInterface brAddress range) := by
  unfold applyRuleset
  split
  · exact Steps.bind (Steps.fail _) fun _ => request_steps fun _ _ _ => runNft_generate_change
  · exact request_steps fun _ _ _ => runNft_generate_change

theorem applyStep6Nftables_steps (config : Config) {params : MapeParams}
    (hRanges : (calcPortRanges params.rule.portParams params.psid).isSome) :
    Steps NftChange (applyStep6Nftables config params) :=
  Steps.bind (Steps.checked hRanges) fun _ =>
    Steps.bind (Steps.checked (psidConfigFromParams_isSome params)) fun _ =>
      applyRuleset_steps _ _ _ _

/-- `calc_port_ranges` and `try_new` do not panic here, so only an empty list
or a refused nft run can make step 6 fail. -/
theorem wp_applyStep6Nftables {config : Config} {params : MapeParams}
    {post : Unit → DaemonWorld → Prop} {stop : Failure MapEError → DaemonWorld → Prop}
    {w : DaemonWorld} {k : Kernel} {s : DaemonState} {f : Nat → Option Errno}
    {ranges : List RangeInclusive} {psidConfig : Except MapEError PsidConfig} (h : w.IsAt k s f)
    (hRanges : calcPortRanges params.rule.portParams params.psid = some ranges)
    (hConfig : psidConfigFromParams params = some psidConfig)
    (hEmpty : ranges = [] → ∀ w', w'.IsAt k s f → stop (.error .emptyPortRanges) w')
    (hRefused : f ≠ noFaults → ranges ≠ [] → ∀ e w', w'.IsAt k s f → stop (.error e) w')
    (hDone : ranges ≠ [] → ∀ w', w'.IsAt (k.withNft (installedTables k.nft ranges
      config.tunnelInterface params.brAddress (stagingRange psidConfig))) s f → post () w') :
    wp (applyStep6Nftables config params) post stop w := by
  unfold applyStep6Nftables applyRuleset
  rw [wp_bind, hRanges, wp_checked_some, wp_bind, hConfig, wp_checked_some]
  cases ranges with
  | nil => exact hEmpty rfl w h
  | cons first rest =>
      have hNonempty : first :: rest ≠ [] := List.cons_ne_nil _ _
      have hRun := runNft_generateRuleset k (first :: rest) config.tunnelInterface params.brAddress
        (stagingRange psidConfig)
      apply wp_request h
      · rintro e w₁ (hInjected | hSystem) h₁
        · exact hRefused hInjected hNonempty _ w₁ h₁
        · rw [hRun] at hSystem
          cases hSystem
      · intro _ k₁ w₁ hOk h₁
        rw [hRun] at hOk
        cases hOk
        exact hDone hNonempty w₁ h₁

end Nft

section Sysctl

theorem readSysctl_steps (sysctl : Sysctl) : Steps Unchanged (Mapecd.readSysctl sysctl) :=
  request_steps fun _ _ _ => readSysctl_unchanged

theorem writeSysctl_steps (sysctl : Sysctl) (value : String) :
    Steps SysctlChange (Mapecd.writeSysctl sysctl value) :=
  request_steps fun _ _ _ => writeSysctl_change

end Sysctl

end Mapecd
