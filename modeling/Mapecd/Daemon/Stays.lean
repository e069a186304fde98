import Mapecd.Daemon.Frame
import Mapecd.Semantics.History

/-! Properties of the kernel that no request of the daemon ends, whatever fails
and for all parameters. The nft runs are kept apart. -/
namespace Mapecd

open Effects Kernel

/-- `S` is closed under the requests of the daemon other than the nft runs. -/
structure Closed (config : Config) (S : Kernel → Prop) : Prop where
  sysctl : ∀ k k', S k → SysctlChange k k' → S k'
  upstreamAddrs : ∀ k k', S k → UpstreamAddrsChange k k' → S k'
  delAddr4 : ∀ k k', S k → DelAddr4Change k k' → S k'
  newLink : ∀ spec k k', spec.name = config.tunnelInterface → S k → newLink spec k = .ok ((), k') →
    S k'
  setLinkUp : ∀ ifindex k k', S k → setLinkUp ifindex k = .ok ((), k') → S k'
  delLink : ∀ ifindex k k', S k → delLink ifindex k = .ok ((), k') → S k'
  delRoute : ∀ route k k', S k → delRoute route k = .ok ((), k') → S k'
  newRoute : ∀ oif k k', S k → newDefaultRoute oif (tunnelDefaultRoute oif) k = .ok ((), k') → S k'
  loadBpf : ∀ id k k', S k → loadBpf k = .ok (id, k') → S k'
  setConfigMap : ∀ id cfg k k', S k → setConfigMap id cfg k = .ok ((), k') → S k'
  attachTc : ∀ id attachType ifindex k k', S k →
    attachTc id attachType config.tunnelInterface k = .ok (ifindex, k') → S k'
  detachTc : ∀ id attachType k k', S k → detachTc id attachType k = .ok ((), k') → S k'
  dropBpf : ∀ id k, S k → S (dropBpf id k)

theorem unchanged_closed {S : Kernel → Prop} (k k' : Kernel) (h : S k) (hSame : Unchanged k k') :
    S k' := by
  cases hSame
  exact h

section Requests

variable {config : Config} {S : Kernel → Prop}

theorem request_stays {α : Type} {toError : Option Errno → MapEError} {op : Operation Kernel Errno α}
    (h : ∀ k a k', S k → op k = .ok (a, k') → S k') : Stays S (request toError op) :=
  Stays.mapErr (Stays.issue h)

theorem getLinkIndex_stays (name : String) : Stays S (getLinkIndex name) :=
  (getLinkIndex_steps name).stays unchanged_closed

theorem recordedTunnel_stays (operation : String) : Stays S (recordedTunnel operation) := by
  refine Stays.bind Stays.getState fun state => ?_
  cases state.tunnelIfindex with
  | none => exact Stays.fail _
  | some _ => exact Stays.pure _

theorem applyStep6Nftables_stays (hNft : ∀ k k', S k → NftChange k k' → S k')
    (params : MapeParams) : Stays S (applyStep6Nftables config params) :=
  Stays.bind (Stays.checked _) fun _ => Stays.bind (Stays.checked _) fun _ =>
    (applyRuleset_steps _ _ _ _).stays hNft

namespace Closed

variable (hClosed : Closed config S)
include hClosed

theorem tunnelAddrs (k k' : Kernel) (h : S k) (hChange : TunnelAddrsChange k k') : S k' :=
  hClosed.delAddr4 k k' h (Or.inl hChange)

theorem delIpv4DefaultRouteByOif (oif : Nat) : Stays S (delIpv4DefaultRouteByOif oif) := by
  apply Stays.bind
  · exact request_stays fun k _ k' hk hOp => unchanged_closed k k' hk (getRoutes_unchanged hOp)
  · exact fun _ => Stays.forM _ fun route _ =>
      request_stays fun k _ k' => hClosed.delRoute route k k'

theorem addIpv4DefaultRoute (oif : Nat) : Stays S (addIpv4DefaultRoute oif) := by
  refine Stays.bind (getIpv4DefaultRoutes_steps.stays unchanged_closed) fun _ => ?_
  refine Stays.bind (Stays.forM _ fun i _ => Stays.ignore (hClosed.delIpv4DefaultRouteByOif i))
    fun _ => ?_
  exact request_stays fun k _ k' => hClosed.newRoute oif k k'

theorem deleteLink (oif : Nat) : Stays S (deleteLink oif) :=
  request_stays fun k _ k' => hClosed.delLink oif k k'

/-- Sysctls are read and written, and recorded in between. -/
theorem applyStep1Sysctl : Stays S applyStep1Sysctl := by
  have hRead (sysctl : Sysctl) : Stays S (Mapecd.readSysctl sysctl) :=
    (readSysctl_steps sysctl).stays unchanged_closed
  have hWrite (sysctl : Sysctl) (value : String) : Stays S (Mapecd.writeSysctl sysctl value) :=
    (writeSysctl_steps sysctl value).stays hClosed.sysctl
  exact Stays.bind (hRead _) fun _ => Stays.bind (Stays.modifyState _) fun _ =>
    Stays.bind (hWrite _ _) fun _ => Stays.bind (hRead _) fun _ =>
      Stays.bind (Stays.modifyState _) fun _ => hWrite _ _

theorem applyStep2AddIpv6 (params : MapeParams) : Stays S (applyStep2AddIpv6 config params) :=
  Stays.bind (getLinkIndex_stays _) fun _ =>
    (addIpv6Addr_steps _ _).stays hClosed.upstreamAddrs

/-- The tunnel is made, set up and recorded. -/
theorem applyStep3CreateTunnel (params : MapeParams) :
    Stays S (applyStep3CreateTunnel config params) := by
  refine Stays.bind (getLinkIndex_stays _) fun upstreamIfindex => ?_
  refine Stays.bind ((resolveMtu_steps config).stays unchanged_closed) fun mtu => ?_
  refine Stays.bind ?_ fun _ => Stays.modifyState _
  refine Stays.bind (request_stays fun k _ k' => hClosed.newLink _ k k' rfl) fun _ => ?_
  refine Stays.bind (getLinkIndex_stays _) fun ifindex => ?_
  exact Stays.bind (request_stays fun k _ k' => hClosed.setLinkUp ifindex k k') fun _ => Stays.pure _

theorem orDrop {α : Type} (id : Nat) {x : DaemonM α} (hx : Stays S x) : Stays S (orDrop id x) := by
  refine Stays.bind (Stays.attempt hx) fun result => ?_
  cases result with
  | ok _ => exact Stays.pure _
  | error _ => exact Stays.bind (Stays.internal (hClosed.dropBpf id)) fun _ => Stays.fail _

theorem load (cfg : PsidConfig) : Stays S (EbpfManager.load cfg) := by
  refine Stays.bind (request_stays fun k id k' => hClosed.loadBpf id k k') fun id => ?_
  refine Stays.bind (hClosed.orDrop id ?_) fun _ => Stays.pure _
  exact request_stays fun k _ k' => hClosed.setConfigMap id cfg k k'

/-- Both hooks of the tunnel, behind the qdisc. -/
theorem linkTc (manager : EbpfManager) : Stays S (manager.linkTc config.tunnelInterface) := by
  have hLoad (toError : Option Errno → MapEError) : Stays S (request toError loadProgram) :=
    request_stays fun k _ k' hk hOp => unchanged_closed k k' hk (loadProgram_unchanged hOp)
  have hAttach (toError : Option Errno → MapEError) (attachType : TcAttachType) :
      Stays S (request toError
        (Kernel.attachTc manager.id attachType config.tunnelInterface)) :=
    request_stays fun k ifindex k' => hClosed.attachTc manager.id attachType ifindex k k'
  refine Stays.bind (Stays.ignore (request_stays fun k _ k' hk hOp =>
    unchanged_closed k k' hk (addClsact_unchanged hOp))) fun _ => ?_
  exact Stays.bind (hLoad _) fun _ => Stays.bind (hAttach _ _) fun _ => Stays.bind (hLoad _) fun _ =>
    Stays.bind (hAttach _ _) fun _ => Stays.pure _

theorem storeEbpf (manager : EbpfManager) : Stays S (storeEbpf manager) := by
  refine Stays.bind Stays.getState fun state => ?_
  cases state.ebpf with
  | none => exact Stays.modifyState _
  | some old => exact Stays.bind (Stays.internal (hClosed.dropBpf old.id)) fun _ => Stays.modifyState _

/-- The programs are loaded and attached, or dropped again. -/
theorem applyStep5_5Ebpf (params : MapeParams) : Stays S (applyStep5_5Ebpf config params) := by
  refine Stays.bind (Stays.checked _) fun result => ?_
  have hConfig : Stays S (ofExcept result) := by
    cases result with
    | ok _ => exact Stays.pure _
    | error _ => exact Stays.fail _
  exact Stays.bind hConfig fun cfg => Stays.bind (hClosed.load cfg) fun ebpf =>
    Stays.bind (hClosed.orDrop _ (hClosed.linkTc ebpf)) fun linked => hClosed.storeEbpf linked

theorem unlinkAndDrop (manager : EbpfManager) : Stays S (unlinkAndDrop manager) := by
  have hDetach (attachType : TcAttachType) (linkId : Option Nat) :
      Stays S (EbpfManager.detach manager.id attachType linkId) := by
    unfold EbpfManager.detach
    split
    · exact Stays.ignore (request_stays fun k _ k' => hClosed.detachTc manager.id attachType k k')
    · exact Stays.pure _
  exact Stays.bind (Stays.ignore (Stays.bind (hDetach _ _) fun _ => hDetach _ _)) fun _ =>
    Stays.internal (hClosed.dropBpf manager.id)

theorem takeEbpf : Stays S takeEbpf := by
  refine Stays.bind Stays.getState fun state => ?_
  cases state.ebpf with
  | none => exact Stays.pure _
  | some manager => exact Stays.bind (Stays.modifyState _) fun _ => hClosed.unlinkAndDrop manager

theorem removeTunnel : Stays S removeTunnel := by
  refine Stays.bind Stays.getState fun state => ?_
  cases state.tunnelIfindex with
  | none => exact Stays.pure _
  | some oif =>
      exact Stays.bind (Stays.ignore (hClosed.delIpv4DefaultRouteByOif oif)) fun _ =>
        Stays.bind (hClosed.deleteLink oif) fun _ => Stays.modifyState _

/-- One request, if a manager is recorded. -/
theorem updateConfigMap (new : MapeParams) : Stays S (updateConfigMap new) := by
  refine Stays.bind Stays.getState fun state => ?_
  cases state.ebpf with
  | none => exact Stays.pure _
  | some manager =>
      refine Stays.bind (Stays.checked _) fun result => ?_
      cases result with
      | ok cfg =>
          exact Stays.ignore (request_stays fun k _ k' => hClosed.setConfigMap manager.id cfg k k')
      | error _ => exact Stays.pure _

theorem cleanupTunnel (params : MapeParams) : Stays S (cleanupTunnel params) := by
  refine Stays.bind Stays.getState fun state => ?_
  cases state.tunnelIfindex with
  | none => exact Stays.pure _
  | some oif =>
      exact Stays.bind (Stays.ignore (hClosed.delIpv4DefaultRouteByOif oif)) fun _ =>
        Stays.bind (Stays.ignore (hClosed.deleteLink oif)) fun _ =>
          Stays.bind (Stays.modifyState _) fun _ =>
            Stays.ignore ((delIpv4Addr_steps _ _).stays hClosed.delAddr4)

theorem cleanupAddr6 (params : MapeParams) : Stays S (cleanupAddr6 config params) := by
  refine Stays.bind (Stays.attempt (getLinkIndex_stays _)) fun result => ?_
  cases result with
  | ok _ => exact Stays.ignore ((delIpv6Addr_steps _ _).stays hClosed.upstreamAddrs)
  | error _ => exact Stays.pure _

theorem cleanupSysctl : Stays S cleanupSysctl := by
  have hWrite (sysctl : Sysctl) (value : String) :
      Stays S (ignore (Mapecd.writeSysctl sysctl value)) :=
    Stays.ignore ((writeSysctl_steps sysctl value).stays hClosed.sysctl)
  have hIpv6 : Stays S restoreIpv6Forward := by
    refine Stays.bind Stays.getState fun state => ?_
    cases state.originalIpv6Forward with
    | none => exact Stays.pure _
    | some value => exact Stays.bind (Stays.modifyState _) fun _ => hWrite _ _
  have hIpv4 : Stays S restoreIpForward := by
    refine Stays.bind Stays.getState fun state => ?_
    cases state.originalIpForward with
    | none => exact Stays.pure _
    | some value => exact Stays.bind (Stays.modifyState _) fun _ => hWrite _ _
  exact Stays.bind hIpv6 fun _ => hIpv4

/-- `cleanup` after its first step. -/
theorem cleanupRest (params : MapeParams) : Stays S (do
    Mapecd.takeEbpf
    Mapecd.cleanupTunnel params
    Mapecd.cleanupAddr6 config params
    Mapecd.cleanupSysctl) :=
  Stays.bind hClosed.takeEbpf fun _ => Stays.bind (hClosed.cleanupTunnel params) fun _ =>
    Stays.bind (hClosed.cleanupAddr6 params) fun _ => hClosed.cleanupSysctl

section Nft

variable (hNft : ∀ k k', S k → NftChange k k' → S k')
include hNft

theorem applySteps4To6 (params : MapeParams) (operation : String) :
    Stays S (applySteps4To6 config params operation) :=
  Stays.bind (recordedTunnel_stays operation) fun _ =>
    Stays.bind ((addIpv4Addr_steps _ _).stays hClosed.tunnelAddrs) fun _ =>
      Stays.bind (hClosed.addIpv4DefaultRoute _) fun _ =>
        Stays.bind (hClosed.applyStep5_5Ebpf params) fun _ => applyStep6Nftables_stays hNft params

theorem apply (params : MapeParams) : Stays S (apply config params) :=
  Stays.bind hClosed.applyStep1Sysctl fun _ => Stays.bind (hClosed.applyStep2AddIpv6 params) fun _ =>
    Stays.bind (hClosed.applyStep3CreateTunnel params) fun _ => hClosed.applySteps4To6 hNft params _

theorem recreateTunnelAndApply (new : MapeParams) : Stays S (recreateTunnelAndApply config new) :=
  Stays.bind hClosed.takeEbpf fun _ => Stays.bind hClosed.removeTunnel fun _ =>
    Stays.bind (hClosed.applyStep3CreateTunnel new) fun _ => hClosed.applySteps4To6 hNft new _

/-- The branches that make the tunnel anew and those that keep it. -/
theorem update (old new : MapeParams) : Stays S (update config old new) := by
  have hMap : Stays S (Mapecd.updateConfigMap new) := hClosed.updateConfigMap new
  have hRecreate := hClosed.recreateTunnelAndApply hNft new
  have hStep6 : Stays S (applyStep6Nftables config new) := applyStep6Nftables_stays hNft new
  unfold Mapecd.update
  split_ifs
  · refine Stays.bind (getLinkIndex_stays _) fun _ => ?_
    refine Stays.bind (Stays.ignore ((delIpv6Addr_steps _ _).stays hClosed.upstreamAddrs)) fun _ => ?_
    refine Stays.bind ((addIpv6Addr_steps _ _).stays hClosed.upstreamAddrs) fun _ => ?_
    exact Stays.bind hRecreate fun _ => hMap
  · exact Stays.bind hRecreate fun _ => hMap
  · refine Stays.bind (recordedTunnel_stays _) fun _ => ?_
    refine Stays.bind (Stays.ignore ((delIpv4Addr_steps _ _).stays hClosed.delAddr4)) fun _ => ?_
    refine Stays.bind ((addIpv4Addr_steps _ _).stays hClosed.tunnelAddrs) fun _ => ?_
    refine Stays.bind (hClosed.addIpv4DefaultRoute _) fun _ => ?_
    exact Stays.bind hStep6 fun _ => hMap
  · exact Stays.bind hStep6 fun _ => hMap

theorem cleanup (params : MapeParams) : Stays S (cleanup config params) :=
  Stays.bind (Stays.ignore (deleteTables_steps.stays hNft)) fun _ => hClosed.cleanupRest params

/-- The programs of the event loop that run `cleanup` after an error. -/
theorem orCleanup {x : DaemonM Unit} (hx : Stays S x) (params : MapeParams) : Stays S (do
    match ← attempt x with
    | .ok () => pure ()
    | .error _ =>
        Mapecd.cleanup config params
        clearParams) := by
  refine Stays.bind (Stays.attempt hx) fun result => ?_
  cases result with
  | ok _ => exact Stays.pure _
  | error e => exact Stays.bind (hClosed.cleanup hNft params) fun _ => Stays.modifyState _

/-- Nothing, an update, or a cleanup and an apply. -/
theorem applyNew (old : Option MapeParams) (new : MapeParams) : Stays S (applyNew config old new) := by
  have hApply : Stays S (applyOrCleanup config new) :=
    hClosed.orCleanup hNft (hClosed.apply hNft new) new
  unfold Mapecd.applyNew
  refine Stays.bind Stays.getState fun state => ?_
  split_ifs
  · cases old with
    | some old =>
        dsimp only
        split_ifs
        · exact Stays.bind (hClosed.cleanup hNft old) fun _ => hApply
        · exact hClosed.orCleanup hNft (hClosed.update hNft old new) new
        · exact Stays.pure _
    | none => exact Stays.bind (hClosed.cleanup hNft new) fun _ => hApply
  · exact hApply

/-- Computing leaves the kernel alone. -/
theorem applyIfReady : Stays S (applyIfReady config) := by
  have hCompute : Stays S (tryCompute (ceFormat config)) := by
    refine Stays.bind Stays.getState fun state => Stays.bind (Stays.checked _) fun result => ?_
    rcases result with _ | _ | _
    · exact Stays.fail _
    · exact Stays.pure _
    · exact Stays.bind (Stays.modifyState _) fun _ => Stays.pure _
  refine Stays.bind Stays.getState fun state => Stays.bind (Stays.attempt hCompute) fun result => ?_
  rcases result with _ | _ | _
  · exact Stays.pure _
  · exact Stays.pure _
  · refine Stays.bind Stays.getState fun state' => ?_
    cases state'.params with
    | none => exact Stays.pure _
    | some new => exact hClosed.applyNew hNft _ new

end Nft

end Closed

end Requests

end Mapecd
