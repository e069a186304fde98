import Mapecd.Daemon.Events
import Mapecd.Semantics.Recording

/-! What the daemon does to its own state: on the way through one event the parameters
of the event stay, or they are cleared. -/
namespace Mapecd

open Effects Checked

/-- The parameters stay, or they are cleared. -/
def DaemonState.KeepsParams (s s' : DaemonState) : Prop := s'.params = s.params ∨ s'.params = none

/-- A program that keeps or clears the parameters. -/
abbrev KeepsParams {α : Type} (x : DaemonM α) : Prop := Confined DaemonState.KeepsParams x

section Programs

theorem applyStep1Sysctl_keepsParams : KeepsParams applyStep1Sysctl := by
  refine (readSysctl_steps _).confined.bind fun ipv4 => ?_
  refine (Confined.modifyState fun _ => .inl rfl).bind fun _ => ?_
  refine (writeSysctl_steps _ _).confined.bind fun _ => ?_
  refine (readSysctl_steps _).confined.bind fun ipv6 => ?_
  exact (Confined.modifyState fun _ => .inl rfl).bind fun _ => (writeSysctl_steps _ _).confined

theorem recordedTunnel_keepsParams (operation : String) :
    KeepsParams (recordedTunnel operation) := by
  refine Confined.getState.bind fun state => ?_
  cases state.tunnelIfindex with
  | none => exact Confined.fail _
  | some _ => exact Confined.pure _

theorem orDrop_keepsParams {α : Type} (id : Nat) {x : DaemonM α} (hx : KeepsParams x) :
    KeepsParams (orDrop id x) := by
  refine hx.attempt.bind fun result => ?_
  cases result with
  | ok _ => exact Confined.pure _
  | error _ => exact (Confined.internal _).bind fun _ => Confined.fail _

theorem storeEbpf_keepsParams (manager : EbpfManager) : KeepsParams (storeEbpf manager) := by
  refine Confined.getState.bind fun state => ?_
  cases state.ebpf with
  | none => exact Confined.modifyState fun _ => .inl rfl
  | some _ => exact (Confined.internal _).bind fun _ => Confined.modifyState fun _ => .inl rfl

theorem unlinkAndDrop_keepsParams (manager : EbpfManager) : KeepsParams (unlinkAndDrop manager) :=
  (unlinkTc_steps manager).confined.ignore.bind fun _ => Confined.internal _

theorem takeEbpf_keepsParams : KeepsParams takeEbpf := by
  refine Confined.getState.bind fun state => ?_
  cases state.ebpf with
  | none => exact Confined.pure _
  | some manager =>
      exact (Confined.modifyState fun _ => .inl rfl).bind fun _ => unlinkAndDrop_keepsParams manager

theorem removeTunnel_keepsParams : KeepsParams removeTunnel := by
  refine Confined.getState.bind fun state => ?_
  cases state.tunnelIfindex with
  | none => exact Confined.pure _
  | some oif =>
      refine (delIpv4DefaultRouteByOif_steps oif).confined.ignore.bind fun _ => ?_
      exact (deleteLink_steps oif).confined.bind fun _ => Confined.modifyState fun _ => .inl rfl

theorem restoreIpv6Forward_keepsParams : KeepsParams restoreIpv6Forward := by
  refine Confined.getState.bind fun state => ?_
  cases state.originalIpv6Forward with
  | none => exact Confined.pure _
  | some _ =>
      refine (Confined.modifyState fun _ => .inl rfl).bind fun _ => ?_
      exact (writeSysctl_steps _ _).confined.ignore

theorem restoreIpForward_keepsParams : KeepsParams restoreIpForward := by
  refine Confined.getState.bind fun state => ?_
  cases state.originalIpForward with
  | none => exact Confined.pure _
  | some _ =>
      refine (Confined.modifyState fun _ => .inl rfl).bind fun _ => ?_
      exact (writeSysctl_steps _ _).confined.ignore

variable (config : Config) (params old new : MapeParams)

/-- Loading records the manager only. -/
theorem applyStep5_5Ebpf_keepsParams : KeepsParams (applyStep5_5Ebpf config params) := by
  refine (Confined.checked _).bind fun result => ?_
  have hConfig : KeepsParams (ofExcept result) := by
    cases result with
    | ok _ => exact Confined.pure _
    | error _ => exact Confined.fail _
  refine hConfig.bind fun cfg => (load_steps cfg).confined.bind fun ebpf => ?_
  refine (orDrop_keepsParams ebpf.id (linkTc_steps ebpf _).confined).bind fun _ => ?_
  exact storeEbpf_keepsParams _

theorem applyStep6Nftables_keepsParams : KeepsParams (applyStep6Nftables config params) :=
  (Confined.checked _).bind fun _ => (Confined.checked _).bind fun _ =>
    (applyRuleset_steps _ _ _ _).confined

theorem applyStep2AddIpv6_keepsParams : KeepsParams (applyStep2AddIpv6 config params) :=
  (getLinkIndex_steps _).confined.bind fun _ => (addIpv6Addr_steps _ _).confined

theorem applyStep3CreateTunnel_keepsParams :
    KeepsParams (applyStep3CreateTunnel config params) := by
  refine (getLinkIndex_steps _).confined.bind fun _ => ?_
  refine (resolveMtu_steps config).confined.bind fun _ => ?_
  exact (createIp6tnl_steps _ _ _ _ _).confined.bind fun _ => Confined.modifyState fun _ => .inl rfl

theorem applySteps4To6_keepsParams (operation : String) :
    KeepsParams (applySteps4To6 config params operation) := by
  refine (recordedTunnel_keepsParams _).bind fun _ => ?_
  refine (addIpv4Addr_steps _ _).confined.bind fun _ => ?_
  refine (addIpv4DefaultRoute_steps _).confined.bind fun _ => ?_
  refine (applyStep5_5Ebpf_keepsParams config params).bind fun _ => ?_
  exact applyStep6Nftables_keepsParams config params

theorem apply_keepsParams : KeepsParams (apply config params) := by
  refine applyStep1Sysctl_keepsParams.bind fun _ => ?_
  refine (applyStep2AddIpv6_keepsParams config params).bind fun _ => ?_
  refine (applyStep3CreateTunnel_keepsParams config params).bind fun _ => ?_
  exact applySteps4To6_keepsParams config params _

theorem recreateTunnelAndApply_keepsParams : KeepsParams (recreateTunnelAndApply config new) := by
  refine takeEbpf_keepsParams.bind fun _ => removeTunnel_keepsParams.bind fun _ => ?_
  refine (applyStep3CreateTunnel_keepsParams config new).bind fun _ => ?_
  exact applySteps4To6_keepsParams config new _

theorem updateConfigMap_keepsParams : KeepsParams (updateConfigMap new) :=
  (updateConfigMap_steps new).confined

/-- No step of an update records other parameters. -/
theorem update_keepsParams : KeepsParams (update config old new) := by
  have hMap : KeepsParams (updateConfigMap new) := updateConfigMap_keepsParams new
  have hRecreate := recreateTunnelAndApply_keepsParams config new
  have hStep6 := applyStep6Nftables_keepsParams config new
  unfold update
  split_ifs
  · refine (getLinkIndex_steps _).confined.bind fun _ => ?_
    refine (delIpv6Addr_steps _ _).confined.ignore.bind fun _ => ?_
    exact (addIpv6Addr_steps _ _).confined.bind fun _ => hRecreate.bind fun _ => hMap
  · exact hRecreate.bind fun _ => hMap
  · refine (recordedTunnel_keepsParams _).bind fun _ => ?_
    refine (delIpv4Addr_steps _ _).confined.ignore.bind fun _ => ?_
    refine (addIpv4Addr_steps _ _).confined.bind fun _ => ?_
    exact (addIpv4DefaultRoute_steps _).confined.bind fun _ => hStep6.bind fun _ => hMap
  · exact hStep6.bind fun _ => hMap

/-- What `cleanup` does once the nft tables are gone. -/
theorem cleanupRest_keepsParams : KeepsParams (do
    takeEbpf
    cleanupTunnel params
    cleanupAddr6 config params
    cleanupSysctl) := by
  have hTunnel : KeepsParams (cleanupTunnel params) := by
    refine Confined.getState.bind fun state => ?_
    cases state.tunnelIfindex with
    | none => exact Confined.pure _
    | some oif =>
        refine (delIpv4DefaultRouteByOif_steps oif).confined.ignore.bind fun _ => ?_
        refine (deleteLink_steps oif).confined.ignore.bind fun _ => ?_
        refine (Confined.modifyState fun _ => .inl rfl).bind fun _ => ?_
        exact (delIpv4Addr_steps oif _).confined.ignore
  have hAddr6 : KeepsParams (cleanupAddr6 config params) := by
    refine (getLinkIndex_steps _).confined.attempt.bind fun result => ?_
    cases result with
    | ok _ => exact (delIpv6Addr_steps _ _).confined.ignore
    | error _ => exact Confined.pure _
  refine takeEbpf_keepsParams.bind fun _ => hTunnel.bind fun _ => hAddr6.bind fun _ => ?_
  exact restoreIpv6Forward_keepsParams.bind fun _ => restoreIpForward_keepsParams

theorem cleanup_keepsParams : KeepsParams (cleanup config params) :=
  deleteTables_steps.confined.ignore.bind fun _ => cleanupRest_keepsParams config params

/-- What follows a program that may have failed. -/
theorem afterwards_keepsParams (result : Except MapEError Unit) :
    KeepsParams (match result with
      | .ok () => pure ()
      | .error _ => do
          cleanup config params
          clearParams : DaemonM Unit) := by
  cases result with
  | ok _ => exact Confined.pure _
  | error _ =>
      exact (cleanup_keepsParams config params).bind fun _ =>
        Confined.modifyState fun _ => .inr rfl

theorem applyOrCleanup_keepsParams : KeepsParams (applyOrCleanup config params) :=
  (apply_keepsParams config params).attempt.bind (afterwards_keepsParams config params)

theorem updateOrCleanup_keepsParams : KeepsParams (updateOrCleanup config old new) :=
  (update_keepsParams config old new).attempt.bind (afterwards_keepsParams config new)

/-- The recorded parameters can only be cleared. -/
theorem applyNew_keepsParams (oldParams : Option MapeParams) :
    KeepsParams (applyNew config oldParams new) := by
  have hApply := applyOrCleanup_keepsParams config new
  refine Confined.getState.bind fun state => ?_
  split_ifs
  · cases oldParams with
    | none => exact (cleanup_keepsParams config new).bind fun _ => hApply
    | some old =>
        dsimp only
        split_ifs
        · exact (cleanup_keepsParams config old).bind fun _ => hApply
        · exact updateOrCleanup_keepsParams config old new
        · exact Confined.pure _
  · exact hApply

end Programs

section Events

/-- Computing reads the pending data and issues no request. -/
theorem tryCompute_confined (format : CeFormat) :
    Confined (fun _ _ => True) (tryCompute format) := by
  refine Confined.getState.bind fun state => (Confined.checked _).bind fun result => ?_
  cases result with
  | error _ => exact Confined.fail _
  | ok result =>
      cases result with
      | none => exact Confined.pure _
      | some _ => exact (Confined.modifyState fun _ => trivial).bind fun _ => Confined.pure _

variable (config : Config)

theorem applyIfReady_confined : Confined (fun _ _ => True) (applyIfReady config) := by
  refine Confined.getState.bind fun old => (tryCompute_confined _).attempt.bind fun result => ?_
  cases result with
  | error _ => exact Confined.pure _
  | ok ready =>
      cases ready with
      | false => exact Confined.pure _
      | true =>
          refine Confined.getState.bind fun state => ?_
          cases state.params with
          | none => exact Confined.pure _
          | some new =>
              exact (applyNew_keepsParams config new old.params).mono fun _ _ _ => trivial

/-- All that an event does to the kernel is in the history. -/
theorem handleEvent_confined (event : DaemonEvent) :
    Confined (fun _ _ => True) (handleEvent config event) := by
  have hReceived (f : DaemonState → DaemonState) :
      Confined (fun _ _ => True) (do modifyState f; applyIfReady config) :=
    (Confined.modifyState fun _ => trivial).bind fun _ => applyIfReady_confined config
  have hIaPd (iaPd : Ipv6Net) : Confined (fun _ _ => True) (handleIaPd config iaPd) := by
    unfold handleIaPd
    split_ifs
    · exact Confined.pure _
    · exact hReceived _
  cases event with
  | iaPdReceived iaPd => exact hIaPd iaPd
  | lease iaPd => exact hIaPd iaPd
  | both rules iaPd =>
      change Confined (fun _ _ => True) (handleBoth config rules iaPd)
      unfold handleBoth
      split_ifs
      · exact Confined.pure _
      · exact hReceived _
      · refine (Confined.mapErr (Confined.issue _)).ignore.bind fun _ => ?_
        exact (Confined.modifyState fun _ => trivial).bind fun _ => hReceived _

end Events

end Mapecd
