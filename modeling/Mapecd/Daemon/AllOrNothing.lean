import Mapecd.Daemon.Events

/-! The record of what is installed: between two events either all of it is
there or nothing, whatever fails. -/
namespace Mapecd

open Effects Checked

namespace DaemonState

/-- The fields that `apply`, `update` and `cleanup` leave alone. -/
def inputs (state : DaemonState) : Option MapeParams × Option (List MapRule) × Option Ipv6Net :=
  (state.params, state.pendingMapRules, state.pendingIaPd)

/-- Everything that an apply records is recorded. -/
structure Installed (state : DaemonState) : Prop where
  tunnel : state.tunnelIfindex.isSome
  ebpf : state.ebpf.isSome
  ipForward : state.originalIpForward.isSome
  ipv6Forward : state.originalIpv6Forward.isSome

/-- Nothing of it is. -/
structure Vacant (state : DaemonState) : Prop where
  tunnel : state.tunnelIfindex = none
  ebpf : state.ebpf = none
  ipForward : state.originalIpForward = none
  ipv6Forward : state.originalIpv6Forward = none

def AllOrNone (state : DaemonState) : Prop :=
  (state.params.isSome ∧ state.Installed) ∨ (state.params = none ∧ state.Vacant)

end DaemonState

variable {post : Unit → DaemonWorld → Prop} {stop : Failure MapEError → DaemonWorld → Prop}
  {w : DaemonWorld}

section Cleanup

/-- Taking the manager clears its field and touches no other. -/
theorem wp_takeEbpf_state {s : DaemonState} (hs : w.state = s)
    (h : ∀ w', w'.state = { s with ebpf := none } → post () w') : wp takeEbpf post stop w := by
  subst hs
  unfold takeEbpf
  rw [wp_bind, wp_getState]
  cases hEbpf : w.state.ebpf with
  | some manager =>
      simp only [wp_bind, wp_modifyState, unlinkAndDrop]
      exact (unlinkTc_steps manager).wp_ignore_state fun w' hw => h _ hw
  | none => exact h w (by rw [← hEbpf])

/-- The index is forgotten whether or not the link could be deleted. -/
theorem wp_cleanupTunnel_state {params : MapeParams} {s : DaemonState} (hs : w.state = s)
    (h : ∀ w', w'.state = { s with tunnelIfindex := none } → post () w') :
    wp (cleanupTunnel params) post stop w := by
  subst hs
  unfold cleanupTunnel
  rw [wp_bind, wp_getState]
  cases hTunnel : w.state.tunnelIfindex with
  | some oif =>
      simp only [wp_bind, wp_modifyState]
      apply (delIpv4DefaultRouteByOif_steps oif).wp_ignore_state
      intro w₁ h₁
      apply (deleteLink_steps oif).wp_ignore_state
      intro w₂ h₂
      apply (delIpv4Addr_steps oif params.ipv4).wp_ignore_state
      intro w₃ h₃
      apply h
      rw [h₃, World.withState_state, h₂, h₁]
  | none => exact h w (by rw [← hTunnel])

theorem wp_cleanupAddr6_state {config : Config} {params : MapeParams}
    (h : ∀ w', w'.state = w.state → post () w') :
    wp (cleanupAddr6 config params) post stop w := by
  unfold cleanupAddr6
  rw [wp_bind]
  apply (getLinkIndex_steps config.upstreamInterface).wp_attempt_state
  intro result w₁ h₁
  cases result with
  | ok index =>
      apply (delIpv6Addr_steps index params.ceIpv6).wp_ignore_state
      exact fun w₂ h₂ => h w₂ (h₂.trans h₁)
  | error e => exact h w₁ h₁

theorem wp_restoreIpv6Forward_state {s : DaemonState} (hs : w.state = s)
    (h : ∀ w', w'.state = { s with originalIpv6Forward := none } → post () w') :
    wp restoreIpv6Forward post stop w := by
  subst hs
  unfold restoreIpv6Forward
  rw [wp_bind, wp_getState]
  cases hSaved : w.state.originalIpv6Forward with
  | some value =>
      simp only [wp_bind, wp_modifyState]
      exact (writeSysctl_steps .ipv6ForwardAll value).wp_ignore_state fun w' hw => h w' hw
  | none => exact h w (by rw [← hSaved])

theorem wp_restoreIpForward_state {s : DaemonState} (hs : w.state = s)
    (h : ∀ w', w'.state = { s with originalIpForward := none } → post () w') :
    wp restoreIpForward post stop w := by
  subst hs
  unfold restoreIpForward
  rw [wp_bind, wp_getState]
  cases hSaved : w.state.originalIpForward with
  | some value =>
      simp only [wp_bind, wp_modifyState]
      exact (writeSysctl_steps .ipv4Forward value).wp_ignore_state fun w' hw => h w' hw
  | none => exact h w (by rw [← hSaved])

/-- `cleanup` cannot fail and forgets all that was recorded. -/
theorem wp_cleanup_state {config : Config} {params : MapeParams}
    (h : ∀ w', w'.state.Vacant → w'.state.inputs = w.state.inputs → post () w') :
    wp (cleanup config params) post stop w := by
  unfold cleanup cleanupSysctl
  simp only [wp_bind]
  apply deleteTables_steps.wp_ignore_state
  intro w₁ h₁
  apply wp_takeEbpf_state h₁
  intro w₂ h₂
  apply wp_cleanupTunnel_state h₂
  intro w₃ h₃
  apply wp_cleanupAddr6_state
  intro w₄ h₄
  apply wp_restoreIpv6Forward_state (h₄.trans h₃)
  intro w₅ h₅
  apply wp_restoreIpForward_state h₅
  intro w₆ h₆
  apply h
  · rw [h₆]
    exact ⟨rfl, rfl, rfl, rfl⟩
  · rw [h₆]
    rfl

end Cleanup

section Apply

/-- Both old values are recorded before anything can fail behind them. -/
theorem wp_applyStep1Sysctl_state {s : DaemonState} (hs : w.state = s)
    (hOk : ∀ v4 v6 w', w'.state =
      { s with originalIpForward := some v4, originalIpv6Forward := some v6 } → post () w')
    (hErr : ∀ e w', w'.state.inputs = s.inputs → stop (.error e) w') :
    wp applyStep1Sysctl post stop w := by
  subst hs
  unfold applyStep1Sysctl
  simp only [wp_bind, wp_modifyState]
  apply (readSysctl_steps _).wp_state _ fun e w₁ h₁ => hErr e w₁ (by rw [h₁])
  intro v4 w₁ h₁
  apply (writeSysctl_steps _ _).wp_state _ fun e w₂ h₂ => hErr e w₂ (by rw [h₂, ← h₁]; rfl)
  intro _ w₂ h₂
  apply (readSysctl_steps _).wp_state _ fun e w₃ h₃ => hErr e w₃ (by rw [h₃, h₂, ← h₁]; rfl)
  intro v6 w₃ h₃
  have hSaved (w₄ : DaemonWorld) (h₄ : w₄.state =
      (w₃.withState { w₃.state with originalIpv6Forward := some v6 }).state) :
      w₄.state =
        { w.state with originalIpForward := some v4, originalIpv6Forward := some v6 } := by
    rw [h₄, World.withState_state, h₃, h₂, World.withState_state, h₁]
  apply (writeSysctl_steps _ _).wp_state
  · exact fun _ w₄ h₄ => hOk v4 v6 w₄ (hSaved w₄ h₄)
  · exact fun e w₄ h₄ => hErr e w₄ (by rw [hSaved w₄ h₄]; rfl)

theorem applyStep2AddIpv6_steps (config : Config) (params : MapeParams) :
    Steps Kernel.UpstreamAddrsChange (applyStep2AddIpv6 config params) :=
  Steps.bind ((getLinkIndex_steps _).mono fun _ _ => Kernel.Unchanged.upstreamAddrsChange)
    fun index => addIpv6Addr_steps index _

/-- The index is recorded as the last thing of the step. -/
theorem wp_applyStep3CreateTunnel_state {config : Config} {params : MapeParams} {s : DaemonState}
    (hs : w.state = s) (hOk : ∀ i w', w'.state = { s with tunnelIfindex := some i } → post () w')
    (hErr : ∀ e w', w'.state.inputs = s.inputs → stop (.error e) w') :
    wp (applyStep3CreateTunnel config params) post stop w := by
  subst hs
  unfold applyStep3CreateTunnel
  simp only [wp_bind, wp_modifyState]
  apply (getLinkIndex_steps _).wp_state _ fun e w₁ h₁ => hErr e w₁ (by rw [h₁])
  intro upstream w₁ h₁
  apply (resolveMtu_steps config).wp_state _ fun e w₂ h₂ => hErr e w₂ (by rw [h₂, h₁])
  intro mtu w₂ h₂
  apply (createIp6tnl_steps _ _ _ _ _).wp_state _ fun e w₃ h₃ => hErr e w₃ (by rw [h₃, h₂, h₁])
  intro tunnel w₃ h₃
  apply hOk tunnel
  rw [World.withState_state, h₃, h₂, h₁]

theorem wp_storeEbpf_state {manager : EbpfManager} {s : DaemonState} (hs : w.state = s)
    (h : ∀ w', w'.state = { s with ebpf := some manager } → post () w') :
    wp (storeEbpf manager) post stop w := by
  subst hs
  unfold storeEbpf
  rw [wp_bind, wp_getState]
  cases w.state.ebpf with
  | some old => exact h _ rfl
  | none => exact h _ rfl

/-- The manager is recorded when both programs are attached. -/
theorem wp_applyStep5_5Ebpf_state {config : Config} {params : MapeParams} {s : DaemonState}
    (hs : w.state = s)
    (hOk : ∀ manager w', w'.state = { s with ebpf := some manager } → post () w')
    (hErr : ∀ e w', w'.state.inputs = s.inputs → stop (.error e) w') :
    wp (applyStep5_5Ebpf config params) post stop w := by
  obtain ⟨result, hResult⟩ := Option.isSome_iff_exists.mp (psidConfigFromParams_isSome params)
  subst hs
  unfold applyStep5_5Ebpf
  simp only [wp_bind, hResult, wp_checked_some]
  cases result with
  | error e => exact hErr e w rfl
  | ok cfg =>
      apply (load_steps cfg).wp_state _ fun e w₁ h₁ => hErr e w₁ (by rw [h₁])
      intro ebpf w₁ h₁
      have hLink := (linkTc_steps ebpf config.tunnelInterface).mono fun _ _ =>
        Kernel.BpfObjectChange.bpfChange
      apply (orDrop_steps hLink).wp_state _ fun e w₂ h₂ => hErr e w₂ (by rw [h₂, h₁])
      intro linked w₂ h₂
      exact wp_storeEbpf_state (h₂.trans h₁) fun w₃ h₃ => hOk linked w₃ h₃

/-- With a recorded tunnel, steps 4 to 6 end with a stored manager. -/
theorem wp_applySteps4To6_state {config : Config} {params : MapeParams} {operation : String}
    {s : DaemonState} (hs : w.state = s) {ifindex : Nat} (hTunnel : s.tunnelIfindex = some ifindex)
    (hRanges : (calcPortRanges params.rule.portParams params.psid).isSome)
    (hOk : ∀ manager w', w'.state = { s with ebpf := some manager } → post () w')
    (hErr : ∀ e w', w'.state.inputs = s.inputs → stop (.error e) w') :
    wp (applySteps4To6 config params operation) post stop w := by
  subst hs
  unfold applySteps4To6 recordedTunnel
  simp only [wp_bind, wp_getState, hTunnel, wp_pure]
  apply (addIpv4Addr_steps _ _).wp_state _ fun e w₁ h₁ => hErr e w₁ (by rw [h₁])
  intro _ w₁ h₁
  apply (addIpv4DefaultRoute_steps _).wp_state _ fun e w₂ h₂ => hErr e w₂ (by rw [h₂, h₁])
  intro _ w₂ h₂
  apply wp_applyStep5_5Ebpf_state (h₂.trans h₁) _ hErr
  intro manager w₃ h₃
  apply (applyStep6Nftables_steps config hRanges).wp_state
  · exact fun _ w₄ h₄ => hOk manager w₄ (h₄.trans h₃)
  · exact fun e w₄ h₄ => hErr e w₄ (by rw [h₄, h₃]; rfl)

/-- An apply that returns has recorded all four. What an error leaves behind is cleaned
up by the caller. -/
theorem wp_apply_state {config : Config} {params : MapeParams} {s : DaemonState} (hs : w.state = s)
    (hRanges : (calcPortRanges params.rule.portParams params.psid).isSome)
    (hOk : ∀ w', w'.state.Installed → w'.state.inputs = s.inputs → post () w')
    (hErr : ∀ e w', w'.state.inputs = s.inputs → stop (.error e) w') :
    wp (apply config params) post stop w := by
  unfold apply
  simp only [wp_bind]
  apply wp_applyStep1Sysctl_state hs _ hErr
  intro v4 v6 w₁ h₁
  apply (applyStep2AddIpv6_steps config params).wp_state _ fun e w₂ h₂ =>
    hErr e w₂ (by rw [h₂, h₁]; rfl)
  intro _ w₂ h₂
  apply wp_applyStep3CreateTunnel_state (h₂.trans h₁) _ fun e w₃ h₃ => hErr e w₃ h₃
  intro ifindex w₃ h₃
  apply wp_applySteps4To6_state h₃ rfl hRanges _ fun e w₄ h₄ => hErr e w₄ h₄
  intro manager w₄ h₄
  apply hOk
  · rw [h₄]
    exact ⟨rfl, rfl, rfl, rfl⟩
  · rw [h₄]
    rfl

end Apply

section Update

/-- A failed deletion of the link leaves the record of the tunnel. -/
theorem wp_removeTunnel_state {s : DaemonState} (hs : w.state = s)
    (hOk : ∀ w', w'.state = { s with tunnelIfindex := none } → post () w')
    (hErr : ∀ e w', w'.state.inputs = s.inputs → stop (.error e) w') :
    wp removeTunnel post stop w := by
  subst hs
  unfold removeTunnel
  rw [wp_bind, wp_getState]
  cases hTunnel : w.state.tunnelIfindex with
  | some oif =>
      simp only [wp_bind, wp_modifyState]
      apply (delIpv4DefaultRouteByOif_steps oif).wp_ignore_state
      intro w₁ h₁
      apply (deleteLink_steps oif).wp_state _ fun e w₂ h₂ => hErr e w₂ (by rw [h₂, h₁])
      intro _ w₂ h₂
      apply hOk
      rw [World.withState_state, h₂, h₁]
  | none => exact hOk w (by rw [← hTunnel])

/-- The old sysctl values stay recorded, tunnel and manager are recorded anew. -/
theorem wp_recreateTunnelAndApply_state {config : Config} {new : MapeParams} {s : DaemonState}
    (hs : w.state = s) (hInstalled : s.Installed)
    (hRanges : (calcPortRanges new.rule.portParams new.psid).isSome)
    (hOk : ∀ w', w'.state.Installed → w'.state.inputs = s.inputs → post () w')
    (hErr : ∀ e w', w'.state.inputs = s.inputs → stop (.error e) w') :
    wp (recreateTunnelAndApply config new) post stop w := by
  unfold recreateTunnelAndApply
  simp only [wp_bind]
  apply wp_takeEbpf_state hs
  intro w₁ h₁
  apply wp_removeTunnel_state h₁ _ fun e w₂ h₂ => hErr e w₂ h₂
  intro w₂ h₂
  apply wp_applyStep3CreateTunnel_state h₂ _ fun e w₃ h₃ => hErr e w₃ h₃
  intro ifindex w₃ h₃
  apply wp_applySteps4To6_state h₃ rfl hRanges _ fun e w₄ h₄ => hErr e w₄ h₄
  intro manager w₄ h₄
  apply hOk
  · rw [h₄]
    exact ⟨rfl, rfl, hInstalled.ipForward, hInstalled.ipv6Forward⟩
  · rw [h₄]
    rfl

/-- The branches of `update` either leave the four fields alone or record them again. -/
theorem wp_update_state {config : Config} {old new : MapeParams} {s : DaemonState}
    (hs : w.state = s) (hInstalled : s.Installed)
    (hRanges : (calcPortRanges new.rule.portParams new.psid).isSome)
    (hOk : ∀ w', w'.state.Installed → w'.state.inputs = s.inputs → post () w')
    (hErr : ∀ e w', w'.state.inputs = s.inputs → stop (.error e) w') :
    wp (update config old new) post stop w := by
  have hMap (w₁ : DaemonWorld) (hInst : w₁.state.Installed) (hInputs : w₁.state.inputs = s.inputs) :
      wp (updateConfigMap new) post stop w₁ := by
    apply (updateConfigMap_steps new).wp_state
    · exact fun _ w₂ h₂ => hOk w₂ (by rwa [h₂]) (by rwa [h₂])
    · exact fun e w₂ h₂ => hErr e w₂ (by rwa [h₂])
  obtain ⟨ifindex, hTunnel⟩ := Option.isSome_iff_exists.mp hInstalled.tunnel
  subst hs
  unfold update
  split_ifs
  · simp only [wp_bind]
    apply (getLinkIndex_steps _).wp_state _ fun e w₁ h₁ => hErr e w₁ (by rw [h₁])
    intro upstream w₁ h₁
    apply (delIpv6Addr_steps _ _).wp_ignore_state
    intro w₂ h₂
    apply (addIpv6Addr_steps _ _).wp_state _ fun e w₃ h₃ => hErr e w₃ (by rw [h₃, h₂, h₁])
    intro _ w₃ h₃
    apply wp_recreateTunnelAndApply_state (h₃.trans (h₂.trans h₁)) hInstalled hRanges _ hErr
    exact hMap
  · rw [wp_bind]
    exact wp_recreateTunnelAndApply_state rfl hInstalled hRanges hMap hErr
  · simp only [wp_bind, recordedTunnel, wp_getState, hTunnel, wp_pure]
    apply (delIpv4Addr_steps _ _).wp_ignore_state
    intro w₁ h₁
    apply (addIpv4Addr_steps _ _).wp_state _ fun e w₂ h₂ => hErr e w₂ (by rw [h₂, h₁])
    intro _ w₂ h₂
    apply (addIpv4DefaultRoute_steps _).wp_state _ fun e w₃ h₃ => hErr e w₃ (by rw [h₃, h₂, h₁])
    intro _ w₃ h₃
    apply (applyStep6Nftables_steps config hRanges).wp_state
    · intro _ w₄ h₄
      apply hMap w₄ <;> rw [h₄, h₃, h₂, h₁]
      exact hInstalled
    · exact fun e w₄ h₄ => hErr e w₄ (by rw [h₄, h₃, h₂, h₁])
  · rw [wp_bind]
    apply (applyStep6Nftables_steps config hRanges).wp_state
    · intro _ w₁ h₁
      apply hMap w₁ <;> rw [h₁]
      exact hInstalled
    · exact fun e w₁ h₁ => hErr e w₁ (by rw [h₁])

end Update

section Events

/-- On an error everything is cleared, and the parameters with it. -/
theorem wp_applyOrCleanup_state {config : Config} {params : MapeParams}
    (hParams : w.state.params = some params)
    (hRanges : (calcPortRanges params.rule.portParams params.psid).isSome)
    (h : ∀ w', w'.state.AllOrNone → w'.state.inputs.2 = w.state.inputs.2 → post () w') :
    wp (applyOrCleanup config params) post stop w := by
  unfold applyOrCleanup
  rw [wp_bind, wp_attempt]
  apply wp_apply_state rfl hRanges
  · intro w₁ hInstalled hInputs
    have hSome : w₁.state.params = some params := (congrArg Prod.fst hInputs).trans hParams
    exact h w₁ (Or.inl ⟨by rw [hSome]; rfl, hInstalled⟩) (congrArg Prod.snd hInputs)
  · intro e w₁ hInputs
    simp only [wp_bind, clearParams]
    apply wp_cleanup_state
    intro w₂ hVacant hInputs₂
    have hPending : w₂.state.inputs.2 = w.state.inputs.2 := by rw [hInputs₂, hInputs]
    exact h _ (Or.inr ⟨rfl, hVacant.tunnel, hVacant.ebpf, hVacant.ipForward, hVacant.ipv6Forward⟩)
      hPending

/-- The same for an update. -/
theorem wp_updateOrCleanup_state {config : Config} {old new : MapeParams}
    (hParams : w.state.params = some new) (hInstalled : w.state.Installed)
    (hRanges : (calcPortRanges new.rule.portParams new.psid).isSome)
    (h : ∀ w', w'.state.AllOrNone → w'.state.inputs.2 = w.state.inputs.2 → post () w') :
    wp (updateOrCleanup config old new) post stop w := by
  unfold updateOrCleanup
  rw [wp_bind, wp_attempt]
  apply wp_update_state rfl hInstalled hRanges
  · intro w₁ hInstalled' hInputs
    have hSome : w₁.state.params = some new := (congrArg Prod.fst hInputs).trans hParams
    exact h w₁ (Or.inl ⟨by rw [hSome]; rfl, hInstalled'⟩) (congrArg Prod.snd hInputs)
  · intro e w₁ hInputs
    simp only [wp_bind, clearParams]
    apply wp_cleanup_state
    intro w₂ hVacant hInputs₂
    have hPending : w₂.state.inputs.2 = w.state.inputs.2 := by rw [hInputs₂, hInputs]
    exact h _ (Or.inr ⟨rfl, hVacant.tunnel, hVacant.ebpf, hVacant.ipForward, hVacant.ipv6Forward⟩)
      hPending

/-- The new parameters are stored, the record is still that of the old ones. -/
theorem wp_applyNew_state {config : Config} {oldParams : Option MapeParams} {new : MapeParams}
    (hParams : w.state.params = some new)
    (hRanges : (calcPortRanges new.rule.portParams new.psid).isSome)
    (hRecord : (oldParams.isSome ∧ w.state.Installed) ∨ (oldParams = none ∧ w.state.Vacant))
    (h : ∀ w', w'.state.AllOrNone → w'.state.inputs.2 = w.state.inputs.2 → post () w') :
    wp (applyNew config oldParams new) post stop w := by
  unfold applyNew
  rw [wp_bind, wp_getState]
  rcases hRecord with ⟨hOld, hInstalled⟩ | ⟨-, hVacant⟩
  · obtain ⟨old, rfl⟩ := Option.isSome_iff_exists.mp hOld
    simp only [hInstalled.tunnel, if_true]
    split_ifs
    · rw [wp_bind]
      apply wp_cleanup_state
      intro w₁ _ hInputs
      exact wp_applyOrCleanup_state ((congrArg Prod.fst hInputs).trans hParams) hRanges
        fun w₂ h₂ hInputs₂ => h w₂ h₂ (hInputs₂.trans (congrArg Prod.snd hInputs))
    · exact wp_updateOrCleanup_state hParams hInstalled hRanges h
    · exact h w (Or.inl ⟨by rw [hParams]; rfl, hInstalled⟩) rfl
  · simp only [hVacant.tunnel, Option.isSome_none, Bool.false_eq_true, if_false]
    exact wp_applyOrCleanup_state hParams hRanges h

theorem DaemonState.AllOrNone.withPending {state : DaemonState} (h : state.AllOrNone)
    (rules : Option (List MapRule)) (iaPd : Option Ipv6Net) :
    (state.withPending rules iaPd).AllOrNone := by
  rcases h with ⟨hParams, hInstalled⟩ | ⟨hParams, hVacant⟩
  · exact Or.inl ⟨hParams, hInstalled.tunnel, hInstalled.ebpf, hInstalled.ipForward,
      hInstalled.ipv6Forward⟩
  · exact Or.inr ⟨hParams, hVacant.tunnel, hVacant.ebpf, hVacant.ipForward, hVacant.ipv6Forward⟩

/-- The record with the new parameters in it, as `apply_if_ready` leaves it to `applyNew`. -/
theorem DaemonState.AllOrNone.record {state : DaemonState} (h : state.AllOrNone)
    (params : Option MapeParams) :
    (state.params.isSome ∧ { state with params := params }.Installed) ∨
      (state.params = none ∧ { state with params := params }.Vacant) := by
  rcases h with ⟨hOld, hInstalled⟩ | ⟨hOld, hVacant⟩
  · exact Or.inl ⟨hOld, hInstalled.tunnel, hInstalled.ebpf, hInstalled.ipForward,
      hInstalled.ipv6Forward⟩
  · exact Or.inr ⟨hOld, hVacant.tunnel, hVacant.ebpf, hVacant.ipForward, hVacant.ipv6Forward⟩

/-- `apply_if_ready` keeps the pending data. -/
theorem wp_applyIfReady_state {config : Config} (hw : w.state.AllOrNone)
    (h : ∀ w', w'.state.AllOrNone → w'.state.inputs.2 = w.state.inputs.2 → post () w')
    (hPanic : stop .panic w) : wp (applyIfReady config) post stop w := by
  apply wp_applyIfReady w.isAt
  · intro new w₁ _ hComputed h₁ _
    refine wp_applyNew_state (by rw [h₁.state]) hComputed.isSome ?_ ?_
    · rw [h₁.state]
      exact hw.record (some new)
    · intro w₂ h₂ hInputs₂
      apply h w₂ h₂
      rw [hInputs₂, h₁.state]
      rfl
  · exact fun _ => h w hw rfl
  · exact fun _ => hPanic

/-- One event, whatever comes and whatever fails. -/
theorem wp_handleEvent_state {config : Config} (event : DaemonEvent) (hw : w.state.AllOrNone)
    (h : ∀ w', w'.state.AllOrNone → post () w')
    (hPanic : ∀ w', w'.state.AllOrNone → stop .panic w') :
    wp (handleEvent config event) post stop w := by
  apply wp_handleEvent event w.isAt
  · intro rules iaPd cache new w₁ _ _ hComputed h₁ _
    refine wp_applyNew_state (by rw [h₁.state]) hComputed.isSome ?_ fun w₂ h₂ _ => h w₂ h₂
    rw [h₁.state]
    exact (hw.withPending rules (some iaPd)).record (some new)
  · intro _ rules iaPd cache w₁ h₁ _
    apply h
    rw [h₁.state]
    exact hw.withPending rules iaPd
  · intro _ rules iaPd cache w₁ h₁ _
    apply hPanic
    rw [h₁.state]
    exact hw.withPending rules iaPd

/-- By induction over the events. -/
theorem wp_run_state {config : Config} (events : List DaemonEvent) {w : DaemonWorld}
    (hw : w.state.AllOrNone) :
    wp (run config events) (fun _ w' => w'.state.AllOrNone)
      (fun f w' => f = .panic ∧ w'.state.AllOrNone) w := by
  induction events generalizing w with
  | nil => exact hw
  | cons event events ih =>
      rw [run, List.forM_eq_forM, List.forM_cons, wp_bind]
      exact wp_handleEvent_state event hw (fun w' h => ih h) fun w' h => ⟨rfl, h⟩

end Events

/-- After any events and any failures the daemon has recorded everything or
nothing, also at the point of a panic. A recorded tunnel comes with its
parameters, so that the shutdown never skips the cleanup of a recorded tunnel. The
kernel can still hold one that nothing records. -/
theorem run_allOrNone (config : Config) (kernel : Kernel) (faults : Nat → Option Errno)
    (rules : Option (List MapRule)) (events : List DaemonEvent) :
    wp (run config events)
      (fun _ w' => w'.state.AllOrNone ∧ (w'.state.tunnelIfindex.isSome ↔ w'.state.params.isSome))
      (fun f w' => f = .panic ∧ w'.state.AllOrNone) (initialWorld kernel faults rules) := by
  apply wp_mono (wp_run_state events (Or.inr ⟨rfl, rfl, rfl, rfl, rfl⟩)) _ fun _ _ h => h
  intro _ w' h
  refine ⟨h, ?_⟩
  rcases h with ⟨hParams, hInstalled⟩ | ⟨hParams, hVacant⟩
  · exact iff_of_true hInstalled.tunnel hParams
  · rw [hParams, hVacant.tunnel]
    exact Iff.rfl

/-- After the shutdown nothing is recorded. This is about the record: a tunnel that a
failed step has left behind without recording it is not seen here. -/
theorem run_shutdown_vacant (config : Config) (kernel : Kernel) (faults : Nat → Option Errno)
    (rules : Option (List MapRule)) (events : List DaemonEvent) :
    wp (do run config events; shutdown config) (fun _ w' => w'.state.Vacant)
      (fun f _ => f = .panic) (initialWorld kernel faults rules) := by
  rw [wp_bind]
  apply wp_mono (wp_run_state events (Or.inr ⟨rfl, rfl, rfl, rfl, rfl⟩)) _ fun _ _ h => h.1
  intro _ w' h
  unfold shutdown
  rw [wp_bind, wp_getState]
  rcases h with ⟨hParams, -⟩ | ⟨hParams, hVacant⟩
  · obtain ⟨params, hSome⟩ := Option.isSome_iff_exists.mp hParams
    rw [hSome]
    exact wp_cleanup_state fun _ hVacant _ => hVacant
  · rw [hParams]
    exact hVacant

end Mapecd
