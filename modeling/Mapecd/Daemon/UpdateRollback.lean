import Mapecd.Daemon.Rollback

/-! What `cleanup` can still find after a failed `update`. It is run with the new
parameters, so the old CE address has to be gone by then; the new tunnel is lost
where that of `apply` is. -/
namespace Mapecd

open Effects Checked

section Recreate

variable {config : Config} {set : Settings} {i b : Nat} {base k : Kernel} {s : DaemonState}
  {f : Nat → Option Errno} {n : Nat} {w : DaemonWorld} {post : Unit → DaemonWorld → Prop}
  {stop : Failure MapEError → DaemonWorld → Prop}

/-- Detaching does not matter where the object is dropped then. -/
theorem dropBpf_outcome_detachTc (id : Nat) (attachType : TcAttachType) :
    (outcome (Kernel.detachTc id attachType) k).dropBpf id = k.dropBpf id := by
  unfold outcome
  cases hDetach : Kernel.detachTc id attachType k with
  | error e => rfl
  | ok result =>
      obtain ⟨f, hId, hChange⟩ := Kernel.detachTc_change hDetach
      exact (congrArg _ hChange).trans (dropBpf_modifyBpf hId)

theorem wp_detach_reached {id link : Nat} {attachType : TcAttachType} (h : w.Reached k s f n)
    (hDone : ∀ k' w', k'.dropBpf id = k.dropBpf id → w'.Reached k' s f (n + 1) → post () w') :
    wp (EbpfManager.detach id attachType (some link)) post stop w := by
  change wp (ignore _) post stop w
  apply wp_ignore_request_reached h
  · exact fun w₁ _ h₁ => hDone k w₁ rfl h₁
  · exact fun w₁ _ h₁ => hDone _ w₁ (dropBpf_outcome_detachTc id attachType) h₁

/-- Two requests, whatever becomes of them. -/
theorem Running.wp_takeEbpf_reached (hRunning : Running config base set i b k s)
    (h : w.Reached k s f n)
    (hDone : ∀ w', w'.Reached (k.withBpf []) { s with ebpf := none } f (n + 2) → post () w') :
    wp takeEbpf post stop w := by
  have hDrop : k.dropBpf b = k.withBpf [] := by
    rw [← hRunning.unloaded_bpf, Kernel.unloaded, hRunning.ebpf]
    rfl
  unfold takeEbpf unlinkAndDrop EbpfManager.unlinkTc
  rw [wp_bind, wp_getState, h.state, hRunning.ebpf]
  simp only [wp_bind, wp_modifyState, wp_internal, Effects.ignore, wp_attempt, h.state]
  apply wp_detach_reached (h.withState _)
  intro k₁ w₁ hSame₁ h₁
  apply wp_detach_reached h₁
  intro k₂ w₂ hSame₂ h₂
  apply hDone
  rw [h₂.sys, hSame₂, hSame₁, hDrop]
  exact h₂.shift _

/-- A dump and one deletion; without the dump there is nothing to delete. -/
theorem wp_delDefaultRoute_reached {oif : Nat} {route : RouteMessage} (h : w.Reached k s f n)
    (hOne : (k.routes.filter fun msg => IsDefaultVia oif msg) = [route])
    (hDone : ∀ m routes w', m = n + 2 ∨ m = n + 1 ∧ f n ≠ none ∧ routes = k.routes →
      w'.Reached (k.withRoutes routes) s f m → post () w') :
    wp (ignore (delIpv4DefaultRouteByOif oif)) post stop w := by
  rw [ignore, wp_bind, wp_attempt]
  unfold delIpv4DefaultRouteByOif request
  rw [wp_bind, wp_mapErr]
  apply h.wp_issue
  · exact fun _ w₁ hAhead h₁ => hDone _ k.routes w₁ (Or.inr ⟨rfl, hAhead, rfl⟩) h₁
  · exact fun _ _ hRefused => by cases hRefused
  rintro _ _ w₁ _ ⟨⟩ h₁
  dsimp only
  rw [show (k.routes.filter fun msg => decide (msg.destinationPrefixLength = 0 ∧
    .oif oif ∈ msg.attributes)) = [route] from hOne, List.forM_eq_forM, List.forM_cons, wp_bind,
    wp_mapErr]
  apply h₁.wp_issue
  · exact fun _ w₂ _ h₂ => hDone _ k.routes w₂ (Or.inl rfl) h₂
  · exact fun _ w₂ _ h₂ => hDone _ k.routes w₂ (Or.inl rfl) h₂
  · intro _ k₂ w₂ _ hDel h₂
    obtain ⟨routes, rfl⟩ := Kernel.delRoute_change hDel
    exact hDone _ routes w₂ (Or.inl rfl) h₂

/-- The record is kept until the link is gone. -/
theorem wp_removeTunnel_reached {tunnel : TunnelLink} (h : w.Reached (k.withBpf []) s f n)
    (hTunnel : k.tunnel = some tunnel) (hIfindex : s.tunnelIfindex = some tunnel.ifindex)
    {route : RouteMessage}
    (hOne : (k.routes.filter fun msg => IsDefaultVia tunnel.ifindex msg) = [route])
    (hErr : ∀ e m routes w', m < n + 3 → f m ≠ none →
      w'.IsAt ((k.withBpf []).withRoutes routes) s f → stop (.error e) w')
    (hDone : ∀ m routes w', m = n + 3 ∨ m = n + 2 ∧ f n ≠ none →
      w'.Reached (((k.withBpf []).withRoutes routes).withTunnel none)
        { s with tunnelIfindex := none } f m → post () w') :
    wp removeTunnel post stop w := by
  unfold removeTunnel
  rw [wp_bind, wp_getState, h.state, hIfindex]
  simp only [wp_bind, wp_modifyState]
  apply wp_delDefaultRoute_reached h hOne
  intro m routes w₁ hm h₁
  have hDel := delLink_present (k := (k.withBpf []).withRoutes routes) hTunnel
  apply wp_request_reached h₁ hDel
  · exact fun e w₂ hAhead h₂ => hErr e m routes w₂ (by omega) hAhead h₂
  · intro w₂ _ h₂
    rw [h₂.state]
    refine hDone (m + 1) _ _ ?_ (h₂.withState _)
    rcases hm with hAll | ⟨hFewer, hAhead, -⟩
    · exact Or.inl (congrArg (· + 1) hAll)
    · exact Or.inr ⟨congrArg (· + 1) hFewer, hAhead⟩

/-- The tunnel has one default route. -/
theorem Running.defaultRoutes (hBase : Base config base)
    (hRunning : Running config base set i b k s) :
    (k.routes.filter fun msg => IsDefaultVia i msg) = [tunnelDefaultRoute i] := by
  have hVia : IsDefaultVia i (tunnelDefaultRoute i) := ⟨rfl, List.mem_singleton.mpr rfl⟩
  have hOther : (settle base.routes).filter (fun msg => IsDefaultVia i msg) = [] := by
    apply List.filter_eq_nil_iff.mpr
    intro msg hMsg hMsgVia
    exact hBase.notMem_ifindexes hRunning.fresh msg (mem_settle.mp hMsg).1
      (of_decide_eq_true hMsgVia).mem_ifindexes
  rw [hRunning.routes, List.filter_append, hOther, List.nil_append,
    List.filter_cons_of_pos (by simpa using hVia), List.filter_nil]

/-- What is running is accounted for, so that a failed update can be cleaned up. -/
theorem Running.accounted (hBase : Base config base) (hRunning : Running config base set i b k s)
    (hPaired : set.tables.Paired) : Accounted config base k.upstream k s := by
  refine ⟨⟨?_, ?_, ?_, ?_, ?_⟩, ?_, rfl⟩
  · rw [hRunning.upstream]
    exact hBase.name
  · intro obj hObj
    rw [hRunning.bpf] at hObj
    cases List.mem_singleton.mp hObj
    exact ⟨_, hRunning.ebpf, rfl⟩
  · rw [hRunning.nft]
    exact hPaired
  · rw [hRunning.originalIpForward, Option.getD_some]
  · rw [hRunning.originalIpv6Forward, Option.getD_some]
  · intro tunnel hTunnel
    rw [hRunning.tunnel] at hTunnel
    cases hTunnel
    exact hRunning.tunnelIfindex

/-- Requests of `recreate_tunnel_and_apply` before step 3: two to detach the
filters, two for the default route and one for the link. -/
def requestsBeforeRecreated : Nat := 5

/-- One fault in `recreate_tunnel_and_apply`, which begins with request `n`. -/
theorem Running.wp_recreate_fault {new : MapeParams} {p : Nat} {e : Errno}
    (hBase : Base config base) (hRunning : Running config base set i b k s)
    (hPaired : set.tables.Paired) (h : w.Reached k s (faultAt p e) n)
    (hOk : ∀ w', post () w') (hPanic : ∀ w', stop .panic w')
    (hErr : ∀ e' k' s' w', w'.IsAt k' s' (faultAt p e) → Traceable config base k' s' →
      k'.upstream = k.upstream →
      (TunnelRecorded k' s' ↔ ¬ Unrecorded config (n + requestsBeforeRecreated) p) →
      stop (.error e') w') :
    wp (recreateTunnelAndApply config new) post stop w := by
  have hAccounted := hRunning.accounted hBase hPaired
  have hTraceable (routes : List RouteMessage) (tunnel : Option TunnelLink) (oif : Option Nat) :
      Traceable config base (((k.withBpf []).withRoutes routes).withTunnel tunnel)
        { s with ebpf := none, tunnelIfindex := oif } :=
    ⟨hAccounted.name, fun _ hObj => absurd hObj List.not_mem_nil, hAccounted.nft,
      hAccounted.ipForward, hAccounted.ipv6Forward⟩
  have hIndex {m : Nat} (hAhead : faultAt p e m ≠ none) : m = p := eq_of_faultAt_ne_none hAhead
  have hEarly (hLate : p ≤ n + requestsBeforeRecreated + requestsBeforeNewLink config) :
      ¬ Unrecorded config (n + requestsBeforeRecreated) p := by
    unfold Unrecorded
    omega
  unfold recreateTunnelAndApply
  simp only [wp_bind]
  apply hRunning.wp_takeEbpf_reached h
  intro w₁ h₁
  apply wp_removeTunnel_reached h₁ hRunning.tunnel hRunning.tunnelIfindex
    (hRunning.defaultRoutes hBase)
  · intro e' m routes w₂ hm hAhead h₂
    have hp := hIndex hAhead
    refine hErr e' _ _ w₂ h₂ (hTraceable routes k.tunnel s.tunnelIfindex) rfl
      (iff_of_true hAccounted.recorded (hEarly ?_))
    unfold requestsBeforeRecreated
    omega
  intro m routes w₂ hm h₂
  have hFirst : m = n + requestsBeforeRecreated ∨ m ≤ n + requestsBeforeRecreated ∧ p < m := by
    unfold requestsBeforeRecreated
    rcases hm with hAll | ⟨hFewer, hAhead⟩
    · exact Or.inl hAll
    · have hp := hIndex hAhead
      omega
  apply wp_applyStep3CreateTunnel h₂ hAccounted.name rfl
  · intro e' x w₃ _ hHigh hAhead h₃
    have hp := hIndex hAhead
    refine hErr e' _ _ w₃ h₃ (hTraceable routes none none) rfl (iff_of_true ?_ (hEarly ?_))
    · exact fun _ hTunnel => by cases hTunnel
    · omega
  · intro e' x w₃ hLow hHigh hAhead h₃
    have hp := hIndex hAhead
    refine hErr e' _ _ w₃ h₃ ?_ rfl (iff_of_false ?_ ?_)
    · exact ⟨hAccounted.name, fun _ hObj => absurd hObj List.not_mem_nil, hAccounted.nft,
        hAccounted.ipForward, hAccounted.ipv6Forward⟩
    · intro hRecorded
      cases hRecorded _ rfl
    · unfold Unrecorded
      omega
  · intro w₃ hAhead h₃
    apply wp_applySteps4To6_accounted h₃ ((hTraceable routes none none).newTunnel _ true) rfl rfl
    · exact fun _ _ w₄ _ _ => hOk w₄
    · intro e' k' s' w₄ h₄ hAccounted'
      refine hErr e' k' s' w₄ h₄ hAccounted'.toTraceable hAccounted'.upstream
        (iff_of_true hAccounted'.recorded ?_)
      intro hUnrecorded
      have hNone := hAhead p (by unfold Unrecorded at hUnrecorded; omega)
        (by unfold Unrecorded at hUnrecorded; omega)
      rw [faultAt_self] at hNone
      cases hNone
    · exact hPanic

/-- The new address, then the new tunnel. An address that is already there stops
`update` before the old tunnel is touched. -/
theorem Running.wp_newAddress_fault {new : MapeParams} {p : Nat} {e : Errno}
    (hBase : Base config base) (hRunning : Running config base set i b k s)
    (hPaired : set.tables.Paired) (h : w.Reached k s (faultAt p e) n)
    (hOk : ∀ w', post () w') (hPanic : ∀ w', stop .panic w')
    (hErr : ∀ e' k' s' w', w'.IsAt k' s' (faultAt p e) → Traceable config base k' s' →
      k'.upstream.addrs.erase new.ceIpv6 = k.upstream.addrs.erase new.ceIpv6 →
      (TunnelRecorded k' s' ↔ ¬ (new.ceIpv6 ∉ k.upstream.addrs ∧
        Unrecorded config (n + 1 + requestsBeforeRecreated) p)) → stop (.error e') w') :
    wp (addIpv6Addr k.upstream.ifindex new.ceIpv6)
      (fun _ w' => wp (recreateTunnelAndApply config new) post stop w') stop w := by
  have hAccounted := hRunning.accounted hBase hPaired
  by_cases hCe : new.ceIpv6 ∈ k.upstream.addrs
  · apply wp_request h.toIsAt
    · exact fun e' w₁ _ h₁ => hErr _ k s w₁ h₁ hAccounted.toTraceable rfl
        (iff_of_true hAccounted.recorded fun hBoth => hBoth.1 hCe)
    · intro _ k₁ w₁ hAdd
      cases hAdd.symm.trans (newAddr6_mem hCe)
  · apply wp_request_reached h (newAddr6_notMem hCe)
    · intro e' w₁ hAhead h₁
      have hp := eq_of_faultAt_ne_none hAhead
      refine hErr _ k s w₁ h₁ hAccounted.toTraceable rfl (iff_of_true hAccounted.recorded ?_)
      rintro ⟨-, hUnrecorded⟩
      unfold Unrecorded at hUnrecorded
      omega
    · intro w₁ _ h₁
      apply (hRunning.withAddrs (insert new.ceIpv6 k.upstream.addrs)).wp_recreate_fault hBase hPaired h₁ hOk hPanic
      intro e' k' s' w₂ h₂ hTraceable hUpstream hRecorded
      refine hErr e' k' s' w₂ h₂ hTraceable ?_ ?_
      · rw [hUpstream]
        exact Finset.erase_insert_eq_erase _ _
      · rw [hRecorded, and_iff_right hCe]

end Recreate

section Update

/-- The requests whose failure keeps the old CE address: the lookup of the upstream
link and the deletion itself. -/
def AddressLeft (old new : MapeParams) (i : Nat) : Prop :=
  old.ceIpv6 ≠ new.ceIpv6 ∧ (i = 0 ∨ i = 1)

/-- The requests whose failure keeps the new tunnel. A new CE address takes three
requests of its own. -/
def TunnelLeft (config : Config) (base : Kernel) (old new : MapeParams) (i : Nat) : Prop :=
  if old.ceIpv6 ≠ new.ceIpv6 then
    new.ceIpv6 ∉ base.upstream.addrs ∧ Unrecorded config (3 + requestsBeforeRecreated) i
  else
    old.brAddress ≠ new.brAddress ∧ Unrecorded config requestsBeforeRecreated i

instance (old new : MapeParams) (i : Nat) : Decidable (AddressLeft old new i) :=
  inferInstanceAs (Decidable (_ ∧ _))

instance (config : Config) (base : Kernel) (old new : MapeParams) (i : Nat) :
    Decidable (TunnelLeft config base old new i) :=
  inferInstanceAs (Decidable (ite _ _ _))

variable {config : Config} {old new : MapeParams} {cfg : PsidConfig} {tables : NftTables}
  {oif b : Nat} {base k : Kernel} {s : DaemonState} {f : Nat → Option Errno} {n i : Nat} {e : Errno}
  {w : DaemonWorld} {post : Unit → DaemonWorld → Prop}
  {stop : Failure MapEError → DaemonWorld → Prop}

/-- An error of the map is ignored. -/
theorem wp_updateConfigMap_ok (hOk : ∀ w', post () w') : wp (updateConfigMap new) post stop w := by
  obtain ⟨result, hResult⟩ := Option.isSome_iff_exists.mp (psidConfigFromParams_isSome new)
  unfold updateConfigMap
  rw [wp_bind, wp_getState]
  cases w.state.ebpf with
  | none => exact hOk w
  | some manager =>
      dsimp only
      rw [wp_bind, hResult, wp_checked_some]
      cases result with
      | ok cfg => exact (setConfigMap_steps manager.id cfg).wp_ignore_state fun w' _ => hOk w'
      | error _ => exact hOk w

theorem unrecorded_shift (config : Config) {m n first i : Nat} (hFirst : m = n + first) :
    Unrecorded config m (n + i) ↔ Unrecorded config first i := by
  unfold Unrecorded
  omega

/-- One fault in `update`. -/
theorem Running.wp_update_fault (hBase : Base config base)
    (hRunning : Running config base (settings config base old cfg tables) oif b k s)
    (hPaired : tables.Paired) (hOldCe : old.ceIpv6 ∉ base.upstream.addrs)
    (h : w.Reached k s (faultAt (n + i) e) n) (hOk : ∀ w', post () w') (hPanic : ∀ w', stop .panic w')
    (hErr : ∀ e' k' s' w', w'.IsAt k' s' (faultAt (n + i) e) → Traceable config base k' s' →
      (TunnelRecorded k' s' ↔ ¬ TunnelLeft config base old new i) →
      (old.ceIpv6 ∈ k'.upstream.addrs.erase new.ceIpv6 ↔ AddressLeft old new i) →
      stop (.error e') w') : wp (update config old new) post stop w := by
  have hAccounted := hRunning.accounted hBase hPaired
  have hIndex {m : Nat} (hAhead : faultAt (n + i) e m ≠ none) : m = n + i :=
    eq_of_faultAt_ne_none hAhead
  have hMap (w' : DaemonWorld) : wp (updateConfigMap new) post stop w' := wp_updateConfigMap_ok hOk
  have hAddrs : k.upstream.addrs = insert old.ceIpv6 base.upstream.addrs := by
    rw [hRunning.upstream]
    rfl
  have hKept (hCe : old.ceIpv6 = new.ceIpv6) (addrs : Finset Ipv6Addr) :
      old.ceIpv6 ∈ addrs.erase new.ceIpv6 ↔ AddressLeft old new i := by
    rw [hCe]
    exact iff_of_false (Finset.notMem_erase _ _) fun hLeft => hLeft.1 hCe
  have hUntouched (hCe : old.ceIpv6 = new.ceIpv6) (hBr : old.brAddress = new.brAddress)
      (e' : MapEError) (k' : Kernel) (s' : DaemonState) (w' : DaemonWorld)
      (h' : w'.IsAt k' s' (faultAt (n + i) e))
      (hAccounted' : Accounted config base k.upstream k' s') : stop (.error e') w' := by
    refine hErr e' k' s' w' h' hAccounted'.toTraceable (iff_of_true hAccounted'.recorded ?_)
      (hKept hCe _)
    rw [TunnelLeft, if_neg (not_not_intro hCe)]
    exact fun hLeft => hLeft.1 hBr
  unfold update
  split_ifs with hCe hBr hIpv4
  · -- the old address stays if the fault strikes one of the first two requests
    have hOld : old.ceIpv6 ∈ k.upstream.addrs.erase new.ceIpv6 := by
      rw [hAddrs]
      exact Finset.mem_erase.mpr ⟨hCe, Finset.mem_insert_self _ _⟩
    have hMove (addrs : Finset Ipv6Addr) (w₂ : DaemonWorld) (hZero : i ≠ 0)
        (hChoice : addrs = k.upstream.addrs ∧ i = 1 ∨ addrs = base.upstream.addrs ∧ i ≠ 1)
        (h₂ : w₂.Reached (k.withUpstreamAddrs addrs) s (faultAt (n + i) e) (n + 1 + 1)) :
        wp (addIpv6Addr k.upstream.ifindex new.ceIpv6)
          (fun _ w' => wp (recreateTunnelAndApply config new)
            (fun _ w' => wp (updateConfigMap new) post stop w') stop w') stop w₂ := by
      apply (hRunning.withAddrs addrs).wp_newAddress_fault hBase hPaired h₂ hMap hPanic
      intro e' k' s' w₃ h₃ hTraceable hErase hRecorded
      refine hErr e' k' s' w₃ h₃ hTraceable ?_ ?_
      · have hNew : new.ceIpv6 ∉ addrs ↔ new.ceIpv6 ∉ base.upstream.addrs := by
          rcases hChoice with ⟨rfl, -⟩ | ⟨rfl, -⟩
          · rw [hAddrs, Finset.mem_insert, or_iff_right (Ne.symm hCe)]
          · rfl
        have hFirst : n + 1 + 1 + 1 + requestsBeforeRecreated = n + (3 + requestsBeforeRecreated) := by
          omega
        rw [hRecorded, TunnelLeft, if_pos hCe, Kernel.withUpstreamAddrs_upstream_addrs, hNew,
          unrecorded_shift config hFirst]
      · rw [hErase, AddressLeft, and_iff_right hCe, or_iff_right hZero]
        rcases hChoice with ⟨rfl, hOne⟩ | ⟨rfl, hOne⟩
        · exact iff_of_true hOld hOne
        · exact iff_of_false (fun hMem => hOldCe (Finset.mem_of_mem_erase hMem)) hOne
    unfold getLinkIndex findLinkByName
    simp only [wp_bind, ← hAccounted.name]
    apply wp_request_reached h (getLink_upstream k)
    · intro e' w₁ hAhead h₁
      have hi := hIndex hAhead
      refine hErr _ k s w₁ h₁ hAccounted.toTraceable (iff_of_true hAccounted.recorded ?_)
        (iff_of_true hOld ⟨hCe, by omega⟩)
      rw [TunnelLeft, if_pos hCe]
      rintro ⟨-, hUnrecorded⟩
      unfold Unrecorded at hUnrecorded
      omega
    intro w₁ hAhead₁ h₁
    have hZero : i ≠ 0 := by
      rintro rfl
      rw [Nat.add_zero, faultAt_self] at hAhead₁
      cases hAhead₁
    apply wp_ignore_request_reached h₁
    · intro w₂ hAhead h₂
      have hi := hIndex hAhead
      exact hMove k.upstream.addrs w₂ hZero (Or.inl ⟨rfl, by omega⟩) h₂
    · intro w₂ hAhead h₂
      rw [outcome_delAddr6, hAddrs, Finset.erase_insert hOldCe] at h₂
      refine hMove base.upstream.addrs w₂ hZero (Or.inr ⟨rfl, ?_⟩) h₂
      rintro rfl
      rw [faultAt_self] at hAhead
      cases hAhead
  · rw [not_not] at hCe
    rw [wp_bind]
    apply hRunning.wp_recreate_fault hBase hPaired h hMap hPanic
    intro e' k' s' w₁ h₁ hTraceable hUpstream hRecorded
    refine hErr e' k' s' w₁ h₁ hTraceable ?_ (hKept hCe _)
    rw [hRecorded, TunnelLeft, if_neg (not_not_intro hCe), and_iff_right hBr,
      unrecorded_shift config rfl]
  · rw [not_not] at hCe hBr
    simp only [wp_bind, recordedTunnel, wp_getState, h.state, hRunning.tunnelIfindex, wp_pure]
    have hFail := hUntouched hCe hBr
    apply (delIpv4Addr_steps oif old.ipv4).wp_ignore_isAt h.toIsAt hAccounted fun _ _ =>
      Accounted.delAddr4Change
    intro k₁ w₁ hAccounted₁ h₁
    apply (addIpv4Addr_steps oif new.ipv4).wp_isAt h₁ hAccounted₁
      (fun _ _ => Accounted.tunnelAddrsChange) _ fun e' k' w' hAccounted' h' =>
        hFail e' k' s w' h' hAccounted'
    intro _ k₂ w₂ hAccounted₂ h₂
    apply (addIpv4DefaultRoute_steps oif).wp_isAt h₂ hAccounted₂
      (fun _ _ => Accounted.routesChange) _ fun e' k' w' hAccounted' h' =>
        hFail e' k' s w' h' hAccounted'
    intro _ k₃ w₃ hAccounted₃ h₃
    exact wp_applyStep6Nftables_accounted h₃ hAccounted₃ (fun _ _ w' _ _ => hMap w') hFail hPanic
  · rw [not_not] at hCe hBr
    rw [wp_bind]
    exact wp_applyStep6Nftables_accounted h.toIsAt hAccounted (fun _ _ w' _ _ => hMap w')
      (hUntouched hCe hBr) hPanic

end Update

/-- After a failed `update` with a single fault and a `cleanup` without faults, the old
CE address is left exactly if its deletion was prevented, and the new tunnel
exactly if the fault struck between its creation and its record. -/
theorem update_rollback_iff (config : Config) (old new : MapeParams) (w w₁ w₂ : DaemonWorld)
    (i : Nat) (e : Errno) (err : MapEError) (hPristine : Pristine config w.sys)
    (hLinks : ∀ route ∈ w.sys.routes, ∀ oif ∈ route.ifindexes, oif < w.sys.nextIfindex)
    (hVacant : w.state.Vacant) (hFaults : w.faults = noFaults)
    (hApply : apply config old w = .ok () w₁)
    (hUpdate : update config old new (w₁.withFaults (faultAt (w₁.issued + i) e)) =
      .error (.error err) w₂) :
    ∃ w₃, cleanup config new (w₂.withFaults noFaults) = .ok () w₃ ∧
      (RolledBack [old.ceIpv6, new.ceIpv6] w.sys w₃.sys ↔
        ¬ AddressLeft old new i ∧ ¬ TunnelLeft config w.sys old new i) := by
  obtain ⟨hBase, hOldCe, hFaults₁, cfg, ranges, oif, b, -, -, hRunning⟩ :=
    apply_ok ⟨rfl, rfl, hFaults⟩ hPristine hLinks hVacant hApply
  have hReached : (w₁.withFaults (faultAt (w₁.issued + i) e)).Reached w₁.sys w₁.state
      (faultAt (w₁.issued + i) e) w₁.issued := ⟨⟨rfl, rfl, rfl⟩, rfl⟩
  have hWp : wp (update config old new) (fun _ _ => True)
      (fun f w' => f ≠ .panic → Traceable config w.sys w'.sys w'.state ∧
        (TunnelRecorded w'.sys w'.state ↔ ¬ TunnelLeft config w.sys old new i) ∧
        (old.ceIpv6 ∈ w'.sys.upstream.addrs.erase new.ceIpv6 ↔ AddressLeft old new i))
      (w₁.withFaults (faultAt (w₁.issued + i) e)) := by
    apply hRunning.wp_update_fault hBase rfl hOldCe hReached
    · exact fun _ => trivial
    · exact fun _ h => absurd rfl h
    · intro e' k' s' w' h' hTraceable hRecorded hLeft _
      rw [h'.sys, h'.state]
      exact ⟨hTraceable, hRecorded, hLeft⟩
  obtain ⟨hTraceable, hRecorded, hLeft⟩ := wp_error hWp hUpdate nofun
  have hCleanup : wp (cleanup config new)
      (fun _ w' => w'.sys = w₂.sys.cleaned new w₂.state) (fun _ _ => False)
      (w₂.withFaults noFaults) :=
    wp_cleanup ⟨rfl, rfl, rfl⟩ hTraceable.name hTraceable.nft fun _ h' => h'.sys
  obtain ⟨w₃, hRun, hSys⟩ := exists_unit_of_wp _ hCleanup
  refine ⟨w₃, hRun, ?_⟩
  rw [hSys, cleaned_rolledBack_iff hTraceable, hRecorded, and_comm, ← hLeft]
  refine and_congr_left fun _ => ?_
  constructor
  · exact fun hAddrs => hAddrs _ List.mem_cons_self
  · intro hOld addr hAddr
    rcases List.mem_pair.mp hAddr with rfl | rfl
    · exact hOld
    · exact Finset.notMem_erase _ _

/-- The new IPv4 address is refused: everything is rolled back. -/
theorem update_rollback_ipv4 :
    ∃ w₁ w₂ w₃, apply .contrib (makeParams 1 1 2 5 ⟨1, 14⟩)
        (initialWorld (.idle "eth0") noFaults none) = .ok () w₁ ∧
      update .contrib (makeParams 1 1 2 5 ⟨1, 14⟩) (makeParams 1 9 2 5 ⟨1, 14⟩)
        (w₁.withFaults (faultAt (w₁.issued + 1) .enodev)) =
          .error (.error (.netlinkError "add IPv4 addr" (some .enodev))) w₂ ∧
      cleanup .contrib (makeParams 1 9 2 5 ⟨1, 14⟩) (w₂.withFaults noFaults) = .ok () w₃ ∧
      RolledBack [1, 1] (.idle "eth0") w₃.sys := by
  have hRun : decide (wp (apply .contrib (makeParams 1 1 2 5 ⟨1, 14⟩))
      (fun _ w₁ => wp (update .contrib (makeParams 1 1 2 5 ⟨1, 14⟩) (makeParams 1 9 2 5 ⟨1, 14⟩))
        (fun _ _ => False)
        (fun f _ => f = .error (.netlinkError "add IPv4 addr" (some .enodev)))
        (w₁.withFaults (faultAt (w₁.issued + 1) .enodev)))
      (fun _ _ => False) (initialWorld (.idle "eth0") noFaults none)) = true := by decide +kernel
  obtain ⟨w₁, hApply, hStop⟩ := exists_unit_of_decide _ hRun
  obtain ⟨_, w₂, hUpdate, rfl⟩ := exists_error_of_wp hStop
  have hIdle : Pristine .contrib (.idle "eth0") := ⟨rfl, rfl, rfl, rfl⟩
  obtain ⟨w₃, hCleanup, hIff⟩ := update_rollback_iff .contrib (makeParams 1 1 2 5 ⟨1, 14⟩)
    (makeParams 1 9 2 5 ⟨1, 14⟩) (initialWorld (.idle "eth0") noFaults none) w₁ w₂ 1 .enodev _ hIdle
    nofun ⟨rfl, rfl, rfl, rfl⟩ rfl hApply hUpdate
  exact ⟨w₁, w₂, w₃, hApply, hUpdate, hCleanup, hIff.mpr (by decide)⟩

/-- The lookup of the upstream link fails: the old CE address stays. -/
theorem update_leaves_address :
    ∃ w₁ w₂ w₃, hasChanged (makeParams 1 1 2 5 ⟨1, 14⟩) (makeParams 3 1 2 5 ⟨1, 14⟩) = true ∧
      apply .contrib (makeParams 1 1 2 5 ⟨1, 14⟩)
        (initialWorld (.idle "eth0") noFaults none) = .ok () w₁ ∧
      update .contrib (makeParams 1 1 2 5 ⟨1, 14⟩) (makeParams 3 1 2 5 ⟨1, 14⟩)
        (w₁.withFaults (faultAt w₁.issued .enodev)) =
          .error (.error (.netlinkError "get link" (some .enodev))) w₂ ∧
      cleanup .contrib (makeParams 3 1 2 5 ⟨1, 14⟩) (w₂.withFaults noFaults) = .ok () w₃ ∧
      1 ∈ w₃.sys.upstream.addrs := by
  have hRun : decide (wp (apply .contrib (makeParams 1 1 2 5 ⟨1, 14⟩))
      (fun _ w₁ => wp (update .contrib (makeParams 1 1 2 5 ⟨1, 14⟩) (makeParams 3 1 2 5 ⟨1, 14⟩))
        (fun _ _ => False)
        (fun f w₂ => f = .error (.netlinkError "get link" (some .enodev)) ∧
          wp (cleanup .contrib (makeParams 3 1 2 5 ⟨1, 14⟩))
            (fun _ w₃ => 1 ∈ w₃.sys.upstream.addrs) (fun _ _ => False) (w₂.withFaults noFaults))
        (w₁.withFaults (faultAt w₁.issued .enodev)))
      (fun _ _ => False) (initialWorld (.idle "eth0") noFaults none)) = true := by decide +kernel
  obtain ⟨w₁, hApply, hStop⟩ := exists_unit_of_decide _ hRun
  obtain ⟨_, w₂, hUpdate, rfl, hReturn⟩ := exists_error_of_wp hStop
  obtain ⟨w₃, hCleanup, hLeft⟩ := exists_unit_of_wp _ hReturn
  exact ⟨w₁, w₂, w₃, rfl, hApply, hUpdate, hCleanup, hLeft⟩

end Mapecd
