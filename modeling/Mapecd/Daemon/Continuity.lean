import Mapecd.Daemon.Confined
import Mapecd.Daemon.Shutdown
import Mapecd.Daemon.Stays
import Mapecd.Map.CeIdentity

/-! Which events interrupt the service. All states of the kernel count that an event
leads through, not only the one at its end. -/
namespace Mapecd

open Effects Checked

/-- Packets of the customer pass in both directions, through this tunnel. -/
structure Kernel.Carries (k : Kernel) (tunnel : TunnelLink) : Prop where
  link : k.tunnel = some tunnel
  up : tunnel.up = true
  address : tunnel.spec.localAddr ∈ k.upstream.addrs
  ipv4 : tunnel.addrs.Nonempty
  route : tunnelDefaultRoute tunnel.ifindex ∈ k.routes
  programs : ∃ obj ∈ k.bpf, obj.egress = some tunnel.ifindex ∧ obj.ingress = some tunnel.ifindex
  masquerade : ∃ table ∈ k.nft.ip, ∃ rule ∈ table.postrouting, rule.oifname = tunnel.spec.name
  relay : ∃ table ∈ k.nft.ip6, tunnel.spec.remote ∈ table.prerouting

def Kernel.InService (k : Kernel) : Prop := ∃ tunnel, k.Carries tunnel

/-- Nothing differs that `update` cannot exchange in place without a gap. -/
def MapeParams.SameLink (old new : MapeParams) : Prop :=
  old.ceIpv6 = new.ceIpv6 ∧ old.brAddress = new.brAddress ∧ old.ipv4 = new.ipv4 ∧
    old.rule.portParams = new.rule.portParams

instance (old new : MapeParams) : Decidable (old.SameLink new) :=
  inferInstanceAs (Decidable (_ ∧ _ ∧ _ ∧ _))

section InPlace

variable {config : Config} {base k : Kernel} {s : DaemonState} {old new : MapeParams}
  {tunnel : TunnelLink}

theorem Kernel.Carries.inService (h : k.Carries tunnel) : k.InService := ⟨tunnel, h⟩

theorem Kernel.Carries.withRulesCache (h : k.Carries tunnel) (cache : Option (List MapRule)) :
    (k.withRulesCache cache).Carries tunnel :=
  ⟨h.link, h.up, h.address, h.ipv4, h.route, h.programs, h.masquerade, h.relay⟩

theorem Kernel.InService.withRulesCache (h : k.InService) (cache : Option (List MapRule)) :
    (k.withRulesCache cache).InService := by
  obtain ⟨tunnel, hCarries⟩ := h
  exact ⟨tunnel, hCarries.withRulesCache cache⟩

/-- The rules are replaced in one transaction, so they are never gone. -/
theorem Kernel.Carries.installed (h : k.Carries tunnel) (ranges : List RangeInclusive)
    (range : U16 × U16) : (k.withNft (installedTables k.nft ranges tunnel.spec.name
      tunnel.spec.remote range)).Carries tunnel :=
  ⟨h.link, h.up, h.address, h.ipv4, h.route, h.programs,
    ⟨_, rfl, _, List.mem_singleton.mpr rfl, rfl⟩, ⟨_, rfl, List.mem_singleton.mpr rfl⟩⟩

/-- Another entry of the map leaves the programs attached. -/
theorem Kernel.Carries.setConfigMap (h : k.Carries tunnel) (id : Nat) (cfg : PsidConfig) :
    (k.modifyBpf id fun obj => { obj with config := cfg }).Carries tunnel := by
  obtain ⟨obj, hMem, hEgress, hIngress⟩ := h.programs
  refine ⟨h.link, h.up, h.address, h.ipv4, h.route, ?_, h.masquerade, h.relay⟩
  refine ⟨_, List.mem_map_of_mem hMem, ?_⟩
  split_ifs
  · exact ⟨hEgress, hIngress⟩
  · exact ⟨hEgress, hIngress⟩

/-- A running daemon carries the traffic through its tunnel. -/
theorem Running.carries {cfg : PsidConfig} {elements : Finset RangeInclusive} {i b : Nat}
    (h : Running config base
      (settings config base old cfg (nftTables config old cfg elements)) i b k s) :
    k.Carries { spec := tunnelSpec config old base, ifindex := i, up := true
                addrs := insert old.ipv4 ∅ } where
  link := h.tunnel
  up := rfl
  address := by
    rw [h.upstream]
    exact Finset.mem_insert_self _ _
  ipv4 := Finset.insert_nonempty _ _
  route := by
    rw [h.routes]
    exact List.mem_append_right _ (List.mem_singleton.mpr rfl)
  programs := by
    rw [h.bpf]
    exact ⟨_, List.mem_singleton.mpr rfl, rfl, rfl⟩
  masquerade := by
    rw [h.nft]
    exact ⟨_, rfl, _, List.mem_singleton.mpr rfl, rfl⟩
  relay := by
    rw [h.nft]
    exact ⟨_, rfl, List.mem_singleton.mpr rfl⟩

theorem Installs.inService (h : Installs config base old k s) : k.InService := by
  obtain ⟨cfg, i, b, elements, -, -, hRunning⟩ := h.installed
  exact hRunning.carries.inService

/-- One transaction replaces the rules, so there is no moment without them. -/
theorem applyStep6Nftables_carries (hName : tunnel.spec.name = config.tunnelInterface)
    (hBr : tunnel.spec.remote = new.brAddress) :
    Stays (fun k => k.Carries tunnel) (applyStep6Nftables config new) := by
  refine Stays.bind (Stays.checked _) fun ranges => ?_
  refine Stays.bind (Stays.checked _) fun psidConfig => ?_
  have hRun : Stays (fun k => k.Carries tunnel) (request (.nftError "nft exited with")
      (Kernel.runNft (generateRuleset ranges config.tunnelInterface new.brAddress
        (stagingRange psidConfig)))) := by
    apply request_stays
    intro k _ k' hk hOp
    rw [runNft_generateRuleset] at hOp
    cases hOp
    rw [← hName, ← hBr]
    exact hk.installed ranges _
  unfold applyRuleset
  split_ifs
  · exact Stays.bind (Stays.fail _) fun _ => hRun
  · exact hRun

/-- Writing the entry does not detach the programs. -/
theorem updateConfigMap_carries (new : MapeParams) :
    Stays (fun k => k.Carries tunnel) (updateConfigMap new) := by
  refine Stays.bind Stays.getState fun state => ?_
  cases state.ebpf with
  | none => exact Stays.pure _
  | some manager =>
      refine Stays.bind (Stays.checked _) fun result => ?_
      cases result with
      | error _ => exact Stays.pure _
      | ok cfg =>
          apply Stays.ignore
          apply request_stays
          intro k _ k' hk hOp
          cases hOp
          exact hk.setConfigMap manager.id cfg

theorem update_carries (hSame : old.SameLink new)
    (hName : tunnel.spec.name = config.tunnelInterface) (hBr : tunnel.spec.remote = new.brAddress) :
    Stays (fun k => k.Carries tunnel) (update config old new) := by
  obtain ⟨hCe, hRemote, hIpv4, -⟩ := hSame
  unfold update
  rw [if_neg (not_not_intro hCe), if_neg (not_not_intro hRemote), if_neg (not_not_intro hIpv4)]
  exact Stays.bind (applyStep6Nftables_carries hName hBr) fun _ => updateConfigMap_carries new

end InPlace

section Gaps

variable {config : Config} {base k : Kernel} {s : DaemonState} {w : DaemonWorld}
  {set : Settings} {i b : Nat} {old new : MapeParams}

theorem leaves_request {α : Type} {toError : Option Errno → MapEError}
    {op : Operation Kernel Errno α} {a : α} {k' : Kernel} (h : w.IsAt k s noFaults)
    (hOp : op k = .ok (a, k')) (hOut : ¬ k'.InService) :
    Leaves Kernel.InService (request toError op) w :=
  Leaves.mapErr (leaves_issue h hOp hOut)

theorem not_inService {tunnel : TunnelLink} (hTunnel : k.tunnel = some tunnel)
    (h : ¬ k.Carries tunnel) : ¬ k.InService := by
  rintro ⟨tunnel', hCarries⟩
  cases hTunnel.symm.trans hCarries.link
  exact h hCarries

/-- Without the tables there is no masquerading. -/
theorem Running.leaves_deleteTables (hRunning : Running config base set i b k s)
    (hTables : set.tables.ip.isSome ∧ set.tables.ip6.isSome) (h : w.IsAt k s noFaults) :
    Leaves Kernel.InService (ignore deleteTables) w := by
  have hOp : Kernel.runNft [.deleteTableIp, .deleteTableIp6] k = .ok ((), k.withNft .none) := by
    obtain ⟨hIp, hIp6⟩ := hTables
    rw [← hRunning.nft] at hIp hIp6
    obtain ⟨ip, hIp⟩ := Option.isSome_iff_exists.mp hIp
    obtain ⟨ip6, hIp6⟩ := Option.isSome_iff_exists.mp hIp6
    simp only [Kernel.runNft, NftCommand.runAll, List.foldlM_cons, List.foldlM_nil,
      NftCommand.run, hIp, hIp6]
    rfl
  apply Leaves.ignore
  apply leaves_request h hOp
  rintro ⟨tunnel, hCarries⟩
  obtain ⟨table, hTable, -⟩ := hCarries.relay
  cases hTable

/-- Without the CE address no packet comes in. -/
theorem Running.leaves_delIpv6Addr {params : MapeParams} {cfg : PsidConfig} {tables : NftTables}
    (hRunning : Running config base (settings config base params cfg tables) i b k s)
    (h : w.IsAt k s noFaults) :
    Leaves Kernel.InService (ignore (delIpv6Addr k.upstream.ifindex params.ceIpv6)) w := by
  have hMem : params.ceIpv6 ∈ k.upstream.addrs := by
    rw [hRunning.upstream]
    exact Finset.mem_insert_self _ _
  have hOp : Kernel.delAddr6 k.upstream.ifindex params.ceIpv6 k =
      .ok ((), k.withUpstreamAddrs (k.upstream.addrs.erase params.ceIpv6)) := by
    rw [Kernel.delAddr6, if_pos rfl, if_pos hMem]
  apply Leaves.ignore
  apply leaves_request h hOp
  apply not_inService (k := k.withUpstreamAddrs (k.upstream.addrs.erase params.ceIpv6))
    hRunning.tunnel
  exact fun hCarries => Finset.notMem_erase _ _ hCarries.address

/-- With the IPv4 address the default route is gone too. -/
theorem Running.leaves_delIpv4Addr (hBase : Base config base)
    (hRunning : Running config base set i b k s) (h : w.IsAt k s noFaults) :
    Leaves Kernel.InService (ignore (delIpv4Addr i set.ipv4)) w := by
  apply Leaves.ignore
  refine Leaves.bind (R := fun _ _ => True)
    (Leaves.attempt (leaves_request h (hRunning.delAddr4 hBase) ?_)) fun result => ?_
  · apply not_inService (k := (k.withTunnel _).withRoutes _) rfl
    exact fun hCarries => Finset.not_nonempty_empty hCarries.ipv4
  · cases result with
    | ok _ => exact Confined.pure _
    | error e =>
        dsimp only
        split_ifs
        · exact Confined.pure _
        · exact Confined.fail _

/-- The programs are detached before anything takes their place. -/
theorem Running.leaves_takeEbpf (hRunning : Running config base set i b k s)
    (h : w.IsAt k s noFaults) : Leaves Kernel.InService takeEbpf w := by
  have hOp : Kernel.detachTc b .egress k =
      .ok ((), k.modifyBpf b fun obj => obj.attach .egress none) := by
    have hAttached : ∃ obj ∈ k.bpf, obj.id = b ∧ (obj.attached .egress).isSome := by
      rw [hRunning.bpf]
      exact ⟨_, List.mem_singleton.mpr rfl, rfl, rfl⟩
    rw [Kernel.detachTc, if_pos hAttached]
  have hOut : ¬ (k.modifyBpf b fun obj => obj.attach .egress none).InService := by
    apply not_inService (k := k.modifyBpf b _) hRunning.tunnel
    intro hCarries
    obtain ⟨obj, hMem, hEgress, -⟩ := hCarries.programs
    change obj ∈ k.bpf.map _ at hMem
    rw [hRunning.bpf, List.map_singleton, List.mem_singleton, if_pos rfl] at hMem
    rw [hMem] at hEgress
    cases hEgress
  unfold takeEbpf
  rw [Leaves, wp_bind, wp_getState, h.state, hRunning.ebpf]
  dsimp only
  rw [wp_bind, wp_modifyState]
  rw [h.state]
  have hDetach : Leaves Kernel.InService (EbpfManager.detach b .egress (some i))
      (w.withState { s with ebpf := none }) :=
    (leaves_request (h.withState { s with ebpf := none }) hOp hOut).ignore
  have hUnlink := hDetach.bind (R := fun _ _ => True) fun _ =>
    (detach_steps b .ingress (some i)).confined
  exact hUnlink.ignore.bind (R := fun _ _ => True) fun _ => Confined.internal _

/-- Every other change of the parameters interrupts the service. -/
theorem Running.leaves_update {cfg : PsidConfig} {tables : NftTables} (hBase : Base config base)
    (hRunning : Running config base (settings config base old cfg tables) i b k s)
    (h : w.IsAt k s noFaults) (hPortParams : old.rule.portParams = new.rule.portParams)
    (hOther : ¬ old.SameLink new) : Leaves Kernel.InService (update config old new) w := by
  have hMap : KeepsParams (updateConfigMap new) := updateConfigMap_keepsParams new
  have hRecreate : Leaves Kernel.InService (recreateTunnelAndApply config new) w := by
    refine (hRunning.leaves_takeEbpf h).bind fun _ => removeTunnel_keepsParams.bind fun _ => ?_
    refine (applyStep3CreateTunnel_keepsParams config new).bind fun _ => ?_
    exact applySteps4To6_keepsParams config new _
  unfold update
  split_ifs with hCe hBr hIpv4
  · have hName : k.upstream.name = config.upstreamInterface := by
      rw [hRunning.upstream]
      exact hBase.name
    unfold getLinkIndex findLinkByName
    rw [Leaves, wp_bind, wp_bind, ← hName]
    apply wp_request_ok h (getLink_upstream k)
    intro w₁ h₁
    refine (hRunning.leaves_delIpv6Addr h₁).bind (R := DaemonState.KeepsParams) fun _ => ?_
    refine (addIpv6Addr_steps _ _).confined.bind fun _ => ?_
    exact (recreateTunnelAndApply_keepsParams config new).bind fun _ => hMap
  · exact hRecreate.bind fun _ => hMap
  · unfold recordedTunnel
    rw [Leaves, wp_bind, wp_bind, wp_getState, h.state, hRunning.tunnelIfindex]
    refine (hRunning.leaves_delIpv4Addr hBase h).bind (R := DaemonState.KeepsParams) fun _ => ?_
    refine (addIpv4Addr_steps _ _).confined.bind fun _ => ?_
    refine (addIpv4DefaultRoute_steps _).confined.bind fun _ => ?_
    exact (applyStep6Nftables_keepsParams config new).bind fun _ => hMap
  · exact absurd ⟨not_not.mp hCe, not_not.mp hBr, not_not.mp hIpv4, hPortParams⟩ hOther

end Gaps

section Events

variable {config : Config} {base k : Kernel} {s : DaemonState} {w : DaemonWorld}
  {old new : MapeParams}

/-- The current parameters are installed. -/
structure Served (config : Config) (base : Kernel) (w : DaemonWorld) : Prop where
  faults : w.faults = noFaults
  installs : ∃ params, w.state.params = some params ∧ Installs config base params w.sys w.state

/-- The event brings no parameters, or none that need another link. -/
def Seamless (config : Config) (w : DaemonWorld) (event : DaemonEvent) : Prop :=
  ∀ new ∈ event.newParams config w.state, ∀ old ∈ w.state.params, old.SameLink new

instance (config : Config) (w : DaemonWorld) (event : DaemonEvent) :
    Decidable (Seamless config w event) :=
  inferInstanceAs (Decidable (∀ new ∈ event.newParams config w.state, ∀ old ∈ w.state.params, _))

/-- Parameters for the same link are exchanged without a gap. -/
theorem wp_applyNew_seamless (hBase : Base config base) (hInstalls : Installs config base old k s)
    (h : w.IsAt k s noFaults) (hParams : s.params = some new) (hComputed : new.Computed)
    (hSame : old.SameLink new) (hHistory : ∀ k ∈ w.history, k.InService) :
    wp (applyNew config (some old) new)
      (fun _ w' => Served config base w' ∧ ∀ k ∈ w'.history, k.InService)
      (fun _ w' => ∀ k ∈ w'.history, k.InService) w := by
  obtain ⟨cfg, i, b, elements, hDerived, hElements, hRunning⟩ := hInstalls.installed
  unfold applyNew
  rw [wp_bind, wp_getState, h.state]
  simp only [hRunning.tunnelIfindex, Option.isSome_some, if_true]
  split_ifs with hChanged hPortParams
  · exact absurd hSame.2.2.2 hPortParams
  · obtain ⟨cfg', hDerived'⟩ := hComputed.derived
    have hCe : new.ceIpv6 ∉ base.upstream.addrs := hSame.1 ▸ hInstalls.address
    have hNonempty := portRanges_ne_nil hDerived.ranges hComputed hSame.2.2.2 hInstalls.nonempty
    have hUpdated : wp (update config old new) (fun _ w' => Served config base w')
        (fun _ _ => False) w := by
      apply hRunning.wp_update hBase hInstalls.address hCe hDerived' hNonempty h
      intro i' b' k' s' w' h' hRunning' hInputs
      have hParams' : s'.params = some new := (congrArg Prod.fst hInputs).trans hParams
      refine ⟨h'.faults, new, by rw [h'.state, hParams'], ?_⟩
      rw [h'.sys, h'.state]
      exact ⟨hCe, hNonempty, cfg', i', b', _, hDerived', Finset.subset_union_right, hRunning'⟩
    have hCarries := hRunning.carries
    rw [← h.sys] at hCarries
    have hCarried := update_carries hSame (Eq.refl config.tunnelInterface) hSame.2.1
      Kernel.InService noFaults (fun _ hk => hk.inService) w ⟨hCarries, hHistory, h.faults⟩
    unfold updateOrCleanup
    rw [wp_bind, wp_attempt]
    refine wp_mono (wp_and hUpdated hCarried) ?_ fun _ _ hStop => hStop.1.elim
    exact fun _ w' ⟨hServed, hWithin⟩ => ⟨hServed, hWithin.before⟩
  · have hUnchanged : hasChanged old new = false := Bool.eq_false_of_not_eq_true hChanged
    refine ⟨⟨h.faults, new, by rw [h.state, hParams], ?_⟩, hHistory⟩
    rw [h.sys, h.state]
    exact hInstalls.congr hUnchanged

/-- Others are not: each branch deletes something that the service needs. -/
theorem leaves_applyNew (hBase : Base config base) (hInstalls : Installs config base old k s)
    (h : w.IsAt k s noFaults) (hOther : ¬ old.SameLink new) :
    Leaves Kernel.InService (applyNew config (some old) new) w := by
  obtain ⟨cfg, i, b, elements, -, -, hRunning⟩ := hInstalls.installed
  unfold applyNew
  rw [Leaves, wp_bind, wp_getState, h.state]
  simp only [hRunning.tunnelIfindex, Option.isSome_some, if_true]
  split_ifs with hChanged hPortParams
  · have hCleanup : Leaves Kernel.InService (cleanup config old) w :=
      (hRunning.leaves_deleteTables ⟨rfl, rfl⟩ h).bind fun _ => cleanupRest_keepsParams config old
    exact hCleanup.bind fun _ => applyOrCleanup_keepsParams config new
  · have hUpdate := hRunning.leaves_update hBase h (not_not.mp hPortParams) hOther
    exact hUpdate.attempt.bind fun result => afterwards_keepsParams config new result
  · obtain ⟨hCe, hIpv4, -, hBr, -, hPortParams⟩ :=
      hasChanged_eq_false_iff.mp (Bool.eq_false_of_not_eq_true hChanged)
    exact absurd ⟨hCe, hBr, hIpv4, hPortParams⟩ hOther

/-- The cache file is no part of the service. -/
theorem OnlyCached.inService {w' : DaemonWorld} (h : OnlyCached k w w') (hk : k.InService)
    (hHistory : ∀ k ∈ w.history, k.InService) : ∀ k ∈ w'.history, k.InService := by
  intro k' hMem
  rcases h k' hMem with hBefore | ⟨cache, rfl⟩
  · exact hHistory k' hBefore
  · exact hk.withRulesCache cache

/-- One event, as long as it brings parameters for the same link or none. -/
theorem wp_handleEvent_seamless (hBase : Base config base) (event : DaemonEvent)
    (hServed : Served config base w) (hSeamless : Seamless config w event)
    (hHistory : ∀ k ∈ w.history, k.InService) :
    wp (handleEvent config event)
      (fun _ w' => Served config base w' ∧ ∀ k ∈ w'.history, k.InService)
      (fun _ w' => ∀ k ∈ w'.history, k.InService) w := by
  obtain ⟨hFaults, old, hOld, hInstalls⟩ := hServed
  have hInService : w.sys.InService := hInstalls.inService
  apply wp_handleEvent event ⟨rfl, rfl, hFaults⟩
  · intro rules iaPd cache new w₁ _ hNew hComputed h₁ hCached
    rw [hOld]
    have hInputs := hInstalls.withInputs cache (some new) rules (some iaPd)
    exact wp_applyNew_seamless hBase hInputs h₁ rfl hComputed (hSeamless new hNew old hOld)
      (hCached.inService hInService hHistory)
  · intro _ rules iaPd cache w₁ h₁ hCached
    refine ⟨⟨h₁.faults, old, by rw [h₁.state]; exact hOld, ?_⟩,
      hCached.inService hInService hHistory⟩
    rw [h₁.sys, h₁.state]
    exact hInstalls.withInputs cache w.state.params rules iaPd
  · exact fun _ _ _ _ w₁ _ hCached => hCached.inService hInService hHistory

/-- One event that brings others. -/
theorem leaves_handleEvent (hBase : Base config base) (event : DaemonEvent)
    (hServed : Served config base w) (hGap : ¬ Seamless config w event) :
    Leaves Kernel.InService (handleEvent config event) w := by
  obtain ⟨hFaults, old, hOld, hInstalls⟩ := hServed
  simp only [Seamless, not_forall] at hGap
  obtain ⟨new, hNew, old', hOld', hOther⟩ := hGap
  cases hOld.symm.trans hOld'
  apply wp_handleEvent event ⟨rfl, rfl, hFaults⟩
  · intro rules iaPd cache new' w₁ _ hNew' _ h₁ _
    cases hNew.symm.trans hNew'
    rw [hOld]
    exact leaves_applyNew hBase (hInstalls.withInputs cache (some new) rules (some iaPd)) h₁ hOther
  · intro hNone
    cases hNew.symm.trans hNone
  · intro hNone
    cases hNew.symm.trans hNone

/-- By induction over the events, with `Served` as the invariant. -/
theorem Served.inService_iff {events : List DaemonEvent} (hBase : Base config base)
    (hServed : Served config base w) :
    (∀ k ∈ (endOf (run config events) w.observed).history, k.InService) ↔
      Along (handleEvent config) (Seamless config) events w.observed := by
  obtain ⟨hFaults, params, hParams, hInstalls⟩ := hServed
  apply forM_within_iff (I := Served config base) (handleEvent_confined config)
  · exact fun event w' hServed' hSeamless hHistory =>
      wp_handleEvent_seamless hBase event hServed' hSeamless hHistory
  · exact fun event w' hServed' hGap => leaves_handleEvent hBase event hServed' hGap
  · exact ⟨hFaults, params, hParams, hInstalls⟩
  · intro k hMem
    cases List.mem_singleton.mp hMem
    exact hInstalls.inService

/-- A run from the start that has parameters behind it serves. -/
theorem served_of_run {rules : Option (List MapRule)} {before : List DaemonEvent}
    (hBase : Base config base)
    (hFree : Along (handleEvent config) (AddressFree config base) before
      (initialWorld base noFaults rules))
    (hRun : run config before (initialWorld base noFaults rules) = .ok () w)
    (hParams : w.state.params.isSome) : Served config base w := by
  obtain ⟨hFaults, hBetween⟩ :=
    wp_ok (run_between hBase hFree rfl (hBase.conforms rules).between) hRun
  rcases hBetween with ⟨hNone, -⟩ | ⟨params, hSome, hInstalls⟩
  · rw [hNone] at hParams
    cases hParams
  · exact ⟨hFaults, params, hSome, hInstalls⟩

end Events

section Changes

variable {config : Config} {w : DaemonWorld} {old new : MapeParams}

/-- A new prefix ends before the fields of an RFC 7597 address. The assertions of the
other format say the same there. -/
def Fitting (config : Config) (w : DaemonWorld) (event : DaemonEvent) : Prop :=
  ∀ new ∈ event.newParams config w.state, ceFormat config = .rfc7597 → new.rule.ceLen ≤ 80

/-- The parameters stay what they are. -/
def Unchanging (config : Config) (w : DaemonWorld) (event : DaemonEvent) : Prop :=
  ∀ new ∈ event.newParams config w.state, ∀ old ∈ w.state.params, hasChanged old new = false

/-- Where `update` is called, it creates the tunnel anew: another CE address or another
border relay. Its other two branches are not taken. -/
def Recreating (config : Config) (w : DaemonWorld) (event : DaemonEvent) : Prop :=
  ∀ new ∈ event.newParams config w.state, ∀ old ∈ w.state.params, hasChanged old new = true →
    old.rule.portParams = new.rule.portParams →
    old.ceIpv6 ≠ new.ceIpv6 ∨ old.brAddress ≠ new.brAddress

instance (config : Config) (w : DaemonWorld) (event : DaemonEvent) :
    Decidable (Fitting config w event) :=
  inferInstanceAs (Decidable (∀ new ∈ event.newParams config w.state, _ → _))

instance (config : Config) (w : DaemonWorld) (event : DaemonEvent) :
    Decidable (Unchanging config w event) :=
  inferInstanceAs (Decidable (∀ new ∈ event.newParams config w.state, ∀ old ∈ w.state.params, _))

/-- They come from a fitting prefix. -/
def SoundParams (config : Config) (params : MapeParams) : Prop :=
  params.From (ceFormat config) ∧ (ceFormat config).Fits params.rule

/-- New parameters come out of `compute_mape_params`. -/
theorem newParams_from {event : DaemonEvent} {s : DaemonState}
    (h : event.newParams config s = some new) : new.From (ceFormat config) := by
  obtain ⟨s₁, -, hReady⟩ := Option.bind_eq_some_iff.mp h
  unfold DaemonState.readyParams at hReady
  split at hReady
  · rename_i result hCompute
    rw [hReady] at hCompute
    obtain ⟨rules, cePrefix, -, -, hMatch⟩ := DaemonState.compute_ok_iff.mp hCompute
    exact ⟨cePrefix, (firstMatch_ok_spec hMatch).2.2⟩
  · cases hReady

/-- Such parameters can be read back from their CE address. -/
theorem soundParams_of_from (h : new.From (ceFormat config))
    (hFitting : ceFormat config = .rfc7597 → new.rule.ceLen ≤ 80) : SoundParams config new := by
  refine ⟨h, ?_⟩
  cases hFormat : ceFormat config with
  | rfc7597 => exact hFitting hFormat
  | v6Plus =>
      rw [hFormat] at h
      obtain ⟨cePrefix, hCompute⟩ := h
      obtain ⟨eaBits, -, -, hBuild, -⟩ := computeMapeParams_steps hCompute
      exact layout_of_buildCeIpv6 hBuild

/-- CE address, border relay and port parameters determine the rest. -/
theorem SoundParams.unchanged (hOld : SoundParams config old) (hNew : SoundParams config new)
    (hCe : old.ceIpv6 = new.ceIpv6) (hBr : old.brAddress = new.brAddress)
    (hPortParams : old.rule.portParams = new.rule.portParams) : hasChanged old new = false := by
  have hk : old.rule.k = new.rule.k := by rw [MapRule.k, hPortParams, MapRule.k]
  obtain ⟨hIpv4, hPsid⟩ := hOld.1.pair_eq hNew.1 hOld.2 hNew.2 hk hCe
  obtain ⟨_, hOldFrom⟩ := hOld.1
  obtain ⟨_, hNewFrom⟩ := hNew.1
  obtain ⟨-, -, -, -, hRanges, -⟩ := computeMapeParams_steps hOldFrom
  obtain ⟨-, -, -, -, hRanges', -⟩ := computeMapeParams_steps hNewFrom
  rw [hPsid, hPortParams] at hRanges
  rw [hasChanged_eq_false_iff]
  exact ⟨hCe, hIpv4, hPsid, hBr, Option.some.inj (hRanges.symm.trans hRanges'), hPortParams⟩

/-- What `update` could exchange in place is nothing. -/
theorem SoundParams.sameLink_iff (hOld : SoundParams config old) (hNew : SoundParams config new) :
    old.SameLink new ↔ hasChanged old new = false := by
  constructor
  · exact fun ⟨hCe, hBr, _, hPortParams⟩ => hOld.unchanged hNew hCe hBr hPortParams
  · intro h
    obtain ⟨hCe, hIpv4, -, hBr, -, hPortParams⟩ := hasChanged_eq_false_iff.mp h
    exact ⟨hCe, hBr, hIpv4, hPortParams⟩

/-- Recorded parameters stay of this kind. -/
theorem wp_handleEvent_sound {event : DaemonEvent} (hw : ∀ p ∈ w.state.params, SoundParams config p)
    (hFitting : Fitting config w event) :
    wp (handleEvent config event) (fun _ w' => ∀ p ∈ w'.state.params, SoundParams config p)
      (fun _ _ => True) w := by
  apply wp_handleEvent event w.isAt
  · intro rules iaPd cache new w₁ _ hNew _ h₁ _
    have hSound : SoundParams config new :=
      soundParams_of_from (newParams_from hNew) (hFitting new hNew)
    have hKept (s s' : DaemonState) (hs : ∀ p ∈ s.params, SoundParams config p)
        (hStep : s.KeepsParams s') : ∀ p ∈ s'.params, SoundParams config p := by
      rcases hStep with hSame | hNone
      · rw [hSame]
        exact hs
      · rw [hNone]
        exact nofun
    refine wp_mono (applyNew_keepsParams config new w.state.params _ (tracks_state hKept) w₁ ?_)
      (fun _ _ h => h) fun _ _ _ => trivial
    rw [h₁.state]
    rintro _ ⟨⟩
    exact hSound
  · intro _ rules iaPd cache w₁ h₁ _
    rw [h₁.state]
    exact hw
  · exact fun _ _ _ _ _ _ _ => trivial

end Changes

/-- Once parameters are installed on an otherwise unused kernel, without faults, the
service goes on without a gap, whatever comes, if and only if no event brings
parameters with another CE address, border relay, IPv4 address or port parameters. -/
theorem run_inService_iff (config : Config) (base : Kernel) (rules : Option (List MapRule))
    (hBase : Base config base) (before events : List DaemonEvent) (w : DaemonWorld)
    (hFree : Along (handleEvent config) (AddressFree config base) before
      (initialWorld base noFaults rules))
    (hRun : run config before (initialWorld base noFaults rules) = .ok () w)
    (hParams : w.state.params.isSome) :
    (∀ k ∈ (endOf (run config events) w.observed).history, k.InService) ↔
      Along (handleEvent config) (Seamless config) events w.observed := by
  exact (served_of_run hBase hFree hRun hParams).inService_iff hBase

/-- The prefix reaches into the IPv4 address and the PSID, and where these are ones
it is hidden: PSIDs `0x0f` and `0xff` have one CE address. -/
def overlaidRule : MapRule :=
  { ipv6Prefix := { addr := 0x20010db8000000000000000000000000, prefixLen := 108,
                    prefixLen_le := by decide }
    ipv4Prefix := { testHost with addr := 0xc000020f }
    eaLength := 8, isFmr := true, brAddress := 2, portParams := ⟨1, 8⟩ }

def overlaidPrefix (psid : Nat) : Ipv6Net :=
  { addr := BitVec.ofNat 128 (0x20010db8 * 2 ^ 96 + psid * 2 ^ 12)
    prefixLen := 116, prefixLen_le := by decide }

/-- The PSID changes in place, and the last event changes nothing. -/
theorem run_inService_iff_overlaid : ∃ w,
    run .contrib [.both [overlaidRule] (overlaidPrefix 0x0f)] (idleWorld none) = .ok () w ∧
      ∀ k ∈ (endOf (run .contrib [.lease (overlaidPrefix 0xff),
        .both [overlaidRule] (overlaidPrefix 0xff)]) w.observed).history, k.InService := by
  have hFree : decide (Along (handleEvent .contrib) (AddressFree .contrib (.idle "eth0"))
      [.both [overlaidRule] (overlaidPrefix 0x0f)] (idleWorld none)) = true := by
    decide +kernel
  have hRun : decide (wp (run .contrib [.both [overlaidRule] (overlaidPrefix 0x0f)])
      (fun _ w => w.state.params.isSome = true ∧
        Along (handleEvent .contrib) (Seamless .contrib) [.lease (overlaidPrefix 0xff),
          .both [overlaidRule] (overlaidPrefix 0xff)] w.observed)
      (fun _ _ => False) (idleWorld none)) = true := by
    decide +kernel
  obtain ⟨w, hRun, hParams, hSeamless⟩ := exists_unit_of_decide _ hRun
  refine ⟨w, hRun, ?_⟩
  exact (run_inService_iff .contrib (.idle "eth0") none .idle _ _ w (of_decide_eq_true hFree) hRun
    hParams).mpr hSeamless

/-- With prefixes that end before the fields, the branches of `update` that keep the
tunnel are never taken, and every change of the parameters interrupts the service. -/
theorem run_inService_iff_unchanged (config : Config) (base : Kernel)
    (rules : Option (List MapRule)) (hBase : Base config base) (before events : List DaemonEvent)
    (w : DaemonWorld)
    (hFree : Along (handleEvent config) (AddressFree config base) before
      (initialWorld base noFaults rules))
    (hFitting : Along (handleEvent config) (Fitting config) before
      (initialWorld base noFaults rules))
    (hRun : run config before (initialWorld base noFaults rules) = .ok () w)
    (hParams : w.state.params.isSome)
    (hFitting' : Along (handleEvent config) (Fitting config) events w.observed) :
    ((∀ k ∈ (endOf (run config events) w.observed).history, k.InService) ↔
      Along (handleEvent config) (Unchanging config) events w.observed) ∧
    Along (handleEvent config) (Recreating config) events w.observed := by
  have hSound : ∀ p ∈ w.state.params, SoundParams config p := by
    have hBefore : wp (run config before) (fun _ w' => ∀ p ∈ w'.state.params, SoundParams config p)
        (fun _ _ => True) (initialWorld base noFaults rules) :=
      wp_forM_along (fun _ _ hw' hNow => wp_handleEvent_sound hw' hNow) hFitting nofun
    exact wp_ok hBefore hRun
  have hAgree {P Q : DaemonWorld → DaemonEvent → Prop}
      (h : ∀ event w', (∀ p ∈ w'.state.params, SoundParams config p) → Fitting config w' event →
        (P w' event ↔ Q w' event)) :
      Along (handleEvent config) P events w.observed ↔
        Along (handleEvent config) Q events w.observed :=
    along_congr (fun event w' hw' hNow => wp_handleEvent_sound hw' hNow) h hFitting' hSound
  have hNewSound {event : DaemonEvent} {w' : DaemonWorld} {new : MapeParams}
      (hNow : Fitting config w' event) (hNew : new ∈ event.newParams config w'.state) :
      SoundParams config new :=
    soundParams_of_from (newParams_from hNew) (hNow new hNew)
  constructor
  · rw [(served_of_run hBase hFree hRun hParams).inService_iff hBase]
    apply hAgree
    intro event w' hw' hNow
    apply forall₂_congr
    intro new hNew
    apply forall₂_congr
    intro old hOld
    exact (hw' old hOld).sameLink_iff (hNewSound hNow hNew)
  · refine (hAgree fun event w' hw' hNow => iff_of_true ?_ hNow).mpr hFitting'
    intro new hNew old hOld hChanged hPortParams
    by_contra hKept
    obtain ⟨hCe, hBr⟩ := not_or.mp hKept
    have hUnchanged := (hw' old hOld).unchanged (hNewSound hNow hNew) (not_not.mp hCe)
      (not_not.mp hBr) hPortParams
    exact Bool.false_ne_true (hUnchanged.symm.trans hChanged)

/-- The same lease again leaves the service alone, another PSID interrupts it. -/
theorem run_inService_iff_unchanged_shared : ∃ w,
    run .contrib [.both [sharedRule] (sharedPrefix 1 5)] (idleWorld none) = .ok () w ∧
      (∀ k ∈ (endOf (run .contrib [.both [sharedRule] (sharedPrefix 1 5)]) w.observed).history,
        k.InService) ∧
      ¬ ∀ k ∈ (endOf (run .contrib [.both [sharedRule] (sharedPrefix 1 6)]) w.observed).history,
        k.InService := by
  have hFree : decide (Along (handleEvent .contrib) (AddressFree .contrib (.idle "eth0"))
      [.both [sharedRule] (sharedPrefix 1 5)] (idleWorld none)) = true := by
    decide +kernel
  have hFitting : decide (Along (handleEvent .contrib) (Fitting .contrib)
      [.both [sharedRule] (sharedPrefix 1 5)] (idleWorld none)) = true := by
    decide +kernel
  have hRun : decide (wp (run .contrib [.both [sharedRule] (sharedPrefix 1 5)])
      (fun _ w => w.state.params.isSome = true ∧
        (Fitting .contrib w.observed (.both [sharedRule] (sharedPrefix 1 5)) ∧
          Unchanging .contrib w.observed (.both [sharedRule] (sharedPrefix 1 5))) ∧
        Fitting .contrib w.observed (.both [sharedRule] (sharedPrefix 1 6)) ∧
          ¬ Unchanging .contrib w.observed (.both [sharedRule] (sharedPrefix 1 6)))
      (fun _ _ => False) (idleWorld none)) = true := by
    decide +kernel
  obtain ⟨w, hRun, hParams, ⟨hFits, hSame⟩, hFits', hOther⟩ := exists_unit_of_decide _ hRun
  refine ⟨w, hRun, ?_, ?_⟩
  · exact (run_inService_iff_unchanged .contrib (.idle "eth0") none .idle _ _ w
      (of_decide_eq_true hFree) (of_decide_eq_true hFitting) hRun hParams
      (along_singleton hFits)).1.mpr (along_singleton hSame)
  · intro hAll
    exact hOther ((run_inService_iff_unchanged .contrib (.idle "eth0") none .idle _ _ w
      (of_decide_eq_true hFree) (of_decide_eq_true hFitting) hRun hParams
      (along_singleton hFits')).1.mp hAll).1

end Mapecd
