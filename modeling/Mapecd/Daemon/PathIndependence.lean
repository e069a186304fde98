import Mapecd.Daemon.Events
import Mapecd.Daemon.Running
import Mapecd.Kernel.View

/-! Whatever the events before, the kernel ends up configured as by a daemon that
starts with the current data, except for the set of port ranges: `update` adds
to it and never removes from it. -/
namespace Mapecd

open Effects Checked

section Views

variable {config : Config} {set : Settings} {i b : Nat} {base k k' : Kernel} {s s' : DaemonState}

/-- The view of a kernel in which `set` is installed. -/
def Settings.view (base : Kernel) (set : Settings) : View :=
  { upstream := { base.upstream with addrs := set.addrs }
    tunnel := some { spec := set.spec, ifindex := 0, up := true, addrs := insert set.ipv4 ∅ }
    routes := settle base.routes ++ [tunnelDefaultRoute 0]
    nft := set.tables
    ipForward := "1"
    ipv6Forward := "1"
    bpf := [⟨0, set.cfg, some 0, some 0⟩] }

/-- What is running looks the same in every kernel that it was installed in, link and
object numbers apart. -/
theorem Running.view_eq (hBase : Base config base) (hRunning : Running config base set i b k s) :
    k.view = set.view base := by
  have hTunnel : k.renumber i = 0 := by
    simp [Kernel.renumber, hRunning.tunnel]
  have hRoutes : k.routes.map (fun route => route.renumber k.renumber) =
      settle base.routes ++ [tunnelDefaultRoute 0] := by
    have hOld (route : RouteMessage) (hRoute : route ∈ settle base.routes) :
        route.renumber k.renumber = route := by
      apply RouteMessage.renumber_eq
      intro j hj
      have hNe : i ≠ j := by
        rintro rfl
        exact hBase.notMem_ifindexes hRunning.fresh route (mem_settle.mp hRoute).1 hj
      simp [Kernel.renumber, hRunning.tunnel, hNe]
    have hNew : (tunnelDefaultRoute i).renumber k.renumber = tunnelDefaultRoute 0 := by
      rw [RouteMessage.renumber, tunnelDefaultRoute, List.map_singleton,
        RouteMessage.renumberAttribute, hTunnel]
      rfl
    rw [hRunning.routes, List.map_append, List.map_congr_left hOld, List.map_id', List.map_singleton,
      hNew]
  rw [Kernel.view, hRoutes, hRunning.tunnel, hRunning.upstream, hRunning.nft, hRunning.ipForward,
    hRunning.ipv6Forward, hRunning.bpf, List.map_singleton]
  simp only [Option.map_some, hTunnel]
  rfl

/-- Two idle kernels with the same routes look alike. -/
theorem Idle.view_eq (hIdle : Idle base k s) (hIdle' : Idle base k' s')
    (hRoutes : k.routes = k'.routes) : k.view = k'.view := by
  have hRenumber : k.renumber = k'.renumber := by
    unfold Kernel.renumber
    rw [hIdle.tunnel, hIdle'.tunnel]
  rw [Kernel.view, Kernel.view, hRenumber, hRoutes, hIdle.upstream, hIdle'.upstream, hIdle.tunnel,
    hIdle'.tunnel, hIdle.nft, hIdle'.nft, hIdle.ipForward, hIdle'.ipForward, hIdle.ipv6Forward,
    hIdle'.ipv6Forward, hIdle.bpf, hIdle'.bpf]

end Views

section Invariant

variable {config : Config} {params : MapeParams} {base k : Kernel} {s : DaemonState}

/-- `params` are installed, with the set of port ranges of `params` alone. -/
structure Configured (config : Config) (base : Kernel) (params : MapeParams) (k : Kernel)
    (s : DaemonState) : Prop where
  address : params.ceIpv6 ∉ base.upstream.addrs
  nonempty : params.portRanges ≠ []
  installed : ∃ cfg i b, Derived params cfg params.portRanges ∧
    Running config base (settings config base params cfg
      (nftTables config params cfg params.portRanges.toFinset)) i b k s

/-- Between two events: nothing is installed, or the current parameters. -/
def Conforms (config : Config) (base k : Kernel) (s : DaemonState) : Prop :=
  (s.params = none ∧ Idle base k s) ∨
    ∃ params, s.params = some params ∧ Configured config base params k s

/-- The outcome once `params` have been computed. Without port ranges nothing
stays installed. -/
def Settled (config : Config) (base : Kernel) (params : MapeParams) (k : Kernel)
    (s : DaemonState) : Prop :=
  (params.portRanges = [] ∧ s.params = none ∧ Idle base k s ∧ k.routes = settle base.routes) ∨
    (s.params = some params ∧ Configured config base params k s)

theorem Settled.conforms (h : Settled config base params k s) : Conforms config base k s := by
  rcases h with ⟨-, hParams, hIdle, -⟩ | ⟨hParams, hConfigured⟩
  · exact Or.inl ⟨hParams, hIdle⟩
  · exact Or.inr ⟨params, hParams, hConfigured⟩

/-- The view is a function of the parameters. -/
theorem Settled.view_eq {k' : Kernel} {s' : DaemonState} (hBase : Base config base)
    (h : Settled config base params k s) (h' : Settled config base params k' s') :
    k.view = k'.view := by
  rcases h with ⟨hNil, -, hIdle, hRoutes⟩ | ⟨-, hConfigured⟩
  · rcases h' with ⟨-, -, hIdle', hRoutes'⟩ | ⟨-, hConfigured'⟩
    · exact hIdle.view_eq hIdle' (hRoutes.trans hRoutes'.symm)
    · exact absurd hNil hConfigured'.nonempty
  · rcases h' with ⟨hNil, -, -, -⟩ | ⟨-, hConfigured'⟩
    · exact absurd hNil hConfigured.nonempty
    · obtain ⟨cfg, i, b, hDerived, hRunning⟩ := hConfigured.installed
      obtain ⟨cfg', i', b', hDerived', hRunning'⟩ := hConfigured'.installed
      obtain ⟨rfl, -⟩ := hDerived'.unique hDerived
      rw [hRunning.view_eq hBase, hRunning'.view_eq hBase]

theorem Idle.withInputs (h : Idle base k s) (cache : Option (List MapRule))
    (params : Option MapeParams) (rules : Option (List MapRule)) (iaPd : Option Ipv6Net) :
    Idle base (k.withRulesCache cache) { s.withPending rules iaPd with params := params } :=
  ⟨h.upstream, h.tunnel, h.routes, h.nft, h.ipForward, h.ipv6Forward, h.bpf, h.nextIfindex,
    h.vacant.tunnel, h.vacant.ebpf, h.vacant.ipForward, h.vacant.ipv6Forward⟩

theorem Running.withInputs {set : Settings} {i b : Nat} (h : Running config base set i b k s)
    (cache : Option (List MapRule)) (params : Option MapeParams) (rules : Option (List MapRule))
    (iaPd : Option Ipv6Net) :
    Running config base set i b (k.withRulesCache cache)
      { s.withPending rules iaPd with params := params } :=
  ⟨h.upstream, h.tunnel, h.routes, h.nft, h.ipForward, h.ipv6Forward, h.bpf, h.fresh,
    h.nextIfindex, h.tunnelIfindex, h.ebpf, h.originalIpForward, h.originalIpv6Forward⟩

theorem Configured.withInputs (h : Configured config base params k s)
    (cache : Option (List MapRule)) (params' : Option MapeParams) (rules : Option (List MapRule))
    (iaPd : Option Ipv6Net) :
    Configured config base params (k.withRulesCache cache)
      { s.withPending rules iaPd with params := params' } := by
  obtain ⟨cfg, i, b, hDerived, hRunning⟩ := h.installed
  exact ⟨h.address, h.nonempty, cfg, i, b, hDerived, hRunning.withInputs cache params' rules iaPd⟩

theorem Conforms.withPending (h : Conforms config base k s) (cache : Option (List MapRule))
    (rules : Option (List MapRule)) (iaPd : Option Ipv6Net) :
    Conforms config base (k.withRulesCache cache) (s.withPending rules iaPd) := by
  rcases h with ⟨hParams, hIdle⟩ | ⟨params, hParams, hConfigured⟩
  · exact Or.inl ⟨hParams, hIdle.withInputs cache s.params rules iaPd⟩
  · exact Or.inr ⟨params, hParams, hConfigured.withInputs cache s.params rules iaPd⟩

/-- Computed parameters have a BPF record. -/
theorem MapeParams.Computed.derived (h : params.Computed) :
    ∃ cfg, Derived params cfg params.portRanges := by
  have hFits := calcPortRanges_fits h
  obtain ⟨result, hResult, hNone⟩ := PsidConfig.tryNew_total params.rule.portParams.psidOffset
    params.rule.portParams.psidLength params.psid
  cases result with
  | none => exact absurd (hNone.mp rfl) (Nat.not_lt.mpr hFits)
  | some cfg =>
      refine ⟨cfg, h, ?_⟩
      rw [psidConfigFromParams, hResult]
      rfl

end Invariant

section Unchanged

variable {config : Config} {old new : MapeParams}

theorem hasChanged_eq_false_iff : hasChanged old new = false ↔
    old.ceIpv6 = new.ceIpv6 ∧ old.ipv4 = new.ipv4 ∧ old.psid = new.psid ∧
      old.brAddress = new.brAddress ∧ old.portRanges = new.portRanges ∧
      old.rule.portParams = new.rule.portParams := by
  simp [hasChanged, and_assoc]

/-- The compared fields determine everything that `apply` does. -/
theorem apply_eq_of_not_hasChanged (config : Config) (h : hasChanged old new = false) :
    apply config old = apply config new := by
  obtain ⟨hCe, hIpv4, hPsid, hBr, -, hPortParams⟩ := hasChanged_eq_false_iff.mp h
  have hConfig : psidConfigFromParams old = psidConfigFromParams new := by
    rw [psidConfigFromParams, psidConfigFromParams, hPsid, hPortParams]
  unfold apply applyStep2AddIpv6 applyStep3CreateTunnel applySteps4To6 applyStep5_5Ebpf
    applyStep6Nftables
  rw [hCe, hIpv4, hPsid, hBr, hPortParams, hConfig]

/-- What `has_changed` does not compare is not installed. -/
theorem Configured.congr {base k : Kernel} {s : DaemonState} (h : hasChanged old new = false)
    (hConfigured : Configured config base old k s) : Configured config base new k s := by
  obtain ⟨hCe, hIpv4, hPsid, hBr, hRanges, hPortParams⟩ := hasChanged_eq_false_iff.mp h
  obtain ⟨cfg, i, b, hDerived, hRunning⟩ := hConfigured.installed
  have hConfig : psidConfigFromParams old = psidConfigFromParams new := by
    rw [psidConfigFromParams, psidConfigFromParams, hPsid, hPortParams]
  have hSettings : settings config base old cfg (nftTables config old cfg old.portRanges.toFinset) =
      settings config base new cfg (nftTables config new cfg new.portRanges.toFinset) := by
    rw [settings, tunnelSpec, nftTables, hCe, hIpv4, hBr, hRanges]
    rfl
  refine ⟨hCe ▸ hConfigured.address, hRanges ▸ hConfigured.nonempty, cfg, i, b, ⟨?_, ?_⟩, ?_⟩
  · rw [← hPortParams, ← hPsid, hDerived.ranges, hRanges]
  · rw [← hConfig, hDerived.psidConfig]
  · rw [← hSettings]
    exact hRunning

end Unchanged

section Events

variable {config : Config} {params new : MapeParams} {base k : Kernel} {s : DaemonState}
  {w : DaemonWorld} {post : Unit → DaemonWorld → Prop} {stop : Failure MapEError → DaemonWorld → Prop}

/-- Without faults and with a new CE address the result is the installed state, or an
idle kernel where the route was taken. -/
theorem wp_applyOrCleanup (hBase : Base config base) (hIdle : Idle base k s)
    (h : w.IsAt k s noFaults) (hParams : s.params = some params) (hComputed : params.Computed)
    (hCe : params.ceIpv6 ∉ base.upstream.addrs)
    (hDone : ∀ k' s' w', w'.IsAt k' s' noFaults → Settled config base params k' s' →
      s'.inputs.2 = s.inputs.2 → post () w') : wp (applyOrCleanup config params) post stop w := by
  obtain ⟨cfg, hDerived⟩ := hComputed.derived
  unfold applyOrCleanup
  rw [wp_bind, wp_attempt]
  apply hIdle.wp_apply hBase h hCe hDerived
  · intro hNonempty i b k' s' w' h' hRunning hInputs
    have hParams' : s'.params = some params := (congrArg Prod.fst hInputs).trans hParams
    exact hDone k' s' w' h' (Or.inr ⟨hParams', hCe, hNonempty, cfg, i, b, hDerived, hRunning⟩)
      (congrArg Prod.snd hInputs)
  · intro hNil i b k' s' w' h' hRunning hInputs
    simp only [wp_bind, clearParams]
    apply hRunning.wp_cleanup hBase rfl (Finset.erase_insert hCe) h'
    intro k₂ s₂ w₂ h₂ hIdle₂ hRoutes hInputs₂
    rw [wp_modifyState, h₂.state]
    have hCleared := hIdle₂.withInputs k₂.rulesCache none s₂.pendingMapRules s₂.pendingIaPd
    have hPending : s₂.inputs.2 = s.inputs.2 := congrArg Prod.snd (hInputs₂.trans hInputs)
    exact hDone k₂ _ _ (h₂.withState _) (Or.inl ⟨hNil, rfl, hCleared, hRoutes⟩) hPending

/-- New parameters, whatever was installed before. -/
theorem wp_applyNew_settled {oldParams : Option MapeParams} (hBase : Base config base)
    (hRecord : (oldParams = none ∧ Idle base k s) ∨
      ∃ old, oldParams = some old ∧ Configured config base old k s)
    (h : w.IsAt k s noFaults) (hParams : s.params = some new) (hComputed : new.Computed)
    (hCe : new.ceIpv6 ∉ base.upstream.addrs)
    (hKeeps : ∀ old ∈ oldParams, hasChanged old new → old.rule.portParams = new.rule.portParams →
      old.portRanges ⊆ new.portRanges)
    (hDone : ∀ k' s' w', w'.IsAt k' s' noFaults → Settled config base new k' s' →
      s'.inputs.2 = s.inputs.2 → post () w') : wp (applyNew config oldParams new) post stop w := by
  unfold applyNew
  rw [wp_bind, wp_getState, h.state]
  rcases hRecord with ⟨rfl, hIdle⟩ | ⟨old, rfl, hConfigured⟩
  · simp only [hIdle.vacant.tunnel, Option.isSome_none, Bool.false_eq_true, if_false]
    exact wp_applyOrCleanup hBase hIdle h hParams hComputed hCe hDone
  · obtain ⟨cfg, i, b, hDerived, hRunning⟩ := hConfigured.installed
    simp only [hRunning.tunnelIfindex, Option.isSome_some, if_true]
    split_ifs with hChanged hPortParams
    · rw [wp_bind]
      apply hRunning.wp_cleanup hBase rfl (Finset.erase_insert hConfigured.address) h
      intro k₁ s₁ w₁ h₁ hIdle₁ _ hInputs₁
      have hParams₁ : s₁.params = some new := (congrArg Prod.fst hInputs₁).trans hParams
      apply wp_applyOrCleanup hBase hIdle₁ h₁ hParams₁ hComputed hCe
      exact fun k₂ s₂ w₂ h₂ hSettled hInputs₂ =>
        hDone k₂ s₂ w₂ h₂ hSettled (hInputs₂.trans (congrArg Prod.snd hInputs₁))
    · obtain ⟨cfg', hDerived'⟩ := hComputed.derived
      have hSubset := hKeeps old rfl hChanged (not_not.mp hPortParams)
      have hNonempty : new.portRanges ≠ [] := by
        intro hNil
        rw [hNil] at hSubset
        exact hConfigured.nonempty (List.subset_nil.mp hSubset)
      have hUnion : old.portRanges.toFinset ∪ new.portRanges.toFinset = new.portRanges.toFinset := by
        apply Finset.union_eq_right.mpr
        intro range hRange
        exact List.mem_toFinset.mpr (hSubset (List.mem_toFinset.mp hRange))
      unfold updateOrCleanup
      rw [wp_bind, wp_attempt]
      apply hRunning.wp_update hBase hConfigured.address hCe hDerived' hNonempty h
      intro i' b' k' s' w' h' hRunning' hInputs
      have hParams' : s'.params = some new := (congrArg Prod.fst hInputs).trans hParams
      refine hDone k' s' w' h' (Or.inr ⟨hParams', hCe, hNonempty, cfg', i', b', hDerived', ?_⟩)
        (congrArg Prod.snd hInputs)
      rw [← hUnion]
      exact hRunning'
    · have hSame : hasChanged old new = false := Bool.eq_false_of_not_eq_true hChanged
      exact hDone k s w h (Or.inr ⟨hParams, hConfigured.congr hSame⟩) rfl

/-- The address of the new parameters is not on the upstream link already. -/
def AddressFree (config : Config) (base : Kernel) (w : DaemonWorld) (event : DaemonEvent) : Prop :=
  ∀ new ∈ event.newParams config w.state, new.ceIpv6 ∉ base.upstream.addrs

instance (config : Config) (base : Kernel) (w : DaemonWorld) (event : DaemonEvent) :
    Decidable (AddressFree config base w event) :=
  inferInstanceAs (Decidable (∀ new ∈ event.newParams config w.state, _ ∉ _))

/-- An event that `update` handles takes no port range away. -/
def KeepsRanges (config : Config) (w : DaemonWorld) (event : DaemonEvent) : Prop :=
  ∀ new ∈ event.newParams config w.state, ∀ old ∈ w.state.params, hasChanged old new →
    old.rule.portParams = new.rule.portParams → old.portRanges ⊆ new.portRanges

/-- One event: new parameters settle, otherwise everything stays. -/
theorem wp_handleEvent_settled (hBase : Base config base) (event : DaemonEvent)
    (hConforms : Conforms config base k s) (h : w.IsAt k s noFaults)
    (hFree : AddressFree config base w event) (hKeeps : KeepsRanges config w event)
    (hNew : ∀ rules iaPd new k' s' w', event.received config s = some (s.withPending rules (some iaPd)) →
      event.newParams config s = some new → new.Computed → w'.IsAt k' s' noFaults →
      Settled config base new k' s' → s'.inputs.2 = (rules, some iaPd) → post () w')
    (hKept : event.newParams config s = none → ∀ k' s' w', w'.IsAt k' s' noFaults →
      Conforms config base k' s' → post () w')
    (hPanic : event.newParams config s = none → ∀ w', stop .panic w') :
    wp (handleEvent config event) post stop w := by
  unfold AddressFree KeepsRanges at *
  rw [h.state] at hFree hKeeps
  apply wp_handleEvent event h
  · intro rules iaPd cache new w₁ hReceived hReady hComputed h₁ _
    apply wp_applyNew_settled hBase _ h₁ rfl hComputed (hFree new hReady) (hKeeps new hReady)
    · exact fun k' s' w' h' hSettled hInputs =>
        hNew rules iaPd new k' s' w' hReceived hReady hComputed h' hSettled hInputs
    · rcases hConforms with ⟨hParams, hIdle⟩ | ⟨old, hParams, hConfigured⟩
      · exact Or.inl ⟨hParams, hIdle.withInputs cache (some new) rules (some iaPd)⟩
      · exact Or.inr ⟨old, hParams, hConfigured.withInputs cache (some new) rules (some iaPd)⟩
  · exact fun hNone rules iaPd cache w₁ h₁ _ =>
      hKept hNone _ _ w₁ h₁ (hConforms.withPending cache rules iaPd)
  · exact fun hNone _ _ _ w₁ _ _ => hPanic hNone w₁

end Events

section Runs

variable {config : Config} {base : Kernel}

theorem Base.conforms (hBase : Base config base) (rules : Option (List MapRule)) :
    Conforms config base base (initialState rules) :=
  Or.inl ⟨rfl, rfl, hBase.tunnel, Or.inl rfl, hBase.nft, rfl, rfl, hBase.bpf, le_rfl,
    rfl, rfl, rfl, rfl⟩

/-- The parameters depend on the rules and the prefix alone. -/
theorem newParams_fresh {event : DaemonEvent} {s s' : DaemonState} {rules : Option (List MapRule)}
    {iaPd : Ipv6Net} {new : MapeParams}
    (hReceived : event.received config s = some (s.withPending rules (some iaPd)))
    (hNew : event.newParams config s = some new) (hRules : s'.pendingMapRules = rules) :
    DaemonEvent.newParams config s' (.iaPdReceived iaPd) = some new := by
  have hValid := DaemonEvent.received_valid hReceived rfl
  rw [DaemonEvent.newParams, hReceived] at hNew
  rw [DaemonEvent.newParams, DaemonEvent.received, hValid, hRules]
  exact hNew

/-- The condition on the event and on the state before it. -/
def Steady (config : Config) (base : Kernel) (w : DaemonWorld) (event : DaemonEvent) : Prop :=
  AddressFree config base w event ∧ KeepsRanges config w event

/-- By induction over the events. -/
theorem run_conforms (hBase : Base config base) {events : List DaemonEvent} {w : DaemonWorld}
    (hSteady : Along (handleEvent config) (Steady config base) events w)
    (hFaults : w.faults = noFaults) (hConforms : Conforms config base w.sys w.state) :
    wp (run config events)
      (fun _ w' => w'.faults = noFaults ∧ Conforms config base w'.sys w'.state)
      (fun _ _ => True) w := by
  refine wp_forM_along ?_ hSteady ⟨hFaults, hConforms⟩
  rintro event w₁ ⟨hFaults₁, hConforms₁⟩ ⟨hFree, hKeeps⟩
  apply wp_handleEvent_settled hBase event hConforms₁ ⟨rfl, rfl, hFaults₁⟩ hFree hKeeps
  · intro rules iaPd new k' s' w₂ _ _ _ h₂ hSettled _
    rw [h₂.sys, h₂.state]
    exact ⟨h₂.faults, hSettled.conforms⟩
  · intro _ k' s' w₂ h₂ hConforms₂
    rw [h₂.sys, h₂.state]
    exact ⟨h₂.faults, hConforms₂⟩
  · exact fun _ _ => trivial

/-- A new daemon with the rules gets the prefix as its first event. -/
theorem wp_fresh (hBase : Base config base) {rules : Option (List MapRule)} {iaPd : Ipv6Net}
    {new : MapeParams}
    (hNew : DaemonEvent.newParams config (initialState rules) (.iaPdReceived iaPd) = some new)
    (hFree : new.ceIpv6 ∉ base.upstream.addrs) :
    wp (handleEvent config (.iaPdReceived iaPd))
      (fun _ w' => Settled config base new w'.sys w'.state) (fun _ _ => False)
      (initialWorld base noFaults rules) := by
  apply wp_handleEvent_settled hBase _ (hBase.conforms rules) ⟨rfl, rfl, rfl⟩
  · intro new' hNew'
    cases hNew.symm.trans hNew'
    exact hFree
  · exact fun _ _ _ hOld => by cases hOld
  · intro _ _ new' k' s' w' _ hNew' _ h' hSettled _
    cases hNew.symm.trans hNew'
    rw [h'.sys, h'.state]
    exact hSettled
  · intro hNone
    cases hNew.symm.trans hNone
  · intro hNone
    cases hNew.symm.trans hNone

/-- After a run and one more event for which `try_compute` returned `Ok(true)`, the
kernel looks as after the first event of a new daemon with the same data. -/
theorem run_view_eq (hBase : Base config base) (rules : Option (List MapRule))
    (events : List DaemonEvent) (event : DaemonEvent) {w w' : DaemonWorld}
    (hSteady : Along (handleEvent config) (Steady config base) (events ++ [event])
      (initialWorld base noFaults rules))
    (hRun : run config events (initialWorld base noFaults rules) = .ok () w)
    (hEvent : handleEvent config event w = .ok () w')
    (hReady : event.newParams config w.state ≠ none) :
    ∃ iaPd fresh, w'.state.pendingIaPd = some iaPd ∧
      handleEvent config (.iaPdReceived iaPd)
        (initialWorld base noFaults w'.state.pendingMapRules) = .ok () fresh ∧
      w'.sys.view = fresh.sys.view := by
  obtain ⟨hBefore, hLast⟩ := along_append.mp hSteady
  obtain ⟨hFree, hKeeps⟩ := (wp_ok hLast hRun).1
  obtain ⟨hFaults, hConforms⟩ := wp_ok (run_conforms hBase hBefore rfl (hBase.conforms rules)) hRun
  have hStep : wp (handleEvent config event) (fun _ w' => ∃ iaPd new,
      w'.state.pendingIaPd = some iaPd ∧ new.ceIpv6 ∉ base.upstream.addrs ∧
        DaemonEvent.newParams config (initialState w'.state.pendingMapRules)
          (.iaPdReceived iaPd) = some new ∧
        Settled config base new w'.sys w'.state) (fun _ _ => True) w := by
    apply wp_handleEvent_settled hBase event hConforms ⟨rfl, rfl, hFaults⟩ hFree hKeeps
    · intro rules' iaPd new k' s' w₁ hReceived hNew _ h₁ hSettled hInputs
      rw [h₁.sys, h₁.state]
      refine ⟨iaPd, new, congrArg Prod.snd hInputs, hFree new hNew, ?_, hSettled⟩
      exact newParams_fresh hReceived hNew (congrArg Prod.fst hInputs)
    · exact fun hNone => absurd hNone hReady
    · exact fun _ _ => trivial
  obtain ⟨iaPd, new, hIaPd, hNewFree, hNew, hSettled⟩ := wp_ok hStep hEvent
  obtain ⟨fresh, hFresh, hSettled'⟩ := exists_unit_of_wp _ (wp_fresh hBase hNew hNewFree)
  exact ⟨iaPd, fresh, hIaPd, hFresh, hSettled.view_eq hBase hSettled'⟩

end Runs

/-- The port ranges that `apply` writes into the set. -/
def MapeParams.ranges (params : MapeParams) : List RangeInclusive :=
  (calcPortRanges params.rule.portParams params.psid).getD []

theorem Derived.ranges_eq {params : MapeParams} {cfg : PsidConfig} {ranges : List RangeInclusive}
    (h : Derived params cfg ranges) : params.ranges = ranges := by
  rw [MapeParams.ranges, h.ranges, Option.getD_some]

/-- One `update` reaches what `apply` of the new parameters configures if and only if
no port range is taken away. -/
theorem update_view_eq_iff (config : Config) (old new : MapeParams) {w w₁ w₂ : DaemonWorld}
    (hBase : Base config w.sys) (hVacant : w.state.Vacant) (hFaults : w.faults = noFaults)
    (hOld : apply config old w = .ok () w₁) (hNew : apply config new w = .ok () w₂) :
    ∃ w₃, update config old new w₁ = .ok () w₃ ∧
      (w₃.sys.view = w₂.sys.view ↔ old.ranges ⊆ new.ranges) := by
  have hAt : w.IsAt w.sys w.state noFaults := ⟨rfl, rfl, hFaults⟩
  obtain ⟨-, hOldCe, hFaults₁, cfg, ranges, i, b, hDerived, -, hRunning⟩ :=
    apply_ok hAt hBase.toPristine hBase.links hVacant hOld
  obtain ⟨-, hNewCe, -, cfg', ranges', i', b', hDerived', hNonempty, hRunning'⟩ :=
    apply_ok hAt hBase.toPristine hBase.links hVacant hNew
  have hUpdate : wp (update config old new) (fun _ w' => ∃ i b, Running config w.sys
      (settings config w.sys new cfg'
        (nftTables config new cfg' (ranges.toFinset ∪ ranges'.toFinset))) i b w'.sys w'.state)
      (fun _ _ => False) w₁ := by
    apply hRunning.wp_update hBase hOldCe hNewCe hDerived' hNonempty ⟨rfl, rfl, hFaults₁⟩
    intro i'' b'' k' s' w' h' hRunning'' _
    rw [h'.sys, h'.state]
    exact ⟨i'', b'', hRunning''⟩
  obtain ⟨w₃, hRun, i'', b'', hRunning''⟩ := exists_unit_of_wp _ hUpdate
  refine ⟨w₃, hRun, ?_⟩
  rw [hRunning''.view_eq hBase, hRunning'.view_eq hBase, hDerived.ranges_eq, hDerived'.ranges_eq]
  constructor
  · intro hView range hRange
    have hElements : ranges.toFinset ∪ ranges'.toFinset = ranges'.toFinset :=
      congrArg (fun view => view.nft.elements) hView
    rw [← List.mem_toFinset, ← hElements]
    exact Finset.mem_union_left _ (List.mem_toFinset.mpr hRange)
  · intro hSubset
    have hUnion : ranges.toFinset ∪ ranges'.toFinset = ranges'.toFinset := by
      apply Finset.union_eq_right.mpr
      intro range hRange
      exact List.mem_toFinset.mpr (hSubset (List.mem_toFinset.mp hRange))
    rw [hUnion]

/-- Without faults the kernel is configured as a new daemon would configure it: in
every run whose events take no port range away through `update`, after one `update`
exactly if it takes none away, and when `has_changed` sees no difference. -/
theorem reconfiguration_path_independent (config : Config) (base : Kernel)
    (rules : Option (List MapRule)) (hBase : Base config base) :
    (∀ (events : List DaemonEvent) (event : DaemonEvent) (w w' : DaemonWorld),
      Along (handleEvent config) (Steady config base) (events ++ [event])
        (initialWorld base noFaults rules) →
      run config events (initialWorld base noFaults rules) = .ok () w →
      handleEvent config event w = .ok () w' → event.newParams config w.state ≠ none →
      ∃ iaPd fresh, w'.state.pendingIaPd = some iaPd ∧
        handleEvent config (.iaPdReceived iaPd)
          (initialWorld base noFaults w'.state.pendingMapRules) = .ok () fresh ∧
        w'.sys.view = fresh.sys.view) ∧
      (∀ (old new : MapeParams) (w w₁ w₂ : DaemonWorld), w.sys = base → w.state.Vacant →
        w.faults = noFaults → apply config old w = .ok () w₁ → apply config new w = .ok () w₂ →
        ∃ w₃, update config old new w₁ = .ok () w₃ ∧
          (w₃.sys.view = w₂.sys.view ↔ old.ranges ⊆ new.ranges)) ∧
      ∀ old new : MapeParams, hasChanged old new = false → apply config old = apply config new := by
  refine ⟨?_, ?_, fun old new => apply_eq_of_not_hasChanged config⟩
  · exact fun events event w w' hSteady hRun hEvent hReady =>
      run_view_eq hBase rules events event hSteady hRun hEvent hReady
  · rintro old new w w₁ w₂ rfl hVacant hFaults hOld hNew
    exact update_view_eq_iff config old new hBase hVacant hFaults hOld hNew

/-- An IPv4 `/24` whose addresses are shared by PSIDs of 14 bits. -/
def sharedRule : MapRule :=
  { ipv6Prefix := testNet6
    ipv4Prefix := testNet4
    eaLength := 22, isFmr := true, brAddress := 2, portParams := ⟨1, 14⟩ }

/-- The prefix that `sharedRule` gives to an IPv4 suffix and a PSID. -/
def sharedPrefix (suffix psid : Nat) : Ipv6Net :=
  { addr := BitVec.ofNat 128 (0x20010db8 * 2 ^ 96 + (suffix * 2 ^ 14 + psid) * 2 ^ 74)
    prefixLen := 54, prefixLen_le := by decide }

theorem Base.idle : Base .contrib (.idle "eth0") :=
  ⟨⟨rfl, rfl, rfl, rfl⟩, nofun, by rintro ⟨route, hRoute, -⟩; cases hRoute⟩

/-- The world in which nothing was received yet. -/
def idleWorld (rules : Option (List MapRule)) : DaemonWorld :=
  initialWorld (.idle "eth0") noFaults rules

theorem handleEvent_sharedRule : ∃ w,
    handleEvent .contrib (.both [sharedRule] (sharedPrefix 1 5)) (idleWorld none) = .ok () w ∧
      w.state.pendingIaPd = some (sharedPrefix 1 5) ∧
      w.state.pendingMapRules = some [sharedRule] := by
  apply exists_unit_of_wp fun _ (w : DaemonWorld) =>
    w.state.pendingIaPd = some (sharedPrefix 1 5) ∧ w.state.pendingMapRules = some [sharedRule]
  decide +kernel

theorem steady_sharedRule :
    Steady .contrib (.idle "eth0") (idleWorld none) (.both [sharedRule] (sharedPrefix 1 5)) := by
  refine ⟨by decide +kernel, ?_⟩
  intro _ _ _ hOld
  cases hOld

theorem newParams_sharedRule : (DaemonEvent.both [sharedRule] (sharedPrefix 1 5)).newParams
    .contrib (idleWorld none).state ≠ none := by
  decide +kernel

/-- The apply that the examples start from returns. -/
theorem apply_idle (ipv4 : Ipv4Addr) (h : ipv4 = 1 ∨ ipv4 = 9) :
    ∃ w, apply .contrib (makeParams 1 ipv4 2 5 ⟨1, 14⟩) (idleWorld none) = .ok () w := by
  have hApply : decide (wp (apply .contrib (makeParams 1 ipv4 2 5 ⟨1, 14⟩)) (fun _ _ => True)
      (fun _ _ => False) (idleWorld none)) = true := by
    cases h with
    | inl h =>
        subst h
        decide +kernel
    | inr h =>
        subst h
        decide +kernel
  obtain ⟨w, h, -⟩ := exists_unit_of_decide _ hApply
  exact ⟨w, h⟩

/-- The first event of a run, and an `update` that changes the IPv4 address only. -/
theorem reconfiguration_same_psid :
    (∃ w fresh,
      handleEvent .contrib (.both [sharedRule] (sharedPrefix 1 5)) (idleWorld none) = .ok () w ∧
      handleEvent .contrib (.iaPdReceived (sharedPrefix 1 5)) (idleWorld (some [sharedRule])) =
        .ok () fresh ∧
      w.sys.view = fresh.sys.view) ∧
    ∃ w₁ w₂ w₃, apply .contrib (makeParams 1 1 2 5 ⟨1, 14⟩) (idleWorld none) = .ok () w₁ ∧
      apply .contrib (makeParams 1 9 2 5 ⟨1, 14⟩) (idleWorld none) = .ok () w₂ ∧
      update .contrib (makeParams 1 1 2 5 ⟨1, 14⟩) (makeParams 1 9 2 5 ⟨1, 14⟩) w₁ = .ok () w₃ ∧
      w₃.sys.view = w₂.sys.view := by
  obtain ⟨w, hRun, hIaPd, hRules⟩ := handleEvent_sharedRule
  obtain ⟨w₁, hOld⟩ := apply_idle 1 (Or.inl rfl)
  obtain ⟨w₂, hNew⟩ := apply_idle 9 (Or.inr rfl)
  obtain ⟨hRuns, hUpdates, -⟩ := reconfiguration_path_independent .contrib (.idle "eth0") none .idle
  constructor
  · obtain ⟨iaPd, fresh, hIaPd', hFresh, hView⟩ := hRuns [] (.both [sharedRule] (sharedPrefix 1 5))
      (idleWorld none) w (along_singleton steady_sharedRule) rfl hRun newParams_sharedRule
    have hSame : sharedPrefix 1 5 = iaPd := Option.some.inj (hIaPd.symm.trans hIaPd')
    rw [hRules, ← hSame] at hFresh
    exact ⟨w, fresh, hRun, hFresh, hView⟩
  · obtain ⟨w₃, hUpdate, hView⟩ := hUpdates _ _ (idleWorld none) w₁ w₂ rfl ⟨rfl, rfl, rfl, rfl⟩ rfl
      hOld hNew
    exact ⟨w₁, w₂, w₃, hOld, hNew, hUpdate, hView.mpr (List.Subset.refl _)⟩

/-- The PSID changes: the set keeps the ranges of the old one. -/
theorem update_keeps_ranges :
    hasChanged (makeParams 1 1 2 5 ⟨1, 14⟩) (makeParams 3 1 2 6 ⟨1, 14⟩) = true ∧
    ∃ w₁ w₂ w₃, apply .contrib (makeParams 1 1 2 5 ⟨1, 14⟩)
        (initialWorld (.idle "eth0") noFaults none) = .ok () w₁ ∧
      apply .contrib (makeParams 3 1 2 6 ⟨1, 14⟩)
        (initialWorld (.idle "eth0") noFaults none) = .ok () w₂ ∧
      update .contrib (makeParams 1 1 2 5 ⟨1, 14⟩) (makeParams 3 1 2 6 ⟨1, 14⟩) w₁ = .ok () w₃ ∧
      w₃.sys.view ≠ w₂.sys.view := by
  have hOld : decide (wp (apply .contrib (makeParams 1 1 2 5 ⟨1, 14⟩)) (fun _ _ => True)
      (fun _ _ => False) (initialWorld (.idle "eth0") noFaults none)) = true := by decide +kernel
  have hNew : decide (wp (apply .contrib (makeParams 3 1 2 6 ⟨1, 14⟩)) (fun _ _ => True)
      (fun _ _ => False) (initialWorld (.idle "eth0") noFaults none)) = true := by decide +kernel
  obtain ⟨w₁, hOld, -⟩ := exists_unit_of_decide _ hOld
  obtain ⟨w₂, hNew, -⟩ := exists_unit_of_decide _ hNew
  obtain ⟨w₃, hUpdate, hView⟩ := update_view_eq_iff .contrib (makeParams 1 1 2 5 ⟨1, 14⟩)
    (makeParams 3 1 2 6 ⟨1, 14⟩) .idle ⟨rfl, rfl, rfl, rfl⟩ rfl hOld hNew
  exact ⟨rfl, w₁, w₂, w₃, hOld, hNew, hUpdate, fun h => absurd (hView.mp h) (by decide +kernel)⟩

end Mapecd
