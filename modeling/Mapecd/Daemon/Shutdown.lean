import Mapecd.Daemon.PathIndependence

/-! A whole life of the daemon without faults: between two events the current
parameters are installed or nothing is, and the shutdown gives the kernel back. -/
namespace Mapecd

open Effects Checked

/-- `params` are installed. The set of port ranges holds theirs, and may hold more. -/
structure Installs (config : Config) (base : Kernel) (params : MapeParams) (k : Kernel)
    (s : DaemonState) : Prop where
  address : params.ceIpv6 ∉ base.upstream.addrs
  nonempty : params.portRanges ≠ []
  installed : ∃ cfg i b elements, Derived params cfg params.portRanges ∧
    params.portRanges.toFinset ⊆ elements ∧
    Running config base (settings config base params cfg (nftTables config params cfg elements))
      i b k s

/-- Between two events. -/
def Between (config : Config) (base k : Kernel) (s : DaemonState) : Prop :=
  (s.params = none ∧ Idle base k s) ∨
    ∃ params, s.params = some params ∧ Installs config base params k s

section States

variable {config : Config} {base k : Kernel} {s : DaemonState} {params old new : MapeParams}

theorem Configured.installs (h : Configured config base params k s) :
    Installs config base params k s := by
  obtain ⟨cfg, i, b, hDerived, hRunning⟩ := h.installed
  exact ⟨h.address, h.nonempty, cfg, i, b, _, hDerived, Finset.Subset.refl _, hRunning⟩

theorem Conforms.between (h : Conforms config base k s) : Between config base k s := by
  rcases h with ⟨hParams, hIdle⟩ | ⟨params, hParams, hConfigured⟩
  · exact Or.inl ⟨hParams, hIdle⟩
  · exact Or.inr ⟨params, hParams, hConfigured.installs⟩

theorem Installs.withInputs (h : Installs config base params k s) (cache : Option (List MapRule))
    (params' : Option MapeParams) (rules : Option (List MapRule)) (iaPd : Option Ipv6Net) :
    Installs config base params (k.withRulesCache cache)
      { s.withPending rules iaPd with params := params' } := by
  obtain ⟨cfg, i, b, elements, hDerived, hElements, hRunning⟩ := h.installed
  exact ⟨h.address, h.nonempty, cfg, i, b, elements, hDerived, hElements,
    hRunning.withInputs cache params' rules iaPd⟩

theorem Between.withPending (h : Between config base k s) (cache : Option (List MapRule))
    (rules : Option (List MapRule)) (iaPd : Option Ipv6Net) :
    Between config base (k.withRulesCache cache) (s.withPending rules iaPd) := by
  rcases h with ⟨hParams, hIdle⟩ | ⟨params, hParams, hInstalls⟩
  · exact Or.inl ⟨hParams, hIdle.withInputs cache s.params rules iaPd⟩
  · exact Or.inr ⟨params, hParams, hInstalls.withInputs cache s.params rules iaPd⟩

/-- What `has_changed` does not see is installed already. -/
theorem Installs.congr (h : hasChanged old new = false) (hInstalls : Installs config base old k s) :
    Installs config base new k s := by
  obtain ⟨hCe, hIpv4, hPsid, hBr, hRanges, hPortParams⟩ := hasChanged_eq_false_iff.mp h
  obtain ⟨cfg, i, b, elements, hDerived, hElements, hRunning⟩ := hInstalls.installed
  have hConfig : psidConfigFromParams old = psidConfigFromParams new := by
    rw [psidConfigFromParams, psidConfigFromParams, hPsid, hPortParams]
  have hSettings : settings config base old cfg (nftTables config old cfg elements) =
      settings config base new cfg (nftTables config new cfg elements) := by
    rw [settings, tunnelSpec, nftTables, hCe, hIpv4, hBr]
    rfl
  refine ⟨hCe ▸ hInstalls.address, hRanges ▸ hInstalls.nonempty, cfg, i, b, elements, ⟨?_, ?_⟩, ?_, ?_⟩
  · rw [← hPortParams, ← hPsid, hDerived.ranges, hRanges]
  · rw [← hConfig, hDerived.psidConfig]
  · rw [← hRanges]
    exact hElements
  · rw [← hSettings]
    exact hRunning

/-- Whether there are port ranges at all depends on the port parameters alone. -/
theorem portRanges_ne_nil (hOld : old.Computed) (hNew : new.Computed)
    (hPortParams : old.rule.portParams = new.rule.portParams) (h : old.portRanges ≠ []) :
    new.portRanges ≠ [] := by
  obtain ⟨ranges, hRanges, hNil⟩ :=
    calcPortRanges_eq_nil_iff old.rule.portParams old.psid (calcPortRanges_fits hOld)
  obtain ⟨ranges', hRanges', hNil'⟩ :=
    calcPortRanges_eq_nil_iff new.rule.portParams new.psid (calcPortRanges_fits hNew)
  cases hRanges.symm.trans hOld
  cases hRanges'.symm.trans hNew
  rw [Ne, hNil', ← hPortParams, ← hNil]
  exact h

end States

section Events

variable {config : Config} {params new : MapeParams} {base k : Kernel} {s : DaemonState}
  {w : DaemonWorld} {post : Unit → DaemonWorld → Prop} {stop : Failure MapEError → DaemonWorld → Prop}

/-- Whatever is installed can be taken back by parameters with the same CE address. -/
theorem Installs.wp_cleanup {params' : MapeParams} (hBase : Base config base)
    (hInstalls : Installs config base params k s) (hCe : params'.ceIpv6 = params.ceIpv6)
    (h : w.IsAt k s noFaults)
    (hDone : ∀ k' s' w', w'.IsAt k' s' noFaults → Idle base k' s' → s'.inputs = s.inputs →
      post () w') : wp (cleanup config params') post stop w := by
  obtain ⟨cfg, i, b, elements, -, -, hRunning⟩ := hInstalls.installed
  have hAddrs : (insert params.ceIpv6 base.upstream.addrs).erase params'.ceIpv6 =
      base.upstream.addrs := by
    rw [hCe]
    exact Finset.erase_insert hInstalls.address
  apply hRunning.wp_cleanup hBase rfl hAddrs h
  exact fun k' s' w' h' hIdle _ hInputs => hDone k' s' w' h' hIdle hInputs

/-- New parameters, whatever was installed before. -/
theorem wp_applyNew_between {oldParams : Option MapeParams} (hBase : Base config base)
    (hRecord : (oldParams = none ∧ Idle base k s) ∨
      ∃ old, oldParams = some old ∧ Installs config base old k s)
    (h : w.IsAt k s noFaults) (hParams : s.params = some new) (hComputed : new.Computed)
    (hCe : new.ceIpv6 ∉ base.upstream.addrs)
    (hDone : ∀ k' s' w', w'.IsAt k' s' noFaults → Between config base k' s' → post () w') :
    wp (applyNew config oldParams new) post stop w := by
  have hApply (k₁ : Kernel) (s₁ : DaemonState) (w₁ : DaemonWorld) (hIdle : Idle base k₁ s₁)
      (h₁ : w₁.IsAt k₁ s₁ noFaults) (hParams₁ : s₁.params = some new) :
      wp (applyOrCleanup config new) post stop w₁ := by
    apply wp_applyOrCleanup hBase hIdle h₁ hParams₁ hComputed hCe
    exact fun k₂ s₂ w₂ h₂ hSettled _ => hDone k₂ s₂ w₂ h₂ hSettled.conforms.between
  unfold applyNew
  rw [wp_bind, wp_getState, h.state]
  rcases hRecord with ⟨rfl, hIdle⟩ | ⟨old, rfl, hInstalls⟩
  · simp only [hIdle.vacant.tunnel, Option.isSome_none, Bool.false_eq_true, if_false]
    exact hApply k s w hIdle h hParams
  · obtain ⟨cfg, i, b, elements, hDerived, hElements, hRunning⟩ := hInstalls.installed
    simp only [hRunning.tunnelIfindex, Option.isSome_some, if_true]
    split_ifs with hChanged hPortParams
    · rw [wp_bind]
      apply hInstalls.wp_cleanup hBase rfl h
      exact fun k₁ s₁ w₁ h₁ hIdle₁ hInputs₁ =>
        hApply k₁ s₁ w₁ hIdle₁ h₁ ((congrArg Prod.fst hInputs₁).trans hParams)
    · obtain ⟨cfg', hDerived'⟩ := hComputed.derived
      have hNonempty := portRanges_ne_nil hDerived.ranges hComputed (not_not.mp hPortParams)
        hInstalls.nonempty
      unfold updateOrCleanup
      rw [wp_bind, wp_attempt]
      apply hRunning.wp_update hBase hInstalls.address hCe hDerived' hNonempty h
      intro i' b' k' s' w' h' hRunning' hInputs
      have hParams' : s'.params = some new := (congrArg Prod.fst hInputs).trans hParams
      exact hDone k' s' w' h' (Or.inr ⟨new, hParams', hCe, hNonempty, cfg', i', b', _, hDerived',
        Finset.subset_union_right, hRunning'⟩)
    · have hSame : hasChanged old new = false := Bool.eq_false_of_not_eq_true hChanged
      exact hDone k s w h (Or.inr ⟨new, hParams, hInstalls.congr hSame⟩)

/-- One event: something is installed as a whole behind it, or nothing. -/
theorem wp_handleEvent_between (hBase : Base config base) (event : DaemonEvent)
    (hBetween : Between config base k s) (h : w.IsAt k s noFaults)
    (hFree : AddressFree config base w event)
    (hDone : ∀ k' s' w', w'.IsAt k' s' noFaults → Between config base k' s' → post () w')
    (hPanic : ∀ w', stop .panic w') : wp (handleEvent config event) post stop w := by
  unfold AddressFree at hFree
  rw [h.state] at hFree
  apply wp_handleEvent event h
  · intro rules iaPd cache new w₁ _ hReady hComputed h₁ _
    apply wp_applyNew_between hBase _ h₁ rfl hComputed (hFree new hReady) hDone
    rcases hBetween with ⟨hParams, hIdle⟩ | ⟨old, hParams, hInstalls⟩
    · exact Or.inl ⟨hParams, hIdle.withInputs cache (some new) rules (some iaPd)⟩
    · exact Or.inr ⟨old, hParams, hInstalls.withInputs cache (some new) rules (some iaPd)⟩
  · exact fun _ rules iaPd cache w₁ h₁ _ =>
      hDone _ _ w₁ h₁ (hBetween.withPending cache rules iaPd)
  · exact fun _ _ _ _ w₁ _ _ => hPanic w₁

/-- By induction over the events. -/
theorem run_between (hBase : Base config base) {events : List DaemonEvent} {w : DaemonWorld}
    (hFree : Along (handleEvent config) (AddressFree config base) events w)
    (hFaults : w.faults = noFaults) (hBetween : Between config base w.sys w.state) :
    wp (run config events)
      (fun _ w' => w'.faults = noFaults ∧ Between config base w'.sys w'.state)
      (fun _ _ => True) w := by
  refine wp_forM_along ?_ hFree ⟨hFaults, hBetween⟩
  rintro event w₁ ⟨hFaults₁, hBetween₁⟩ hFree₁
  apply wp_handleEvent_between hBase event hBetween₁ ⟨rfl, rfl, hFaults₁⟩ hFree₁
  · intro k' s' w₂ h₂ hBetween₂
    rw [h₂.sys, h₂.state]
    exact ⟨h₂.faults, hBetween₂⟩
  · exact fun _ => trivial

/-- In both cases the shutdown leaves an idle kernel. -/
theorem wp_shutdown (hBase : Base config base) (hBetween : Between config base k s)
    (h : w.IsAt k s noFaults)
    (hDone : ∀ k' s' w', w'.IsAt k' s' noFaults → Idle base k' s' → post () w') :
    wp (shutdown config) post stop w := by
  unfold shutdown
  rw [wp_bind, wp_getState, h.state]
  rcases hBetween with ⟨hParams, hIdle⟩ | ⟨params, hParams, hInstalls⟩
  · rw [hParams]
    exact hDone k s w h hIdle
  · rw [hParams]
    apply hInstalls.wp_cleanup hBase rfl h
    exact fun k' s' w' h' hIdle _ => hDone k' s' w' h' hIdle

end Events

/-- After every run of events the current parameters are installed as a whole or
nothing is, and the shutdown leaves nothing of the daemon behind: addresses,
tunnel, tables, BPF objects and sysctls are as before, and of the routes at most
the default routes are gone. -/
theorem run_shutdown_restores (config : Config) (base : Kernel) (rules : Option (List MapRule))
    (hBase : Base config base) (events : List DaemonEvent) (w : DaemonWorld)
    (hFree : Along (handleEvent config) (AddressFree config base) events
      (initialWorld base noFaults rules))
    (hRun : run config events (initialWorld base noFaults rules) = .ok () w) :
    Between config base w.sys w.state ∧
      ∃ w', shutdown config w = .ok () w' ∧ Idle base w'.sys w'.state := by
  obtain ⟨hFaults, hBetween⟩ :=
    wp_ok (run_between hBase hFree rfl (hBase.conforms rules).between) hRun
  have hShutdown : wp (shutdown config) (fun _ w' => Idle base w'.sys w'.state)
      (fun _ _ => False) w := by
    apply wp_shutdown hBase hBetween ⟨rfl, rfl, hFaults⟩
    intro k' s' w' h' hIdle
    rw [h'.sys, h'.state]
    exact hIdle
  exact ⟨hBetween, exists_unit_of_wp _ hShutdown⟩

/-- Two prefixes of one rule. The second one reaches `update`, which keeps the
port ranges of the first. -/
theorem run_shutdown_restores_update : ∃ w w',
    run .contrib [.both [sharedRule] (sharedPrefix 1 5), .lease (sharedPrefix 1 6)]
      (idleWorld none) = .ok () w ∧ w.state.params.isSome ∧
    shutdown .contrib w = .ok () w' ∧ Idle (.idle "eth0") w'.sys w'.state := by
  have hFree : decide (Along (handleEvent .contrib) (AddressFree .contrib (.idle "eth0"))
      [.both [sharedRule] (sharedPrefix 1 5), .lease (sharedPrefix 1 6)] (idleWorld none)) = true := by
    decide +kernel
  have hRun : decide (wp (run .contrib
      [.both [sharedRule] (sharedPrefix 1 5), .lease (sharedPrefix 1 6)])
      (fun _ w => w.state.params.isSome = true) (fun _ _ => False) (idleWorld none)) = true := by
    decide +kernel
  obtain ⟨w, hRun, hParams⟩ := exists_unit_of_decide _ hRun
  obtain ⟨-, w', hShutdown, hIdle⟩ := run_shutdown_restores .contrib (.idle "eth0") none .idle
    _ w (of_decide_eq_true hFree) hRun
  exact ⟨w, w', hRun, hParams, hShutdown, hIdle⟩

end Mapecd
