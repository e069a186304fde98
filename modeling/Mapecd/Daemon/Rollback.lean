import Mapecd.Daemon.Running

/-! What `cleanup` can still find after a failed `apply`. Everything but the
tunnel is found by a fixed name or was recorded before it was created; the
tunnel is recorded only after three requests. -/
namespace Mapecd

open Effects Checked

/-- None of the objects remains and both sysctls are those of `base`. -/
structure RolledBack (ceAddrs : List Ipv6Addr) (base k : Kernel) : Prop where
  tunnel : k.tunnel = none
  addrs : ∀ addr ∈ ceAddrs, addr ∉ k.upstream.addrs
  nft : k.nft = .none
  bpf : k.bpf = []
  ipForward : k.ipForward = base.ipForward
  ipv6Forward : k.ipv6Forward = base.ipv6Forward

/-- What `cleanup` relies on, apart from the record of the tunnel. -/
structure Traceable (config : Config) (base k : Kernel) (s : DaemonState) : Prop where
  name : k.upstream.name = config.upstreamInterface
  bpf : ∀ obj ∈ k.bpf, ∃ manager, s.ebpf = some manager ∧ obj.id = manager.id
  nft : k.nft.Paired
  ipForward : s.originalIpForward.getD k.ipForward = base.ipForward
  ipv6Forward : s.originalIpv6Forward.getD k.ipv6Forward = base.ipv6Forward

def TunnelRecorded (k : Kernel) (s : DaemonState) : Prop :=
  ∀ tunnel, k.tunnel = some tunnel → s.tunnelIfindex = some tunnel.ifindex

section Cleaned

variable {config : Config} {params : MapeParams} {base k : Kernel} {s : DaemonState}

/-- The recorded manager is the only one, so nothing is left when it is dropped. -/
theorem unloaded_bpf (hTraceable : Traceable config base k s) : (k.unloaded s).bpf = [] := by
  unfold Kernel.unloaded
  cases hEbpf : s.ebpf with
  | none =>
      apply List.eq_nil_iff_forall_not_mem.mpr
      intro obj hObj
      obtain ⟨manager, hManager, -⟩ := hTraceable.bpf obj hObj
      rw [hEbpf] at hManager
      cases hManager
  | some manager =>
      apply List.filter_eq_nil_iff.mpr
      intro obj hObj
      obtain ⟨manager', hManager, hId⟩ := hTraceable.bpf obj hObj
      rw [hEbpf] at hManager
      cases hManager
      simp [hId]

/-- The link with that number goes, another one stays. -/
theorem withoutTunnel_tunnel (oif : Nat) (k : Kernel) :
    (k.withoutTunnel oif).tunnel = k.tunnel.filter fun tunnel => tunnel.ifindex ≠ oif := by
  unfold Kernel.withoutTunnel outcome Kernel.delLink
  rw [Kernel.withRoutes_tunnel]
  cases hTunnel : k.tunnel with
  | none => exact hTunnel
  | some tunnel =>
      by_cases hIndex : tunnel.ifindex = oif
      · simp [hIndex, Option.filter]
      · simp [hIndex, Option.filter, hTunnel]

theorem withoutTunnel_bpf {oif : Nat} (hBpf : k.bpf = []) : (k.withoutTunnel oif).bpf = [] := by
  unfold Kernel.withoutTunnel outcome
  cases hDel : Kernel.delLink oif
      (k.withRoutes (k.routes.filter fun msg => !IsDefaultVia oif msg)) with
  | error e => exact hBpf
  | ok result =>
      unfold Kernel.delLink at hDel
      split at hDel
      · split_ifs at hDel
        cases hDel
        simp [hBpf]
      · cases hDel

/-- A cleanup finds the tunnel by the recorded index only. -/
theorem cleaned_tunnel_eq_none_iff :
    (k.cleaned params s).tunnel = none ↔ TunnelRecorded k s := by
  change (((k.withNft .none).unloaded s).untunneled s).tunnel = none ↔ _
  obtain ⟨bpf, hUnloaded⟩ := Kernel.unloaded_eq s (k.withNft .none)
  rw [hUnloaded]
  unfold Kernel.untunneled TunnelRecorded
  cases s.tunnelIfindex with
  | none =>
      change k.tunnel = none ↔ _
      cases k.tunnel with
      | none => simp
      | some tunnel => simp
  | some oif =>
      change (Kernel.withoutTunnel oif _).tunnel = none ↔ _
      rw [withoutTunnel_tunnel, Option.filter_eq_none_iff]
      change (∀ tunnel, k.tunnel = some tunnel → _) ↔ _
      refine forall₂_congr fun tunnel _ => ?_
      rw [decide_eq_true_iff, Ne, not_not, Option.some.injEq]
      exact eq_comm

/-- Behind a cleanup no object of the daemon is loaded. -/
theorem cleaned_bpf (hTraceable : Traceable config base k s) : (k.cleaned params s).bpf = [] := by
  change (((k.withNft .none).unloaded s).untunneled s).bpf = []
  have hUnloaded : ((k.withNft .none).unloaded s).bpf = [] :=
    unloaded_bpf ⟨hTraceable.name, hTraceable.bpf, rfl, hTraceable.ipForward, hTraceable.ipv6Forward⟩
  unfold Kernel.untunneled
  cases s.tunnelIfindex with
  | none => exact hUnloaded
  | some oif => exact withoutTunnel_bpf hUnloaded

/-- The fields that neither the BPF object nor the tunnel link touch. -/
theorem cleaned_eq (params : MapeParams) (s : DaemonState) (k : Kernel) :
    ∃ tunnel routes bpf, k.cleaned params s =
      ((k.withNft .none).withoutAddr6 params.ceIpv6 |>.restored s |>.withTunnel tunnel
        |>.withRoutes routes |>.withBpf bpf) := by
  obtain ⟨bpf, hUnloaded⟩ := Kernel.unloaded_eq s (k.withNft .none)
  obtain ⟨tunnel, routes, bpf', hUntunneled⟩ :=
    Kernel.untunneled_eq s ((k.withNft .none).unloaded s)
  refine ⟨tunnel, routes, bpf', ?_⟩
  rw [Kernel.cleaned, hUntunneled, hUnloaded]
  rfl

/-- After a `cleanup` without failures only an unrecorded tunnel and other
addresses can remain. -/
theorem cleaned_rolledBack_iff (hTraceable : Traceable config base k s) (ceAddrs : List Ipv6Addr) :
    RolledBack ceAddrs base (k.cleaned params s) ↔ TunnelRecorded k s ∧
      ∀ addr ∈ ceAddrs, addr ∉ k.upstream.addrs.erase params.ceIpv6 := by
  have hTunnel : (k.cleaned params s).tunnel = none ↔ TunnelRecorded k s :=
    cleaned_tunnel_eq_none_iff
  have hBpf : (k.cleaned params s).bpf = [] := cleaned_bpf hTraceable
  obtain ⟨tunnel, routes, bpf, hCleaned⟩ := cleaned_eq params s k
  rw [hCleaned] at hTunnel hBpf ⊢
  constructor
  · intro h
    exact ⟨hTunnel.mp h.tunnel, h.addrs⟩
  · intro ⟨hRecorded, hAddrs⟩
    exact ⟨hTunnel.mpr hRecorded, hAddrs, rfl, hBpf, hTraceable.ipForward, hTraceable.ipv6Forward⟩

end Cleaned

section Steps4To6

variable {config : Config} {params : MapeParams} {base k : Kernel} {up : UpstreamLink}
  {s : DaemonState} {f : Nat → Option Errno} {w : DaemonWorld}
  {post : Unit → DaemonWorld → Prop} {stop : Failure MapEError → DaemonWorld → Prop}

/-- The tunnel is recorded as well, and the upstream link is `up`. -/
structure Accounted (config : Config) (base : Kernel) (up : UpstreamLink) (k : Kernel)
    (s : DaemonState) : Prop extends Traceable config base k s where
  recorded : TunnelRecorded k s
  upstream : k.upstream = up

theorem Traceable.newTunnel (h : Traceable config base k s) (spec : Ip6tnl) (isUp : Bool) :
    Accounted config base k.upstream (k.withNewTunnel spec isUp)
      { s with tunnelIfindex := some k.nextIfindex } := by
  refine ⟨⟨h.name, h.bpf, h.nft, h.ipForward, h.ipv6Forward⟩, ?_, rfl⟩
  rintro _ ⟨⟩
  rfl

section Changes

variable {k' : Kernel}

theorem Accounted.tunnelAddrsChange (h : Accounted config base up k s)
    (hChange : Kernel.TunnelAddrsChange k k') : Accounted config base up k' s := by
  rcases hChange with rfl | ⟨tunnel, isUp, addrs, hTunnel, rfl⟩
  · exact h
  · refine ⟨⟨h.name, h.bpf, h.nft, h.ipForward, h.ipv6Forward⟩, ?_, h.upstream⟩
    rintro _ ⟨⟩
    exact h.recorded tunnel hTunnel

theorem Accounted.routesChange (h : Accounted config base up k s)
    (hChange : Kernel.RoutesChange k k') : Accounted config base up k' s := by
  obtain ⟨routes, rfl⟩ := hChange
  exact ⟨⟨h.name, h.bpf, h.nft, h.ipForward, h.ipv6Forward⟩, h.recorded, h.upstream⟩

theorem Accounted.delAddr4Change (h : Accounted config base up k s)
    (hChange : Kernel.DelAddr4Change k k') : Accounted config base up k' s := by
  obtain ⟨k₁, hAddrs, hRoutes⟩ := hChange.split
  exact (h.tunnelAddrsChange hAddrs).routesChange hRoutes

theorem Accounted.nftChange (h : Accounted config base up k s)
    (hChange : Kernel.NftChange k k') : Accounted config base up k' s := by
  obtain ⟨tables, hPaired, rfl⟩ := hChange
  exact ⟨⟨h.name, h.bpf, hPaired, h.ipForward, h.ipv6Forward⟩, h.recorded, h.upstream⟩

end Changes

/-- The rules are installed, refused, or not even made. -/
theorem wp_applyStep6Nftables_accounted (h : w.IsAt k s f)
    (hAccounted : Accounted config base up k s)
    (hOk : ∀ k' s' w', w'.IsAt k' s' f → Accounted config base up k' s' → post () w')
    (hErr : ∀ e k' s' w', w'.IsAt k' s' f → Accounted config base up k' s' → stop (.error e) w')
    (hPanic : ∀ w', stop .panic w') : wp (applyStep6Nftables config params) post stop w := by
  cases hRanges : calcPortRanges params.rule.portParams params.psid with
  | none =>
      unfold applyStep6Nftables
      rw [wp_bind, hRanges]
      exact hPanic w
  | some ranges =>
      have hSome : (calcPortRanges params.rule.portParams params.psid).isSome := by rw [hRanges]; rfl
      have hSteps := applyStep6Nftables_steps config hSome
      apply hSteps.wp_isAt h hAccounted (fun _ _ => Accounted.nftChange)
      · exact fun _ k₁ w₁ hAccounted₁ h₁ => hOk k₁ s w₁ h₁ hAccounted₁
      · exact fun e k₁ w₁ hAccounted₁ h₁ => hErr e k₁ s w₁ h₁ hAccounted₁

/-- Steps 4 to 6 keep `P` until the BPF object is loaded; step 6 is left to do when
its manager is stored. -/
theorem wp_applySteps4To6_stages {P : Kernel → Prop} {operation : String} (h : w.IsAt k s f)
    (hP : P k) (hBpf : k.bpf = []) (hEbpf : s.ebpf = none)
    (hAddrs : ∀ k k', P k → Kernel.TunnelAddrsChange k k' → P k')
    (hRoutes : ∀ k k', P k → Kernel.RoutesChange k k' → P k')
    (hErr : ∀ e k' w', P k' → w'.IsAt k' s f → stop (.error e) w')
    (hUnloaded : ∀ e next k' w', P k' → w'.IsAt ((k'.withNextBpf next).withBpf []) s f →
      stop (.error e) w')
    (hStored : ∀ oif index cfg k' w', s.tunnelIfindex = some oif → P k' →
      k'.linkIndex config.tunnelInterface = some index →
      psidConfigFromParams params = some (.ok cfg) →
      w'.IsAt (k'.withObject ⟨k'.nextBpf, cfg, some index, some index⟩)
        { s with ebpf := some ⟨k'.nextBpf, some config.tunnelInterface, some index, some index⟩ } f →
      wp (applyStep6Nftables config params) post stop w') :
    wp (applySteps4To6 config params operation) post stop w := by
  obtain ⟨result, hResult⟩ := Option.isSome_iff_exists.mp (psidConfigFromParams_isSome params)
  have hFail (e : MapEError) (k' : Kernel) (w' : DaemonWorld) (hBoth : P k' ∧ k'.bpf = [])
      (h' : w'.IsAt k' s f) : stop (.error e) w' :=
    hErr e k' w' hBoth.1 h'
  unfold applySteps4To6 recordedTunnel
  simp only [wp_bind, wp_getState, h.state]
  cases hTunnel : s.tunnelIfindex with
  | none => exact hErr _ k w hP h
  | some oif =>
      rw [wp_pure]
      apply (addIpv4Addr_steps _ _).wp_isAt h ⟨hP, hBpf⟩ _ _ hFail
      · rintro k₁ k₂ ⟨hP₁, hBpf₁⟩ hChange
        exact ⟨hAddrs k₁ k₂ hP₁ hChange, hChange.bpf.trans hBpf₁⟩
      intro _ k₁ w₁ hBoth₁ h₁
      apply (addIpv4DefaultRoute_steps _).wp_isAt h₁ hBoth₁ _ _ hFail
      · rintro k₂ k₃ ⟨hP₂, hBpf₂⟩ hChange
        exact ⟨hRoutes k₂ k₃ hP₂ hChange, hChange.bpf.trans hBpf₂⟩
      intro _ k₂ w₂ hBoth₂ h₂
      obtain ⟨hP₂, hBpf₂⟩ := hBoth₂
      unfold applyStep5_5Ebpf
      simp only [wp_bind, hResult, wp_checked_some]
      cases result with
      | error e => exact hErr _ k₂ w₂ hP₂ h₂
      | ok cfg =>
          apply wp_loadAndLink h₂ hBpf₂ _ fun _ e next w₃ h₃ => hUnloaded e next k₂ w₃ hP₂ h₃
          intro index w₃ hIndex h₃
          apply wp_storeEbpf h₃ hEbpf
          exact fun w₄ h₄ => hStored oif index cfg k₂ w₄ hTunnel hP₂ hIndex hResult h₄

/-- From the recorded tunnel on everything stays accounted for, whatever fails. -/
theorem wp_applySteps4To6_accounted {operation : String} (h : w.IsAt k s f)
    (hAccounted : Accounted config base up k s) (hBpf : k.bpf = []) (hEbpf : s.ebpf = none)
    (hOk : ∀ k' s' w', w'.IsAt k' s' f → Accounted config base up k' s' → post () w')
    (hErr : ∀ e k' s' w', w'.IsAt k' s' f → Accounted config base up k' s' → stop (.error e) w')
    (hPanic : ∀ w', stop .panic w') :
    wp (applySteps4To6 config params operation) post stop w := by
  apply wp_applySteps4To6_stages h hAccounted hBpf hEbpf (fun _ _ => Accounted.tunnelAddrsChange)
    (fun _ _ => Accounted.routesChange)
  · exact fun e k₁ w₁ hAccounted₁ h₁ => hErr e k₁ s w₁ h₁ hAccounted₁
  · intro e next k₁ w₁ hAccounted₁ h₁
    exact hErr e _ s w₁ h₁ ⟨⟨hAccounted₁.name, fun _ hObj => absurd hObj List.not_mem_nil,
      hAccounted₁.nft, hAccounted₁.ipForward, hAccounted₁.ipv6Forward⟩, hAccounted₁.recorded,
      hAccounted₁.upstream⟩
  · intro oif index cfg k₁ w₁ _ hAccounted₁ _ _ h₁
    refine wp_applyStep6Nftables_accounted h₁ ⟨⟨hAccounted₁.name, ?_, hAccounted₁.nft,
      hAccounted₁.ipForward, hAccounted₁.ipv6Forward⟩, hAccounted₁.recorded,
      hAccounted₁.upstream⟩ hOk hErr hPanic
    intro obj hObj
    cases List.mem_singleton.mp hObj
    exact ⟨_, rfl, rfl⟩

end Steps4To6

section Apply

variable {config : Config} {params : MapeParams} {k : Kernel} {s : DaemonState}
  {f : Nat → Option Errno} {n : Nat} {w : DaemonWorld} {post : Unit → DaemonWorld → Prop}
  {stop : Failure MapEError → DaemonWorld → Prop}

/-- Requests of `apply` before step 3: four for the sysctls, two for the CE address. -/
def requestsBeforeStep3 : Nat := 6

/-- As long as names, tables, objects and recorded values are those of the start, a
cleanup can go back. -/
theorem Pristine.traceable (h : Pristine config k) {k' : Kernel} {s' : DaemonState}
    (hName : k'.upstream.name = k.upstream.name) (hNft : k'.nft = k.nft) (hBpf : k'.bpf = k.bpf)
    (hForward : s'.originalIpForward.getD k'.ipForward = k.ipForward)
    (hForward6 : s'.originalIpv6Forward.getD k'.ipv6Forward = k.ipv6Forward) :
    Traceable config k k' s' := by
  refine ⟨hName.trans h.name, ?_, ?_, hForward, hForward6⟩
  · rw [hBpf, h.bpf]
    nofun
  · rw [hNft, h.nft]
    rfl

/-- The old values are saved before the sysctls are written. -/
theorem wp_applyStep1Sysctl_fault (h : w.Reached k s f n) (hPristine : Pristine config k)
    (hVacant : s.Vacant)
    (hErr : ∀ e m k' s' w', m < n + 4 → f m ≠ none → w'.IsAt k' s' f →
      Traceable config k k' s' → k'.tunnel = none → stop (.error e) w')
    (hDone : ∀ w', (∀ m, n ≤ m → m < n + 4 → f m = none) →
      w'.Reached ((k.withIpForward "1").withIpv6Forward "1")
        { s with originalIpForward := some k.ipForward, originalIpv6Forward := some k.ipv6Forward }
        f (n + 4) → post () w') : wp applyStep1Sysctl post stop w := by
  unfold applyStep1Sysctl readSysctl writeSysctl
  simp only [wp_bind, wp_modifyState]
  apply wp_request_reached h rfl fun e w₁ hAhead h₁ => hErr e n k s w₁ (by omega) hAhead h₁
    (hPristine.traceable rfl rfl rfl (by rw [hVacant.ipForward]; rfl)
      (by rw [hVacant.ipv6Forward]; rfl)) hPristine.tunnel
  intro w₁ hAhead₁ h₁
  rw [h₁.state]
  apply wp_request_reached (h₁.withState _) rfl fun e w₂ hAhead h₂ =>
    hErr e (n + 1) k _ w₂ (by omega) hAhead h₂
      (hPristine.traceable rfl rfl rfl rfl (by rw [hVacant.ipv6Forward]; rfl)) hPristine.tunnel
  intro w₂ hAhead₂ h₂
  apply wp_request_reached h₂ rfl fun e w₃ hAhead h₃ =>
    hErr e (n + 2) (k.withIpForward "1") _ w₃ (by omega) hAhead h₃
      (hPristine.traceable rfl rfl rfl rfl (by rw [hVacant.ipv6Forward]; rfl)) hPristine.tunnel
  intro w₃ hAhead₃ h₃
  rw [h₃.state]
  apply wp_request_reached (h₃.withState _) rfl fun e w₄ hAhead h₄ =>
    hErr e (n + 3) (k.withIpForward "1") _ w₄ (by omega) hAhead h₄
      (hPristine.traceable rfl rfl rfl rfl rfl) hPristine.tunnel
  intro w₄ hAhead₄ h₄
  refine hDone w₄ ?_ h₄
  intro m hLow hHigh
  have hCases : m = n ∨ m = n + 1 ∨ m = n + 1 + 1 ∨ m = n + 1 + 1 + 1 := by omega
  rcases hCases with rfl | rfl | rfl | rfl
  · exact hAhead₁
  · exact hAhead₂
  · exact hAhead₃
  · exact hAhead₄

/-- Requests whose failure leaves an unrecorded tunnel when step 3 begins with
request `first`. -/
def Unrecorded (config : Config) (first i : Nat) : Prop :=
  i = first + requestsBeforeNewLink config + 1 ∨ i = first + requestsBeforeNewLink config + 2

instance (config : Config) (first i : Nat) : Decidable (Unrecorded config first i) :=
  inferInstanceAs (Decidable (_ ∨ _))

/-- One fault in `apply`: afterwards everything is traceable, and the tunnel is
recorded unless the fault struck between its creation and its record. An address
that is already there stops `apply` before. -/
theorem wp_apply_fault {i : Nat} {e : Errno} (h : w.Reached k s (faultAt (n + i) e) n)
    (hPristine : Pristine config k) (hVacant : s.Vacant)
    (hOk : ∀ w', post () w') (hPanic : ∀ w', stop .panic w')
    (hErr : ∀ e' k' s' w', w'.IsAt k' s' (faultAt (n + i) e) → Traceable config k k' s' →
      (TunnelRecorded k' s' ↔ ¬ (Unrecorded config requestsBeforeStep3 i ∧ params.ceIpv6 ∉ k.upstream.addrs)) →
      stop (.error e') w') : wp (apply config params) post stop w := by
  have hIndex {m : Nat} (hAhead : faultAt (n + i) e m ≠ none) : m = n + i :=
    eq_of_faultAt_ne_none hAhead
  have hAbsent {k' : Kernel} {s' : DaemonState} (hTunnel : k'.tunnel = none) :
      TunnelRecorded k' s' := by
    intro tunnel hSome
    rw [hTunnel] at hSome
    cases hSome
  have hEarly (e' : MapEError) (k' : Kernel) (s' : DaemonState) (w' : DaemonWorld)
      (hi : i ≤ requestsBeforeStep3 + requestsBeforeNewLink config) (h' : w'.IsAt k' s' (faultAt (n + i) e))
      (hTraceable : Traceable config k k' s') (hTunnel : k'.tunnel = none) :
      stop (.error e') w' := by
    refine hErr e' k' s' w' h' hTraceable (iff_of_true (hAbsent hTunnel) ?_)
    rintro ⟨hi' | hi', -⟩ <;> omega
  unfold apply applyStep2AddIpv6
  simp only [wp_bind, getLinkIndex, findLinkByName]
  apply wp_applyStep1Sysctl_fault h hPristine hVacant
  · intro e' m k' s' w' hm hAhead h' hTraceable hTunnel
    have hi := hIndex hAhead
    exact hEarly e' k' s' w' (by unfold requestsBeforeStep3; omega) h' hTraceable hTunnel
  intro w₁ _ h₁
  rw [← hPristine.name]
  apply wp_request_reached h₁ (getLink_upstream _)
  · intro e' w₂ hAhead h₂
    have hi := hIndex hAhead
    exact hEarly e' _ _ w₂ (by unfold requestsBeforeStep3; omega) h₂
      (hPristine.traceable rfl rfl rfl rfl rfl) hPristine.tunnel
  intro w₂ _ h₂
  by_cases hCe : params.ceIpv6 ∈ k.upstream.addrs
  · apply wp_request h₂.toIsAt
    · intro e' w₃ _ h₃
      exact hErr _ _ _ w₃ h₃ (hPristine.traceable rfl rfl rfl rfl rfl)
        (iff_of_true (hAbsent hPristine.tunnel) fun hBoth => hBoth.2 hCe)
    · intro _ k₃ w₃ hAdd
      cases hAdd.symm.trans (newAddr6_mem hCe)
  · apply wp_request_reached h₂ (newAddr6_notMem hCe)
    · intro e' w₃ hAhead h₃
      have hi := hIndex hAhead
      exact hEarly e' _ _ w₃ (by unfold requestsBeforeStep3; omega) h₃
        (hPristine.traceable rfl rfl rfl rfl rfl) hPristine.tunnel
    intro w₃ _ h₃
    apply wp_applyStep3CreateTunnel h₃ hPristine.name hPristine.tunnel
    · intro e' m w₄ _ hHigh hAhead h₄
      have hi := hIndex hAhead
      exact hEarly e' _ _ w₄ (by unfold requestsBeforeStep3; omega) h₄
        (hPristine.traceable rfl rfl rfl rfl rfl) hPristine.tunnel
    · intro e' m w₄ hLow hHigh hAhead h₄
      have hi := hIndex hAhead
      refine hErr e' _ _ w₄ h₄ (hPristine.traceable rfl rfl rfl rfl rfl) (iff_of_false ?_ ?_)
      · intro hRecorded
        have hIfindex := hRecorded _ rfl
        rw [show DaemonState.tunnelIfindex _ = none from hVacant.tunnel] at hIfindex
        cases hIfindex
      · refine not_not_intro ⟨?_, hCe⟩
        unfold Unrecorded requestsBeforeStep3
        omega
    · intro w₄ hAhead h₄
      have hi : ¬ Unrecorded config requestsBeforeStep3 i := by
        intro hUnrecorded
        have hNone := hAhead (n + i) (by unfold Unrecorded requestsBeforeStep3 at hUnrecorded; omega)
          (by unfold Unrecorded requestsBeforeStep3 at hUnrecorded; omega)
        rw [faultAt_self] at hNone
        cases hNone
      have hTraceable : Traceable config k (k.forwarding.withAddr6 params.ceIpv6) (s.saved k) :=
        hPristine.traceable rfl rfl rfl rfl rfl
      apply wp_applySteps4To6_accounted h₄ (hTraceable.newTunnel _ true) hPristine.bpf hVacant.ebpf
      · exact fun _ _ w₅ _ _ => hOk w₅
      · intro e' k' s' w₅ h₅ hAccounted
        exact hErr e' k' s' w₅ h₅ hAccounted.toTraceable
          (iff_of_true hAccounted.recorded fun hBoth => hi hBoth.1)
      · exact hPanic

end Apply

/-- After a single fault and a `cleanup` without faults nothing of `apply`
remains, unless the fault struck one of the two requests between the creation of
the tunnel and its record. -/
theorem apply_rollback_iff (config : Config) (params : MapeParams) (w w₁ : DaemonWorld) (i : Nat)
    (e : Errno) (err : MapEError) (hPristine : Pristine config w.sys) (hVacant : w.state.Vacant)
    (hFaults : w.faults = faultAt (w.issued + i) e)
    (hApply : apply config params w = .error (.error err) w₁) :
    ∃ w₂, cleanup config params (w₁.withFaults noFaults) = .ok () w₂ ∧
      (RolledBack [params.ceIpv6] w.sys w₂.sys ↔
        ¬ (Unrecorded config requestsBeforeStep3 i ∧ params.ceIpv6 ∉ w.sys.upstream.addrs)) := by
  have hReached : w.Reached w.sys w.state (faultAt (w.issued + i) e) w.issued :=
    ⟨⟨rfl, rfl, hFaults⟩, rfl⟩
  have hWp : wp (apply config params) (fun _ _ => True)
      (fun f w' => f ≠ .panic → Traceable config w.sys w'.sys w'.state ∧
        (TunnelRecorded w'.sys w'.state ↔
          ¬ (Unrecorded config requestsBeforeStep3 i ∧ params.ceIpv6 ∉ w.sys.upstream.addrs))) w := by
    apply wp_apply_fault hReached hPristine hVacant
    · exact fun _ => trivial
    · exact fun _ h => absurd rfl h
    · intro e' k' s' w' h' hTraceable hRecorded _
      rw [h'.sys, h'.state]
      exact ⟨hTraceable, hRecorded⟩
  obtain ⟨hTraceable, hRecorded⟩ := wp_error hWp hApply nofun
  have hCleanup : wp (cleanup config params)
      (fun _ w' => w'.sys = w₁.sys.cleaned params w₁.state) (fun _ _ => False)
      (w₁.withFaults noFaults) :=
    wp_cleanup ⟨rfl, rfl, rfl⟩ hTraceable.name hTraceable.nft fun _ h' => h'.sys
  obtain ⟨w₂, hRun, hSys⟩ := exists_unit_of_wp _ hCleanup
  refine ⟨w₂, hRun, ?_⟩
  rw [hSys, cleaned_rolledBack_iff hTraceable, ← hRecorded]
  refine and_iff_left fun addr hAddr => ?_
  rw [List.mem_singleton.mp hAddr]
  exact Finset.notMem_erase _ _

/-- The address of the tunnel is refused: everything is rolled back. -/
theorem apply_rollback_address :
    ∃ w₁ w₂, apply .contrib (makeParams 1 1 2 5 ⟨4, 8⟩)
        (initialWorld (.idle "eth0") (faultAt 11 .enodev) none) =
          .error (.error (.netlinkError "add IPv4 addr" (some .enodev))) w₁ ∧
      cleanup .contrib (makeParams 1 1 2 5 ⟨4, 8⟩) (w₁.withFaults noFaults) = .ok () w₂ ∧
      RolledBack [1] (.idle "eth0") w₂.sys := by
  have hIdle : Pristine .contrib (.idle "eth0") := ⟨rfl, rfl, rfl, rfl⟩
  obtain ⟨w₂, hRun, hIff⟩ := apply_rollback_iff .contrib (makeParams 1 1 2 5 ⟨4, 8⟩)
    (initialWorld (.idle "eth0") (faultAt 11 .enodev) none) _ 11 .enodev _ hIdle
    ⟨rfl, rfl, rfl, rfl⟩ rfl rfl
  exact ⟨_, w₂, rfl, hRun, hIff.mpr fun h => absurd h.1 (by decide)⟩

/-- The set-up of the new link is refused: the tunnel stays, unrecorded. -/
theorem apply_leaves_tunnel :
    ∃ w₁ w₂ tunnel, apply .contrib (makeParams 1 1 2 5 ⟨4, 8⟩)
        (initialWorld (.idle "eth0") (faultAt 10 .enodev) none) =
          .error (.error (.netlinkError "set link up" (some .enodev))) w₁ ∧
      cleanup .contrib (makeParams 1 1 2 5 ⟨4, 8⟩) (w₁.withFaults noFaults) = .ok () w₂ ∧
      w₂.sys.tunnel = some tunnel ∧ tunnel.spec.name = Config.contrib.tunnelInterface :=
  ⟨_, _, _, rfl, rfl, rfl, rfl⟩

end Mapecd
