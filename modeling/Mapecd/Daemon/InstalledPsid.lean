import Mapecd.Daemon.UpdateRollback

/-! The entry of `CONFIG_MAP` after an `update` that returns. A new tunnel comes
with a new BPF object; otherwise the last request of `update` writes the entry,
and its failure is only logged. -/
namespace Mapecd

open Effects Checked

/-- The BPF object `b` is attached to the recorded tunnel `i`, with the entry `cfg`. -/
structure Linked (i b : Nat) (cfg : PsidConfig) (k : Kernel) (s : DaemonState) : Prop where
  tunnel : k.tunnel.map TunnelLink.ifindex = some i
  bpf : k.bpf = [⟨b, cfg, some i, some i⟩]
  tunnelIfindex : s.tunnelIfindex = some i
  ebpf : s.ebpf.map EbpfManager.id = some b

/-- The two programs run on the current tunnel, with the entry for `params`. -/
def InForce (params : MapeParams) (k : Kernel) (s : DaemonState) : Prop :=
  ∃ i b cfg, psidConfigFromParams params = some (.ok cfg) ∧ Linked i b cfg k s

section Linked

variable {config : Config} {base k k' : Kernel} {s : DaemonState} {set : Settings} {i b : Nat}
  {cfg cfg' : PsidConfig} {params : MapeParams}

/-- With link and manager in place it is the entry of the map that decides. -/
theorem Linked.inForce_iff (hLinked : Linked i b cfg k s)
    (hParams : psidConfigFromParams params = some (.ok cfg')) : InForce params k s ↔ cfg = cfg' := by
  constructor
  · intro ⟨i', b', cfg'', hParams', hLinked'⟩
    have hBpf := hLinked.bpf.symm.trans hLinked'.bpf
    cases hParams.symm.trans hParams'
    cases hBpf
    rfl
  · rintro rfl
    exact ⟨i, b, cfg, hParams, hLinked⟩

theorem Running.linked (hRunning : Running config base set i b k s) : Linked i b set.cfg k s := by
  refine ⟨?_, hRunning.bpf, hRunning.tunnelIfindex, ?_⟩
  · rw [hRunning.tunnel, Option.map_some]
  · rw [hRunning.ebpf, Option.map_some]

/-- Addresses of the tunnel do not matter here. -/
theorem Linked.tunnelAddrsChange (hLinked : Linked i b cfg k s)
    (hChange : Kernel.TunnelAddrsChange k k') : Linked i b cfg k' s := by
  rcases hChange with rfl | ⟨tunnel, up, addrs, hTunnel, rfl⟩
  · exact hLinked
  · refine ⟨?_, hLinked.bpf, hLinked.tunnelIfindex, hLinked.ebpf⟩
    have hIfindex := hLinked.tunnel
    rw [hTunnel] at hIfindex
    exact hIfindex

theorem Linked.routesChange (hLinked : Linked i b cfg k s) (hChange : Kernel.RoutesChange k k') :
    Linked i b cfg k' s := by
  obtain ⟨routes, rfl⟩ := hChange
  exact ⟨hLinked.tunnel, hLinked.bpf, hLinked.tunnelIfindex, hLinked.ebpf⟩

theorem Linked.nftChange (hLinked : Linked i b cfg k s) (hChange : Kernel.NftChange k k') :
    Linked i b cfg k' s := by
  obtain ⟨tables, -, rfl⟩ := hChange
  exact ⟨hLinked.tunnel, hLinked.bpf, hLinked.tunnelIfindex, hLinked.ebpf⟩

theorem Linked.setConfigMap (hLinked : Linked i b cfg k s) (cfg' : PsidConfig) :
    Linked i b cfg' (k.modifyBpf b fun obj => { obj with config := cfg' }) s := by
  refine ⟨hLinked.tunnel, ?_, hLinked.tunnelIfindex, hLinked.ebpf⟩
  change k.bpf.map _ = _
  rw [hLinked.bpf, List.map_singleton, if_pos rfl]

/-- With the same `a` and `k` the entry for `new` differs in the PSID only. -/
theorem psidConfigFromParams_psid {old new : MapeParams}
    (hParams : old.rule.portParams = new.rule.portParams)
    (hOld : psidConfigFromParams old = some (.ok cfg)) :
    cfg.psid = old.psid ∧
      psidConfigFromParams new = some (.ok { cfg with psid := new.psid }) := by
  unfold psidConfigFromParams at hOld ⊢
  rw [← hParams]
  rw [PsidConfig.tryNew_psid _ _ old.psid new.psid]
  have hSelf := PsidConfig.tryNew_psid old.rule.portParams.psidOffset
    old.rule.portParams.psidLength old.psid old.psid
  cases hNew : PsidConfig.tryNew old.rule.portParams.psidOffset old.rule.portParams.psidLength
      old.psid with
  | none =>
      rw [hNew] at hOld
      cases hOld
  | some result =>
      rw [hNew] at hOld hSelf
      cases result with
      | none => cases hOld
      | some cfg' =>
          cases hOld
          have hPsid := congrArg PsidConfig.psid (Option.some.inj (Option.some.inj hSelf))
          exact ⟨hPsid, rfl⟩

end Linked

section Steps

variable {config : Config} {params new : MapeParams} {k : Kernel} {s : DaemonState}
  {f : Nat → Option Errno} {n i b : Nat} {cfg cfg' : PsidConfig} {w : DaemonWorld}
  {post : Unit → DaemonWorld → Prop} {stop : Failure MapEError → DaemonWorld → Prop}

/-- The deletion can only fail by a fault. -/
theorem wp_ignore_delIpv4Addr_reached {ifindex : Nat} {addr : Ipv4Addr} {k' : Kernel}
    (h : w.Reached k s f n) (hOp : Kernel.delAddr4 ifindex addr k = .ok ((), k'))
    (hRefused : ∀ w', f n ≠ none → w'.Reached k s f (n + 1) → post () w')
    (hDeleted : ∀ w', f n = none → w'.Reached k' s f (n + 1) → post () w') :
    wp (ignore (delIpv4Addr ifindex addr)) post stop w := by
  rw [ignore, wp_bind, wp_attempt]
  unfold delIpv4Addr request
  rw [wp_bind, wp_attempt, wp_mapErr]
  apply h.wp_issue
  · intro e w' hAhead h'
    dsimp only [Failure.map]
    split_ifs
    · exact hRefused w' hAhead h'
    · exact hRefused w' hAhead h'
  · intro e w' hError
    rw [hOp] at hError
    cases hError
  · intro _ k₁ w' hAhead hDone h'
    rw [hOp] at hDone
    cases hDone
    exact hDeleted w' hAhead h'

/-- Where there is no default route, one is added. -/
theorem wp_addMissingDefaultRoute (h : w.Reached k s f n) (hOifs : defaultRouteOifs k.routes = [])
    (hStop : ∀ e w', stop e w')
    (hDone : ∀ k' w', Kernel.RoutesChange k k' → w'.Reached k' s f (n + 2) → post () w') :
    wp (addIpv4DefaultRoute i) post stop w := by
  unfold addIpv4DefaultRoute getIpv4DefaultRoutes
  simp only [wp_bind, wp_pure]
  apply wp_request_granted h hStop
  rintro _ _ w₁ ⟨⟩ h₁
  rw [hOifs, List.forM_eq_forM, List.forM_nil, wp_pure]
  apply wp_request_granted h₁ hStop
  exact fun _ k₂ w₂ hAdd h₂ => hDone k₂ w₂ (Kernel.newDefaultRoute_change hAdd) h₂

/-- The default route through the tunnel is replaced by itself. If it is still there
when it is added again, the request is refused. -/
theorem wp_replaceDefaultRoute (h : w.Reached k s f n) (hOifs : defaultRouteOifs k.routes = [i])
    (hOne : (k.routes.filter fun msg => IsDefaultVia i msg) = [tunnelDefaultRoute i])
    (hStop : ∀ e w', stop e w')
    (hDone : ∀ k' w', Kernel.RoutesChange k k' → w'.Reached k' s f (n + 4) → post () w') :
    wp (addIpv4DefaultRoute i) post stop w := by
  have hPresent : tunnelDefaultRoute i ∈ k.routes := by
    have hMem : tunnelDefaultRoute i ∈ k.routes.filter fun msg => IsDefaultVia i msg := by
      rw [hOne]
      exact List.mem_singleton_self _
    exact (List.mem_filter.mp hMem).1
  unfold addIpv4DefaultRoute getIpv4DefaultRoutes
  simp only [wp_bind, wp_pure]
  apply wp_request_granted h hStop
  rintro _ _ w₁ ⟨⟩ h₁
  rw [hOifs, List.forM_eq_forM, List.forM_cons, wp_bind]
  apply wp_delDefaultRoute_reached h₁ hOne
  intro m routes w₂ hm h₂
  apply wp_request_granted h₂ hStop
  intro _ k₃ w₃ hAdd h₃
  have hAll : m = n + 3 := by
    rcases hm with hAll | ⟨-, -, rfl⟩
    · exact hAll
    · unfold Kernel.newDefaultRoute at hAdd
      split_ifs at hAdd with _ hFree
      exact absurd ⟨_, hPresent, rfl, rfl, rfl⟩ hFree
  subst hAll
  obtain ⟨routes', rfl⟩ := Kernel.newDefaultRoute_change hAdd
  exact hDone _ w₃ ⟨routes', rfl⟩ h₃

/-- One request, or an error that ends the update. -/
theorem wp_applyStep6Nftables_granted (h : w.Reached k s f n) (hStop : ∀ e w', stop e w')
    (hDone : ∀ k' w', Kernel.NftChange k k' → w'.Reached k' s f (n + 1) → post () w') :
    wp (applyStep6Nftables config params) post stop w := by
  obtain ⟨result, hResult⟩ := Option.isSome_iff_exists.mp (psidConfigFromParams_isSome params)
  unfold applyStep6Nftables applyRuleset
  rw [wp_bind]
  cases calcPortRanges params.rule.portParams params.psid with
  | none => exact hStop _ w
  | some ranges =>
      rw [wp_checked_some, wp_bind, hResult, wp_checked_some]
      split_ifs
      · exact hStop _ w
      · apply wp_request_granted h hStop
        exact fun _ k₁ w₁ hRun h₁ => hDone k₁ w₁ (Kernel.runNft_generate_change hRun) h₁

/-- The entry is the new one unless the request is refused. -/
theorem Linked.wp_updateConfigMap (hLinked : Linked i b cfg k s) (h : w.Reached k s f n)
    (hNew : psidConfigFromParams new = some (.ok cfg'))
    (hDone : ∀ k' w', Linked i b (if f n = none then cfg' else cfg) k' s → w'.IsAt k' s f →
      post () w') : wp (updateConfigMap new) post stop w := by
  obtain ⟨manager, hEbpf, rfl⟩ := Option.map_eq_some_iff.mp hLinked.ebpf
  unfold updateConfigMap
  rw [wp_bind, wp_getState, h.state, hEbpf]
  dsimp only
  rw [wp_bind, hNew, wp_checked_some]
  apply wp_ignore_request_reached h
  · intro w₁ hAhead h₁
    rw [if_neg hAhead] at hDone
    exact hDone k w₁ hLinked h₁.toIsAt
  · intro w₁ hAhead h₁
    rw [if_pos hAhead] at hDone
    exact hDone _ w₁ (hLinked.setConfigMap cfg') h₁.toIsAt

/-- The tunnel goes by the configured name. -/
structure Named (config : Config) (i : Nat) (k : Kernel) : Prop where
  tunnel : k.tunnel.map TunnelLink.ifindex = some i
  linkIndex : k.linkIndex config.tunnelInterface = some i

/-- Nor do they change which link has the name. -/
theorem Named.tunnelAddrsChange {k' : Kernel} (hNamed : Named config i k)
    (hChange : Kernel.TunnelAddrsChange k k') : Named config i k' := by
  rcases hChange with rfl | ⟨tunnel, up, addrs, hTunnel, rfl⟩
  · exact hNamed
  · obtain ⟨hIfindex, hIndex⟩ := hNamed
    rw [Kernel.linkIndex, hTunnel] at hIndex
    rw [hTunnel] at hIfindex
    exact ⟨hIfindex, hIndex⟩

theorem Named.routesChange {k' : Kernel} (hNamed : Named config i k)
    (hChange : Kernel.RoutesChange k k') : Named config i k' := by
  obtain ⟨routes, rfl⟩ := hChange
  exact ⟨hNamed.tunnel, hNamed.linkIndex⟩

/-- Steps 4 to 6 attach the object to the tunnel before they return. -/
theorem Named.wp_applySteps4To6 {operation : String} (hNamed : Named config i k)
    (h : w.IsAt k s f) (hBpf : k.bpf = []) (hIfindex : s.tunnelIfindex = some i)
    (hEbpf : s.ebpf = none) (hStop : ∀ e w', stop e w')
    (hDone : ∀ b cfg k' s' w', psidConfigFromParams params = some (.ok cfg) →
      Linked i b cfg k' s' → w'.IsAt k' s' f → post () w') :
    wp (applySteps4To6 config params operation) post stop w := by
  apply wp_applySteps4To6_stages h hNamed hBpf hEbpf (fun _ _ => Named.tunnelAddrsChange)
    (fun _ _ => Named.routesChange) (fun _ _ w₁ _ _ => hStop _ w₁) fun _ _ _ w₁ _ _ => hStop _ w₁
  intro oif index cfg k₁ w₁ _ hNamed₁ hIndex hConfig h₁
  obtain rfl : i = index := Option.some.inj (hNamed₁.linkIndex.symm.trans hIndex)
  apply wp_applyStep6Nftables_granted ⟨h₁, rfl⟩ hStop
  intro k₂ w₂ hChange h₂
  have hLinked : Linked i k₁.nextBpf cfg (k₁.withObject ⟨k₁.nextBpf, cfg, some i, some i⟩)
      { s with ebpf := some ⟨k₁.nextBpf, some config.tunnelInterface, some i, some i⟩ } :=
    ⟨hNamed₁.tunnel, rfl, hIfindex, rfl⟩
  exact hDone _ cfg k₂ _ w₂ hConfig (hLinked.nftChange hChange) h₂.toIsAt

/-- The new tunnel gets a new object with the new entry, whatever fails. -/
theorem Running.wp_recreate_linked {base : Kernel} {set : Settings} (hBase : Base config base)
    (hRunning : Running config base set i b k s) (h : w.Reached k s f n)
    (hStop : ∀ e w', stop e w')
    (hDone : ∀ i' b' cfg k' s' w', psidConfigFromParams new = some (.ok cfg) →
      Linked i' b' cfg k' s' → w'.IsAt k' s' f → post () w') :
    wp (recreateTunnelAndApply config new) post stop w := by
  have hName : k.upstream.name = config.upstreamInterface := by
    rw [hRunning.upstream]
    exact hBase.name
  unfold recreateTunnelAndApply
  simp only [wp_bind]
  apply hRunning.wp_takeEbpf_reached h
  intro w₁ h₁
  apply wp_removeTunnel_reached h₁ hRunning.tunnel hRunning.tunnelIfindex
    (hRunning.defaultRoutes hBase) fun e _ _ w₂ _ _ _ => hStop _ w₂
  intro m routes w₂ _ h₂
  apply wp_applyStep3CreateTunnel h₂ hName rfl (fun e _ w₃ _ _ _ _ => hStop _ w₃)
    (fun e _ w₃ _ _ _ _ => hStop _ w₃)
  intro w₃ _ h₃
  have hNamed (spec : Ip6tnl) (hSpec : spec.name = config.tunnelInterface) :
      Named config k.nextIfindex
        ((((k.withBpf []).withRoutes routes).withTunnel none).withNewTunnel spec true) := by
    have hTunnel : ((((k.withBpf []).withRoutes routes).withTunnel none).withNewTunnel spec
        true).tunnel = some ⟨spec, k.nextIfindex, true, ∅⟩ := rfl
    exact ⟨rfl, linkIndex_tunnel hTunnel hName hSpec⟩
  exact (hNamed _ rfl).wp_applySteps4To6 h₃ rfl rfl rfl hStop (hDone _)

end Steps

section Update

/-- `update` replaces the tunnel. -/
def Recreated (old new : MapeParams) : Prop :=
  old.ceIpv6 ≠ new.ceIpv6 ∨ old.brAddress ≠ new.brAddress

/-- Requests of an `update` of the present tunnel before the one that writes `CONFIG_MAP`:
one for the tables, and if the IPv4 address differs, two for the address and two for
the default route. Where the first of them is refused, the old address keeps the route, and
two more are needed to remove it. -/
def requestsBeforeConfigMap (old new : MapeParams) (deletion : Option Errno) : Nat :=
  if old.ipv4 = new.ipv4 then 1 else if deletion = none then 5 else 7

variable {config : Config} {old new : MapeParams} {cfg : PsidConfig} {tables : NftTables}
  {oif b n : Nat} {base k : Kernel} {s : DaemonState} {f : Nat → Option Errno}
  {w : DaemonWorld} {post : Unit → DaemonWorld → Prop}
  {stop : Failure MapEError → DaemonWorld → Prop}

/-- What `update` leaves when it returns, whatever fails. -/
theorem Running.wp_update_linked (hBase : Base config base)
    (hRunning : Running config base (settings config base old cfg tables) oif b k s)
    (hParams : old.rule.portParams = new.rule.portParams)
    (hOld : psidConfigFromParams old = some (.ok cfg)) (h : w.Reached k s f n)
    (hStop : ∀ e w', stop e w')
    (hNew : Recreated old new → ∀ w', InForce new w'.sys w'.state → post () w')
    (hKept : ¬ Recreated old new → ∀ w', (InForce new w'.sys w'.state ↔
      old.psid = new.psid ∨ f (n + requestsBeforeConfigMap old new (f n)) = none) → post () w') :
    wp (update config old new) post stop w := by
  obtain ⟨hPsid, hConfig⟩ := psidConfigFromParams_psid hParams hOld
  have hFresh (hRecreated : Recreated old new) (i' b' : Nat) (cfg' : PsidConfig) (k' : Kernel)
      (s' : DaemonState) (w' : DaemonWorld) (hConfig' : psidConfigFromParams new = some (.ok cfg'))
      (hLinked : Linked i' b' cfg' k' s') (h' : w'.IsAt k' s' f) :
      wp (updateConfigMap new) post stop w' := by
    apply hLinked.wp_updateConfigMap ⟨h', rfl⟩ hConfig'
    rw [ite_self]
    intro k₁ w₁ hLinked₁ h₁
    apply hNew hRecreated
    rw [h₁.sys, h₁.state]
    exact (hLinked₁.inForce_iff hConfig').mpr rfl
  have hStays (hRecreated : ¬ Recreated old new) {k' : Kernel} {w' : DaemonWorld}
      (hLinked : Linked oif b cfg k' s)
      (h' : w'.Reached k' s f (n + requestsBeforeConfigMap old new (f n))) :
      wp (updateConfigMap new) post stop w' := by
    apply hLinked.wp_updateConfigMap h' hConfig
    intro k₁ w₁ hLinked₁ h₁
    apply hKept hRecreated
    rw [h₁.sys, h₁.state, hLinked₁.inForce_iff hConfig]
    split_ifs with hAhead
    · exact iff_of_true rfl (Or.inr hAhead)
    · rw [or_iff_left hAhead, ← hPsid]
      constructor
      · exact congrArg PsidConfig.psid
      · intro hSame
        rw [← hSame]
  unfold update
  split_ifs with hCe hBr hIpv4
  · have hRecreated : Recreated old new := Or.inl hCe
    have hAddrs (k₁ k₂ : Kernel) (hBefore : Kernel.UpstreamAddrsChange k k₁)
        (hChange : Kernel.UpstreamAddrsChange k₁ k₂) : Kernel.UpstreamAddrsChange k k₂ := by
      obtain ⟨_, rfl⟩ := hBefore
      obtain ⟨addrs, rfl⟩ := hChange
      exact ⟨addrs, rfl⟩
    simp only [wp_bind]
    apply (getLinkIndex_steps _).wp_isAt h.toIsAt (P := (k = ·)) rfl
      (fun k₁ k₂ hSame hChange => hSame.trans hChange.symm) _ fun e _ w₁ _ _ => hStop _ w₁
    rintro index _ w₁ rfl h₁
    apply (delIpv6Addr_steps index old.ceIpv6).wp_ignore_isAt h₁ ⟨k.upstream.addrs, rfl⟩ hAddrs
    intro k₂ w₂ hChange₂ h₂
    apply (addIpv6Addr_steps index new.ceIpv6).wp_isAt h₂ hChange₂ hAddrs _
      fun e _ w₃ _ _ => hStop _ w₃
    rintro _ _ w₃ ⟨addrs, rfl⟩ h₃
    exact (hRunning.withAddrs addrs).wp_recreate_linked hBase ⟨h₃, rfl⟩ hStop (hFresh hRecreated)
  · rw [wp_bind]
    exact hRunning.wp_recreate_linked hBase h hStop (hFresh (Or.inr hBr))
  · have hRecreated : ¬ Recreated old new := not_or.mpr ⟨hCe, hBr⟩
    simp only [wp_bind, recordedTunnel, wp_getState, h.state, hRunning.tunnelIfindex, wp_pure]
    rw [requestsBeforeConfigMap, if_neg hIpv4] at hStays
    have hTables {k' : Kernel} {w' : DaemonWorld} {m : Nat} (hLinked : Linked oif b cfg k' s)
        (h' : w'.Reached k' s f m) (hm : m + 1 = n + if f n = none then 5 else 7) :
        wp (applyStep6Nftables config new) (fun _ => wp (updateConfigMap new) post stop) stop w' := by
      apply wp_applyStep6Nftables_granted h' hStop
      intro k₁ w₁ hChange h₁
      rw [hm] at h₁
      exact hStays hRecreated (hLinked.nftChange hChange) h₁
    apply wp_ignore_delIpv4Addr_reached h (hRunning.delAddr4 hBase)
    · intro w₁ hAhead h₁
      rw [if_neg hAhead] at hTables
      apply wp_request_granted h₁ hStop
      intro _ k₂ w₂ hAdd h₂
      have hChange := Kernel.newAddr4_change hAdd
      have hLinked₂ := hRunning.linked.tunnelAddrsChange hChange
      apply wp_replaceDefaultRoute h₂ _ _ hStop
      · exact fun k₃ w₃ hRoutes h₃ => hTables (hLinked₂.routesChange hRoutes) h₃ rfl
      · rw [hChange.routes, hRunning.routes, defaultRouteOifs_append_tunnel]
      · rw [hChange.routes]
        exact hRunning.defaultRoutes hBase
    · intro w₁ hAhead h₁
      rw [if_pos hAhead] at hTables
      obtain ⟨k', hAddrs, hRoutes⟩ := (Kernel.delAddr4_change (hRunning.delAddr4 hBase)).split
      have hLinked₁ := (hRunning.linked.tunnelAddrsChange hAddrs).routesChange hRoutes
      apply wp_request_granted h₁ hStop
      intro _ k₂ w₂ hAdd h₂
      have hChange := Kernel.newAddr4_change hAdd
      have hLinked₂ := hLinked₁.tunnelAddrsChange hChange
      apply wp_addMissingDefaultRoute h₂ _ hStop
      · exact fun k₃ w₃ hRoutes h₃ => hTables (hLinked₂.routesChange hRoutes) h₃ rfl
      · rw [hChange.routes]
        exact defaultRouteOifs_settle base.routes
  · rw [wp_bind]
    have hRecreated : ¬ Recreated old new := not_or.mpr ⟨hCe, hBr⟩
    rw [requestsBeforeConfigMap, if_pos (not_not.mp hIpv4)] at hStays
    apply wp_applyStep6Nftables_granted h hStop
    intro k₁ w₁ hChange h₁
    exact hStays hRecreated (hRunning.linked.nftChange hChange) h₁

end Update

/-- An `update` that returns has put the entry for the new parameters in force, unless it
keeps the tunnel, the PSID differs and the request that writes `CONFIG_MAP` is refused. -/
theorem update_inForce_iff (config : Config) (old new : MapeParams) (w w₁ w₂ : DaemonWorld)
    (f : Nat → Option Errno) (hPristine : Pristine config w.sys)
    (hLinks : ∀ route ∈ w.sys.routes, ∀ oif ∈ route.ifindexes, oif < w.sys.nextIfindex)
    (hVacant : w.state.Vacant) (hFaults : w.faults = noFaults)
    (hParams : old.rule.portParams = new.rule.portParams)
    (hApply : apply config old w = .ok () w₁)
    (hUpdate : update config old new (w₁.withFaults f) = .ok () w₂) :
    InForce new w₂.sys w₂.state ↔ Recreated old new ∨ old.psid = new.psid ∨
      f (w₁.issued + requestsBeforeConfigMap old new (f w₁.issued)) = none := by
  obtain ⟨hBase, -, -, cfg, ranges, oif, b, hDerived, -, hRunning⟩ :=
    apply_ok ⟨rfl, rfl, hFaults⟩ hPristine hLinks hVacant hApply
  have hReached : (w₁.withFaults f).Reached w₁.sys w₁.state f w₁.issued := ⟨⟨rfl, rfl, rfl⟩, rfl⟩
  have hWp : wp (update config old new)
      (fun _ w' => InForce new w'.sys w'.state ↔ Recreated old new ∨ old.psid = new.psid ∨
        f (w₁.issued + requestsBeforeConfigMap old new (f w₁.issued)) = none)
      (fun _ _ => True) (w₁.withFaults f) := by
    apply hRunning.wp_update_linked hBase hParams hDerived.psidConfig hReached
    · exact fun _ _ => trivial
    · exact fun hRecreated _ hInForce => iff_of_true hInForce (Or.inl hRecreated)
    · intro hRecreated w' hInForce
      rw [hInForce, or_iff_right hRecreated]
  have hInForce := wp_ok hWp hUpdate
  exact hInForce

/-- Without a fault the new PSID is in force. -/
theorem update_inForce_psid :
    ∃ w₁ w₂, apply .contrib (makeParams 1 1 2 5 ⟨1, 14⟩)
        (initialWorld (.idle "eth0") noFaults none) = .ok () w₁ ∧
      update .contrib (makeParams 1 1 2 5 ⟨1, 14⟩) (makeParams 1 1 2 6 ⟨1, 14⟩)
        (w₁.withFaults noFaults) = .ok () w₂ ∧
      InForce (makeParams 1 1 2 6 ⟨1, 14⟩) w₂.sys w₂.state := by
  have hRun : decide (wp (apply .contrib (makeParams 1 1 2 5 ⟨1, 14⟩))
      (fun _ w₁ => wp (update .contrib (makeParams 1 1 2 5 ⟨1, 14⟩) (makeParams 1 1 2 6 ⟨1, 14⟩))
        (fun _ _ => True) (fun _ _ => False) (w₁.withFaults noFaults))
      (fun _ _ => False) (initialWorld (.idle "eth0") noFaults none)) = true := by decide +kernel
  obtain ⟨w₁, hApply, hUpdated⟩ := exists_unit_of_decide _ hRun
  obtain ⟨w₂, hUpdate, -⟩ := exists_unit_of_wp _ hUpdated
  have hIdle : Pristine .contrib (.idle "eth0") := ⟨rfl, rfl, rfl, rfl⟩
  have hIff := update_inForce_iff .contrib (makeParams 1 1 2 5 ⟨1, 14⟩) (makeParams 1 1 2 6 ⟨1, 14⟩)
    (initialWorld (.idle "eth0") noFaults none) w₁ w₂ noFaults hIdle nofun ⟨rfl, rfl, rfl, rfl⟩ rfl
    rfl hApply hUpdate
  exact ⟨w₁, w₂, hApply, hUpdate, hIff.mpr (Or.inr (Or.inr rfl))⟩

/-- The new entry is refused: `update` returns and the programs keep the old PSID. -/
theorem update_keeps_psid :
    ∃ w₁ w₂, hasChanged (makeParams 1 1 2 5 ⟨1, 14⟩) (makeParams 1 1 2 6 ⟨1, 14⟩) = true ∧
      (makeParams 1 1 2 5 ⟨1, 14⟩).rule.portParams = (makeParams 1 1 2 6 ⟨1, 14⟩).rule.portParams ∧
      apply .contrib (makeParams 1 1 2 5 ⟨1, 14⟩)
        (initialWorld (.idle "eth0") noFaults none) = .ok () w₁ ∧
      update .contrib (makeParams 1 1 2 5 ⟨1, 14⟩) (makeParams 1 1 2 6 ⟨1, 14⟩)
        (w₁.withFaults (faultAt (w₁.issued + 1) (.other 12))) = .ok () w₂ ∧
      ¬ InForce (makeParams 1 1 2 6 ⟨1, 14⟩) w₂.sys w₂.state := by
  have hRun : decide (wp (apply .contrib (makeParams 1 1 2 5 ⟨1, 14⟩))
      (fun _ w₁ => wp (update .contrib (makeParams 1 1 2 5 ⟨1, 14⟩) (makeParams 1 1 2 6 ⟨1, 14⟩))
        (fun _ w₂ => w₂.sys.bpf.map (fun obj => obj.config.psid) = [5]) (fun _ _ => False)
        (w₁.withFaults (faultAt (w₁.issued + 1) (.other 12))))
      (fun _ _ => False) (initialWorld (.idle "eth0") noFaults none)) = true := by decide +kernel
  have hConfig : (psidConfigFromParams (makeParams 1 1 2 6 ⟨1, 14⟩)).map
      (fun result => result.toOption.map PsidConfig.psid) = some (some 6) := by decide
  obtain ⟨w₁, hApply, hUpdated⟩ := exists_unit_of_decide _ hRun
  obtain ⟨w₂, hUpdate, hPsids⟩ := exists_unit_of_wp _ hUpdated
  refine ⟨w₁, w₂, rfl, rfl, hApply, hUpdate, ?_⟩
  intro ⟨i, b, cfg, hNew, hLinked⟩
  rw [hNew] at hConfig
  rw [hLinked.bpf] at hPsids
  have hOld : cfg.psid = 5 := List.head_eq_of_cons_eq hPsids
  have hSix : cfg.psid = 6 := Option.some.inj (Option.some.inj hConfig)
  rw [hOld] at hSix
  cases hSix

end Mapecd
