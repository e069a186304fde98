import Mapecd.Daemon.AllOrNothing
import Mapecd.Daemon.Applied

/-! The kernel and the record while a configuration is installed, relative to
the kernel before the daemon. Without faults `apply`, `update` and `cleanup`
move between these states. -/
namespace Mapecd

open Effects Checked

/-- No object of the daemon is there. -/
structure Pristine (config : Config) (k : Kernel) : Prop where
  name : k.upstream.name = config.upstreamInterface
  tunnel : k.tunnel = none
  nft : k.nft = .none
  bpf : k.bpf = []

/-- The kernel before the daemon: no object of it, and no route in the way. Routes go
through links that exist. -/
structure Base (config : Config) (base : Kernel) : Prop extends Pristine config base where
  links : ∀ route ∈ base.routes, ∀ i ∈ route.ifindexes, i < base.nextIfindex
  free : RouteFree base.routes

/-- Nothing is installed. The default routes may be gone already. -/
structure Idle (base k : Kernel) (s : DaemonState) : Prop where
  upstream : k.upstream = base.upstream
  tunnel : k.tunnel = none
  routes : k.routes = base.routes ∨ k.routes = settle base.routes
  nft : k.nft = .none
  ipForward : k.ipForward = base.ipForward
  ipv6Forward : k.ipv6Forward = base.ipv6Forward
  bpf : k.bpf = []
  nextIfindex : base.nextIfindex ≤ k.nextIfindex
  vacant : s.Vacant

/-- The two tables with the elements that the set has collected. -/
def nftTables (config : Config) (params : MapeParams) (cfg : PsidConfig)
    (elements : Finset RangeInclusive) : NftTables :=
  { ip := some
      { portRanges := elements
        postrouting := [{ oifname := config.tunnelInterface, l4protos := [.tcp, .udp, .icmp]
                          portMin := cfg.stagingMin, portMax := cfg.stagingMax }]
        forward := [.oifname config.tunnelInterface, .iifname config.tunnelInterface] }
    ip6 := some { prerouting := [params.brAddress] } }

def NftTables.elements (tables : NftTables) : Finset RangeInclusive :=
  (tables.ip.getD ⟨∅, [], []⟩).portRanges

/-- What is installed, up to the numbers that the kernel hands out. -/
structure Settings where
  addrs : Finset Ipv6Addr
  spec : Ip6tnl
  ipv4 : Ipv4Addr
  tables : NftTables
  cfg : PsidConfig

def Settings.withTables (set : Settings) (tables : NftTables) : Settings :=
  { set with tables := tables }

/-- The settings of `params` on top of `base`, with given tables. -/
def settings (config : Config) (base : Kernel) (params : MapeParams) (cfg : PsidConfig)
    (tables : NftTables) : Settings :=
  { addrs := insert params.ceIpv6 base.upstream.addrs
    spec := tunnelSpec config params base
    ipv4 := params.ipv4
    tables := tables
    cfg := cfg }

/-- `set` is installed, the tunnel has index `i` and the BPF object is `b`. -/
structure Running (config : Config) (base : Kernel) (set : Settings) (i b : Nat) (k : Kernel)
    (s : DaemonState) : Prop where
  upstream : k.upstream = { base.upstream with addrs := set.addrs }
  tunnel : k.tunnel = some
    { spec := set.spec, ifindex := i, up := true, addrs := insert set.ipv4 ∅ }
  routes : k.routes = settle base.routes ++ [tunnelDefaultRoute i]
  nft : k.nft = set.tables
  ipForward : k.ipForward = "1"
  ipv6Forward : k.ipv6Forward = "1"
  bpf : k.bpf = [⟨b, set.cfg, some i, some i⟩]
  fresh : base.nextIfindex ≤ i
  nextIfindex : i < k.nextIfindex
  tunnelIfindex : s.tunnelIfindex = some i
  ebpf : s.ebpf = some ⟨b, some config.tunnelInterface, some i, some i⟩
  originalIpForward : s.originalIpForward = some base.ipForward
  originalIpv6Forward : s.originalIpv6Forward = some base.ipv6Forward

section Routes

/-- The links that the listed default routes of universe scope go through. -/
theorem mem_defaultRouteOifs {oif : Nat} {routes : List RouteMessage} :
    oif ∈ defaultRouteOifs routes ↔
      ∃ msg ∈ routes, IsDefaultVia oif msg ∧ msg.scope = .universe := by
  unfold defaultRouteOifs IsDefaultVia
  rw [List.mem_flatMap]
  refine exists_congr fun msg => and_congr_right fun _ => ?_
  split_ifs with hOther
  · constructor
    · exact nofun
    · rintro ⟨⟨hLength, -⟩, hScope⟩
      cases hOther with
      | inl hNe => exact absurd hLength hNe
      | inr hNe => exact absurd hScope hNe
  · obtain ⟨hLength, hScope⟩ := not_or.mp hOther
    rw [not_not] at hLength hScope
    simp only [hLength, hScope, true_and, and_true, List.mem_filterMap]
    constructor
    · rintro ⟨attr, hMem, hOif⟩
      cases attr with
      | oif index =>
          cases hOif
          exact hMem
      | _ => cases hOif
    · exact fun hMem => ⟨.oif oif, hMem, rfl⟩

theorem mem_settle {msg : RouteMessage} {routes : List RouteMessage} :
    msg ∈ settle routes ↔ msg ∈ routes ∧ ¬ ∃ oif ∈ defaultRouteOifs routes, IsDefaultVia oif msg := by
  rw [settle, List.mem_filter, Bool.not_eq_true', decide_eq_false_iff_not]

/-- After settling no default route is left that the daemon would remove. -/
theorem defaultRouteOifs_settle (routes : List RouteMessage) :
    defaultRouteOifs (settle routes) = [] := by
  apply List.eq_nil_iff_forall_not_mem.mpr
  intro oif hOif
  obtain ⟨msg, hMsg, hVia, hScope⟩ := mem_defaultRouteOifs.mp hOif
  obtain ⟨hMem, hKept⟩ := mem_settle.mp hMsg
  exact hKept ⟨oif, mem_defaultRouteOifs.mpr ⟨msg, hMem, hVia, hScope⟩, hVia⟩

theorem settle_settle (routes : List RouteMessage) : settle (settle routes) = settle routes := by
  conv_lhs => unfold settle
  apply List.filter_eq_self.mpr
  intro msg _
  rw [show defaultRouteOifs (routes.filter _) = [] from defaultRouteOifs_settle routes]
  simp

theorem IsDefaultVia.mem_ifindexes {i : Nat} {msg : RouteMessage} (h : IsDefaultVia i msg) :
    i ∈ msg.ifindexes :=
  List.mem_flatMap.mpr ⟨.oif i, h.2, List.mem_singleton.mpr rfl⟩

variable {routes : List RouteMessage} {i : Nat}

theorem defaultRouteOifs_append_tunnel (routes : List RouteMessage) (i : Nat) :
    defaultRouteOifs (settle routes ++ [tunnelDefaultRoute i]) = [i] := by
  rw [defaultRouteOifs, List.flatMap_append]
  exact congrArg (· ++ [i]) (defaultRouteOifs_settle routes)

theorem filter_independent (hOther : ∀ route ∈ routes, i ∉ route.ifindexes) :
    (routes.filter fun route => !route.dependsOn i) = routes := by
  apply List.filter_eq_self.mpr
  intro msg hMsg
  rw [RouteMessage.dependsOn_of_notMem (hOther msg hMsg)]
  rfl

/-- The kernel drops the default route of a tunnel without addresses, and nothing else. -/
theorem drop_tunnel_routes (hOther : ∀ route ∈ routes, i ∉ route.ifindexes) :
    ((routes ++ [tunnelDefaultRoute i]).filter fun route => !route.dependsOn i) = routes := by
  have hDependent : (tunnelDefaultRoute i).dependsOn i = true := by
    simp [tunnelDefaultRoute, RouteMessage.dependsOn, RouteMessage.ifindexes]
  rw [List.filter_append, filter_independent hOther, List.filter_cons_of_neg (by simp [hDependent]),
    List.filter_nil, List.append_nil]

/-- Removing the tunnel removes its default route and nothing else. -/
theorem remove_tunnel_routes (hOther : ∀ route ∈ routes, i ∉ route.ifindexes) :
    ((routes ++ [tunnelDefaultRoute i]).filter fun msg => !IsDefaultVia i msg).filter
      (fun route => !route.dependsOn i) = routes := by
  have hVia : IsDefaultVia i (tunnelDefaultRoute i) := ⟨rfl, List.mem_singleton.mpr rfl⟩
  have hRemoved : [tunnelDefaultRoute i].filter (fun msg => !decide (IsDefaultVia i msg)) = [] := by
    simp [hVia]
  have hKept : routes.filter (fun msg => !decide (IsDefaultVia i msg)) = routes := by
    apply List.filter_eq_self.mpr
    intro msg hMsg
    have hNot : ¬ IsDefaultVia i msg := fun hMsgVia => hOther msg hMsg hMsgVia.mem_ifindexes
    simp [hNot]
  rw [List.filter_append, hRemoved, hKept, List.append_nil, filter_independent hOther]

end Routes

section Apply

variable {config : Config} {params : MapeParams} {cfg : PsidConfig} {ranges : List RangeInclusive}
  {base k : Kernel} {s : DaemonState} {w : DaemonWorld} {post : Unit → DaemonWorld → Prop}
  {stop : Failure MapEError → DaemonWorld → Prop}

theorem tunnelSpec_congr {k' : Kernel} (hUpstream : k.upstream = { k'.upstream with addrs := k.upstream.addrs })
    (config : Config) (params : MapeParams) :
    tunnelSpec config params k = tunnelSpec config params k' := by
  unfold tunnelSpec
  rw [hUpstream]

theorem Base.notMem_ifindexes (hBase : Base config base) {i : Nat} (hFresh : base.nextIfindex ≤ i) :
    ∀ route ∈ base.routes, i ∉ route.ifindexes := fun route hRoute hMem =>
  absurd (hBase.links route hRoute i hMem) (Nat.not_lt.mpr hFresh)

theorem Idle.settle_routes (hIdle : Idle base k s) : settle k.routes = settle base.routes := by
  rcases hIdle.routes with hRoutes | hRoutes
  · rw [hRoutes]
  · rw [hRoutes, settle_settle]

theorem Idle.ready (hBase : Base config base) (hIdle : Idle base k s) : Ready config k :=
  ⟨by rw [hIdle.upstream, hBase.name], hIdle.tunnel, hIdle.bpf⟩

theorem Idle.routeFree (hBase : Base config base) (hIdle : Idle base k s) : RouteFree k.routes := by
  rw [RouteFree, hIdle.settle_routes]
  exact hBase.free

/-- `apply` installs the settings; with an empty list of ranges all but the
tables. -/
theorem Idle.wp_apply (hBase : Base config base) (hIdle : Idle base k s) (h : w.IsAt k s noFaults)
    (hCe : params.ceIpv6 ∉ base.upstream.addrs) (hDerived : Derived params cfg ranges)
    (hDone : ranges ≠ [] → ∀ i b k' s' w', w'.IsAt k' s' noFaults →
      Running config base
        (settings config base params cfg (nftTables config params cfg ranges.toFinset)) i b k' s' →
      s'.inputs = s.inputs → post () w')
    (hEmpty : ranges = [] → ∀ i b k' s' w', w'.IsAt k' s' noFaults →
      Running config base (settings config base params cfg .none) i b k' s' →
      s'.inputs = s.inputs → stop (.error .emptyPortRanges) w') :
    wp (apply config params) post stop w := by
  have hSpec : tunnelSpec config params k = tunnelSpec config params base :=
    tunnelSpec_congr (by rw [hIdle.upstream]) config params
  have hRunning (tables : NftTables) (k' : Kernel)
      (hKernel : k' = ((k.forwarding.withAddr6 params.ceIpv6).linked config params cfg).withNft tables) :
      Running config base (settings config base params cfg tables) k.nextIfindex
        k.nextBpf k' ((s.saved k).linked config k) := by
    subst hKernel
    refine ⟨?_, ?_, ?_, rfl, rfl, rfl, rfl, hIdle.nextIfindex, Nat.lt_succ_self _, rfl, rfl, ?_, ?_⟩
    · change ({ k.upstream with addrs := insert params.ceIpv6 k.upstream.addrs } : UpstreamLink) = _
      rw [hIdle.upstream]
      rfl
    · rw [settings, ← hSpec]
      rfl
    · rw [← hIdle.settle_routes]
      rfl
    · exact congrArg some hIdle.ipForward
    · exact congrArg some hIdle.ipv6Forward
  apply Mapecd.wp_apply h (hIdle.ready hBase) hIdle.vacant.ebpf
  · intro cfg' ranges' _ _ hDerived' hNonempty w' h'
    obtain ⟨rfl, rfl⟩ := hDerived'.unique hDerived
    refine hDone hNonempty _ _ _ _ w' h' (hRunning _ _ ?_) rfl
    have hTables : installedTables k.nft ranges config.tunnelInterface params.brAddress
        (cfg.stagingMin, cfg.stagingMax) = nftTables config params cfg ranges.toFinset := by
      rw [hIdle.nft, ← Finset.empty_union ranges.toFinset]
      rfl
    rw [← hTables]
    rfl
  · intro f w' hWhy
    obtain ⟨hNil, rfl, h'⟩ := hWhy (by rwa [hIdle.upstream]) (hIdle.routeFree hBase) cfg ranges hDerived
    exact hEmpty hNil _ _ _ _ w' h' (hRunning .none _ (by rw [← hIdle.nft]; rfl)) rfl

/-- An `apply` that returns has found a base and installed the parameters. -/
theorem apply_ok {w' : DaemonWorld} (h : w.IsAt k s noFaults) (hPristine : Pristine config k)
    (hLinks : ∀ route ∈ k.routes, ∀ i ∈ route.ifindexes, i < k.nextIfindex) (hVacant : s.Vacant)
    (hApply : apply config params w = .ok () w') :
    Base config k ∧ params.ceIpv6 ∉ k.upstream.addrs ∧ w'.faults = noFaults ∧
      ∃ cfg ranges i b, Derived params cfg ranges ∧ ranges ≠ [] ∧
        Running config k (settings config k params cfg
          (nftTables config params cfg ranges.toFinset)) i b w'.sys w'.state := by
  have hWp : wp (apply config params)
      (fun _ w' => RouteFree k.routes ∧ params.ceIpv6 ∉ k.upstream.addrs ∧
        ∃ cfg ranges, Derived params cfg ranges ∧ ranges ≠ []) (fun _ _ => True) w := by
    apply Mapecd.wp_apply h ⟨hPristine.name, hPristine.tunnel, hPristine.bpf⟩ hVacant.ebpf
    · exact fun cfg ranges hCe hFree hDerived hNonempty _ _ =>
        ⟨hFree, hCe, cfg, ranges, hDerived, hNonempty⟩
    · exact fun _ _ _ => trivial
  obtain ⟨hFree, hCe, cfg, ranges, hDerived, hNonempty⟩ := wp_ok hWp hApply
  have hBase : Base config k := ⟨hPristine, hLinks, hFree⟩
  have hIdle : Idle k k s :=
    ⟨rfl, hPristine.tunnel, Or.inl rfl, hPristine.nft, rfl, rfl, hPristine.bpf, le_rfl, hVacant⟩
  have hInstalled : wp (apply config params)
      (fun _ w' => w'.faults = noFaults ∧ ∃ i b, Running config k
        (settings config k params cfg (nftTables config params cfg ranges.toFinset)) i b
          w'.sys w'.state) (fun _ _ => True) w := by
    apply hIdle.wp_apply hBase h hCe hDerived
    · intro _ i b k' s' w₁ h₁ hRunning _
      rw [h₁.sys, h₁.state]
      exact ⟨h₁.faults, i, b, hRunning⟩
    · exact fun _ _ _ _ _ _ _ _ _ => trivial
  obtain ⟨hFaults, i, b, hRunning⟩ := wp_ok hInstalled hApply
  exact ⟨hBase, hCe, hFaults, cfg, ranges, i, b, hDerived, hNonempty, hRunning⟩

end Apply

section Remove

variable {config : Config} {set : Settings} {i b : Nat} {base k : Kernel} {s : DaemonState}
  {w : DaemonWorld} {post : Unit → DaemonWorld → Prop}
  {stop : Failure MapEError → DaemonWorld → Prop}

theorem Running.unloaded_bpf (hRunning : Running config base set i b k s) :
    k.unloaded s = k.withBpf [] := by
  rw [Kernel.unloaded, hRunning.ebpf]
  change k.withBpf (k.bpf.filter fun obj => obj.id ≠ b) = _
  rw [hRunning.bpf, List.filter_cons_of_neg (by simp), List.filter_nil]

theorem delLink_present {tunnel : TunnelLink} (hTunnel : k.tunnel = some tunnel) :
    Kernel.delLink tunnel.ifindex k = .ok ((), k.withTunnel none
      |>.withRoutes (k.routes.filter fun route => !route.dependsOn tunnel.ifindex)
      |>.withBpf (k.bpf.map fun obj => obj.unlink tunnel.ifindex)) := by
  simp only [Kernel.delLink, hTunnel, if_true]

theorem Running.withNft (hRunning : Running config base set i b k s) (tables : NftTables) :
    Running config base (set.withTables tables) i b (k.withNft tables) s :=
  ⟨hRunning.upstream, hRunning.tunnel, hRunning.routes, rfl, hRunning.ipForward,
    hRunning.ipv6Forward, hRunning.bpf, hRunning.fresh, hRunning.nextIfindex,
    hRunning.tunnelIfindex, hRunning.ebpf, hRunning.originalIpForward,
    hRunning.originalIpv6Forward⟩

/-- The kernel without the BPF object and the tunnel. -/
theorem Running.withoutTunnel (hBase : Base config base)
    (hRunning : Running config base set i b k s) :
    (k.withBpf []).withoutTunnel i =
      ((k.withBpf []).withTunnel none).withRoutes (settle base.routes) := by
  have hOther : ∀ route ∈ settle base.routes, i ∉ route.ifindexes := fun route hRoute =>
    hBase.notMem_ifindexes hRunning.fresh route (mem_settle.mp hRoute).1
  have hRoutes := remove_tunnel_routes hOther
  rw [← hRunning.routes] at hRoutes
  rw [Kernel.withoutTunnel, outcome]
  have hDel := delLink_present (k := (k.withBpf []).withRoutes
    (k.routes.filter fun msg => !IsDefaultVia i msg)) hRunning.tunnel
  rw [Kernel.withBpf_routes, hDel]
  change ((k.withBpf []).withTunnel none).withRoutes _ = _
  exact congrArg _ hRoutes

/-- `cleanup` with the CE address in use restores the kernel, except for the
default routes and the numbers. -/
theorem Running.wp_cleanup {params : MapeParams} (hBase : Base config base)
    (hRunning : Running config base set i b k s) (hPaired : set.tables.Paired)
    (hAddrs : set.addrs.erase params.ceIpv6 = base.upstream.addrs) (h : w.IsAt k s noFaults)
    (hDone : ∀ k' s' w', w'.IsAt k' s' noFaults → Idle base k' s' →
      k'.routes = settle base.routes → s'.inputs = s.inputs → post () w') :
    wp (cleanup config params) post stop w := by
  have hName : k.upstream.name = config.upstreamInterface := by
    rw [hRunning.upstream]
    exact hBase.name
  apply Mapecd.wp_cleanup h hName (by rw [hRunning.nft]; exact hPaired)
  intro w' h'
  have hUntunneled : ((k.withNft .none).unloaded s).untunneled s =
      (((k.withBpf []).withTunnel none).withRoutes (settle base.routes)).withNft .none := by
    have hNoRules := hRunning.withNft .none
    rw [Kernel.untunneled, hRunning.tunnelIfindex, hNoRules.unloaded_bpf]
    exact hNoRules.withoutTunnel hBase
  rw [Kernel.cleaned, hUntunneled] at h'
  refine hDone _ _ w' h' ⟨?_, rfl, Or.inr rfl, rfl, ?_, ?_, rfl, ?_, ⟨rfl, rfl, rfl, rfl⟩⟩ rfl rfl
  · change ({ k.upstream with addrs := k.upstream.addrs.erase params.ceIpv6 } : UpstreamLink) = _
    rw [hRunning.upstream]
    exact congrArg (fun addrs => { base.upstream with addrs := addrs }) hAddrs
  · change s.originalIpForward.getD _ = _
    rw [hRunning.originalIpForward, Option.getD_some]
  · change s.originalIpv6Forward.getD _ = _
    rw [hRunning.originalIpv6Forward, Option.getD_some]
  · exact hRunning.fresh.trans hRunning.nextIfindex.le

end Remove

section Update

variable {config : Config} {set : Settings} {old new : MapeParams} {cfg : PsidConfig}
  {ranges : List RangeInclusive} {i b : Nat} {base k : Kernel} {s : DaemonState}
  {w : DaemonWorld} {post : Unit → DaemonWorld → Prop}
  {stop : Failure MapEError → DaemonWorld → Prop}

/-- The elements of the set stay when the tables are flushed. -/
theorem installedTables_eq (tables : NftTables) (ranges : List RangeInclusive) (config : Config)
    (params : MapeParams) (cfg : PsidConfig) :
    installedTables tables ranges config.tunnelInterface params.brAddress
      (cfg.stagingMin, cfg.stagingMax) =
        nftTables config params cfg (tables.elements ∪ ranges.toFinset) := rfl

/-- The recorded link is deleted, with it the routes through it. -/
theorem wp_removeTunnel {tunnel : TunnelLink} (h : w.IsAt k s noFaults)
    (hTunnel : k.tunnel = some tunnel) (hIfindex : s.tunnelIfindex = some tunnel.ifindex)
    (hDone : ∀ w', w'.IsAt (k.withoutTunnel tunnel.ifindex) { s with tunnelIfindex := none }
      noFaults → post () w') : wp removeTunnel post stop w := by
  unfold removeTunnel
  rw [wp_bind, wp_getState, h.state, hIfindex]
  simp only [wp_bind, wp_modifyState]
  apply wp_delIpv4DefaultRouteByOif _ h
  intro w₁ h₁
  have hDel := delLink_present (k := k.withRoutes
    (k.routes.filter fun msg => !IsDefaultVia tunnel.ifindex msg)) hTunnel
  apply wp_request_ok h₁ hDel
  intro w₂ h₂
  rw [Kernel.withoutTunnel, outcome, hDel] at hDone
  rw [h₂.state]
  exact hDone _ (h₂.withState _)

/-- A new tunnel takes the place of the old one, over the addresses that are
there. -/
theorem Running.wp_recreate (hBase : Base config base)
    (hRunning : Running config base set i b k s) (hDerived : Derived new cfg ranges)
    (hNonempty : ranges ≠ []) (h : w.IsAt k s noFaults)
    (hDone : ∀ i' b' k' s' w', w'.IsAt k' s' noFaults →
      Running config base
        { addrs := set.addrs, spec := tunnelSpec config new base, ipv4 := new.ipv4
          tables := nftTables config new cfg (set.tables.elements ∪ ranges.toFinset), cfg := cfg }
        i' b' k' s' → s'.inputs = s.inputs → post () w') :
    wp (recreateTunnelAndApply config new) post stop w := by
  have hName : k.upstream.name = config.upstreamInterface := by
    rw [hRunning.upstream]
    exact hBase.name
  have hSpec : tunnelSpec config new k = tunnelSpec config new base :=
    tunnelSpec_congr (by rw [hRunning.upstream]) config new
  unfold recreateTunnelAndApply
  simp only [wp_bind]
  apply wp_takeEbpf h
  rw [hRunning.unloaded_bpf]
  intro w₁ h₁
  apply wp_removeTunnel h₁ hRunning.tunnel hRunning.tunnelIfindex
  rw [hRunning.withoutTunnel hBase]
  intro w₂ h₂
  have hFree : RouteFree (settle base.routes) := by
    rw [RouteFree, settle_settle]
    exact hBase.free
  apply wp_steps3To6 h₂ ⟨hName, rfl, rfl⟩ rfl
  · intro cfg' ranges' _ hDerived' _ w₃ h₃
    obtain ⟨rfl, rfl⟩ := hDerived'.unique hDerived
    refine hDone k.nextIfindex k.nextBpf _ _ w₃ h₃ ?_ rfl
    refine ⟨?_, ?_, ?_, ?_, hRunning.ipForward, hRunning.ipv6Forward, rfl,
      hRunning.fresh.trans hRunning.nextIfindex.le, Nat.lt_succ_self _, rfl, rfl,
      hRunning.originalIpForward, hRunning.originalIpv6Forward⟩
    · exact hRunning.upstream
    · rw [← hSpec]
      rfl
    · change settle (settle base.routes) ++ _ = _
      rw [settle_settle]
      rfl
    · rw [← hRunning.nft, ← installedTables_eq]
      rfl
  · exact fun f w₃ hWhy => absurd (hWhy hFree cfg ranges hDerived).1 hNonempty

theorem Running.withAddrs (hRunning : Running config base set i b k s) (addrs : Finset Ipv6Addr) :
    Running config base { set with addrs := addrs } i b (k.withUpstreamAddrs addrs) s :=
  ⟨by rw [Kernel.withUpstreamAddrs, hRunning.upstream], hRunning.tunnel, hRunning.routes,
    hRunning.nft, hRunning.ipForward, hRunning.ipv6Forward, hRunning.bpf, hRunning.fresh,
    hRunning.nextIfindex, hRunning.tunnelIfindex, hRunning.ebpf, hRunning.originalIpForward,
    hRunning.originalIpv6Forward⟩

/-- Another entry of the map is the only difference. -/
theorem Running.withCfg (hRunning : Running config base set i b k s) (cfg : PsidConfig) :
    Running config base { set with cfg := cfg } i b
      (k.modifyBpf b fun obj => { obj with config := cfg }) s := by
  refine ⟨hRunning.upstream, hRunning.tunnel, hRunning.routes, hRunning.nft, hRunning.ipForward,
    hRunning.ipv6Forward, ?_, hRunning.fresh, hRunning.nextIfindex, hRunning.tunnelIfindex,
    hRunning.ebpf, hRunning.originalIpForward, hRunning.originalIpv6Forward⟩
  change k.bpf.map _ = _
  rw [hRunning.bpf]
  exact congrArg (· :: []) (if_pos rfl)

/-- The entry is written through the recorded manager. -/
theorem Running.wp_updateConfigMap (hRunning : Running config base set i b k s)
    (hDerived : Derived new cfg ranges) (h : w.IsAt k s noFaults)
    (hDone : ∀ w', w'.IsAt (k.modifyBpf b fun obj => { obj with config := cfg }) s noFaults →
      post () w') : wp (updateConfigMap new) post stop w := by
  unfold updateConfigMap
  rw [wp_bind, wp_getState, h.state, hRunning.ebpf]
  dsimp only
  rw [wp_bind, hDerived.psidConfig, wp_checked_some]
  exact wp_ignore_request h hDone

/-- With its only address the tunnel loses its default route. -/
theorem Running.delAddr4 (hBase : Base config base) (hRunning : Running config base set i b k s) :
    Kernel.delAddr4 i set.ipv4 k = .ok ((), k.withTunnel (some
        { spec := set.spec, ifindex := i, up := true, addrs := ∅ })
      |>.withRoutes (settle base.routes)) := by
  have hOther : ∀ route ∈ settle base.routes, i ∉ route.ifindexes := fun route hRoute =>
    hBase.notMem_ifindexes hRunning.fresh route (mem_settle.mp hRoute).1
  have hErase : (insert set.ipv4 (∅ : Finset Ipv4Addr)).erase set.ipv4 = ∅ :=
    Finset.erase_insert (Finset.notMem_empty _)
  have hRoutes := drop_tunnel_routes hOther
  rw [← hRunning.routes] at hRoutes
  simp only [Kernel.delAddr4, hRunning.tunnel, if_true, Finset.mem_insert_self, hErase, hRoutes,
    not_true_eq_false, if_false]

/-- The IPv4 address is exchanged on the tunnel that stays. -/
theorem Running.wp_exchangeIpv4 (hBase : Base config base)
    (hRunning : Running config base set i b k s) (hDerived : Derived new cfg ranges)
    (hNonempty : ranges ≠ []) (h : w.IsAt k s noFaults)
    (hDone : ∀ k' w', w'.IsAt k' s noFaults →
      Running config base
        { set with
          ipv4 := new.ipv4
          tables := nftTables config new cfg (set.tables.elements ∪ ranges.toFinset) }
        i b k' s → post () w') :
    wp (ignore (delIpv4Addr i set.ipv4)) (fun _ w₁ => wp (addIpv4Addr i new.ipv4) (fun _ w₂ =>
      wp (addIpv4DefaultRoute i) (fun _ w₃ => wp (applyStep6Nftables config new) post stop w₃)
        stop w₂) stop w₁) stop w := by
  apply wp_ignore_delIpv4Addr i set.ipv4 h
  rw [outcome, hRunning.delAddr4 hBase]
  intro w₁ h₁
  apply wp_request_ok h₁ (newAddr4_ok rfl (Finset.notMem_empty _))
  intro w₂ h₂
  have hFree : RouteFree (settle base.routes) := by
    rw [RouteFree, settle_settle]
    exact hBase.free
  apply wp_addIpv4DefaultRoute h₂ (hasLink_tunnel rfl) _ fun hTaken => absurd hFree hTaken
  intro _ w₃ h₃
  apply wp_applyStep6Nftables h₃ hDerived.ranges hDerived.psidConfig
  · exact fun hNil => absurd hNil hNonempty
  · exact fun hFaults => absurd rfl hFaults
  · intro _ w₄ h₄
    refine hDone _ w₄ h₄ ⟨hRunning.upstream, rfl, ?_, ?_, hRunning.ipForward, hRunning.ipv6Forward,
      hRunning.bpf, hRunning.fresh, hRunning.nextIfindex, hRunning.tunnelIfindex, hRunning.ebpf,
      hRunning.originalIpForward, hRunning.originalIpv6Forward⟩
    · change settle (settle base.routes) ++ _ = _
      rw [settle_settle]
    · rw [← hRunning.nft, ← installedTables_eq]
      rfl

/-- `update` installs the settings of `new`, but the set of port ranges keeps
the ranges of `old`. -/
theorem Running.wp_update (hBase : Base config base) {cfg₀ : PsidConfig} {tables : NftTables}
    (hRunning : Running config base (settings config base old cfg₀ tables) i b k s)
    (hOldCe : old.ceIpv6 ∉ base.upstream.addrs) (hNewCe : new.ceIpv6 ∉ base.upstream.addrs)
    (hDerived : Derived new cfg ranges) (hNonempty : ranges ≠ []) (h : w.IsAt k s noFaults)
    (hDone : ∀ i' b' k' s' w', w'.IsAt k' s' noFaults →
      Running config base (settings config base new cfg
        (nftTables config new cfg (tables.elements ∪ ranges.toFinset))) i' b' k' s' →
      s'.inputs = s.inputs → post () w') :
    wp (update config old new) post stop w := by
  -- every branch ends with the settings of `new` but for the record of the BPF programs
  have hMap (cfg' : PsidConfig) (i' b' : Nat) (k' : Kernel) (s' : DaemonState) (w' : DaemonWorld)
      (h' : w'.IsAt k' s' noFaults)
      (hRunning' : Running config base { settings config base new cfg
        (nftTables config new cfg (tables.elements ∪ ranges.toFinset)) with cfg := cfg' } i' b' k' s')
      (hInputs : s'.inputs = s.inputs) : wp (updateConfigMap new) post stop w' := by
    apply hRunning'.wp_updateConfigMap hDerived h'
    exact fun w₁ h₁ => hDone i' b' _ s' w₁ h₁ (hRunning'.withCfg cfg) hInputs
  have hName : k.upstream.name = config.upstreamInterface := by
    rw [hRunning.upstream]
    exact hBase.name
  unfold update
  split_ifs with hCe hBr hIpv4
  · have hErase : k.upstream.addrs.erase old.ceIpv6 = base.upstream.addrs := by
      rw [hRunning.upstream]
      exact Finset.erase_insert hOldCe
    unfold getLinkIndex findLinkByName
    simp only [wp_bind, ← hName]
    apply wp_request_ok h (getLink_upstream k)
    intro w₁ h₁
    apply wp_ignore_request h₁
    rw [outcome_delAddr6, hErase]
    intro w₂ h₂
    apply wp_request_ok h₂ (newAddr6_notMem hNewCe)
    intro w₃ h₃
    apply (hRunning.withAddrs (insert new.ceIpv6 base.upstream.addrs)).wp_recreate hBase hDerived
      hNonempty h₃
    exact hMap cfg
  · rw [not_not] at hCe
    rw [wp_bind]
    apply hRunning.wp_recreate hBase hDerived hNonempty h
    intro i' b' k' s' w' h' hRunning'
    refine hMap cfg i' b' k' s' w' h' ?_
    rw [settings, ← hCe]
    exact hRunning'
  · rw [not_not] at hCe hBr
    have hSpec : tunnelSpec config old base = tunnelSpec config new base := by
      rw [tunnelSpec, hCe, hBr, tunnelSpec]
    simp only [wp_bind, recordedTunnel, wp_getState, h.state, hRunning.tunnelIfindex, wp_pure]
    apply hRunning.wp_exchangeIpv4 hBase hDerived hNonempty h
    intro k' w' h' hRunning'
    refine hMap cfg₀ i b k' s w' h' ?_ rfl
    rw [settings, ← hCe, ← hSpec]
    exact hRunning'
  · rw [not_not] at hCe hBr hIpv4
    have hSpec : tunnelSpec config old base = tunnelSpec config new base := by
      rw [tunnelSpec, hCe, hBr, tunnelSpec]
    rw [wp_bind]
    apply wp_applyStep6Nftables h hDerived.ranges hDerived.psidConfig
    · exact fun hNil => absurd hNil hNonempty
    · exact fun hFaults => absurd rfl hFaults
    · intro _ w' h'
      refine hMap cfg₀ i b _ s w' h' ?_ rfl
      rw [stagingRange, installedTables_eq, hRunning.nft, settings, ← hCe, ← hSpec, ← hIpv4]
      exact hRunning.withNft _

end Update

end Mapecd
