import Mapecd.Daemon.PathIndependence
import Mapecd.Semantics.History
import Mapecd.Semantics.Keeping

/-! What the daemon never touches, whatever events arrive and whatever fails: the
upstream link, addresses other than its own, routes other than default routes,
and BPF objects of others. -/
namespace Mapecd

open Effects Checked

/-- No tunnel is there yet, and the numbers in use have been handed out before. -/
structure Undisturbed (config : Config) (base : Kernel) : Prop where
  name : base.upstream.name = config.upstreamInterface
  tunnel : base.tunnel = none
  links : ∀ route ∈ base.routes, ∀ i ∈ route.ifindexes, i < base.nextIfindex
  objects : ∀ obj ∈ base.bpf, obj.id < base.nextBpf ∧
    ∀ attachType, ∀ i ∈ obj.attached attachType, i < base.nextIfindex

/-- A route that is not a default route. -/
def RouteMessage.specific (route : RouteMessage) : Bool := route.destinationPrefixLength ≠ 0

/-- `k` differs from `base` in the addresses of `A`, in default routes, in a tunnel
with a new index, in new BPF objects and in sysctls that are set to one. -/
structure Foreign (config : Config) (A : Set Ipv6Addr) (base k : Kernel) : Prop where
  upstream : k.upstream = { base.upstream with addrs := k.upstream.addrs }
  addrs : ∀ addr, addr ∉ A → (addr ∈ k.upstream.addrs ↔ addr ∈ base.upstream.addrs)
  routes : k.routes.filter RouteMessage.specific = base.routes.filter RouteMessage.specific
  added : ∀ route ∈ k.routes, route ∈ base.routes ∨
    ∃ i, base.nextIfindex ≤ i ∧ route = tunnelDefaultRoute i
  bpf : k.bpf.filter (fun obj => obj.id < base.nextBpf) = base.bpf
  tunnel : ∀ tunnel ∈ k.tunnel, tunnel.spec.name = config.tunnelInterface ∧
    base.nextIfindex ≤ tunnel.ifindex
  ipForward : k.ipForward = base.ipForward ∨ k.ipForward = "1"
  ipv6Forward : k.ipv6Forward = base.ipv6Forward ∨ k.ipv6Forward = "1"
  nextIfindex : base.nextIfindex ≤ k.nextIfindex
  nextBpf : base.nextBpf ≤ k.nextBpf

/-- What the daemon has recorded is its own. -/
structure Owned (A : Set Ipv6Addr) (base : Kernel) (s : DaemonState) : Prop where
  params : ∀ params ∈ s.params, params.ceIpv6 ∈ A
  tunnel : ∀ i ∈ s.tunnelIfindex, base.nextIfindex ≤ i
  ebpf : ∀ manager ∈ s.ebpf, base.nextBpf ≤ manager.id
  ipForward : ∀ value ∈ s.originalIpForward, value = base.ipForward ∨ value = "1"
  ipv6Forward : ∀ value ∈ s.originalIpv6Forward, value = base.ipv6Forward ∨ value = "1"

variable {config : Config} {A : Set Ipv6Addr} {base : Kernel}

section Operations

variable {k k' : Kernel}

/-- Erasing what the filter drops anyway. -/
theorem filter_erase_of_false {α : Type} [DecidableEq α] {p : α → Bool} {x : α} {l : List α}
    (h : p x = false) : (l.erase x).filter p = l.filter p := by
  induction l with
  | nil => rfl
  | cons y l ih =>
      rw [List.erase_cons]
      split_ifs with hSame
      · rw [List.filter_cons_of_neg (by rw [eq_of_beq hSame, h]; decide)]
      · rw [List.filter_cons, List.filter_cons, ih]

/-- At the start nothing has been touched. -/
theorem Undisturbed.foreign (hBase : Undisturbed config base) : Foreign config A base base where
  upstream := rfl
  addrs _ _ := Iff.rfl
  routes := rfl
  added _ hRoute := Or.inl hRoute
  bpf := List.filter_eq_self.mpr fun obj hObj => decide_eq_true (hBase.objects obj hObj).1
  tunnel := by
    rw [hBase.tunnel]
    exact fun _ hNone => by cases hNone
  ipForward := Or.inl rfl
  ipv6Forward := Or.inl rfl
  nextIfindex := le_rfl
  nextBpf := le_rfl

namespace Foreign

variable (h : Foreign config A base k)
include h

theorem writeSysctl {sysctl : Sysctl} {value : String}
    (hValue : match sysctl with
      | .ipv4Forward => value = base.ipForward ∨ value = "1"
      | .ipv6ForwardAll => value = base.ipv6Forward ∨ value = "1")
    (hOp : Kernel.writeSysctl sysctl value k = .ok ((), k')) : Foreign config A base k' := by
  cases sysctl with
  | ipv4Forward =>
      cases hOp
      exact { h with ipForward := hValue }
  | ipv6ForwardAll =>
      cases hOp
      exact { h with ipv6Forward := hValue }

theorem withUpstreamAddrs {addrs : Finset Ipv6Addr}
    (hAddrs : ∀ addr, addr ∉ A → (addr ∈ addrs ↔ addr ∈ k.upstream.addrs)) :
    Foreign config A base (k.withUpstreamAddrs addrs) := by
  have hUpstream : ({ k.upstream with addrs := addrs } : UpstreamLink) =
      { base.upstream with addrs := addrs } := by
    rw [h.upstream]
  exact { h with
    upstream := hUpstream
    addrs := fun addr hOther => (hAddrs addr hOther).trans (h.addrs addr hOther) }

theorem newAddr6 {ifindex : Nat} {addr : Ipv6Addr} (hAddr : addr ∈ A)
    (hOp : Kernel.newAddr6 ifindex addr k = .ok ((), k')) : Foreign config A base k' := by
  unfold Kernel.newAddr6 at hOp
  split_ifs at hOp
  cases hOp
  apply h.withUpstreamAddrs
  intro other hOther
  rw [Finset.mem_insert]
  exact or_iff_right fun hSame => hOther (hSame ▸ hAddr)

theorem delAddr6 {ifindex : Nat} {addr : Ipv6Addr} (hAddr : addr ∈ A)
    (hOp : Kernel.delAddr6 ifindex addr k = .ok ((), k')) : Foreign config A base k' := by
  unfold Kernel.delAddr6 at hOp
  split_ifs at hOp
  cases hOp
  apply h.withUpstreamAddrs
  intro other hOther
  rw [Finset.mem_erase]
  exact and_iff_right fun hSame => hOther (hSame ▸ hAddr)

theorem tunnelAddrs (hOp : Kernel.TunnelAddrsChange k k') : Foreign config A base k' := by
  rcases hOp with rfl | ⟨tunnel, up, addrs, hTunnel, rfl⟩
  · exact h
  · have hOwn := h.tunnel tunnel hTunnel
    refine { h with tunnel := ?_ }
    rintro _ ⟨⟩
    exact hOwn

theorem newLink {spec : Ip6tnl} (hName : spec.name = config.tunnelInterface)
    (hOp : Kernel.newLink spec k = .ok ((), k')) : Foreign config A base k' := by
  unfold Kernel.newLink at hOp
  split_ifs at hOp
  cases hOp
  have hNext : base.nextIfindex ≤ k.nextIfindex + 1 := Nat.le_succ_of_le h.nextIfindex
  refine { h with tunnel := ?_, nextIfindex := hNext }
  rintro _ ⟨⟩
  exact ⟨hName, h.nextIfindex⟩

theorem setLinkUp {ifindex : Nat} (hOp : Kernel.setLinkUp ifindex k = .ok ((), k')) :
    Foreign config A base k' := by
  unfold Kernel.setLinkUp at hOp
  split at hOp
  · rename_i tunnel hTunnel
    split_ifs at hOp
    cases hOp
    exact h.tunnelAddrs (Or.inr ⟨tunnel, true, tunnel.addrs, hTunnel, rfl⟩)
  · cases hOp

/-- Routes that go elsewhere do not depend on a new link. -/
theorem specific_independent (hBase : Undisturbed config base) {tunnel : TunnelLink}
    (hTunnel : k.tunnel = some tunnel) :
    (k.routes.filter fun route => !route.dependsOn tunnel.ifindex).filter RouteMessage.specific =
      k.routes.filter RouteMessage.specific := by
  rw [List.filter_filter]
  apply List.filter_congr
  intro route hRoute
  cases hSpecific : route.specific with
  | false => rfl
  | true =>
      have hMem : route ∈ base.routes.filter RouteMessage.specific := by
        rw [← h.routes]
        exact List.mem_filter.mpr ⟨hRoute, hSpecific⟩
      have hElsewhere : tunnel.ifindex ∉ route.ifindexes := fun hIfindex =>
        absurd (hBase.links route (List.mem_filter.mp hMem).1 _ hIfindex)
          (Nat.not_lt.mpr (h.tunnel tunnel hTunnel).2)
      rw [RouteMessage.dependsOn_of_notMem hElsewhere]
      rfl

/-- The routes that go with the address are those of the tunnel. -/
theorem delAddr4 (hBase : Undisturbed config base) (hOp : Kernel.DelAddr4Change k k') :
    Foreign config A base k' := by
  rcases hOp with hAddrs | ⟨tunnel, hTunnel, rfl⟩
  · exact h.tunnelAddrs hAddrs
  · have hOwn := h.tunnel tunnel hTunnel
    refine { h with
      routes := (h.specific_independent hBase hTunnel).trans h.routes
      added := fun route hRoute => h.added route (List.mem_filter.mp hRoute).1
      tunnel := ?_ }
    rintro _ ⟨⟩
    exact hOwn

/-- Neither do objects of others. -/
theorem delLink (hBase : Undisturbed config base) {ifindex : Nat}
    (hOp : Kernel.delLink ifindex k = .ok ((), k')) : Foreign config A base k' := by
  unfold Kernel.delLink at hOp
  split at hOp
  · rename_i tunnel hTunnel
    split_ifs at hOp with hIndex
    cases hOp
    have hFresh : base.nextIfindex ≤ ifindex := hIndex ▸ (h.tunnel tunnel hTunnel).2
    have hUnlink (obj : BpfObject) (hObj : obj ∈ base.bpf) : obj.unlink ifindex = obj := by
      have hNe (attachType : TcAttachType) : obj.attached attachType ≠ some ifindex := fun hAttached =>
        absurd ((hBase.objects obj hObj).2 attachType ifindex hAttached) (Nat.not_lt.mpr hFresh)
      have hEgress : obj.egress ≠ some ifindex := hNe .egress
      have hIngress : obj.ingress ≠ some ifindex := hNe .ingress
      rw [BpfObject.unlink, if_neg hEgress, if_neg hIngress]
    have hRoutes : (k.routes.filter fun route => !route.dependsOn ifindex).filter
        RouteMessage.specific = base.routes.filter RouteMessage.specific := by
      rw [← hIndex, h.specific_independent hBase hTunnel, h.routes]
    have hBpf : (k.bpf.map fun obj => obj.unlink ifindex).filter
        (fun obj => obj.id < base.nextBpf) = base.bpf := by
      have hId : (fun obj : BpfObject => decide (obj.id < base.nextBpf)) ∘
          (fun obj : BpfObject => obj.unlink ifindex) =
            fun obj => decide (obj.id < base.nextBpf) := rfl
      rw [List.filter_map, hId, h.bpf, List.map_congr_left hUnlink, List.map_id']
    refine { h with routes := hRoutes, added := ?_, bpf := hBpf, tunnel := ?_ }
    · exact fun route hRoute => h.added route (List.mem_filter.mp hRoute).1
    · rintro _ ⟨⟩
  · cases hOp

/-- A routing table is fine if its specific routes are those from before and each added
one is a default route through an own tunnel. -/
theorem withRoutes {routes : List RouteMessage}
    (hRoutes : routes.filter RouteMessage.specific = k.routes.filter RouteMessage.specific)
    (hAdded : ∀ route ∈ routes, route ∈ k.routes ∨
      ∃ i, base.nextIfindex ≤ i ∧ route = tunnelDefaultRoute i) :
    Foreign config A base (k.withRoutes routes) :=
  { h with
    routes := hRoutes.trans h.routes
    added := fun route hRoute => (hAdded route hRoute).elim (h.added route) Or.inr }

/-- Only default routes are deleted. -/
theorem delRoute {route : RouteMessage} (hDefault : route.destinationPrefixLength = 0)
    (hOp : Kernel.delRoute route k = .ok ((), k')) : Foreign config A base k' := by
  unfold Kernel.delRoute at hOp
  split_ifs at hOp
  cases hOp
  apply h.withRoutes
  · exact filter_erase_of_false (by simp [RouteMessage.specific, hDefault])
  · exact fun other hOther => Or.inl (List.mem_of_mem_erase hOther)

theorem newDefaultRoute {oif : Nat} (hFresh : base.nextIfindex ≤ oif)
    (hOp : Kernel.newDefaultRoute oif (tunnelDefaultRoute oif) k = .ok ((), k')) :
    Foreign config A base k' := by
  unfold Kernel.newDefaultRoute at hOp
  split_ifs at hOp
  cases hOp
  apply h.withRoutes
  · rw [List.filter_append]
    exact List.append_nil _
  · intro route hRoute
    rcases List.mem_append.mp hRoute with hRoute | hRoute
    · exact Or.inl hRoute
    · exact Or.inr ⟨oif, hFresh, List.mem_singleton.mp hRoute⟩

theorem withBpf {bpf : List BpfObject}
    (hBpf : bpf.filter (fun obj => obj.id < base.nextBpf) =
      k.bpf.filter fun obj => obj.id < base.nextBpf) : Foreign config A base (k.withBpf bpf) :=
  { h with bpf := hBpf.trans h.bpf }

/-- New objects get numbers that no object from before has. -/
theorem loadBpf {id : Nat} (hOp : Kernel.loadBpf k = .ok (id, k')) :
    Foreign config A base k' ∧ base.nextBpf ≤ id := by
  cases hOp
  refine ⟨?_, h.nextBpf⟩
  have hNext : base.nextBpf ≤ k.nextBpf + 1 := Nat.le_succ_of_le h.nextBpf
  have hNew : ¬ k.nextBpf < base.nextBpf := Nat.not_lt.mpr h.nextBpf
  have hBpf (obj : BpfObject) (hId : obj.id = k.nextBpf) :
      (k.bpf ++ [obj]).filter (fun obj => obj.id < base.nextBpf) =
        k.bpf.filter fun obj => obj.id < base.nextBpf := by
    rw [List.filter_append, List.filter_cons_of_neg (by simpa [hId] using hNew)]
    exact List.append_nil _
  exact { h.withBpf (hBpf _ rfl) with nextBpf := hNext }

/-- A change of one of the daemon's own objects. -/
theorem bpfObject {id : Nat} (hOwn : base.nextBpf ≤ id) (hOp : Kernel.BpfObjectChange id k k') :
    Foreign config A base k' := by
  obtain ⟨f, hId, rfl⟩ := hOp
  apply h.withBpf
  have hOther (obj : BpfObject) (hObj : obj ∈ k.bpf.filter fun obj => obj.id < base.nextBpf) :
      (if obj.id = id then f obj else obj) = obj := by
    have hOld := of_decide_eq_true (List.mem_filter.mp hObj).2
    exact if_neg fun hSame => absurd (hSame ▸ hOld) (Nat.not_lt.mpr hOwn)
  have hIds : (fun obj : BpfObject => decide (obj.id < base.nextBpf)) ∘
      (fun obj => if obj.id = id then f obj else obj) = fun obj => decide (obj.id < base.nextBpf) := by
    funext obj
    rw [Function.comp_apply]
    split_ifs
    · rw [hId]
    · rfl
  rw [List.filter_map, hIds, List.map_congr_left hOther, List.map_id']

theorem dropBpf {id : Nat} (hOwn : base.nextBpf ≤ id) : Foreign config A base (k.dropBpf id) := by
  apply h.withBpf
  rw [List.filter_filter]
  apply List.filter_congr
  intro obj _
  by_cases hOld : obj.id < base.nextBpf
  · have hOther : obj.id ≠ id := (hOld.trans_le hOwn).ne
    simp [hOld, hOther]
  · simp [hOld]

theorem withNft (tables : NftTables) : Foreign config A base (k.withNft tables) := { h with }

theorem withRulesCache (cache : Option (List MapRule)) :
    Foreign config A base (k.withRulesCache cache) := { h with }

/-- What is read can be restored later: it is the value from before the start or 1. -/
theorem readSysctl {sysctl : Sysctl} {value : String}
    (hOp : Kernel.readSysctl sysctl k = .ok (value, k')) : Foreign config A base k' ∧
      match sysctl with
      | .ipv4Forward => value = base.ipForward ∨ value = "1"
      | .ipv6ForwardAll => value = base.ipv6Forward ∨ value = "1" := by
  cases sysctl with
  | ipv4Forward =>
      cases hOp
      exact ⟨h, h.ipForward⟩
  | ipv6ForwardAll =>
      cases hOp
      exact ⟨h, h.ipv6Forward⟩

/-- The link that has the name of the tunnel is the daemon's. -/
theorem getLink_tunnel (hBase : Undisturbed config base) {msg : LinkMessage}
    (hOp : Kernel.getLink config.tunnelInterface k = .ok (msg, k')) :
    Foreign config A base k' ∧ base.nextIfindex ≤ msg.index := by
  have hName : k.upstream.name ≠ config.tunnelInterface := by
    rw [h.upstream, hBase.name]
    exact config.interfaces_ne
  unfold Kernel.getLink at hOp
  rw [if_neg hName] at hOp
  split at hOp
  · rename_i tunnel hTunnel
    split_ifs at hOp
    cases hOp
    exact ⟨h, (h.tunnel tunnel hTunnel).2⟩
  · cases hOp

end Foreign

end Operations

section Programs

/-- `x` leaves everything of others alone. -/
abbrev Spares {α : Type} (config : Config) (A : Set Ipv6Addr) (base : Kernel) (Q : α → Prop)
    (x : DaemonM α) : Prop := Keeps (Foreign config A base) (Owned A base) Q x

theorem request_spares {α : Type} {toError : Option Errno → MapEError}
    {op : Operation Kernel Errno α} {Q : α → Prop}
    (h : ∀ k a k', Foreign config A base k → op k = .ok (a, k') → Foreign config A base k' ∧ Q a) :
    Spares config A base Q (request toError op) := Keeps.mapErr (Keeps.issue h)

theorem steps_spares {α : Type} {x : DaemonM α} (hx : Steps Kernel.Unchanged x) :
    Spares config A base (fun _ => True) x := by
  apply hx.keeps
  rintro k _ hk rfl
  exact hk

theorem tunnelAddrs_spares {α : Type} {x : DaemonM α} (hx : Steps Kernel.TunnelAddrsChange x) :
    Spares config A base (fun _ => True) x := hx.keeps fun _ _ hk hR => hk.tunnelAddrs hR

theorem nft_spares {α : Type} {x : DaemonM α} (hx : Steps Kernel.NftChange x) :
    Spares config A base (fun _ => True) x := by
  apply hx.keeps
  rintro k _ hk ⟨tables, -, rfl⟩
  exact hk.withNft tables

theorem getLinkIndex_spares (name : String) :
    Spares config A base (fun _ => True) (getLinkIndex name) := steps_spares (getLinkIndex_steps name)

/-- A recorded index is one that was handed out after the start. -/
theorem recordedTunnel_spares (operation : String) :
    Spares config A base (fun i => base.nextIfindex ≤ i) (recordedTunnel operation) := by
  refine Keeps.bind Keeps.getState fun state hOwned => ?_
  have hTunnel := hOwned.tunnel
  cases hIndex : state.tunnelIfindex with
  | none => exact Keeps.fail _
  | some i =>
      rw [hIndex] at hTunnel
      exact Keeps.pure (hTunnel i rfl)

/-- What cleanup will write back is the value before the start, or one. -/
theorem applyStep1Sysctl_spares : Spares config A base (fun _ => True) applyStep1Sysctl := by
  refine Keeps.bind (request_spares fun k value k' hk => hk.readSysctl) fun ipv4 hIpv4 => ?_
  refine Keeps.bind (R := fun _ => True) (Keeps.modifyState ?_ trivial) fun _ _ => ?_
  · intro s hs
    refine { hs with ipForward := ?_ }
    rintro _ ⟨⟩
    exact hIpv4
  refine Keeps.bind (request_spares fun k value k' hk hOp =>
    ⟨hk.writeSysctl (Or.inr rfl) hOp, trivial⟩) fun _ (_ : True) => ?_
  refine Keeps.bind (request_spares fun k value k' hk => hk.readSysctl) fun ipv6 hIpv6 => ?_
  refine Keeps.bind (R := fun _ => True) (Keeps.modifyState ?_ trivial) fun _ _ => ?_
  · intro s hs
    refine { hs with ipv6Forward := ?_ }
    rintro _ ⟨⟩
    exact hIpv6
  exact request_spares fun k value k' hk hOp => ⟨hk.writeSysctl (Or.inr rfl) hOp, trivial⟩

theorem addIpv6Addr_spares {ifindex : Nat} {addr : Ipv6Addr} (hAddr : addr ∈ A) :
    Spares config A base (fun _ => True) (addIpv6Addr ifindex addr) :=
  request_spares fun _ _ _ hk hOp => ⟨hk.newAddr6 hAddr hOp, trivial⟩

theorem delIpv6Addr_spares {ifindex : Nat} {addr : Ipv6Addr} (hAddr : addr ∈ A) :
    Spares config A base (fun _ => True) (delIpv6Addr ifindex addr) :=
  request_spares fun _ _ _ hk hOp => ⟨hk.delAddr6 hAddr hOp, trivial⟩

/-- Each deleted route is one of the listed default routes. -/
theorem delIpv4DefaultRouteByOif_spares (oif : Nat) :
    Spares config A base (fun _ => True) (delIpv4DefaultRouteByOif oif) := by
  refine Keeps.bind (steps_spares (request_steps fun _ _ _ => Kernel.getRoutes_unchanged))
    fun routes _ => ?_
  apply Keeps.forM trivial
  intro route hRoute
  have hDefault := of_decide_eq_true (List.mem_filter.mp hRoute).2
  exact request_spares fun k _ k' hk hOp => ⟨hk.delRoute hDefault.1 hOp, trivial⟩

theorem addIpv4DefaultRoute_spares {oif : Nat} (hFresh : base.nextIfindex ≤ oif) :
    Spares config A base (fun _ => True) (addIpv4DefaultRoute oif) := by
  refine Keeps.bind (steps_spares getIpv4DefaultRoutes_steps) fun existing _ => ?_
  refine Keeps.bind (Keeps.forM trivial existing fun i _ =>
    Keeps.ignore (delIpv4DefaultRouteByOif_spares i) trivial) fun _ (_ : True) => ?_
  exact request_spares fun k _ k' hk hOp => ⟨hk.newDefaultRoute hFresh hOp, trivial⟩

theorem setConfigMap_spares {id : Nat} (hOwn : base.nextBpf ≤ id) (cfg : PsidConfig) :
    Spares config A base (fun _ => True) (EbpfManager.setConfigMap id cfg) :=
  (setConfigMap_steps id cfg).keeps fun _ _ hk hR => hk.bpfObject hOwn hR

/-- The object that is dropped on an error is the own one. -/
theorem orDrop_spares {α : Type} {Q : α → Prop} {id : Nat} (hOwn : base.nextBpf ≤ id) {x : DaemonM α}
    (hx : Spares config A base Q x) : Spares config A base Q (orDrop id x) := by
  refine Keeps.bind hx.attempt fun result hResult => ?_
  cases result with
  | ok a => exact Keeps.pure (hResult a rfl)
  | error e =>
      refine Keeps.bind (R := fun _ => True) (Keeps.internal ?_ trivial) fun _ _ => Keeps.fail e
      exact fun k hk => hk.dropBpf hOwn

theorem load_spares (cfg : PsidConfig) :
    Spares config A base (fun manager => base.nextBpf ≤ manager.id) (EbpfManager.load cfg) := by
  refine Keeps.bind (request_spares fun k id k' hk => hk.loadBpf) fun id hOwn => ?_
  exact Keeps.bind (orDrop_spares hOwn (setConfigMap_spares hOwn cfg)) fun _ _ => Keeps.pure hOwn

/-- Attaching changes the own object only. -/
theorem linkTc_spares {manager : EbpfManager} (hOwn : base.nextBpf ≤ manager.id) (interface : String) :
    Spares config A base (fun linked => base.nextBpf ≤ linked.id) (manager.linkTc interface) := by
  have hChange {α : Type} {x : DaemonM α} (hx : Steps (Kernel.BpfObjectChange manager.id) x) :
      Spares config A base (fun _ => True) x := hx.keeps fun _ _ hk hR => hk.bpfObject hOwn hR
  have hSame {α : Type} {toError : Option Errno → MapEError} {op : Operation Kernel Errno α}
      (hOp : ∀ k a k', op k = .ok (a, k') → Kernel.Unchanged k k') :
      Spares config A base (fun _ => True) (request toError op) := steps_spares (request_steps hOp)
  refine Keeps.bind (R := fun _ => True)
    (Keeps.ignore (hSame fun _ _ _ => Kernel.addClsact_unchanged) trivial) fun _ _ => ?_
  refine Keeps.bind (hSame fun _ _ _ => Kernel.loadProgram_unchanged) fun _ _ => ?_
  refine Keeps.bind (hChange (request_steps fun _ _ _ => Kernel.attachTc_change)) fun _ _ => ?_
  refine Keeps.bind (hSame fun _ _ _ => Kernel.loadProgram_unchanged) fun _ _ => ?_
  refine Keeps.bind (hChange (request_steps fun _ _ _ => Kernel.attachTc_change)) fun _ _ => ?_
  exact Keeps.pure hOwn

theorem storeEbpf_spares {manager : EbpfManager} (hOwn : base.nextBpf ≤ manager.id) :
    Spares config A base (fun _ => True) (storeEbpf manager) := by
  have hStore : Spares config A base (fun _ => True)
      (modifyState fun state => { state with ebpf := some manager }) := by
    refine Keeps.modifyState (fun s hs => { hs with ebpf := ?_ }) trivial
    rintro _ ⟨⟩
    exact hOwn
  refine Keeps.bind Keeps.getState fun state hOwned => ?_
  have hEbpf := hOwned.ebpf
  cases hManager : state.ebpf with
  | none => exact hStore
  | some old =>
      rw [hManager] at hEbpf
      exact Keeps.bind (R := fun _ => True)
        (Keeps.internal (fun k hk => hk.dropBpf (hEbpf old rfl)) trivial) fun _ _ => hStore

theorem applyStep5_5Ebpf_spares (params : MapeParams) :
    Spares config A base (fun _ => True) (applyStep5_5Ebpf config params) := by
  refine Keeps.bind (R := fun _ => True) (Keeps.checked fun _ _ => trivial) fun result _ => ?_
  have hConfig : Spares config A base (fun _ => True) (ofExcept result) := by
    cases result with
    | ok _ => exact Keeps.pure trivial
    | error e => exact Keeps.fail e
  refine Keeps.bind hConfig fun cfg _ => ?_
  refine Keeps.bind (load_spares cfg) fun ebpf hOwn => ?_
  refine Keeps.bind (orDrop_spares hOwn (linkTc_spares hOwn _)) fun linked hLinked => ?_
  exact storeEbpf_spares hLinked

theorem applyStep6Nftables_spares (params : MapeParams) :
    Spares config A base (fun _ => True) (applyStep6Nftables config params) := by
  refine Keeps.bind (R := fun _ => True) (Keeps.checked fun _ _ => trivial) fun _ _ => ?_
  refine Keeps.bind (R := fun _ => True) (Keeps.checked fun _ _ => trivial) fun _ _ => ?_
  exact nft_spares (applyRuleset_steps _ _ _ _)

/-- The manager that is taken names an own object. -/
theorem takeEbpf_spares : Spares config A base (fun _ => True) takeEbpf := by
  refine Keeps.bind Keeps.getState fun state hOwned => ?_
  have hEbpf := hOwned.ebpf
  cases hManager : state.ebpf with
  | none => exact Keeps.pure trivial
  | some manager =>
      rw [hManager] at hEbpf
      have hOwn := hEbpf manager rfl
      refine Keeps.bind (R := fun _ => True) (Keeps.modifyState ?_ trivial) fun _ _ => ?_
      · intro s hs
        refine { hs with ebpf := ?_ }
        rintro _ ⟨⟩
      refine Keeps.bind (R := fun _ => True) (Keeps.ignore
        ((unlinkTc_steps manager).keeps fun _ _ hk hR => hk.bpfObject hOwn hR) trivial) fun _ _ => ?_
      exact Keeps.internal (fun k hk => hk.dropBpf hOwn) trivial

theorem updateConfigMap_spares (new : MapeParams) :
    Spares config A base (fun _ => True) (updateConfigMap new) := by
  refine Keeps.bind Keeps.getState fun state hOwned => ?_
  have hEbpf := hOwned.ebpf
  cases hManager : state.ebpf with
  | none => exact Keeps.pure trivial
  | some manager =>
      rw [hManager] at hEbpf
      refine Keeps.bind (R := fun _ => True) (Keeps.checked fun _ _ => trivial) fun result _ => ?_
      cases result with
      | ok cfg => exact Keeps.ignore (setConfigMap_spares (hEbpf manager rfl) cfg) trivial
      | error _ => exact Keeps.pure trivial

theorem forgetTunnel_spares : Spares config A base (fun _ => True)
    (modifyState fun state => { state with tunnelIfindex := none }) := by
  refine Keeps.modifyState (fun s hs => { hs with tunnel := ?_ }) trivial
  rintro _ ⟨⟩

theorem restoreSysctl_spares {sysctl : Sysctl} {value : String}
    (hValue : match sysctl with
      | .ipv4Forward => value = base.ipForward ∨ value = "1"
      | .ipv6ForwardAll => value = base.ipv6Forward ∨ value = "1") :
    Spares config A base (fun _ => True) (ignore (writeSysctl sysctl value)) :=
  Keeps.ignore (request_spares fun _ _ _ hk hOp => ⟨hk.writeSysctl hValue hOp, trivial⟩) trivial

theorem cleanupSysctl_spares : Spares config A base (fun _ => True) cleanupSysctl := by
  have hIpv6 : Spares config A base (fun _ => True) restoreIpv6Forward := by
    refine Keeps.bind Keeps.getState fun state hOwned => ?_
    have hForward := hOwned.ipv6Forward
    cases hValue : state.originalIpv6Forward with
    | none => exact Keeps.pure trivial
    | some value =>
        rw [hValue] at hForward
        refine Keeps.bind (R := fun _ => True) (Keeps.modifyState ?_ trivial) fun _ _ =>
          restoreSysctl_spares (hForward value rfl)
        intro s hs
        refine { hs with ipv6Forward := ?_ }
        rintro _ ⟨⟩
  have hIpv4 : Spares config A base (fun _ => True) restoreIpForward := by
    refine Keeps.bind Keeps.getState fun state hOwned => ?_
    have hForward := hOwned.ipForward
    cases hValue : state.originalIpForward with
    | none => exact Keeps.pure trivial
    | some value =>
        rw [hValue] at hForward
        refine Keeps.bind (R := fun _ => True) (Keeps.modifyState ?_ trivial) fun _ _ =>
          restoreSysctl_spares (hForward value rfl)
        intro s hs
        refine { hs with ipForward := ?_ }
        rintro _ ⟨⟩
  exact Keeps.bind hIpv6 fun _ _ => hIpv4

theorem cleanupAddr6_spares {params : MapeParams} (hCe : params.ceIpv6 ∈ A) :
    Spares config A base (fun _ => True) (cleanupAddr6 config params) := by
  refine Keeps.bind (getLinkIndex_spares _).attempt fun result _ => ?_
  cases result with
  | ok _ => exact Keeps.ignore (delIpv6Addr_spares hCe) trivial
  | error _ => exact Keeps.pure trivial

theorem applySteps4To6_spares (params : MapeParams) (operation : String) :
    Spares config A base (fun _ => True) (applySteps4To6 config params operation) := by
  refine Keeps.bind (recordedTunnel_spares operation) fun i hFresh => ?_
  refine Keeps.bind (tunnelAddrs_spares (addIpv4Addr_steps i params.ipv4)) fun _ _ => ?_
  refine Keeps.bind (addIpv4DefaultRoute_spares hFresh) fun _ _ => ?_
  exact Keeps.bind (applyStep5_5Ebpf_spares params) fun _ _ => applyStep6Nftables_spares params

section Base

variable (hBase : Undisturbed config base)
include hBase

/-- A new tunnel gets an index that nothing of others refers to. -/
theorem applyStep3CreateTunnel_spares (params : MapeParams) :
    Spares config A base (fun _ => True) (applyStep3CreateTunnel config params) := by
  refine Keeps.bind (getLinkIndex_spares _) fun upstreamIfindex _ => ?_
  refine Keeps.bind (steps_spares (resolveMtu_steps config)) fun mtu _ => ?_
  have hCreate : Spares config A base (fun i => base.nextIfindex ≤ i)
      (createIp6tnl config.tunnelInterface params.ceIpv6 params.brAddress upstreamIfindex mtu) := by
    refine Keeps.bind (R := fun _ => True) (request_spares fun k _ k' hk hOp =>
      ⟨hk.newLink rfl hOp, trivial⟩) fun _ _ => ?_
    have hIndex : Spares config A base (fun i => base.nextIfindex ≤ i)
        (getLinkIndex config.tunnelInterface) :=
      Keeps.bind (request_spares fun k msg k' hk => hk.getLink_tunnel hBase) fun _ => Keeps.pure
    refine Keeps.bind hIndex fun i hFresh => ?_
    exact Keeps.bind (R := fun _ => True) (request_spares fun k _ k' hk hOp =>
      ⟨hk.setLinkUp hOp, trivial⟩) fun _ _ => Keeps.pure hFresh
  refine Keeps.bind hCreate fun i hFresh => Keeps.modifyState (fun s hs => { hs with tunnel := ?_ }) trivial
  rintro _ ⟨⟩
  exact hFresh

theorem deleteLink_spares (oif : Nat) : Spares config A base (fun _ => True) (deleteLink oif) :=
  request_spares fun _ _ _ hk hOp => ⟨hk.delLink hBase hOp, trivial⟩

theorem delIpv4Addr_spares (oif : Nat) (addr : Ipv4Addr) :
    Spares config A base (fun _ => True) (delIpv4Addr oif addr) :=
  (delIpv4Addr_steps oif addr).keeps fun _ _ hk hR => hk.delAddr4 hBase hR

theorem removeTunnel_spares : Spares config A base (fun _ => True) removeTunnel := by
  refine Keeps.bind Keeps.getState fun state _ => ?_
  cases state.tunnelIfindex with
  | none => exact Keeps.pure trivial
  | some oif =>
      refine Keeps.bind (R := fun _ => True)
        (Keeps.ignore (delIpv4DefaultRouteByOif_spares oif) trivial) fun _ _ => ?_
      exact Keeps.bind (deleteLink_spares hBase oif) fun _ _ => forgetTunnel_spares

theorem cleanupTunnel_spares (params : MapeParams) :
    Spares config A base (fun _ => True) (cleanupTunnel params) := by
  refine Keeps.bind Keeps.getState fun state _ => ?_
  cases state.tunnelIfindex with
  | none => exact Keeps.pure trivial
  | some oif =>
      refine Keeps.bind (R := fun _ => True)
        (Keeps.ignore (delIpv4DefaultRouteByOif_spares oif) trivial) fun _ _ => ?_
      refine Keeps.bind (R := fun _ => True)
        (Keeps.ignore (deleteLink_spares hBase oif) trivial) fun _ _ => ?_
      refine Keeps.bind forgetTunnel_spares fun _ _ => ?_
      exact Keeps.ignore (delIpv4Addr_spares hBase oif params.ipv4) trivial

/-- The steps of an apply one after the other. -/
theorem apply_spares {params : MapeParams} (hCe : params.ceIpv6 ∈ A) :
    Spares config A base (fun _ => True) (apply config params) := by
  refine Keeps.bind applyStep1Sysctl_spares fun _ _ => ?_
  have hStep2 : Spares config A base (fun _ => True) (applyStep2AddIpv6 config params) :=
    Keeps.bind (getLinkIndex_spares _) fun _ _ => addIpv6Addr_spares hCe
  refine Keeps.bind hStep2 fun _ _ => ?_
  exact Keeps.bind (applyStep3CreateTunnel_spares hBase params) fun _ _ =>
    applySteps4To6_spares params _

theorem cleanup_spares {params : MapeParams} (hCe : params.ceIpv6 ∈ A) :
    Spares config A base (fun _ => True) (cleanup config params) := by
  refine Keeps.bind (R := fun _ => True)
    (Keeps.ignore (nft_spares deleteTables_steps) trivial) fun _ _ => ?_
  refine Keeps.bind takeEbpf_spares fun _ _ => ?_
  refine Keeps.bind (cleanupTunnel_spares hBase params) fun _ _ => ?_
  exact Keeps.bind (cleanupAddr6_spares hCe) fun _ _ => cleanupSysctl_spares

/-- The four branches of an update. -/
theorem update_spares {old new : MapeParams} (hOld : old.ceIpv6 ∈ A) (hNew : new.ceIpv6 ∈ A) :
    Spares config A base (fun _ => True) (update config old new) := by
  have hMap : Spares config A base (fun _ => True) (updateConfigMap new) := updateConfigMap_spares new
  have hRecreate : Spares config A base (fun _ => True) (recreateTunnelAndApply config new) :=
    Keeps.bind takeEbpf_spares fun _ _ => Keeps.bind (removeTunnel_spares hBase) fun _ _ =>
      Keeps.bind (applyStep3CreateTunnel_spares hBase new) fun _ _ =>
        applySteps4To6_spares new _
  have hStep6 : Spares config A base (fun _ => True) (applyStep6Nftables config new) :=
    applyStep6Nftables_spares new
  unfold update
  split_ifs
  · refine Keeps.bind (getLinkIndex_spares _) fun _ _ => ?_
    refine Keeps.bind (R := fun _ => True) (Keeps.ignore (delIpv6Addr_spares hOld) trivial) fun _ _ => ?_
    refine Keeps.bind (addIpv6Addr_spares hNew) fun _ _ => ?_
    exact Keeps.bind hRecreate fun _ _ => hMap
  · exact Keeps.bind hRecreate fun _ _ => hMap
  · refine Keeps.bind (recordedTunnel_spares _) fun i hFresh => ?_
    refine Keeps.bind (R := fun _ => True)
      (Keeps.ignore (delIpv4Addr_spares hBase i _) trivial) fun _ _ => ?_
    refine Keeps.bind (tunnelAddrs_spares (addIpv4Addr_steps i _)) fun _ _ => ?_
    refine Keeps.bind (addIpv4DefaultRoute_spares hFresh) fun _ _ => ?_
    exact Keeps.bind hStep6 fun _ _ => hMap
  · exact Keeps.bind hStep6 fun _ _ => hMap

/-- An error is followed by a cleanup that clears the parameters. -/
theorem orCleanup_spares {x : DaemonM Unit} {params : MapeParams} (hCe : params.ceIpv6 ∈ A)
    (hx : Spares config A base (fun _ => True) x) : Spares config A base (fun _ => True) (do
      match ← attempt x with
      | .ok () => pure ()
      | .error _ =>
          cleanup config params
          clearParams) := by
  refine Keeps.bind hx.attempt fun result _ => ?_
  cases result with
  | ok _ => exact Keeps.pure trivial
  | error _ =>
      refine Keeps.bind (cleanup_spares hBase hCe) fun _ _ =>
        Keeps.modifyState (fun s hs => { hs with params := ?_ }) trivial
      rintro _ ⟨⟩

theorem applyNew_spares {oldParams : Option MapeParams} {new : MapeParams}
    (hOld : ∀ old ∈ oldParams, old.ceIpv6 ∈ A) (hNew : new.ceIpv6 ∈ A) :
    Spares config A base (fun _ => True) (applyNew config oldParams new) := by
  have hApply : Spares config A base (fun _ => True) (applyOrCleanup config new) :=
    orCleanup_spares hBase hNew (apply_spares hBase hNew)
  refine Keeps.bind Keeps.getState fun state _ => ?_
  split_ifs
  · cases oldParams with
    | none => exact Keeps.bind (cleanup_spares hBase hNew) fun _ _ => hApply
    | some old =>
        have hOldCe : old.ceIpv6 ∈ A := hOld old rfl
        dsimp only
        split_ifs
        · exact Keeps.bind (cleanup_spares hBase hOldCe) fun _ _ => hApply
        · exact orCleanup_spares hBase hNew (update_spares hBase hOldCe hNew)
        · exact Keeps.pure trivial
  · exact hApply

end Base

end Programs

/-- The address of the new parameters is in `A`. -/
def AddressIn (config : Config) (A : Set Ipv6Addr) (w : DaemonWorld) (event : DaemonEvent) : Prop :=
  ∀ new ∈ event.newParams config w.state, new.ceIpv6 ∈ A

section Runs

variable {w : DaemonWorld}

/-- The cache file and the pending inputs are the daemon's own. -/
theorem holds_cached {rules : Option (List MapRule)} {iaPd : Option Ipv6Net}
    {cache : Option (List MapRule)} {params : Option MapeParams} {w' : DaemonWorld}
    (hw : w.Holds (Foreign config A base) (Owned A base))
    (h' : w'.IsAt (w.sys.withRulesCache cache)
      { w.state.withPending rules iaPd with params := params } w.faults)
    (hCached : OnlyCached w.sys w w') (hParams : ∀ new ∈ params, new.ceIpv6 ∈ A) :
    w'.Holds (Foreign config A base) (Owned A base) := by
  refine ⟨?_, ?_, ?_⟩
  · rw [h'.sys]
    exact hw.now.withRulesCache cache
  · intro k hMem
    rcases hCached k hMem with hBefore | ⟨_, rfl⟩
    · exact hw.before k hBefore
    · exact hw.now.withRulesCache _
  · rw [h'.state]
    exact { hw.state with params := hParams }

/-- One event, whose CE address becomes one of the own ones. -/
theorem handleEvent_spares (hBase : Undisturbed config base) (event : DaemonEvent)
    (hAddress : AddressIn config A w event) (hw : w.Holds (Foreign config A base) (Owned A base)) :
    wp (handleEvent config event) (fun _ w' => w'.Holds (Foreign config A base) (Owned A base))
      (fun _ w' => w'.Holds (Foreign config A base) (Owned A base)) w := by
  have h : w.IsAt w.sys w.state w.faults := ⟨rfl, rfl, rfl⟩
  have hOld : ∀ old ∈ w.state.params, old.ceIpv6 ∈ A := hw.state.params
  apply wp_handleEvent event h
  · intro rules iaPd cache new w₁ _ hReady _ h₁ hCached
    have hNew : new.ceIpv6 ∈ A := hAddress new hReady
    have hw₁ : w₁.Holds (Foreign config A base) (Owned A base) := by
      apply holds_cached hw h₁ hCached
      rintro _ ⟨⟩
      exact hNew
    exact wp_mono (applyNew_spares hBase hOld hNew w₁ hw₁) (fun _ _ hDone => hDone.1)
      fun _ _ hStop => hStop
  · exact fun _ rules iaPd cache w₁ h₁ hCached => holds_cached hw h₁ hCached hOld
  · exact fun _ rules iaPd cache w₁ h₁ hCached => holds_cached hw h₁ hCached hOld

theorem run_spares (hBase : Undisturbed config base) {events : List DaemonEvent}
    (hAddress : Along (handleEvent config) (AddressIn config A) events w)
    (hw : w.Holds (Foreign config A base) (Owned A base)) :
    wp (run config events) (fun _ w' => w'.Holds (Foreign config A base) (Owned A base))
      (fun _ w' => w'.Holds (Foreign config A base) (Owned A base)) w := by
  refine wp_forM_along ?_ hAddress hw
  exact fun event w₁ hw₁ hAddress₁ => handleEvent_spares hBase event hAddress₁ hw₁

/-- The end of the run. -/
theorem shutdown_spares (hBase : Undisturbed config base) :
    Spares config A base (fun _ => True) (shutdown config) := by
  refine Keeps.bind Keeps.getState fun state hOwned => ?_
  have hParams := hOwned.params
  cases hCurrent : state.params with
  | none => exact Keeps.pure trivial
  | some params =>
      rw [hCurrent] at hParams
      exact cleanup_spares hBase (hParams params rfl)

end Runs

/-- Whatever events arrive and whatever is refused, up to the end of the shutdown, or a panic, the
daemon touches at no moment an upstream address outside `A`, a route that is no default route, or a
BPF object that it has not loaded. It adds no route but the default route through a tunnel
of its own, and the sysctls hold what they held before, or one. -/
theorem run_leaves_foreign (config : Config) (A : Set Ipv6Addr) (base : Kernel)
    (faults : Nat → Option Errno) (rules : Option (List MapRule)) (hBase : Undisturbed config base)
    (events : List DaemonEvent)
    (hAddress : Along (handleEvent config) (AddressIn config A) events
      (initialWorld base faults rules)) :
    ∀ k ∈ (endOf (do run config events; shutdown config) (initialWorld base faults rules)).history,
      Foreign config A base k := by
  have hForeign : Foreign config A base base := hBase.foreign
  have hStart : (initialWorld base faults rules).Holds (Foreign config A base) (Owned A base) := by
    refine ⟨hForeign, ?_, ⟨?_, ?_, ?_, ?_, ?_⟩⟩
    · intro k hMem
      cases List.mem_singleton.mp hMem
      exact hForeign
    all_goals rintro _ ⟨⟩
  apply endOf_of_wp fun w' => ∀ k ∈ w'.history, Foreign config A base k
  rw [wp_bind]
  apply wp_mono (run_spares hBase hAddress hStart)
  · intro _ w hw
    exact wp_mono (shutdown_spares hBase w hw) (fun _ _ hDone => hDone.1.before)
      fun _ _ hStop => hStop.before
  · exact fun _ _ hStop => hStop.before

theorem endOf_ok {α : Type} {x : DaemonM α} {a : α} {w w' : DaemonWorld} (h : x w = .ok a w') :
    endOf x w = w' := by
  unfold endOf
  rw [h]

/-- The addresses of a delegating `/32`. -/
def testAddrs : Set Ipv6Addr := {addr | addr >>> 96 = 0x20010db8#128}

instance : DecidablePred (· ∈ testAddrs) :=
  fun addr => inferInstanceAs (Decidable (addr >>> 96 = _))

instance (config : Config) (w : DaemonWorld) (event : DaemonEvent) :
    Decidable (AddressIn config testAddrs w event) :=
  inferInstanceAs (Decidable (∀ new ∈ event.newParams config w.state, new.ceIpv6 ∈ testAddrs))

/-- A link with an address, two routes and a filter on it. -/
def busyKernel : Kernel :=
  (Kernel.idle "eth0").withUpstreamAddrs {7}
    |>.withRoutes [⟨mainTable, 0, .universe, [.oif 2]⟩, ⟨mainTable, 24, .other 253, [.oif 2]⟩]
    |>.withBpf [{ id := 0, config := .default, egress := some 2, ingress := none }]
    |>.withNextBpf 1

/-- The thirtieth request is refused, which is one of the update for the second prefix. -/
theorem run_leaves_foreign_update : ∃ w,
    (do run .contrib [.both [sharedRule] (sharedPrefix 1 5), .lease (sharedPrefix 1 6)]
        shutdown .contrib) (initialWorld busyKernel (faultAt 30 .eexist) none) = .ok () w ∧
      ∀ k ∈ w.history, Foreign .contrib testAddrs busyKernel k := by
  have hAddress : decide (Along (handleEvent .contrib) (AddressIn .contrib testAddrs)
      [.both [sharedRule] (sharedPrefix 1 5), .lease (sharedPrefix 1 6)]
      (initialWorld busyKernel (faultAt 30 .eexist) none)) = true := by decide +kernel
  have hReturns : decide (wp (do
      run .contrib [.both [sharedRule] (sharedPrefix 1 5), .lease (sharedPrefix 1 6)]
      shutdown .contrib) (fun _ _ => True) (fun _ _ => False)
      (initialWorld busyKernel (faultAt 30 .eexist) none)) = true := by decide +kernel
  have hBase : Undisturbed .contrib busyKernel := by
    refine ⟨rfl, rfl, by decide, ?_⟩
    intro obj hObj
    cases List.mem_singleton.mp hObj
    refine ⟨by decide, ?_⟩
    intro attachType i hAttached
    cases attachType <;> cases hAttached
    decide
  have hForeign := run_leaves_foreign .contrib testAddrs busyKernel (faultAt 30 .eexist) none hBase
    _ (of_decide_eq_true hAddress)
  obtain ⟨w, hRun, -⟩ := exists_unit_of_decide _ hReturns
  rw [endOf_ok hRun] at hForeign
  exact ⟨w, hRun, hForeign⟩

end Mapecd
