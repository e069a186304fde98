import Mapecd.Daemon.Running
import Mapecd.Daemon.Stays

/-! A daemon that is killed, and the start of the next one. -/
namespace Mapecd

open Effects Kernel

namespace Kernel

/-- Without its owner an object stays only while a filter uses it. -/
def closeOwnerless (k : Kernel) : Kernel :=
  k.withBpf (k.bpf.filter fun obj => obj.egress.isSome || obj.ingress.isSome)

/-- The command `ip link delete`, when no daemon runs. -/
def ipLinkDelete (name : String) : Operation Kernel Errno Unit := fun k =>
  match k.linkIndex name with
  | some ifindex =>
      match delLink ifindex k with
      | .ok (_, k') => .ok ((), k'.closeOwnerless)
      | .error e => .error e
  | none => .error .enodev

end Kernel

/-- Both steps only log what goes wrong. The `/128` of the last run is not known here. -/
def startupCleanup (config : Config) : DaemonM Unit := do
  ignore deleteTables
  ignore (request (.netlinkError "ip link delete") (Kernel.ipLinkDelete config.tunnelInterface))

/-- The calls into the lifecycle, in any order. -/
inductive LifecycleCall where
  | apply (params : MapeParams)
  | update (old new : MapeParams)
  | cleanup (params : MapeParams)

def LifecycleCall.run (config : Config) : LifecycleCall → DaemonM Unit
  | apply params => Mapecd.apply config params
  | update old new => Mapecd.update config old new
  | cleanup params => Mapecd.cleanup config params

/-- The calls of one process. Their errors are logged. -/
def runCalls (config : Config) (calls : List LifecycleCall) : DaemonM Unit :=
  calls.forM fun call => ignore (call.run config)

/-- `k` is the kernel when a daemon that started on `base` is killed. -/
def KilledAt (config : Config) (base k : Kernel) : Prop :=
  ∃ calls faults rules left,
    left ∈ (endOf (runCalls config calls) (initialWorld base faults rules)).history ∧
      k = left.closeOwnerless

/-- What a new daemon does. -/
def restart (config : Config) (params : MapeParams) : DaemonM Unit := do
  startupCleanup config
  apply config params

/-- `x` returns `Ok` on the kernel `k`, for a new daemon. -/
def Succeeds (x : DaemonM Unit) (k : Kernel) : Prop :=
  wp x (fun _ _ => True) (fun _ _ => False) (initialWorld k noFaults none)

instance (x : DaemonM Unit) (k : Kernel) : Decidable (Succeeds x k) :=
  inferInstanceAs (Decidable (wp _ _ _ _))

/-- `k` without what the daemon on `base` has left behind. -/
def withoutLeftovers (base k : Kernel) : Kernel :=
  base.withRoutes (k.routes.filter (· ∈ base.routes))

/-- What a killed daemon can leave behind of its own. -/
structure Residue (config : Config) (base k : Kernel) : Prop where
  name : k.upstream.name = base.upstream.name
  routes : ∀ route ∈ k.routes, route ∈ base.routes ∨ ∃ i, route = tunnelDefaultRoute i
  nextIfindex : base.nextIfindex ≤ k.nextIfindex
  tunnel : ∀ tunnel ∈ k.tunnel, tunnel.spec.name = config.tunnelInterface ∧
    base.nextIfindex ≤ tunnel.ifindex
  filters : ∀ obj ∈ k.bpf, ∀ attachType i, obj.attached attachType = some i →
    ∃ tunnel ∈ k.tunnel, tunnel.ifindex = i

section Residue

variable {config : Config} {base k k' : Kernel}

/-- Before the first call there is no residue. -/
theorem Pristine.residue (hPristine : Pristine config base) : Residue config base base := by
  refine ⟨rfl, fun route hRoute => .inl hRoute, le_rfl, ?_, ?_⟩
  · intro tunnel hTunnel
    rw [hPristine.tunnel] at hTunnel
    cases hTunnel
  · intro obj hObj
    rw [hPristine.bpf] at hObj
    cases hObj

namespace Residue

theorem withRoutes (h : Residue config base k) {routes : List RouteMessage}
    (hRoutes : ∀ route ∈ routes, route ∈ base.routes ∨ ∃ i, route = tunnelDefaultRoute i) :
    Residue config base (k.withRoutes routes) :=
  ⟨h.name, hRoutes, h.nextIfindex, h.tunnel, h.filters⟩

/-- A filter that is added is on the tunnel. -/
theorem withBpf (h : Residue config base k) {bpf : List BpfObject}
    (hFilters : ∀ obj ∈ bpf, ∀ attachType i, obj.attached attachType = some i →
      ∃ tunnel ∈ k.tunnel, tunnel.ifindex = i) : Residue config base (k.withBpf bpf) :=
  ⟨h.name, h.routes, h.nextIfindex, h.tunnel, hFilters⟩

/-- A change to objects is fine if it attaches to the tunnel only. -/
theorem modifyBpf (h : Residue config base k) (id : Nat) {f : BpfObject → BpfObject}
    (hFilters : ∀ obj attachType i, (f obj).attached attachType = some i →
      obj.attached attachType = some i ∨ ∃ tunnel ∈ k.tunnel, tunnel.ifindex = i) :
    Residue config base (Kernel.modifyBpf id f k) := by
  apply h.withBpf
  intro obj hObj attachType i hAttached
  obtain ⟨obj, hOld, rfl⟩ := List.mem_map.mp hObj
  split_ifs at hAttached
  · rcases hFilters obj attachType i hAttached with hSame | hTunnel
    · exact h.filters obj hOld attachType i hSame
    · exact hTunnel
  · exact h.filters obj hOld attachType i hAttached

theorem closeOwnerless (h : Residue config base k) : Residue config base k.closeOwnerless :=
  h.withBpf fun obj hObj => h.filters obj (List.mem_of_mem_filter hObj)

/-- The tunnel is replaced by one with the same name and index. -/
theorem withTunnel (h : Residue config base k) {tunnel tunnel' : TunnelLink}
    (hTunnel : k.tunnel = some tunnel) (hSpec : tunnel'.spec = tunnel.spec)
    (hIfindex : tunnel'.ifindex = tunnel.ifindex) :
    Residue config base (k.withTunnel (some tunnel')) := by
  refine ⟨h.name, h.routes, h.nextIfindex, ?_, ?_⟩
  · intro t ht
    cases ht
    rw [hSpec, hIfindex]
    exact h.tunnel tunnel hTunnel
  · intro obj hObj attachType i hAttached
    obtain ⟨t, ht, rfl⟩ := h.filters obj hObj attachType i hAttached
    cases hTunnel.symm.trans ht
    exact ⟨tunnel', rfl, hIfindex⟩

theorem attached_attach {obj : BpfObject} {attachType other : TcAttachType} {link : Option Nat}
    {i : Nat} (h : (obj.attach attachType link).attached other = some i) :
    obj.attached other = some i ∨ link = some i := by
  cases attachType <;> cases other <;> simp_all [BpfObject.attach, BpfObject.attached]

/-- What is still attached was so before, and not to this link. -/
theorem attached_unlink {obj : BpfObject} {attachType : TcAttachType} {ifindex i : Nat}
    (h : (obj.unlink ifindex).attached attachType = some i) :
    obj.attached attachType = some i ∧ i ≠ ifindex := by
  cases attachType
  · simp only [BpfObject.unlink, BpfObject.attached] at h
    split_ifs at h with hSame
    refine ⟨h, ?_⟩
    rintro rfl
    exact hSame h
  · simp only [BpfObject.unlink, BpfObject.attached] at h
    split_ifs at h with hSame
    refine ⟨h, ?_⟩
    rintro rfl
    exact hSame h

/-- With the tunnel its filters and routes disappear. -/
theorem delLink {ifindex : Nat} (h : Residue config base k)
    (hOp : Kernel.delLink ifindex k = .ok ((), k')) : Residue config base k' := by
  unfold Kernel.delLink at hOp
  cases hTunnel : k.tunnel with
  | none => simp [hTunnel] at hOp
  | some tunnel =>
      simp only [hTunnel] at hOp
      split_ifs at hOp with hIfindex
      cases hOp
      refine ⟨h.name, ?_, h.nextIfindex, (fun t ht => by cases ht), ?_⟩
      · exact fun route hRoute => h.routes route (List.mem_of_mem_filter hRoute)
      · intro obj hObj attachType i hAttached
        obtain ⟨obj, hOld, rfl⟩ := List.mem_map.mp hObj
        obtain ⟨hOldAttached, hOther⟩ := attached_unlink hAttached
        obtain ⟨t, ht, rfl⟩ := h.filters obj hOld attachType i hOldAttached
        cases hTunnel.symm.trans ht
        exact absurd hIfindex hOther

/-- The upstream link does not have the name of the tunnel. -/
theorem mem_tunnel_of_linkIndex (h : Residue config base k)
    (hName : base.upstream.name = config.upstreamInterface) {ifindex : Nat}
    (hIndex : k.linkIndex config.tunnelInterface = some ifindex) :
    ∃ tunnel ∈ k.tunnel, tunnel.ifindex = ifindex := by
  have hNe : k.upstream.name ≠ config.tunnelInterface := by
    rw [h.name, hName]
    exact config.interfaces_ne
  rw [Kernel.linkIndex, if_neg hNe] at hIndex
  obtain ⟨tunnel, hTunnel, hSome⟩ := Option.bind_eq_some_iff.mp hIndex
  split_ifs at hSome
  cases hSome
  exact ⟨tunnel, hTunnel, rfl⟩

/-- No call of the daemon leaves more behind. -/
theorem closed (hName : base.upstream.name = config.upstreamInterface) :
    Closed config (Residue config base) where
  sysctl k k' h hChange := by
    obtain ⟨v4, v6, rfl⟩ := hChange
    exact ⟨h.name, h.routes, h.nextIfindex, h.tunnel, h.filters⟩
  upstreamAddrs k k' h hChange := by
    obtain ⟨addrs, rfl⟩ := hChange
    exact ⟨h.name, h.routes, h.nextIfindex, h.tunnel, h.filters⟩
  delAddr4 k k' h hChange := by
    rcases hChange with (rfl | ⟨tunnel, up, addrs, hTunnel, rfl⟩) | ⟨tunnel, hTunnel, rfl⟩
    · exact h
    · exact h.withTunnel hTunnel rfl rfl
    · have hEmptied : Residue config base (k.withTunnel (some { tunnel with addrs := ∅ })) :=
        h.withTunnel hTunnel rfl rfl
      exact hEmptied.withRoutes fun route hRoute => h.routes route (List.mem_of_mem_filter hRoute)
  newLink spec k k' hSpec h hOp := by
    unfold Kernel.newLink at hOp
    split_ifs at hOp with hTaken
    cases hOp
    have hNone : k.tunnel = none := Option.not_isSome_iff_eq_none.mp fun hSome => hTaken (.inr hSome)
    refine ⟨h.name, h.routes, Nat.le_succ_of_le h.nextIfindex, ?_, ?_⟩
    · intro tunnel hTunnel
      cases hTunnel
      exact ⟨hSpec, h.nextIfindex⟩
    · intro obj hObj attachType i hAttached
      obtain ⟨tunnel, hTunnel, -⟩ := h.filters obj hObj attachType i hAttached
      rw [hNone] at hTunnel
      cases hTunnel
  setLinkUp ifindex k k' h hOp := by
    unfold Kernel.setLinkUp at hOp
    cases hTunnel : k.tunnel with
    | none => simp [hTunnel] at hOp
    | some tunnel =>
        simp only [hTunnel] at hOp
        split_ifs at hOp
        cases hOp
        exact h.withTunnel hTunnel rfl rfl
  delLink ifindex k k' h hOp := h.delLink hOp
  delRoute route k k' h hOp := by
    unfold Kernel.delRoute at hOp
    split_ifs at hOp
    cases hOp
    exact h.withRoutes fun route hRoute => h.routes route (List.mem_of_mem_erase hRoute)
  newRoute oif k k' h hOp := by
    unfold Kernel.newDefaultRoute at hOp
    split_ifs at hOp
    cases hOp
    apply h.withRoutes
    intro route hRoute
    rcases List.mem_append.mp hRoute with hRoute | hRoute
    · exact h.routes route hRoute
    · exact .inr ⟨oif, List.mem_singleton.mp hRoute⟩
  loadBpf id k k' h hOp := by
    cases hOp
    refine ⟨h.name, h.routes, h.nextIfindex, h.tunnel, ?_⟩
    intro obj hObj attachType i hAttached
    rcases List.mem_append.mp hObj with hObj | hObj
    · exact h.filters obj hObj attachType i hAttached
    · rw [List.mem_singleton.mp hObj] at hAttached
      cases attachType <;> cases hAttached
  setConfigMap id cfg k k' h hOp := by
    cases hOp
    exact h.modifyBpf id fun obj attachType i hAttached => .inl (by cases attachType <;> exact hAttached)
  attachTc id attachType ifindex k k' h hOp := by
    unfold Kernel.attachTc at hOp
    split at hOp
    · rename_i hIndex
      cases hOp
      apply h.modifyBpf id
      intro obj other i hAttached
      rcases attached_attach hAttached with hSame | hNew
      · exact .inl hSame
      · cases hNew
        exact .inr (h.mem_tunnel_of_linkIndex hName hIndex)
    · cases hOp
  detachTc id attachType k k' h hOp := by
    unfold Kernel.detachTc at hOp
    split_ifs at hOp
    cases hOp
    apply h.modifyBpf id
    intro obj other i hAttached
    rcases attached_attach hAttached with hSame | hNone
    · exact .inl hSame
    · cases hNone
  dropBpf id k h := h.withBpf fun obj hObj => h.filters obj (List.mem_of_mem_filter hObj)

theorem nft (k k' : Kernel) (h : Residue config base k) (hChange : NftChange k k') :
    Residue config base k' := by
  obtain ⟨tables, -, rfl⟩ := hChange
  exact ⟨h.name, h.routes, h.nextIfindex, h.tunnel, h.filters⟩

/-- By the lemmas of each call. -/
theorem runCalls (hName : base.upstream.name = config.upstreamInterface)
    (calls : List LifecycleCall) : Stays (Residue config base) (runCalls config calls) := by
  have hClosed : Closed config (Residue config base) := closed hName
  refine Stays.forM calls fun call _ => Stays.ignore ?_
  cases call with
  | apply params => exact hClosed.apply nft params
  | update old new => exact hClosed.update nft old new
  | cleanup params => exact hClosed.cleanup nft params

/-- A killed run has passed through kernels with such a residue only. -/
theorem of_killedAt (hPristine : Pristine config base) (h : KilledAt config base k) :
    Residue config base k := by
  obtain ⟨calls, faults, rules, left, hLeft, rfl⟩ := h
  have hStart : (initialWorld base faults rules).Within (Residue config base)
      (Residue config base) faults := by
    refine ⟨hPristine.residue, ?_, rfl⟩
    intro k hk
    rw [List.mem_singleton.mp hk]
    exact hPristine.residue
  have hEnd := (runCalls hPristine.name calls).endOf (fun _ h => h) hStart
  exact (hEnd.before left hLeft).closeOwnerless

end Residue

end Residue

section Restart

variable {config : Config} {params : MapeParams} {base k : Kernel} {s : DaemonState}
  {w : DaemonWorld} {post : Unit → DaemonWorld → Prop} {stop : Failure MapEError → DaemonWorld → Prop}

/-- `apply` of `params` finds nothing in its way on `k`. -/
structure Applicable (params : MapeParams) (k : Kernel) : Prop where
  addr : params.ceIpv6 ∉ k.upstream.addrs
  free : RouteFree k.routes
  derived : ∃ cfg ranges, Derived params cfg ranges ∧ ranges ≠ []

/-- Apart from the address on the upstream link nothing refuses an apply from here. -/
theorem wp_apply_iff (h : w.IsAt k s noFaults) (hReady : Ready config k) (hEbpf : s.ebpf = none) :
    wp (apply config params) (fun _ _ => True) (fun _ _ => False) w ↔ Applicable params k := by
  have hOnly : wp (apply config params) (fun _ _ => Applicable params k) (fun _ _ => True) w := by
    apply wp_apply h hReady hEbpf
    · exact fun cfg ranges hAddr hFree hDerived hNonempty _ _ =>
        ⟨hAddr, hFree, cfg, ranges, hDerived, hNonempty⟩
    · exact fun _ _ _ => trivial
  constructor
  · intro hSucceeds
    obtain ⟨⟨⟩, w', hRun, -⟩ := exists_ok_of_wp hSucceeds
    have hApplicable := wp_ok hOnly hRun
    exact hApplicable
  · intro ⟨hAddr, hFree, cfg, ranges, hDerived, hNonempty⟩
    apply wp_apply h hReady hEbpf
    · exact fun _ _ _ _ _ _ _ _ => trivial
    · exact fun f w' hWhy => hNonempty (hWhy hAddr hFree cfg ranges hDerived).1

/-- What `startup_cleanup` makes of `k`. -/
structure Cleared (config : Config) (base k k' : Kernel) : Prop where
  ready : Ready config k'
  upstream : k'.upstream = k.upstream
  subset : ∀ route ∈ k'.routes, route ∈ k.routes
  kept : ∀ route ∈ k.routes, route ∈ base.routes → route ∈ k'.routes

theorem outcome_runNft (script : List NftCommand) (k : Kernel) :
    ∃ tables, outcome (Kernel.runNft script) k = k.withNft tables := by
  unfold outcome Kernel.runNft
  cases NftCommand.runAll script k.nft with
  | ok tables => exact ⟨tables, rfl⟩
  | error e => exact ⟨k.nft, rfl⟩

/-- The filters were all on the tunnel. -/
theorem closeOwnerless_unlink (h : Residue config base k) {tunnel : TunnelLink}
    (hTunnel : k.tunnel = some tunnel) :
    (k.bpf.map fun obj => obj.unlink tunnel.ifindex).filter
      (fun obj => obj.egress.isSome || obj.ingress.isSome) = [] := by
  have hGone (obj : BpfObject) (hObj : obj ∈ k.bpf) (attachType : TcAttachType) :
      (obj.unlink tunnel.ifindex).attached attachType = none := by
    cases hAttached : (obj.unlink tunnel.ifindex).attached attachType with
    | none => rfl
    | some i =>
        obtain ⟨hOld, hOther⟩ := Residue.attached_unlink hAttached
        obtain ⟨t, ht, rfl⟩ := h.filters obj hObj attachType i hOld
        cases hTunnel.symm.trans ht
        exact absurd rfl hOther
  apply List.filter_eq_nil_iff.mpr
  intro obj hObj
  obtain ⟨obj, hOld, rfl⟩ := List.mem_map.mp hObj
  have hEgress : (obj.unlink tunnel.ifindex).egress = none := hGone obj hOld .egress
  have hIngress : (obj.unlink tunnel.ifindex).ingress = none := hGone obj hOld .ingress
  simp [hEgress, hIngress]

/-- Without a tunnel there are no filters. -/
theorem closeOwnerless_bpf (h : Residue config base k) (hTunnel : k.tunnel = none) :
    k.closeOwnerless.bpf = [] := by
  apply List.filter_eq_nil_iff.mpr
  intro obj hObj
  have hGone (attachType : TcAttachType) : obj.attached attachType = none := by
    cases hAttached : obj.attached attachType with
    | none => rfl
    | some i =>
        obtain ⟨t, ht, -⟩ := h.filters obj hObj attachType i hAttached
        cases hTunnel.symm.trans ht
  have hEgress : obj.egress = none := hGone .egress
  have hIngress : obj.ingress = none := hGone .ingress
  simp [hEgress, hIngress]

/-- Deleting the link by its name takes everything along that depends on it. -/
theorem outcome_ipLinkDelete (hName : base.upstream.name = config.upstreamInterface)
    (hLinks : ∀ route ∈ base.routes, ∀ i ∈ route.ifindexes, i < base.nextIfindex)
    (h : Residue config base k) (hOwned : k.closeOwnerless = k) :
    Cleared config base k (outcome (Kernel.ipLinkDelete config.tunnelInterface) k) := by
  have hUpstream : k.upstream.name = config.upstreamInterface := h.name.trans hName
  unfold outcome Kernel.ipLinkDelete
  cases hTunnel : k.tunnel with
  | none =>
      have hNe : ¬ k.upstream.name = config.tunnelInterface := fun hSame =>
        config.interfaces_ne (hUpstream.symm.trans hSame)
      have hIndex : k.linkIndex config.tunnelInterface = none := by
        simp [Kernel.linkIndex, hNe, hTunnel]
      rw [hIndex]
      refine ⟨⟨hUpstream, hTunnel, ?_⟩, rfl, fun _ hRoute => hRoute, fun _ hRoute _ => hRoute⟩
      rw [← hOwned]
      exact closeOwnerless_bpf h hTunnel
  | some tunnel =>
      obtain ⟨hSpec, hFresh⟩ := h.tunnel tunnel hTunnel
      rw [linkIndex_tunnel hTunnel hUpstream hSpec]
      simp only [delLink_present hTunnel]
      refine ⟨⟨hUpstream, rfl, closeOwnerless_unlink h hTunnel⟩, rfl,
        fun route hRoute => List.mem_of_mem_filter hRoute, ?_⟩
      intro route hRoute hBase
      -- routes of the system do not go with a tunnel that is younger
      have hKept : route.dependsOn tunnel.ifindex = false :=
        RouteMessage.dependsOn_of_notMem fun hi =>
          absurd (hLinks route hBase _ hi) (Nat.not_lt.mpr hFresh)
      exact List.mem_filter.mpr ⟨hRoute, by simp [hKept]⟩

/-- Behind the startup cleanup addresses of the upstream link are the only residue. -/
theorem wp_startupCleanup (hName : base.upstream.name = config.upstreamInterface)
    (hLinks : ∀ route ∈ base.routes, ∀ i ∈ route.ifindexes, i < base.nextIfindex)
    (hResidue : Residue config base k) (hOwned : k.closeOwnerless = k) (h : w.IsAt k s noFaults)
    (hDone : ∀ k' w', w'.IsAt k' s noFaults → Cleared config base k k' → post () w') :
    wp (startupCleanup config) post stop w := by
  unfold startupCleanup deleteTables
  rw [wp_bind]
  apply wp_ignore_request h
  obtain ⟨tables, hTables⟩ := outcome_runNft [.deleteTableIp, .deleteTableIp6] k
  rw [hTables]
  intro w₁ h₁
  have hResidue₁ : Residue config base (k.withNft tables) :=
    ⟨hResidue.name, hResidue.routes, hResidue.nextIfindex, hResidue.tunnel, hResidue.filters⟩
  have hOwned₁ : (k.withNft tables).closeOwnerless = k.withNft tables :=
    congrArg (·.withNft tables) hOwned
  obtain ⟨hReady, hUpstream, hSubset, hKept⟩ :=
    outcome_ipLinkDelete hName hLinks hResidue₁ hOwned₁
  apply wp_ignore_request h₁
  exact fun w₂ h₂ => hDone _ w₂ h₂ ⟨hReady, hUpstream, hSubset, hKept⟩

/-- The default routes that the daemon has set are not in the way of another one. -/
theorem RouteFree.of_own {own routes : List RouteMessage} (hFree : RouteFree own)
    (hOwn : ∀ route ∈ own, route ∈ routes)
    (hRoutes : ∀ route ∈ routes, route ∈ own ∨ ∃ i, route = tunnelDefaultRoute i) :
    RouteFree routes := by
  intro ⟨route, hRoute, hTaken⟩
  obtain ⟨hMem, hKept⟩ := mem_settle.mp hRoute
  rcases hRoutes route hMem with hRouteOwn | ⟨i, rfl⟩
  · apply hFree
    refine ⟨route, mem_settle.mpr ⟨hRouteOwn, fun ⟨oif, hOif, hVia⟩ => hKept ⟨oif, ?_, hVia⟩⟩, hTaken⟩
    obtain ⟨msg, hMsg, hMsgVia⟩ := mem_defaultRouteOifs.mp hOif
    exact mem_defaultRouteOifs.mpr ⟨msg, hOwn msg hMsg, hMsgVia⟩
  · have hVia : IsDefaultVia i (tunnelDefaultRoute i) := ⟨rfl, List.mem_singleton.mpr rfl⟩
    exact hKept ⟨i, mem_defaultRouteOifs.mpr ⟨_, hMem, hVia, rfl⟩, hVia⟩

theorem closeOwnerless_closeOwnerless (k : Kernel) :
    k.closeOwnerless.closeOwnerless = k.closeOwnerless := by
  have hFilter : k.closeOwnerless.bpf.filter (fun obj => obj.egress.isSome || obj.ingress.isSome) =
      k.closeOwnerless.bpf := by
    simp [Kernel.closeOwnerless, List.filter_filter]
  exact congrArg k.closeOwnerless.withBpf hFilter

/-- After a kill at any point of any calls, `apply` succeeds if and only if the
`/128` of its parameters was not assigned. That it would succeed without the
leftovers is presupposed. -/
theorem restart_succeeds_iff (hPristine : Pristine config base)
    (hLinks : ∀ route ∈ base.routes, ∀ i ∈ route.ifindexes, i < base.nextIfindex)
    (hKilled : KilledAt config base k)
    (hOther : Succeeds (apply config params) (withoutLeftovers base k)) :
    Succeeds (restart config params) k ↔ params.ceIpv6 ∉ k.upstream.addrs := by
  have hResidue := Residue.of_killedAt hPristine hKilled
  have hOwned : k.closeOwnerless = k := by
    obtain ⟨calls, faults, rules, left, -, rfl⟩ := hKilled
    exact closeOwnerless_closeOwnerless left
  have hReady : Ready config (withoutLeftovers base k) :=
    ⟨hPristine.name, hPristine.tunnel, hPristine.bpf⟩
  obtain ⟨-, hFree, hDerived⟩ := (wp_apply_iff ⟨rfl, rfl, rfl⟩ hReady rfl).mp hOther
  have hRestart : wp (startupCleanup config)
      (fun _ w' => wp (apply config params) (fun _ _ => True) (fun _ _ => False) w' ↔
        params.ceIpv6 ∉ k.upstream.addrs) (fun _ _ => False) (initialWorld k noFaults none) := by
    apply wp_startupCleanup hPristine.name hLinks hResidue hOwned ⟨rfl, rfl, rfl⟩
    intro k' w' h' hCleared
    rw [wp_apply_iff h' hCleared.ready rfl]
    have hRoutes : RouteFree k'.routes := by
      apply hFree.of_own
      · intro route hRoute
        obtain ⟨hMem, hBase⟩ := List.mem_filter.mp hRoute
        exact hCleared.kept route hMem (of_decide_eq_true hBase)
      · intro route hRoute
        have hMem := hCleared.subset route hRoute
        refine (hResidue.routes route hMem).imp_left fun hBase => ?_
        exact List.mem_filter.mpr ⟨hMem, decide_eq_true hBase⟩
    constructor
    · intro hApplicable
      rw [← hCleared.upstream]
      exact hApplicable.addr
    · exact fun hAddr => ⟨by rwa [hCleared.upstream], hRoutes, hDerived⟩
  unfold Succeeds restart
  rw [wp_bind]
  obtain ⟨⟨⟩, w', hRun, hIff⟩ := exists_ok_of_wp hRestart
  rw [wp, hRun]
  exact hIff

end Restart

section Examples

/-- A daemon killed during or after the `apply` of these parameters. -/
def killedApply : DaemonWorld :=
  endOf (runCalls .contrib [.apply (makeParams 1 1 2 5 ⟨1, 14⟩)])
    (initialWorld (.idle "eth0") noFaults none)

theorem killedApply_killedAt {left : Kernel} (h : left ∈ killedApply.history) :
    KilledAt .contrib (.idle "eth0") left.closeOwnerless :=
  ⟨[.apply (makeParams 1 1 2 5 ⟨1, 14⟩)], noFaults, none, left, h, rfl⟩

/-- Killed when forwarding is on and nothing else is done. -/
theorem restart_succeeds_early : ∃ k, KilledAt .contrib (.idle "eth0") k ∧ k.ipv6Forward = "1" ∧
    Succeeds (restart .contrib (makeParams 1 1 2 5 ⟨1, 14⟩)) k := by
  have hLeft : ∃ left ∈ killedApply.history, left.ipv6Forward = "1" ∧
      Succeeds (apply .contrib (makeParams 1 1 2 5 ⟨1, 14⟩))
        (withoutLeftovers (.idle "eth0") left.closeOwnerless) ∧ 1 ∉ left.upstream.addrs := by
    decide +kernel
  obtain ⟨left, hMem, hForward, hOther, hAddr⟩ := hLeft
  refine ⟨left.closeOwnerless, killedApply_killedAt hMem, hForward, ?_⟩
  have hLinks : ∀ route ∈ (Kernel.idle "eth0").routes, ∀ i ∈ route.ifindexes,
      i < (Kernel.idle "eth0").nextIfindex := fun route hRoute => by cases hRoute
  exact (restart_succeeds_iff ⟨rfl, rfl, rfl, rfl⟩ hLinks (killedApply_killedAt hMem) hOther).mpr
    hAddr

/-- Killed when `apply` is complete: the `/128` is still there. -/
theorem restart_fails_after_apply : Succeeds (apply .contrib (makeParams 1 1 2 5 ⟨1, 14⟩)) (.idle "eth0") ∧
    ∃ k, KilledAt .contrib (.idle "eth0") k ∧ k.nft.ip.isSome ∧
      Succeeds (apply .contrib (makeParams 1 1 2 5 ⟨1, 14⟩)) (withoutLeftovers (.idle "eth0") k) ∧
      ¬ Succeeds (restart .contrib (makeParams 1 1 2 5 ⟨1, 14⟩)) k := by
  have hLeft : ∃ left ∈ killedApply.history, left.nft.ip.isSome ∧
      Succeeds (apply .contrib (makeParams 1 1 2 5 ⟨1, 14⟩))
        (withoutLeftovers (.idle "eth0") left.closeOwnerless) ∧
      ¬ Succeeds (restart .contrib (makeParams 1 1 2 5 ⟨1, 14⟩)) left.closeOwnerless := by
    decide +kernel
  obtain ⟨left, hMem, hNft, hOther, hFails⟩ := hLeft
  exact ⟨by decide +kernel, left.closeOwnerless, killedApply_killedAt hMem, hNft, hOther, hFails⟩

end Examples

end Mapecd
