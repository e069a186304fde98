import Mapecd.Daemon.Frame
import Mathlib.Data.List.Perm.Subperm

/-! The exact effect of each helper when no fault is injected. -/
namespace Mapecd

open Effects Checked

variable {post : Unit → DaemonWorld → Prop} {stop : Failure MapEError → DaemonWorld → Prop}
  {w : DaemonWorld} {k k' : Kernel} {s : DaemonState}

section Outcomes

/-- Tables that are there together are deleted together. -/
theorem outcome_deleteTables (hPaired : k.nft.Paired) :
    outcome (Kernel.runNft [.deleteTableIp, .deleteTableIp6]) k = k.withNft .none := by
  obtain ⟨upstream, tunnel, routes, ⟨ip, ip6⟩, _⟩ := k
  cases ip with
  | none =>
      cases ip6 with
      | none => rfl
      | some _ => cases hPaired
  | some _ =>
      cases ip6 with
      | none => cases hPaired
      | some _ => rfl

/-- An address that is not there stays away. -/
theorem outcome_delAddr6 (addr : Ipv6Addr) :
    outcome (Kernel.delAddr6 k.upstream.ifindex addr) k =
      k.withUpstreamAddrs (k.upstream.addrs.erase addr) := by
  unfold outcome Kernel.delAddr6
  rw [if_pos rfl]
  split_ifs with hMem
  · rfl
  · rw [Finset.erase_eq_of_notMem hMem]
    rfl

theorem newAddr6_mem {addr : Ipv6Addr} (hMem : addr ∈ k.upstream.addrs) :
    Kernel.newAddr6 k.upstream.ifindex addr k = .error .eexist := by
  rw [Kernel.newAddr6, if_pos rfl, if_pos hMem]

theorem newAddr6_notMem {addr : Ipv6Addr} (hNotMem : addr ∉ k.upstream.addrs) :
    Kernel.newAddr6 k.upstream.ifindex addr k =
      .ok ((), k.withUpstreamAddrs (insert addr k.upstream.addrs)) := by
  rw [Kernel.newAddr6, if_pos rfl, if_neg hNotMem]

theorem getLink_upstream (k : Kernel) : Kernel.getLink k.upstream.name k =
    .ok (⟨k.upstream.ifindex, [.mtu k.upstream.mtu]⟩, k) := by
  rw [Kernel.getLink, if_pos rfl]

end Outcomes

section Routes

/-- The routes that `del_ipv4_default_route_by_oif` deletes. -/
def IsDefaultVia (oif : Nat) (msg : RouteMessage) : Prop :=
  msg.destinationPrefixLength = 0 ∧ .oif oif ∈ msg.attributes

instance (oif : Nat) (msg : RouteMessage) : Decidable (IsDefaultVia oif msg) :=
  inferInstanceAs (Decidable (_ ∧ _))

/-- Taking away what a filter selects is filtering by its negation. -/
theorem diff_filter {α : Type} [DecidableEq α] (p : α → Bool) (l : List α) :
    l.diff (l.filter p) = l.filter fun x => !p x := by
  induction l with
  | nil => rfl
  | cons x l ih =>
      cases hx : p x with
      | true =>
          rw [List.filter_cons_of_pos hx, List.filter_cons_of_neg (by rw [hx]; decide),
            List.diff_cons, List.erase_cons_head, ih]
      | false =>
          have hNotMem : x ∉ l.filter p := fun hMem => by
            rw [(List.mem_filter.mp hMem).2] at hx
            cases hx
          rw [List.filter_cons_of_neg (by rw [hx]; decide), List.filter_cons_of_pos (by rw [hx]; rfl),
            List.cons_diff_of_not_mem hNotMem, ih]

/-- Each of the messages is still there when its turn comes. -/
theorem wp_delRoutes (msgs : List RouteMessage) (h : w.IsAt k s noFaults)
    (hPresent : msgs.Subperm k.routes)
    (hDone : ∀ w', w'.IsAt (k.withRoutes (k.routes.diff msgs)) s noFaults → post () w') :
    wp (msgs.forM fun msg => request (.netlinkError "del default route") (Kernel.delRoute msg))
      post stop w := by
  induction msgs generalizing w k with
  | nil => exact hDone w h
  | cons msg msgs ih =>
      have hMem : msg ∈ k.routes := hPresent.subset List.mem_cons_self
      rw [List.forM_eq_forM, List.forM_cons, wp_bind]
      apply wp_request_ok h
      · rw [Kernel.delRoute, if_pos hMem]
      · intro w₁ h₁
        apply ih h₁
        · have hErase := hPresent.erase msg
          rwa [List.erase_cons_head] at hErase
        · rw [List.diff_cons] at hDone
          exact hDone

/-- A single default route of the link, a multipath route or a route with a
metric: all of them are removed. -/
theorem wp_delIpv4DefaultRouteByOif (oif : Nat) (h : w.IsAt k s noFaults)
    (hDone : ∀ w', w'.IsAt (k.withRoutes (k.routes.filter fun msg => !IsDefaultVia oif msg)) s
      noFaults → post () w') :
    wp (ignore (delIpv4DefaultRouteByOif oif)) post stop w := by
  rw [ignore, wp_bind, wp_attempt]
  unfold delIpv4DefaultRouteByOif
  rw [wp_bind]
  apply wp_request_ok h rfl
  intro w₁ h₁
  apply wp_delRoutes _ h₁ List.filter_sublist.subperm
  rw [diff_filter]
  exact hDone

/-- The default routes of some links are removed, one link after the other. -/
theorem wp_removeDefaultRoutes (oifs : List Nat) (h : w.IsAt k s noFaults)
    (hDone : ∀ w', w'.IsAt (k.withRoutes
      (k.routes.filter fun msg => !decide (∃ oif ∈ oifs, IsDefaultVia oif msg))) s noFaults →
      post () w') :
    wp (oifs.forM fun oif => ignore (delIpv4DefaultRouteByOif oif)) post stop w := by
  induction oifs generalizing w k with
  | nil =>
      apply hDone w
      have hSame : (k.routes.filter fun msg => !decide (∃ oif ∈ [], IsDefaultVia oif msg)) =
          k.routes := List.filter_eq_self.mpr fun msg _ => by simp
      rw [hSame]
      exact h
  | cons oif oifs ih =>
      rw [List.forM_eq_forM, List.forM_cons, wp_bind]
      apply wp_delIpv4DefaultRouteByOif oif h
      intro w₁ h₁
      apply ih h₁
      rw [Kernel.withRoutes_routes, List.filter_filter]
      intro w₂ h₂
      apply hDone w₂
      have hBoth : (fun msg => !decide (∃ i ∈ oif :: oifs, IsDefaultVia i msg)) = fun msg =>
          (!decide (∃ i ∈ oifs, IsDefaultVia i msg)) && !decide (IsDefaultVia oif msg) := by
        funext msg
        rw [Bool.eq_iff_iff, Bool.and_eq_true, Bool.not_eq_true', Bool.not_eq_true',
          Bool.not_eq_true', decide_eq_false_iff_not, decide_eq_false_iff_not,
          decide_eq_false_iff_not, List.exists_mem_cons_iff, not_or]
        exact and_comm
      rw [hBoth]
      exact h₂

/-- The routes that survive when `add_ipv4_default_route` removes the existing
default routes. -/
def settle (routes : List RouteMessage) : List RouteMessage :=
  routes.filter fun msg => !decide (∃ oif ∈ defaultRouteOifs routes, IsDefaultVia oif msg)

/-- No default route that survives is in the way of a new one. -/
def RouteFree (routes : List RouteMessage) : Prop :=
  ¬ ∃ present ∈ settle routes, present.table = mainTable ∧
    present.destinationPrefixLength = 0 ∧ present.metric = 0

theorem newDefaultRoute_ok {oif : Nat} (hLink : k.hasLink oif)
    (hFree : ¬ ∃ present ∈ k.routes, present.table = mainTable ∧
      present.destinationPrefixLength = 0 ∧ present.metric = 0) :
    Kernel.newDefaultRoute oif (tunnelDefaultRoute oif) k =
      .ok ((), k.withRoutes (k.routes ++ [tunnelDefaultRoute oif])) := by
  rw [Kernel.newDefaultRoute, if_neg (not_not_intro hLink)]
  exact if_neg hFree

theorem newDefaultRoute_error {oif : Nat} (hLink : k.hasLink oif)
    (hTaken : ∃ present ∈ k.routes, present.table = mainTable ∧
      present.destinationPrefixLength = 0 ∧ present.metric = 0) :
    Kernel.newDefaultRoute oif (tunnelDefaultRoute oif) k = .error .eexist := by
  rw [Kernel.newDefaultRoute, if_neg (not_not_intro hLink)]
  exact if_pos hTaken

/-- The listed default routes are deleted, and the new one is added if no other one is
left in its place. -/
theorem wp_addIpv4DefaultRoute {oif : Nat} (h : w.IsAt k s noFaults) (hLink : k.hasLink oif)
    (hDone : RouteFree k.routes → ∀ w',
      w'.IsAt (k.withRoutes (settle k.routes ++ [tunnelDefaultRoute oif])) s noFaults → post () w')
    (hTaken : ¬ RouteFree k.routes → ∀ e w', stop (.error e) w') :
    wp (addIpv4DefaultRoute oif) post stop w := by
  unfold addIpv4DefaultRoute getIpv4DefaultRoutes
  simp only [wp_bind, wp_pure]
  apply wp_request_ok h rfl
  intro w₁ h₁
  apply wp_removeDefaultRoutes _ h₁
  intro w₂ h₂
  by_cases hFree : RouteFree k.routes
  · exact wp_request_ok h₂ (newDefaultRoute_ok hLink hFree) (hDone hFree)
  · apply wp_request_error h₂ (newDefaultRoute_error hLink (not_not.mp hFree))
    exact fun w₃ _ => hTaken hFree _ w₃

end Routes

section Removal

namespace Kernel

/-- The kernel after the tunnel link `oif` was removed. -/
def withoutTunnel (oif : Nat) (k : Kernel) : Kernel :=
  outcome (delLink oif) (k.withRoutes (k.routes.filter fun msg => !IsDefaultVia oif msg))

def withoutAddr6 (addr : Ipv6Addr) (k : Kernel) : Kernel :=
  k.withUpstreamAddrs (k.upstream.addrs.erase addr)

/-- What is removed or restored goes by the record `s`. -/
def unloaded (s : DaemonState) (k : Kernel) : Kernel :=
  s.ebpf.elim k fun manager => k.dropBpf manager.id

def untunneled (s : DaemonState) (k : Kernel) : Kernel :=
  s.tunnelIfindex.elim k fun oif => k.withoutTunnel oif

def restored (s : DaemonState) (k : Kernel) : Kernel :=
  k.withIpv6Forward (s.originalIpv6Forward.getD k.ipv6Forward)
    |>.withIpForward (s.originalIpForward.getD k.ipForward)

/-- The kernel after `cleanup`. -/
def cleaned (params : MapeParams) (s : DaemonState) (k : Kernel) : Kernel :=
  (k.withNft .none).unloaded s |>.untunneled s |>.withoutAddr6 params.ceIpv6 |>.restored s

theorem unloaded_eq (s : DaemonState) (k : Kernel) :
    ∃ bpf, k.unloaded s = k.withBpf bpf := by
  unfold unloaded
  cases s.ebpf with
  | none => exact ⟨k.bpf, rfl⟩
  | some manager => exact ⟨_, rfl⟩

/-- Deleting the link changes tunnel, routes and BPF objects only. -/
theorem outcome_delLink_eq (oif : Nat) (k : Kernel) :
    ∃ tunnel routes bpf, outcome (delLink oif) k =
      ((k.withTunnel tunnel).withRoutes routes).withBpf bpf := by
  unfold outcome
  cases hOp : delLink oif k with
  | error e => exact ⟨k.tunnel, k.routes, k.bpf, rfl⟩
  | ok result =>
      obtain ⟨routes, bpf, hChange⟩ := delLink_change hOp
      exact ⟨none, routes, bpf, hChange⟩

theorem withoutTunnel_eq (oif : Nat) (k : Kernel) :
    ∃ tunnel routes bpf, k.withoutTunnel oif =
      ((k.withTunnel tunnel).withRoutes routes).withBpf bpf := by
  obtain ⟨tunnel, routes, bpf, hOutcome⟩ := outcome_delLink_eq oif
    (k.withRoutes (k.routes.filter fun msg => !IsDefaultVia oif msg))
  exact ⟨tunnel, routes, bpf, hOutcome⟩

theorem untunneled_eq (s : DaemonState) (k : Kernel) :
    ∃ tunnel routes bpf, k.untunneled s = ((k.withTunnel tunnel).withRoutes routes).withBpf bpf := by
  unfold untunneled
  cases s.tunnelIfindex with
  | none => exact ⟨k.tunnel, k.routes, k.bpf, rfl⟩
  | some oif => exact withoutTunnel_eq oif k

end Kernel

end Removal

section Cleanup

/-- A change to an object that is dropped then makes no difference. -/
theorem dropBpf_modifyBpf {id : Nat} {f : BpfObject → BpfObject} (hId : ∀ obj, (f obj).id = obj.id) :
    Kernel.dropBpf id (Kernel.modifyBpf id f k) = Kernel.dropBpf id k := by
  have hBpf (bpf : List BpfObject) :
      (bpf.map fun obj => if obj.id = id then f obj else obj).filter (fun obj => obj.id ≠ id) =
        bpf.filter fun obj => obj.id ≠ id := by
    induction bpf with
    | nil => rfl
    | cons obj bpf ih =>
        rw [List.map_cons]
        by_cases hObj : obj.id = id
        · rw [if_pos hObj, List.filter_cons_of_neg (by simp [hId, hObj]),
            List.filter_cons_of_neg (by simp [hObj]), ih]
        · rw [if_neg hObj, List.filter_cons_of_pos (by simp [hObj]),
            List.filter_cons_of_pos (by simp [hObj]), ih]
  exact congrArg k.withBpf (hBpf k.bpf)

/-- Detaching changes only the object that is dropped afterwards. -/
theorem wp_takeEbpf (h : w.IsAt k s noFaults)
    (hDone : ∀ w', w'.IsAt (k.unloaded s) { s with ebpf := none } noFaults → post () w') :
    wp takeEbpf post stop w := by
  unfold Kernel.unloaded at hDone
  unfold takeEbpf
  rw [wp_bind, wp_getState, h.state]
  cases hEbpf : s.ebpf with
  | none =>
      rw [hEbpf] at hDone
      exact hDone w ⟨h.sys, h.state.trans (by rw [← hEbpf]), h.faults⟩
  | some manager =>
      rw [hEbpf] at hDone
      simp only [wp_bind, wp_modifyState, unlinkAndDrop, wp_internal, h.state]
      apply (unlinkTc_steps manager).wp_ignore_isAt
        (P := fun k' => k'.dropBpf manager.id = k.dropBpf manager.id) (h.withState _) rfl
      · rintro k₁ k₂ hDrop ⟨f, hId, rfl⟩
        rw [dropBpf_modifyBpf hId, hDrop]
      · intro k₁ w₁ hDrop h₁
        apply hDone
        rw [h₁.sys, hDrop]
        exact h₁.shift _

/-- After the deletion no link has the index. -/
theorem delAddr4_delLink (oif : Nat) (addr : Ipv4Addr) :
    Kernel.delAddr4 oif addr (outcome (Kernel.delLink oif) k) = .error .enodev := by
  unfold outcome Kernel.delLink
  cases hTunnel : k.tunnel with
  | none =>
      simp only [Kernel.delAddr4, hTunnel]
  | some tunnel =>
      by_cases hIndex : tunnel.ifindex = oif
      · simp only [hIndex, if_true, Kernel.delAddr4, Kernel.withBpf_tunnel,
          Kernel.withRoutes_tunnel, Kernel.withTunnel_tunnel]
      · simp only [hIndex, if_false, Kernel.delAddr4, hTunnel]

/-- Deleted if it was there. -/
theorem wp_ignore_delIpv4Addr (ifindex : Nat) (addr : Ipv4Addr) (h : w.IsAt k s noFaults)
    (hDone : ∀ w', w'.IsAt (outcome (Kernel.delAddr4 ifindex addr) k) s noFaults → post () w') :
    wp (ignore (delIpv4Addr ifindex addr)) post stop w := by
  rw [ignore, wp_bind, wp_attempt]
  unfold delIpv4Addr
  rw [wp_bind, wp_attempt]
  unfold outcome at hDone
  cases hOp : Kernel.delAddr4 ifindex addr k with
  | ok result =>
      rw [hOp] at hDone
      exact wp_request_ok h hOp hDone
  | error e =>
      rw [hOp] at hDone
      apply wp_request_error h hOp
      intro w₁ h₁
      dsimp only
      split_ifs
      · exact hDone w₁ h₁
      · exact hDone w₁ h₁

/-- Route and link of the recorded index go, if there is one. -/
theorem wp_cleanupTunnel {params : MapeParams} (h : w.IsAt k s noFaults)
    (hDone : ∀ w', w'.IsAt (k.untunneled s) { s with tunnelIfindex := none } noFaults → post () w') :
    wp (cleanupTunnel params) post stop w := by
  unfold Kernel.untunneled at hDone
  unfold cleanupTunnel
  rw [wp_bind, wp_getState, h.state]
  cases hTunnel : s.tunnelIfindex with
  | none =>
      rw [hTunnel] at hDone
      exact hDone w ⟨h.sys, h.state.trans (by rw [← hTunnel]), h.faults⟩
  | some oif =>
      rw [hTunnel] at hDone
      simp only [wp_bind, wp_modifyState]
      apply wp_delIpv4DefaultRouteByOif oif h
      intro w₁ h₁
      apply wp_ignore_request h₁
      intro w₂ h₂
      rw [h₂.state]
      apply wp_ignore_delIpv4Addr oif params.ipv4 (h₂.withState _)
      rw [outcome, delAddr4_delLink]
      exact hDone

/-- The CE address goes from the upstream link. -/
theorem wp_cleanupAddr6 {config : Config} {params : MapeParams} (h : w.IsAt k s noFaults)
    (hName : k.upstream.name = config.upstreamInterface)
    (hDone : ∀ w', w'.IsAt (k.withoutAddr6 params.ceIpv6) s noFaults → post () w') : wp (cleanupAddr6 config params) post stop w := by
  unfold cleanupAddr6 getLinkIndex findLinkByName
  rw [wp_bind, wp_attempt, wp_bind, ← hName]
  apply wp_request_ok h (getLink_upstream k)
  intro w₁ h₁
  apply wp_ignore_request h₁
  rw [outcome_delAddr6]
  exact hDone

/-- The recorded value is written, and nothing if there is none. -/
theorem wp_restoreIpv6Forward (h : w.IsAt k s noFaults)
    (hDone : ∀ w', w'.IsAt (k.withIpv6Forward (s.originalIpv6Forward.getD k.ipv6Forward))
      { s with originalIpv6Forward := none } noFaults → post () w') :
    wp restoreIpv6Forward post stop w := by
  unfold restoreIpv6Forward
  rw [wp_bind, wp_getState, h.state]
  cases hSaved : s.originalIpv6Forward with
  | none =>
      rw [hSaved] at hDone
      exact hDone w ⟨h.sys, h.state.trans (by rw [← hSaved]), h.faults⟩
  | some value =>
      rw [hSaved] at hDone
      simp only [wp_bind, wp_modifyState, h.state]
      exact wp_ignore_request (h.withState _) hDone

theorem wp_restoreIpForward (h : w.IsAt k s noFaults)
    (hDone : ∀ w', w'.IsAt (k.withIpForward (s.originalIpForward.getD k.ipForward))
      { s with originalIpForward := none } noFaults → post () w') :
    wp restoreIpForward post stop w := by
  unfold restoreIpForward
  rw [wp_bind, wp_getState, h.state]
  cases hSaved : s.originalIpForward with
  | none =>
      rw [hSaved] at hDone
      exact hDone w ⟨h.sys, h.state.trans (by rw [← hSaved]), h.faults⟩
  | some value =>
      rw [hSaved] at hDone
      simp only [wp_bind, wp_modifyState, h.state]
      exact wp_ignore_request (h.withState _) hDone

def DaemonState.vacated (s : DaemonState) : DaemonState :=
  { s with
    tunnelIfindex := none, originalIpForward := none, originalIpv6Forward := none, ebpf := none }

/-- The kernel behind a whole cleanup, as a function of the one before. -/
theorem wp_cleanup {config : Config} {params : MapeParams} (h : w.IsAt k s noFaults)
    (hName : k.upstream.name = config.upstreamInterface)
    (hPaired : k.nft.Paired)
    (hDone : ∀ w', w'.IsAt (k.cleaned params s) s.vacated noFaults → post () w') :
    wp (cleanup config params) post stop w := by
  unfold cleanup cleanupSysctl
  simp only [wp_bind]
  apply wp_ignore_request h
  rw [outcome_deleteTables hPaired]
  intro w₁ h₁
  apply wp_takeEbpf h₁
  intro w₂ h₂
  apply wp_cleanupTunnel h₂
  intro w₃ h₃
  apply wp_cleanupAddr6 h₃
  · obtain ⟨bpf, hUnloaded⟩ := Kernel.unloaded_eq s (k.withNft .none)
    obtain ⟨tunnel, routes, bpf', hUntunneled⟩ :=
      Kernel.untunneled_eq { s with ebpf := none } ((k.withNft .none).unloaded s)
    rw [hUntunneled, hUnloaded]
    exact hName
  intro w₄ h₄
  apply wp_restoreIpv6Forward h₄
  intro w₅ h₅
  apply wp_restoreIpForward h₅
  exact hDone

end Cleanup

end Mapecd
