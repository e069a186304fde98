import Mapecd.Daemon.Running

/-! The takeover of the default route. The routes that are in the way are listed
by link and scope, but deleted by link alone, so some are never listed. -/
namespace Mapecd

open Effects

/-- A default route of the main table, whatever its scope and next hops. -/
def RouteMessage.IsMainDefault (msg : RouteMessage) : Prop :=
  msg.table = mainTable ∧ msg.destinationPrefixLength = 0

instance (msg : RouteMessage) : Decidable msg.IsMainDefault :=
  inferInstanceAs (Decidable (_ ∧ _))

/-- The default route of the main table is the one through `oif`, and the other
routes are as before. -/
structure TakenOver (oif : Nat) (before after : List RouteMessage) : Prop where
  only : ∃ route, after.filter RouteMessage.IsMainDefault = [route] ∧ route.ifindexes = [oif]
  others : after.filter (·.destinationPrefixLength ≠ 0) =
    before.filter (·.destinationPrefixLength ≠ 0)

/-- Every default route of the main table names a link in an `Oif` attribute, and
that link has a default route of universe scope. -/
def Enumerated (routes : List RouteMessage) : Prop :=
  ∀ msg ∈ routes, msg.IsMainDefault → ∃ oif, IsDefaultVia oif msg ∧
    ∃ listed ∈ routes, IsDefaultVia oif listed ∧ listed.scope = .universe

section Settled

variable {routes : List RouteMessage} {oif : Nat}

/-- The routes that stay are those that are not enumerated. -/
theorem settle_filter_mainDefault_eq_nil_iff :
    (settle routes).filter RouteMessage.IsMainDefault = [] ↔ Enumerated routes := by
  rw [List.filter_eq_nil_iff]
  constructor
  · intro hNone msg hMsg hMain
    by_contra hOther
    refine hNone msg (mem_settle.mpr ⟨hMsg, ?_⟩) (decide_eq_true hMain)
    rintro ⟨oif, hListed, hVia⟩
    exact hOther ⟨oif, hVia, mem_defaultRouteOifs.mp hListed⟩
  · intro hEnumerated msg hMsg hMain
    obtain ⟨hMem, hKept⟩ := mem_settle.mp hMsg
    obtain ⟨oif, hVia, hListed⟩ := hEnumerated msg hMem (of_decide_eq_true hMain)
    exact hKept ⟨oif, mem_defaultRouteOifs.mpr hListed, hVia⟩

/-- Routes that are not default routes survive. -/
theorem settle_filter_others : (settle routes).filter (·.destinationPrefixLength ≠ 0) =
    routes.filter (·.destinationPrefixLength ≠ 0) := by
  rw [settle, List.filter_filter]
  apply List.filter_congr
  intro msg _
  by_cases hDefault : msg.destinationPrefixLength = 0
  · simp [hDefault]
  · simp [hDefault, IsDefaultVia]

theorem filter_append_tunnel (routes : List RouteMessage) (oif : Nat) :
    (routes ++ [tunnelDefaultRoute oif]).filter RouteMessage.IsMainDefault =
      routes.filter RouteMessage.IsMainDefault ++ [tunnelDefaultRoute oif] := by
  rw [List.filter_append]
  rfl

/-- Beside the new route no other default route of the main table is left exactly
if all of them are enumerated. -/
theorem takenOver_iff :
    TakenOver oif routes (settle routes ++ [tunnelDefaultRoute oif]) ↔ Enumerated routes := by
  rw [← settle_filter_mainDefault_eq_nil_iff]
  constructor
  · intro h
    obtain ⟨route, hOnly, -⟩ := h.only
    rw [filter_append_tunnel] at hOnly
    rcases List.append_eq_singleton_iff.mp hOnly with ⟨hNone, -⟩ | ⟨-, hTunnel⟩
    · exact hNone
    · cases hTunnel
  · intro hNone
    constructor
    · refine ⟨tunnelDefaultRoute oif, ?_, rfl⟩
      rw [filter_append_tunnel, hNone]
      rfl
    · rw [List.filter_append, settle_filter_others]
      exact List.append_nil _

theorem Enumerated.routeFree (h : Enumerated routes) : RouteFree routes := by
  rintro ⟨present, hPresent, hTable, hDefault, -⟩
  have hNone := List.filter_eq_nil_iff.mp (settle_filter_mainDefault_eq_nil_iff.mpr h)
  exact hNone present hPresent (decide_eq_true ⟨hTable, hDefault⟩)

end Settled

/-- The default route is taken over exactly if all default routes of the main
table are enumerated. A route that is not either blocks the new one or stays
beside it. -/
theorem addIpv4DefaultRoute_takesOver_iff (oif : Nat) (w : DaemonWorld)
    (hFaults : w.faults = noFaults) (hLink : w.sys.hasLink oif) :
    (∃ w', addIpv4DefaultRoute oif w = .ok () w' ∧ TakenOver oif w.sys.routes w'.sys.routes) ↔
      Enumerated w.sys.routes := by
  have hAt : w.IsAt w.sys w.state noFaults := ⟨rfl, rfl, hFaults⟩
  constructor
  · rintro ⟨w', hRun, hTaken⟩
    have hWp : wp (addIpv4DefaultRoute oif)
        (fun _ w' => w'.sys.routes = settle w.sys.routes ++ [tunnelDefaultRoute oif])
        (fun _ _ => True) w := by
      apply wp_addIpv4DefaultRoute hAt hLink
      · intro _ w₁ h₁
        rw [h₁.sys]
        rfl
      · exact fun _ _ _ => trivial
    have hRoutes := wp_ok hWp hRun
    rw [hRoutes] at hTaken
    exact takenOver_iff.mp hTaken
  · intro hEnumerated
    apply exists_unit_of_wp fun _ (w' : DaemonWorld) => TakenOver oif w.sys.routes w'.sys.routes
    apply wp_addIpv4DefaultRoute hAt hLink
    · intro _ w₁ h₁
      rw [h₁.sys]
      exact takenOver_iff.mpr hEnumerated
    · exact fun hTaken => absurd hEnumerated.routeFree hTaken

/-- An idle kernel with the tunnel as link 3. -/
def routedWorld (routes : List RouteMessage) : DaemonWorld :=
  initialWorld (((Kernel.idle "eth0").withTunnel
    (some ⟨⟨"mape0", 1460, 2, 0, 0, ipprotoIpip, 0⟩, 3, true, ∅⟩)).withRoutes routes) noFaults none

/-- A default route through `eth0`, one with a metric beside it and a route to a network. -/
theorem addIpv4DefaultRoute_takesOver_metric :
    ∃ w', addIpv4DefaultRoute 3 (routedWorld
        [⟨mainTable, 0, .universe, [.oif 2]⟩, ⟨mainTable, 0, .other 253, [.oif 2, .priority 100]⟩,
          ⟨mainTable, 24, .other 253, [.oif 2]⟩]) = .ok () w' ∧
      TakenOver 3 [⟨mainTable, 0, .universe, [.oif 2]⟩,
        ⟨mainTable, 0, .other 253, [.oif 2, .priority 100]⟩,
        ⟨mainTable, 24, .other 253, [.oif 2]⟩] w'.sys.routes := by
  refine (addIpv4DefaultRoute_takesOver_iff 3 (routedWorld _) rfl rfl).mpr ?_
  intro msg hMsg hMain
  refine ⟨2, ?_, _, List.mem_cons_self, by decide, rfl⟩
  revert msg
  decide

/-- A default route of link scope, as of a point-to-point link, stays and collides with
the new one; with a metric it stays beside it. -/
theorem addIpv4DefaultRoute_keeps_unlisted :
    (¬ ∃ w', addIpv4DefaultRoute 3 (routedWorld [⟨mainTable, 0, .other 253, [.oif 7]⟩]) = .ok () w' ∧
      TakenOver 3 [⟨mainTable, 0, .other 253, [.oif 7]⟩] w'.sys.routes) ∧
    ¬ ∃ w', addIpv4DefaultRoute 3 (routedWorld
        [⟨mainTable, 0, .universe, [.multiPath [2, 7], .priority 100]⟩]) = .ok () w' ∧
      TakenOver 3 [⟨mainTable, 0, .universe, [.multiPath [2, 7], .priority 100]⟩] w'.sys.routes := by
  constructor
  · rintro ⟨w', hRun, -⟩
    have hFails : wp (addIpv4DefaultRoute 3) (fun _ _ => False) (fun _ _ => True)
        (routedWorld [⟨mainTable, 0, .other 253, [.oif 7]⟩]) := by decide +kernel
    exact wp_ok hFails hRun
  · rintro ⟨w', hRun, hTaken⟩
    have hTwo : wp (addIpv4DefaultRoute 3)
        (fun _ w' => (w'.sys.routes.filter RouteMessage.IsMainDefault).length = 2) (fun _ _ => True)
        (routedWorld [⟨mainTable, 0, .universe, [.multiPath [2, 7], .priority 100]⟩]) := by
      decide +kernel
    obtain ⟨route, hOnly, -⟩ := hTaken.only
    have hLength := wp_ok hTwo hRun
    rw [hOnly] at hLength
    cases hLength

end Mapecd
