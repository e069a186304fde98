import Mapecd.Daemon.NoFaults
import Mapecd.Ebpf.Loading

/-! The creation of the tunnel link, request by request. -/
namespace Mapecd

open Effects Checked

/-- Requests of `apply_step3_create_tunnel` before `RTM_NEWLINK`. -/
def requestsBeforeNewLink (config : Config) : Nat :=
  match config.tunnelMtu with
  | some _ => 1
  | none => 2

/-- The attributes of the tunnel link. -/
def tunnelSpec (config : Config) (params : MapeParams) (k : Kernel) : Ip6tnl :=
  { name := config.tunnelInterface
    mtu := config.tunnelMtu.getD (tunnelMtu k.upstream.mtu)
    link := k.upstream.ifindex
    localAddr := params.ceIpv6
    remote := params.brAddress
    proto := ipprotoIpip
    encapLimit := 0 }

/-- The kernel with a new tunnel link. -/
def Kernel.withNewTunnel (k : Kernel) (spec : Ip6tnl) (up : Bool) : Kernel :=
  k.withNextIfindex (k.nextIfindex + 1)
    |>.withTunnel (some { spec := spec, ifindex := k.nextIfindex, up := up, addrs := ∅ })

variable {config : Config} {params : MapeParams} {k : Kernel} {s : DaemonState}
  {f : Nat → Option Errno} {n : Nat} {w : DaemonWorld}

/-- The MTU of the upstream link is asked for only if none is configured. -/
theorem wp_resolveMtu {post : Nat → DaemonWorld → Prop}
    {stop : Failure MapEError → DaemonWorld → Prop} (h : w.Reached k s f (n + 1))
    (hName : k.upstream.name = config.upstreamInterface)
    (hFault : ∀ e w', f (n + 1) ≠ none → requestsBeforeNewLink config = 2 → w'.IsAt k s f →
      stop (.error e) w')
    (hDone : ∀ w', (requestsBeforeNewLink config = 2 → f (n + 1) = none) →
      w'.Reached k s f (n + requestsBeforeNewLink config) →
      post (config.tunnelMtu.getD (tunnelMtu k.upstream.mtu)) w') :
    wp (resolveMtu config) post stop w := by
  unfold resolveMtu requestsBeforeNewLink at *
  cases hMtu : config.tunnelMtu with
  | some mtu =>
      rw [hMtu] at hDone
      exact hDone w nofun h
  | none =>
      rw [hMtu] at hDone hFault
      simp only [wp_bind, getLinkMtu, findLinkByName, ← hName]
      apply wp_request_reached h (getLink_upstream k)
      · exact fun e w₁ hAhead h₁ => hFault e w₁ hAhead rfl h₁
      · exact fun w₁ hAhead h₁ => hDone w₁ (fun _ => hAhead) h₁

/-- With no tunnel there and another name upstream the link is made. -/
theorem newLink_pristine (hName : k.upstream.name = config.upstreamInterface)
    (hTunnel : k.tunnel = none) (params : MapeParams) :
    Kernel.newLink (tunnelSpec config params k) k =
      .ok ((), k.withNewTunnel (tunnelSpec config params k) false) := by
  have hFree : ¬ (k.upstream.name = (tunnelSpec config params k).name ∨ k.tunnel.isSome) := by
    rintro (hSame | hSome)
    · exact config.interfaces_ne (hName.symm.trans hSame)
    · rw [hTunnel] at hSome
      cases hSome
  rw [Kernel.newLink, if_neg hFree]
  rfl

/-- The new link is found by its name. -/
theorem getLink_newTunnel (hName : k.upstream.name = config.upstreamInterface) {spec : Ip6tnl}
    (hSpec : spec.name = config.tunnelInterface) (up : Bool) :
    Kernel.getLink config.tunnelInterface (k.withNewTunnel spec up) =
      .ok (⟨k.nextIfindex, [.mtu spec.mtu]⟩, k.withNewTunnel spec up) := by
  have hNe : ¬ (k.withNewTunnel spec up).upstream.name = config.tunnelInterface := fun hSame =>
    config.interfaces_ne (hName.symm.trans hSame)
  rw [Kernel.getLink, if_neg hNe]
  simp only [Kernel.withNewTunnel, Kernel.withTunnel_tunnel, hSpec, if_true]

theorem setLinkUp_newTunnel (spec : Ip6tnl) (up : Bool) :
    Kernel.setLinkUp k.nextIfindex (k.withNewTunnel spec up) =
      .ok ((), k.withNewTunnel spec true) := by
  simp only [Kernel.setLinkUp, Kernel.withNewTunnel, Kernel.withTunnel_tunnel, if_true]
  rfl

/-- Where a fault in step 3 strikes: up to `RTM_NEWLINK` nothing was created,
in the two requests after it the tunnel exists without a record. -/
theorem wp_applyStep3CreateTunnel {post : Unit → DaemonWorld → Prop}
    {stop : Failure MapEError → DaemonWorld → Prop} (h : w.Reached k s f n)
    (hName : k.upstream.name = config.upstreamInterface) (hTunnel : k.tunnel = none)
    (hBefore : ∀ e m w', n ≤ m → m ≤ n + requestsBeforeNewLink config → f m ≠ none →
      w'.IsAt k s f → stop (.error e) w')
    (hInside : ∀ e m w', n + requestsBeforeNewLink config < m →
      m ≤ n + requestsBeforeNewLink config + 2 → f m ≠ none →
      w'.IsAt (k.withNewTunnel (tunnelSpec config params k) false) s f → stop (.error e) w')
    (hDone : ∀ w', (∀ m, n ≤ m → m ≤ n + requestsBeforeNewLink config + 2 → f m = none) →
      w'.IsAt (k.withNewTunnel (tunnelSpec config params k) true)
        { s with tunnelIfindex := some k.nextIfindex } f → post () w') :
    wp (applyStep3CreateTunnel config params) post stop w := by
  have hBounds : 1 ≤ requestsBeforeNewLink config ∧ requestsBeforeNewLink config ≤ 2 := by
    unfold requestsBeforeNewLink
    split <;> decide
  unfold applyStep3CreateTunnel getLinkIndex findLinkByName
  simp only [wp_bind, ← hName]
  apply wp_request_reached h (getLink_upstream k) fun e w₁ hAhead =>
    hBefore e n w₁ le_rfl (by omega) hAhead
  intro w₁ hAhead₁ h₁
  apply wp_resolveMtu h₁ hName fun e w₂ hAhead hTwo =>
    hBefore e (n + 1) w₂ (by omega) (by omega) hAhead
  intro w₂ hAhead₂ h₂
  unfold createIp6tnl getLinkIndex findLinkByName
  simp only [wp_bind, wp_modifyState]
  apply wp_request_reached h₂ (newLink_pristine hName hTunnel params) fun e w₃ hAhead =>
    hBefore e (n + requestsBeforeNewLink config) w₃ (by omega) le_rfl hAhead
  intro w₃ hAhead₃ h₃
  apply wp_request_reached h₃ (getLink_newTunnel hName rfl false) fun e w₄ hAhead =>
    hInside e _ w₄ (Nat.lt_succ_self _) (by omega) hAhead
  intro w₄ hAhead₄ h₄
  apply wp_request_reached h₄ (setLinkUp_newTunnel _ false) fun e w₅ hAhead =>
    hInside e _ w₅ (by omega) (by omega) hAhead
  intro w₅ hAhead₅ h₅
  apply hDone
  · intro m hLow hHigh
    have hCases : m = n ∨ requestsBeforeNewLink config = 2 ∧ m = n + 1 ∨
        m = n + requestsBeforeNewLink config ∨ m = n + requestsBeforeNewLink config + 1 ∨
        m = n + requestsBeforeNewLink config + 1 + 1 := by omega
    rcases hCases with rfl | ⟨hTwo, rfl⟩ | rfl | rfl | rfl
    · exact hAhead₁
    · exact hAhead₂ hTwo
    · exact hAhead₃
    · exact hAhead₄
    · exact hAhead₅
  · rw [h₅.state]
    exact (h₅.withState _).toIsAt

/-- The manager is recorded, and with none there before nothing is dropped. -/
theorem wp_storeEbpf {manager : EbpfManager} {post : Unit → DaemonWorld → Prop}
    {stop : Failure MapEError → DaemonWorld → Prop} (h : w.IsAt k s f) (hEbpf : s.ebpf = none)
    (hDone : ∀ w', w'.IsAt k { s with ebpf := some manager } f → post () w') :
    wp (storeEbpf manager) post stop w := by
  obtain ⟨rfl, rfl, rfl⟩ := h
  unfold storeEbpf
  rw [wp_bind, wp_getState, hEbpf]
  exact hDone _ ⟨rfl, rfl, rfl⟩

end Mapecd
