import Mapecd.Daemon.Creation

/-! The kernel that `apply` and `update` leave behind when every request is
granted, written down as a function of the kernel before. -/
namespace Mapecd

open Effects Checked

namespace Kernel

/-- A new tunnel with its address, default route and BPF object. -/
def linked (config : Config) (params : MapeParams) (cfg : PsidConfig) (k : Kernel) : Kernel :=
  k.withNewTunnel (tunnelSpec config params k) true
    |>.withTunnel (some
      { spec := tunnelSpec config params k, ifindex := k.nextIfindex, up := true
        addrs := insert params.ipv4 ∅ })
    |>.withRoutes (settle k.routes ++ [tunnelDefaultRoute k.nextIfindex])
    |>.withObject ⟨k.nextBpf, cfg, some k.nextIfindex, some k.nextIfindex⟩

/-- The ruleset on top of the tables that are there. -/
def ruled (config : Config) (params : MapeParams) (cfg : PsidConfig) (ranges : List RangeInclusive)
    (k : Kernel) : Kernel :=
  k.withNft (installedTables k.nft ranges config.tunnelInterface params.brAddress
    (cfg.stagingMin, cfg.stagingMax))

def forwarding (k : Kernel) : Kernel := (k.withIpForward "1").withIpv6Forward "1"

def withAddr6 (addr : Ipv6Addr) (k : Kernel) : Kernel :=
  k.withUpstreamAddrs (insert addr k.upstream.addrs)

end Kernel

/-- The record of the new tunnel. -/
def DaemonState.linked (config : Config) (k : Kernel) (s : DaemonState) : DaemonState :=
  { s with
    tunnelIfindex := some k.nextIfindex
    ebpf := some
      { id := k.nextBpf, interface := some config.tunnelInterface
        egressLinkId := some k.nextIfindex, ingressLinkId := some k.nextIfindex } }

/-- No earlier tunnel is left. -/
structure Ready (config : Config) (k : Kernel) : Prop where
  name : k.upstream.name = config.upstreamInterface
  tunnel : k.tunnel = none
  bpf : k.bpf = []

/-- What the parameters determine: the ranges of the daemon and the record of the
BPF programs. -/
structure Derived (params : MapeParams) (cfg : PsidConfig) (ranges : List RangeInclusive) : Prop where
  ranges : calcPortRanges params.rule.portParams params.psid = some ranges
  psidConfig : psidConfigFromParams params = some (.ok cfg)

/-- Configuration and ranges are functions of the parameters. -/
theorem Derived.unique {params : MapeParams} {cfg cfg' : PsidConfig}
    {ranges ranges' : List RangeInclusive} (h : Derived params cfg ranges)
    (h' : Derived params cfg' ranges') : cfg' = cfg ∧ ranges' = ranges := by
  have hConfig := h'.psidConfig.symm.trans h.psidConfig
  have hRanges := h'.ranges.symm.trans h.ranges
  cases hConfig
  cases hRanges
  exact ⟨rfl, rfl⟩

variable {config : Config} {params : MapeParams} {k : Kernel} {s : DaemonState} {w : DaemonWorld} {post : Unit → DaemonWorld → Prop}
  {stop : Failure MapEError → DaemonWorld → Prop}

theorem newAddr4_ok {tunnel : TunnelLink} (hTunnel : k.tunnel = some tunnel) {addr : Ipv4Addr}
    (hNotMem : addr ∉ tunnel.addrs) :
    Kernel.newAddr4 tunnel.ifindex addr k =
      .ok ((), k.withTunnel (some { tunnel with addrs := insert addr tunnel.addrs })) := by
  simp only [Kernel.newAddr4, hTunnel, if_true, hNotMem, if_false]

theorem hasLink_tunnel {tunnel : TunnelLink} (hTunnel : k.tunnel = some tunnel) :
    k.hasLink tunnel.ifindex := by
  simp [Kernel.hasLink, hTunnel]

theorem linkIndex_tunnel {tunnel : TunnelLink} (hTunnel : k.tunnel = some tunnel)
    (hName : k.upstream.name = config.upstreamInterface)
    (hSpec : tunnel.spec.name = config.tunnelInterface) :
    k.linkIndex config.tunnelInterface = some tunnel.ifindex := by
  have hNe : ¬ k.upstream.name = config.tunnelInterface := fun hSame =>
    config.interfaces_ne (hName.symm.trans hSame)
  simp only [Kernel.linkIndex, hNe, if_false, hTunnel, Option.bind_some, hSpec, if_true]

/-- Steps 3 to 6 fail only for a default route in the way, for parameters without
ranges or BPF record, and in their last request for an empty list of ranges. -/
theorem wp_steps3To6 {operation : String} (h : w.IsAt k s noFaults) (hReady : Ready config k)
    (hEbpf : s.ebpf = none)
    (hDone : ∀ cfg ranges, RouteFree k.routes → Derived params cfg ranges → ranges ≠ [] → ∀ w',
      w'.IsAt ((k.linked config params cfg).ruled config params cfg ranges) (s.linked config k)
        noFaults → post () w')
    (hStop : ∀ f w', (RouteFree k.routes → ∀ cfg ranges, Derived params cfg ranges →
      ranges = [] ∧ f = .error .emptyPortRanges ∧
        w'.IsAt (k.linked config params cfg) (s.linked config k) noFaults) → stop f w') :
    wp (applyStep3CreateTunnel config params)
      (fun _ w' => wp (applySteps4To6 config params operation) post stop w') stop w := by
  apply wp_applyStep3CreateTunnel ⟨h, rfl⟩ hReady.name hReady.tunnel
  · exact fun _ _ _ _ _ hAhead _ => absurd rfl hAhead
  · exact fun _ _ _ _ _ hAhead _ => absurd rfl hAhead
  intro w₁ _ h₁
  unfold applySteps4To6 recordedTunnel
  simp only [wp_bind, wp_getState, h₁.state, wp_pure]
  apply wp_request_ok h₁ (newAddr4_ok rfl (Finset.notMem_empty _))
  intro w₂ h₂
  apply wp_addIpv4DefaultRoute h₂ (hasLink_tunnel rfl) _ fun hTaken e w₃ =>
    hStop _ w₃ fun hFree => absurd hFree hTaken
  intro hFree w₃ h₃
  unfold applyStep5_5Ebpf
  obtain ⟨result, hResult⟩ := Option.isSome_iff_exists.mp (psidConfigFromParams_isSome params)
  simp only [wp_bind, hResult, wp_checked_some]
  cases result with
  | error e =>
      refine hStop _ w₃ fun _ cfg ranges hDerived => ?_
      cases hResult.symm.trans hDerived.psidConfig
  | ok cfg =>
      have hTunnel : w₃.sys.tunnel = (k.linked config params cfg).tunnel := by
        rw [h₃.sys]
        rfl
      have hName : w₃.sys.upstream.name = config.upstreamInterface := by
        rw [h₃.sys]
        exact hReady.name
      have hLinkIndex := linkIndex_tunnel hTunnel hName rfl
      rw [h₃.sys] at hLinkIndex
      apply wp_loadAndLink h₃ hReady.bpf
      · intro ifindex w₄ hIndex h₄
        obtain rfl : ifindex = k.nextIfindex := Option.some.inj (hIndex.symm.trans hLinkIndex)
        apply wp_storeEbpf h₄ hEbpf
        intro w₅ h₅
        cases hRanges : calcPortRanges params.rule.portParams params.psid with
        | none =>
            unfold applyStep6Nftables
            rw [wp_bind, hRanges]
            refine hStop _ w₅ fun _ cfg' ranges hDerived => ?_
            cases hRanges.symm.trans hDerived.ranges
        | some ranges =>
            have hDerived : Derived params cfg ranges := ⟨hRanges, hResult⟩
            apply wp_applyStep6Nftables h₅ hRanges hResult
            · intro hNil w₆ h₆
              refine hStop _ w₆ fun _ cfg' ranges' hDerived' => ?_
              obtain ⟨rfl, rfl⟩ := hDerived.unique hDerived'
              exact ⟨hNil, rfl, h₆⟩
            · exact fun hFaults => absurd rfl hFaults
            · exact fun hNonempty w₆ h₆ => hDone cfg ranges hFree hDerived hNonempty w₆ h₆
      · rintro (hFaults | hNone)
        · exact absurd rfl hFaults
        · cases hNone.symm.trans hLinkIndex

/-- The sysctls as they were, saved before they are written. -/
def DaemonState.saved (k : Kernel) (s : DaemonState) : DaemonState :=
  { s with originalIpForward := some k.ipForward, originalIpv6Forward := some k.ipv6Forward }

/-- Without faults both values are read, recorded and set to one. -/
theorem wp_applyStep1Sysctl (h : w.IsAt k s noFaults)
    (hDone : ∀ w', w'.IsAt k.forwarding (s.saved k) noFaults → post () w') :
    wp applyStep1Sysctl post stop w := by
  unfold applyStep1Sysctl readSysctl writeSysctl
  simp only [wp_bind, wp_modifyState]
  apply wp_request_ok h rfl
  intro w₁ h₁
  rw [h₁.state]
  apply wp_request_ok (h₁.withState _) rfl
  intro w₂ h₂
  apply wp_request_ok h₂ rfl
  intro w₃ h₃
  rw [h₃.state]
  exact wp_request_ok (h₃.withState _) rfl hDone

/-- The kernel after `apply`, and the kernel when the list of ranges is empty. -/
theorem wp_apply (h : w.IsAt k s noFaults) (hReady : Ready config k) (hEbpf : s.ebpf = none)
    (hDone : ∀ cfg ranges, params.ceIpv6 ∉ k.upstream.addrs → RouteFree k.routes →
      Derived params cfg ranges → ranges ≠ [] → ∀ w',
      w'.IsAt (((k.forwarding.withAddr6 params.ceIpv6).linked config params cfg).ruled
        config params cfg ranges) ((s.saved k).linked config k) noFaults → post () w')
    (hStop : ∀ f w', (params.ceIpv6 ∉ k.upstream.addrs → RouteFree k.routes →
      ∀ cfg ranges, Derived params cfg ranges → ranges = [] ∧ f = .error .emptyPortRanges ∧
        w'.IsAt ((k.forwarding.withAddr6 params.ceIpv6).linked config params cfg)
          ((s.saved k).linked config k) noFaults) → stop f w') :
    wp (apply config params) post stop w := by
  unfold apply applyStep2AddIpv6 getLinkIndex findLinkByName
  simp only [wp_bind]
  apply wp_applyStep1Sysctl h
  intro w₁ h₁
  rw [← hReady.name]
  apply wp_request_ok h₁ (getLink_upstream _)
  intro w₂ h₂
  by_cases hCe : params.ceIpv6 ∈ k.upstream.addrs
  · apply wp_request_error h₂ (newAddr6_mem hCe)
    exact fun w₃ _ => hStop _ w₃ fun hNotMem => absurd hCe hNotMem
  · apply wp_request_ok h₂ (newAddr6_notMem hCe)
    intro w₃ h₃
    apply wp_steps3To6 h₃ ⟨hReady.name, hReady.tunnel, hReady.bpf⟩ hEbpf
    · exact fun cfg ranges => hDone cfg ranges hCe
    · exact fun f w₄ hWhy => hStop f w₄ fun _ => hWhy

end Mapecd
