import Mapecd.Daemon.PathIndependence
import Mapecd.Daemon.Stays

/-! The order of nft, BPF and tunnel operations: a staging port leaves the tunnel
only if nothing translates it back. -/
namespace Mapecd

open Effects Kernel

/-- The masquerade rule is installed. -/
def Masquerades (k : Kernel) : Prop := ∃ table ∈ k.nft.ip, table.postrouting ≠ []

/-- The egress program is linked on the tunnel. -/
def EgressLinked (k : Kernel) : Prop :=
  ∃ tunnel ∈ k.tunnel, ∃ obj ∈ k.bpf, obj.egress = some tunnel.ifindex

def NoLeak (k : Kernel) : Prop := Masquerades k → k.tunnel.isSome → EgressLinked k

instance (k : Kernel) : Decidable (Masquerades k) :=
  inferInstanceAs (Decidable (∃ table ∈ k.nft.ip, _ ≠ _))

instance (k : Kernel) : Decidable (EgressLinked k) :=
  inferInstanceAs (Decidable (∃ tunnel ∈ k.tunnel, ∃ obj ∈ k.bpf, _ = _))

instance (k : Kernel) : Decidable (NoLeak k) := inferInstanceAs (Decidable (_ → _ → _))

/-- An event that `update` handles changes neither the CE address nor the BR. -/
def KeepsTunnel (config : Config) (w : DaemonWorld) (event : DaemonEvent) : Prop :=
  ∀ new ∈ event.newParams config w.state, ∀ old ∈ w.state.params,
    old.rule.portParams = new.rule.portParams →
      old.ceIpv6 = new.ceIpv6 ∧ old.brAddress = new.brAddress

instance (config : Config) (w : DaemonWorld) (event : DaemonEvent) :
    Decidable (KeepsTunnel config w event) :=
  inferInstanceAs (Decidable (∀ new ∈ event.newParams config w.state, ∀ old ∈ w.state.params,
    _ = _ → _ ∧ _))

/-- Neither table is there. -/
structure Unmasked (config : Config) (k : Kernel) : Prop where
  name : k.upstream.name ≠ config.tunnelInterface
  nft : k.nft = .none

/-- The egress program is linked, with or without tables. -/
structure Translated (config : Config) (k : Kernel) : Prop where
  name : k.upstream.name ≠ config.tunnelInterface
  paired : k.nft.Paired
  linked : EgressLinked k

section Kernels

variable {config : Config} {k k' : Kernel}

theorem Unmasked.noLeak (h : Unmasked config k) : NoLeak k := by
  intro ⟨table, hTable, _⟩
  rw [h.nft] at hTable
  cases hTable

theorem Translated.noLeak (h : Translated config k) : NoLeak k := fun _ _ => h.linked

theorem Unmasked.bpfChange (h : Unmasked config k) (hChange : BpfChange k k') : Unmasked config k' := by
  obtain ⟨_, _, rfl⟩ := hChange
  exact ⟨h.name, h.nft⟩

theorem Unmasked.tunnelChange (h : Unmasked config k) (hChange : TunnelChange k k') :
    Unmasked config k' := by
  obtain ⟨_, _, rfl⟩ := hChange
  exact ⟨h.name, h.nft⟩

theorem Unmasked.routesChange (h : Unmasked config k) (hChange : RoutesChange k k') :
    Unmasked config k' := by
  obtain ⟨_, rfl⟩ := hChange
  exact ⟨h.name, h.nft⟩

/-- Without an nft run there are no tables. -/
theorem unmasked_closed : Closed config (Unmasked config) where
  sysctl _ _ h hChange := by
    obtain ⟨_, _, rfl⟩ := hChange
    exact ⟨h.name, h.nft⟩
  upstreamAddrs _ _ h hChange := by
    obtain ⟨_, rfl⟩ := hChange
    exact ⟨h.name, h.nft⟩
  delAddr4 _ _ h hChange := by
    rcases hChange with (rfl | ⟨_, _, _, _, rfl⟩) | ⟨_, _, rfl⟩
    · exact h
    · exact ⟨h.name, h.nft⟩
    · exact ⟨h.name, h.nft⟩
  newLink _ _ _ _ h hOp := h.tunnelChange (newLink_change hOp)
  setLinkUp _ _ _ h hOp := h.tunnelChange (setLinkUp_change hOp)
  delLink _ _ _ h hOp := by
    obtain ⟨_, _, rfl⟩ := delLink_change hOp
    exact ⟨h.name, h.nft⟩
  delRoute _ _ _ h hOp := h.routesChange (delRoute_change hOp)
  newRoute _ _ _ h hOp := h.routesChange (newDefaultRoute_change hOp)
  loadBpf _ _ _ h hOp := h.bpfChange (loadBpf_change hOp)
  setConfigMap _ _ _ _ h hOp := h.bpfChange (setConfigMap_change hOp).bpfChange
  attachTc _ _ _ _ _ h hOp := h.bpfChange (attachTc_change hOp).bpfChange
  detachTc _ _ _ _ h hOp := h.bpfChange (detachTc_change hOp).bpfChange
  dropBpf id k h := h.bpfChange (dropBpf_change id k)

/-- What `update` does to a tunnel that it keeps. -/
theorem Translated.tunnelAddrsChange (h : Translated config k) (hChange : TunnelAddrsChange k k') :
    Translated config k' := by
  rcases hChange with rfl | ⟨tunnel, up, addrs, hTunnel, rfl⟩
  · exact h
  · obtain ⟨t, ht, obj, hObj, hEgress⟩ := h.linked
    cases hTunnel.symm.trans ht
    exact ⟨h.name, h.paired, _, rfl, obj, hObj, hEgress⟩

theorem Translated.routesChange (h : Translated config k) (hChange : RoutesChange k k') :
    Translated config k' := by
  obtain ⟨_, rfl⟩ := hChange
  exact ⟨h.name, h.paired, h.linked⟩

theorem Translated.nftChange (h : Translated config k) (hChange : NftChange k k') :
    Translated config k' := by
  obtain ⟨tables, hPaired, rfl⟩ := hChange
  exact ⟨h.name, hPaired, h.linked⟩

/-- Modifying an object without touching its egress link. -/
theorem EgressLinked.modifyBpf (h : EgressLinked k) (id : Nat) {f : BpfObject → BpfObject}
    (hEgress : ∀ obj, (f obj).egress = obj.egress) : EgressLinked (Kernel.modifyBpf id f k) := by
  obtain ⟨tunnel, hTunnel, obj, hObj, hLinked⟩ := h
  refine ⟨tunnel, hTunnel, _, List.mem_map_of_mem hObj, ?_⟩
  split_ifs
  · rw [hEgress, hLinked]
  · exact hLinked

theorem Translated.setConfigMap (h : Translated config k) {id : Nat} {cfg : PsidConfig}
    (hOp : Kernel.setConfigMap id cfg k = .ok ((), k')) : Translated config k' := by
  cases hOp
  exact ⟨h.name, h.paired, h.linked.modifyBpf id fun _ => rfl⟩

theorem Translated.cache (h : Translated config k) (cache : Option (List MapRule)) :
    Translated config (k.withRulesCache cache) := ⟨h.name, h.paired, h.linked⟩

theorem Unmasked.cache (h : Unmasked config k) (cache : Option (List MapRule)) :
    Unmasked config (k.withRulesCache cache) := ⟨h.name, h.nft⟩

/-- The object has been loaded. -/
def Loaded (id : Nat) (k : Kernel) : Prop := ∃ obj ∈ k.bpf, obj.id = id

/-- Attaching the egress program links it on the tunnel. -/
theorem Unmasked.attachTc (h : Unmasked config k) {id ifindex : Nat} (hLoaded : Loaded id k)
    (hOp : Kernel.attachTc id .egress config.tunnelInterface k = .ok (ifindex, k')) :
    EgressLinked k' := by
  unfold Kernel.attachTc at hOp
  split at hOp
  · rename_i hIndex
    cases hOp
    rw [Kernel.linkIndex, if_neg h.name] at hIndex
    obtain ⟨tunnel, hTunnel, hSome⟩ := Option.bind_eq_some_iff.mp hIndex
    split_ifs at hSome
    cases hSome
    obtain ⟨obj, hObj, hId⟩ := hLoaded
    exact ⟨tunnel, hTunnel, _, List.mem_map_of_mem hObj, by rw [if_pos hId]; rfl⟩
  · cases hOp

theorem EgressLinked.attachIngress (h : EgressLinked k) {id ifindex : Nat} {name : String}
    (hOp : Kernel.attachTc id .ingress name k = .ok (ifindex, k')) : EgressLinked k' := by
  unfold Kernel.attachTc at hOp
  split at hOp
  · cases hOp
    exact h.modifyBpf id fun _ => rfl
  · cases hOp

end Kernels

section Programs

variable {config : Config} {params : MapeParams} {w : DaemonWorld} {s : DaemonState}
  {post : Unit → DaemonWorld → Prop} {stop : Failure MapEError → DaemonWorld → Prop}
  {P : Kernel → Prop} {f : Nat → Option Errno}

/-- The request rule for a set of kernels that the program is in, all states on the way
being in `P`. -/
theorem wp_request_within {α : Type} {S : Kernel → Prop} (S' : α → Kernel → Prop)
    {toError : Option Errno → MapEError} {op : Operation Kernel Errno α}
    {post : α → DaemonWorld → Prop} (h : w.Within S P f)
    (hOp : ∀ k a k', S k → op k = .ok (a, k') → S' a k') (hSP : ∀ a k, S' a k → P k)
    (hRefused : ∀ e w', w'.state = w.state → w'.Within S P f → stop (.error e) w')
    (hDone : ∀ a w', w'.state = w.state → w'.Within (S' a) P f → post a w') :
    wp (request toError op) post stop w := by
  unfold request
  rw [wp_mapErr]
  exact h.wp_issue hOp hSP (fun e => hRefused (toError (some e))) hDone

/-- A new object, without tables. -/
theorem wp_load_within {cfg : PsidConfig} {post : EbpfManager → DaemonWorld → Prop}
    (hP : ∀ k, Unmasked config k → P k) (h : w.Within (Unmasked config) P f)
    (hErr : ∀ e w', w'.Within (Unmasked config) P f → stop (.error e) w')
    (hOk : ∀ manager w', w'.state = w.state →
      w'.Within (fun k => Unmasked config k ∧ Loaded manager.id k) P f → post manager w') :
    wp (EbpfManager.load cfg) post stop w := by
  unfold EbpfManager.load EbpfManager.setConfigMap
  rw [wp_bind]
  apply wp_request_within (fun id k => Unmasked config k ∧ Loaded id k) h
  · intro k id k' hk hOp
    refine ⟨hk.bpfChange (loadBpf_change hOp), ?_⟩
    cases hOp
    exact ⟨_, List.mem_append_right _ List.mem_cons_self, rfl⟩
  · exact fun _ k hk => hP k hk.1
  · exact fun e w₁ _ h₁ => hErr _ w₁ h₁
  · intro id w₁ hState₁ h₁
    rw [wp_bind]
    apply wp_orDrop
    apply wp_request_within (fun _ k => Unmasked config k ∧ Loaded id k) h₁
    · intro k _ k' ⟨hk, obj, hObj, hId⟩ hOp
      refine ⟨hk.bpfChange (setConfigMap_change hOp).bpfChange, ?_⟩
      cases hOp
      refine ⟨_, List.mem_map_of_mem hObj, ?_⟩
      rw [if_pos hId]
      exact hId
    · exact fun _ k hk => hP k hk.1
    · intro e w₂ _ h₂
      exact hErr _ _ (h₂.shift hP (h₂.now.1.bpfChange (dropBpf_change id _)))
    · exact fun _ w₂ hState₂ h₂ => hOk _ w₂ (hState₂.trans hState₁) h₂

/-- The loaded object is linked on the tunnel. -/
theorem wp_linkTc_within {manager : EbpfManager} {post : EbpfManager → DaemonWorld → Prop}
    (hP : ∀ k, Unmasked config k → P k)
    (h : w.Within (fun k => Unmasked config k ∧ Loaded manager.id k) P f)
    (hErr : ∀ e w', w'.Within (Unmasked config) P f → stop (.error e) w')
    (hOk : ∀ linked w', w'.state = w.state →
      w'.Within (fun k => Unmasked config k ∧ EgressLinked k) P f → post linked w') :
    wp (manager.linkTc config.tunnelInterface) post stop w := by
  have hSame {α : Type} {S : Kernel → Prop} {op : Operation Kernel Errno α}
      {toError : Option Errno → MapEError} {w₁ : DaemonWorld} {post : α → DaemonWorld → Prop}
      (h₁ : w₁.Within S P f) (hS : ∀ k, S k → Unmasked config k)
      (hOp : ∀ k a k', op k = .ok (a, k') → Unchanged k k')
      (hDone : ∀ a w', w'.state = w₁.state → w'.Within S P f → post a w') :
      wp (request toError op) post stop w₁ := by
    apply wp_request_within (fun _ => S) h₁
    · exact fun k a k' hk hOk => unchanged_closed k k' hk (hOp k a k' hOk)
    · exact fun _ k hk => hP k (hS k hk)
    · exact fun e w₂ _ h₂ => hErr _ w₂ (h₂.weaken hS)
    · exact hDone
  have hProgram (w₁ : DaemonWorld) (hState₁ : w₁.state = w.state)
      (h₁ : w₁.Within (fun k => Unmasked config k ∧ Loaded manager.id k) P f) :
      wp (do
        request (.ebpfError "tc_egress load failed") Kernel.loadProgram
        let egressLinkId ← request (.ebpfError "tc_egress attach failed")
          (Kernel.attachTc manager.id .egress config.tunnelInterface)
        request (.ebpfError "tc_ingress load failed") Kernel.loadProgram
        let ingressLinkId ← request (.ebpfError "tc_ingress attach failed")
          (Kernel.attachTc manager.id .ingress config.tunnelInterface)
        return { manager with
          interface := some config.tunnelInterface
          egressLinkId := some egressLinkId
          ingressLinkId := some ingressLinkId }) post stop w₁ := by
    rw [wp_bind]
    apply hSame h₁ (fun _ hk => hk.1) fun _ _ _ hOp => loadProgram_unchanged hOp
    intro _ w₂ hState₂ h₂
    rw [wp_bind]
    apply wp_request_within (fun _ k => Unmasked config k ∧ EgressLinked k) h₂
    · exact fun k ifindex k' hk hOp =>
        ⟨hk.1.bpfChange (attachTc_change hOp).bpfChange, hk.1.attachTc hk.2 hOp⟩
    · exact fun _ k hk => hP k hk.1
    · exact fun e w₃ _ h₃ => hErr _ w₃ (h₃.weaken fun _ hk => hk.1)
    intro egress w₃ hState₃ h₃
    rw [wp_bind]
    apply hSame h₃ (fun _ hk => hk.1) fun _ _ _ hOp => loadProgram_unchanged hOp
    intro _ w₄ hState₄ h₄
    rw [wp_bind]
    apply wp_request_within (fun _ k => Unmasked config k ∧ EgressLinked k) h₄
    · exact fun k ifindex k' hk hOp =>
        ⟨hk.1.bpfChange (attachTc_change hOp).bpfChange, hk.2.attachIngress hOp⟩
    · exact fun _ k hk => hP k hk.1
    · exact fun e w₅ _ h₅ => hErr _ w₅ (h₅.weaken fun _ hk => hk.1)
    · exact fun ingress w₅ hState₅ h₅ =>
        hOk _ w₅ (hState₅.trans (hState₄.trans (hState₃.trans (hState₂.trans hState₁)))) h₅
  -- the qdisc may be there already
  unfold EbpfManager.linkTc
  rw [wp_bind, ignore, wp_bind, wp_attempt]
  apply wp_request_within (fun _ k => Unmasked config k ∧ Loaded manager.id k) h
  · intro k _ k' hk hOp
    cases addClsact_unchanged hOp
    exact hk
  · exact fun _ k hk => hP k hk.1
  · exact fun _ w₁ => hProgram w₁
  · exact fun _ w₁ => hProgram w₁

/-- Step 5.5 of a new tunnel. -/
theorem wp_applyStep5_5Ebpf_within (hP : ∀ k, Unmasked config k → P k)
    (h : w.Within (Unmasked config) P f) (hEbpf : w.state.ebpf = none)
    (hErr : ∀ e w', w'.Within (Unmasked config) P f → stop e w')
    (hOk : ∀ w', w'.Within (fun k => Unmasked config k ∧ EgressLinked k) P f → post () w') :
    wp (applyStep5_5Ebpf config params) post stop w := by
  obtain ⟨result, hResult⟩ := Option.isSome_iff_exists.mp (psidConfigFromParams_isSome params)
  unfold applyStep5_5Ebpf
  simp only [wp_bind, hResult, wp_checked_some]
  cases result with
  | error e => exact hErr _ w h
  | ok cfg =>
      apply wp_load_within hP h fun e w₁ h₁ => hErr _ w₁ h₁
      intro manager w₁ hState₁ h₁
      apply wp_orDrop
      apply wp_linkTc_within hP h₁
      · exact fun e w₂ h₂ => hErr _ _ (h₂.shift hP (h₂.now.bpfChange (dropBpf_change _ _)))
      · intro linked w₂ hState₂ h₂
        unfold storeEbpf
        rw [wp_bind, wp_getState, hState₂, hState₁, hEbpf]
        exact hOk _ (h₂.withState _)

/-- Only an nft run that succeeds changes anything. -/
theorem wp_applyStep6Nftables_within {S : Kernel → Prop} (S' : Kernel → Prop) (h : w.Within S P f)
    (hNft : ∀ k k', S k → NftChange k k' → S' k') (hSP : ∀ k, S' k → P k)
    (hErr : ∀ e w', w'.Within S P f → stop e w') (hOk : ∀ w', w'.Within S' P f → post () w') :
    wp (applyStep6Nftables config params) post stop w := by
  unfold applyStep6Nftables applyRuleset
  rw [wp_bind]
  cases calcPortRanges params.rule.portParams params.psid with
  | none => exact hErr _ w h
  | some ranges =>
      rw [wp_checked_some, wp_bind]
      cases psidConfigFromParams params with
      | none => exact hErr _ w h
      | some psidConfig =>
          rw [wp_checked_some]
          split_ifs
          · exact hErr _ w h
          · apply wp_request_within (fun _ => S') h
            · exact fun k _ k' hk hOp => hNft k k' hk (runNft_generate_change hOp)
            · exact fun _ => hSP
            · exact fun e w₁ _ h₁ => hErr _ w₁ h₁
            · exact fun _ w₁ _ h₁ => hOk w₁ h₁

/-- A part of `apply` before the tables, with no manager stored. -/
theorem wp_unmasked {α : Type} {x : DaemonM α} {post : α → DaemonWorld → Prop}
    (hx : Stays (Unmasked config) x) (h : w.Within (Unmasked config) NoLeak f)
    (hEbpf : wp x (fun _ w' => w'.state.ebpf = none) (fun _ _ => True) w)
    (hPost : ∀ a w', w'.state.ebpf = none → w'.Within (Unmasked config) NoLeak f → post a w') :
    wp x post (fun _ w' => w'.Within (Unmasked config) NoLeak f) w :=
  wp_mono (wp_and (hx NoLeak f (fun _ hk => hk.noLeak) w h) hEbpf)
    (fun a w' h' => hPost a w' h'.2 h'.1) fun _ _ h' => h'.1

theorem wp_ebpf_of_steps {α : Type} {x : DaemonM α} {R : Kernel → Kernel → Prop} (hx : Steps R x)
    (hEbpf : w.state.ebpf = none) :
    wp x (fun _ w' => w'.state.ebpf = none) (fun _ _ => True) w :=
  hx.wp_state (fun _ w' hState => by rw [hState, hEbpf]) fun _ _ _ => trivial

/-- Steps 4 to 6 of a new tunnel: the tables come last. -/
theorem wp_applySteps4To6_within {operation : String}
    (h : w.Within (Unmasked config) NoLeak f) (hEbpf : w.state.ebpf = none) :
    wp (applySteps4To6 config params operation)
      (fun _ w' => w'.Within (Translated config) NoLeak f)
      (fun _ w' => w'.Within (Unmasked config) NoLeak f) w := by
  unfold applySteps4To6 recordedTunnel
  simp only [wp_bind, wp_getState]
  cases w.state.tunnelIfindex with
  | none => exact h
  | some oif =>
      rw [wp_pure]
      apply wp_unmasked ((addIpv4Addr_steps _ _).stays unmasked_closed.tunnelAddrs) h
        (wp_ebpf_of_steps (addIpv4Addr_steps _ _) hEbpf)
      intro _ w₁ hEbpf₁ h₁
      apply wp_unmasked (unmasked_closed.addIpv4DefaultRoute oif) h₁
        (wp_ebpf_of_steps (addIpv4DefaultRoute_steps oif) hEbpf₁)
      intro _ w₂ hEbpf₂ h₂
      apply wp_applyStep5_5Ebpf_within (fun _ hk => hk.noLeak) h₂ hEbpf₂ fun _ _ h' => h'
      intro w₃ h₃
      apply wp_applyStep6Nftables_within (Translated config) h₃
      · rintro k _ ⟨hk, hLinked⟩ ⟨tables, hPaired, rfl⟩
        exact ⟨hk.name, hPaired, hLinked⟩
      · exact fun _ hk => hk.noLeak
      · exact fun _ w₄ h₄ => h₄.weaken fun _ hk => hk.1
      · exact fun _ h₄ => h₄

/-- `apply` without tables, and without a record. -/
theorem wp_apply_within (h : w.Within (Unmasked config) NoLeak f) (hEbpf : w.state.ebpf = none)
    (hRanges : (calcPortRanges params.rule.portParams params.psid).isSome) :
    wp (apply config params)
      (fun _ w' => w'.Within (Translated config) NoLeak f ∧ w'.state.Installed ∧
        w'.state.inputs = w.state.inputs)
      (fun failure w' => failure ≠ .panic ∧ w'.Within (Unmasked config) NoLeak f) w := by
  have hKernel : wp (apply config params)
      (fun _ w' => w'.Within (Translated config) NoLeak f)
      (fun _ w' => w'.Within (Unmasked config) NoLeak f) w := by
    unfold apply
    simp only [wp_bind]
    have hEbpf₁ : wp applyStep1Sysctl (fun _ w' => w'.state.ebpf = none) (fun _ _ => True) w := by
      apply wp_applyStep1Sysctl_state rfl _ fun _ _ _ => trivial
      exact fun _ _ w' hState => by rw [hState, ← hEbpf]
    apply wp_unmasked unmasked_closed.applyStep1Sysctl h hEbpf₁
    intro _ w₁ hEbpf₁ h₁
    apply wp_unmasked (unmasked_closed.applyStep2AddIpv6 params) h₁
      (wp_ebpf_of_steps (applyStep2AddIpv6_steps config params) hEbpf₁)
    intro _ w₂ hEbpf₂ h₂
    have hEbpf₃ : wp (applyStep3CreateTunnel config params) (fun _ w' => w'.state.ebpf = none)
        (fun _ _ => True) w₂ := by
      apply wp_applyStep3CreateTunnel_state rfl _ fun _ _ _ => trivial
      exact fun _ w' hState => by rw [hState, ← hEbpf₂]
    apply wp_unmasked (unmasked_closed.applyStep3CreateTunnel params) h₂ hEbpf₃
    exact fun _ w₃ hEbpf₃ h₃ => wp_applySteps4To6_within h₃ hEbpf₃
  have hRecord : wp (apply config params)
      (fun _ w' => w'.state.Installed ∧ w'.state.inputs = w.state.inputs)
      (fun failure _ => failure ≠ .panic) w :=
    wp_apply_state rfl hRanges (fun _ hInstalled hInputs => ⟨hInstalled, hInputs⟩)
      fun _ _ _ hPanic => by cases hPanic
  exact wp_mono (wp_and hKernel hRecord) (fun _ _ h' => h') fun _ _ h' => ⟨h'.2, h'.1⟩

/-- Without faults the tables are gone afterwards. -/
theorem wp_deleteTables_within {S : Kernel → Prop} (h : w.Within S NoLeak noFaults)
    (hName : ∀ k, S k → k.upstream.name ≠ config.tunnelInterface)
    (hPaired : ∀ k, S k → k.nft.Paired)
    (hDone : ∀ w', w'.Within (Unmasked config) NoLeak noFaults → post () w') :
    wp (ignore deleteTables) post stop w := by
  have hOutcome := outcome_deleteTables (hPaired w.sys h.now)
  have hGone : Unmasked config (w.sys.withNft .none) := ⟨hName w.sys h.now, rfl⟩
  unfold ignore deleteTables request
  rw [wp_bind, wp_attempt, wp_mapErr]
  apply wp_issue
  · intro e hWhy
    rw [h.faults] at hWhy
    rcases hWhy with hFault | hSystem
    · cases hFault
    · rw [outcome, hSystem] at hOutcome
      rw [← hOutcome] at hGone
      exact hDone _ ⟨hGone, h.before, h.faults⟩
  · intro _ k' _ hOp
    rw [outcome, hOp] at hOutcome
    rw [← hOutcome] at hGone
    exact hDone _ (h.advance (fun _ hk => hk.noLeak) hGone)

/-- `cleanup` removes the tables first, whatever is left of the rest. -/
theorem wp_cleanup_within {S : Kernel → Prop} (h : w.Within S NoLeak noFaults)
    (hName : ∀ k, S k → k.upstream.name ≠ config.tunnelInterface)
    (hPaired : ∀ k, S k → k.nft.Paired) :
    wp (cleanup config params)
      (fun _ w' => w'.Within (Unmasked config) NoLeak noFaults ∧ w'.state.Vacant ∧
        w'.state.inputs = w.state.inputs) (fun _ _ => False) w := by
  have hKernel : wp (cleanup config params)
      (fun _ w' => w'.Within (Unmasked config) NoLeak noFaults) (fun _ _ => True) w := by
    have hRest (w₁ : DaemonWorld) (h₁ : w₁.Within (Unmasked config) NoLeak noFaults) :
        wp (do takeEbpf; cleanupTunnel params; cleanupAddr6 config params; cleanupSysctl)
          (fun _ w' => w'.Within (Unmasked config) NoLeak noFaults) (fun _ _ => True) w₁ :=
      wp_mono (unmasked_closed.cleanupRest params NoLeak noFaults (fun _ hk => hk.noLeak) w₁ h₁)
        (fun _ _ h' => h') fun _ _ _ => trivial
    unfold cleanup
    rw [wp_bind]
    exact wp_deleteTables_within h hName hPaired hRest
  have hRecord : wp (cleanup config params)
      (fun _ w' => w'.state.Vacant ∧ w'.state.inputs = w.state.inputs) (fun _ _ => False) w :=
    wp_cleanup_state fun _ hVacant hInputs => ⟨hVacant, hInputs⟩
  exact wp_mono (wp_and hKernel hRecord) (fun _ _ h' => h') fun _ _ h' => h'.2

/-- An `update` that keeps the tunnel keeps its egress program. -/
theorem wp_update_within {old new : MapeParams} (h : w.Within (Translated config) NoLeak f)
    (hInstalled : w.state.Installed) (hCe : old.ceIpv6 = new.ceIpv6)
    (hBr : old.brAddress = new.brAddress)
    (hRanges : (calcPortRanges new.rule.portParams new.psid).isSome) :
    wp (update config old new)
      (fun _ w' => w'.Within (Translated config) NoLeak f ∧ w'.state.Installed ∧
        w'.state.inputs = w.state.inputs)
      (fun failure w' => failure ≠ .panic ∧ w'.Within (Translated config) NoLeak f) w := by
  have hAddr (k k' : Kernel) (hk : Translated config k) (hChange : TunnelAddrsChange k k') :
      Translated config k' := hk.tunnelAddrsChange hChange
  have hRoutes (k k' : Kernel) (hk : Translated config k) (hChange : RoutesChange k k') :
      Translated config k' := hk.routesChange hChange
  have hDelAddr (k k' : Kernel) (hk : Translated config k) (hChange : DelAddr4Change k k') :
      Translated config k' := by
    obtain ⟨k₁, hAddrsChange, hRoutesChange⟩ := hChange.split
    exact (hk.tunnelAddrsChange hAddrsChange).routesChange hRoutesChange
  have hMap : Stays (Translated config) (updateConfigMap new) := by
    refine Stays.bind Stays.getState fun state => ?_
    cases state.ebpf with
    | none => exact Stays.pure _
    | some manager =>
        refine Stays.bind (Stays.checked _) fun result => ?_
        cases result with
        | ok cfg => exact Stays.ignore (request_stays fun k _ k' hk hOp => hk.setConfigMap hOp)
        | error _ => exact Stays.pure _
  have hStep6 : Stays (Translated config) (applyStep6Nftables config new) :=
    applyStep6Nftables_stays (fun _ _ hk hChange => hk.nftChange hChange) new
  have hStays : Stays (Translated config) (update config old new) := by
    unfold update
    split_ifs with hNewCe hNewBr
    · exact absurd hCe hNewCe
    · exact absurd hBr hNewBr
    · refine Stays.bind (recordedTunnel_stays _) fun oif => ?_
      refine Stays.bind (Stays.ignore ((delIpv4Addr_steps _ _).stays hDelAddr)) fun _ => ?_
      refine Stays.bind ((addIpv4Addr_steps _ _).stays hAddr) fun _ => ?_
      refine Stays.bind ((addIpv4DefaultRoute_steps oif).stays hRoutes) fun _ => ?_
      exact Stays.bind hStep6 fun _ => hMap
    · exact Stays.bind hStep6 fun _ => hMap
  have hRecord : wp (update config old new)
      (fun _ w' => w'.state.Installed ∧ w'.state.inputs = w.state.inputs)
      (fun failure _ => failure ≠ .panic) w :=
    wp_update_state rfl hInstalled hRanges
      (fun _ hInstalled' hInputs => ⟨hInstalled', hInputs⟩) fun _ _ _ => nofun
  exact wp_mono (wp_and (hStays NoLeak f (fun _ hk => hk.noLeak) w h) hRecord) (fun _ _ h' => h')
    fun _ _ h' => ⟨h'.2, h'.1⟩

end Programs

section Events

variable {config : Config} {w : DaemonWorld} {post : Unit → DaemonWorld → Prop}
  {stop : Failure MapEError → DaemonWorld → Prop}

/-- Between two events: nothing is installed and there are no tables, or the
egress program is linked. -/
def Leakproof (config : Config) (w : DaemonWorld) : Prop :=
  (w.state.params = none ∧ w.state.Vacant ∧ w.Within (Unmasked config) NoLeak noFaults) ∨
    (w.state.params.isSome ∧ w.state.Installed ∧ w.Within (Translated config) NoLeak noFaults)

theorem Leakproof.history (h : Leakproof config w) : ∀ k ∈ w.history, NoLeak k := by
  rcases h with ⟨-, -, hWithin⟩ | ⟨-, -, hWithin⟩
  · exact hWithin.before
  · exact hWithin.before

/-- A cleanup without faults takes away everything that could leak. -/
theorem wp_cleanup_clear {params : MapeParams} {S : Kernel → Prop} (h : w.Within S NoLeak noFaults)
    (hName : ∀ k, S k → k.upstream.name ≠ config.tunnelInterface)
    (hPaired : ∀ k, S k → k.nft.Paired) (hDone : ∀ w', Leakproof config w' → post () w') :
    wp (do cleanup config params; clearParams) post stop w := by
  rw [wp_bind]
  apply wp_mono (wp_cleanup_within h hName hPaired) _ fun _ _ h' => h'.elim
  intro _ w₁ ⟨h₁, hVacant, _⟩
  unfold clearParams
  rw [wp_modifyState]
  exact hDone _ (.inl ⟨rfl, ⟨hVacant.tunnel, hVacant.ebpf, hVacant.ipForward, hVacant.ipv6Forward⟩,
    h₁.withState _⟩)

theorem Unmasked.nft_paired {k : Kernel} (h : Unmasked config k) : k.nft.Paired := by
  rw [h.nft]
  rfl

/-- An apply that fails is cleaned up, starting from a kernel that masquerades nothing. -/
theorem wp_applyOrCleanup_leakproof {params : MapeParams}
    (h : w.Within (Unmasked config) NoLeak noFaults) (hEbpf : w.state.ebpf = none)
    (hParams : w.state.params = some params)
    (hRanges : (calcPortRanges params.rule.portParams params.psid).isSome)
    (hDone : ∀ w', Leakproof config w' → post () w') :
    wp (applyOrCleanup config params) post stop w := by
  unfold applyOrCleanup
  rw [wp_bind, wp_attempt]
  apply wp_mono (wp_apply_within h hEbpf hRanges)
  · intro _ w₁ ⟨h₁, hInstalled, hInputs⟩
    have hSome : w₁.state.params = some params := (congrArg Prod.fst hInputs).trans hParams
    exact hDone w₁ (.inr ⟨by rw [hSome]; rfl, hInstalled, h₁⟩)
  · intro failure w₁ ⟨hFailure, h₁⟩
    cases failure with
    | panic => exact absurd rfl hFailure
    | error e => exact wp_cleanup_clear h₁ (fun _ hk => hk.name) (fun _ hk => hk.nft_paired) hDone

/-- In an update that keeps the tunnel the programs stay attached to it. -/
theorem wp_updateOrCleanup_leakproof {old new : MapeParams}
    (h : w.Within (Translated config) NoLeak noFaults) (hInstalled : w.state.Installed)
    (hParams : w.state.params = some new) (hCe : old.ceIpv6 = new.ceIpv6)
    (hBr : old.brAddress = new.brAddress)
    (hRanges : (calcPortRanges new.rule.portParams new.psid).isSome)
    (hDone : ∀ w', Leakproof config w' → post () w') :
    wp (updateOrCleanup config old new) post stop w := by
  unfold updateOrCleanup
  rw [wp_bind, wp_attempt]
  apply wp_mono (wp_update_within h hInstalled hCe hBr hRanges)
  · intro _ w₁ ⟨h₁, hInstalled₁, hInputs⟩
    have hSome : w₁.state.params = some new := (congrArg Prod.fst hInputs).trans hParams
    exact hDone w₁ (.inr ⟨by rw [hSome]; rfl, hInstalled₁, h₁⟩)
  · intro failure w₁ ⟨hFailure, h₁⟩
    cases failure with
    | panic => exact absurd rfl hFailure
    | error e => exact wp_cleanup_clear h₁ (fun _ hk => hk.name) (fun _ hk => hk.paired) hDone

/-- The first parameters are applied, later ones are a cleanup with an apply or such an
update. -/
theorem wp_applyNew_leakproof {oldParams : Option MapeParams} {new : MapeParams}
    (hRecord : (oldParams = none ∧ w.state.Vacant ∧ w.Within (Unmasked config) NoLeak noFaults) ∨
      (oldParams.isSome ∧ w.state.Installed ∧ w.Within (Translated config) NoLeak noFaults))
    (hParams : w.state.params = some new)
    (hRanges : (calcPortRanges new.rule.portParams new.psid).isSome)
    (hKeeps : ∀ old ∈ oldParams, old.rule.portParams = new.rule.portParams →
      old.ceIpv6 = new.ceIpv6 ∧ old.brAddress = new.brAddress)
    (hDone : ∀ w', Leakproof config w' → post () w') :
    wp (applyNew config oldParams new) post stop w := by
  unfold applyNew
  rw [wp_bind, wp_getState]
  rcases hRecord with ⟨-, hVacant, h⟩ | ⟨hOld, hInstalled, h⟩
  · simp only [hVacant.tunnel, Option.isSome_none, Bool.false_eq_true, if_false]
    exact wp_applyOrCleanup_leakproof h hVacant.ebpf hParams hRanges hDone
  · obtain ⟨old, rfl⟩ := Option.isSome_iff_exists.mp hOld
    simp only [hInstalled.tunnel, if_true]
    split_ifs with hChanged hPortParams
    · rw [wp_bind]
      apply wp_mono (wp_cleanup_within h (fun _ hk => hk.name) fun _ hk => hk.paired) _
        fun _ _ h' => h'.elim
      intro _ w₁ ⟨h₁, hVacant, hInputs⟩
      exact wp_applyOrCleanup_leakproof h₁ hVacant.ebpf ((congrArg Prod.fst hInputs).trans hParams)
        hRanges hDone
    · obtain ⟨hCe, hBr⟩ := hKeeps old rfl (not_not.mp hPortParams)
      exact wp_updateOrCleanup_leakproof h hInstalled hParams hCe hBr hRanges hDone
    · exact hDone w (.inr ⟨by rw [hParams]; rfl, hInstalled, h⟩)

/-- The cache file does not matter. -/
theorem OnlyCached.within {S : Kernel → Prop} {w' : DaemonWorld} {s : DaemonState}
    {cache : Option (List MapRule)} (h : w.Within S NoLeak noFaults)
    (hCache : ∀ k cache, S k → S (k.withRulesCache cache)) (hSafe : ∀ k, S k → NoLeak k)
    (hCached : OnlyCached w.sys w w') (h' : w'.IsAt (w.sys.withRulesCache cache) s w.faults) :
    w'.Within S NoLeak noFaults := by
  refine ⟨?_, ?_, h'.faults.trans h.faults⟩
  · rw [h'.sys]
    exact hCache _ cache h.now
  · intro k hk
    rcases hCached k hk with hOld | ⟨cache', rfl⟩
    · exact h.before k hOld
    · exact hSafe _ (hCache _ cache' h.now)

/-- One event that keeps the tunnel where the daemon updates. -/
theorem wp_handleEvent_leakproof (event : DaemonEvent) (h : Leakproof config w)
    (hKeeps : KeepsTunnel config w event) :
    wp (handleEvent config event) (fun _ w' => Leakproof config w')
      (fun _ w' => ∀ k ∈ w'.history, NoLeak k) w := by
  have hUnmasked {w' : DaemonWorld} {s : DaemonState} {cache : Option (List MapRule)}
      (h : w.Within (Unmasked config) NoLeak noFaults) (hCached : OnlyCached w.sys w w')
      (h' : w'.IsAt (w.sys.withRulesCache cache) s w.faults) :
      w'.Within (Unmasked config) NoLeak noFaults :=
    hCached.within h (fun _ cache hk => hk.cache cache) (fun _ hk => hk.noLeak) h'
  have hTranslated {w' : DaemonWorld} {s : DaemonState} {cache : Option (List MapRule)}
      (h : w.Within (Translated config) NoLeak noFaults) (hCached : OnlyCached w.sys w w')
      (h' : w'.IsAt (w.sys.withRulesCache cache) s w.faults) :
      w'.Within (Translated config) NoLeak noFaults :=
    hCached.within h (fun _ cache hk => hk.cache cache) (fun _ hk => hk.noLeak) h'
  have hKept {w' : DaemonWorld} {rules : Option (List MapRule)} {iaPd : Option Ipv6Net}
      {cache : Option (List MapRule)} (hCached : OnlyCached w.sys w w')
      (h' : w'.IsAt (w.sys.withRulesCache cache) (w.state.withPending rules iaPd) w.faults) :
      Leakproof config w' := by
    unfold Leakproof
    rw [h'.state]
    rcases h with ⟨hParams, hVacant, hWithin⟩ | ⟨hParams, hInstalled, hWithin⟩
    · exact .inl ⟨hParams, ⟨hVacant.tunnel, hVacant.ebpf, hVacant.ipForward, hVacant.ipv6Forward⟩,
        hUnmasked hWithin hCached h'⟩
    · exact .inr ⟨hParams, ⟨hInstalled.tunnel, hInstalled.ebpf, hInstalled.ipForward,
        hInstalled.ipv6Forward⟩, hTranslated hWithin hCached h'⟩
  apply wp_handleEvent event w.isAt
  · intro rules iaPd cache new w₁ _ hNew hComputed h₁ hCached
    apply wp_applyNew_leakproof _ (by rw [h₁.state]) hComputed.isSome (hKeeps new hNew)
      fun _ h' => h'
    rw [h₁.state]
    rcases h with ⟨hParams, hVacant, hWithin⟩ | ⟨hParams, hInstalled, hWithin⟩
    · exact .inl ⟨hParams, ⟨hVacant.tunnel, hVacant.ebpf, hVacant.ipForward, hVacant.ipv6Forward⟩,
        hUnmasked hWithin hCached h₁⟩
    · exact .inr ⟨hParams, ⟨hInstalled.tunnel, hInstalled.ebpf, hInstalled.ipForward,
        hInstalled.ipv6Forward⟩, hTranslated hWithin hCached h₁⟩
  · exact fun _ _ _ _ _ h₁ hCached => hKept hCached h₁
  · exact fun _ _ _ _ _ h₁ hCached => (hKept hCached h₁).history

/-- In every run of events that change the CE address or the BR only together with
`a` or `k`, and at the shutdown, no staging port can leak after any operation. -/
theorem run_no_leak {base : Kernel} {rules : Option (List MapRule)} {events : List DaemonEvent}
    (hName : base.upstream.name = config.upstreamInterface) (hNft : base.nft = .none)
    (hKeeps : Along (handleEvent config) (KeepsTunnel config) events
      (initialWorld base noFaults rules)) :
    ∀ k ∈ (endOf (do run config events; shutdown config)
      (initialWorld base noFaults rules)).history, NoLeak k := by
  have hBase : Unmasked config base := ⟨by rw [hName]; exact config.interfaces_ne, hNft⟩
  have hStart : Leakproof config (initialWorld base noFaults rules) := by
    refine .inl ⟨rfl, ⟨rfl, rfl, rfl, rfl⟩, hBase, ?_, rfl⟩
    intro k hk
    rw [List.mem_singleton.mp hk]
    exact hBase.noLeak
  apply endOf_of_wp fun w' => ∀ k ∈ w'.history, NoLeak k
  rw [wp_bind]
  apply wp_mono (wp_forM_along (fun event w hw => wp_handleEvent_leakproof event hw) hKeeps hStart) _
    fun _ _ h => h
  intro _ w₁ h₁
  unfold shutdown
  rw [wp_bind, wp_getState]
  cases hParams : w₁.state.params with
  | none => exact h₁.history
  | some params =>
      rcases h₁ with ⟨hNone, -⟩ | ⟨-, -, h₁⟩
      · cases hParams.symm.trans hNone
      · exact wp_mono (wp_cleanup_within h₁ (fun _ hk => hk.name) fun _ hk => hk.paired)
          (fun _ _ h₂ => h₂.1.before) fun _ _ h₂ => h₂.elim

end Events

section Examples

/-- The first configuration, and one with other `a` and `k` in its place. -/
theorem run_no_leak_reset :
    Along (handleEvent .contrib) (KeepsTunnel .contrib) [.both [sharedRule] (sharedPrefix 1 5),
        .both [{ sharedRule with portParams := ⟨2, 14⟩ }] (sharedPrefix 1 5)] (idleWorld none) ∧
      ∀ k ∈ (endOf (do
        run .contrib [.both [sharedRule] (sharedPrefix 1 5),
          .both [{ sharedRule with portParams := ⟨2, 14⟩ }] (sharedPrefix 1 5)]
        shutdown .contrib) (idleWorld none)).history, NoLeak k := by
  have hKeeps : Along (handleEvent .contrib) (KeepsTunnel .contrib)
      [.both [sharedRule] (sharedPrefix 1 5),
        .both [{ sharedRule with portParams := ⟨2, 14⟩ }] (sharedPrefix 1 5)] (idleWorld none) := by
    decide +kernel
  exact ⟨hKeeps, run_no_leak rfl rfl hKeeps⟩

/-- The BR changes: the egress program is unlinked while the tables are there. -/
theorem run_leaks_new_br :
    ¬ ∀ k ∈ (endOf (do
        run .contrib [.both [sharedRule] (sharedPrefix 1 5),
          .both [{ sharedRule with brAddress := 3 }] (sharedPrefix 1 5)]
        shutdown .contrib) (idleWorld none)).history, NoLeak k := by
  decide +kernel

end Examples

end Mapecd
