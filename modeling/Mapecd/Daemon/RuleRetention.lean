import Mapecd.Daemon.AllOrNothing
import Mapecd.Daemon.PathIndependence
import Mapecd.Daemon.Stays
import Mapecd.Dhcpv6.Capture
import Mapecd.Dhcpv6.Outputs
import Mapecd.Dhcpv6.ServerIdentity

/-! What a Reply without rules does to the rules that are known. -/
namespace Mapecd

open Effects Checked Runs

def DhcpV6Event.toDaemon : DhcpV6Event → DaemonEvent
  | .iaPdReceived iaPd => .iaPdReceived iaPd
  | .both rules iaPd => .both rules iaPd

/-- The exchange of the client that a Reply ends. -/
inductive Exchange where
  | initial
  | renew
  | rebind
deriving DecidableEq, Repr

def Exchange.event : Exchange → LeaseInfo → DhcpV6Event
  | .initial, lease => Client.initialEvent lease
  | .renew, lease => Client.renewalEvent lease
  | .rebind, lease => Client.renewalEvent lease

/-- A frame in capture mode, or what the client gives to `process_reply`. -/
inductive ReceivedReply where
  | captured (frame : List U8) (ourLlAddr : Option Ipv6Addr)
  | answer (exchange : Exchange) (data serverDuid : List U8)

namespace ReceivedReply

variable (codec : Codec) (iaid : U32)

/-- The DHCPv6 message. -/
def data : ReceivedReply → List U8
  | captured frame _ => dhcpPayload frame
  | answer _ data _ => data

/-- What is sent to the main loop, if anything. -/
def event : ReceivedReply → Result (Option DhcpV6Event)
  | captured frame ourLlAddr => processFrame codec frame ourLlAddr
  | answer exchange data serverDuid => do
      match ← processReply codec data iaid serverDuid with
      | .error _ => return none
      | .ok lease => return some (exchange.event lease)

/-- The delegated prefix of a Reply that is not rejected. -/
def iaPd : ReceivedReply → Option Ipv6Net
  | captured frame ourLlAddr =>
      (capturedReply codec frame ourLlAddr).bind fun _ => parseIaPd codec (dhcpPayload frame) none
  | answer _ data _ =>
      (codec.decode data).bind fun msg => if msg.Failed then none else parseIaPd codec data (some iaid)

/-- No container, an unreadable one, or one without rules. -/
def NoRules (reply : ReceivedReply) : Prop := replyRules codec reply.data = some []

/-- Only the initial exchange and a captured container that is readable and has
no rules replace the known rules. -/
def Spares : ReceivedReply → Prop
  | captured frame _ =>
      (parseMapeContainer codec (dhcpPayload frame)).run ≠ some (.ok (some []))
  | answer .initial _ _ => False
  | answer .renew _ _ => True
  | answer .rebind _ _ => True

instance (reply : ReceivedReply) : Decidable (reply.NoRules codec) :=
  inferInstanceAs (Decidable (_ = _))

instance : (reply : ReceivedReply) → Decidable (reply.Spares codec)
  | captured _ _ => inferInstanceAs (Decidable (_ ≠ _))
  | answer .initial _ _ => inferInstanceAs (Decidable False)
  | answer .renew _ _ => inferInstanceAs (Decidable True)
  | answer .rebind _ _ => inferInstanceAs (Decidable True)

end ReceivedReply

def handleReply (config : Config) (codec : Codec) (iaid : U32) (reply : ReceivedReply) :
    DaemonM Unit := do
  match ← checked (reply.event codec iaid) with
  | none => pure ()
  | some event => handleEvent config event.toDaemon

section Events

variable {codec : Codec} {iaid : U32}

/-- The three ways in which a message can have no rules. -/
theorem replyRules_nil_iff {data : List U8} : replyRules codec data = some [] ↔
    (parseMapeContainer codec data).run = some (.ok none) ∨
    (parseMapeContainer codec data).run = some (.ok (some [])) ∨
    ∃ e, (parseMapeContainer codec data).run = some (.error e) := by
  cases hRun : (parseMapeContainer codec data).run with
  | none => simp [replyRules, hRun]
  | some result =>
      cases result with
      | error e => simp [replyRules, hRun]
      | ok container =>
          cases container with
          | none => simp [replyRules, hRun]
          | some rules => simp [replyRules, hRun]

/-- The rules of the lease are those that were read from the Reply. -/
theorem processReply_rules {data serverDuid : List U8} {lease : LeaseInfo}
    (h : processReply codec data iaid serverDuid = some (.ok lease)) :
    replyRules codec data = some lease.rules := by
  unfold processReply at h
  split at h
  · cases h
  · split_ifs at h
    · cases h
    · split at h
      · cases h
      · obtain ⟨rules, hRules, hLease⟩ := Option.bind_eq_some_iff.mp h
        cases hLease
        exact hRules

/-- The event of a Reply without rules. -/
theorem ReceivedReply.event_of_noRules {reply : ReceivedReply} (h : reply.NoRules codec) :
    reply.event codec iaid = some ((reply.iaPd codec iaid).map fun iaPd =>
      if reply.Spares codec then .iaPdReceived iaPd else .both [] iaPd) := by
  cases reply with
  | captured frame ourLlAddr =>
      simp only [NoRules, data, replyRules_nil_iff] at h
      simp only [event, processFrame, iaPd, Spares]
      cases capturedReply codec frame ourLlAddr with
      | none => rfl
      | some msg =>
          cases hIaPd : parseIaPd codec (dhcpPayload frame) none with
          | none => simp
          | some prefix6 =>
              rcases h with h | h | ⟨e, h⟩
              · simp [h]
              · simp [h]
              · simp [h]
  | answer exchange data serverDuid =>
      simp only [NoRules, ReceivedReply.data] at h
      simp only [event, processReply, iaPd, parseIaPd]
      cases codec.decode data with
      | none => rfl
      | some msg =>
          by_cases hFailed : msg.Failed
          · simp [hFailed]
          · cases hInfo : parseIaPdInfo codec data (some iaid) with
            | none => simp [hFailed]
            | some info =>
                cases exchange with
                | initial =>
                    simp [hFailed, h, Spares, Exchange.event, Client.initialEvent]
                | renew =>
                    simp [hFailed, h, Spares, Exchange.event, Client.renewalEvent]
                | rebind =>
                    simp [hFailed, h, Spares, Exchange.event, Client.renewalEvent]

/-- The same for the event that follows. -/
theorem ReceivedReply.event_rules {reply : ReceivedReply} {rules : List MapRule} {iaPd : Ipv6Net}
    (h : reply.event codec iaid = some (some (.both rules iaPd))) :
    replyRules codec reply.data = some rules := by
  cases reply with
  | captured frame ourLlAddr =>
      simp only [event, processFrame] at h
      split at h
      · cases h
      · split at h
        · cases h
        · obtain ⟨result, hRun, hResult⟩ := Option.bind_eq_some_iff.mp h
          rcases result with e | container | rules'
          · cases hResult
          · cases hResult
          · cases hResult
            simp [replyRules, data, hRun]
  | answer exchange data serverDuid =>
      simp only [event] at h
      obtain ⟨result, hProcess, hResult⟩ := Option.bind_eq_some_iff.mp h
      cases result with
      | error e => cases hResult
      | ok lease =>
          have hRules := processReply_rules hProcess
          cases exchange with
          | initial =>
              cases hResult
              exact hRules
          | renew | rebind =>
              simp only [Exchange.event, Client.renewalEvent] at hResult
              split_ifs at hResult
              · cases hResult
              · cases hResult
                exact hRules

/-- The event announces a Reply. -/
def Announces (codec : Codec) (iaid : U32) (output : ClientOutput) : Prop :=
  ∀ event, output = .event event → ∃ exchange data serverDuid,
    (ReceivedReply.answer exchange data serverDuid).event codec iaid = some (some event)

/-- Each event of a run is that of a received Reply. -/
theorem outputs_announce (client : Client) :
    Outputs client (fun _ => Announces client.codec client.iaid) (fun _ _ => True) where
  sent _ _ _ _ _ _ := trivial
  expired _ := nofun
  solicit _ _ := nofun
  request _ _ _ _ := nofun
  renew _ _ _ _ := nofun
  rebind _ _ _ _ := nofun
  release _ _ _ _ := nofun
  granted _ _ reply data serverDuid lease _ hProcess := by
    refine ⟨nofun, ?_, fun _ _ _ => trivial⟩
    rintro _ ⟨⟩
    exact ⟨.initial, data, serverDuid, by simp [ReceivedReply.event, hProcess, Exchange.event]⟩
  renewed _ _ loop reply data lease _ _ hProcess := by
    refine ⟨nofun, ?_, fun _ _ _ => trivial⟩
    rintro _ ⟨⟩
    exact ⟨.renew, data, loop.serverDuid, by simp [ReceivedReply.event, hProcess, Exchange.event]⟩

/-- The events of the client are those of its Replies. -/
theorem run_announces {client : Client} {Allowed : ClientState → ClientInput → Prop} {now : Instant}
    {first : ClientInput} {inputs : List ClientInput} {finish : ClientState}
    (run : Run client.resume Allowed (client.start now first) inputs finish) :
    LogOf (fun _ => Announces client.codec client.iaid) finish.log :=
  ((outputs_announce client).run_putOut run).log

end Events

section Retention

variable {config : Config} {codec : Codec} {iaid : U32} {w : DaemonWorld} {reply : ReceivedReply}

/-- Some rules are known. -/
def DaemonState.Loaded (state : DaemonState) : Prop :=
  ∃ rules, rules ≠ [] ∧ state.pendingMapRules = some rules

/-- The Reply leaves the known rules and their file alone, and its prefix is
applied with these rules. -/
structure Retains (config : Config) (codec : Codec) (iaid : U32) (w : DaemonWorld)
    (reply : ReceivedReply) : Prop where
  rules : (endOf (handleReply config codec iaid reply) w).state.pendingMapRules =
    w.state.pendingMapRules
  cache : (endOf (handleReply config codec iaid reply) w).sys.rulesCache = w.sys.rulesCache
  applied : ∀ iaPd ∈ reply.iaPd codec iaid, handleReply config codec iaid reply w =
    applyIfReady config (w.withState (w.state.withPending w.state.pendingMapRules (some iaPd)))

/-- Nothing but an event writes the file of the rules. -/
theorem cached_closed (cache : Option (List MapRule)) :
    Closed config fun k => k.rulesCache = cache where
  sysctl k k' h := by rintro ⟨v4, v6, rfl⟩; exact h
  upstreamAddrs k k' h := by rintro ⟨addrs, rfl⟩; exact h
  delAddr4 k k' h := by
    rintro ((rfl | ⟨tunnel, up, addrs, -, rfl⟩) | ⟨tunnel, -, rfl⟩)
    · exact h
    · exact h
    · exact h
  newLink spec k k' _ h hOp := by
    obtain ⟨tunnel, next, rfl⟩ := Kernel.newLink_change hOp
    exact h
  setLinkUp ifindex k k' h hOp := by
    obtain ⟨tunnel, next, rfl⟩ := Kernel.setLinkUp_change hOp
    exact h
  delLink ifindex k k' h hOp := by
    obtain ⟨routes, bpf, rfl⟩ := Kernel.delLink_change hOp
    exact h
  delRoute route k k' h hOp := by
    obtain ⟨routes, rfl⟩ := Kernel.delRoute_change hOp
    exact h
  newRoute oif k k' h hOp := by
    obtain ⟨routes, rfl⟩ := Kernel.newDefaultRoute_change hOp
    exact h
  loadBpf id k k' h hOp := by
    obtain ⟨bpf, next, rfl⟩ := Kernel.loadBpf_change hOp
    exact h
  setConfigMap id cfg k k' h hOp := by
    obtain ⟨bpf, next, rfl⟩ := (Kernel.setConfigMap_change hOp).bpfChange
    exact h
  attachTc id attachType ifindex k k' h hOp := by
    obtain ⟨bpf, next, rfl⟩ := (Kernel.attachTc_change hOp).bpfChange
    exact h
  detachTc id attachType k k' h hOp := by
    obtain ⟨bpf, next, rfl⟩ := (Kernel.detachTc_change hOp).bpfChange
    exact h
  dropBpf id k h := h

/-- Applying reads the rules and writes neither them nor their file. -/
theorem applyIfReady_retains (hw : w.state.AllOrNone) :
    (endOf (applyIfReady config) w).state.pendingMapRules = w.state.pendingMapRules ∧
      (endOf (applyIfReady config) w).sys.rulesCache = w.sys.rulesCache := by
  constructor
  · apply endOf_of_wp (fun w' : DaemonWorld => w'.state.pendingMapRules = w.state.pendingMapRules)
    apply wp_applyIfReady_state hw
    · exact fun _ _ hInputs => congrArg Prod.fst hInputs
    · rfl
  · have hStays : Stays (fun k : Kernel => k.rulesCache = w.sys.rulesCache) (applyIfReady config) := by
      apply (cached_closed _).applyIfReady
      rintro k k' h ⟨tables, -, rfl⟩
      exact h
    have hWithin : w.Within (fun k => k.rulesCache = w.sys.rulesCache) (fun _ => True) w.faults :=
      ⟨rfl, fun _ _ => trivial, rfl⟩
    exact (hStays.endOf (fun _ _ => trivial) hWithin).now

/-- A Reply without rules has one of three effects. -/
theorem handleReply_eq (hNoRules : reply.NoRules codec) :
    handleReply config codec iaid reply =
      match reply.iaPd codec iaid with
      | none => pure ()
      | some iaPd =>
          if reply.Spares codec then handleIaPd config iaPd else handleBoth config [] iaPd := by
  unfold handleReply
  rw [ReceivedReply.event_of_noRules hNoRules]
  cases reply.iaPd codec iaid with
  | none => rfl
  | some iaPd =>
      by_cases hSpares : reply.Spares codec
      · simp only [Option.map_some, hSpares, if_true]
        rfl
      · simp only [Option.map_some, hSpares, if_false]
        rfl

theorem handleIaPd_eq (hDynamic : config.useV6plusStaticRules = false) (iaPd : Ipv6Net) :
    handleIaPd config iaPd w =
      applyIfReady config (w.withState (w.state.withPending w.state.pendingMapRules (some iaPd))) := by
  simp only [handleIaPd, hDynamic, Bool.false_and, Bool.false_eq_true, if_false]
  rfl

/-- Where it brings no list of rules the known ones are used. -/
theorem retains_of_spares (hDynamic : config.useV6plusStaticRules = false) (hw : w.state.AllOrNone)
    (hNoRules : reply.NoRules codec)
    (h : reply.iaPd codec iaid = none ∨ reply.Spares codec) : Retains config codec iaid w reply := by
  cases hIaPd : reply.iaPd codec iaid with
  | none =>
      have hHandle : handleReply config codec iaid reply = pure () := by
        rw [handleReply_eq hNoRules, hIaPd]
      refine ⟨by rw [hHandle]; rfl, by rw [hHandle]; rfl, fun iaPd hMem => ?_⟩
      rw [hIaPd] at hMem
      cases hMem
  | some iaPd =>
      have hSpares : reply.Spares codec := h.resolve_left (by simp [hIaPd])
      have hHandle : handleReply config codec iaid reply = handleIaPd config iaPd := by
        simp only [handleReply_eq hNoRules, hIaPd, hSpares, if_true]
      have hApply := handleIaPd_eq (w := w) hDynamic iaPd
      have hEnd : endOf (handleReply config codec iaid reply) w = endOf (applyIfReady config)
          (w.withState (w.state.withPending w.state.pendingMapRules (some iaPd))) := by
        rw [hHandle, endOf, endOf, hApply]
      have hPending : (w.withState (w.state.withPending w.state.pendingMapRules (some iaPd))).state.AllOrNone :=
        hw.withPending _ _
      obtain ⟨hRules, hCache⟩ := @applyIfReady_retains config _ hPending
      refine ⟨by rw [hEnd, hRules]; rfl, by rw [hEnd, hCache]; rfl, fun iaPd' hMem => ?_⟩
      cases hIaPd.symm.trans hMem
      rw [hHandle, hApply]

/-- The rules of the event take the place of the known ones, also an empty list. -/
theorem wp_handleBoth_state (hDynamic : config.useV6plusStaticRules = false) (hw : w.state.AllOrNone)
    (rules : List MapRule) (iaPd : Ipv6Net) :
    wp (handleBoth config rules iaPd)
      (fun _ w' => w'.state.AllOrNone ∧ w'.state.pendingMapRules = some rules)
      (fun _ w' => w'.state.pendingMapRules = some rules) w := by
  simp only [handleBoth, hDynamic, Bool.false_eq_true, if_false, setPendingIaPd, wp_bind,
    wp_modifyState]
  apply wp_saveRulesCache rules w.isAt
  intro cache w₁ h₁ _
  apply wp_applyIfReady_state
  · rw [World.withState_state, World.withState_state, h₁.state]
    exact hw.withPending (some rules) (some iaPd)
  · exact fun w₂ h₂ hInputs => ⟨h₂, congrArg Prod.fst hInputs⟩
  · rfl

/-- Where it brings the empty list, this one replaces them. -/
theorem retains_iff (hDynamic : config.useV6plusStaticRules = false) (hw : w.state.AllOrNone)
    (hLoaded : w.state.Loaded) (hNoRules : reply.NoRules codec) :
    Retains config codec iaid w reply ↔ reply.iaPd codec iaid = none ∨ reply.Spares codec := by
  refine ⟨fun hRetains => ?_, retains_of_spares hDynamic hw hNoRules⟩
  by_contra hWiped
  obtain ⟨hSome, hSpares⟩ := not_or.mp hWiped
  obtain ⟨iaPd, hIaPd⟩ := Option.ne_none_iff_exists'.mp hSome
  obtain ⟨rules, hNonempty, hRules⟩ := hLoaded
  have hHandle : handleReply config codec iaid reply = handleBoth config [] iaPd := by
    simp only [handleReply_eq hNoRules, hIaPd, hSpares, if_false]
  have hWipes : (endOf (handleBoth config [] iaPd) w).state.pendingMapRules = some [] :=
    endOf_of_wp (fun w' : DaemonWorld => w'.state.pendingMapRules = some [])
      (wp_mono (wp_handleBoth_state hDynamic hw [] iaPd) (fun _ _ h => h.2) fun _ _ h => h)
  have hKept := hRetains.rules
  rw [hHandle, hWipes, hRules] at hKept
  exact hNonempty (Option.some.inj hKept).symm

/-- The state stays all-or-none from Reply to Reply. -/
theorem handleReply_allOrNone (reply : ReceivedReply) (hw : w.state.AllOrNone) :
    wp (handleReply config codec iaid reply) (fun _ w' => w'.state.AllOrNone) (fun _ _ => True) w := by
  unfold handleReply
  rw [wp_bind]
  cases reply.event codec iaid with
  | none => trivial
  | some event =>
      cases event with
      | none => exact hw
      | some event => exact wp_handleEvent_state _ hw (fun _ h => h) fun _ _ => trivial

/-- Known rules stay known. -/
theorem handleReply_loaded (hDynamic : config.useV6plusStaticRules = false)
    (hw : w.state.AllOrNone ∧ w.state.Loaded)
    (h : reply.NoRules codec → reply.iaPd codec iaid = none ∨ reply.Spares codec) :
    wp (handleReply config codec iaid reply) (fun _ w' => w'.state.AllOrNone ∧ w'.state.Loaded)
      (fun _ _ => True) w := by
  obtain ⟨hAllOrNone, hLoaded⟩ := hw
  unfold handleReply
  rw [wp_bind]
  cases hEvent : reply.event codec iaid with
  | none => trivial
  | some event =>
      rcases event with _ | ⟨iaPd⟩ | ⟨rules, iaPd⟩
      · exact ⟨hAllOrNone, hLoaded⟩
      · obtain ⟨rules, hNonempty, hRules⟩ := hLoaded
        change wp (handleIaPd config iaPd) _ _ w
        rw [wp, handleIaPd_eq hDynamic iaPd]
        change wp (applyIfReady config)
          (fun _ w' => w'.state.AllOrNone ∧ w'.state.Loaded) (fun _ _ => True) (w.withState _)
        apply wp_applyIfReady_state
        · exact hAllOrNone.withPending w.state.pendingMapRules (some iaPd)
        · exact fun w' h' hInputs =>
            ⟨h', rules, hNonempty, (congrArg Prod.fst hInputs).trans hRules⟩
        · trivial
      · have hRules : rules ≠ [] := by
          rintro rfl
          have hNoRules : reply.NoRules codec := ReceivedReply.event_rules hEvent
          rw [ReceivedReply.event_of_noRules hNoRules] at hEvent
          rcases h hNoRules with hNone | hSpares
          · simp [hNone] at hEvent
          · simp [hSpares] at hEvent
        change wp (handleBoth config rules iaPd) _ _ w
        refine wp_mono (wp_handleBoth_state hDynamic hAllOrNone rules iaPd) ?_ fun _ _ _ => trivial
        exact fun _ w' ⟨h', hStored⟩ => ⟨h', rules, hRules, hStored⟩

end Retention

/-- In every run over received Replies, those without rules leave the known rules
alone exactly when each of them is rejected, answers a Renew or a Rebind, or is
captured without a readable container. -/
theorem run_retains_rules_iff {config : Config} (hDynamic : config.useV6plusStaticRules = false)
    (codec : Codec) (iaid : U32) (kernel : Kernel) (faults : Nat → Option Errno)
    (cached : Option (List MapRule)) (replies : List ReceivedReply) :
    Along (handleReply config codec iaid)
        (fun w reply => w.state.Loaded → reply.NoRules codec → Retains config codec iaid w reply)
        replies (initialWorld kernel faults cached) ↔
      Along (handleReply config codec iaid)
        (fun w reply => w.state.Loaded → reply.NoRules codec →
          reply.iaPd codec iaid = none ∨ reply.Spares codec)
        replies (initialWorld kernel faults cached) := by
  apply along_congr (I := fun w => w.state.AllOrNone) (C := fun _ _ => True)
  · exact fun reply w hw _ => handleReply_allOrNone reply hw
  · exact fun reply w hw _ => forall_congr' fun hLoaded => forall_congr' fun hNoRules =>
      retains_iff hDynamic hw hLoaded hNoRules
  · exact along_of_forall (fun _ _ => trivial) _ _
  · exact Or.inr ⟨rfl, rfl, rfl, rfl, rfl⟩

section Examples

/-- The file of the rules holds one rule when the daemon starts. -/
def cachedWorld : DaemonWorld :=
  initialWorld ((Kernel.idle "eth0").withRulesCache (some [sharedRule])) noFaults (some [sharedRule])

/-- A Reply without a container. -/
def bareReply (exchange : Exchange) : ReceivedReply :=
  .answer exchange (Wire.writeMessage (serverMessage .reply [1])) [1]

/-- A Renew that is answered without a container. -/
theorem run_retains_rules_renew :
    (bareReply .renew).NoRules wireCodec ∧ (bareReply .renew).iaPd wireCodec 2 ≠ none ∧
      Along (handleReply .contrib wireCodec 2)
        (fun w reply => w.state.Loaded → reply.NoRules wireCodec → Retains .contrib wireCodec 2 w reply)
        [bareReply .renew] cachedWorld := by
  refine ⟨by decide +kernel, by decide +kernel, ?_⟩
  exact (run_retains_rules_iff rfl wireCodec 2 _ _ _ _).mpr
    (along_singleton fun _ _ => .inr trivial)

/-- After an initial exchange the rules are gone, in the file too. -/
theorem run_wipes_rules :
    ¬ Along (handleReply .contrib wireCodec 2)
        (fun w reply => w.state.Loaded → reply.NoRules wireCodec → Retains .contrib wireCodec 2 w reply)
        [bareReply .initial] cachedWorld ∧
      wp (handleReply .contrib wireCodec 2 (bareReply .initial))
        (fun _ w' => w'.state.pendingMapRules = some [] ∧ w'.sys.rulesCache = some [])
        (fun _ _ => False) cachedWorld := by
  have hWipes : wp (handleReply .contrib wireCodec 2 (bareReply .initial))
      (fun _ w' => w'.state.pendingMapRules = some [] ∧ w'.sys.rulesCache = some [])
      (fun _ _ => False) cachedWorld := by
    decide +kernel
  refine ⟨?_, hWipes⟩
  rintro ⟨hRetains, -⟩
  have hKept := (hRetains ⟨[sharedRule], by decide, rfl⟩ (by decide +kernel)).rules
  obtain ⟨w', hRun, hRules, -⟩ := exists_unit_of_wp _ hWipes
  rw [endOf, hRun, hRules] at hKept
  cases hKept

end Examples

/-- Without such a Reply the rules are known for ever. -/
theorem run_stays_loaded {config : Config} (hDynamic : config.useV6plusStaticRules = false)
    (codec : Codec) (iaid : U32) (kernel : Kernel) (faults : Nat → Option Errno)
    {rules : List MapRule} (hRules : rules ≠ []) {replies : List ReceivedReply}
    (h : Along (handleReply config codec iaid)
      (fun _ reply => reply.NoRules codec → reply.iaPd codec iaid = none ∨ reply.Spares codec)
      replies (initialWorld kernel faults (some rules))) :
    wp (replies.forM (handleReply config codec iaid))
      (fun _ w' => w'.state.AllOrNone ∧ w'.state.Loaded) (fun _ _ => True)
      (initialWorld kernel faults (some rules)) := by
  apply wp_forM_along (fun _ _ hw h => handleReply_loaded hDynamic hw h) h
  exact ⟨Or.inr ⟨rfl, rfl, rfl, rfl, rfl⟩, rules, hRules, rfl⟩

end Mapecd
