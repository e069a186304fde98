import Mapecd.Daemon.Frame

/-! What an event leads to: it is ignored, or its data is stored and
`apply_if_ready` decides. -/
namespace Mapecd

open Effects Checked

def DaemonState.withPending (s : DaemonState) (rules : Option (List MapRule))
    (iaPd : Option Ipv6Net) : DaemonState :=
  { s with pendingMapRules := rules, pendingIaPd := iaPd }

/-- The state in which `try_compute` runs, unless the event is ignored. -/
def DaemonEvent.received (config : Config) (s : DaemonState) : DaemonEvent → Option DaemonState
  | .iaPdReceived iaPd | .lease iaPd =>
      if config.useV6plusStaticRules && !isValidIaPdForStaticRules iaPd then
        none
      else
        some (s.withPending s.pendingMapRules (some iaPd))
  | .both rules iaPd =>
      if config.useV6plusStaticRules then
        if !isValidIaPdForStaticRules iaPd then
          none
        else
          some (s.withPending s.pendingMapRules (some iaPd))
      else
        some (s.withPending (some rules) (some iaPd))

/-- The parameters, when `try_compute` returns `Ok(true)`. -/
def DaemonState.readyParams (format : CeFormat) (s : DaemonState) : Option MapeParams :=
  match s.compute format with
  | some (.ok result) => result
  | _ => none

def DaemonEvent.newParams (config : Config) (s : DaemonState) (event : DaemonEvent) :
    Option MapeParams :=
  (event.received config s).bind fun s₁ => s₁.readyParams (ceFormat config)

section Compute

/-- The port ranges of computed parameters are those of their PSID. -/
def MapeParams.Computed (params : MapeParams) : Prop :=
  calcPortRanges params.rule.portParams params.psid = some params.portRanges

theorem MapeParams.Computed.isSome {params : MapeParams} (h : params.Computed) :
    (calcPortRanges params.rule.portParams params.psid).isSome := by
  rw [h]
  rfl

theorem DaemonState.compute_computed {state : DaemonState} {format : CeFormat}
    {params : MapeParams} (h : state.compute format = some (.ok (some params))) :
    params.Computed := by
  obtain ⟨rules, cePrefix, -, -, hMatch⟩ := DaemonState.compute_ok_iff.mp h
  obtain ⟨-, -, hResult⟩ := firstMatch_ok_spec hMatch
  obtain ⟨-, -, -, -, hRanges, -⟩ := computeMapeParams_steps hResult
  exact hRanges

end Compute

variable {config : Config} {k : Kernel} {s : DaemonState} {f : Nat → Option Errno} {w : DaemonWorld}
  {post : Unit → DaemonWorld → Prop} {stop : Failure MapEError → DaemonWorld → Prop}

/-- `apply_if_ready` acts on computed parameters only. -/
theorem wp_applyIfReady (h : w.IsAt k s f)
    (hNew : ∀ new w', s.readyParams (ceFormat config) = some new → new.Computed →
      w'.IsAt k { s with params := some new } f → w'.history = w.history →
      wp (applyNew config s.params new) post stop w')
    (hKept : s.readyParams (ceFormat config) = none → post () w)
    (hPanic : s.readyParams (ceFormat config) = none → stop .panic w) :
    wp (applyIfReady config) post stop w := by
  unfold DaemonState.readyParams at hNew hKept hPanic
  unfold applyIfReady tryCompute
  simp only [wp_bind, wp_getState, wp_attempt, h.state]
  cases hCompute : s.compute (ceFormat config) with
  | none =>
      rw [hCompute] at hPanic
      exact hPanic rfl
  | some result =>
      rw [hCompute] at hNew hKept
      rw [wp_checked_some]
      cases result with
      | error e => exact hKept rfl
      | ok result =>
          cases result with
          | none => exact hKept rfl
          | some new =>
              simp only [wp_bind, wp_modifyState, wp_pure, h.state]
              exact hNew new _ rfl (DaemonState.compute_computed hCompute) (h.withState _) rfl

/-- On the way from `w` to `w'` only the cache file has changed. -/
def OnlyCached (k : Kernel) (w w' : DaemonWorld) : Prop :=
  ∀ k' ∈ w'.history, k' ∈ w.history ∨ ∃ cache, k' = k.withRulesCache cache

/-- The file may or may not be written, and only the file. -/
theorem wp_saveRulesCache (rules : List MapRule) (h : w.IsAt k s f)
    (hDone : ∀ cache w', w'.IsAt (k.withRulesCache cache) s f → OnlyCached k w w' → post () w') :
    wp (ignore (saveRulesCache rules)) post stop w := by
  unfold saveRulesCache request ignore
  rw [wp_bind, wp_attempt, wp_mapErr]
  apply wp_issue
  · exact fun _ _ => hDone k.rulesCache _ h.refuse fun _ hMem => .inl hMem
  · intro _ k' _ hOp
    rw [h.sys] at hOp
    cases hOp
    refine hDone _ _ (h.advance _) ?_
    intro k' hMem
    rcases List.mem_cons.mp hMem with rfl | hMem
    · exact .inr ⟨_, rfl⟩
    · exact .inl hMem

/-- An event is ignored, or its data become the pending ones and the daemon applies what
it can. -/
theorem wp_handleEvent_received (event : DaemonEvent) (h : w.IsAt k s f)
    (hIgnored : event.received config s = none → post () w)
    (hReceived : ∀ s₁ cache w', event.received config s = some s₁ →
      w'.IsAt (k.withRulesCache cache) s₁ f → OnlyCached k w w' →
      wp (applyIfReady config) post stop w') :
    wp (handleEvent config event) post stop w := by
  have hIaPd (iaPd : Ipv6Net) (hEvent : event.received config s =
      DaemonEvent.received config s (.iaPdReceived iaPd)) :
      wp (handleIaPd config iaPd) post stop w := by
    unfold handleIaPd setPendingIaPd
    split_ifs with hInvalid
    · exact hIgnored (hEvent.trans (if_pos hInvalid))
    · rw [wp_bind, wp_modifyState, h.state]
      exact hReceived _ k.rulesCache _ (hEvent.trans (if_neg hInvalid)) (h.withState _)
        fun _ hMem => .inl hMem
  cases event with
  | iaPdReceived iaPd => exact hIaPd iaPd rfl
  | lease iaPd => exact hIaPd iaPd rfl
  | both rules iaPd =>
      change wp (handleBoth config rules iaPd) post stop w
      unfold handleBoth setPendingIaPd
      split_ifs with hStatic hInvalid
      · exact hIgnored ((if_pos hStatic).trans (if_pos hInvalid))
      · rw [wp_bind, wp_modifyState, h.state]
        exact hReceived _ k.rulesCache _ ((if_pos hStatic).trans (if_neg hInvalid)) (h.withState _)
          fun _ hMem => .inl hMem
      · simp only [wp_bind, wp_modifyState]
        apply wp_saveRulesCache rules h
        intro cache w₁ h₁ hCached
        rw [World.withState_state, h₁.state]
        exact hReceived _ cache _ (if_neg hStatic) ((h₁.withState _).withState _) hCached

/-- An event changes the pending data only. -/
theorem DaemonEvent.received_eq {event : DaemonEvent} {s₁ : DaemonState}
    (h : event.received config s = some s₁) :
    ∃ rules iaPd, s₁ = s.withPending rules (some iaPd) := by
  unfold received at h
  split at h
  · split_ifs at h
    cases h
    exact ⟨_, _, rfl⟩
  · split_ifs at h
    cases h
    exact ⟨_, _, rfl⟩
  · split_ifs at h
    · cases h
      exact ⟨_, _, rfl⟩
    · cases h
      exact ⟨_, _, rfl⟩

/-- With static rules only a `/56` is stored. -/
theorem DaemonEvent.received_valid {event : DaemonEvent} {s₁ : DaemonState} {iaPd : Ipv6Net}
    (h : event.received config s = some s₁) (hIaPd : s₁.pendingIaPd = some iaPd) :
    (config.useV6plusStaticRules && !isValidIaPdForStaticRules iaPd) = false := by
  unfold received at h
  split at h
  · split_ifs at h with hInvalid
    cases h
    cases hIaPd
    exact Bool.eq_false_of_not_eq_true hInvalid
  · split_ifs at h with hInvalid
    cases h
    cases hIaPd
    exact Bool.eq_false_of_not_eq_true hInvalid
  · split_ifs at h with hStatic hInvalid
    · cases h
      cases hIaPd
      rw [hStatic, Bool.true_and]
      exact Bool.eq_false_of_not_eq_true hInvalid
    · cases h
      rw [Bool.eq_false_of_not_eq_true hStatic, Bool.false_and]

/-- What one event does, in terms of `newParams`. -/
theorem wp_handleEvent (event : DaemonEvent) (h : w.IsAt k s f)
    (hNew : ∀ rules iaPd cache new w', event.received config s = some (s.withPending rules (some iaPd)) →
      event.newParams config s = some new → new.Computed →
      w'.IsAt (k.withRulesCache cache) { s.withPending rules (some iaPd) with params := some new } f →
      OnlyCached k w w' → wp (applyNew config s.params new) post stop w')
    (hKept : event.newParams config s = none → ∀ rules iaPd cache w',
      w'.IsAt (k.withRulesCache cache) (s.withPending rules iaPd) f → OnlyCached k w w' → post () w')
    (hPanic : event.newParams config s = none → ∀ rules iaPd cache w',
      w'.IsAt (k.withRulesCache cache) (s.withPending rules iaPd) f → OnlyCached k w w' →
      stop .panic w') :
    wp (handleEvent config event) post stop w := by
  unfold DaemonEvent.newParams at hNew hKept hPanic
  apply wp_handleEvent_received event h
  · intro hIgnored
    rw [hIgnored] at hKept
    exact hKept rfl s.pendingMapRules s.pendingIaPd k.rulesCache w h fun _ hMem => .inl hMem
  · intro s₁ cache w₁ hReceived h₁ hCached
    obtain ⟨rules, iaPd, rfl⟩ := DaemonEvent.received_eq hReceived
    rw [hReceived] at hNew hKept hPanic
    apply wp_applyIfReady h₁
    · intro new w₂ hReady hComputed h₂ hHistory
      refine hNew rules iaPd cache new w₂ rfl hReady hComputed h₂ ?_
      unfold OnlyCached
      rw [hHistory]
      exact hCached
    · exact fun hNone => hKept hNone rules (some iaPd) cache w₁ h₁ hCached
    · exact fun hNone => hPanic hNone rules (some iaPd) cache w₁ h₁ hCached

end Mapecd
