import Mapecd.Dhcpv6.ServerIdentity

/-! The deadlines of a lease. -/
namespace Mapecd

open Checked Runs

namespace LeaseInfo

/-- T1 does not exceed the lifetime, nor T2 if that is within the lifetime. T2
is within the lifetime unless there is no Renew phase. -/
def Ordered (lease : LeaseInfo) : Prop :=
  (lease.t2.toNat < lease.validLifetime.toNat → lease.t1.toNat ≤ lease.t2.toNat) ∧
    lease.t1.toNat ≤ lease.validLifetime.toNat ∧
    (lease.t1.toNat = lease.validLifetime.toNat ∨ lease.t2.toNat ≤ lease.validLifetime.toNat)

end LeaseInfo

/-- What has been done in time, for a lease obtained at `start`: the first Rebind,
if T2 is before the end of the lease, and the return at its end. -/
structure Honoured (start : Instant) (lease : LeaseInfo) (state : ClientState) : Prop where
  rebind : lease.t2.toNat < lease.validLifetime.toNat →
    start + lease.t2.toNat * second < state.now →
      ∃ time msg dst, time ≤ start + lease.t2.toNat * second ∧ (time, .sent msg dst) ∈ state.log ∧
        msg.msgType = .rebind
  expired : start + lease.validLifetime.toNat * second < state.now →
    ∃ time, time ≤ start + lease.validLifetime.toNat * second ∧ (time, .expired) ∈ state.log

namespace Client

variable (client : Client)

/-- A step in time, without a Reply that is accepted and without a cancellation. -/
structure Undisturbed (state : ClientState) (input : ClientInput) : Prop where
  timely : Timely state input
  not_cancelled : input.event ≠ .cancelled
  not_accepted : client.acceptedReply state.point input.event = none

/-- The library writes the messages of the renewal and rejects an empty datagram. -/
structure Writable (loop : RenewalLoop) : Prop where
  renew : ∀ n, (client.codec.encode (buildRenew client.duid loop.serverDuid
    loop.lease.iaPdForRelease (client.xids n))).isSome
  rebind : ∀ n, (client.codec.encode (buildRebind client.duid
    loop.lease.iaPdForRelease (client.xids n))).isSome
  empty : client.codec.decode [] = none

end Client

/-- The renewal loop when a lease has been obtained. -/
def renewalStart (start : Instant) (loop : RenewalLoop) (drawn : Nat) : ClientState :=
  { now := start, point := .untilT1 loop, drawn := drawn, log := [] }

section Invariant

variable (client : Client) (loop : RenewalLoop)

/-- A Rebind has been sent in time, if it has to be. -/
def Rebound (log : ClientLog) : Prop :=
  loop.t2At < loop.expireAt → ∃ time msg dst, time ≤ loop.t2At ∧ (time, .sent msg dst) ∈ log ∧
    msg.msgType = .rebind

/-- The loop has returned in time. -/
def Returned (log : ClientLog) : Prop :=
  Rebound loop log ∧ ∃ time, time ≤ loop.expireAt ∧ (time, .expired) ∈ log

/-- What holds at each point of the loop when the deadlines are in order. -/
def OnTime (state : ClientState) : Prop :=
  match state.point with
  | .untilT1 loop' => loop' = loop ∧ state.now ≤ loop.t1At
  | .renew loop' xid _ => loop' = loop ∧ xid ∈ Set.range client.xids ∧ loop.t1At ≤ state.now ∧
      state.now < loop.expireAt ∧ state.now < loop.t2At
  | .rebind loop' xid _ _ => loop' = loop ∧ xid ∈ Set.range client.xids ∧
      state.now < loop.expireAt ∧ Rebound loop state.log
  | .panicked => False
  | _ => Returned loop state.log

/-- The deadlines of an ordered lease. -/
structure OrderedLoop : Prop where
  rebind : loop.t2At < loop.expireAt → loop.t1At ≤ loop.t2At
  t1_le : loop.t1At ≤ loop.expireAt
  renew : loop.t1At = loop.expireAt ∨ loop.t2At ≤ loop.expireAt

variable {client loop} {state : ClientState} {input : ClientInput} {xid : Xid} {rt : Nat}

theorem Rebound.append {log more : ClientLog} (h : Rebound loop log) : Rebound loop (log ++ more) := by
  intro hBefore
  obtain ⟨time, msg, dst, hTime, hSent, hType⟩ := h hBefore
  exact ⟨time, msg, dst, hTime, List.mem_append_left _ hSent, hType⟩

theorem Returned.append {log more : ClientLog} (h : Returned loop log) :
    Returned loop (log ++ more) := by
  obtain ⟨hRebound, time, hTime, hExpired⟩ := h
  exact ⟨hRebound.append, time, hTime, List.mem_append_left _ hExpired⟩

theorem exchangeFailed_onTime (h : Returned loop state.log) :
    OnTime client loop (Client.exchangeFailed state) := h

theorem solicit_onTime (h : Returned loop state.log) :
    OnTime client loop (client.solicit state input xid rt) := by
  rcases Client.solicit_cases client state with hFailed | hSent
  · rw [hFailed]
    exact exchangeFailed_onTime h
  · rw [hSent]
    exact h.append

theorem startExchange_onTime (h : Returned loop state.log) :
    OnTime client loop (client.startExchange state input) := by
  rcases Client.startExchange_cases client state with hStopped | hSolicit
  · rw [hStopped]
    exact h
  · rw [hSolicit]
    exact solicit_onTime h

theorem request_onTime {serverDuid : List U8} {iaPd : IaPd} (h : Returned loop state.log) :
    OnTime client loop (client.request state input xid serverDuid iaPd) := by
  rcases Client.request_cases client state with hFailed | hSent
  · rw [hFailed]
    exact exchangeFailed_onTime h
  · rw [hSent]
    exact h.append

theorem advertised_onTime {msg : Message} (h : Returned loop state.log) :
    OnTime client loop (client.advertised state input msg) := by
  rcases Client.advertised_cases client state with
    hFailed | ⟨serverDuid, iaPd, hRequest⟩
  · rw [hFailed]
    exact exchangeFailed_onTime h
  · rw [hRequest]
    exact request_onTime h

/-- The loop returns at the latest at the end of the lease. -/
theorem leaseExpired_onTime (hNow : state.now ≤ loop.expireAt) (h : Rebound loop state.log) :
    OnTime client loop (client.leaseExpired state input) := by
  apply startExchange_onTime
  exact ⟨h.append, state.now, hNow, List.mem_append_right _ List.mem_cons_self⟩

/-- A pass of the Rebind phase, the first one not after T2. -/
theorem rebindPass_onTime (hWritable : client.Writable loop) (hXid : xid ∈ Set.range client.xids)
    (hNow : state.now ≤ loop.expireAt)
    (h : Rebound loop state.log ∨ state.now ≤ loop.t2At) :
    OnTime client loop (client.rebindPass state input loop xid rt) := by
  obtain ⟨n, rfl⟩ := hXid
  rcases Client.rebindPass_cases client state with
    ⟨hEnd, hExpired⟩ | ⟨hBefore, hSent⟩
  · rw [hExpired]
    have hLate : loop.expireAt ≤ state.now := by
      rcases hEnd with hLate | hNone
      · exact hLate
      · have hSome := hWritable.rebind n
        rw [hNone] at hSome
        cases hSome
    apply leaseExpired_onTime hNow
    rcases h with hRebound | hFirst
    · exact hRebound
    · exact fun hRebind => absurd (hLate.trans hFirst) (Nat.not_le_of_lt hRebind)
  · rw [hSent]
    refine ⟨rfl, ⟨n, rfl⟩, hBefore, ?_⟩
    rcases h with hRebound | hFirst
    · exact hRebound.append
    · intro _
      exact ⟨state.now, _, _, hFirst, List.mem_append_right _ List.mem_cons_self, rfl⟩

theorem startRebind_onTime (hWritable : client.Writable loop) (hNow : state.now ≤ loop.expireAt)
    (h : Rebound loop state.log ∨ state.now ≤ loop.t2At) :
    OnTime client loop (client.startRebind state input loop) :=
  rebindPass_onTime hWritable ⟨_, rfl⟩ hNow h

/-- A pass of the Renew phase, not after T2 if that is before the end. -/
theorem renewPass_onTime (hWritable : client.Writable loop) (hXid : xid ∈ Set.range client.xids)
    (hT1 : loop.t1At ≤ state.now) (hNow : state.now ≤ loop.expireAt)
    (hT2 : loop.t2At < loop.expireAt → state.now ≤ loop.t2At) :
    OnTime client loop (client.renewPass state input loop xid) := by
  rcases Client.renewPass_cases client state with
    ⟨hLate, hExpired⟩ | ⟨-, hRebind⟩ | ⟨hBefore, hBeforeT2, hSent⟩
  · rw [hExpired]
    apply leaseExpired_onTime hNow
    exact fun hRebind => absurd (hLate.trans (hT2 hRebind)) (Nat.not_le_of_lt hRebind)
  · rw [hRebind]
    apply startRebind_onTime hWritable hNow
    by_cases hBefore : loop.t2At < loop.expireAt
    · exact .inr (hT2 hBefore)
    · exact .inl fun hRebound => absurd hRebound hBefore
  · rw [hSent]
    exact ⟨rfl, hXid, hT1, hBefore, hBeforeT2⟩

/-- What a timely step without a Reply does keeps the deadlines. -/
theorem resume_onTime {next : ClientState} (hWritable : client.Writable loop)
    (hOrdered : OrderedLoop loop) (h : OnTime client loop state)
    (hStep : client.Undisturbed state input) (hResume : client.resume state input = some next) :
    OnTime client loop next := by
  have hNext := Client.resume_cases hResume
  obtain ⟨⟨hForward, hTimeout, hDeadline⟩, hCancelled, hAccepted⟩ := hStep
  obtain ⟨now, point, drawn, log⟩ := state
  cases point with
  | solicit xid rt since =>
      rcases hNext with ⟨msg, rfl⟩ | ⟨rt, rfl⟩ | rfl | rfl
      · exact advertised_onTime h
      · exact solicit_onTime h
      · exact exchangeFailed_onTime h
      · exact h
  | request xid serverDuid iaPd wakeAt =>
      rcases hNext with ⟨data, msg, hEvent, hParse, rfl⟩ | rfl | rfl | rfl
      · simp only [Client.acceptedReply, hEvent] at hAccepted
        rw [Client.granted_of_not_accepted hParse hAccepted]
        exact exchangeFailed_onTime h
      · exact request_onTime h
      · exact exchangeFailed_onTime h
      · exact h
  | retry wakeAt =>
      rcases hNext with rfl | rfl
      · exact startExchange_onTime h
      · exact h
  | untilT1 loop' =>
      obtain ⟨rfl, hNow⟩ := h
      rcases hNext with ⟨hEvent, rfl⟩ | ⟨hEvent, -⟩
      · obtain ⟨hLatest, hEarliest⟩ := hDeadline _ rfl
        have hTime : input.time = loop'.t1At :=
          Nat.le_antisymm (hLatest.trans (max_le (Nat.le_refl _) hNow)) (hEarliest hEvent)
        apply renewPass_onTime hWritable ⟨_, rfl⟩
        · exact hTime.ge
        · exact hTime.trans_le hOrdered.t1_le
        · exact fun hBefore => hTime.trans_le (hOrdered.rebind hBefore)
      · exact absurd hEvent hCancelled
  | renew loop' xid wakeAt =>
      obtain ⟨rfl, hXid, hT1, hBefore, hBeforeT2⟩ := h
      obtain ⟨hLatest, -⟩ := hDeadline _ rfl
      have hTime : input.time ≤ loop'.t2At := hLatest.trans (max_le (Nat.le_refl _) hBeforeT2.le)
      have hT2 : loop'.t2At ≤ loop'.expireAt := by
        rcases hOrdered.renew with hNone | hT2
        · exact absurd (hNone.ge.trans hT1) (Nat.not_le_of_lt hBefore)
        · exact hT2
      have hRebind : OnTime client loop' (client.startRebind
          (Client.atTime ⟨now, .renew loop' xid wakeAt, drawn, log⟩ input.time) input loop') :=
        startRebind_onTime hWritable (hTime.trans hT2) (.inr hTime)
      have hRenew : OnTime client loop' (client.renewPass
          (Client.atTime ⟨now, .renew loop' xid wakeAt, drawn, log⟩ input.time) input loop' xid) :=
        renewPass_onTime hWritable hXid (hT1.trans hForward) (hTime.trans hT2) fun _ => hTime
      rcases hNext with ⟨data, msg, hEvent, hParse, rfl⟩ | rfl | ⟨-, rfl⟩ | ⟨hEvent, -⟩
      · simp only [Client.acceptedReply, hEvent] at hAccepted
        rcases Client.renewed_of_not_accepted hParse hAccepted with hEnd | hEnd
        · rw [hEnd]
          exact hRebind
        · rw [hEnd]
          exact hRenew
      · exact hRenew
      · exact hRebind
      · exact absurd hEvent hCancelled
  | rebind loop' xid rt wakeAt =>
      obtain ⟨rfl, hXid, hBefore, hRebound⟩ := h
      obtain ⟨hLatest, -⟩ := hDeadline _ rfl
      have hTime : input.time ≤ loop'.expireAt := hLatest.trans (max_le (Nat.le_refl _) hBefore.le)
      have hExpired : OnTime client loop' (client.leaseExpired
          (Client.atTime ⟨now, .rebind loop' xid rt wakeAt, drawn, log⟩ input.time) input) :=
        leaseExpired_onTime hTime hRebound
      have hRebind (rt' : Nat) : OnTime client loop' (client.rebindPass
          (Client.atTime ⟨now, .rebind loop' xid rt wakeAt, drawn, log⟩ input.time) input loop' xid
            rt') :=
        rebindPass_onTime hWritable hXid hTime (.inl hRebound)
      rcases hNext with ⟨data, msg, hEvent, hParse, rfl⟩ | ⟨rt', rfl⟩ | ⟨-, rfl⟩ | ⟨hEvent, -⟩
      · simp only [Client.acceptedReply, hEvent] at hAccepted
        rcases Client.renewed_of_not_accepted hParse hAccepted with hEnd | hEnd
        · rw [hEnd]
          exact hExpired
        · rw [hEnd]
          exact hRebind rt
      · exact hRebind rt'
      · exact hExpired
      · exact absurd hEvent hCancelled
  | stopped => exact hNext.elim
  | panicked => exact hNext.elim

end Invariant

section Times

variable {start : Instant} {loop : RenewalLoop}

theorem addSecs_eq {now next : Instant} {secs : Nat} (h : now.addSecs secs = some next) :
    next = now + secs * second := by
  unfold Instant.addSecs at h
  split_ifs at h
  exact (Option.some.inj h).symm

/-- The deadlines of a finite lease are its timers in seconds. -/
theorem deadlines_eq (hFinite : loop.lease.validLifetime ≠ infiniteLifetime)
    (h : Client.deadlines start loop.lease = some (loop.t1At, loop.t2At, loop.expireAt)) :
    loop.t1At = start + loop.lease.t1.toNat * second ∧
      loop.t2At = start + loop.lease.t2.toNat * second ∧
      loop.expireAt = start + loop.lease.validLifetime.toNat * second := by
  simp only [Client.deadlines, if_neg hFinite, Option.bind_eq_bind, Option.bind_eq_some_iff] at h
  obtain ⟨t1At, hT1, t2At, hT2, expireAt, hExpire, hAll⟩ := h
  cases hAll
  exact ⟨addSecs_eq hT1, addSecs_eq hT2, addSecs_eq hExpire⟩

theorem add_secs_le_iff {a b : Nat} : start + a * second ≤ start + b * second ↔ a ≤ b := by
  rw [Nat.add_le_add_iff_left]
  exact Nat.mul_le_mul_right_iff (by decide)

theorem add_secs_lt_iff {a b : Nat} : start + a * second < start + b * second ↔ a < b := by
  rw [Nat.add_lt_add_iff_left]
  exact Nat.mul_lt_mul_right (by decide)

end Times

section Runs

variable {client : Client} {loop : RenewalLoop} {start : Instant} {state : ClientState} {xid : Xid}

/-- A wait of the loop can always end by one of its timers. -/
def GoesOn (client : Client) (state : ClientState) : Prop :=
  state.point.loop.isSome → ∃ input, client.Undisturbed state input ∧
    (client.resume state input).isSome

/-- The loop waits for an answer to the Renew it has just sent. -/
structure Renewing (loop : RenewalLoop) (xid : Xid) (state : ClientState) : Prop where
  point : state.point = .renew loop xid (state.now + renRetrans * second)
  not_expired : ∀ time, (time, .expired) ∉ state.log

/-- An input that no phase of the client is interested in. -/
def plainInput (time : Instant) (event : WaitEvent) : ClientInput :=
  { time := time, event := event, sendFails := false, channelClosed := false
    cancelRequested := false }

/-- The deadline ends a wait when no timeout comes first. -/
theorem timely_deadline (state : ClientState) {wakeAt : Instant} (hDeadline : state.point.deadline = some wakeAt)
    (hTimeout : ∀ wake ∈ state.point.timeout, wakeAt ≤ wake.2) :
    Timely state (plainInput (max wakeAt state.now) .deadline) where
  forward := le_max_right _ _
  timeout wake hWake := ⟨max_le_max_right _ (hTimeout wake hWake), fun h => by cases h⟩
  deadline wake hWake := by
    cases Option.some.inj (hDeadline.symm.trans hWake)
    exact ⟨Nat.le_refl _, fun _ => le_max_left _ _⟩

/-- The timeout ends a wait when it does not come after the deadline. -/
theorem timely_timeout {wakeAt deadline : Instant}
    (hTimeout : state.point.timeout = some (wakeAt, wakeAt))
    (hDeadline : state.point.deadline = some deadline) (hFirst : wakeAt ≤ deadline) :
    Timely state (plainInput (max wakeAt state.now) .timeout) where
  forward := le_max_right _ _
  timeout wake hWake := by
    cases Option.some.inj (hTimeout.symm.trans hWake)
    exact ⟨Nat.le_refl _, fun _ => le_max_left _ _⟩
  deadline wake hWake := by
    cases Option.some.inj (hDeadline.symm.trans hWake)
    exact ⟨max_le_max_right _ hFirst, fun h => by cases h⟩

/-- Within the loop one of the two timers goes off next. -/
theorem goesOn (client : Client) (state : ClientState) : GoesOn client state := by
  obtain ⟨now, point, drawn, log⟩ := state
  intro hLoop
  cases point with
  | untilT1 loop =>
      refine ⟨_, ⟨timely_deadline _ rfl ?_, (fun h => by cases h), rfl⟩, rfl⟩
      intro wake hWake
      cases hWake
  | renew loop xid wakeAt =>
      by_cases hFirst : wakeAt ≤ loop.t2At
      · exact ⟨_, ⟨timely_timeout rfl rfl hFirst, (fun h => by cases h), rfl⟩, rfl⟩
      · refine ⟨_, ⟨timely_deadline _ rfl ?_, (fun h => by cases h), rfl⟩, rfl⟩
        intro wake hWake
        cases hWake
        exact Nat.le_of_not_le hFirst
  | rebind loop xid rt wakeAt =>
      by_cases hFirst : wakeAt ≤ loop.expireAt
      · exact ⟨_, ⟨timely_timeout rfl rfl hFirst, (fun h => by cases h), rfl⟩, rfl⟩
      · refine ⟨_, ⟨timely_deadline _ rfl ?_, (fun h => by cases h), rfl⟩, rfl⟩
        intro wake hWake
        cases hWake
        exact Nat.le_of_not_le hFirst
  | solicit | request | retry | stopped | panicked => cases hLoop

/-- The wait for T1 ends at T1. -/
theorem renewalStart_step (client : Client) (hStart : start ≤ loop.t1At) (drawn : Nat) :
    client.Undisturbed (renewalStart start loop drawn) (plainInput loop.t1At .deadline) ∧
      client.resume (renewalStart start loop drawn) (plainInput loop.t1At .deadline) =
        some (client.startRenew (Client.atTime (renewalStart start loop drawn) loop.t1At)
          (plainInput loop.t1At .deadline) loop) := by
  have hTimely : Timely (renewalStart start loop drawn) (plainInput (max loop.t1At start) .deadline) :=
    timely_deadline _ rfl fun wake hWake => by cases hWake
  rw [max_eq_left hStart] at hTimely
  exact ⟨⟨hTimely, (fun h => by cases h), rfl⟩, rfl⟩

/-- A Renew starts as long as neither T2 nor the end of the lease has come. -/
theorem startRenew_renewing (state : ClientState) (input : ClientInput) (hWritable : client.Writable loop)
    (hExpire : state.now < loop.expireAt) (hT2 : state.now < loop.t2At)
    (hNone : ∀ time, (time, .expired) ∉ state.log) :
    Renewing loop (client.xids state.drawn) (client.startRenew state input loop) := by
  have hSent : client.startRenew state input loop = _ :=
    Client.renewPass_eq (client.newXid state).2 hExpire hT2 (hWritable.renew state.drawn)
  rw [hSent]
  refine ⟨rfl, fun time hExpired => ?_⟩
  rcases List.mem_append.mp hExpired with hExpired | hExpired
  · exact hNone time hExpired
  · cases List.mem_singleton.mp hExpired

/-- An empty datagram makes the loop send again. -/
theorem Renewing.step (h : Renewing loop xid state) (hEmpty : client.codec.decode [] = none)
    {time : Instant} (hForward : state.now ≤ time) (hTimeout : time ≤ state.now + renRetrans * second)
    (hT2 : time ≤ loop.t2At) :
    client.Undisturbed state (plainInput time (.received [])) ∧
      client.resume state (plainInput time (.received [])) =
        some (client.renewPass (Client.atTime state time) (plainInput time (.received [])) loop xid) := by
  obtain ⟨now, point, drawn, log⟩ := state
  have hPoint : point = .renew loop xid (now + renRetrans * second) := h.point
  subst hPoint
  have hParse : parseReply client.codec [] xid = none := by simp [parseReply, hEmpty]
  refine ⟨⟨⟨hForward, ?_, ?_⟩, (fun h => by cases h), ?_⟩, ?_⟩
  · intro wake hWake
    cases hWake
    exact ⟨hTimeout.trans (le_max_left _ _), fun h => by cases h⟩
  · intro wake hWake
    cases hWake
    exact ⟨hT2.trans (le_max_left _ _), fun h => by cases h⟩
  · simp [Client.acceptedReply, plainInput, Client.accepts, hParse]
  · simp only [Client.resume, plainInput, hParse]
    rfl

/-- Renewing goes on up to any time before both deadlines. -/
theorem Renewing.reaches (hWritable : client.Writable loop) (hXid : xid ∈ Set.range client.xids)
    {target : Instant} (hExpire : target < loop.expireAt) (hT2 : target < loop.t2At)
    (h : Renewing loop xid state) (hNow : state.now ≤ target) :
    ∃ inputs next, Run client.resume client.Undisturbed state inputs next ∧
      Renewing loop xid next ∧ next.now = target := by
  induction hLeft : target - state.now using Nat.strong_induction_on generalizing state with
  | _ left ih =>
      by_cases hDone : state.now = target
      · exact ⟨[], state, Run.nil _, h, hDone⟩
      · let time := min target (state.now + renRetrans * second)
        have hTarget : time ≤ target := min_le_left _ _
        have hForward : state.now < time := by
          apply lt_min (lt_of_le_of_ne hNow hDone)
          exact Nat.lt_add_of_pos_right (by decide)
        obtain ⟨hStep, hResume⟩ := h.step hWritable.empty hForward.le (min_le_right _ _)
          (hTarget.trans hT2.le)
        obtain ⟨n, rfl⟩ := hXid
        rw [Client.renewPass_eq (Client.atTime state time) (lt_of_le_of_lt hTarget hExpire)
          (lt_of_le_of_lt hTarget hT2) (hWritable.renew n)] at hResume
        have hNext : Renewing loop (client.xids n)
            (((Client.atTime state time).emit (.sent (buildRenew client.duid loop.serverDuid
              loop.lease.iaPdForRelease (client.xids n)) (.ofServer loop.serverUnicast))).goto
                (.renew loop (client.xids n) (time + renRetrans * second))) := by
          refine ⟨rfl, fun expired hExpired => ?_⟩
          rcases List.mem_append.mp hExpired with hExpired | hExpired
          · exact h.not_expired expired hExpired
          · cases List.mem_singleton.mp hExpired
        obtain ⟨inputs, next, run, hRenewing, hReached⟩ :=
          ih (target - time) (hLeft ▸ Nat.sub_lt_sub_left (hForward.trans_le hTarget) hForward) hNext
            hTarget rfl
        exact ⟨_ :: inputs, next, (Run.single hStep hResume).trans run, hRenewing, hReached⟩

/-- Everything the client has done when the wait for T1 ends is done at T1. -/
theorem startRenew_times (client : Client) (loop : RenewalLoop) (start : Instant) (drawn : Nat)
    (input : ClientInput) {next : ClientState}
    (h : client.startRenew (Client.atTime (renewalStart start loop drawn) loop.t1At) input loop = next) :
    next.now = loop.t1At ∧ ∀ time output, (time, output) ∈ next.log → time = loop.t1At := by
  obtain ⟨hNow, more, hLog, hTimes⟩ := Client.startRenew_extends client
    (Client.atTime (renewalStart start loop drawn) loop.t1At) input loop
  rw [h] at hNow hLog
  refine ⟨hNow, fun time output hEntry => ?_⟩
  rw [hLog] at hEntry
  exact hTimes _ hEntry

/-- With a Renew phase that lasts beyond the end of the lease, the wait for an
answer that began just before the end goes on after it. -/
theorem Renewing.returns_late (hWritable : client.Writable loop)
    (hXid : xid ∈ Set.range client.xids) (h : Renewing loop xid state)
    (hNow : state.now < loop.expireAt) (hT2 : loop.expireAt < loop.t2At) :
    ∃ inputs next, Run client.resume client.Undisturbed state inputs next ∧
      loop.expireAt < next.now ∧ ∀ time, (time, .expired) ∈ next.log → loop.expireAt < time := by
  have hPos : 0 < loop.expireAt := Nat.zero_lt_of_lt hNow
  obtain ⟨inputs, last, run, hLast, hLastNow⟩ := h.reaches hWritable hXid
    (Nat.sub_lt hPos Nat.one_pos) ((Nat.sub_le _ _).trans_lt hT2) (Nat.le_sub_one_of_lt hNow)
  have hForward : last.now ≤ loop.expireAt + 1 := by
    rw [hLastNow]
    exact (Nat.sub_le _ _).trans (Nat.le_succ _)
  have hTimeout : loop.expireAt + 1 ≤ last.now + renRetrans * second := by
    have hDelay : 2 ≤ renRetrans * second := by decide
    have hOne (n : Nat) : n + 1 ≤ n - 1 + 2 := by omega
    rw [hLastNow]
    exact (hOne _).trans (Nat.add_le_add_left hDelay _)
  obtain ⟨hStep, hResume⟩ := hLast.step hWritable.empty hForward hTimeout hT2
  obtain ⟨hNextNow, more, hLog, hTimes⟩ := Client.renewPass_extends client
    (Client.atTime last (loop.expireAt + 1)) (plainInput (loop.expireAt + 1) (.received [])) loop xid
  refine ⟨_, _, Run.snoc run hStep hResume, ?_, ?_⟩
  · rw [hNextNow]
    exact Nat.lt_succ_self _
  · intro time hExpired
    rw [hLog] at hExpired
    rcases List.mem_append.mp hExpired with hExpired | hExpired
    · exact absurd hExpired (hLast.not_expired time)
    · have hTime : time = loop.expireAt + 1 := hTimes _ hExpired
      rw [hTime]
      exact Nat.lt_succ_self _

end Runs

section Order

variable {client : Client} {loop : RenewalLoop} {start : Instant} {drawn : Nat}
  {state : ClientState}

/-- The points in time are in order if the completed timers are. -/
theorem orderedLoop_iff (hFinite : loop.lease.validLifetime ≠ infiniteLifetime)
    (hDeadlines : Client.deadlines start loop.lease = some (loop.t1At, loop.t2At, loop.expireAt)) :
    OrderedLoop loop ↔ loop.lease.Ordered := by
  obtain ⟨hT1, hT2, hExpire⟩ := deadlines_eq hFinite hDeadlines
  constructor
  · intro ⟨hRebind, hT1Le, hRenew⟩
    rw [hT1, hT2, hExpire] at *
    refine ⟨fun h => add_secs_le_iff.mp (hRebind (add_secs_lt_iff.mpr h)),
      add_secs_le_iff.mp hT1Le, ?_⟩
    rcases hRenew with hNone | hRenew
    · exact .inl (Nat.eq_of_mul_eq_mul_right (by decide) (Nat.add_left_cancel hNone))
    · exact .inr (add_secs_le_iff.mp hRenew)
  · intro ⟨hRebind, hT1Le, hRenew⟩
    refine ⟨?_, ?_, ?_⟩
    · rw [hT1, hT2, hExpire]
      exact fun h => add_secs_le_iff.mpr (hRebind (add_secs_lt_iff.mp h))
    · rw [hT1, hExpire]
      exact add_secs_le_iff.mpr hT1Le
    · rw [hT1, hT2, hExpire]
      rcases hRenew with hNone | hRenew
      · exact .inl (by rw [hNone])
      · exact .inr (add_secs_le_iff.mpr hRenew)

/-- Messages on time are what the lease asks for. -/
theorem honoured_of_onTime (hFinite : loop.lease.validLifetime ≠ infiniteLifetime)
    (hDeadlines : Client.deadlines start loop.lease = some (loop.t1At, loop.t2At, loop.expireAt))
    (hOrdered : OrderedLoop loop) (h : OnTime client loop state) :
    Honoured start loop.lease state := by
  obtain ⟨-, hT2, hExpire⟩ := deadlines_eq hFinite hDeadlines
  have hBefore : loop.lease.t2.toNat < loop.lease.validLifetime.toNat → loop.t2At < loop.expireAt := by
    intro hLt
    rw [hT2, hExpire]
    exact add_secs_lt_iff.mpr hLt
  have hReturned (hReturned : Returned loop state.log) : Honoured start loop.lease state := by
    obtain ⟨hRebound, hExpired⟩ := hReturned
    constructor
    · intro hLt _
      rw [← hT2]
      exact hRebound (hBefore hLt)
    · intro _
      rw [← hExpire]
      exact hExpired
  obtain ⟨now, point, drawn, log⟩ := state
  cases point with
  | untilT1 loop' =>
      obtain ⟨rfl, hNow⟩ := h
      constructor
      · intro hLt hLate
        rw [← hT2] at hLate
        exact absurd (hNow.trans (hOrdered.rebind (hBefore hLt))) (Nat.not_le_of_lt hLate)
      · intro hLate
        rw [← hExpire] at hLate
        exact absurd (hNow.trans hOrdered.t1_le) (Nat.not_le_of_lt hLate)
  | renew loop' xid wakeAt =>
      obtain ⟨rfl, -, -, hExpireAfter, hT2After⟩ := h
      constructor
      · intro _ hLate
        rw [← hT2] at hLate
        exact absurd hLate.le (Nat.not_le_of_lt hT2After)
      · intro hLate
        rw [← hExpire] at hLate
        exact absurd hLate.le (Nat.not_le_of_lt hExpireAfter)
  | rebind loop' xid rt wakeAt =>
      obtain ⟨rfl, -, hExpireAfter, hRebound⟩ := h
      constructor
      · intro hLt _
        rw [← hT2]
        exact hRebound (hBefore hLt)
      · intro hLate
        rw [← hExpire] at hLate
        exact absurd hLate.le (Nat.not_le_of_lt hExpireAfter)
  | solicit | request | retry | stopped => exact hReturned h
  | panicked => exact h.elim

/-- Deadlines that are honoured in all runs are in order. -/
theorem ordered_of_honoured (hFinite : loop.lease.validLifetime ≠ infiniteLifetime)
    (hDeadlines : Client.deadlines start loop.lease = some (loop.t1At, loop.t2At, loop.expireAt))
    (hWritable : client.Writable loop)
    (h : ∀ inputs finish, Run client.resume client.Undisturbed (renewalStart start loop drawn) inputs
      finish → Honoured start loop.lease finish) : loop.lease.Ordered := by
  rw [← orderedLoop_iff hFinite hDeadlines]
  obtain ⟨hT1, hT2, hExpire⟩ := deadlines_eq hFinite hDeadlines
  have hStart : start ≤ loop.t1At := hT1 ▸ Nat.le_add_right _ _
  obtain ⟨hStep, hResume⟩ := renewalStart_step client hStart drawn
  have hFirst := Run.single hStep hResume
  obtain ⟨hNow, hTimes⟩ := startRenew_times client loop start drawn
    (plainInput loop.t1At .deadline) rfl
  have hHonoured := h _ _ hFirst
  have hT1Le : loop.t1At ≤ loop.expireAt := by
    by_contra hLate
    have hLt := Nat.lt_of_not_le hLate
    obtain ⟨time, hTime, hExpired⟩ := hHonoured.expired (by rw [← hExpire, hNow]; exact hLt)
    rw [hTimes _ _ hExpired, ← hExpire] at hTime
    exact hLate hTime
  have hRebind : loop.t2At < loop.expireAt → loop.t1At ≤ loop.t2At := by
    intro hBefore
    by_contra hLate
    have hLt := Nat.lt_of_not_le hLate
    obtain ⟨time, msg, dst, hTime, hSent, -⟩ := hHonoured.rebind
      (by rw [hT2, hExpire] at hBefore; exact add_secs_lt_iff.mp hBefore)
      (by rw [← hT2, hNow]; exact hLt)
    rw [hTimes _ _ hSent, ← hT2] at hTime
    exact hLate hTime
  refine ⟨hRebind, hT1Le, ?_⟩
  by_contra hRenew
  obtain ⟨hSome, hLate⟩ := not_or.mp hRenew
  have hLt : loop.t1At < loop.expireAt := lt_of_le_of_ne hT1Le hSome
  have hT2Late : loop.expireAt < loop.t2At := Nat.lt_of_not_le hLate
  have hRenewing := startRenew_renewing
    (Client.atTime (renewalStart start loop drawn) loop.t1At) (plainInput loop.t1At .deadline)
    hWritable hLt (hLt.trans hT2Late) fun time hExpired => by cases hExpired
  obtain ⟨inputs, next, run, hNextNow, hNone⟩ := hRenewing.returns_late hWritable ⟨drawn, rfl⟩
    (hNow.trans_lt hLt) hT2Late
  obtain ⟨time, hTime, hExpired⟩ := (h _ _ (hFirst.trans run)).expired (hExpire ▸ hNextNow)
  exact absurd (hExpire ▸ hTime) (Nat.not_le_of_lt (hNone time hExpired))

/-- Rebind and the end of a finite lease are in time, for all arrivals of datagrams, exactly
if the timers are in order. Every wait of the loop can be ended by a timer. -/
theorem deadlines_honoured_iff (hFinite : loop.lease.validLifetime ≠ infiniteLifetime)
    (hDeadlines : Client.deadlines start loop.lease = some (loop.t1At, loop.t2At, loop.expireAt))
    (hWritable : client.Writable loop) :
    (∀ inputs finish, Run client.resume client.Undisturbed (renewalStart start loop drawn) inputs
      finish → Honoured start loop.lease finish ∧ GoesOn client finish) ↔ loop.lease.Ordered := by
  constructor
  · exact fun h => ordered_of_honoured hFinite hDeadlines hWritable fun inputs finish run =>
      (h inputs finish run).1
  · intro hLease inputs finish run
    have hOrdered := (orderedLoop_iff hFinite hDeadlines).mpr hLease
    obtain ⟨hT1, -⟩ := deadlines_eq hFinite hDeadlines
    have hStart : OnTime client loop (renewalStart start loop drawn) :=
      ⟨rfl, hT1 ▸ Nat.le_add_right _ _⟩
    have hOnTime : OnTime client loop finish :=
      run.invariant (fun _ _ _ hState => resume_onTime hWritable hOrdered hState) hStart
    exact ⟨honoured_of_onTime hFinite hDeadlines hOrdered hOnTime, goesOn client finish⟩

end Order

section Examples

/-- `2001:db8:1::/56` from a server that gives these timers. -/
def timedIaPd (t1 t2 validLifetime : U32) : IaPd :=
  { id := 2, t1 := t1, t2 := t2
    opts := [.iaPrefix
      { preferredLifetime := validLifetime, validLifetime := validLifetime, prefixLen := 56
        prefixIp := 0x20010db8000100000000000000000000 }] }

def timedReply (t1 t2 validLifetime : U32) : Message :=
  { msgType := .reply, xid := 0x123456
    opts := [.serverId [1], .iaPd (timedIaPd t1 t2 validLifetime)] }

def timedLease (t1 t2 validLifetime : U32) : LeaseInfo :=
  { cePrefix := ⟨0x20010db8000100000000000000000000, 56, by decide⟩
    t1 := t1, t2 := t2, validLifetime := validLifetime, rules := [], serverDuid := [1]
    serverUnicast := none, iaPdForRelease := { id := 2, t1 := t1, t2 := t2, opts := [] } }

/-- The loop for a lease obtained one second after the start of the clock. -/
def timedLoop (t1 t2 validLifetime : U32) : RenewalLoop :=
  { first := timedLease t1 t2 validLifetime, serverDuid := [1], serverUnicast := none
    lease := timedLease t1 t2 validLifetime, t1At := second + t1.toNat * second
    t2At := second + t2.toNat * second, expireAt := second + validLifetime.toNat * second }

/-- A server that leaves the timers to the client. -/
theorem deadlines_honoured_default :
    (processReply wireCodec (Wire.writeMessage (timedReply 0 0 100)) 2 [1] =
        some (.ok (timedLease 50 80 100)) ∧
      (timedLease 50 80 100).validLifetime ≠ infiniteLifetime ∧
      Client.deadlines second (timedLease 50 80 100) = some (51 * second, 81 * second, 101 * second) ∧
      testClient.Writable (timedLoop 50 80 100)) ∧
    ∀ inputs finish, Run testClient.resume testClient.Undisturbed
      (renewalStart second (timedLoop 50 80 100) 2) inputs finish →
        Honoured second (timedLease 50 80 100) finish ∧ GoesOn testClient finish := by
  have hDeadlines : Client.deadlines second (timedLease 50 80 100) =
      some (51 * second, 81 * second, 101 * second) := by
    decide +kernel
  have hRenew : (wireCodec.encode (buildRenew testClient.duid [1]
      (timedLease 50 80 100).iaPdForRelease 0x123456)).isSome := by
    decide +kernel
  have hRebind : (wireCodec.encode (buildRebind testClient.duid
      (timedLease 50 80 100).iaPdForRelease 0x123456)).isSome := by
    decide +kernel
  have hWritable : testClient.Writable (timedLoop 50 80 100) := ⟨fun _ => hRenew, fun _ => hRebind, rfl⟩
  have hReply : processReply wireCodec (Wire.writeMessage (timedReply 0 0 100)) 2 [1] =
      some (.ok (timedLease 50 80 100)) := by
    decide +kernel
  refine ⟨⟨hReply, by decide, hDeadlines, hWritable⟩, ?_⟩
  have hFinite : (timedLoop 50 80 100).lease.validLifetime ≠ infiniteLifetime := by decide
  exact (deadlines_honoured_iff hFinite hDeadlines hWritable).mpr ⟨by decide, by decide, by decide⟩

/-- The server gives T2 only, and the default for T1 comes after it. -/
theorem deadlines_missed_default :
    processReply wireCodec (Wire.writeMessage (timedReply 0 10 100)) 2 [1] =
        some (.ok (timedLease 50 10 100)) ∧
      ∃ inputs finish, Run testClient.resume testClient.Undisturbed
        (renewalStart second (timedLoop 50 10 100) 2) inputs finish ∧
          ¬ Honoured second (timedLease 50 10 100) finish := by
  constructor
  · decide +kernel
  · have hStart : second ≤ (timedLoop 50 10 100).t1At := Nat.le_add_right _ _
    obtain ⟨hStep, hResume⟩ := renewalStart_step testClient hStart 2
    obtain ⟨hNow, hTimes⟩ := startRenew_times testClient (timedLoop 50 10 100) second 2
      (plainInput (timedLoop 50 10 100).t1At .deadline) rfl
    refine ⟨_, _, Run.single hStep hResume, fun hHonoured => ?_⟩
    obtain ⟨time, msg, dst, hTime, hSent, -⟩ := hHonoured.rebind (by decide) (by rw [hNow]; decide)
    rw [hTimes _ _ hSent] at hTime
    exact absurd hTime (by decide)

end Examples

section Range

theorem addSecs_isSome {now : Instant} {secs : Nat} :
    (now.addSecs secs).isSome ↔ now / second + secs < 2 ^ 63 := by
  unfold Instant.addSecs
  split_ifs with h
  · exact iff_of_true rfl h
  · exact iff_of_false (by simp) h

/-- From one second on the stand-in for an infinite lifetime is out of range. -/
theorem addSecs_infinite {now : Instant} (h : second ≤ now) :
    now.addSecs ((2 ^ 64 - 1) / 2) = none := by
  have hSecs : 1 ≤ now / second := (Nat.one_le_div_iff (by decide)).mpr h
  have hOut : ¬ now / second + (2 ^ 64 - 1) / 2 < 2 ^ 63 := by
    rw [Nat.not_lt, show 2 ^ 63 = 1 + (2 ^ 64 - 1) / 2 by norm_num]
    exact Nat.add_le_add_right hSecs _
  exact if_neg hOut

/-- Each of the three sums has to be a point in time. -/
theorem deadlines_isSome (now : Instant) (lease : LeaseInfo) :
    (Client.deadlines now lease).isSome ↔ (now.addSecs lease.t1.toNat).isSome ∧
      (now.addSecs lease.t2.toNat).isSome ∧
      (if lease.validLifetime = infiniteLifetime then now.addSecs ((2 ^ 64 - 1) / 2)
        else now.addSecs lease.validLifetime.toNat).isSome := by
  unfold Client.deadlines
  cases now.addSecs lease.t1.toNat with
  | none => exact iff_of_false nofun fun h => nomatch h.1
  | some t1At =>
      cases now.addSecs lease.t2.toNat with
      | none => exact iff_of_false nofun fun h => nomatch h.2.1
      | some t2At =>
          split_ifs
          · generalize now.addSecs ((2 ^ 64 - 1) / 2) = expireAt
            cases expireAt <;> simp
          · cases now.addSecs lease.validLifetime.toNat <;> simp

/-- The deadlines can be computed for the leases with a finite lifetime, as long as
the clock is below the end of its range by the longest timer. -/
theorem deadlines_isSome_iff {now : Instant} (h : second ≤ now) (lease : LeaseInfo) :
    (Client.deadlines now lease).isSome ↔ lease.validLifetime ≠ infiniteLifetime ∧
      now / second + max (max lease.t1.toNat lease.t2.toNat) lease.validLifetime.toNat < 2 ^ 63 := by
  rw [deadlines_isSome]
  split_ifs with hInfinite
  · rw [addSecs_infinite h]
    exact iff_of_false (fun hAll => nomatch hAll.2.2) fun hFinite => hFinite.1 hInfinite
  · simp only [addSecs_isSome, ← Nat.add_max_add_left, max_lt_iff]
    exact ⟨fun ⟨hT1, hT2, hLifetime⟩ => ⟨hInfinite, ⟨hT1, hT2⟩, hLifetime⟩,
      fun ⟨_, ⟨hT1, hT2⟩, hLifetime⟩ => ⟨hT1, hT2, hLifetime⟩⟩

theorem deadlines_isSome_finite :
    (Client.deadlines (60 * second) (timedLease 50 80 100)).isSome :=
  (deadlines_isSome_iff (by decide) (timedLease 50 80 100)).mpr (by decide)

/-- A Reply with an infinite lifetime. -/
def endlessReply : Message :=
  { serverMessage .reply [1] with
    opts := [.serverId [1], .iaPd { id := 2, t1 := 0, t2 := 0, opts := [.iaPrefix
      { preferredLifetime := infiniteLifetime, validLifetime := infiniteLifetime, prefixLen := 56
        prefixIp := 0x20010db8000100000000000000000000 }] }] }

/-- The client panics when it is granted an infinite lifetime. -/
theorem run_panics_infinite :
    (∃ lease, processReply wireCodec (Wire.writeMessage endlessReply) 2 [1] = some (.ok lease) ∧
      Client.deadlines second lease = none) ∧
    ∃ finish, Run testClient.resume Timely (testClient.start second (inputAt 1 .timeout))
      [receivedAt 1 (serverMessage .advertise [1]), receivedAt 1 endlessReply] finish ∧
      finish.point = .panicked := by
  have hLease : (processReply wireCodec (Wire.writeMessage endlessReply) 2 [1]).map (fun result =>
      result.toOption.map (Client.deadlines second)) = some (some none) := by
    decide +kernel
  have hEval : (runAll (guarded testClient.resume Timely)
      [receivedAt 1 (serverMessage .advertise [1]), receivedAt 1 endlessReply]
      (testClient.start second (inputAt 1 .timeout))).map (fun state =>
        match state.point with
        | .panicked => true
        | _ => false) = some true := by
    decide +kernel
  constructor
  · obtain ⟨result, hProcess, hResult⟩ := Option.map_eq_some_iff.mp hLease
    cases result with
    | error e => cases hResult
    | ok lease => exact ⟨lease, hProcess, Option.some.inj hResult⟩
  · obtain ⟨finish, hFinish, hPanicked⟩ := Option.map_eq_some_iff.mp hEval
    refine ⟨finish, Run.of_runAll hFinish, ?_⟩
    split at hPanicked
    · assumption
    · cases hPanicked

end Range

end Mapecd
