import Mapecd.Dhcpv6.Client

/-! What the client can do between two waits. -/
namespace Mapecd

abbrev ClientLog := List (Instant × ClientOutput)

/-- The DUID that the client sends to or expects an answer from. -/
def ClientPoint.serverDuid : ClientPoint → Option (List U8)
  | .request _ serverDuid _ _ => some serverDuid
  | .untilT1 loop => some loop.serverDuid
  | .renew loop _ _ => some loop.serverDuid
  | .rebind loop _ _ _ => some loop.serverDuid
  | _ => none

/-- The renewal that is under way. -/
def ClientPoint.loop : ClientPoint → Option RenewalLoop
  | .untilT1 loop => some loop
  | .renew loop _ _ => some loop
  | .rebind loop _ _ _ => some loop
  | _ => none

namespace Client

variable (client : Client)

/-- The message, if it is a Reply that the client accepts. -/
def accepts (serverDuid data : List U8) (xid : Xid) : Option Message := do
  let msg ← parseReply client.codec data xid
  let data ← client.codec.encode msg
  match processReply client.codec data client.iaid serverDuid with
  | some (.ok _) => some msg
  | _ => none

/-- The Reply that an input makes the client accept. -/
def acceptedReply (point : ClientPoint) (event : WaitEvent) : Option Message :=
  match point, event with
  | .request xid serverDuid _ _, .received data => client.accepts serverDuid data xid
  | .renew loop xid _, .received data => client.accepts loop.serverDuid data xid
  | .rebind loop xid _ _, .received data => client.accepts loop.serverDuid data xid
  | _, _ => none

end Client

namespace Client

variable {client : Client} {state : ClientState} {input : ClientInput} {loop : RenewalLoop}
  {xid : Xid} {rt : Nat} {msg : Message}

section Cases

variable (client state)

theorem solicit_cases : client.solicit state input xid rt = exchangeFailed state ∨
    client.solicit state input xid rt =
      (state.emit (.sent (buildSolicit client.duid xid client.iaid) .allDhcpRelayAgents)).goto
        (.solicit xid rt state.now) := by
  cases hEncode : client.codec.encode (buildSolicit client.duid xid client.iaid) with
  | none => simp [Client.solicit, hEncode]
  | some data => cases hFails : input.sendFails <;> simp [Client.solicit, hEncode, hFails]

theorem startExchange_cases : client.startExchange state input = state.goto .stopped ∨
    client.startExchange state input =
      client.solicit (client.newXid state).2 input (client.newXid state).1 solTimeout := by
  cases hCancelled : input.cancelRequested <;> simp [startExchange, hCancelled]

/-- The Request is sent and waited for, or the exchange has failed. -/
theorem request_cases {serverDuid : List U8} {iaPd : IaPd} :
    client.request state input xid serverDuid iaPd = exchangeFailed state ∨
      client.request state input xid serverDuid iaPd =
        (state.emit (.sent (buildRequest client.duid serverDuid iaPd xid) .allDhcpRelayAgents)).goto
          (.request xid serverDuid iaPd (state.now + requestTimeout * second)) := by
  cases hEncode : client.codec.encode (buildRequest client.duid serverDuid iaPd xid) with
  | none => simp [Client.request, hEncode]
  | some data => cases hFails : input.sendFails <;> simp [Client.request, hEncode, hFails]

/-- From an Advertise to the Request, with a new transaction id. -/
theorem advertised_cases : client.advertised state input msg = exchangeFailed state ∨
    ∃ serverDuid iaPd, client.advertised state input msg =
      client.request (client.newXid state).2 input (client.newXid state).1 serverDuid iaPd := by
  cases hDuid : msg.extractServerDuid with
  | none => simp [advertised, hDuid]
  | some serverDuid =>
      cases hIaPd : msg.extractIaPd with
      | none => simp [advertised, hDuid, hIaPd]
      | some iaPd =>
          refine .inr ⟨serverDuid, iaPd, ?_⟩
          simp only [advertised, hDuid, hIaPd]

/-- A lease panics or leads to the wait for its T1. -/
theorem startLoop_cases {first lease : LeaseInfo} {serverDuid : List U8}
    {serverUnicast : Option Ipv6Addr} :
    startLoop state first lease serverDuid serverUnicast = state.goto .panicked ∨
      ∃ loop : RenewalLoop, loop.first = first ∧ loop.lease = lease ∧ loop.serverDuid = serverDuid ∧
        loop.serverUnicast = serverUnicast ∧
        deadlines state.now lease = some (loop.t1At, loop.t2At, loop.expireAt) ∧
        startLoop state first lease serverDuid serverUnicast = state.goto (.untilT1 loop) := by
  cases hDeadlines : deadlines state.now lease with
  | none => simp [startLoop, hDeadlines]
  | some times =>
      refine .inr ⟨⟨first, serverDuid, serverUnicast, lease, times.1, times.2.1, times.2.2⟩, rfl, rfl,
        rfl, rfl, rfl, ?_⟩
      simp only [startLoop, hDeadlines]

/-- The Rebind phase ends at the end of the lease, or sends and waits. -/
theorem rebindPass_cases :
    ((loop.expireAt ≤ state.now ∨
        client.codec.encode (buildRebind client.duid loop.lease.iaPdForRelease xid) = none) ∧
      client.rebindPass state input loop xid rt = client.leaseExpired state input) ∨
    (state.now < loop.expireAt ∧ client.rebindPass state input loop xid rt =
      (state.emit (.sent (buildRebind client.duid loop.lease.iaPdForRelease xid)
        .allDhcpRelayAgents)).goto (.rebind loop xid rt (state.now + rt * second))) := by
  by_cases hExpired : loop.expireAt ≤ state.now
  · exact .inl ⟨.inl hExpired, if_pos hExpired⟩
  · cases hEncode : client.codec.encode (buildRebind client.duid loop.lease.iaPdForRelease xid) with
    | none => exact .inl ⟨.inr rfl, by simp [rebindPass, hExpired, hEncode]⟩
    | some data => exact .inr ⟨Nat.lt_of_not_le hExpired, by simp [rebindPass, hExpired, hEncode]⟩

/-- The Renew phase ends at the end of the lease or at T2, or sends and waits. -/
theorem renewPass_cases :
    (loop.expireAt ≤ state.now ∧
      client.renewPass state input loop xid = client.leaseExpired state input) ∨
    (state.now < loop.expireAt ∧
      client.renewPass state input loop xid = client.startRebind state input loop) ∨
    (state.now < loop.expireAt ∧ state.now < loop.t2At ∧ client.renewPass state input loop xid =
      (state.emit (.sent
        (buildRenew client.duid loop.serverDuid loop.lease.iaPdForRelease xid)
        (.ofServer loop.serverUnicast))).goto (.renew loop xid (state.now + renRetrans * second))) := by
  by_cases hExpired : loop.expireAt ≤ state.now
  · exact .inl ⟨hExpired, if_pos hExpired⟩
  · have hBefore : state.now < loop.expireAt := Nat.lt_of_not_le hExpired
    by_cases hRebind : loop.t2At ≤ state.now
    · exact .inr (.inl ⟨hBefore, by simp [renewPass, hExpired, hRebind]⟩)
    · cases hEncode : client.codec.encode
        (buildRenew client.duid loop.serverDuid loop.lease.iaPdForRelease xid) with
      | none => exact .inr (.inl ⟨hBefore, by simp [renewPass, hExpired, hRebind, hEncode]⟩)
      | some data =>
          exact .inr (.inr ⟨hBefore, Nat.lt_of_not_le hRebind, by
            simp [renewPass, hExpired, hRebind, hEncode]⟩)

/-- The id is drawn in any case, and the client stops. -/
theorem release_cases : client.release state loop = (client.newXid state).2.goto .stopped ∨
    client.release state loop =
      ((client.newXid state).2.emit (.sent (buildRelease client.duid loop.first.serverDuid
        loop.first.iaPdForRelease (client.newXid state).1) (.ofServer loop.first.serverUnicast))).goto
          .stopped := by
  cases hEncode : client.codec.encode (buildRelease client.duid loop.first.serverDuid
      loop.first.iaPdForRelease (client.newXid state).1) with
  | none => simp [release, hEncode]
  | some data => simp [release, hEncode]

/-- The state after an accepted Reply: the Reply and its event are in the log. -/
def accept (state : ClientState) (reply : Message) (lease : LeaseInfo) (event : DhcpV6Event) :
    ClientState :=
  (state.emit (.accepted reply lease)).emit (.event event)

/-- A Reply is accepted only when it could be encoded and read again. -/
theorem granted_cases {serverDuid : List U8} :
    client.granted state input msg serverDuid = exchangeFailed state ∨
    ∃ data lease, client.codec.encode msg = some data ∧
      processReply client.codec data client.iaid serverDuid = some (.ok lease) ∧
      (client.granted state input msg serverDuid =
        (accept state msg lease (initialEvent lease)).goto .stopped ∨
      client.granted state input msg serverDuid =
        startLoop (accept state msg lease (initialEvent lease)) lease lease lease.serverDuid
          lease.serverUnicast) := by
  cases hEncode : client.codec.encode msg with
  | none => simp [granted, hEncode]
  | some data =>
      cases hProcess : processReply client.codec data client.iaid serverDuid with
      | none =>
          have hSome := processReply_isSome client.codec data client.iaid serverDuid
          simp [hProcess] at hSome
      | some result =>
          cases result with
          | error e => simp [granted, hEncode, hProcess]
          | ok lease =>
              refine .inr ⟨data, lease, rfl, hProcess, ?_⟩
              cases hClosed : input.channelClosed with
              | true => exact .inl (by simp [granted, hEncode, hProcess, hClosed, accept])
              | false => exact .inr (by simp [granted, hEncode, hProcess, hClosed, accept])

/-- The same for the Reply to a Renew or a Rebind, where the loop goes on with the old
server. -/
theorem renewed_cases {notEncoded notAccepted : ClientState} :
    client.renewed state loop msg notEncoded notAccepted = notEncoded ∨
    client.renewed state loop msg notEncoded notAccepted = notAccepted ∨
    ∃ data lease, client.codec.encode msg = some data ∧
      processReply client.codec data client.iaid loop.serverDuid = some (.ok lease) ∧
      client.renewed state loop msg notEncoded notAccepted =
        startLoop (accept state msg lease (renewalEvent lease)) loop.first lease loop.serverDuid
          loop.serverUnicast := by
  cases hEncode : client.codec.encode msg with
  | none => simp [renewed, hEncode]
  | some data =>
      cases hProcess : processReply client.codec data client.iaid loop.serverDuid with
      | none =>
          have hSome := processReply_isSome client.codec data client.iaid loop.serverDuid
          simp [hProcess] at hSome
      | some result =>
          cases result with
          | error e => simp [renewed, hEncode, hProcess]
          | ok lease =>
              refine .inr (.inr ⟨data, lease, rfl, hProcess, ?_⟩)
              simp [renewed, hEncode, hProcess, accept]

end Cases

/-- Between two waits the clock stands still, and the log grows by entries of that time. -/
def Extends (state next : ClientState) : Prop :=
  next.now = state.now ∧ ∃ more : ClientLog, next.log = state.log ++ more ∧
    ∀ entry ∈ more, entry.1 = state.now

section Extends

variable {middle next : ClientState}

theorem Extends.refl (state : ClientState) (point : ClientPoint) :
    Extends state (state.goto point) :=
  ⟨rfl, [], (List.append_nil _).symm, fun entry hEntry => by cases hEntry⟩

theorem Extends.emit (state : ClientState) (output : ClientOutput) (point : ClientPoint) :
    Extends state ((state.emit output).goto point) :=
  ⟨rfl, [(state.now, output)], rfl, fun entry hEntry => by rw [List.mem_singleton.mp hEntry]⟩

/-- Prefixes of logs compose. -/
theorem Extends.trans (left : Extends state middle) (right : Extends middle next) :
    Extends state next := by
  obtain ⟨hNow, before, hBefore, hBeforeTimes⟩ := left
  obtain ⟨hNow', after, hAfter, hAfterTimes⟩ := right
  refine ⟨hNow'.trans hNow, before ++ after, ?_, ?_⟩
  · rw [hAfter, hBefore, List.append_assoc]
  · intro entry hEntry
    rcases List.mem_append.mp hEntry with hEntry | hEntry
    · exact hBeforeTimes entry hEntry
    · exact (hAfterTimes entry hEntry).trans hNow

theorem solicit_extends : Extends state (client.solicit state input xid rt) := by
  rcases solicit_cases client state with hFailed | hSent
  · rw [hFailed]
    exact Extends.refl _ _
  · rw [hSent]
    exact Extends.emit _ _ _

theorem startExchange_extends : Extends state (client.startExchange state input) := by
  rcases startExchange_cases client state with hStopped | hSolicit
  · rw [hStopped]
    exact Extends.refl _ _
  · rw [hSolicit]
    exact solicit_extends

theorem leaseExpired_extends : Extends state (client.leaseExpired state input) :=
  (Extends.emit state .expired state.point).trans startExchange_extends

theorem rebindPass_extends : Extends state (client.rebindPass state input loop xid rt) := by
  rcases rebindPass_cases client state with ⟨-, hEnd⟩ | ⟨-, hSent⟩
  · rw [hEnd]
    exact leaseExpired_extends
  · rw [hSent]
    exact Extends.emit _ _ _

theorem startRebind_extends : Extends state (client.startRebind state input loop) :=
  rebindPass_extends

variable (client state input loop) in
/-- A pass sends a message and waits, or goes back. -/
theorem renewPass_extends (xid : Xid) :
    Extends state (client.renewPass state input loop xid) := by
  rcases renewPass_cases client state with
    ⟨-, hEnd⟩ | ⟨-, hRebind⟩ | ⟨-, -, hSent⟩
  · rw [hEnd]
    exact leaseExpired_extends
  · rw [hRebind]
    exact startRebind_extends
  · rw [hSent]
    exact Extends.emit _ _ _

variable (client state input loop) in
theorem startRenew_extends : Extends state (client.startRenew state input loop) :=
  renewPass_extends client (client.newXid state).2 input loop _

variable (state) in
/-- Before both deadlines a Renew is sent that can be written. -/
theorem renewPass_eq (hBefore : state.now < loop.expireAt) (hBeforeT2 : state.now < loop.t2At)
    (hEncode : (client.codec.encode
      (buildRenew client.duid loop.serverDuid loop.lease.iaPdForRelease xid)).isSome) :
    client.renewPass state input loop xid =
      (state.emit (.sent
        (buildRenew client.duid loop.serverDuid loop.lease.iaPdForRelease xid)
        (.ofServer loop.serverUnicast))).goto
          (.renew loop xid (state.now + renRetrans * second)) := by
  obtain ⟨data, hData⟩ := Option.isSome_iff_exists.mp hEncode
  simp [renewPass, Nat.not_le_of_lt hBefore, Nat.not_le_of_lt hBeforeT2, hData]

end Extends

theorem accepts_eq {serverDuid data data' : List U8} {lease : LeaseInfo}
    (hParse : parseReply client.codec data xid = some msg)
    (hEncode : client.codec.encode msg = some data')
    (hProcess : processReply client.codec data' client.iaid serverDuid = some (.ok lease)) :
    client.accepts serverDuid data xid = some msg := by
  simp [accepts, hParse, hEncode, hProcess]

/-- A Reply that is not accepted ends the initial exchange. -/
theorem granted_of_not_accepted {serverDuid data : List U8}
    (hParse : parseReply client.codec data xid = some msg)
    (hNone : client.accepts serverDuid data xid = none) :
    client.granted state input msg serverDuid = exchangeFailed state := by
  rcases granted_cases client state with hFailed | ⟨data', lease, hEncode, hProcess, -⟩
  · exact hFailed
  · rw [accepts_eq hParse hEncode hProcess] at hNone
    cases hNone

/-- Within a renewal it leaves one of the two ways out. -/
theorem renewed_of_not_accepted {data : List U8} {notEncoded notAccepted : ClientState}
    (hParse : parseReply client.codec data xid = some msg)
    (hNone : client.accepts loop.serverDuid data xid = none) :
    client.renewed state loop msg notEncoded notAccepted = notEncoded ∨
      client.renewed state loop msg notEncoded notAccepted = notAccepted := by
  rcases renewed_cases client state with
    hEnd | hEnd | ⟨data', lease, hEncode, hProcess, -⟩
  · exact .inl hEnd
  · exact .inr hEnd
  · rw [accepts_eq hParse hEncode hProcess] at hNone
    cases hNone

/-- The clock of the state moves to the time of the input. -/
def atTime (state : ClientState) (time : Instant) : ClientState := { state with now := time }

/-- The next state, by the point at which the client waited. -/
def Resumed (client : Client) (state : ClientState) (input : ClientInput) (next : ClientState) : Prop :=
  match state.point with
  | .solicit xid _ _ =>
      (∃ msg, next = client.advertised (atTime state input.time) input msg) ∨
      (∃ rt, next = client.solicit (atTime state input.time) input xid rt) ∨
      next = exchangeFailed (atTime state input.time) ∨
      next = (atTime state input.time).goto .stopped
  | .request xid serverDuid iaPd _ =>
      (∃ data msg, input.event = .received data ∧ parseReply client.codec data xid = some msg ∧
        next = client.granted (atTime state input.time) input msg serverDuid) ∨
      next = client.request (atTime state input.time) input xid serverDuid iaPd ∨
      next = exchangeFailed (atTime state input.time) ∨
      next = (atTime state input.time).goto .stopped
  | .retry _ =>
      next = client.startExchange (atTime state input.time) input ∨
      next = (atTime state input.time).goto .stopped
  | .untilT1 loop =>
      (input.event = .deadline ∧ next = client.startRenew (atTime state input.time) input loop) ∨
      (input.event = .cancelled ∧ next = client.release (atTime state input.time) loop)
  | .renew loop xid _ =>
      (∃ data msg, input.event = .received data ∧ parseReply client.codec data xid = some msg ∧
        next = client.renewed (atTime state input.time) loop msg
          (client.startRebind (atTime state input.time) input loop)
          (client.renewPass (atTime state input.time) input loop xid)) ∨
      next = client.renewPass (atTime state input.time) input loop xid ∨
      (input.event = .deadline ∧ next = client.startRebind (atTime state input.time) input loop) ∨
      (input.event = .cancelled ∧ next = client.release (atTime state input.time) loop)
  | .rebind loop xid rt _ =>
      (∃ data msg, input.event = .received data ∧ parseReply client.codec data xid = some msg ∧
        next = client.renewed (atTime state input.time) loop msg
          (client.leaseExpired (atTime state input.time) input)
          (client.rebindPass (atTime state input.time) input loop xid rt)) ∨
      (∃ rt, next = client.rebindPass (atTime state input.time) input loop xid rt) ∨
      (input.event = .deadline ∧ next = client.leaseExpired (atTime state input.time) input) ∨
      (input.event = .cancelled ∧ next = client.release (atTime state input.time) loop)
  | .stopped => False
  | .panicked => False

/-- What the client can do until its next wait. -/
theorem resume_cases {next : ClientState} (h : client.resume state input = some next) :
    client.Resumed state input next := by
  obtain ⟨now, point, drawn, log⟩ := state
  cases point with
  | solicit xid rt since =>
      cases hEvent : input.event with
      | received data =>
          simp only [resume, hEvent] at h
          cases hParse : parseAdvertise client.codec data xid with
          | none =>
              simp only [hParse, Option.some.injEq] at h
              exact .inr (.inl ⟨rt, h.symm⟩)
          | some msg =>
              simp only [hParse, Option.some.injEq] at h
              exact .inl ⟨msg, h.symm⟩
      | recvFailed =>
          simp only [resume, hEvent, Option.some.injEq] at h
          exact .inr (.inr (.inl h.symm))
      | timeout =>
          simp only [resume, hEvent, Option.some.injEq] at h
          exact .inr (.inl ⟨_, h.symm⟩)
      | deadline => simp [resume, hEvent] at h
      | cancelled =>
          simp only [resume, hEvent, Option.some.injEq] at h
          exact .inr (.inr (.inr h.symm))
  | request xid serverDuid iaPd wakeAt =>
      cases hEvent : input.event with
      | received data =>
          simp only [resume, hEvent] at h
          cases hParse : parseReply client.codec data xid with
          | none =>
              simp only [hParse, Option.some.injEq] at h
              exact .inr (.inl h.symm)
          | some msg =>
              simp only [hParse, Option.some.injEq] at h
              exact .inl ⟨data, msg, hEvent, hParse, h.symm⟩
      | recvFailed =>
          simp only [resume, hEvent, Option.some.injEq] at h
          exact .inr (.inr (.inl h.symm))
      | timeout =>
          simp only [resume, hEvent, Option.some.injEq] at h
          exact .inr (.inl h.symm)
      | deadline => simp [resume, hEvent] at h
      | cancelled =>
          simp only [resume, hEvent, Option.some.injEq] at h
          exact .inr (.inr (.inr h.symm))
  | retry wakeAt =>
      cases hEvent : input.event with
      | deadline =>
          simp only [resume, hEvent, Option.some.injEq] at h
          exact .inl h.symm
      | cancelled =>
          simp only [resume, hEvent, Option.some.injEq] at h
          exact .inr h.symm
      | received | recvFailed | timeout => simp [resume, hEvent] at h
  | untilT1 loop =>
      cases hEvent : input.event with
      | deadline =>
          simp only [resume, hEvent, Option.some.injEq] at h
          exact .inl ⟨hEvent, h.symm⟩
      | cancelled =>
          simp only [resume, hEvent, Option.some.injEq] at h
          exact .inr ⟨hEvent, h.symm⟩
      | received | recvFailed | timeout => simp [resume, hEvent] at h
  | renew loop xid wakeAt =>
      cases hEvent : input.event with
      | received data =>
          simp only [resume, hEvent] at h
          cases hParse : parseReply client.codec data xid with
          | none =>
              simp only [hParse, Option.some.injEq] at h
              exact .inr (.inl h.symm)
          | some msg =>
              simp only [hParse, Option.some.injEq] at h
              exact .inl ⟨data, msg, hEvent, hParse, h.symm⟩
      | recvFailed | timeout =>
          simp only [resume, hEvent, Option.some.injEq] at h
          exact .inr (.inl h.symm)
      | deadline =>
          simp only [resume, hEvent, Option.some.injEq] at h
          exact .inr (.inr (.inl ⟨hEvent, h.symm⟩))
      | cancelled =>
          simp only [resume, hEvent, Option.some.injEq] at h
          exact .inr (.inr (.inr ⟨hEvent, h.symm⟩))
  | rebind loop xid rt wakeAt =>
      cases hEvent : input.event with
      | received data =>
          simp only [resume, hEvent] at h
          cases hParse : parseReply client.codec data xid with
          | none =>
              simp only [hParse, Option.some.injEq] at h
              exact .inr (.inl ⟨rt, h.symm⟩)
          | some msg =>
              simp only [hParse, Option.some.injEq] at h
              exact .inl ⟨data, msg, hEvent, hParse, h.symm⟩
      | recvFailed | timeout =>
          simp only [resume, hEvent, Option.some.injEq] at h
          exact .inr (.inl ⟨_, h.symm⟩)
      | deadline =>
          simp only [resume, hEvent, Option.some.injEq] at h
          exact .inr (.inr (.inl ⟨hEvent, h.symm⟩))
      | cancelled =>
          simp only [resume, hEvent, Option.some.injEq] at h
          exact .inr (.inr (.inr ⟨hEvent, h.symm⟩))
  | stopped => cases hEvent : input.event <;> simp [resume] at h
  | panicked => cases hEvent : input.event <;> simp [resume] at h

end Client

end Mapecd
