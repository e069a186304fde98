import Mapecd.Dhcpv6.ClientSegments
import Mapecd.Dhcpv6.Wire
import Mapecd.Semantics.Runs

/-! The server that Renew and Release are sent to. -/
namespace Mapecd

open Checked Runs

namespace ClientLog

/-- The Reply that was accepted last. -/
def lastAccepted (log : ClientLog) : Option Message :=
  (log.filterMap fun
    | (_, .accepted reply _) => some reply
    | _ => none).getLast?

/-- A message names the server of the Reply and goes to its address. -/
def Addressed (log : ClientLog) (msg : Message) (dst : Destination) : Prop :=
  ∀ reply ∈ log.lastAccepted,
    msg.extractServerDuid = reply.extractServerDuid ∧ dst = .ofServer reply.serverUnicast

/-- Renew and Release are for one server. -/
def ForServer (msg : Message) : Prop := msg.msgType = .renew ∨ msg.msgType = .release

instance (msg : Message) : Decidable (ForServer msg) := inferInstanceAs (Decidable (_ ∨ _))

/-- Every such message follows the Reply accepted before it. -/
def FollowsServer (log : ClientLog) : Prop :=
  ∀ before time msg dst after, log = before ++ (time, .sent msg dst) :: after → ForServer msg →
    Addressed before msg dst

theorem lastAccepted_append (log : ClientLog) (time : Instant) (output : ClientOutput) :
    lastAccepted (log ++ [(time, output)]) =
      match output with
      | .accepted reply _ => some reply
      | _ => lastAccepted log := by
  cases output <;> simp [lastAccepted]

theorem followsServer_nil : FollowsServer [] := by
  intro before time msg dst after hLog
  simp at hLog

/-- A message more, addressed by the Reply before it. -/
theorem FollowsServer.append {log : ClientLog} {time : Instant} {output : ClientOutput}
    (h : FollowsServer log)
    (hOutput : ∀ msg dst, output = .sent msg dst → ForServer msg → Addressed log msg dst) :
    FollowsServer (log ++ [(time, output)]) := by
  intro before time' msg dst after hLog hServer
  cases List.eq_nil_or_concat after with
  | inl hNil =>
      subst hNil
      obtain ⟨hBefore, hLast⟩ := List.append_inj' hLog rfl
      subst hBefore
      cases hLast
      exact hOutput msg dst rfl hServer
  | inr hConcat =>
      obtain ⟨rest, last, rfl⟩ := hConcat
      have hInit : log = before ++ (time', .sent msg dst) :: rest := by
        rw [List.concat_eq_append, ← List.cons_append, ← List.append_assoc] at hLog
        exact (List.append_inj' hLog rfl).1
      exact h before time' msg dst rest hInit hServer

theorem FollowsServer.last {log : ClientLog} {time : Instant} {msg : Message} {dst : Destination}
    (h : FollowsServer log) (hLast : log.getLast? = some (time, .sent msg dst))
    (hServer : ForServer msg) : Addressed log msg dst := by
  obtain ⟨before, rfl⟩ := List.getLast?_eq_some_iff.mp hLast
  have hBefore := h before time msg dst [] rfl hServer
  intro reply hReply
  exact hBefore reply ((lastAccepted_append before time (.sent msg dst)).symm.trans hReply)

end ClientLog

section Acceptance

namespace Client

variable (client : Client)

/-- A message after it was written and read again, as `process_reply` sees the Reply. -/
def reread (msg : Message) : Option Message := (client.codec.encode msg).bind client.codec.decode

/-- Every accepted Reply comes from the server that the client already knows. A renewal
announces the unicast address that is already known, and the first Reply still
announces its own when it is read again. -/
def SameServer (state : ClientState) (input : ClientInput) : Prop :=
  ∀ reply ∈ client.acceptedReply state.point input.event,
    reply.extractServerDuid = state.point.serverDuid ∧
      (∀ loop ∈ state.point.loop, reply.serverUnicast = loop.serverUnicast) ∧
      (state.point.loop = none →
        ∀ again ∈ client.reread reply, again.serverUnicast = reply.serverUnicast)

instance (state : ClientState) (input : ClientInput) : Decidable (client.SameServer state input) :=
  inferInstanceAs (Decidable (∀ _ ∈ _, _ ∧ _ ∧ (_ → ∀ _ ∈ _, _)))

end Client

variable {client : Client} {data serverDuid : List U8} {xid : Xid} {msg : Message}
  {lease : LeaseInfo}

/-- The DUID of a lease is the argument, its unicast address is read from the Reply. -/
theorem processReply_ok {codec : Codec} {iaid : U32}
    (h : processReply codec data iaid serverDuid = some (.ok lease)) :
    lease.serverDuid = serverDuid ∧
      ∃ msg, codec.decode data = some msg ∧ lease.serverUnicast = msg.serverUnicast := by
  unfold processReply at h
  cases hDecode : codec.decode data with
  | none => simp [hDecode] at h
  | some msg =>
      simp only [hDecode] at h
      split_ifs at h
      · cases h
      · cases hInfo : parseIaPdInfo codec data (some iaid) with
        | none =>
            rw [hInfo] at h
            cases h
        | some info =>
            simp only [hInfo, Option.bind_eq_bind, Option.bind_eq_some_iff] at h
            obtain ⟨rules, -, hLease⟩ := h
            cases hLease
            exact ⟨rfl, msg, rfl, rfl⟩

/-- An accepted Reply keeps the DUID, and the unicast address that is stored is the one it
announces when it is read again. -/
theorem accepts_of_processReply {data' : List U8} (hParse : parseReply client.codec data xid = some msg)
    (hEncode : client.codec.encode msg = some data')
    (hProcess : processReply client.codec data' client.iaid serverDuid = some (.ok lease)) :
    client.accepts serverDuid data xid = some msg ∧ lease.serverDuid = serverDuid ∧
      ∃ again ∈ client.reread msg, lease.serverUnicast = again.serverUnicast := by
  obtain ⟨hDuid, again, hDecode, hUnicast⟩ := processReply_ok hProcess
  have hReread : client.reread msg = some again := by
    rw [Client.reread, hEncode, Option.bind_some, hDecode]
  exact ⟨Client.accepts_eq hParse hEncode hProcess, hDuid, again, hReread, hUnicast⟩

end Acceptance

section Segments

variable {client : Client} {state : ClientState} {input : ClientInput} {loop : RenewalLoop}
  {xid : Xid} {rt : Nat}

open ClientLog

/-- The lease in force comes from a known server, as the first one of `run_client` does. -/
def Known (log : ClientLog) (loop : RenewalLoop) : Prop :=
  ∃ reply, log.lastAccepted = some reply ∧
    reply.extractServerDuid = some loop.serverDuid ∧ reply.serverUnicast = loop.serverUnicast ∧
    loop.first.serverDuid = loop.serverDuid ∧ loop.first.serverUnicast = loop.serverUnicast

/-- The invariant: log and loop agree on the server. -/
structure ServerKnown (state : ClientState) : Prop where
  follows : FollowsServer state.log
  known : ∀ loop, state.point.loop = some loop → Known state.log loop

theorem ServerKnown.outside {point : ClientPoint} (h : FollowsServer state.log)
    (hPoint : point.loop = none) : ServerKnown (state.goto point) where
  follows := h
  known loop hLoop := by
    change point.loop = some loop at hLoop
    rw [hPoint] at hLoop
    cases hLoop

/-- A message for any server changes nothing. -/
theorem FollowsServer.sent {msg : Message} (dst : Destination) (h : FollowsServer state.log)
    (hMsg : ¬ ForServer msg) : FollowsServer (state.emit (.sent msg dst)).log :=
  h.append fun msg' dst' hSent hServer => by
    cases hSent
    exact absurd hServer hMsg

theorem Known.sent {msg : Message} (dst : Destination) (h : Known state.log loop) :
    Known (state.emit (.sent msg dst)).log loop := by
  obtain ⟨reply, hLast, hReply⟩ := h
  exact ⟨reply, (lastAccepted_append _ _ _).trans hLast, hReply⟩

theorem Known.addressed {log : ClientLog} {msg : Message} {dst : Destination} (h : Known log loop)
    (hDuid : msg.extractServerDuid = some loop.serverDuid)
    (hDst : dst = .ofServer loop.serverUnicast) : Addressed log msg dst := by
  obtain ⟨reply, hLast, hReplyDuid, hReplyUnicast, -⟩ := h
  intro reply' hReply
  cases Option.some.inj (hLast.symm.trans hReply)
  exact ⟨hDuid.trans hReplyDuid.symm, by rw [hDst, hReplyUnicast]⟩

theorem Known.same_first {log : ClientLog} (h : Known log loop) :
    loop.first.serverDuid = loop.serverDuid ∧ loop.first.serverUnicast = loop.serverUnicast := by
  obtain ⟨-, -, -, -, hFirst⟩ := h
  exact hFirst

theorem exchangeFailed_known (h : FollowsServer state.log) :
    ServerKnown (Client.exchangeFailed state) := ServerKnown.outside h rfl

theorem solicit_known (h : FollowsServer state.log) :
    ServerKnown (client.solicit state input xid rt) := by
  rcases Client.solicit_cases client state with hFailed | hSent
  · rw [hFailed]
    exact exchangeFailed_known h
  · rw [hSent]
    exact ServerKnown.outside (FollowsServer.sent _ h (by simp [ForServer, buildSolicit])) rfl

theorem startExchange_known (h : FollowsServer state.log) :
    ServerKnown (client.startExchange state input) := by
  rcases Client.startExchange_cases client state with hStopped | hSolicit
  · rw [hStopped]
    exact ServerKnown.outside h rfl
  · rw [hSolicit]
    exact solicit_known h

theorem request_known {serverDuid : List U8} {iaPd : IaPd} (h : FollowsServer state.log) :
    ServerKnown (client.request state input xid serverDuid iaPd) := by
  rcases Client.request_cases client state with hFailed | hSent
  · rw [hFailed]
    exact exchangeFailed_known h
  · rw [hSent]
    exact ServerKnown.outside (FollowsServer.sent _ h (by simp [ForServer, buildRequest])) rfl

/-- Before the first Reply nothing has to be known. -/
theorem advertised_known {msg : Message} (h : FollowsServer state.log) :
    ServerKnown (client.advertised state input msg) := by
  rcases Client.advertised_cases client state with
    hFailed | ⟨serverDuid, iaPd, hRequest⟩
  · rw [hFailed]
    exact exchangeFailed_known h
  · rw [hRequest]
    exact request_known h

theorem leaseExpired_known (h : FollowsServer state.log) :
    ServerKnown (client.leaseExpired state input) := by
  apply startExchange_known
  exact h.append fun msg dst hSent => by cases hSent

/-- A loop starts with values that the log knows. -/
theorem startLoop_known {first lease : LeaseInfo} {serverDuid : List U8}
    {serverUnicast : Option Ipv6Addr} (h : FollowsServer state.log)
    (hKnown : ∀ loop : RenewalLoop, loop.first = first → loop.serverDuid = serverDuid →
      loop.serverUnicast = serverUnicast → Known state.log loop) :
    ServerKnown (Client.startLoop state first lease serverDuid serverUnicast) := by
  rcases Client.startLoop_cases state with
    hPanic | ⟨loop, hFirst, -, hDuid, hUnicast, -, hStart⟩
  · rw [hPanic]
    exact ServerKnown.outside h rfl
  · rw [hStart]
    refine ⟨h, ?_⟩
    intro loop' hLoop
    cases hLoop
    exact hKnown loop hFirst hDuid hUnicast

/-- A Rebind goes to all servers. -/
theorem rebindPass_known (h : FollowsServer state.log) (hKnown : Known state.log loop) :
    ServerKnown (client.rebindPass state input loop xid rt) := by
  rcases Client.rebindPass_cases client state with ⟨-, hEnd⟩ | ⟨-, hSent⟩
  · rw [hEnd]
    exact leaseExpired_known h
  · rw [hSent]
    refine ⟨FollowsServer.sent _ h (by simp [ForServer, buildRebind]), ?_⟩
    intro loop' hLoop
    cases hLoop
    exact Known.sent _ hKnown

theorem startRebind_known (h : FollowsServer state.log) (hKnown : Known state.log loop) :
    ServerKnown (client.startRebind state input loop) :=
  rebindPass_known h hKnown

/-- A Renew names the known server and goes to its address. -/
theorem renewPass_known (h : FollowsServer state.log) (hKnown : Known state.log loop) :
    ServerKnown (client.renewPass state input loop xid) := by
  rcases Client.renewPass_cases client state with
    ⟨-, hEnd⟩ | ⟨-, hRebind⟩ | ⟨-, -, hSent⟩
  · rw [hEnd]
    exact leaseExpired_known h
  · rw [hRebind]
    exact startRebind_known h hKnown
  · rw [hSent]
    refine ⟨h.append ?_, ?_⟩
    · intro msg dst hMsg _
      cases hMsg
      exact hKnown.addressed rfl rfl
    · intro loop' hLoop
      cases hLoop
      exact Known.sent _ hKnown

theorem startRenew_known (h : FollowsServer state.log) (hKnown : Known state.log loop) :
    ServerKnown (client.startRenew state input loop) :=
  renewPass_known h hKnown

/-- The Release goes to the server of the first lease, which is that of the last Reply
too. -/
theorem release_known (h : FollowsServer state.log) (hKnown : Known state.log loop) :
    ServerKnown (client.release state loop) := by
  obtain ⟨hDuid, hUnicast⟩ := hKnown.same_first
  rcases Client.release_cases client state with hStopped | hSent
  · rw [hStopped]
    exact ServerKnown.outside h rfl
  · rw [hSent]
    refine ServerKnown.outside (FollowsServer.append h ?_) rfl
    intro msg dst hMsg _
    cases hMsg
    apply hKnown.addressed
    · rw [← hDuid]
      rfl
    · rw [hUnicast]

theorem accept_follows {reply : Message} {lease : LeaseInfo} {event : DhcpV6Event}
    (h : FollowsServer state.log) : FollowsServer (Client.accept state reply lease event).log := by
  apply FollowsServer.append
  · exact h.append fun msg dst hSent => by cases hSent
  · exact fun msg dst hSent => by cases hSent

/-- After an accepted Reply its server is the known one. -/
theorem accept_known {reply : Message} {lease : LeaseInfo} {event : DhcpV6Event}
    (hDuid : reply.extractServerDuid = some loop.serverDuid)
    (hUnicast : reply.serverUnicast = loop.serverUnicast)
    (hFirst : loop.first.serverDuid = loop.serverDuid ∧ loop.first.serverUnicast = loop.serverUnicast) :
    Known (Client.accept state reply lease event).log loop :=
  ⟨reply, (lastAccepted_append _ _ _).trans (lastAccepted_append _ _ _), hDuid, hUnicast, hFirst⟩

/-- The first Reply has to name the server of the Advertise, and its address must
survive the encoding. -/
theorem granted_known {serverDuid data : List U8} {msg : Message} (h : FollowsServer state.log)
    (hParse : parseReply client.codec data xid = some msg)
    (hSame : ∀ reply ∈ client.accepts serverDuid data xid,
      reply.extractServerDuid = some serverDuid ∧
        ∀ again ∈ client.reread reply, again.serverUnicast = reply.serverUnicast) :
    ServerKnown (client.granted state input msg serverDuid) := by
  rcases Client.granted_cases client state with
    hFailed | ⟨data', lease, hEncode, hProcess, hEnd⟩
  · rw [hFailed]
    exact exchangeFailed_known h
  · obtain ⟨hAccepts, hDuid, again, hAgain, hStored⟩ :=
      accepts_of_processReply hParse hEncode hProcess
    obtain ⟨hReplyDuid, hReplyUnicast⟩ := hSame msg hAccepts
    have hUnicast : lease.serverUnicast = msg.serverUnicast :=
      hStored.trans (hReplyUnicast again hAgain)
    rcases hEnd with hStopped | hStart
    · rw [hStopped]
      exact ServerKnown.outside (accept_follows h) rfl
    · rw [hStart]
      apply startLoop_known (accept_follows h)
      intro loop hFirst hLoopDuid hLoopUnicast
      apply accept_known
      · rw [hReplyDuid, hLoopDuid, hDuid]
      · rw [hLoopUnicast, hUnicast]
      · rw [hFirst]
        exact ⟨hLoopDuid.symm, hLoopUnicast.symm⟩

/-- Later ones have to name the server of the loop. -/
theorem renewed_known {data : List U8} {msg : Message} {notEncoded notAccepted : ClientState}
    (h : FollowsServer state.log) (hKnown : Known state.log loop)
    (hParse : parseReply client.codec data xid = some msg)
    (hSame : ∀ reply ∈ client.accepts loop.serverDuid data xid,
      reply.extractServerDuid = some loop.serverDuid ∧ reply.serverUnicast = loop.serverUnicast)
    (hNotEncoded : ServerKnown notEncoded) (hNotAccepted : ServerKnown notAccepted) :
    ServerKnown (client.renewed state loop msg notEncoded notAccepted) := by
  rcases Client.renewed_cases client state with
    hEnd | hEnd | ⟨data', lease, hEncode, hProcess, hStart⟩
  · rw [hEnd]
    exact hNotEncoded
  · rw [hEnd]
    exact hNotAccepted
  · obtain ⟨hAccepts, -⟩ := accepts_of_processReply hParse hEncode hProcess
    obtain ⟨hDuid, hUnicast⟩ := hSame msg hAccepts
    rw [hStart]
    apply startLoop_known (accept_follows h)
    intro loop' hFirst hLoopDuid hLoopUnicast
    apply accept_known
    · rw [hDuid, hLoopDuid]
    · rw [hUnicast, hLoopUnicast]
    · rw [hFirst, hLoopDuid, hLoopUnicast]
      exact hKnown.same_first

/-- What the client does until its next wait keeps the server known. -/
theorem resume_known {next : ClientState} (h : ServerKnown state) (hSame : client.SameServer state input)
    (hResume : client.resume state input = some next) : ServerKnown next := by
  obtain ⟨hFollows, hKnown⟩ := h
  have hNext := Client.resume_cases hResume
  obtain ⟨now, point, drawn, log⟩ := state
  cases point with
  | solicit xid rt since =>
      rcases hNext with ⟨msg, rfl⟩ | ⟨rt, rfl⟩ | rfl | rfl
      · exact advertised_known hFollows
      · exact solicit_known hFollows
      · exact exchangeFailed_known hFollows
      · exact ServerKnown.outside hFollows rfl
  | request xid serverDuid iaPd wakeAt =>
      rcases hNext with ⟨data, msg, hEvent, hParse, rfl⟩ | rfl | rfl | rfl
      · simp only [Client.SameServer, Client.acceptedReply, hEvent] at hSame
        exact granted_known hFollows hParse fun reply hReply =>
          ⟨(hSame reply hReply).1, (hSame reply hReply).2.2 rfl⟩
      · exact request_known hFollows
      · exact exchangeFailed_known hFollows
      · exact ServerKnown.outside hFollows rfl
  | retry wakeAt =>
      rcases hNext with rfl | rfl
      · exact startExchange_known hFollows
      · exact ServerKnown.outside hFollows rfl
  | untilT1 loop =>
      rcases hNext with ⟨-, rfl⟩ | ⟨-, rfl⟩
      · exact startRenew_known hFollows (hKnown loop rfl)
      · exact release_known hFollows (hKnown loop rfl)
  | renew loop xid wakeAt =>
      rcases hNext with ⟨data, msg, hEvent, hParse, rfl⟩ | rfl | ⟨-, rfl⟩ | ⟨-, rfl⟩
      · simp only [Client.SameServer, Client.acceptedReply, hEvent] at hSame
        refine renewed_known hFollows (hKnown loop rfl) hParse ?_ ?_ ?_
        · exact fun reply hReply =>
            ⟨(hSame reply hReply).1, (hSame reply hReply).2.1 loop rfl⟩
        · exact startRebind_known hFollows (hKnown loop rfl)
        · exact renewPass_known hFollows (hKnown loop rfl)
      · exact renewPass_known hFollows (hKnown loop rfl)
      · exact startRebind_known hFollows (hKnown loop rfl)
      · exact release_known hFollows (hKnown loop rfl)
  | rebind loop xid rt wakeAt =>
      rcases hNext with ⟨data, msg, hEvent, hParse, rfl⟩ | ⟨rt, rfl⟩ | ⟨-, rfl⟩ | ⟨-, rfl⟩
      · simp only [Client.SameServer, Client.acceptedReply, hEvent] at hSame
        refine renewed_known hFollows (hKnown loop rfl) hParse ?_ ?_ ?_
        · exact fun reply hReply => ⟨(hSame reply hReply).1, (hSame reply hReply).2.1 loop rfl⟩
        · exact leaseExpired_known hFollows
        · exact rebindPass_known hFollows (hKnown loop rfl)
      · exact rebindPass_known hFollows (hKnown loop rfl)
      · exact leaseExpired_known hFollows
      · exact release_known hFollows (hKnown loop rfl)
  | stopped => exact hNext.elim
  | panicked => exact hNext.elim

end Segments

/-- In every run in which all Replies come from the server of the Advertise and
announce the same unicast address, also when the first one is read again, each Renew
and each Release follows the last accepted Reply. -/
theorem run_follows_server {client : Client} {now : Instant} {first : ClientInput}
    {inputs : List ClientInput} {finish : ClientState}
    (run : Run client.resume client.SameServer (client.start now first) inputs finish) :
    ClientLog.FollowsServer finish.log := by
  have hStart : ServerKnown (client.start now first) :=
    startExchange_known ClientLog.followsServer_nil
  exact (run.invariant (fun _ _ _ h => resume_known h) hStart).follows

section Examples

/-- A client with the DUID `1`, on interface 2. -/
def testClient : Client :=
  { codec := wireCodec, duid := [0, 3, 0, 1], iaid := 2, xids := fun _ => 0x123456 }

/-- `2001:db8:1::/56` for 100 seconds. -/
def testIaPd : IaPd :=
  { id := 2, t1 := 10, t2 := 20
    opts := [.iaPrefix
      { preferredLifetime := 100, validLifetime := 100, prefixLen := 56
        prefixIp := 0x20010db8000100000000000000000000 }] }

/-- A message of a server that announces no unicast address. -/
def serverMessage (msgType : MessageType) (serverDuid : List U8) : Message :=
  { msgType := msgType, xid := 0x123456, opts := [.serverId serverDuid, .iaPd testIaPd] }

def inputAt (secs : Nat) (event : WaitEvent) : ClientInput :=
  { time := secs * second, event := event, sendFails := false, channelClosed := false
    cancelRequested := false }

def receivedAt (secs : Nat) (msg : Message) : ClientInput :=
  inputAt secs (.received (Wire.writeMessage msg))

/-- A lease of the first server, renewed at T1 by the same server, and the next T1. -/
def renewedByServer : List ClientInput :=
  [receivedAt 1 (serverMessage .advertise [1]), receivedAt 1 (serverMessage .reply [1]),
    inputAt 11 .deadline, receivedAt 12 (serverMessage .reply [1]), inputAt 22 .deadline]

/-- A lease that its server renews. -/
theorem run_follows_server_renewed :
    ∃ finish, Run testClient.resume testClient.SameServer
        (testClient.start second (inputAt 1 .timeout)) renewedByServer finish ∧
      finish.log.length = 8 ∧ ClientLog.FollowsServer finish.log := by
  have hEval : (runAll (guarded testClient.resume testClient.SameServer) renewedByServer
      (testClient.start second (inputAt 1 .timeout))).map (fun state => state.log.length) =
        some 8 := by
    decide +kernel
  obtain ⟨finish, hFinish, hLength⟩ := Option.map_eq_some_iff.mp hEval
  have run := Run.of_runAll hFinish
  exact ⟨finish, run, hLength, run_follows_server run⟩

/-- Nobody answers the Renew, the second server answers the Rebind. -/
def reboundByOther : List ClientInput :=
  [receivedAt 1 (serverMessage .advertise [1]), receivedAt 1 (serverMessage .reply [1]),
    inputAt 11 .deadline, inputAt 21 .deadline, receivedAt 22 (serverMessage .reply [2]),
    inputAt 32 .deadline]

/-- The next Renew still names the first server. -/
theorem run_follows_old_server :
    ∃ finish, Run testClient.resume Timely (testClient.start second (inputAt 1 .timeout))
        reboundByOther finish ∧ ¬ ClientLog.FollowsServer finish.log := by
  have hEval : (runAll (guarded testClient.resume Timely) reboundByOther
      (testClient.start second (inputAt 1 .timeout))).map (fun state =>
        (ClientLog.lastAccepted state.log, state.log.getLast?)) =
      some (some (serverMessage .reply [2]), some (32 * second,
        .sent (buildRenew testClient.duid [1] { testIaPd with opts := [] } 0x123456)
          .allDhcpRelayAgents)) := by
    decide +kernel
  obtain ⟨finish, hFinish, hLog⟩ := Option.map_eq_some_iff.mp hEval
  refine ⟨finish, Run.of_runAll hFinish, ?_⟩
  intro hFollows
  have hAddressed := hFollows.last (congrArg Prod.snd hLog) (.inl rfl)
  obtain ⟨hDuid, -⟩ := hAddressed _ (congrArg Prod.fst hLog)
  exact absurd hDuid (by decide)

end Examples

end Mapecd
