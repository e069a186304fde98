import Mapecd.Dhcpv6.Retransmission
import Mapecd.Semantics.Observation

/-! The conversation of the client with its servers, as a protocol of its own:
which message may follow which, under which transaction id, and when the daemon
is told of a lease. The client keeps to it in every run. -/
namespace Mapecd

open Checked Runs

/-- Where a conversation stands. Transaction ids are known by their number. -/
inductive Stage where
  /-- no lease, and no exchange that goes on -/
  | idle
  | solicit (n : Nat)
  | request (n : Nat) (serverDuid : List U8) (iaPd : IaPd)
  /-- a Reply was accepted, and the daemon is to be told -/
  | granted (first lease : LeaseInfo) (event : DhcpV6Event)
  | bound (first lease : LeaseInfo)
  | renew (n : Nat) (first lease : LeaseInfo)
  | rebind (n : Nat) (first lease : LeaseInfo)
  | released

namespace Stage

/-- There is no lease, and the client can start again. -/
def Unbound : Stage → Prop
  | idle | solicit _ | request _ _ _ => True
  | _ => False

/-- The lease that is held, and the first one of this server. -/
def held : Stage → Option (LeaseInfo × LeaseInfo)
  | bound first lease | renew _ first lease | rebind _ first lease => some (first, lease)
  | _ => none

/-- The daemon knows of every Reply that was accepted. -/
def Told : Stage → Prop
  | granted _ _ _ => False
  | _ => True

theorem Unbound.told {stage : Stage} (h : stage.Unbound) : stage.Told := by
  cases stage <;> trivial

theorem told_of_held {stage : Stage} {first lease : LeaseInfo} (h : stage.held = some (first, lease)) :
    stage.Told := by
  cases stage with
  | granted => cases h
  | _ => trivial

end Stage

/-- A stage of the protocol, with the ids that it may still draw. -/
structure Phase where
  /-- transaction ids below this number are used up -/
  drawn : Nat
  stage : Stage

namespace Client

variable (client : Client)

/-- `process_reply` takes the lease from the Reply. -/
def Grants (serverDuid : List U8) (reply : Message) (lease : LeaseInfo) : Prop :=
  ∃ data, client.codec.encode reply = some data ∧
    processReply client.codec data client.iaid serverDuid = some (.ok lease)

/-- What the client may do next. -/
inductive Next : Phase → ClientOutput → Phase → Prop where
  | solicit {d n : Nat} {stage : Stage} (unbound : stage.Unbound) (fresh : d ≤ n) :
      Next ⟨d, stage⟩ (.sent (buildSolicit client.duid (client.xids n) client.iaid) .allDhcpRelayAgents)
        ⟨n + 1, .solicit n⟩
  | solicitAgain {d n : Nat} :
      Next ⟨d, .solicit n⟩
        (.sent (buildSolicit client.duid (client.xids n) client.iaid) .allDhcpRelayAgents)
        ⟨d, .solicit n⟩
  | request {d n m : Nat} {serverDuid : List U8} {iaPd : IaPd} (fresh : d ≤ n) :
      Next ⟨d, .solicit m⟩
        (.sent (buildRequest client.duid serverDuid iaPd (client.xids n)) .allDhcpRelayAgents)
        ⟨n + 1, .request n serverDuid iaPd⟩
  | requestAgain {d n : Nat} {serverDuid : List U8} {iaPd : IaPd} :
      Next ⟨d, .request n serverDuid iaPd⟩
        (.sent (buildRequest client.duid serverDuid iaPd (client.xids n)) .allDhcpRelayAgents)
        ⟨d, .request n serverDuid iaPd⟩
  | granted {d n : Nat} {serverDuid : List U8} {iaPd : IaPd} {reply : Message} {lease : LeaseInfo}
      (answers : reply.xid = client.xids n) (grants : client.Grants serverDuid reply lease) :
      Next ⟨d, .request n serverDuid iaPd⟩ (.accepted reply lease)
        ⟨d, .granted lease lease (initialEvent lease)⟩
  | told {d : Nat} {first lease : LeaseInfo} {event : DhcpV6Event} :
      Next ⟨d, .granted first lease event⟩ (.event event) ⟨d, .bound first lease⟩
  | renew {d n : Nat} {first lease : LeaseInfo} (fresh : d ≤ n) :
      Next ⟨d, .bound first lease⟩
        (.sent (buildRenew client.duid first.serverDuid lease.iaPdForRelease (client.xids n))
          (.ofServer first.serverUnicast)) ⟨n + 1, .renew n first lease⟩
  | renewAgain {d n : Nat} {first lease : LeaseInfo} :
      Next ⟨d, .renew n first lease⟩
        (.sent (buildRenew client.duid first.serverDuid lease.iaPdForRelease (client.xids n))
          (.ofServer first.serverUnicast)) ⟨d, .renew n first lease⟩
  | renewed {d n : Nat} {first lease lease' : LeaseInfo} {reply : Message}
      (answers : reply.xid = client.xids n) (grants : client.Grants first.serverDuid reply lease') :
      Next ⟨d, .renew n first lease⟩ (.accepted reply lease')
        ⟨d, .granted first lease' (renewalEvent lease')⟩
  | rebind {d n : Nat} {stage : Stage} {first lease : LeaseInfo}
      (held : stage.held = some (first, lease)) (fresh : d ≤ n) :
      Next ⟨d, stage⟩ (.sent (buildRebind client.duid lease.iaPdForRelease (client.xids n))
        .allDhcpRelayAgents) ⟨n + 1, .rebind n first lease⟩
  | rebindAgain {d n : Nat} {first lease : LeaseInfo} :
      Next ⟨d, .rebind n first lease⟩
        (.sent (buildRebind client.duid lease.iaPdForRelease (client.xids n)) .allDhcpRelayAgents)
        ⟨d, .rebind n first lease⟩
  | rebound {d n : Nat} {first lease lease' : LeaseInfo} {reply : Message}
      (answers : reply.xid = client.xids n) (grants : client.Grants first.serverDuid reply lease') :
      Next ⟨d, .rebind n first lease⟩ (.accepted reply lease')
        ⟨d, .granted first lease' (renewalEvent lease')⟩
  | expired {d : Nat} {stage : Stage} (held : stage.held.isSome) :
      Next ⟨d, stage⟩ .expired ⟨d, .idle⟩
  | release {d n : Nat} {stage : Stage} {first lease : LeaseInfo}
      (held : stage.held = some (first, lease)) (fresh : d ≤ n) :
      Next ⟨d, stage⟩ (.sent (buildRelease client.duid first.serverDuid first.iaPdForRelease
        (client.xids n)) (.ofServer first.serverUnicast)) ⟨n + 1, .released⟩

/-- The server of a loop is the one of its first lease. -/
structure KeepsLease (loop : RenewalLoop) (first lease : LeaseInfo) : Prop where
  serverDuid : loop.serverDuid = first.serverDuid
  serverUnicast : loop.serverUnicast = first.serverUnicast
  first : loop.first = first
  lease : loop.lease = lease

/-- The point of the client for a stage. It can stop at any stage where the daemon is told. -/
def MatchesPoint : Stage → ClientPoint → Prop
  | stage, .solicit xid _ _ => ∃ n, stage = .solicit n ∧ xid = client.xids n
  | stage, .request xid serverDuid iaPd _ =>
      ∃ n, stage = .request n serverDuid iaPd ∧ xid = client.xids n
  | stage, .retry _ => stage.Unbound
  | stage, .untilT1 loop => ∃ first lease, stage = .bound first lease ∧ KeepsLease loop first lease
  | stage, .renew loop xid _ =>
      ∃ n first lease, stage = .renew n first lease ∧ xid = client.xids n ∧ KeepsLease loop first lease
  | stage, .rebind loop xid _ _ =>
      ∃ n first lease, stage = .rebind n first lease ∧ xid = client.xids n ∧ KeepsLease loop first lease
  | stage, .stopped => stage.Told
  | stage, .panicked => stage.Told

/-- The client is at the point that belongs to the stage. -/
structure Matches (phase : Phase) (state : ClientState) : Prop where
  drawn : phase.drawn ≤ state.drawn
  point : client.MatchesPoint phase.stage state.point

variable {client} in
/-- Every lease that the client holds was announced by an event. -/
theorem Matches.told {phase : Phase} {state : ClientState} (h : client.Matches phase state) :
    phase.stage.Told := by
  have hPoint := h.point
  cases hState : state.point with
  | solicit | request =>
      rw [hState] at hPoint
      obtain ⟨n, hStage, -⟩ := hPoint
      rw [hStage]
      trivial
  | retry =>
      rw [hState] at hPoint
      exact hPoint.told
  | untilT1 =>
      rw [hState] at hPoint
      obtain ⟨first, lease, hStage, -⟩ := hPoint
      rw [hStage]
      trivial
  | renew | rebind =>
      rw [hState] at hPoint
      obtain ⟨n, first, lease, hStage, -⟩ := hPoint
      rw [hStage]
      trivial
  | stopped | panicked =>
      rw [hState] at hPoint
      exact hPoint

end Client

def ClientState.outputs (state : ClientState) : List ClientOutput := state.log.map Prod.snd

/-- Nothing was said yet. -/
def Phase.start : Phase := ⟨0, .idle⟩

/-- The log of the client is a conversation up to where the client stands. -/
abbrev Converses (client : Client) (state : ClientState) : Prop :=
  Shows client.Next client.Matches ClientState.outputs .start state

/-- The outputs so far lead to a stage, whatever the client does next. -/
structure Reaches (client : Client) (state : ClientState) (d : Nat) (stage : Stage) : Prop where
  trace : Trace client.Next .start state.outputs ⟨d, stage⟩
  drawn : d ≤ state.drawn

section Segments

variable {client : Client} {state : ClientState} {input : ClientInput} {loop : RenewalLoop}
  {xid : Xid} {rt d n : Nat} {stage stage' : Stage} {first lease : LeaseInfo}

namespace Reaches

theorem goto {point : ClientPoint} (h : Reaches client state d stage)
    (hPoint : client.MatchesPoint stage point) : Converses client (state.goto point) :=
  ⟨⟨d, stage⟩, h.trace, h.drawn, hPoint⟩

theorem newXid (h : Reaches client state d stage) :
    Reaches client (client.newXid state).2 d stage := ⟨h.trace, Nat.le_succ_of_le h.drawn⟩

/-- One output more, by a step of the protocol. -/
theorem emit {output : ClientOutput} {d' : Nat} (h : Reaches client state d stage)
    (hNext : client.Next ⟨d, stage⟩ output ⟨d', stage'⟩) (hDrawn : d' ≤ state.drawn) :
    Reaches client (state.emit output) d' stage' := by
  refine ⟨?_, hDrawn⟩
  have hTrace := Trace.snoc h.trace hNext
  rw [ClientState.outputs, ← List.map_singleton (f := Prod.snd) (a := (state.now, output)),
    ← List.map_append] at hTrace
  exact hTrace

end Reaches

namespace Converses

open Client

theorem exchangeFailed (h : Reaches client state d stage) (hUnbound : stage.Unbound) :
    Converses client (Client.exchangeFailed state) := h.goto hUnbound

theorem solicitAgain (h : Reaches client state d (.solicit n)) :
    Converses client (client.solicit state input (client.xids n) rt) := by
  rcases solicit_cases client state with hFailed | hSent
  · rw [hFailed]
    exact exchangeFailed h trivial
  · rw [hSent]
    exact (h.emit Next.solicitAgain h.drawn).goto ⟨n, rfl, rfl⟩

/-- A new exchange takes a new transaction id. -/
theorem startExchange (h : Reaches client state d stage) (hUnbound : stage.Unbound) :
    Converses client (client.startExchange state input) := by
  rcases startExchange_cases client state with hStopped | hSolicit
  · rw [hStopped]
    exact h.goto hUnbound.told
  · rw [hSolicit]
    rcases solicit_cases client (client.newXid state).2 with hFailed | hSent
    · rw [hFailed]
      exact exchangeFailed h.newXid hUnbound
    · rw [hSent]
      exact (h.newXid.emit (Next.solicit hUnbound h.drawn) le_rfl).goto ⟨state.drawn, rfl, rfl⟩

/-- A Request repeats its transaction id. -/
theorem requestAgain {serverDuid : List U8} {iaPd : IaPd}
    (h : Reaches client state d (.request n serverDuid iaPd)) :
    Converses client (client.request state input (client.xids n) serverDuid iaPd) := by
  rcases request_cases client state with hFailed | hSent
  · rw [hFailed]
    exact exchangeFailed h trivial
  · rw [hSent]
    exact (h.emit Next.requestAgain h.drawn).goto ⟨n, rfl, rfl⟩

/-- An Advertise leads from Solicit to Request. -/
theorem advertised {msg : Message} (h : Reaches client state d (.solicit n)) :
    Converses client (client.advertised state input msg) := by
  rcases advertised_cases client state with hFailed | ⟨serverDuid, iaPd, hRequest⟩
  · rw [hFailed]
    exact exchangeFailed h trivial
  · rw [hRequest]
    rcases request_cases client (client.newXid state).2 with hFailed | hSent
    · rw [hFailed]
      exact exchangeFailed h.newXid trivial
    · rw [hSent]
      exact (h.newXid.emit (Next.request h.drawn) le_rfl).goto ⟨state.drawn, rfl, rfl⟩

theorem leaseExpired (h : Reaches client state d stage) (hHeld : stage.held.isSome) :
    Converses client (client.leaseExpired state input) :=
  startExchange (h.emit (Next.expired hHeld) h.drawn) trivial

/-- A Rebind opens a new exchange. -/
theorem startRebind (h : Reaches client state d stage) (hHeld : stage.held = some (first, lease))
    (hServes : KeepsLease loop first lease) : Converses client (client.startRebind state input loop) := by
  change Converses client (client.rebindPass (client.newXid state).2 input loop
    (client.newXid state).1 rebRetransInit)
  rcases rebindPass_cases client (client.newXid state).2 with ⟨-, hEnd⟩ | ⟨-, hSent⟩
  · rw [hEnd]
    exact leaseExpired h.newXid (by rw [hHeld]; rfl)
  · rw [hSent, hServes.lease]
    exact (h.newXid.emit (Next.rebind hHeld h.drawn) le_rfl).goto
      ⟨state.drawn, first, lease, rfl, rfl, hServes⟩

/-- Within it the id is repeated. -/
theorem rebindAgain (h : Reaches client state d (.rebind n first lease))
    (hServes : KeepsLease loop first lease) :
    Converses client (client.rebindPass state input loop (client.xids n) rt) := by
  rcases rebindPass_cases client state with ⟨-, hEnd⟩ | ⟨-, hSent⟩
  · rw [hEnd]
    exact leaseExpired h rfl
  · rw [hSent, hServes.lease]
    exact (h.emit Next.rebindAgain h.drawn).goto ⟨n, first, lease, rfl, rfl, hServes⟩

/-- A Renew opens a new exchange. -/
theorem startRenew (h : Reaches client state d (.bound first lease)) (hServes : KeepsLease loop first lease) :
    Converses client (client.startRenew state input loop) := by
  change Converses client (client.renewPass (client.newXid state).2 input loop
    (client.newXid state).1)
  rcases renewPass_cases client (client.newXid state).2 with
    ⟨-, hEnd⟩ | ⟨-, hRebind⟩ | ⟨-, -, hSent⟩
  · rw [hEnd]
    exact leaseExpired h.newXid rfl
  · rw [hRebind]
    exact startRebind h.newXid rfl hServes
  · rw [hSent, hServes.lease, hServes.serverDuid, hServes.serverUnicast]
    exact (h.newXid.emit (Next.renew h.drawn) le_rfl).goto
      ⟨state.drawn, first, lease, rfl, rfl, hServes⟩

/-- Within it the id is repeated. -/
theorem renewAgain (h : Reaches client state d (.renew n first lease))
    (hServes : KeepsLease loop first lease) :
    Converses client (client.renewPass state input loop (client.xids n)) := by
  rcases renewPass_cases client state with ⟨-, hEnd⟩ | ⟨-, hRebind⟩ | ⟨-, -, hSent⟩
  · rw [hEnd]
    exact leaseExpired h rfl
  · rw [hRebind]
    exact startRebind h rfl hServes
  · rw [hSent, hServes.lease, hServes.serverDuid, hServes.serverUnicast]
    exact (h.emit Next.renewAgain h.drawn).goto ⟨n, first, lease, rfl, rfl, hServes⟩

theorem release (h : Reaches client state d stage) (hHeld : stage.held = some (first, lease))
    (hServes : KeepsLease loop first lease) : Converses client (client.release state loop) := by
  rcases release_cases client state with hStopped | hSent
  · rw [hStopped]
    exact h.newXid.goto (Stage.told_of_held hHeld)
  · rw [hSent, hServes.first]
    exact (h.newXid.emit (Next.release hHeld h.drawn) le_rfl).goto trivial

/-- The loop waits for T1, starts a Renew or ends with the lease. -/
theorem startLoop {serverDuid : List U8} {serverUnicast : Option Ipv6Addr}
    (h : Reaches client state d (.bound first lease)) (hDuid : serverDuid = first.serverDuid)
    (hUnicast : serverUnicast = first.serverUnicast) :
    Converses client (Client.startLoop state first lease serverDuid serverUnicast) := by
  rcases startLoop_cases state with hPanic | ⟨loop, hFirst, hLease, hLoopDuid, hLoopUnicast, -, hStart⟩
  · rw [hPanic]
    exact h.goto trivial
  · rw [hStart]
    exact h.goto ⟨first, lease, rfl, hLoopDuid.trans hDuid, hLoopUnicast.trans hUnicast, hFirst, hLease⟩

end Converses

/-- An accepted Reply and its event come together. -/
theorem Reaches.accept {reply : Message} {event : DhcpV6Event} (h : Reaches client state d stage)
    (hNext : client.Next ⟨d, stage⟩ (.accepted reply lease) ⟨d, .granted first lease event⟩) :
    Reaches client (Client.accept state reply lease event) d (.bound first lease) :=
  (h.emit hNext h.drawn).emit Client.Next.told h.drawn

namespace Converses

open Client

variable {msg : Message} {data : List U8}

/-- The first Reply grants the lease, and its event follows. -/
theorem granted {serverDuid : List U8} {iaPd : IaPd} (hXid : msg.xid = client.xids n)
    (h : Reaches client state d (.request n serverDuid iaPd)) :
    Converses client (client.granted state input msg serverDuid) := by
  rcases granted_cases client state with hFailed | ⟨data, lease, hEncode, hProcess, hEnd⟩
  · rw [hFailed]
    exact exchangeFailed h trivial
  · have hBound := h.accept (Next.granted hXid ⟨data, hEncode, hProcess⟩)
    rcases hEnd with hStopped | hStart
    · rw [hStopped]
      exact hBound.goto trivial
    · rw [hStart]
      exact startLoop hBound rfl rfl

/-- The lease goes on with the server of the first one. -/
theorem renewed {notEncoded notAccepted : ClientState} (h : Reaches client state d stage)
    (hServes : KeepsLease loop first lease)
    (hNext : ∀ lease', client.Grants first.serverDuid msg lease' →
      client.Next ⟨d, stage⟩ (.accepted msg lease') ⟨d, .granted first lease' (renewalEvent lease')⟩)
    (hNotEncoded : Converses client notEncoded) (hNotAccepted : Converses client notAccepted) :
    Converses client (client.renewed state loop msg notEncoded notAccepted) := by
  rcases renewed_cases client state with
    hEnd | hEnd | ⟨data, lease', hEncode, hProcess, hStart⟩
  · rw [hEnd]
    exact hNotEncoded
  · rw [hEnd]
    exact hNotAccepted
  · rw [hServes.serverDuid] at hProcess
    have hBound := h.accept (hNext lease' ⟨data, hEncode, hProcess⟩)
    rw [hStart, hServes.first]
    exact startLoop hBound hServes.serverDuid hServes.serverUnicast

end Converses

theorem parseReply_xid {codec : Codec} {data : List U8} {msg : Message}
    (h : parseReply codec data xid = some msg) : msg.xid = xid := by
  unfold parseReply at h
  obtain ⟨decoded, -, h⟩ := Option.bind_eq_some_iff.mp h
  split_ifs at h with hType hXid
  cases h
  exact not_not.mp hXid

/-- Whatever ends a wait, the client goes on as the protocol allows. -/
theorem Converses.resume {next : ClientState} (h : Converses client state)
    (hResume : client.resume state input = some next) : Converses client next := by
  obtain ⟨⟨d, stage⟩, hTrace, hDrawn, hPoint⟩ := h
  have hReaches : Reaches client (Client.atTime state input.time) d stage := ⟨hTrace, hDrawn⟩
  have hNext := Client.resume_cases hResume
  obtain ⟨now, point, drawn, log⟩ := state
  cases point with
  | solicit xid rt since =>
      obtain ⟨n, rfl, rfl⟩ := hPoint
      rcases hNext with ⟨msg, rfl⟩ | ⟨rt, rfl⟩ | rfl | rfl
      · exact Converses.advertised hReaches
      · exact Converses.solicitAgain hReaches
      · exact Converses.exchangeFailed hReaches trivial
      · exact hReaches.goto trivial
  | request xid serverDuid iaPd wakeAt =>
      obtain ⟨n, rfl, rfl⟩ := hPoint
      rcases hNext with ⟨data, msg, -, hParse, rfl⟩ | rfl | rfl | rfl
      · exact Converses.granted (parseReply_xid hParse) hReaches
      · exact Converses.requestAgain hReaches
      · exact Converses.exchangeFailed hReaches trivial
      · exact hReaches.goto trivial
  | retry wakeAt =>
      rcases hNext with rfl | rfl
      · exact Converses.startExchange hReaches hPoint
      · exact hReaches.goto hPoint.told
  | untilT1 loop =>
      obtain ⟨first, lease, rfl, hServes⟩ := hPoint
      rcases hNext with ⟨-, rfl⟩ | ⟨-, rfl⟩
      · exact Converses.startRenew hReaches hServes
      · exact Converses.release hReaches rfl hServes
  | renew loop xid wakeAt =>
      obtain ⟨n, first, lease, rfl, rfl, hServes⟩ := hPoint
      rcases hNext with ⟨data, msg, -, hParse, rfl⟩ | rfl | ⟨-, rfl⟩ | ⟨-, rfl⟩
      · exact Converses.renewed hReaches hServes
          (fun lease' => Client.Next.renewed (parseReply_xid hParse))
          (Converses.startRebind hReaches rfl hServes) (Converses.renewAgain hReaches hServes)
      · exact Converses.renewAgain hReaches hServes
      · exact Converses.startRebind hReaches rfl hServes
      · exact Converses.release hReaches rfl hServes
  | rebind loop xid rt wakeAt =>
      obtain ⟨n, first, lease, rfl, rfl, hServes⟩ := hPoint
      rcases hNext with ⟨data, msg, -, hParse, rfl⟩ | ⟨rt, rfl⟩ | ⟨-, rfl⟩ | ⟨-, rfl⟩
      · exact Converses.renewed hReaches hServes
          (fun lease' => Client.Next.rebound (parseReply_xid hParse))
          (Converses.leaseExpired hReaches rfl) (Converses.rebindAgain hReaches hServes)
      · exact Converses.rebindAgain hReaches hServes
      · exact Converses.leaseExpired hReaches rfl
      · exact Converses.release hReaches rfl hServes
  | stopped => exact hNext.elim
  | panicked => exact hNext.elim

end Segments

theorem Converses.start (client : Client) (now : Instant) (first : ClientInput) :
    Converses client (client.start now first) :=
  Converses.startExchange ⟨Trace.nil _, le_rfl⟩ trivial

/-- In every run, whatever the servers send and whenever the timers end, the
client keeps to the protocol, and the transaction ids of its exchanges are
drawn one after the other. -/
theorem run_converses {client : Client} {now : Instant} {first : ClientInput}
    {inputs : List ClientInput} {finish : ClientState}
    (run : Run client.resume Free (client.start now first) inputs finish) :
    Converses client finish :=
  run.invariant (fun _ _ _ h _ hResume => h.resume hResume) (Converses.start client now first)

/-- What an observer can rely on. -/
structure Orderly (client : Client) (outputs : List ClientOutput) : Prop where
  /-- An event comes right after the Reply that grants its lease, and that one right
  after the message that it answers. -/
  answered : ∀ before event after, outputs = before ++ .event event :: after →
    ∃ rest msg dst reply lease, before = rest ++ [.sent msg dst] ++ [.accepted reply lease] ∧
      reply.xid = msg.xid ∧ (∃ serverDuid, client.Grants serverDuid reply lease) ∧
      (msg.msgType = .request ∧ event = Client.initialEvent lease ∨
        (msg.msgType = .renew ∨ msg.msgType = .rebind) ∧ event = Client.renewalEvent lease)
  told : ∀ before reply lease after, outputs = before ++ .accepted reply lease :: after →
    ∃ event rest, after = .event event :: rest
  /-- Without a lease the client begins again. -/
  expired : ∀ before output after, outputs = before ++ [.expired] ++ output :: after →
    ∃ xid, output = .sent (buildSolicit client.duid xid client.iaid) .allDhcpRelayAgents
  released : ∀ before msg dst after, outputs = before ++ .sent msg dst :: after →
    msg.msgType = .release → after = []

section Orderly

variable {client : Client} {phase phase' : Phase} {outputs after : List ClientOutput}
  {output : ClientOutput}

/-- The exchange whose answer is waited for. -/
def Stage.awaits : Stage → Option (Nat × List MessageType)
  | .request n _ _ => some (n, [.request])
  | .renew n _ _ => some (n, [.renew])
  | .rebind n _ _ => some (n, [.rebind])
  | _ => none

/-- Only a message of the exchange leads to the wait for its answer. -/
theorem Client.Next.sent_of_awaits {n : Nat} {types : List MessageType}
    (h : client.Next phase output phase') (hAwaits : phase'.stage.awaits = some (n, types)) :
    ∃ msg dst, output = .sent msg dst ∧ msg.xid = client.xids n ∧ types = [msg.msgType] := by
  cases h with
  | request | requestAgain | renew | renewAgain | rebind | rebindAgain =>
      cases hAwaits
      exact ⟨_, _, rfl, rfl, rfl⟩
  | _ => cases hAwaits

/-- One step back from a granted lease there is its Reply. -/
theorem Client.Next.accepted_of_granted {d : Nat} {first lease : LeaseInfo} {event : DhcpV6Event}
    (h : client.Next phase output ⟨d, .granted first lease event⟩) :
    ∃ n types reply, phase.stage.awaits = some (n, types) ∧ output = .accepted reply lease ∧
      reply.xid = client.xids n ∧ (∃ serverDuid, client.Grants serverDuid reply lease) ∧
      (types = [.request] ∧ event = initialEvent lease ∨
        (types = [.renew] ∨ types = [.rebind]) ∧ event = renewalEvent lease) := by
  cases h with
  | granted answers grants => exact ⟨_, _, _, rfl, rfl, answers, ⟨_, grants⟩, .inl ⟨rfl, rfl⟩⟩
  | renewed answers grants =>
      exact ⟨_, _, _, rfl, rfl, answers, ⟨_, grants⟩, .inr ⟨.inl rfl, rfl⟩⟩
  | rebound answers grants =>
      exact ⟨_, _, _, rfl, rfl, answers, ⟨_, grants⟩, .inr ⟨.inr rfl, rfl⟩⟩

/-- The wait for an answer was entered with the last output. -/
theorem Converses.sent_last {n : Nat} {types : List MessageType}
    (trace : Trace client.Next .start outputs phase) (hAwaits : phase.stage.awaits = some (n, types)) :
    ∃ rest msg dst, outputs = rest ++ [.sent msg dst] ∧ msg.xid = client.xids n ∧
      types = [msg.msgType] := by
  rcases trace.last_cases with ⟨-, rfl⟩ | ⟨rest, output, middle, rfl, -, hNext⟩
  · cases hAwaits
  · obtain ⟨msg, dst, rfl, hXid, hType⟩ := hNext.sent_of_awaits hAwaits
    exact ⟨rest, msg, dst, rfl, hXid, hType⟩

/-- Two steps back there is the message that it answers. -/
theorem Converses.accepted_last {d : Nat} {first lease : LeaseInfo} {event : DhcpV6Event}
    (trace : Trace client.Next .start outputs ⟨d, .granted first lease event⟩) :
    ∃ rest msg dst reply, outputs = rest ++ [.sent msg dst] ++ [.accepted reply lease] ∧
      reply.xid = msg.xid ∧ (∃ serverDuid, client.Grants serverDuid reply lease) ∧
      (msg.msgType = .request ∧ event = Client.initialEvent lease ∨
        (msg.msgType = .renew ∨ msg.msgType = .rebind) ∧ event = Client.renewalEvent lease) := by
  rcases trace.last_cases with ⟨-, hStart⟩ | ⟨before, output, middle, rfl, hBefore, hNext⟩
  · cases hStart
  · obtain ⟨n, types, reply, hAwaits, rfl, hXid, hGrants, hEvent⟩ := hNext.accepted_of_granted
    obtain ⟨rest, msg, dst, rfl, hMsgXid, rfl⟩ := Converses.sent_last hBefore hAwaits
    refine ⟨rest, msg, dst, reply, rfl, hXid.trans hMsgXid.symm, hGrants, ?_⟩
    simpa using hEvent

/-- Nothing is said after a Release. -/
theorem Client.Next.not_released {d : Nat} : ¬ client.Next ⟨d, .released⟩ output phase := by
  intro h
  cases h with
  | solicit unbound _ => exact unbound
  | rebind held _ => cases held
  | expired held => cases held
  | release held _ => cases held

/-- What follows an accepted Reply is its event. -/
theorem Converses.told_next {d : Nat} {first lease : LeaseInfo} {event : DhcpV6Event}
    (trace : Trace client.Next ⟨d, .granted first lease event⟩ outputs phase)
    (hTold : phase.stage.Told) : ∃ rest, outputs = .event event :: rest := by
  cases outputs with
  | nil =>
      rcases trace.last_cases with ⟨-, rfl⟩ | ⟨before, output, middle, hEmpty, -⟩
      · exact hTold.elim
      · simp at hEmpty
  | cons output rest =>
      obtain ⟨middle, hNext, -⟩ := trace.head
      cases hNext with
      | told => exact ⟨rest, rfl⟩
      | solicit unbound _ => exact unbound.elim
      | rebind held _ => cases held
      | expired held => cases held
      | release held _ => cases held

/-- The order of the outputs follows from the protocol alone. -/
theorem Converses.orderly {state : ClientState} (h : Converses client state) :
    Orderly client state.outputs := by
  obtain ⟨phase, hTrace, hMatches⟩ := h
  have hTold : phase.stage.Told := hMatches.told
  refine ⟨?_, ?_, ?_, ?_⟩
  · intro before event after hOutputs
    rw [hOutputs] at hTrace
    obtain ⟨⟨d, stage⟩, middle', hBefore, hNext, -⟩ := hTrace.split
    cases hNext
    obtain ⟨rest, msg, dst, reply, hRest, hAnswer⟩ := Converses.accepted_last hBefore
    exact ⟨rest, msg, dst, reply, _, hRest, hAnswer⟩
  · intro before reply lease after hOutputs
    rw [hOutputs] at hTrace
    obtain ⟨middle, middle', -, hNext, hAfter⟩ := hTrace.split
    cases hNext with
    | granted | renewed | rebound =>
        obtain ⟨rest, hRest⟩ := Converses.told_next hAfter hTold
        exact ⟨_, rest, hRest⟩
  · intro before output after hOutputs
    rw [hOutputs] at hTrace
    obtain ⟨middle, middle', hBefore, hNext, -⟩ := hTrace.split
    obtain ⟨rest, last, stage, hRest, -, hExpired⟩ := hBefore.last_cases.resolve_left (by simp)
    obtain ⟨-, hLast⟩ := List.append_inj' hRest rfl
    cases hLast
    cases hExpired
    cases hNext with
    | solicit _ _ => exact ⟨_, rfl⟩
    | rebind held _ => cases held
    | expired held => cases held
    | release held _ => cases held
  · intro before msg dst after hOutputs hRelease
    rw [hOutputs] at hTrace
    obtain ⟨middle, middle', -, hNext, hAfter⟩ := hTrace.split
    cases hNext with
    | release _ _ => exact hAfter.eq_nil fun _ _ => Client.Next.not_released
    | _ => cases hRelease

end Orderly

/-- In every run each event for the daemon comes from a Reply that grants its lease
and carries the transaction id of the message sent last, each accepted Reply becomes
an event at once, an expired lease is followed by a Solicit, and a Release is the
last message. -/
theorem run_orderly {client : Client} {now : Instant} {first : ClientInput}
    {inputs : List ClientInput} {finish : ClientState}
    (run : Run client.resume Free (client.start now first) inputs finish) :
    Orderly client finish.outputs := by
  have hConverses : Converses client finish :=
    run.invariant (fun _ _ _ h _ hResume => h.resume hResume) (Converses.start client now first)
  exact hConverses.orderly

section Examples

/-- A lease that is renewed once and then given back. -/
def releasedAfterRenewal : List ClientInput :=
  [receivedAt 1 (serverMessage .advertise [1]), receivedAt 1 (serverMessage .reply [1]),
    inputAt 11 .deadline, receivedAt 12 (serverMessage .reply [1]), inputAt 13 .cancelled]

/-- The run of the example has eight outputs. -/
theorem run_releasedAfterRenewal : ∃ finish,
    Run testClient.resume Free (testClient.start second (inputAt 1 .timeout)) releasedAfterRenewal
      finish ∧ finish.outputs.length = 8 := by
  have hEval : (runAll (guarded testClient.resume Free) releasedAfterRenewal
      (testClient.start second (inputAt 1 .timeout))).map (fun state => state.outputs.length) =
        some 8 := by
    decide +kernel
  obtain ⟨finish, hFinish, hLength⟩ := Option.map_eq_some_iff.mp hEval
  exact ⟨finish, Run.of_runAll hFinish, hLength⟩

theorem run_converses_released : ∃ finish,
    Run testClient.resume Free (testClient.start second (inputAt 1 .timeout)) releasedAfterRenewal
      finish ∧ finish.outputs.length = 8 ∧ Converses testClient finish := by
  obtain ⟨finish, run, hLength⟩ := run_releasedAfterRenewal
  exact ⟨finish, run, hLength, run_converses run⟩

theorem run_orderly_released : ∃ finish,
    Run testClient.resume Free (testClient.start second (inputAt 1 .timeout)) releasedAfterRenewal
      finish ∧ finish.outputs.length = 8 ∧ Orderly testClient finish.outputs := by
  obtain ⟨finish, run, hLength⟩ := run_releasedAfterRenewal
  exact ⟨finish, run, hLength, run_orderly run⟩

end Examples

end Mapecd
