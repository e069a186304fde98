import Mapecd.Dhcpv6.Reply

/-! The DHCPv6 client: Solicit, Request and the cycle of Renew and Rebind. The
client waits at one of a few points, and what it does until the next one takes
no time. -/
namespace Mapecd

open Checked

/-- Nanoseconds of the monotonic clock. -/
abbrev Instant := Nat

def second : Nat := 1000000000

/-- `Instant + Duration` keeps the seconds in an `i64` and panics outside. -/
def Instant.addSecs (now : Instant) (secs : Nat) : Result Instant :=
  if now / second + secs < 2 ^ 63 then some (now + secs * second) else none

/-- Seconds. -/
def solTimeout : Nat := 1
def solMaxRt : Nat := 120
def requestTimeout : Nat := 10
def retryDelay : Nat := 5
def renRetrans : Nat := 10
def rebRetransInit : Nat := 10
def rebRetransMax : Nat := 30

/-- Every message goes to port 547 of one of these. -/
inductive Destination where
  /-- `ff02::1:2`. -/
  | allDhcpRelayAgents
  | unicast (addr : Ipv6Addr)
deriving DecidableEq, Repr

/-- The address of the server, or that of all servers. -/
def Destination.ofServer : Option Ipv6Addr → Destination
  | some addr => .unicast addr
  | none => .allDhcpRelayAgents

/-- What does not change while the client runs. Transaction ids are drawn from
a sequence of random numbers. -/
structure Client where
  codec : Codec
  duid : List U8
  iaid : U32
  xids : Nat → Xid

/-- Arguments and deadlines of `do_renewal_loop`, and the lease `run_client` got first. -/
structure RenewalLoop where
  first : LeaseInfo
  serverDuid : List U8
  serverUnicast : Option Ipv6Addr
  lease : LeaseInfo
  t1At : Instant
  t2At : Instant
  expireAt : Instant

/-- Where the client waits, with what it needs to go on. It is stopped or has panicked
otherwise. -/
inductive ClientPoint where
  /-- Waiting for an Advertise. The timeout is up to a tenth off `rt` seconds. -/
  | solicit (xid : Xid) (rt : Nat) (since : Instant)
  | request (xid : Xid) (serverDuid : List U8) (iaPd : IaPd) (wakeAt : Instant)
  /-- After an initial exchange that failed. -/
  | retry (wakeAt : Instant)
  | untilT1 (loop : RenewalLoop)
  | renew (loop : RenewalLoop) (xid : Xid) (wakeAt : Instant)
  | rebind (loop : RenewalLoop) (xid : Xid) (rt : Nat) (wakeAt : Instant)
  | stopped
  | panicked

/-- What a run shows: messages, accepted Replies, events and expiries. -/
inductive ClientOutput where
  | sent (msg : Message) (dst : Destination)
  /-- `process_reply` has accepted this message. -/
  | accepted (reply : Message) (lease : LeaseInfo)
  | event (event : DhcpV6Event)
  | expired
deriving DecidableEq

/-- The clock, the point of the client and what it did so far. -/
structure ClientState where
  now : Instant
  point : ClientPoint
  /-- How many transaction ids have been drawn. -/
  drawn : Nat
  /-- What the client did, the last output at the end. -/
  log : List (Instant × ClientOutput)

/-- What ends a wait: the branch of `select!`. -/
inductive WaitEvent where
  | received (data : List U8)
  | recvFailed
  | timeout
  | deadline
  | cancelled
deriving DecidableEq

/-- What ends a wait, and what goes wrong in what follows it. -/
structure ClientInput where
  time : Instant
  event : WaitEvent
  /-- The next message cannot be sent. -/
  sendFails : Bool
  /-- The receiver of the events is gone. -/
  channelClosed : Bool
  /-- The main loop finds the token cancelled. -/
  cancelRequested : Bool

namespace ClientState

variable (state : ClientState)

def goto (point : ClientPoint) : ClientState := { state with point := point }

def emit (output : ClientOutput) : ClientState :=
  { state with log := state.log ++ [(state.now, output)] }

end ClientState

section Messages

variable (duid serverDuid : List U8) (iaPd : IaPd) (xid : Xid)

-- Inserting keeps the options of a message sorted by code.
def buildOro : DhcpOption := .oro [optIaPd, optS46ContMape]

def buildSolicit (iaid : U32) : Message :=
  { msgType := .solicit, xid := xid
    opts := [.clientId duid, buildOro, .iaPd { id := iaid, t1 := 0, t2 := 0, opts := [] }] }

def buildRequest : Message :=
  { msgType := .request, xid := xid
    opts := [.clientId duid, .serverId serverDuid, buildOro, .iaPd iaPd] }

def buildRenew : Message :=
  { msgType := .renew, xid := xid
    opts := [.clientId duid, .serverId serverDuid, buildOro, .iaPd iaPd] }

/-- Any server may answer, so no server is named. -/
def buildRebind : Message :=
  { msgType := .rebind, xid := xid, opts := [.clientId duid, buildOro, .iaPd iaPd] }

def buildRelease : Message :=
  { msgType := .release, xid := xid
    opts := [.clientId duid, .serverId serverDuid, .iaPd iaPd] }

end Messages

section Received

variable (codec : Codec) (data : List U8) (xid : Xid)

/-- A message of another type or exchange is not an Advertise, nor is a failed one. -/
def parseAdvertise : Option Message := do
  let msg ← codec.decode data
  if msg.msgType ≠ .advertise then none
  else if msg.xid ≠ xid then none
  else if msg.Failed then none
  else some msg

def parseReply : Option Message := do
  let msg ← codec.decode data
  if msg.msgType ≠ .reply then none
  else if msg.xid ≠ xid then none
  else some msg

end Received

namespace Client

variable (client : Client) (state : ClientState)

/-- The next transaction id, and the state after drawing it. -/
def newXid : Xid × ClientState :=
  (client.xids state.drawn, { state with drawn := state.drawn + 1 })

/-- A failed initial exchange. -/
def exchangeFailed : ClientState := state.goto (.retry (state.now + retryDelay * second))

/-- Send the Solicit and wait. -/
def solicit (input : ClientInput) (xid : Xid) (rt : Nat) : ClientState :=
  let msg := buildSolicit client.duid xid client.iaid
  match client.codec.encode msg with
  | none => exchangeFailed state
  | some _ =>
      if input.sendFails then
        exchangeFailed state
      else
        (state.emit (.sent msg .allDhcpRelayAgents)).goto (.solicit xid rt state.now)

/-- From the top of the main loop. -/
def startExchange (input : ClientInput) : ClientState :=
  if input.cancelRequested then
    state.goto .stopped
  else
    let (xid, state) := client.newXid state
    client.solicit state input xid solTimeout

/-- A Request that cannot be encoded or sent ends the exchange. -/
def request (input : ClientInput) (xid : Xid) (serverDuid : List U8) (iaPd : IaPd) : ClientState :=
  let msg := buildRequest client.duid serverDuid iaPd xid
  match client.codec.encode msg with
  | none => exchangeFailed state
  | some _ =>
      if input.sendFails then
        exchangeFailed state
      else
        (state.emit (.sent msg .allDhcpRelayAgents)).goto
          (.request xid serverDuid iaPd (state.now + requestTimeout * second))

/-- An Advertise has arrived. -/
def advertised (input : ClientInput) (msg : Message) : ClientState :=
  match msg.extractServerDuid, msg.extractIaPd with
  | some serverDuid, some iaPd =>
      let (xid, state) := client.newXid state
      client.request state input xid serverDuid iaPd
  | _, _ => exchangeFailed state

/-- The three deadlines of a lease, as long as an `Instant` can hold them. -/
def deadlines (now : Instant) (lease : LeaseInfo) : Result (Instant × Instant × Instant) := do
  let t1At ← now.addSecs lease.t1.toNat
  let t2At ← now.addSecs lease.t2.toNat
  let expireAt ←
    if lease.validLifetime = infiniteLifetime then now.addSecs ((2 ^ 64 - 1) / 2)
    else now.addSecs lease.validLifetime.toNat
  return (t1At, t2At, expireAt)

/-- The call of `do_renewal_loop`, up to the wait for T1. -/
def startLoop (first lease : LeaseInfo) (serverDuid : List U8) (serverUnicast : Option Ipv6Addr) :
    ClientState :=
  match deadlines state.now lease with
  | none => state.goto .panicked
  | some (t1At, t2At, expireAt) =>
      state.goto (.untilT1
        { first := first, serverDuid := serverDuid, serverUnicast := serverUnicast
          lease := lease, t1At := t1At, t2At := t2At, expireAt := expireAt })

/-- The lease has expired, and the main loop begins again. -/
def leaseExpired (input : ClientInput) : ClientState :=
  client.startExchange (state.emit .expired) input

/-- One pass of the Rebind phase up to its wait. -/
def rebindPass (input : ClientInput) (loop : RenewalLoop) (xid : Xid) (rt : Nat) : ClientState :=
  if loop.expireAt ≤ state.now then
    client.leaseExpired state input
  else
    let msg := buildRebind client.duid loop.lease.iaPdForRelease xid
    match client.codec.encode msg with
    | none => client.leaseExpired state input
    | some _ =>
        (state.emit (.sent msg .allDhcpRelayAgents)).goto
          (.rebind loop xid rt (state.now + rt * second))

def startRebind (input : ClientInput) (loop : RenewalLoop) : ClientState :=
  let (xid, state) := client.newXid state
  client.rebindPass state input loop xid rebRetransInit

/-- One pass of the Renew phase up to its wait. -/
def renewPass (input : ClientInput) (loop : RenewalLoop) (xid : Xid) : ClientState :=
  if loop.expireAt ≤ state.now then
    client.leaseExpired state input
  else if loop.t2At ≤ state.now then
    client.startRebind state input loop
  else
    let msg := buildRenew client.duid loop.serverDuid loop.lease.iaPdForRelease xid
    match client.codec.encode msg with
    | none => client.startRebind state input loop
    | some _ =>
        (state.emit (.sent msg (.ofServer loop.serverUnicast))).goto
          (.renew loop xid (state.now + renRetrans * second))

def startRenew (input : ClientInput) (loop : RenewalLoop) : ClientState :=
  let (xid, state) := client.newXid state
  client.renewPass state input loop xid

/-- The event of a renewed lease. -/
def renewalEvent (lease : LeaseInfo) : DhcpV6Event :=
  if lease.rules.isEmpty then .iaPdReceived lease.cePrefix else .both lease.rules lease.cePrefix

def initialEvent (lease : LeaseInfo) : DhcpV6Event := .both lease.rules lease.cePrefix

/-- The Reply to the Request, as it was encoded again. -/
def granted (input : ClientInput) (msg : Message) (serverDuid : List U8) : ClientState :=
  match client.codec.encode msg with
  | none => exchangeFailed state
  | some data =>
      match processReply client.codec data client.iaid serverDuid with
      | none => state.goto .panicked
      | some (.error _) => exchangeFailed state
      | some (.ok lease) =>
          let state := (state.emit (.accepted msg lease)).emit (.event (initialEvent lease))
          if input.channelClosed then
            state.goto .stopped
          else
            startLoop state lease lease lease.serverDuid lease.serverUnicast

/-- A Reply in `do_renewal_loop`: what happens without an encoding, and with a
Reply that is not accepted, depends on the phase. -/
def renewed (loop : RenewalLoop) (msg : Message) (notEncoded notAccepted : ClientState) :
    ClientState :=
  match client.codec.encode msg with
  | none => notEncoded
  | some data =>
      match processReply client.codec data client.iaid loop.serverDuid with
      | none => state.goto .panicked
      | some (.error _) => notAccepted
      | some (.ok lease) =>
          let state := (state.emit (.accepted msg lease)).emit (.event (renewalEvent lease))
          -- the new lease goes on with the arguments of this call
          startLoop state loop.first lease loop.serverDuid loop.serverUnicast

/-- The Release that is sent on cancellation names what `run_client` got first. -/
def release (loop : RenewalLoop) : ClientState :=
  let (xid, state) := client.newXid state
  let msg := buildRelease client.duid loop.first.serverDuid loop.first.iaPdForRelease xid
  match client.codec.encode msg with
  | none => state.goto .stopped
  | some _ => (state.emit (.sent msg (.ofServer loop.first.serverUnicast))).goto .stopped

/-- The client goes on from the point where it waits. -/
def resume (input : ClientInput) : Option ClientState :=
  let state := { state with now := input.time }
  match state.point, input.event with
  | .solicit xid rt _, .received data =>
      match parseAdvertise client.codec data xid with
      | some msg => some (client.advertised state input msg)
      | none => some (client.solicit state input xid rt)
  | .solicit xid rt _, .timeout =>
      some (client.solicit state input xid (min (rt * 2) solMaxRt))
  | .solicit _ _ _, .recvFailed => some (exchangeFailed state)
  | .solicit _ _ _, .cancelled => some (state.goto .stopped)
  | .request xid serverDuid iaPd _, .received data =>
      match parseReply client.codec data xid with
      | some msg => some (client.granted state input msg serverDuid)
      | none => some (client.request state input xid serverDuid iaPd)
  | .request xid serverDuid iaPd _, .timeout =>
      some (client.request state input xid serverDuid iaPd)
  | .request _ _ _ _, .recvFailed => some (exchangeFailed state)
  | .request _ _ _ _, .cancelled => some (state.goto .stopped)
  | .retry _, .deadline => some (client.startExchange state input)
  | .retry _, .cancelled => some (state.goto .stopped)
  | .untilT1 loop, .deadline => some (client.startRenew state input loop)
  | .untilT1 loop, .cancelled => some (client.release state loop)
  | .renew loop xid _, .received data =>
      match parseReply client.codec data xid with
      | some msg =>
          some (client.renewed state loop msg (client.startRebind state input loop)
            (client.renewPass state input loop xid))
      | none => some (client.renewPass state input loop xid)
  | .renew loop xid _, .timeout => some (client.renewPass state input loop xid)
  | .renew loop xid _, .recvFailed => some (client.renewPass state input loop xid)
  | .renew loop _ _, .deadline => some (client.startRebind state input loop)
  | .renew loop _ _, .cancelled => some (client.release state loop)
  | .rebind loop xid rt _, .received data =>
      match parseReply client.codec data xid with
      | some msg =>
          some (client.renewed state loop msg (client.leaseExpired state input)
            (client.rebindPass state input loop xid rt))
      | none => some (client.rebindPass state input loop xid rt)
  | .rebind loop xid rt _, .timeout =>
      some (client.rebindPass state input loop xid (min (rt + rebRetransInit) rebRetransMax))
  | .rebind loop xid rt _, .recvFailed => some (client.rebindPass state input loop xid rt)
  | .rebind _ _ _ _, .deadline => some (client.leaseExpired state input)
  | .rebind loop _ _ _, .cancelled => some (client.release state loop)
  | _, _ => none

/-- Before the first Solicit. -/
def start (now : Instant) (input : ClientInput) : ClientState :=
  client.startExchange { now := now, point := .stopped, drawn := 0, log := [] } input

end Client

section Timing

/-- Earliest and latest end of the receive timeout. -/
def ClientPoint.timeout : ClientPoint → Option (Instant × Instant)
  | .solicit _ rt since => some (since + rt * second * 9 / 10, since + rt * second * 11 / 10)
  | .request _ _ _ wakeAt => some (wakeAt, wakeAt)
  | .renew _ _ wakeAt => some (wakeAt, wakeAt)
  | .rebind _ _ _ wakeAt => some (wakeAt, wakeAt)
  | _ => none

/-- The instant of `sleep_until`. -/
def ClientPoint.deadline : ClientPoint → Option Instant
  | .retry wakeAt => some wakeAt
  | .untilT1 loop => some loop.t1At
  | .renew loop _ _ => some loop.t2At
  | .rebind loop _ _ _ => some loop.expireAt
  | _ => none

/-- The clock does not go back, no wait lasts longer than its timers allow, and
no timer ends early. -/
structure Timely (state : ClientState) (input : ClientInput) : Prop where
  forward : state.now ≤ input.time
  timeout : ∀ wake ∈ state.point.timeout,
    input.time ≤ max wake.2 state.now ∧ (input.event = .timeout → wake.1 ≤ input.time)
  deadline : ∀ wake ∈ state.point.deadline,
    input.time ≤ max wake state.now ∧ (input.event = .deadline → wake ≤ input.time)

instance (state : ClientState) (input : ClientInput) : Decidable (Timely state input) :=
  decidable_of_iff (state.now ≤ input.time ∧
      (∀ wake ∈ state.point.timeout,
        input.time ≤ max wake.2 state.now ∧ (input.event = .timeout → wake.1 ≤ input.time)) ∧
      ∀ wake ∈ state.point.deadline,
        input.time ≤ max wake state.now ∧ (input.event = .deadline → wake ≤ input.time))
    ⟨fun ⟨hForward, hTimeout, hDeadline⟩ => ⟨hForward, hTimeout, hDeadline⟩,
      fun h => ⟨h.forward, h.timeout, h.deadline⟩⟩

end Timing

end Mapecd
