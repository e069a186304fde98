import Mapecd.Dhcpv6.ClientSegments
import Mapecd.Semantics.Runs

/-! What holds of every single output of the client. -/
namespace Mapecd

open Runs

/-- `Q` holds of every output and the log before it, as long as `L` holds of the
arguments of `do_renewal_loop`, and the client keeps `L`. -/
structure Outputs (client : Client) (Q : ClientLog → ClientOutput → Prop)
    (L : ClientLog → RenewalLoop → Prop) : Prop where
  sent : ∀ log time msg dst loop, L log loop → L (log ++ [(time, .sent msg dst)]) loop
  expired : ∀ log, Q log .expired
  solicit : ∀ log xid, Q log (.sent (buildSolicit client.duid xid client.iaid) .allDhcpRelayAgents)
  request : ∀ log serverDuid iaPd xid,
    Q log (.sent (buildRequest client.duid serverDuid iaPd xid) .allDhcpRelayAgents)
  renew : ∀ log loop xid, L log loop →
    Q log (.sent (buildRenew client.duid loop.serverDuid loop.lease.iaPdForRelease xid)
      (.ofServer loop.serverUnicast))
  rebind : ∀ log loop xid, L log loop →
    Q log (.sent (buildRebind client.duid loop.lease.iaPdForRelease xid) .allDhcpRelayAgents)
  release : ∀ log loop xid, L log loop →
    Q log (.sent (buildRelease client.duid loop.first.serverDuid loop.first.iaPdForRelease xid)
      (.ofServer loop.first.serverUnicast))
  granted : ∀ log time reply data serverDuid lease, client.codec.encode reply = some data →
    processReply client.codec data client.iaid serverDuid = some (.ok lease) →
    Q log (.accepted reply lease) ∧
      Q (log ++ [(time, .accepted reply lease)]) (.event (Client.initialEvent lease)) ∧
      ∀ loop : RenewalLoop, loop.first = lease → loop.lease = lease →
        L (log ++ [(time, .accepted reply lease)] ++ [(time, .event (Client.initialEvent lease))]) loop
  renewed : ∀ log time loop reply data lease, L log loop →
    client.codec.encode reply = some data →
    processReply client.codec data client.iaid loop.serverDuid = some (.ok lease) →
    Q log (.accepted reply lease) ∧
      Q (log ++ [(time, .accepted reply lease)]) (.event (Client.renewalEvent lease)) ∧
      ∀ next : RenewalLoop, next.first = loop.first → next.lease = lease →
        L (log ++ [(time, .accepted reply lease)] ++ [(time, .event (Client.renewalEvent lease))]) next

/-- `Q` holds of each output in the log. -/
def LogOf (Q : ClientLog → ClientOutput → Prop) (log : ClientLog) : Prop :=
  ∀ before time output after, log = before ++ (time, output) :: after → Q before output

/-- The log and the loop of a state in which `Q` and `L` hold so far. -/
structure PutOut (Q : ClientLog → ClientOutput → Prop) (L : ClientLog → RenewalLoop → Prop)
    (state : ClientState) : Prop where
  log : LogOf Q state.log
  loop : ∀ loop, state.point.loop = some loop → L state.log loop

variable {client : Client} {Q : ClientLog → ClientOutput → Prop}
  {L : ClientLog → RenewalLoop → Prop} {state : ClientState} {input : ClientInput}
  {loop : RenewalLoop} {xid : Xid} {rt : Nat} {msg : Message}

namespace LogOf

theorem nil : LogOf Q [] := by
  intro before time output after hLog
  simp at hLog

/-- A log grows by one output that is right for what was before it. -/
theorem append {log : ClientLog} {time : Instant} {output : ClientOutput} (h : LogOf Q log)
    (hOutput : Q log output) : LogOf Q (log ++ [(time, output)]) := by
  intro before time' output' after hLog
  cases List.eq_nil_or_concat after with
  | inl hNil =>
      subst hNil
      obtain ⟨hBefore, hLast⟩ := List.append_inj' hLog rfl
      subst hBefore
      cases hLast
      exact hOutput
  | inr hConcat =>
      obtain ⟨rest, last, rfl⟩ := hConcat
      rw [List.concat_eq_append, ← List.cons_append, ← List.append_assoc] at hLog
      exact h before time' output' rest (List.append_inj' hLog rfl).1

theorem last {log : ClientLog} {time : Instant} {output : ClientOutput} (h : LogOf Q log)
    (hLast : log.getLast? = some (time, output)) : Q log.dropLast output := by
  obtain ⟨before, rfl⟩ := List.getLast?_eq_some_iff.mp hLast
  rw [List.dropLast_concat]
  exact h before time output [] rfl

theorem emit {output : ClientOutput} (h : LogOf Q state.log) (hOutput : Q state.log output) :
    LogOf Q (state.emit output).log := h.append hOutput

theorem outside {point : ClientPoint} (h : LogOf Q state.log) (hPoint : point.loop = none) :
    PutOut Q L (state.goto point) where
  log := h
  loop loop hLoop := by
    change point.loop = some loop at hLoop
    rw [hPoint] at hLoop
    cases hLoop

/-- Going on inside the loop, whose values are right for the log. -/
theorem inside {point : ClientPoint} (h : LogOf Q state.log) (hPoint : point.loop = some loop)
    (hLoop : L state.log loop) : PutOut Q L (state.goto point) where
  log := h
  loop loop' hLoop' := by
    change point.loop = some loop' at hLoop'
    rw [hPoint] at hLoop'
    cases hLoop'
    exact hLoop

end LogOf

namespace Outputs

variable (hOutputs : Outputs client Q L)
include hOutputs

theorem solicit_putOut (h : LogOf Q state.log) : PutOut Q L (client.solicit state input xid rt) := by
  rcases Client.solicit_cases client state with hFailed | hSent
  · rw [hFailed]
    exact h.outside rfl
  · rw [hSent]
    exact (h.emit (hOutputs.solicit _ xid)).outside rfl

theorem startExchange_putOut (h : LogOf Q state.log) : PutOut Q L (client.startExchange state input) := by
  rcases Client.startExchange_cases client state with hStopped | hSolicit
  · rw [hStopped]
    exact h.outside rfl
  · rw [hSolicit]
    exact hOutputs.solicit_putOut h

theorem request_putOut {serverDuid : List U8} {iaPd : IaPd} (h : LogOf Q state.log) :
    PutOut Q L (client.request state input xid serverDuid iaPd) := by
  rcases Client.request_cases client state with hFailed | hSent
  · rw [hFailed]
    exact h.outside rfl
  · rw [hSent]
    exact (h.emit (hOutputs.request _ serverDuid iaPd xid)).outside rfl

theorem advertised_putOut (h : LogOf Q state.log) : PutOut Q L (client.advertised state input msg) := by
  rcases Client.advertised_cases client state with hFailed | ⟨serverDuid, iaPd, hRequest⟩
  · rw [hFailed]
    exact h.outside rfl
  · rw [hRequest]
    exact hOutputs.request_putOut h

theorem leaseExpired_putOut (h : LogOf Q state.log) : PutOut Q L (client.leaseExpired state input) :=
  hOutputs.startExchange_putOut (h.emit (hOutputs.expired _))

theorem rebindPass_putOut (h : LogOf Q state.log) (hLoop : L state.log loop) :
    PutOut Q L (client.rebindPass state input loop xid rt) := by
  rcases Client.rebindPass_cases client state with ⟨-, hEnd⟩ | ⟨-, hSent⟩
  · rw [hEnd]
    exact hOutputs.leaseExpired_putOut h
  · rw [hSent]
    exact (h.emit (hOutputs.rebind _ loop xid hLoop)).inside rfl (hOutputs.sent _ _ _ _ loop hLoop)

theorem startRebind_putOut (h : LogOf Q state.log) (hLoop : L state.log loop) :
    PutOut Q L (client.startRebind state input loop) :=
  hOutputs.rebindPass_putOut h hLoop

/-- A pass puts out one Renew at most. -/
theorem renewPass_putOut (h : LogOf Q state.log) (hLoop : L state.log loop) :
    PutOut Q L (client.renewPass state input loop xid) := by
  rcases Client.renewPass_cases client state with ⟨-, hEnd⟩ | ⟨-, hRebind⟩ | ⟨-, -, hSent⟩
  · rw [hEnd]
    exact hOutputs.leaseExpired_putOut h
  · rw [hRebind]
    exact hOutputs.startRebind_putOut h hLoop
  · rw [hSent]
    exact (h.emit (hOutputs.renew _ loop xid hLoop)).inside rfl (hOutputs.sent _ _ _ _ loop hLoop)

theorem startRenew_putOut (h : LogOf Q state.log) (hLoop : L state.log loop) :
    PutOut Q L (client.startRenew state input loop) :=
  hOutputs.renewPass_putOut h hLoop

/-- The Release of the first lease. -/
theorem release_putOut (h : LogOf Q state.log) (hLoop : L state.log loop) :
    PutOut Q L (client.release state loop) := by
  have hDrawn : LogOf Q (client.newXid state).2.log := h
  rcases Client.release_cases client state with hStopped | hSent
  · rw [hStopped]
    exact hDrawn.outside rfl
  · rw [hSent]
    exact (hDrawn.emit (hOutputs.release _ loop _ hLoop)).outside rfl

omit hOutputs in
/-- A lease panics or leads to the wait for its T1. -/
theorem startLoop_putOut {first lease : LeaseInfo} {serverDuid : List U8}
    {serverUnicast : Option Ipv6Addr} (h : LogOf Q state.log)
    (hNext : ∀ loop : RenewalLoop, loop.first = first → loop.lease = lease → L state.log loop) :
    PutOut Q L (Client.startLoop state first lease serverDuid serverUnicast) := by
  rcases Client.startLoop_cases state with hPanic | ⟨loop, hFirst, hLease, -, -, -, hStart⟩
  · rw [hPanic]
    exact h.outside rfl
  · rw [hStart]
    exact h.inside rfl (hNext loop hFirst hLease)

/-- The Reply and its event, or nothing. -/
theorem granted_putOut {serverDuid : List U8} (h : LogOf Q state.log) :
    PutOut Q L (client.granted state input msg serverDuid) := by
  rcases Client.granted_cases client state with hFailed | ⟨data, lease, hEncode, hProcess, hEnd⟩
  · rw [hFailed]
    exact h.outside rfl
  · obtain ⟨hAccepted, hEvent, hNext⟩ :=
      hOutputs.granted state.log state.now msg data serverDuid lease hEncode hProcess
    have hLog : LogOf Q (Client.accept state msg lease (Client.initialEvent lease)).log :=
      (h.emit hAccepted).emit hEvent
    rcases hEnd with hStopped | hStart
    · rw [hStopped]
      exact hLog.outside rfl
    · rw [hStart]
      exact startLoop_putOut hLog hNext

/-- The same within the loop. -/
theorem renewed_putOut {notEncoded notAccepted : ClientState} (h : LogOf Q state.log) (hLoop : L state.log loop)
    (hNotEncoded : PutOut Q L notEncoded) (hNotAccepted : PutOut Q L notAccepted) :
    PutOut Q L (client.renewed state loop msg notEncoded notAccepted) := by
  rcases Client.renewed_cases client state with
    hEnd | hEnd | ⟨data, lease, hEncode, hProcess, hStart⟩
  · rw [hEnd]
    exact hNotEncoded
  · rw [hEnd]
    exact hNotAccepted
  · obtain ⟨hAccepted, hEvent, hNext⟩ :=
      hOutputs.renewed state.log state.now loop msg data lease hLoop hEncode hProcess
    rw [hStart]
    exact startLoop_putOut ((h.emit hAccepted).emit hEvent) hNext

/-- One step of the client keeps `Q` and `L`. -/
theorem resume_putOut {next : ClientState} (h : PutOut Q L state)
    (hResume : client.resume state input = some next) : PutOut Q L next := by
  have hLog : LogOf Q (Client.atTime state input.time).log := h.log
  have hLoop := h.loop
  have hNext := Client.resume_cases hResume
  obtain ⟨now, point, drawn, log⟩ := state
  cases point with
  | solicit xid rt since =>
      rcases hNext with ⟨msg, rfl⟩ | ⟨rt, rfl⟩ | rfl | rfl
      · exact hOutputs.advertised_putOut hLog
      · exact hOutputs.solicit_putOut hLog
      · exact hLog.outside rfl
      · exact hLog.outside rfl
  | request xid serverDuid iaPd wakeAt =>
      rcases hNext with ⟨data, msg, -, -, rfl⟩ | rfl | rfl | rfl
      · exact hOutputs.granted_putOut hLog
      · exact hOutputs.request_putOut hLog
      · exact hLog.outside rfl
      · exact hLog.outside rfl
  | retry wakeAt =>
      rcases hNext with rfl | rfl
      · exact hOutputs.startExchange_putOut hLog
      · exact hLog.outside rfl
  | untilT1 loop =>
      rcases hNext with ⟨-, rfl⟩ | ⟨-, rfl⟩
      · exact hOutputs.startRenew_putOut hLog (hLoop loop rfl)
      · exact hOutputs.release_putOut hLog (hLoop loop rfl)
  | renew loop xid wakeAt =>
      rcases hNext with ⟨data, msg, -, -, rfl⟩ | rfl | ⟨-, rfl⟩ | ⟨-, rfl⟩
      · exact hOutputs.renewed_putOut hLog (hLoop loop rfl)
          (hOutputs.startRebind_putOut hLog (hLoop loop rfl))
          (hOutputs.renewPass_putOut hLog (hLoop loop rfl))
      · exact hOutputs.renewPass_putOut hLog (hLoop loop rfl)
      · exact hOutputs.startRebind_putOut hLog (hLoop loop rfl)
      · exact hOutputs.release_putOut hLog (hLoop loop rfl)
  | rebind loop xid rt wakeAt =>
      rcases hNext with ⟨data, msg, -, -, rfl⟩ | ⟨rt, rfl⟩ | ⟨-, rfl⟩ | ⟨-, rfl⟩
      · exact hOutputs.renewed_putOut hLog (hLoop loop rfl) (hOutputs.leaseExpired_putOut hLog)
          (hOutputs.rebindPass_putOut hLog (hLoop loop rfl))
      · exact hOutputs.rebindPass_putOut hLog (hLoop loop rfl)
      · exact hOutputs.leaseExpired_putOut hLog
      · exact hOutputs.release_putOut hLog (hLoop loop rfl)
  | stopped => exact hNext.elim
  | panicked => exact hNext.elim

/-- `Q` holds of all outputs of a run. -/
theorem run_putOut {Allowed : ClientState → ClientInput → Prop} {now : Instant} {first : ClientInput}
    {inputs : List ClientInput} {finish : ClientState}
    (run : Run client.resume Allowed (client.start now first) inputs finish) : PutOut Q L finish := by
  have hStart : PutOut Q L (client.start now first) :=
    hOutputs.startExchange_putOut LogOf.nil
  exact run.invariant (fun _ _ _ h _ hResume => hOutputs.resume_putOut h hResume) hStart

end Outputs

end Mapecd
