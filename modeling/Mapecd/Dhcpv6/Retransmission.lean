import Mapecd.Dhcpv6.ServerIdentity

/-! How often the client sends while it waits for an answer. -/
namespace Mapecd

open Checked Runs

/-- The loops that send a message and wait for the answer. -/
inductive SendLoop where
  | solicit
  | request
  | renew
  | rebind
deriving DecidableEq, Repr

/-- The loop that a point belongs to. -/
def ClientPoint.sendLoop : ClientPoint → Option SendLoop
  | .solicit _ _ _ => some .solicit
  | .request _ _ _ _ => some .request
  | .renew _ _ _ => some .renew
  | .rebind _ _ _ _ => some .rebind
  | _ => none

namespace ClientLog

/-- The number of messages sent. -/
def transmissions (log : ClientLog) : Nat :=
  log.countP fun entry => match entry.2 with
    | .sent _ _ => true
    | _ => false

theorem transmissions_append (log : ClientLog) (time : Instant) (output : ClientOutput) :
    transmissions (log ++ [(time, output)]) =
      match output with
      | .sent _ _ => transmissions log + 1
      | _ => transmissions log := by
  cases output <;> simp [transmissions]

end ClientLog

/-- Number of waits that ended with the timeout. -/
def timeouts (inputs : List ClientInput) : Nat :=
  inputs.countP fun input => input.event = .timeout

namespace Client

variable {client : Client} {state next : ClientState} {input : ClientInput} {loop : RenewalLoop}
  {xid : Xid} {rt : Nat} {msg : Message}

/-- On the way to a wait for an answer one message is sent. -/
def SendsOne (log : ClientLog) (next : ClientState) : Prop :=
  next.point.sendLoop ≠ none → ClientLog.transmissions next.log = ClientLog.transmissions log + 1

section Segments

theorem SendsOne.elsewhere {log : ClientLog} {point : ClientPoint} (h : point.sendLoop = none) :
    SendsOne log (state.goto point) :=
  fun hLoop => absurd h hLoop

theorem SendsOne.sent {msg : Message} {dst : Destination} {point : ClientPoint} :
    SendsOne state.log ((state.emit (.sent msg dst)).goto point) :=
  fun _ => ClientLog.transmissions_append _ _ _

theorem solicit_sendsOne : SendsOne state.log (client.solicit state input xid rt) := by
  rcases solicit_cases client state with hFailed | hSent
  · rw [hFailed]
    exact SendsOne.elsewhere rfl
  · rw [hSent]
    exact SendsOne.sent

theorem startExchange_sendsOne : SendsOne state.log (client.startExchange state input) := by
  rcases startExchange_cases client state with hStopped | hSolicit
  · rw [hStopped]
    exact SendsOne.elsewhere rfl
  · rw [hSolicit]
    exact solicit_sendsOne

theorem request_sendsOne {serverDuid : List U8} {iaPd : IaPd} :
    SendsOne state.log (client.request state input xid serverDuid iaPd) := by
  rcases request_cases client state with hFailed | hSent
  · rw [hFailed]
    exact SendsOne.elsewhere rfl
  · rw [hSent]
    exact SendsOne.sent

theorem advertised_sendsOne : SendsOne state.log (client.advertised state input msg) := by
  rcases advertised_cases client state with hFailed | ⟨serverDuid, iaPd, hRequest⟩
  · rw [hFailed]
    exact SendsOne.elsewhere rfl
  · rw [hRequest]
    exact request_sendsOne

/-- Back to the start, with one Solicit. -/
theorem leaseExpired_sendsOne : SendsOne state.log (client.leaseExpired state input) := by
  intro hLoop
  have hSends : SendsOne (state.emit .expired).log
      (client.startExchange (state.emit .expired) input) := startExchange_sendsOne
  have hOne := hSends hLoop
  have hExpired : ClientLog.transmissions (state.emit .expired).log =
      ClientLog.transmissions state.log := ClientLog.transmissions_append _ _ _
  rw [hExpired] at hOne
  exact hOne

theorem rebindPass_sendsOne : SendsOne state.log (client.rebindPass state input loop xid rt) := by
  rcases rebindPass_cases client state with ⟨-, hEnd⟩ | ⟨-, hSent⟩
  · rw [hEnd]
    exact leaseExpired_sendsOne
  · rw [hSent]
    exact SendsOne.sent

theorem startRebind_sendsOne : SendsOne state.log (client.startRebind state input loop) :=
  rebindPass_sendsOne

/-- One Renew, or what leads out of the loop. -/
theorem renewPass_sendsOne : SendsOne state.log (client.renewPass state input loop xid) := by
  rcases renewPass_cases client state with ⟨-, hEnd⟩ | ⟨-, hRebind⟩ | ⟨-, -, hSent⟩
  · rw [hEnd]
    exact leaseExpired_sendsOne
  · rw [hRebind]
    exact startRebind_sendsOne
  · rw [hSent]
    exact SendsOne.sent

theorem startRenew_sendsOne : SendsOne state.log (client.startRenew state input loop) :=
  renewPass_sendsOne

theorem release_sendsOne : SendsOne state.log (client.release state loop) := by
  rcases release_cases client state with hStopped | hSent
  · rw [hStopped]
    exact SendsOne.elsewhere rfl
  · rw [hSent]
    exact SendsOne.elsewhere rfl

theorem startLoop_sendsOne {log : ClientLog} {first lease : LeaseInfo} {serverDuid : List U8}
    {serverUnicast : Option Ipv6Addr} :
    SendsOne log (startLoop state first lease serverDuid serverUnicast) := by
  rcases startLoop_cases state with hPanic | ⟨loop, -, -, -, -, -, hStart⟩
  · rw [hPanic]
    exact SendsOne.elsewhere rfl
  · rw [hStart]
    exact SendsOne.elsewhere rfl

theorem granted_sendsOne {serverDuid : List U8} :
    SendsOne state.log (client.granted state input msg serverDuid) := by
  rcases granted_cases client state with hFailed | ⟨data, lease, -, -, hStopped | hStart⟩
  · rw [hFailed]
    exact SendsOne.elsewhere rfl
  · rw [hStopped]
    exact SendsOne.elsewhere rfl
  · rw [hStart]
    exact startLoop_sendsOne

theorem renewed_sendsOne {log : ClientLog} {notEncoded notAccepted : ClientState}
    (hNotEncoded : SendsOne log notEncoded) (hNotAccepted : SendsOne log notAccepted) :
    SendsOne log (client.renewed state loop msg notEncoded notAccepted) := by
  rcases renewed_cases client state with hEnd | hEnd | ⟨data, lease, -, -, hStart⟩
  · rw [hEnd]
    exact hNotEncoded
  · rw [hEnd]
    exact hNotAccepted
  · rw [hStart]
    exact startLoop_sendsOne

end Segments

/-- One step, whatever the client waited for. -/
theorem resume_sendsOne (hResume : client.resume state input = some next) :
    SendsOne state.log next := by
  have hNext := resume_cases hResume
  obtain ⟨now, point, drawn, log⟩ := state
  cases point with
  | solicit xid rt since =>
      rcases hNext with ⟨msg, rfl⟩ | ⟨rt, rfl⟩ | rfl | rfl
      · exact advertised_sendsOne
      · exact solicit_sendsOne
      · exact SendsOne.elsewhere rfl
      · exact SendsOne.elsewhere rfl
  | request xid serverDuid iaPd wakeAt =>
      rcases hNext with ⟨data, msg, -, -, rfl⟩ | rfl | rfl | rfl
      · exact granted_sendsOne
      · exact request_sendsOne
      · exact SendsOne.elsewhere rfl
      · exact SendsOne.elsewhere rfl
  | retry wakeAt =>
      rcases hNext with rfl | rfl
      · exact startExchange_sendsOne
      · exact SendsOne.elsewhere rfl
  | untilT1 loop =>
      rcases hNext with ⟨-, rfl⟩ | ⟨-, rfl⟩
      · exact startRenew_sendsOne
      · exact release_sendsOne
  | renew loop xid wakeAt =>
      rcases hNext with ⟨data, msg, -, -, rfl⟩ | rfl | ⟨-, rfl⟩ | ⟨-, rfl⟩
      · exact renewed_sendsOne startRebind_sendsOne renewPass_sendsOne
      · exact renewPass_sendsOne
      · exact startRebind_sendsOne
      · exact release_sendsOne
  | rebind loop xid rt wakeAt =>
      rcases hNext with ⟨data, msg, -, -, rfl⟩ | ⟨rt, rfl⟩ | ⟨-, rfl⟩ | ⟨-, rfl⟩
      · exact renewed_sendsOne leaseExpired_sendsOne rebindPass_sendsOne
      · exact rebindPass_sendsOne
      · exact leaseExpired_sendsOne
      · exact release_sendsOne
  | stopped => exact hNext.elim
  | panicked => exact hNext.elim

/-- A step that stays in the loop. -/
def resumeIn (client : Client) (sendLoop : SendLoop) (state : ClientState) (input : ClientInput) :
    Option ClientState :=
  (client.resume state input).filter fun next => next.point.sendLoop = some sendLoop

end Client

/-- The client comes into the loop, with its first message. The log is the one before. -/
inductive Enters (client : Client) (sendLoop : SendLoop) : ClientLog → ClientState → Prop where
  | start (now : Instant) (input : ClientInput)
      (inside : (client.start now input).point.sendLoop = some sendLoop) :
      Enters client sendLoop [] (client.start now input)
  | resume {prior next : ClientState} {input : ClientInput}
      (outside : prior.point.sendLoop ≠ some sendLoop)
      (last : client.resume prior input = some next)
      (inside : next.point.sendLoop = some sendLoop) : Enters client sendLoop prior.log next

variable {client : Client} {sendLoop : SendLoop} {before : ClientLog} {start finish : ClientState}
  {inputs : List ClientInput}

theorem Enters.transmissions (h : Enters client sendLoop before start) :
    ClientLog.transmissions start.log = ClientLog.transmissions before + 1 := by
  cases h with
  | start now input inside =>
      exact Client.startExchange_sendsOne (by rw [Client.start] at inside; simp [inside])
  | resume outside last inside =>
      exact Client.resume_sendsOne last (by simp [inside])

/-- Every pass of a loop sends, whatever has ended the wait. -/
theorem transmissions_eq (hEnters : Enters client sendLoop before start)
    (run : Run (client.resumeIn sendLoop) Free start inputs finish) :
    ClientLog.transmissions finish.log = ClientLog.transmissions before + 1 + inputs.length := by
  induction run with
  | nil => exact hEnters.transmissions
  | snoc prior allowed last ih =>
      obtain ⟨hResume, hInside⟩ := Option.filter_eq_some_iff.mp last
      have hOne := Client.resume_sendsOne hResume (by simp [of_decide_eq_true hInside])
      rw [hOne, ih, List.length_append]
      rfl

/-- The transmissions of a loop are paced by its timeouts exactly as long as every
wait that does not end the loop ends with the timeout. -/
theorem transmissions_paced_iff (hEnters : Enters client sendLoop before start)
    (run : Run (client.resumeIn sendLoop) Free start inputs finish) :
    ClientLog.transmissions finish.log ≤ ClientLog.transmissions before + (1 + timeouts inputs) ↔
      ∀ input ∈ inputs, input.event = .timeout := by
  have hLength : timeouts inputs ≤ inputs.length := List.countP_le_length
  have hAll : timeouts inputs = inputs.length ↔ ∀ input ∈ inputs, input.event = .timeout := by
    simp [timeouts, List.countP_eq_length]
  rw [transmissions_eq hEnters run, ← hAll]
  omega

section Examples

/-- A second and another two seconds without an answer to the Solicit. -/
def unansweredSolicit : List ClientInput := [inputAt 2 .timeout, inputAt 4 .timeout]

/-- Solicits that nobody answers. -/
theorem transmissions_paced_unanswered : ∃ finish,
    Run (testClient.resumeIn .solicit) Free (testClient.start second (inputAt 1 .timeout))
      unansweredSolicit finish ∧
    ClientLog.transmissions finish.log ≤ ClientLog.transmissions [] + (1 + timeouts unansweredSolicit) := by
  have hEval : (runAll (guarded (testClient.resumeIn .solicit) Free) unansweredSolicit
      (testClient.start second (inputAt 1 .timeout))).isSome := by
    decide +kernel
  obtain ⟨finish, hFinish⟩ := Option.isSome_iff_exists.mp hEval
  have run := Run.of_runAll hFinish
  exact ⟨finish, run, (transmissions_paced_iff (.start _ _ (by decide +kernel)) run).mpr (by decide)⟩

/-- An empty datagram makes the client send the Solicit again at once. -/
theorem transmissions_unpaced : ∃ finish,
    Run (testClient.resumeIn .solicit) Free (testClient.start second (inputAt 1 .timeout))
      [inputAt 1 (.received [])] finish ∧
    ¬ ClientLog.transmissions finish.log ≤
      ClientLog.transmissions [] + (1 + timeouts [inputAt 1 (.received [])]) := by
  have hEval : (runAll (guarded (testClient.resumeIn .solicit) Free) [inputAt 1 (.received [])]
      (testClient.start second (inputAt 1 .timeout))).map (fun state =>
        ClientLog.transmissions state.log) = some 2 := by
    decide +kernel
  obtain ⟨finish, hFinish, hTwo⟩ := Option.map_eq_some_iff.mp hEval
  refine ⟨finish, Run.of_runAll hFinish, ?_⟩
  rw [hTwo]
  decide

end Examples

end Mapecd
