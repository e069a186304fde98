import Mapecd.Daemon.AllOrNothing
import Mapecd.Dhcpv6.LeaseFollowing

/-! From the lease file to the daemon: the prefix that it has once all is quiet. -/
namespace Mapecd

open Effects Runs LeaseState

/-- What an event of the watcher carries. -/
def DaemonEvent.leaseIaPd : DaemonEvent → Option Ipv6Net
  | .lease iaPd => some iaPd
  | _ => none

section Daemon

variable {config : Config} {w : DaemonWorld} {iaPd : Ipv6Net}

/-- A prefix that is not ignored is pending behind the event, whatever failed. -/
theorem wp_handleIaPd_pending (hw : w.state.AllOrNone)
    (hValid : config.useV6plusStaticRules = true → isValidIaPdForStaticRules iaPd = true) :
    wp (handleIaPd config iaPd) (fun _ w' => w'.state.pendingIaPd = some iaPd)
      (fun f _ => f = .panic) w := by
  have hAccepted : (config.useV6plusStaticRules && !isValidIaPdForStaticRules iaPd) = false := by
    cases hStatic : config.useV6plusStaticRules with
    | true => rw [hValid hStatic]; rfl
    | false => rfl
  simp only [handleIaPd, hAccepted, Bool.false_eq_true, if_false, setPendingIaPd, wp_bind,
    wp_modifyState]
  apply wp_applyIfReady_state
  · exact hw.withPending w.state.pendingMapRules (some iaPd)
  · exact fun w' _ hInputs => congrArg Prod.snd hInputs
  · rfl

/-- The prefix of the last event stays, unless the daemon panics. -/
theorem wp_run_lease (events : List DaemonEvent) (hw : w.state.AllOrNone)
    (hValid : config.useV6plusStaticRules = true → isValidIaPdForStaticRules iaPd = true) :
    wp (run config (events ++ [.lease iaPd])) (fun _ w' => w'.state.pendingIaPd = some iaPd)
      (fun f _ => f = .panic) w := by
  have hSplit : run config (events ++ [.lease iaPd]) =
      run config events >>= fun _ => handleIaPd config iaPd := by
    simp [run, List.forM_eq_forM, List.forM_append, List.forM_cons, handleEvent]
  rw [hSplit, wp_bind]
  apply wp_mono (wp_run_state events hw) _ fun _ _ h => h.1
  exact fun _ w' hAllOrNone => wp_handleIaPd_pending hAllOrNone hValid

end Daemon

/-- Once the watch is there and the initial prefix has been sent, a change of the
file that is announced in a queue with room is never missed: when the writers have
closed the file and all is quiet, the last prefix behind the channel is that of the
file. If it was also the last event of the daemon, the daemon goes on with it. -/
theorem lease_reaches_daemon (setup : LeaseSetup) (config : Config) {s t : LeaseState}
    {actions : List LeaseAction} (hLive : s.Live)
    (run : Run (LeaseState.step setup) (HasRoom setup) s actions t)
    (hNotified : ∃ action ∈ actions, action.Notifies) (hQuiet : t.Quiet) (hWriters : t.writers = 0)
    {iaPd : Ipv6Net} (hParse : setup.parseLeaseFile t.file = some iaPd) :
    t.received.getLast? = some iaPd ∧
    ∀ (events : List DaemonEvent) (kernel : Kernel) (faults : Nat → Option Errno)
      (rules : Option (List MapRule)), events.filterMap DaemonEvent.leaseIaPd = t.received →
      (∃ before last, events = before ++ [.lease last]) →
      (config.useV6plusStaticRules = true → isValidIaPdForStaticRules iaPd = true) →
      wp (Mapecd.run config events) (fun _ w' => w'.state.pendingIaPd = some iaPd)
        (fun f _ => f = .panic) (initialWorld kernel faults rules) := by
  have hLast : t.received.getLast? = some iaPd := by
    rcases fresh_of_run hLive run with hOver | ⟨-, hFresh⟩
    · exact absurd hOver hQuiet.not_over
    · exact hQuiet.last hWriters (hFresh hNotified) hParse
  refine ⟨hLast, ?_⟩
  rintro events kernel faults rules hEvents ⟨before, last, rfl⟩ hValid
  rw [← hEvents, List.filterMap_append] at hLast
  have hSame : last = iaPd := by
    simpa [DaemonEvent.leaseIaPd] using hLast
  subst hSame
  exact wp_run_lease before (Or.inr ⟨rfl, rfl, rfl, rfl, rfl⟩) hValid

def secondLease : List Char := "ADDRESS=192.0.2.1\nX-DELEGATED-PREFIX=2001:db8:0:100::/56\n".toList

/-- The watch is there, and the event loop has begun with the first lease. -/
def watchedState : LeaseState :=
  { LeaseState.initial (some firstLease) 0 with
    watcher := .waiting
    main := .looping
    received := (Ipv6Net.new 0x20010db8000000000000000000000000 56).toList }

/-- The state after the second lease has taken the place of the first. -/
def followedState : LeaseState :=
  { watchedState with
    file := some secondLease
    received := watchedState.received ++
      (Ipv6Net.new 0x20010db8000001000000000000000000 56).toList }

/-- A lease file that is renamed into its place. -/
theorem lease_reaches_daemon_renamed :
    followedState.received.getLast? = some ⟨0x20010db8000001000000000000000000, 56, by decide⟩ := by
  have hRun : runAll (guarded (LeaseState.step leaseSetup) (HasRoom leaseSetup))
      [.rename (some secondLease) 0 false, .readable, .readEvents 1, .nextEvent,
        .finishRead (some secondLease), .send, .leaveLoop, .receive] watchedState =
      some followedState := by
    decide +kernel
  exact (lease_reaches_daemon leaseSetup Config.contrib ⟨rfl, by decide, by decide⟩
    (Run.of_runAll hRun) ⟨_, List.mem_cons_self, trivial⟩ ⟨rfl, rfl, rfl, rfl⟩ rfl
    (by decide +kernel)).1

/-- A change between the first look at the file and the watch is missed. The two
are steps of different tasks, so their order is not that of the source. -/
example : runAll (LeaseState.step leaseSetup)
    [.openInitial, .finishInitial (some firstLease), .rename (some secondLease) 0 false, .addWatch,
      .sendInitial, .receive] (LeaseState.initial (some firstLease) 0) =
    some { watchedState with file := some secondLease } := by
  decide +kernel

end Mapecd
