import Mapecd.Dhcpv6.LeaseWatcher

/-! What the event loop has got to know of the lease file, however the writer, the
watcher and the event loop take turns. -/
namespace Mapecd

open Runs

/-- The watch is there. -/
def WatcherStage.Running (stage : WatcherStage) : Prop := stage ≠ .starting ∧ stage ≠ .stopped

theorem WatcherStage.Running.tear {stage : WatcherStage} (h : stage.Running) :
    stage.tear.Running := by
  cases stage with
  | reading torn events => exact ⟨by simp [WatcherStage.tear], by simp [WatcherStage.tear]⟩
  | _ => exact h

/-- A close and a rename leave an event behind. -/
def LeaseAction.Notifies : LeaseAction → Prop
  | .closeWrite _ | .rename _ _ _ => True
  | _ => False

/-- The steps of the watcher and of `start_linux` that end no party. -/
def LeaseAction.Drains : LeaseAction → Prop
  | .readable | .readEvents _ | .leaveLoop | .nextEvent | .finishRead _ | .send | .sendInitial
  | .receive => True
  | _ => False

namespace LeaseState

variable {setup : LeaseSetup} {s t : LeaseState} {action : LeaseAction} {merge : Bool}
  {event : InotifyEvent}

/-- The watch is there, and the initial prefix has been sent. -/
structure Live (s : LeaseState) : Prop where
  main : s.main = .looping
  running : s.watcher.Running

def Over (s : LeaseState) : Prop := s.main = .stopped ∨ s.watcher = .stopped

/-- An event for the lease file is still to be handled. -/
def Pending (setup : LeaseSetup) (s : LeaseState) : Prop :=
  ∃ event ∈ s.queue ++ s.watcher.events, event.name = some setup.targetName

/-- The prefix of the file is in the hands of the watcher, or the last one behind it. -/
def Carried (setup : LeaseSetup) (s : LeaseState) : Prop :=
  match s.watcher with
  | .reading torn _ => torn = false
  | .sending iaPd _ => setup.parseLeaseFile s.file = some iaPd
  | _ => setup.parseLeaseFile s.file = (s.received ++ s.channel).getLast?

/-- The prefix of the file will not be missed. -/
def Fresh (setup : LeaseSetup) (s : LeaseState) : Prop :=
  0 < s.writers ∨ s.Pending setup ∨ setup.parseLeaseFile s.file = none ∨ s.Carried setup

section Notify

/-- A merged or dropped event leaves the queue as it is. -/
theorem mem_enqueue_of_mem {queue : List InotifyEvent} {other : InotifyEvent} (h : other ∈ queue) :
    other ∈ enqueue setup merge event queue := by
  unfold enqueue
  split_ifs
  · exact h
  · exact List.mem_append_left _ h
  · exact h
  · exact List.mem_append_left _ h

/-- A queue with room takes the event, or has it already. -/
theorem mem_enqueue {queue : List InotifyEvent} (h : queue.length < setup.maxQueuedEvents) :
    event ∈ enqueue setup merge event queue := by
  unfold enqueue
  split_ifs with hMerge
  · exact List.mem_of_getLast? hMerge.2
  · exact List.mem_append_right _ List.mem_cons_self

@[simp] theorem notify_file : (notify setup merge event s).file = s.file := by
  unfold notify
  split_ifs <;> rfl

@[simp] theorem notify_writers : (notify setup merge event s).writers = s.writers := by
  unfold notify
  split_ifs <;> rfl

@[simp] theorem notify_watcher : (notify setup merge event s).watcher = s.watcher := by
  unfold notify
  split_ifs <;> rfl

@[simp] theorem notify_main : (notify setup merge event s).main = s.main := by
  unfold notify
  split_ifs <;> rfl

@[simp] theorem notify_channel : (notify setup merge event s).channel = s.channel := by
  unfold notify
  split_ifs <;> rfl

@[simp] theorem notify_received : (notify setup merge event s).received = s.received := by
  unfold notify
  split_ifs <;> rfl

theorem Live.notify (h : s.Live) : (notify setup merge event s).Live :=
  ⟨by rw [notify_main, h.main], by rw [notify_watcher]; exact h.running⟩

/-- What is pending stays so while the queue takes events. -/
theorem Pending.notify (h : s.Pending setup) : (notify setup merge event s).Pending setup := by
  obtain ⟨other, hMem, hName⟩ := h
  refine ⟨other, ?_, hName⟩
  rw [notify_watcher]
  rcases List.mem_append.mp hMem with hQueue | hEvents
  · refine List.mem_append_left _ ?_
    unfold LeaseState.notify
    split_ifs
    · exact hQueue
    · exact mem_enqueue_of_mem hQueue
  · exact List.mem_append_right _ hEvents

/-- With the watch in place and room in the queue an event for the file stays. -/
theorem pending_notify (hRunning : s.watcher.Running)
    (hRoom : s.queue.length < setup.maxQueuedEvents) (hName : event.name = some setup.targetName) :
    (notify setup merge event s).Pending setup := by
  refine ⟨event, List.mem_append_left _ ?_, hName⟩
  rw [notify, if_neg (not_or.mpr hRunning)]
  exact mem_enqueue hRoom

/-- The same for what is under way. -/
theorem Fresh.notify (h : s.Fresh setup) : (notify setup merge event s).Fresh setup := by
  rcases h with hWriters | hPending | hNone | hCarried
  · exact .inl (by rwa [notify_writers])
  · exact .inr (.inl hPending.notify)
  · exact .inr (.inr (.inl (by rwa [notify_file])))
  · refine .inr (.inr (.inr ?_))
    rw [Carried, notify_watcher, notify_file, notify_channel, notify_received]
    exact hCarried

end Notify

theorem Live.change (content : Option (List Char)) (h : s.Live) : (s.change content).Live := by
  refine ⟨?_, h.running.tear⟩
  change s.main.tear = .looping
  rw [h.main]
  rfl

/-- Whatever is done to the file, the watcher will learn of it. -/
theorem fresh_stepWriter (hLive : s.Live) (hRoom : s.queue.length < setup.maxQueuedEvents)
    (h : s.stepWriter setup action = some t) :
    t.Live ∧ (s.Fresh setup ∨ action.Notifies → t.Fresh setup) := by
  cases action with
  | openWrite =>
      cases h
      exact ⟨⟨hLive.main, hLive.running⟩, fun _ => .inl (Nat.succ_pos _)⟩
  | write content =>
      rw [stepWriter] at h
      split_ifs at h with hWriters
      cases h
      exact ⟨hLive.change content, fun _ => .inl hWriters⟩
  | closeWrite merge =>
      rw [stepWriter] at h
      split_ifs at h
      cases h
      have hLive' : ({ s with writers := s.writers - 1 } : LeaseState).Live :=
        ⟨hLive.main, hLive.running⟩
      exact ⟨hLive'.notify, fun _ => .inr (.inl (pending_notify hLive.running hRoom rfl))⟩
  | rename content writers merge =>
      cases h
      have hLive' : ({ s.change content with writers := writers } : LeaseState).Live :=
        ⟨(hLive.change content).main, (hLive.change content).running⟩
      exact ⟨hLive'.notify, fun _ => .inr (.inl (pending_notify hLive'.running hRoom rfl))⟩
  | remove =>
      cases h
      exact ⟨⟨(hLive.change none).main, (hLive.change none).running⟩,
        fun _ => .inr (.inr (.inl rfl))⟩
  | touch event merge =>
      cases h
      exact ⟨hLive.notify, fun hFresh => (hFresh.resolve_right id).notify⟩
  | _ => cases h

/-- A step that leaves the file alone has to keep what is pending or carried. -/
theorem Fresh.step (h : s.Fresh setup) (hWriters : t.writers = s.writers) (hFile : t.file = s.file)
    (hPending : s.Pending setup → t.Pending setup ∨ t.Carried setup)
    (hCarried : s.Carried setup → setup.parseLeaseFile s.file = none ∨ t.Carried setup) :
    t.Fresh setup := by
  rcases h with hOpen | h | hNone | h
  · exact .inl (hWriters ▸ hOpen)
  · rcases hPending h with h | h
    · exact .inr (.inl h)
    · exact .inr (.inr (.inr h))
  · exact .inr (.inr (.inl (hFile ▸ hNone)))
  · rcases hCarried h with h | h
    · exact .inr (.inr (.inl (hFile ▸ h)))
    · exact .inr (.inr (.inr h))

/-- The watcher hands on what it finds before it forgets the event. -/
theorem fresh_stepWatcher (hLive : s.Live) (h : s.stepWatcher setup action = some t) :
    t.Over ∨ t.Live ∧ (s.Fresh setup → t.Fresh setup) := by
  obtain ⟨hMain, hStarted, hRunning⟩ := hLive
  unfold stepWatcher at h
  split at h
  next hWatcher => exact absurd hWatcher hStarted
  next hWatcher => exact absurd hWatcher hStarted
  next =>
    cases h
    exact .inl (.inr rfl)
  next hWatcher =>
    cases h
    refine .inr ⟨⟨hMain, by simp, by simp⟩, fun hFresh => hFresh.step rfl rfl ?_ ?_⟩
    · simp only [Pending, hWatcher, WatcherStage.events]
      exact .inl
    · simp only [Carried, hWatcher]
      exact .inr
  next count hWatcher =>
    split_ifs at h
    cases h
    refine .inr ⟨⟨hMain, by simp, by simp⟩, fun hFresh => hFresh.step rfl rfl ?_ ?_⟩
    · rintro ⟨event, hMem, hName⟩
      refine .inl ⟨event, ?_, hName⟩
      simp only [hWatcher, WatcherStage.events, List.append_nil] at hMem
      rw [← List.take_append_drop count s.queue] at hMem
      exact List.mem_append.mpr (List.mem_append.mp hMem).symm
    · simp only [Carried, hWatcher]
      exact .inr
  next hWatcher =>
    cases h
    refine .inr ⟨⟨hMain, by simp, by simp⟩, fun hFresh => hFresh.step rfl rfl ?_ ?_⟩
    · simp only [Pending, hWatcher, WatcherStage.events]
      exact .inl
    · simp only [Carried, hWatcher]
      exact .inr
  next event events hWatcher =>
    split_ifs at h with hTarget
    · -- the file is opened for the event, so what is in it now will be read
      cases h
      exact .inr ⟨⟨hMain, by simp, by simp⟩, fun _ => .inr (.inr (.inr rfl))⟩
    · cases h
      refine .inr ⟨⟨hMain, by simp, by simp⟩, fun hFresh => hFresh.step rfl rfl ?_ ?_⟩
      · rintro ⟨other, hMem, hName⟩
        simp only [hWatcher, WatcherStage.events, List.mem_append, List.mem_cons] at hMem
        rcases hMem with hQueue | rfl | hEvents
        · exact .inl ⟨other, List.mem_append_left _ hQueue, hName⟩
        · exact absurd hName hTarget
        · exact .inl ⟨other, List.mem_append_right _ hEvents, hName⟩
      · simp only [Carried, hWatcher]
        exact .inr
  next torn events content hWatcher =>
    split_ifs at h with hRead
    cases hParse : setup.parseLeaseFile content with
    | some iaPd =>
        simp only [hParse] at h
        cases h
        refine .inr ⟨⟨hMain, by simp, by simp⟩, fun hFresh => hFresh.step rfl rfl ?_ ?_⟩
        · simp only [Pending, hWatcher, WatcherStage.events]
          exact .inl
        · simp only [Carried, hWatcher]
          intro hTorn
          rcases hRead with hTrue | rfl
          · exact absurd (hTrue.symm.trans hTorn) (by decide)
          · exact .inr hParse
    | none =>
        simp only [hParse] at h
        cases h
        refine .inr ⟨⟨hMain, by simp, by simp⟩, fun hFresh => hFresh.step rfl rfl ?_ ?_⟩
        · simp only [Pending, hWatcher, WatcherStage.events]
          exact .inl
        · simp only [Carried, hWatcher]
          intro hTorn
          rcases hRead with hTrue | rfl
          · exact absurd (hTrue.symm.trans hTorn) (by decide)
          · exact .inl hParse
  next iaPd events hWatcher =>
    split_ifs at h with hStopped hRoom
    · exact absurd (hMain.symm.trans hStopped) (by simp)
    · cases h
      refine .inr ⟨⟨hMain, by simp, by simp⟩, fun hFresh => hFresh.step rfl rfl ?_ ?_⟩
      · simp only [Pending, hWatcher, WatcherStage.events]
        exact .inl
      · simp only [Carried, hWatcher]
        intro hParse
        exact .inr (by simp [hParse])
  next => cases h

/-- The event loop takes from the channel, in order. -/
theorem fresh_stepMain (hLive : s.Live) (h : s.stepMain setup action = some t) :
    t.Over ∨ t.Live ∧ (s.Fresh setup → t.Fresh setup) := by
  obtain ⟨hMain, hRunning⟩ := hLive
  unfold stepMain at h
  rw [hMain] at h
  split at h
  next hStage => cases hStage
  next hStage => cases hStage
  next hStage => cases hStage
  next hStage => cases hStage
  next =>
    split at h
    next iaPd rest hChannel =>
      cases h
      refine .inr ⟨⟨rfl, hRunning⟩, fun hFresh => hFresh.step rfl rfl .inl fun hCarried => .inr ?_⟩
      have hSame : s.received ++ [iaPd] ++ rest = s.received ++ s.channel := by
        rw [hChannel, List.append_assoc, List.singleton_append]
      simp only [Carried, hSame]
      exact hCarried
    next => cases h
  next =>
    cases h
    exact .inl (.inl rfl)
  next => cases h

/-- A writer leaves the stages as they are, apart from a reader of the file. -/
theorem stepWriter_stages (h : s.stepWriter setup action = some t) :
    (t.main = s.main ∨ t.main = s.main.tear) ∧
      (t.watcher = s.watcher ∨ t.watcher = s.watcher.tear) := by
  cases action with
  | openWrite =>
      cases h
      exact ⟨.inl rfl, .inl rfl⟩
  | write content =>
      rw [stepWriter] at h
      split_ifs at h
      cases h
      exact ⟨.inr rfl, .inr rfl⟩
  | closeWrite merge =>
      rw [stepWriter] at h
      split_ifs at h
      cases h
      exact ⟨.inl notify_main, .inl notify_watcher⟩
  | rename content writers merge =>
      cases h
      exact ⟨.inr notify_main, .inr notify_watcher⟩
  | remove =>
      cases h
      exact ⟨.inr rfl, .inr rfl⟩
  | touch event merge =>
      cases h
      exact ⟨.inl notify_main, .inl notify_watcher⟩
  | _ => cases h

theorem stepWatcher_main (h : s.stepWatcher setup action = some t) : t.main = s.main := by
  unfold stepWatcher at h
  grind

theorem stepMain_watcher (h : s.stepMain setup action = some t) : t.watcher = s.watcher := by
  unfold stepMain at h
  grind

/-- The end of the watcher or of the event loop is final. -/
theorem Over.step (hOver : s.Over) (h : s.step setup action = some t) : t.Over := by
  unfold LeaseState.step at h
  split at h
  · obtain ⟨hMain, hWatcher⟩ := stepWriter_stages h
    rcases hOver with hStopped | hStopped
    · rw [hStopped] at hMain
      exact .inl (hMain.elim id id)
    · rw [hStopped] at hWatcher
      exact .inr (hWatcher.elim id id)
  · rcases hOver with hStopped | hStopped
    · exact .inl ((stepWatcher_main h).trans hStopped)
    · unfold stepWatcher at h
      rw [hStopped] at h
      cases action <;> cases h
  · rcases hOver with hStopped | hStopped
    · unfold stepMain at h
      rw [hStopped] at h
      cases action <;> cases h
      exact .inl rfl
    · exact .inr ((stepMain_watcher h).trans hStopped)

/-- One step: the announced change stays under way until the watcher has read it. -/
theorem fresh_step (hLive : s.Live) (hRoom : s.queue.length < setup.maxQueuedEvents)
    (h : s.step setup action = some t) :
    t.Over ∨ t.Live ∧ (s.Fresh setup ∨ action.Notifies → t.Fresh setup) := by
  have hQuiet (hParty : action.party ≠ .writer) : ¬ action.Notifies := by
    cases action <;> first | exact id | exact absurd rfl hParty
  unfold LeaseState.step at h
  split at h
  next => exact .inr (fresh_stepWriter hLive hRoom h)
  next hParty =>
    have hNot := hQuiet (by simp [hParty])
    exact (fresh_stepWatcher hLive h).imp id
      (And.imp id fun hFresh hOr => hFresh (hOr.resolve_right hNot))
  next hParty =>
    have hNot := hQuiet (by simp [hParty])
    exact (fresh_stepMain hLive h).imp id
      (And.imp id fun hFresh hOr => hFresh (hOr.resolve_right hNot))

/-- A queue with room loses no event. -/
def HasRoom (setup : LeaseSetup) (s : LeaseState) (_ : LeaseAction) : Prop :=
  s.queue.length < setup.maxQueuedEvents

instance (setup : LeaseSetup) (s : LeaseState) (action : LeaseAction) :
    Decidable (HasRoom setup s action) := inferInstanceAs (Decidable (_ < _))

/-- Nothing is under way between the file and the event loop. -/
structure Quiet (s : LeaseState) : Prop where
  main : s.main = .looping
  watcher : s.watcher = .waiting
  queue : s.queue = []
  channel : s.channel = []

theorem Quiet.not_over (h : s.Quiet) : ¬ s.Over := by
  rintro (hStopped | hStopped)
  · exact absurd (h.main.symm.trans hStopped) (by simp)
  · exact absurd (h.watcher.symm.trans hStopped) (by simp)

/-- Without writers the last prefix of a quiet state is that of the file. -/
theorem Quiet.last (h : s.Quiet) (hWriters : s.writers = 0) (hFresh : s.Fresh setup) {iaPd : Ipv6Net}
    (hParse : setup.parseLeaseFile s.file = some iaPd) : s.received.getLast? = some iaPd := by
  rcases hFresh with hOpen | ⟨event, hMem, -⟩ | hNone | hCarried
  · exact absurd hWriters hOpen.ne'
  · simp [h.queue, h.watcher, WatcherStage.events] at hMem
  · exact absurd (hParse.symm.trans hNone) (by simp)
  · simp only [Carried, h.watcher, h.channel, List.append_nil] at hCarried
    exact hCarried.symm.trans hParse

/-- From a live state on every announced change of the file is followed. -/
theorem fresh_of_run {actions : List LeaseAction} (hLive : s.Live)
    (run : Run (LeaseState.step setup) (HasRoom setup) s actions t) :
    t.Over ∨ t.Live ∧ ((∃ action ∈ actions, action.Notifies) → t.Fresh setup) := by
  induction run with
  | nil => exact .inr ⟨hLive, fun ⟨_, hMem, _⟩ => absurd hMem List.not_mem_nil⟩
  | snoc prior allowed last ih =>
      rcases ih with hOver | ⟨hLive, hFresh⟩
      · exact .inl (hOver.step last)
      · refine (fresh_step hLive allowed last).imp id (And.imp id ?_)
        rintro hNext ⟨action, hMem, hNotifies⟩
        rcases List.mem_append.mp hMem with hPrior | hLast
        · exact hNext (.inl (hFresh ⟨action, hPrior, hNotifies⟩))
        · cases List.mem_singleton.mp hLast
          exact hNext (.inr hNotifies)

section Drain

/-- What is left to do. -/
def remaining (s : LeaseState) : Nat :=
  7 * s.queue.length + s.channel.length +
    match s.watcher with
    | .handling events => 5 * events.length + 1
    | .reading _ events => 5 * events.length + 4
    | .sending _ events => 5 * events.length + 3
    | _ => 0

/-- Steps that leave the file to the writers. -/
def Advances (setup : LeaseSetup) (s t : LeaseState) : Prop :=
  ∃ actions, Run (LeaseState.step setup) (fun _ action => action.Drains) s actions t ∧
    t.file = s.file ∧ t.writers = s.writers

theorem Advances.trans {u : LeaseState} (h : Advances setup s t) (h' : Advances setup t u) :
    Advances setup s u := by
  obtain ⟨actions, run, hFile, hWriters⟩ := h
  obtain ⟨actions', run', hFile', hWriters'⟩ := h'
  exact ⟨actions ++ actions', run.trans run', hFile'.trans hFile, hWriters'.trans hWriters⟩

theorem Advances.single (h : s.step setup action = some t) (hDrains : action.Drains)
    (hFile : t.file = s.file) (hWriters : t.writers = s.writers) : Advances setup s t :=
  ⟨[action], Run.single hDrains h, hFile, hWriters⟩

/-- Waiting and handling, a queue that is not empty gives one more event to handle. -/
theorem readEvents_advances {event : InotifyEvent} {queue : List InotifyEvent} (hLive : s.Live)
    (hQueue : s.queue = event :: queue) (hWatcher : s.watcher = .handling []) :
    ∃ t, Advances setup s t ∧ t.Live ∧ t.queue = queue ∧ t.channel = s.channel ∧
      t.watcher = .handling [event] := by
  have hCount : 0 < 1 ∧ 1 ≤ s.queue.length := by simp [hQueue]
  have hStep : s.step setup (.readEvents 1) =
      some { s with watcher := .handling (s.queue.take 1), queue := s.queue.drop 1 } := by
    simp only [LeaseState.step, LeaseAction.party, stepWatcher, hWatcher, if_pos hCount]
  refine ⟨_, Advances.single hStep trivial rfl rfl, ⟨hLive.main, by simp, by simp⟩, ?_, rfl, ?_⟩
  · simp [hQueue]
  · simp [hQueue]

/-- With the channel empty the watcher can go on, up to its wait for events. -/
theorem watcher_advances (hLive : s.Live) (hChannel : s.channel = []) (hNot : ¬ s.Quiet) :
    ∃ t, Advances setup s t ∧ t.Live ∧ t.remaining < s.remaining := by
  obtain ⟨hMain, hStarted, hStopped⟩ := hLive
  cases hWatcher : s.watcher with
  | starting => exact absurd hWatcher hStarted
  | stopped => exact absurd hWatcher hStopped
  | waiting =>
      cases hQueue : s.queue with
      | nil => exact absurd ⟨hMain, hWatcher, hQueue, hChannel⟩ hNot
      | cons event queue =>
          have hStep : s.step setup .readable = some { s with watcher := .handling [] } := by
            simp only [LeaseState.step, LeaseAction.party, stepWatcher, hWatcher]
          have hLive' : ({ s with watcher := .handling [] } : LeaseState).Live :=
            ⟨hMain, by simp, by simp⟩
          obtain ⟨t, hAdvances, hLive'', hQueue', hChannel', hWatcher'⟩ :=
            readEvents_advances hLive' hQueue rfl
          refine ⟨t, (Advances.single hStep trivial rfl rfl).trans hAdvances, hLive'', ?_⟩
          simp only [remaining, hWatcher, hWatcher', hQueue, hQueue', hChannel', List.length_cons,
            List.length_nil]
          omega
  | handling events =>
      cases events with
      | nil =>
          cases hQueue : s.queue with
          | nil =>
              have hStep : s.step setup .leaveLoop = some { s with watcher := .waiting } := by
                simp only [LeaseState.step, LeaseAction.party, stepWatcher, hWatcher]
              refine ⟨_, Advances.single hStep trivial rfl rfl, ⟨hMain, by simp, by simp⟩, ?_⟩
              simp only [remaining, hWatcher]
              omega
          | cons event queue =>
              obtain ⟨t, hAdvances, hLive', hQueue', hChannel', hWatcher'⟩ :=
                readEvents_advances ⟨hMain, hStarted, hStopped⟩ hQueue hWatcher
              refine ⟨t, hAdvances, hLive', ?_⟩
              simp only [remaining, hWatcher, hWatcher', hQueue, hQueue', hChannel',
                List.length_cons, List.length_nil]
              omega
      | cons event events =>
          by_cases hTarget : event.name = some setup.targetName
          · have hStep : s.step setup .nextEvent =
                some { s with watcher := .reading false events } := by
              simp only [LeaseState.step, LeaseAction.party, stepWatcher, hWatcher, if_pos hTarget]
            refine ⟨_, Advances.single hStep trivial rfl rfl, ⟨hMain, by simp, by simp⟩, ?_⟩
            simp only [remaining, hWatcher, List.length_cons]
            omega
          · have hStep : s.step setup .nextEvent = some { s with watcher := .handling events } := by
              simp only [LeaseState.step, LeaseAction.party, stepWatcher, hWatcher, if_neg hTarget]
            refine ⟨_, Advances.single hStep trivial rfl rfl, ⟨hMain, by simp, by simp⟩, ?_⟩
            simp only [remaining, hWatcher, List.length_cons]
            omega
  | reading torn events =>
      have hRead : s.CanRead torn s.file := .inr rfl
      cases hParse : setup.parseLeaseFile s.file with
      | some iaPd =>
          have hStep : s.step setup (.finishRead s.file) =
              some { s with watcher := .sending iaPd events } := by
            simp only [LeaseState.step, LeaseAction.party, stepWatcher, hWatcher, if_pos hRead,
              hParse]
          refine ⟨_, Advances.single hStep trivial rfl rfl, ⟨hMain, by simp, by simp⟩, ?_⟩
          simp only [remaining, hWatcher]
          omega
      | none =>
          have hStep : s.step setup (.finishRead s.file) =
              some { s with watcher := .handling events } := by
            simp only [LeaseState.step, LeaseAction.party, stepWatcher, hWatcher, if_pos hRead,
              hParse]
          refine ⟨_, Advances.single hStep trivial rfl rfl, ⟨hMain, by simp, by simp⟩, ?_⟩
          simp only [remaining, hWatcher]
          omega
  | sending iaPd events =>
      have hRunning : s.main ≠ .stopped := by simp [hMain]
      have hRoom : s.channel.length < leaseCapacity := by simp [hChannel, leaseCapacity]
      have hStep : s.step setup .send =
          some { s with watcher := .handling events, channel := s.channel ++ [iaPd] } := by
        simp only [LeaseState.step, LeaseAction.party, stepWatcher, hWatcher, if_neg hRunning,
          if_pos hRoom]
      refine ⟨_, Advances.single hStep trivial rfl rfl, ⟨hMain, by simp, by simp⟩, ?_⟩
      simp only [remaining, hWatcher, List.length_append, List.length_singleton]
      omega

/-- Unless all is quiet some party can go on. -/
theorem live_advances (hLive : s.Live) (hNot : ¬ s.Quiet) :
    ∃ t, Advances setup s t ∧ t.Live ∧ t.remaining < s.remaining := by
  cases hChannel : s.channel with
  | nil => exact watcher_advances hLive hChannel hNot
  | cons iaPd rest =>
      have hStep : s.step setup .receive =
          some { s with channel := rest, received := s.received ++ [iaPd] } := by
        simp only [LeaseState.step, LeaseAction.party, stepMain, hLive.main, hChannel]
      refine ⟨_, Advances.single hStep trivial rfl rfl, ⟨hLive.main, hLive.running⟩, ?_⟩
      simp only [remaining, hChannel, List.length_cons]
      omega

/-- By induction on what is still to be done. -/
theorem live_drains (hLive : s.Live) : ∃ t, Advances setup s t ∧ t.Quiet := by
  induction hRemaining : s.remaining using Nat.strong_induction_on generalizing s with
  | h n ih =>
      by_cases hQuiet : s.Quiet
      · exact ⟨s, ⟨[], Run.nil s, rfl, rfl⟩, hQuiet⟩
      · obtain ⟨t, hAdvances, hLive', hLess⟩ := live_advances hLive hQuiet
        obtain ⟨u, hAdvances', hQuiet'⟩ := ih t.remaining (hRemaining ▸ hLess) hLive' rfl
        exact ⟨u, hAdvances.trans hAdvances', hQuiet'⟩

end Drain

section Blocked

/-- `start_linux` waits for room in the channel that only its event loop could make. -/
def Blocked (s : LeaseState) : Prop :=
  (∃ iaPd, s.main = .sending iaPd) ∧ leaseCapacity ≤ s.channel.length

/-- A writer of the file does not come near the channel. -/
theorem stepWriter_channel (h : s.stepWriter setup action = some t) :
    t.channel = s.channel ∧ t.received = s.received := by
  cases action with
  | openWrite =>
      cases h
      exact ⟨rfl, rfl⟩
  | write content =>
      rw [stepWriter] at h
      split_ifs at h
      cases h
      exact ⟨rfl, rfl⟩
  | closeWrite merge =>
      rw [stepWriter] at h
      split_ifs at h
      cases h
      exact ⟨notify_channel, notify_received⟩
  | rename content writers merge =>
      cases h
      exact ⟨notify_channel, notify_received⟩
  | remove =>
      cases h
      exact ⟨rfl, rfl⟩
  | touch event merge =>
      cases h
      exact ⟨notify_channel, notify_received⟩
  | _ => cases h

/-- The watcher cannot take anything out of the channel. -/
theorem stepWatcher_channel (h : s.stepWatcher setup action = some t)
    (hMain : s.main ≠ .stopped) :
    s.channel.length ≤ t.channel.length ∧ t.received = s.received := by
  unfold stepWatcher at h
  grind

/-- Only the end of the process ends the wait. -/
theorem Blocked.step (hBlocked : s.Blocked) (hAction : action ≠ .stopMain)
    (h : s.step setup action = some t) : t.Blocked ∧ t.received = s.received := by
  obtain ⟨⟨iaPd, hMain⟩, hFull⟩ := hBlocked
  unfold LeaseState.step at h
  split at h
  · obtain ⟨hChannel, hReceived⟩ := stepWriter_channel h
    have hStage := (stepWriter_stages h).1
    rw [hMain] at hStage
    exact ⟨⟨⟨iaPd, hStage.elim id id⟩, hChannel ▸ hFull⟩, hReceived⟩
  · obtain ⟨hChannel, hReceived⟩ := stepWatcher_channel h (by simp [hMain])
    exact ⟨⟨⟨iaPd, (stepWatcher_main h).trans hMain⟩, hFull.trans hChannel⟩, hReceived⟩
  · unfold stepMain at h
    rw [hMain] at h
    cases action with
    | sendInitial =>
        simp only at h
        rw [if_neg (Nat.not_lt.mpr hFull)] at h
        cases h
    | stopMain => exact absurd rfl hAction
    | _ => cases h

end Blocked

/-- Behind the first look at the file everything that is under way can be brought
to its end, unless the channel is full before the initial prefix is sent. Then the
event loop is never reached, whatever happens. -/
theorem lease_drains_iff (setup : LeaseSetup) (s : LeaseState) (hRunning : s.watcher.Running)
    (hMain : s.main = .looping ∨ ∃ iaPd, s.main = .sending iaPd) :
    ((∃ t, Advances setup s t ∧ t.Quiet) ↔ ¬ s.Blocked) ∧
    (s.Blocked → ∀ actions t,
      Run (LeaseState.step setup) (fun _ action => action ≠ .stopMain) s actions t →
        t.Blocked ∧ t.received = s.received) := by
  have hForever (hBlocked : s.Blocked) (actions : List LeaseAction) (t : LeaseState)
      (run : Run (LeaseState.step setup) (fun _ action => action ≠ .stopMain) s actions t) :
      t.Blocked ∧ t.received = s.received := by
    refine run.invariant (P := fun t => t.Blocked ∧ t.received = s.received) ?_ ⟨hBlocked, rfl⟩
    rintro u action v ⟨hBlocked, hReceived⟩ hAction hStep
    obtain ⟨hBlocked', hReceived'⟩ := hBlocked.step hAction hStep
    exact ⟨hBlocked', hReceived'.trans hReceived⟩
  refine ⟨⟨?_, ?_⟩, hForever⟩
  · rintro ⟨t, ⟨actions, run, -⟩, hQuiet⟩ hBlocked
    have hWeaker : Run (LeaseState.step setup) (fun _ action => action ≠ .stopMain) s actions t :=
      run.mono fun _ _ hDrains hStop => by
        rw [hStop] at hDrains
        exact hDrains
    obtain ⟨⟨⟨iaPd, hSending⟩, -⟩, -⟩ := hForever hBlocked actions t hWeaker
    exact absurd (hSending.symm.trans hQuiet.main) (by simp)
  · intro hNot
    rcases hMain with hLooping | ⟨iaPd, hSending⟩
    · exact live_drains ⟨hLooping, hRunning⟩
    · have hRoom : s.channel.length < leaseCapacity := by
        by_contra hFull
        exact hNot ⟨⟨iaPd, hSending⟩, Nat.le_of_not_lt hFull⟩
      have hStep : s.step setup .sendInitial =
          some { s with main := .looping, channel := s.channel ++ [iaPd] } := by
        simp only [LeaseState.step, LeaseAction.party, stepMain, hSending, if_pos hRoom]
      have hLive : ({ s with main := .looping, channel := s.channel ++ [iaPd] } : LeaseState).Live :=
        ⟨rfl, hRunning⟩
      obtain ⟨t, hAdvances, hQuiet⟩ := live_drains hLive
      exact ⟨t, (Advances.single hStep trivial rfl rfl).trans hAdvances, hQuiet⟩

/-- Two prefixes are enough for the lease files below. -/
def leaseSetup : LeaseSetup :=
  { parseNet := fun value =>
      if value = "2001:db8::/56".toList then Ipv6Net.new 0x20010db8000000000000000000000000 56
      else if value = "2001:db8:0:100::/56".toList then
        Ipv6Net.new 0x20010db8000001000000000000000000 56
      else none
    targetName := "2"
    maxQueuedEvents := 16384 }

def firstLease : List Char := "ADDRESS=192.0.2.1\nX-DELEGATED-PREFIX=2001:db8::/56\n".toList

/-- The watcher handles one event for the file. -/
def oneEvent : List LeaseAction :=
  [.touch (.movedTo "2") false, .readable, .readEvents 1, .nextEvent, .finishRead (some firstLease),
    .send, .leaveLoop]

/-- Four events before the first look at the file fill the channel. -/
theorem lease_drains_blocked :
    ∃ s, runAll (LeaseState.step leaseSetup)
        (.addWatch :: (oneEvent ++ oneEvent ++ oneEvent ++ oneEvent) ++
          [.openInitial, .finishInitial (some firstLease)]) (LeaseState.initial (some firstLease) 0) =
        some s ∧
      ¬ ∃ t, Advances leaseSetup s t ∧ t.Quiet := by
  have hRun : runAll (LeaseState.step leaseSetup)
      (.addWatch :: (oneEvent ++ oneEvent ++ oneEvent ++ oneEvent) ++
        [.openInitial, .finishInitial (some firstLease)]) (LeaseState.initial (some firstLease) 0) =
      some { LeaseState.initial (some firstLease) 0 with
        watcher := .waiting
        main := .sending ⟨0x20010db8000000000000000000000000, 56, by decide⟩
        channel := List.replicate 4 ⟨0x20010db8000000000000000000000000, 56, by decide⟩ } := by
    decide +kernel
  refine ⟨_, hRun, ?_⟩
  rw [(lease_drains_iff leaseSetup _ ⟨by decide, by decide⟩ (.inr ⟨_, rfl⟩)).1, not_not]
  exact ⟨⟨_, rfl⟩, le_refl _⟩

end LeaseState

end Mapecd
