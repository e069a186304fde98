import Mapecd.Semantics.Runs

/-! The PID file as the lock of the daemon. -/
namespace Mapecd

open Runs

/-- A call of `PidGuard::create`, by the process that makes it. -/
abbrev Pid := Nat

/-- A file, independent of the path that leads to it. -/
abbrev Inode := Nat

/-- Where a process stands. From `opened` on it has the file open. -/
inductive PidPhase where
  | outside
  | opened (inode : Inode)
  | locked (inode : Inode)
  | truncated (inode : Inode)
  /-- `create` has returned, `drop` has not begun. -/
  | alive (inode : Inode)
  | removed (inode : Inode)
deriving DecidableEq, Repr

/-- The file whose lock a process in this phase asks for next. -/
def PidPhase.waits : PidPhase → Option Inode
  | opened inode => some inode
  | _ => none

/-- The file on which a process in this phase holds the lock. -/
def PidPhase.holds : PidPhase → Option Inode
  | outside => none
  | opened _ => none
  | locked inode => some inode
  | truncated inode => some inode
  | alive inode => some inode
  | removed inode => some inode

/-- The file that it guards: the lock is held, and `drop` has not begun. -/
def PidPhase.guards : PidPhase → Option Inode
  | outside => none
  | opened _ => none
  | locked inode => some inode
  | truncated inode => some inode
  | alive inode => some inode
  | removed _ => none

/-- A guard keeps the file open. -/
theorem PidPhase.holds_of_guards {phase : PidPhase} {inode : Inode} (h : phase.guards = some inode) :
    phase.holds = some inode := by
  cases phase with
  | outside => cases h
  | opened _ => cases h
  | locked _ => exact h
  | truncated _ => exact h
  | alive _ => exact h
  | removed _ => cases h

/-- What the processes share, and where each of them stands. -/
structure PidWorld where
  /-- The file that the path names. -/
  path : Option Inode
  nextInode : Inode
  /-- The number written to a file, none in an empty one. -/
  content : Inode → Option Pid
  /-- `flock` is held on the file, by an open descriptor. -/
  lockedBy : Inode → Option Pid
  phase : Pid → PidPhase

/-- The steps of `create`, then those of `drop`. A descriptor is closed at the
end of `drop`, after an error of `create`, or because the process ends. -/
inductive PidStep where
  | openFile
  | flock
  | setLen
  | write
  | removeFile
  | removeFailed
  | close
deriving DecidableEq, Repr

/-- A step and the process that takes it. -/
structure PidAction where
  pid : Pid
  step : PidStep

namespace PidWorld

def withPhase (world : PidWorld) (pid : Pid) (phase : PidPhase) : PidWorld :=
  { world with phase := Function.update world.phase pid phase }

/-- Opening creates the file if the path names none. -/
def openFile (world : PidWorld) (pid : Pid) : PidWorld :=
  match world.path with
  | some inode => world.withPhase pid (.opened inode)
  | none =>
      { world with
        path := some world.nextInode
        nextInode := world.nextInode + 1
        content := Function.update world.content world.nextInode none }.withPhase pid
          (.opened world.nextInode)

/-- `LOCK_EX | LOCK_NB`. Without the lock `create` fails, and the file is closed. -/
def flock (world : PidWorld) (pid : Pid) (inode : Inode) : PidWorld :=
  match world.lockedBy inode with
  | some _ => world.withPhase pid .outside
  | none =>
      { world with lockedBy := Function.update world.lockedBy inode (some pid) }.withPhase pid
        (.locked inode)

def setContent (world : PidWorld) (inode : Inode) (content : Option Pid) : PidWorld :=
  { world with content := Function.update world.content inode content }

/-- The path is removed, whichever file it names by now. -/
def removeFile (world : PidWorld) : PidWorld := { world with path := none }

/-- Closing the descriptor that holds the lock releases it. -/
def close (world : PidWorld) (pid : Pid) (inode : Inode) : PidWorld :=
  { world with lockedBy := Function.update world.lockedBy inode none }.withPhase pid .outside

/-- A step of one process. -/
def step (world : PidWorld) (action : PidAction) : Option PidWorld :=
  match world.phase action.pid, action.step with
  | .outside, .openFile => some (world.openFile action.pid)
  | .opened inode, .flock => some (world.flock action.pid inode)
  | .locked inode, .setLen =>
      some ((world.setContent inode none).withPhase action.pid (.truncated inode))
  | .truncated inode, .write =>
      some ((world.setContent inode (some action.pid)).withPhase action.pid (.alive inode))
  | .alive inode, .removeFile => some (world.removeFile.withPhase action.pid (.removed inode))
  | .alive inode, .removeFailed => some (world.withPhase action.pid (.removed inode))
  | .opened _, .close => some (world.withPhase action.pid .outside)
  | .locked inode, .close => some (world.close action.pid inode)
  | .truncated inode, .close => some (world.close action.pid inode)
  | .alive inode, .close => some (world.close action.pid inode)
  | .removed inode, .close => some (world.close action.pid inode)
  | _, _ => none

/-- The guard of a process is alive. -/
def Alive (world : PidWorld) (pid : Pid) : Prop := ∃ inode, world.phase pid = .alive inode

/-- No process has begun. The file of an earlier run may still be there. -/
structure Initial (world : PidWorld) : Prop where
  outside : ∀ pid, world.phase pid = .outside
  unlocked : ∀ inode, world.lockedBy inode = none
  fresh : ∀ inode ∈ world.path, inode < world.nextInode

/-- A lock is taken only on the file that the path names at that moment. -/
def LocksNamed (world : PidWorld) (action : PidAction) : Prop :=
  action.step = .flock → ∀ inode ∈ (world.phase action.pid).waits,
    world.lockedBy inode = none → world.path = some inode

instance (world : PidWorld) (action : PidAction) : Decidable (world.LocksNamed action) :=
  inferInstanceAs (Decidable (_ → _))

/-- A lock has one holder, and the path leads to the guarded file. -/
structure Exclusive (world : PidWorld) : Prop where
  held : ∀ {pid inode}, (world.phase pid).holds = some inode → world.lockedBy inode = some pid
  named : ∀ {pid inode}, (world.phase pid).guards = some inode → world.path = some inode

variable {world next : PidWorld} {pid : Pid} {inode : Inode}

@[simp] theorem withPhase_phase (phase : PidPhase) :
    (world.withPhase pid phase).phase pid = phase := Function.update_self ..

theorem withPhase_other (phase : PidPhase) {other : Pid} (h : other ≠ pid) :
    (world.withPhase pid phase).phase other = world.phase other := Function.update_of_ne h _ _

@[simp] theorem withPhase_path (phase : PidPhase) : (world.withPhase pid phase).path = world.path :=
  rfl

@[simp] theorem withPhase_lockedBy (phase : PidPhase) :
    (world.withPhase pid phase).lockedBy = world.lockedBy := rfl

namespace Exclusive

theorem initial (h : world.Initial) : world.Exclusive where
  held hHolds := by
    rw [h.outside] at hHolds
    cases hHolds
  named hGuards := by
    rw [h.outside] at hGuards
    cases hGuards

/-- Two processes never guard at the same time. -/
theorem unique (h : world.Exclusive) {other : Pid} {inode' : Inode}
    (hGuards : (world.phase pid).guards = some inode)
    (hOther : (world.phase other).guards = some inode') : pid = other := by
  have hSame : inode = inode' := Option.some.inj ((h.named hGuards).symm.trans (h.named hOther))
  have hLock := h.held (PidPhase.holds_of_guards hGuards)
  rw [hSame, h.held (PidPhase.holds_of_guards hOther)] at hLock
  exact (Option.some.inj hLock).symm

/-- One process moves. The others keep their locks and the path to their files. -/
theorem move (h : world.Exclusive) (pid : Pid)
    (hPhase : ∀ other, other ≠ pid → next.phase other = world.phase other)
    (hLocks : ∀ other inode, other ≠ pid → world.lockedBy inode = some other →
      next.lockedBy inode = some other)
    (hPath : ∀ other inode, other ≠ pid → (world.phase other).guards = some inode →
      next.path = some inode)
    (hHeld : ∀ inode, (next.phase pid).holds = some inode → next.lockedBy inode = some pid)
    (hNamed : ∀ inode, (next.phase pid).guards = some inode → next.path = some inode) :
    next.Exclusive where
  held {other inode} hHolds := by
    by_cases hOther : other = pid
    · subst hOther
      exact hHeld inode hHolds
    · rw [hPhase other hOther] at hHolds
      exact hLocks other inode hOther (h.held hHolds)
  named {other inode} hGuards := by
    by_cases hOther : other = pid
    · subst hOther
      exact hNamed inode hGuards
    · rw [hPhase other hOther] at hGuards
      exact hPath other inode hOther hGuards

/-- The process moves and nothing else changes. -/
theorem withPhase (h : world.Exclusive) {old phase : PidPhase} (hPhase : world.phase pid = old)
    (hHolds : ∀ inode, phase.holds = some inode → old.holds = some inode)
    (hGuards : ∀ inode, phase.guards = some inode → old.guards = some inode) :
    (world.withPhase pid phase).Exclusive := by
  subst hPhase
  apply h.move pid
  · exact fun other hOther => withPhase_other phase hOther
  · exact fun other inode _ hLock => hLock
  · exact fun other inode _ hGuard => h.named hGuard
  · intro inode hHold
    rw [withPhase_phase] at hHold
    exact h.held (hHolds inode hHold)
  · intro inode hGuard
    rw [withPhase_phase] at hGuard
    exact h.named (hGuards inode hGuard)

/-- A process without the lock moves to a phase without the lock. -/
theorem withoutLock (h : world.Exclusive) {phase : PidPhase} (hHolds : phase.holds = none) :
    (world.withPhase pid phase).Exclusive := by
  apply h.withPhase rfl
  · intro inode hHold
    rw [hHolds] at hHold
    cases hHold
  · intro inode hGuard
    rw [PidPhase.holds_of_guards hGuard] at hHolds
    cases hHolds

theorem setContent (h : world.Exclusive) (inode : Inode) (content : Option Pid) :
    (world.setContent inode content).Exclusive := ⟨h.held, h.named⟩

/-- Opening gives no lock. -/
theorem openFile (h : world.Exclusive) : (world.openFile pid).Exclusive := by
  unfold PidWorld.openFile
  cases hPath : world.path with
  | some inode => exact h.withoutLock rfl
  | none =>
      apply h.move pid
      · exact fun other hOther => withPhase_other _ hOther
      · exact fun other inode _ hLock => hLock
      · intro other inode _ hGuard
        rw [h.named hGuard] at hPath
        cases hPath
      · intro inode hHold
        rw [withPhase_phase] at hHold
        cases hHold
      · intro inode hGuard
        rw [withPhase_phase] at hGuard
        cases hGuard

/-- A lock is granted on the inode that the path names, or refused. -/
theorem flock (h : world.Exclusive) (hNamed : world.lockedBy inode = none → world.path = some inode) :
    (world.flock pid inode).Exclusive := by
  unfold PidWorld.flock
  cases hLock : world.lockedBy inode with
  | some _ => exact h.withoutLock rfl
  | none =>
      apply h.move pid
      · exact fun other hOther => withPhase_other _ hOther
      · intro other inode' _ hOther
        have hNe : inode' ≠ inode := fun hSame => by
          rw [hSame, hLock] at hOther
          cases hOther
        exact (Function.update_of_ne hNe _ _).trans hOther
      · exact fun other inode' _ hGuard => h.named hGuard
      · intro inode' hHold
        rw [withPhase_phase] at hHold
        cases hHold
        exact Function.update_self ..
      · intro inode' hGuard
        rw [withPhase_phase] at hGuard
        cases hGuard
        exact hNamed hLock

/-- Only the guard of the file removes the path. -/
theorem removeFile (h : world.Exclusive) (hAlive : world.phase pid = .alive inode) :
    (world.removeFile.withPhase pid (.removed inode)).Exclusive := by
  have hGuards : (world.phase pid).guards = some inode := by rw [hAlive]; rfl
  apply h.move pid
  · exact fun other hOther => withPhase_other _ hOther
  · exact fun other inode' _ hLock => hLock
  · exact fun other inode' hOther hGuard => absurd (h.unique hGuard hGuards) hOther
  · intro inode' hHold
    rw [withPhase_phase] at hHold
    cases hHold
    exact h.held (PidPhase.holds_of_guards hGuards)
  · intro inode' hGuard
    rw [withPhase_phase] at hGuard
    cases hGuard

/-- Closing releases what this process held, and nothing of the others. -/
theorem close (h : world.Exclusive) (hHolds : (world.phase pid).holds = some inode) :
    (world.close pid inode).Exclusive := by
  apply h.move pid
  · exact fun other hOther => withPhase_other _ hOther
  · intro other inode' hOther hLock
    have hNe : inode' ≠ inode := fun hSame => by
      rw [hSame, h.held hHolds] at hLock
      exact hOther (Option.some.inj hLock).symm
    exact (Function.update_of_ne hNe _ _).trans hLock
  · exact fun other inode' _ hGuard => h.named hGuard
  · intro inode' hHold
    rw [PidWorld.close, withPhase_phase] at hHold
    cases hHold
  · intro inode' hGuard
    rw [PidWorld.close, withPhase_phase] at hGuard
    cases hGuard

end Exclusive

/-- What one process does keeps the locks exclusive, if it locks the named file. -/
theorem Exclusive.step {action : PidAction} (h : world.Exclusive) (hAllowed : world.LocksNamed action)
    (hStep : world.step action = some next) : next.Exclusive := by
  obtain ⟨pid, pidStep⟩ := action
  simp only [PidWorld.step] at hStep
  split at hStep
  case h_1 =>
      cases hStep
      exact h.openFile
  case h_2 _ inode hPhase =>
      cases hStep
      exact h.flock (hAllowed rfl inode (congrArg PidPhase.waits hPhase))
  case h_3 _ inode hPhase =>
      cases hStep
      exact (h.setContent inode none).withPhase hPhase (fun _ hHold => hHold) (fun _ hGuard => hGuard)
  case h_4 _ inode hPhase =>
      cases hStep
      exact (h.setContent inode (some pid)).withPhase hPhase (fun _ hHold => hHold)
        (fun _ hGuard => hGuard)
  case h_5 _ inode hPhase =>
      cases hStep
      exact h.removeFile hPhase
  case h_6 _ inode hPhase =>
      cases hStep
      exact h.withPhase hPhase (fun _ hHold => hHold) (fun _ hGuard => by cases hGuard)
  case h_7 =>
      cases hStep
      exact h.withoutLock rfl
  case h_8 _ inode hPhase =>
      cases hStep
      exact h.close (congrArg PidPhase.holds hPhase)
  case h_9 _ inode hPhase =>
      cases hStep
      exact h.close (congrArg PidPhase.holds hPhase)
  case h_10 _ inode hPhase =>
      cases hStep
      exact h.close (congrArg PidPhase.holds hPhase)
  case h_11 _ inode hPhase =>
      cases hStep
      exact h.close (congrArg PidPhase.holds hPhase)
  case h_12 => cases hStep

end PidWorld

section Runs

variable {start finish : PidWorld} {actions : List PidAction}

/-- At most one guard is alive, whatever the processes do, if each of them takes
the lock of the file that the path names. -/
theorem alive_unique (hInitial : start.Initial)
    (run : Run PidWorld.step PidWorld.LocksNamed start actions finish) {pid other : Pid}
    (hAlive : finish.Alive pid) (hOther : finish.Alive other) : pid = other := by
  have hExclusive : finish.Exclusive :=
    run.invariant (fun _ _ _ hExclusive => hExclusive.step) (PidWorld.Exclusive.initial hInitial)
  obtain ⟨inode, hPhase⟩ := hAlive
  obtain ⟨inode', hPhase'⟩ := hOther
  exact hExclusive.unique (congrArg PidPhase.guards hPhase) (congrArg PidPhase.guards hPhase')

/-- No file yet. -/
def PidWorld.empty : PidWorld :=
  { path := none, nextInode := 0, content := fun _ => none, lockedBy := fun _ => none
    phase := fun _ => .outside }

theorem PidWorld.empty_initial : PidWorld.empty.Initial :=
  ⟨fun _ => rfl, fun _ => rfl, fun _ h => by cases h⟩

/-- The steps of `create`. -/
def createSteps (pid : Pid) : List PidAction :=
  [⟨pid, .openFile⟩, ⟨pid, .flock⟩, ⟨pid, .setLen⟩, ⟨pid, .write⟩]

/-- A second start while the guard is alive fails. -/
theorem alive_unique_second :
    ∃ finish, (PidWorld.empty.Initial ∧ Run PidWorld.step PidWorld.LocksNamed PidWorld.empty
      (createSteps 1 ++ [⟨2, .openFile⟩, ⟨2, .flock⟩]) finish ∧ finish.Alive 1) ∧
      ∀ other, finish.Alive other → 1 = other := by
  have hEval : (runAll (guarded PidWorld.step PidWorld.LocksNamed)
      (createSteps 1 ++ [⟨2, .openFile⟩, ⟨2, .flock⟩]) PidWorld.empty).map (fun world =>
        world.phase 1) = some (.alive 0) := by
    decide +kernel
  obtain ⟨finish, hFinish, hPhase⟩ := Option.map_eq_some_iff.mp hEval
  have run := Run.of_runAll hFinish
  refine ⟨finish, ⟨PidWorld.empty_initial, run, ⟨0, hPhase⟩⟩, ?_⟩
  exact fun other hOther => alive_unique PidWorld.empty_initial run ⟨0, hPhase⟩ hOther

/-- The second process locks a file that the first one has removed, so the third
one creates and locks another. -/
def overlappingStarts : List PidAction :=
  createSteps 1 ++ [⟨2, .openFile⟩, ⟨1, .removeFile⟩, ⟨1, .close⟩, ⟨2, .flock⟩, ⟨2, .setLen⟩,
    ⟨2, .write⟩] ++ createSteps 3

/-- Two guards are alive at the end. -/
theorem alive_overlappingStarts :
    ∃ finish, Run PidWorld.step Free PidWorld.empty overlappingStarts finish ∧
      finish.Alive 2 ∧ finish.Alive 3 := by
  have hEval : (runAll (guarded PidWorld.step Free) overlappingStarts PidWorld.empty).map (fun world =>
      (world.phase 2, world.phase 3)) = some (.alive 0, .alive 1) := by
    decide +kernel
  obtain ⟨finish, hRun, hPhases⟩ := Option.map_eq_some_iff.mp hEval
  exact ⟨finish, Run.of_runAll hRun, ⟨0, congrArg Prod.fst hPhases⟩, ⟨1, congrArg Prod.snd hPhases⟩⟩

end Runs

end Mapecd
