import Mapecd.Map.Rule
import Mapecd.Semantics.Bytes
import Mapecd.Semantics.Files
import Mapecd.Semantics.Observation

/-! The files that outlive the process: the cache of the rules, which is replaced as
a whole, and the DUID, which is written in place. Both tasks can be stopped anywhere. -/
namespace Mapecd

open Bytes Files Runs

/-- The path of a file, as `with_extension` takes it apart. -/
structure FilePath where
  parent : String
  stem : String
  extension : Option String
deriving DecidableEq

def FilePath.withExtension (path : FilePath) (extension : String) : FilePath :=
  { path with extension := some extension }

abbrev FileStore := Store FilePath U8

abbrev FileOp := Op FilePath U8

/-- The two paths of the configuration, and JSON as `serde_json` writes and reads it. -/
structure KeptFiles where
  mapRulesCacheFile : FilePath
  duidFile : FilePath
  toVec : List MapRule → List U8
  fromSlice : List U8 → Option (List MapRule)

def duidLltEpoch : Nat := 946684800

/-- Type and hardware type 1, then the low bits of the time since the epoch. -/
def duidLlt (secs : Nat) (mac : BitVec 48) : List U8 :=
  toBe 2 (1 : U16) ++ toBe 2 (1 : U16) ++ toBe 4 (BitVec.ofNat 32 (secs - duidLltEpoch)) ++ toBe 6 mac

namespace KeptFiles

variable (files : KeptFiles)

def tmpPath : FilePath := files.mapRulesCacheFile.withExtension "tmp"

/-- No file, or no rules in it, are the same. -/
def loadRulesCache (store : FileStore) : Option (List MapRule) :=
  (store files.mapRulesCacheFile).bind files.fromSlice

/-- What `save_rules_cache` does behind `create_dir_all`. -/
def saveRulesCache (pieces : List (List U8)) : List FileOp :=
  replace files.tmpPath files.mapRulesCacheFile pieces

/-- The DUID that `load_or_create_duid` finds in the file. Four bytes are enough. -/
def storedDuid (store : FileStore) : Option (List U8) :=
  (store files.duidFile).filter fun data => 4 ≤ data.length

end KeptFiles

/-- What the functions show over all processes, in order. -/
inductive KeptOutput where
  | loaded (rules : Option (List MapRule))
  | unreadable
  /-- The new rules are in their place, and the save has not returned yet. -/
  | renamed (rules : List MapRule)
  | saved (rules : List MapRule)
  /-- `path.exists()` is false although the file holds a DUID. -/
  | overlooked
  | duid (duid : List U8)
deriving DecidableEq

/-- The files, what is left to do of a save and of a new DUID, and over all processes
what the functions have returned, each rename of a save and each stored DUID that was
overlooked. -/
structure KeptState where
  store : FileStore
  saving : Option (List MapRule × List FileOp)
  creating : Option (List U8 × List FileOp)
  log : List KeptOutput

/-- The steps that any process takes, in any order that the state allows. -/
inductive KeptAction where
  | load
  | failLoad
  | beginSave (rules : List MapRule) (pieces : List (List U8))
  | stepSave
  | failSave
  /-- `seen` is false where `path.exists()` fails to look at the file. -/
  | beginDuid (seen : Bool) (secs : Nat) (mac : BitVec 48) (pieces : List (List U8))
  | stepDuid
  | failDuid
  /-- The process ends, in the middle of whatever it does. -/
  | crash

namespace KeptState

def initial (store : FileStore) : KeptState :=
  { store, saving := none, creating := none, log := [] }

/-- The next operation of a save, of which the last is the rename. With none left the
function returns. -/
def stepSave (s : KeptState) : Option KeptState :=
  match s.saving with
  | some (rules, []) => some { s with saving := none, log := s.log ++ [.saved rules] }
  | some (rules, [op]) =>
      some { s with
        store := op.apply s.store
        saving := some (rules, [])
        log := s.log ++ [.renamed rules] }
  | some (rules, op :: ops) =>
      some { s with store := op.apply s.store, saving := some (rules, ops) }
  | none => none

/-- Behind the rename nothing is left that can fail. -/
def failSave (s : KeptState) : Option KeptState :=
  match s.saving with
  | some (_, []) => none
  | _ => some { s with saving := none }

/-- The operations that make a new DUID, and then its return. -/
def stepDuid (s : KeptState) : Option KeptState :=
  match s.creating with
  | some (duid, []) => some { s with creating := none, log := s.log ++ [.duid duid] }
  | some (duid, op :: ops) =>
      some { s with store := op.apply s.store, creating := some (duid, ops) }
  | none => none

def failDuid (s : KeptState) : Option KeptState :=
  match s.creating with
  | some (_, []) => none
  | _ => some { s with creating := none }

/-- A DUID is created unless one is seen. The new one takes the place of one that
was overlooked. -/
def beginDuid (files : KeptFiles) (s : KeptState) (seen : Bool) (secs : Nat) (mac : BitVec 48)
    (pieces : List (List U8)) : Option KeptState :=
  match if seen then files.storedDuid s.store else none with
  | some duid => some { s with log := s.log ++ [.duid duid] }
  | none =>
      if pieces.flatten = duidLlt secs mac then
        some { s with
          creating := some (duidLlt secs mac, write files.duidFile pieces)
          log := s.log ++ if (files.storedDuid s.store).isSome then [.overlooked] else [] }
      else none

/-- A save or a new DUID begins only where none is under way. -/
def step (files : KeptFiles) (s : KeptState) : KeptAction → Option KeptState
  | .load => some { s with log := s.log ++ [.loaded (files.loadRulesCache s.store)] }
  | .failLoad => some { s with log := s.log ++ [.unreadable] }
  | .beginSave rules pieces =>
      if s.saving = none ∧ pieces.flatten = files.toVec rules then
        some { s with saving := some (rules, files.saveRulesCache pieces) }
      else none
  | .stepSave => s.stepSave
  | .failSave => s.failSave
  | .beginDuid seen secs mac pieces =>
      if s.creating = none then s.beginDuid files seen secs mac pieces else none
  | .stepDuid => s.stepDuid
  | .failDuid => s.failDuid
  | .crash => some { s with saving := none, creating := none }

end KeptState

/-- The contents that the files stand for. -/
structure Kept where
  rules : Option (List MapRule)
  duid : Option (List U8)

/-- A save takes effect as a whole with its rename, and returns after that. A DUID that
has been returned stays unless it is overlooked. -/
inductive Kept.Next : Kept → KeptOutput → Kept → Prop where
  | loaded (kept : Kept) : Next kept (.loaded kept.rules) kept
  | unreadable (kept : Kept) : Next kept .unreadable kept
  | renamed (kept : Kept) (rules : List MapRule) :
      Next kept (.renamed rules) { kept with rules := some rules }
  | saved (kept : Kept) (rules : List MapRule) (now : kept.rules = some rules) :
      Next kept (.saved rules) kept
  | overlooked (kept : Kept) : Next kept .overlooked { kept with duid := none }
  | duid (kept : Kept) (duid : List U8) (known : kept.duid = none ∨ kept.duid = some duid) :
      Next kept (.duid duid) { kept with duid := some duid }

section Refinement

variable {files : KeptFiles} {s t : KeptState} {kept : Kept} {action : KeptAction}

/-- Neither of the three files of the daemon is another one. -/
structure KeptFiles.Distinct (files : KeptFiles) : Prop where
  cache_tmp : files.mapRulesCacheFile ≠ files.tmpPath
  duid_cache : files.duidFile ≠ files.mapRulesCacheFile
  duid_tmp : files.duidFile ≠ files.tmpPath

/-- The rules that are saved can be read back. -/
def KeptFiles.RoundTrips (files : KeptFiles) (_ : KeptState) : KeptAction → Prop
  | .beginSave rules _ => files.fromSlice (files.toVec rules) = some rules
  | _ => True

instance (s : KeptState) (action : KeptAction) : Decidable (files.RoundTrips s action) := by
  cases action <;> unfold KeptFiles.RoundTrips <;> infer_instance

/-- The files hold the contents, up to what is under way. -/
structure KeptState.Holds (files : KeptFiles) (kept : Kept) (s : KeptState) : Prop where
  rules : files.loadRulesCache s.store = kept.rules
  duid : ∀ duid, kept.duid = some duid → files.storedDuid s.store = some duid
  saving : ∀ rules ops, s.saving = some (rules, ops) →
    files.fromSlice (files.toVec rules) = some rules ∧
      ((ops = [] ∧ kept.rules = some rules) ∨
        Replacing files.tmpPath files.mapRulesCacheFile (files.toVec rules) s.store ops)
  creating : ∀ duid ops, s.creating = some (duid, ops) →
    4 ≤ duid.length ∧ kept.duid = none ∧ Writing files.duidFile duid s.store ops

theorem length_duidLlt (secs : Nat) (mac : BitVec 48) : (duidLlt secs mac).length = 14 := by
  simp [duidLlt]

theorem storedDuid_congr {store store' : FileStore}
    (h : store' files.duidFile = store files.duidFile) :
    files.storedDuid store' = files.storedDuid store := by
  rw [KeptFiles.storedDuid, KeptFiles.storedDuid, h]

theorem storedDuid_of_seen {store : FileStore} {seen : Bool} {duid : List U8}
    (h : (if seen then files.storedDuid store else none) = some duid) :
    files.storedDuid store = some duid := by
  cases seen with
  | false => cases h
  | true => exact h

/-- The state shows what it did before, and one output more. -/
def KeptState.Continues (files : KeptFiles) (kept : Kept) (s t : KeptState) : Prop :=
  ∃ outputs kept', t.log = s.log ++ outputs ∧ Trace Kept.Next kept outputs kept' ∧
    t.Holds files kept'

theorem KeptState.Holds.silent (h : t.Holds files kept) (hLog : t.log = s.log) :
    KeptState.Continues files kept s t :=
  ⟨[], kept, by rw [hLog, List.append_nil], Trace.nil kept, h⟩

theorem KeptState.Holds.shown {kept' : Kept} {output : KeptOutput} (h : t.Holds files kept')
    (hLog : t.log = s.log ++ [output]) (hNext : Kept.Next kept output kept') :
    KeptState.Continues files kept s t :=
  ⟨[output], kept', hLog, Trace.snoc (Trace.nil kept) hNext, h⟩

/-- The rename makes the rules those of the cache, everything before it happens to
the other file. -/
theorem holds_stepSave (hDistinct : files.Distinct) (hHolds : s.Holds files kept)
    (h : s.stepSave = some t) : KeptState.Continues files kept s t := by
  cases hSaving : s.saving with
  | none =>
      rw [KeptState.stepSave, hSaving] at h
      cases h
  | some save =>
      obtain ⟨rules, ops⟩ := save
      obtain ⟨hCodec, hRest⟩ := hHolds.saving rules ops hSaving
      cases ops with
      | nil =>
          have hNow := (hRest.resolve_right fun hReplacing => hReplacing.ne_nil rfl).2
          rw [KeptState.stepSave, hSaving] at h
          cases h
          have hHolds' : KeptState.Holds files kept
              { s with saving := none, log := s.log ++ [.saved rules] } := by
            refine ⟨hHolds.rules, hHolds.duid, ?_, hHolds.creating⟩
            intro _ _ hSome
            cases hSome
          exact hHolds'.shown rfl (.saved kept rules hNow)
      | cons op ops =>
          have hReplacing := hRest.resolve_left fun hDone => List.cons_ne_nil _ _ hDone.1
          have hSpares := hReplacing.mem_spares hDistinct.duid_tmp hDistinct.duid_cache op
            List.mem_cons_self
          have hDuid (duid : List U8) (hKept : kept.duid = some duid) :
              files.storedDuid (op.apply s.store) = some duid :=
            (storedDuid_congr hSpares.apply).trans (hHolds.duid duid hKept)
          have hCreating (duid : List U8) (ops : List FileOp) (hCreate : s.creating = some (duid, ops)) :
              4 ≤ duid.length ∧ kept.duid = none ∧ Writing files.duidFile duid (op.apply s.store) ops := by
            obtain ⟨hLength, hNone, hWriting⟩ := hHolds.creating duid ops hCreate
            exact ⟨hLength, hNone, hWriting.frame hSpares.apply⟩
          rcases hReplacing.step hDistinct.cache_tmp with ⟨rfl, hCache⟩ | ⟨hReplacing', hCache⟩
          · rw [KeptState.stepSave, hSaving] at h
            cases h
            have hHolds' : KeptState.Holds files { kept with rules := some rules }
                { s with
                  store := op.apply s.store
                  saving := some (rules, [])
                  log := s.log ++ [.renamed rules] } := by
              refine ⟨?_, hDuid, ?_, hCreating⟩
              · change (op.apply s.store files.mapRulesCacheFile).bind files.fromSlice = some rules
                rw [hCache]
                exact hCodec
              · intro _ _ hSome
                cases hSome
                exact ⟨hCodec, .inl ⟨rfl, rfl⟩⟩
            exact hHolds'.shown rfl (.renamed kept rules)
          · cases ops with
            | nil => exact absurd rfl hReplacing'.ne_nil
            | cons op' ops =>
                rw [KeptState.stepSave, hSaving] at h
                cases h
                refine KeptState.Holds.silent ⟨?_, hDuid, ?_, hCreating⟩ rfl
                · change (op.apply s.store files.mapRulesCacheFile).bind files.fromSlice = kept.rules
                  rw [hCache]
                  exact hHolds.rules
                · intro rules' ops' hSome
                  cases hSome
                  exact ⟨hCodec, .inr hReplacing'⟩

/-- The file is written piece by piece, and with the return its content is the DUID. -/
theorem holds_stepDuid (hDistinct : files.Distinct) (hHolds : s.Holds files kept)
    (h : s.stepDuid = some t) : KeptState.Continues files kept s t := by
  cases hCreating : s.creating with
  | none =>
      rw [KeptState.stepDuid, hCreating] at h
      cases h
  | some create =>
      obtain ⟨duid, ops⟩ := create
      obtain ⟨hLength, hNone, hWriting⟩ := hHolds.creating duid ops hCreating
      cases ops with
      | nil =>
          rw [KeptState.stepDuid, hCreating] at h
          cases h
          have hHolds' : KeptState.Holds files { kept with duid := some duid }
              { s with creating := none, log := s.log ++ [.duid duid] } := by
            refine ⟨hHolds.rules, ?_, hHolds.saving, fun _ _ hSome => by cases hSome⟩
            rintro _ ⟨⟩
            change (s.store files.duidFile).filter _ = some duid
            rw [hWriting.done]
            simp [hLength]
          exact hHolds'.shown rfl (.duid kept duid (.inl hNone))
      | cons op ops =>
          have hCache : op.apply s.store files.mapRulesCacheFile = s.store files.mapRulesCacheFile :=
            (hWriting.mem_spares hDistinct.duid_cache.symm op List.mem_cons_self).apply
          have hTmp : op.apply s.store files.tmpPath = s.store files.tmpPath :=
            (hWriting.mem_spares hDistinct.duid_tmp.symm op List.mem_cons_self).apply
          have hRules : files.loadRulesCache (op.apply s.store) = kept.rules := by
            rw [KeptFiles.loadRulesCache, hCache]
            exact hHolds.rules
          have hSaving (rules : List MapRule) (ops : List FileOp)
              (hSave : s.saving = some (rules, ops)) :
              files.fromSlice (files.toVec rules) = some rules ∧
                ((ops = [] ∧ kept.rules = some rules) ∨
                  Replacing files.tmpPath files.mapRulesCacheFile (files.toVec rules)
                    (op.apply s.store) ops) := by
            obtain ⟨hCodec, hRest⟩ := hHolds.saving rules ops hSave
            exact ⟨hCodec, hRest.imp id fun hReplacing => hReplacing.frame hTmp⟩
          rw [KeptState.stepDuid, hCreating] at h
          cases h
          refine KeptState.Holds.silent ⟨hRules, ?_, hSaving, ?_⟩ rfl
          · intro other hOther
            rw [hNone] at hOther
            cases hOther
          · intro duid' ops' hSome
            cases hSome
            exact ⟨hLength, hNone, hWriting.step.1⟩

/-- A DUID is created only where none is known, or where the known one is overlooked. -/
theorem holds_beginDuid {seen : Bool} {secs : Nat} {mac : BitVec 48} {pieces : List (List U8)}
    (hHolds : s.Holds files kept) (hIdle : s.creating = none)
    (h : s.beginDuid files seen secs mac pieces = some t) :
    KeptState.Continues files kept s t := by
  rw [KeptState.beginDuid] at h
  cases hSeen : if seen then files.storedDuid s.store else none with
  | some duid =>
      have hStored := storedDuid_of_seen hSeen
      rw [hSeen] at h
      cases h
      have hKnown : kept.duid = none ∨ kept.duid = some duid := by
        cases hDuid : kept.duid with
        | none => exact .inl rfl
        | some known => exact .inr ((hHolds.duid known hDuid).symm.trans hStored)
      have hHolds' : KeptState.Holds files { kept with duid := some duid }
          { s with log := s.log ++ [.duid duid] } := by
        refine ⟨hHolds.rules, ?_, hHolds.saving, ?_⟩
        · rintro _ ⟨⟩
          exact hStored
        · intro duid' ops hSome
          cases hIdle.symm.trans hSome
      exact hHolds'.shown rfl (.duid kept duid hKnown)
  | none =>
      rw [hSeen] at h
      simp only at h
      split_ifs at h with hPieces hStored
      · cases h
        have hHolds' : KeptState.Holds files { kept with duid := none }
            { s with
              creating := some (duidLlt secs mac, write files.duidFile pieces)
              log := s.log ++ [.overlooked] } := by
          refine ⟨hHolds.rules, (fun _ hSome => by cases hSome), hHolds.saving, ?_⟩
          intro duid ops hSome
          cases hSome
          exact ⟨by simp [length_duidLlt], rfl, .all pieces hPieces⟩
        exact hHolds'.shown rfl (.overlooked kept)
      · cases h
        refine KeptState.Holds.silent ⟨hHolds.rules, hHolds.duid, hHolds.saving, ?_⟩
          (List.append_nil _)
        intro duid ops hSome
        cases hSome
        refine ⟨by simp [length_duidLlt], ?_, .all pieces hPieces⟩
        cases hDuid : kept.duid with
        | none => rfl
        | some known =>
            rw [hHolds.duid known hDuid] at hStored
            exact absurd rfl hStored

/-- One step of whichever process. -/
theorem holds_step (hDistinct : files.Distinct) (hHolds : s.Holds files kept)
    (hRoundTrips : files.RoundTrips s action) (h : s.step files action = some t) :
    KeptState.Continues files kept s t := by
  cases action with
  | load =>
      cases h
      refine KeptState.Holds.shown ⟨hHolds.rules, hHolds.duid, hHolds.saving, hHolds.creating⟩ rfl ?_
      rw [hHolds.rules]
      exact .loaded kept
  | failLoad =>
      cases h
      exact KeptState.Holds.shown ⟨hHolds.rules, hHolds.duid, hHolds.saving, hHolds.creating⟩ rfl
        (.unreadable kept)
  | beginSave rules pieces =>
      rw [KeptState.step] at h
      split_ifs at h with hBegin
      cases h
      refine KeptState.Holds.silent ⟨hHolds.rules, hHolds.duid, ?_, hHolds.creating⟩ rfl
      intro rules' ops hSome
      cases hSome
      have hReplacing := replacing_replace files.tmpPath files.mapRulesCacheFile s.store pieces
      rw [hBegin.2] at hReplacing
      exact ⟨hRoundTrips, .inr hReplacing⟩
  | stepSave => exact holds_stepSave hDistinct hHolds h
  | failSave =>
      rw [KeptState.step, KeptState.failSave] at h
      split at h
      · cases h
      · cases h
        refine KeptState.Holds.silent ⟨hHolds.rules, hHolds.duid, ?_, hHolds.creating⟩ rfl
        intro _ _ hSome
        cases hSome
  | beginDuid seen secs mac pieces =>
      rw [KeptState.step] at h
      split_ifs at h with hIdle
      exact holds_beginDuid hHolds hIdle h
  | stepDuid => exact holds_stepDuid hDistinct hHolds h
  | failDuid =>
      rw [KeptState.step, KeptState.failDuid] at h
      split at h
      · cases h
      · cases h
        refine KeptState.Holds.silent ⟨hHolds.rules, hHolds.duid, hHolds.saving, ?_⟩ rfl
        intro _ _ hSome
        cases hSome
  | crash =>
      cases h
      refine KeptState.Holds.silent ⟨hHolds.rules, hHolds.duid, ?_, ?_⟩ rfl
      · intro _ _ hSome
        cases hSome
      · intro _ _ hSome
        cases hSome

/-- By induction over the steps of all processes. -/
theorem shows_of_run {store : FileStore} {actions : List KeptAction} (hDistinct : files.Distinct)
    (run : Run (KeptState.step files) files.RoundTrips (KeptState.initial store) actions t) :
    Shows Kept.Next (KeptState.Holds files) KeptState.log ⟨files.loadRulesCache store, none⟩ t := by
  apply run.invariant
  · rintro s action t ⟨kept, trace, hHolds⟩ hRoundTrips hStep
    obtain ⟨outputs, kept', hLog, hOutputs, hHolds'⟩ := holds_step hDistinct hHolds hRoundTrips hStep
    exact ⟨kept', hLog ▸ trace.trans hOutputs, hHolds'⟩
  · refine ⟨_, Trace.nil _, rfl, ?_, ?_, ?_⟩
    · intro _ hSome
      cases hSome
    · intro _ _ hSome
      cases hSome
    · intro _ _ hSome
      cases hSome

end Refinement

/-- Over all processes the files are an atomic register of rules, which a save sets
with its rename and before it returns, and a cell for one DUID, which is lost only where
it is overlooked: what the functions return is a history of these, however the two
tasks interleave, whichever operations fail and wherever a process ends, and the
register is what the next start would load. -/
theorem kept_refines (files : KeptFiles) (hDistinct : files.Distinct) (store : FileStore)
    {actions : List KeptAction} {finish : KeptState}
    (run : Run (KeptState.step files) files.RoundTrips (KeptState.initial store) actions finish) :
    ∃ kept, Trace Kept.Next ⟨files.loadRulesCache store, none⟩ finish.log kept ∧
      files.loadRulesCache finish.store = kept.rules ∧
      ∀ duid, kept.duid = some duid → files.storedDuid finish.store = some duid := by
  obtain ⟨kept, trace, hHolds⟩ := shows_of_run hDistinct run
  exact ⟨kept, trace, hHolds.rules, hHolds.duid⟩

/-- The default paths, and the text of a list without rules. -/
def defaultFiles : KeptFiles :=
  { mapRulesCacheFile := ⟨"/run/mapecd", "rules", some "cache"⟩
    duidFile := ⟨"/var/lib/mapecd", "duid", none⟩
    toVec := fun rules => if rules = [] then [0x5b, 0x5d] else []
    fromSlice := fun data => if data = [0x5b, 0x5d] then some [] else none }

theorem defaultFiles_distinct : defaultFiles.Distinct := ⟨by decide, by decide, by decide⟩

def emptyStore : FileStore := fun _ => none

/-- The first save ends in the middle with its process, and the next start loads
nothing. The second one ends behind its rename, and the start after that loads it. -/
theorem kept_refines_crash :
    ∃ kept, Trace Kept.Next ⟨none, none⟩
        [.loaded none, .renamed [], .loaded (some []), .renamed [], .saved []] kept ∧
      kept.rules = some [] := by
  have hLog : (runAll (guarded (KeptState.step defaultFiles) defaultFiles.RoundTrips)
      [.beginSave [] [[0x5b], [0x5d]], .stepSave, .stepSave, .crash, .load,
        .beginSave [] [[0x5b, 0x5d]], .stepSave, .stepSave, .stepSave, .crash, .load,
        .beginSave [] [[0x5b, 0x5d]], .stepSave, .stepSave, .stepSave, .stepSave]
      (KeptState.initial emptyStore)).map
        (fun s => (s.log, defaultFiles.loadRulesCache s.store)) =
      some ([.loaded none, .renamed [], .loaded (some []), .renamed [], .saved []], some []) := by
    decide +kernel
  obtain ⟨finish, hRun, hFinish⟩ := Option.map_eq_some_iff.mp hLog
  obtain ⟨hOutputs, hRules⟩ := Prod.mk.inj hFinish
  obtain ⟨kept, trace, hKept, -⟩ :=
    kept_refines defaultFiles defaultFiles_distinct emptyStore (Run.of_runAll hRun)
  rw [hOutputs] at trace
  exact ⟨kept, trace, hKept.symm.trans hRules⟩

section Duid

variable {files : KeptFiles} {s t : KeptState} {kept kept' : Kept} {action : KeptAction}
  {store : FileStore} {Generated : List U8 → Prop} {log : List KeptOutput} {duid : List U8}

/-- What is in the file from the start, or the first part of a new DUID. -/
def KeptFiles.Known (files : KeptFiles) (store : FileStore) (Generated : List U8 → Prop)
    (data : List U8) : Prop :=
  store files.duidFile = some data ∨ ∃ whole, Generated whole ∧ data <+: whole

/-- Nothing else is found in the file of the DUID or returned from it. -/
structure KeptState.Stems (files : KeptFiles) (store : FileStore) (Generated : List U8 → Prop)
    (s : KeptState) : Prop where
  file : ∀ data, s.store files.duidFile = some data → files.Known store Generated data
  creating : ∀ duid ops, s.creating = some (duid, ops) → Generated duid
  log : ∀ duid, KeptOutput.duid duid ∈ s.log → 4 ≤ duid.length ∧ files.Known store Generated duid

theorem length_of_storedDuid {store : FileStore} (h : files.storedDuid store = some duid) :
    store files.duidFile = some duid ∧ 4 ≤ duid.length := by
  obtain ⟨hSome, hLength⟩ := Option.filter_eq_some_iff.mp h
  exact ⟨hSome, of_decide_eq_true hLength⟩

/-- Where none is overlooked, all DUIDs of a history are the one that is known at its end. -/
theorem duid_known (trace : Trace Kept.Next kept log kept') (hSeen : KeptOutput.overlooked ∉ log)
    (hMem : .duid duid ∈ log) : kept'.duid = some duid := by
  induction trace with
  | nil => cases hMem
  | snoc prior next ih =>
      rcases List.mem_append.mp hMem with hPrior | hLast
      · have hKnown := ih (fun hBefore => hSeen (List.mem_append_left _ hBefore)) hPrior
        cases next with
        | loaded => exact hKnown
        | unreadable => exact hKnown
        | renamed => exact hKnown
        | saved => exact hKnown
        | overlooked => exact absurd (List.mem_append_right _ List.mem_cons_self) hSeen
        | duid other known =>
            rcases known with hNone | hSome
            · cases hKnown.symm.trans hNone
            · exact hSome.symm.trans hKnown
      · cases List.mem_singleton.mp hLast
        cases next
        rfl

/-- Steps that do not come near the DUID. -/
theorem KeptState.Stems.silent (h : s.Stems files store Generated)
    (hFile : t.store files.duidFile = s.store files.duidFile) (hCreating : t.creating = s.creating ∨ t.creating = none)
    (hLog : ∀ duid, KeptOutput.duid duid ∈ t.log → .duid duid ∈ s.log) :
    t.Stems files store Generated := by
  refine ⟨fun data hData => h.file data (hFile.symm.trans hData), ?_,
    fun duid hMem => h.log duid (hLog duid hMem)⟩
  intro duid ops hSome
  rcases hCreating with hSame | hNone
  · exact h.creating duid ops (hSame.symm.trans hSome)
  · cases hNone.symm.trans hSome

/-- Each piece makes the file a longer part of what was generated. -/
theorem stems_stepDuid (hHolds : s.Holds files kept) (hStems : s.Stems files store Generated)
    (h : s.stepDuid = some t) : t.Stems files store Generated := by
  cases hCreating : s.creating with
  | none =>
      rw [KeptState.stepDuid, hCreating] at h
      cases h
  | some create =>
      obtain ⟨duid, ops⟩ := create
      obtain ⟨hLength, -, hWriting⟩ := hHolds.creating duid ops hCreating
      have hGenerated := hStems.creating duid ops hCreating
      rw [KeptState.stepDuid, hCreating] at h
      cases ops with
      | nil =>
          cases h
          refine ⟨hStems.file, (fun _ _ hSome => by cases hSome), ?_⟩
          intro other hMem
          rcases List.mem_append.mp hMem with hPrior | hLast
          · exact hStems.log other hPrior
          · cases List.mem_singleton.mp hLast
            exact ⟨hLength, .inr ⟨duid, hGenerated, List.prefix_refl duid⟩⟩
      | cons op ops =>
          obtain ⟨-, written, hNow, hPrefix⟩ := hWriting.step
          cases h
          refine ⟨?_, ?_, hStems.log⟩
          · intro data hData
            cases hNow.symm.trans hData
            exact .inr ⟨duid, hGenerated, hPrefix⟩
          · intro _ _ hSome
            cases hSome
            exact hGenerated

/-- What is found is what the file holds, anything else is generated now. -/
theorem stems_beginDuid {seen : Bool} {secs : Nat} {mac : BitVec 48} {pieces : List (List U8)}
    (hStems : s.Stems files store Generated) (hGenerated : Generated (duidLlt secs mac))
    (h : s.beginDuid files seen secs mac pieces = some t) : t.Stems files store Generated := by
  rw [KeptState.beginDuid] at h
  cases hSeen : if seen then files.storedDuid s.store else none with
  | some duid =>
      have hStored := storedDuid_of_seen hSeen
      rw [hSeen] at h
      cases h
      obtain ⟨hFile, hLength⟩ := length_of_storedDuid hStored
      refine ⟨hStems.file, hStems.creating, ?_⟩
      intro other hMem
      rcases List.mem_append.mp hMem with hPrior | hLast
      · exact hStems.log other hPrior
      · cases List.mem_singleton.mp hLast
        exact ⟨hLength, hStems.file duid hFile⟩
  | none =>
      rw [hSeen] at h
      simp only at h
      split_ifs at h
      all_goals
        cases h
        refine ⟨hStems.file, ?_, fun duid hMem => hStems.log duid (by simpa using hMem)⟩
        intro duid ops hSome
        cases hSome
        exact hGenerated

/-- A save leaves the file of the DUID alone. -/
theorem stepSave_duidFile (hDistinct : files.Distinct) (hHolds : s.Holds files kept)
    (h : s.stepSave = some t) :
    t.store files.duidFile = s.store files.duidFile ∧ t.creating = s.creating ∧
      ∀ duid, KeptOutput.duid duid ∈ t.log → .duid duid ∈ s.log := by
  cases hSaving : s.saving with
  | none =>
      rw [KeptState.stepSave, hSaving] at h
      cases h
  | some save =>
      obtain ⟨rules, ops⟩ := save
      obtain ⟨-, hRest⟩ := hHolds.saving rules ops hSaving
      rw [KeptState.stepSave, hSaving] at h
      cases ops with
      | nil =>
          cases h
          exact ⟨rfl, rfl, fun duid hMem => by simpa using hMem⟩
      | cons op ops =>
          have hReplacing := hRest.resolve_left fun hDone => List.cons_ne_nil _ _ hDone.1
          have hSpares := hReplacing.mem_spares hDistinct.duid_tmp hDistinct.duid_cache
          have hSame : op.apply s.store files.duidFile = s.store files.duidFile :=
            (hSpares op List.mem_cons_self).apply
          cases ops with
          | nil =>
              cases h
              exact ⟨hSame, rfl, fun duid hMem => by simpa using hMem⟩
          | cons op' ops =>
              cases h
              exact ⟨hSame, rfl, fun _ hMem => hMem⟩

/-- One step of whichever process. -/
theorem stems_step (hDistinct : files.Distinct) (hHolds : s.Holds files kept)
    (hStems : s.Stems files store Generated)
    (hGenerated : ∀ seen secs mac pieces, action = .beginDuid seen secs mac pieces →
      Generated (duidLlt secs mac))
    (h : s.step files action = some t) : t.Stems files store Generated := by
  cases action with
  | load =>
      cases h
      exact hStems.silent rfl (.inl rfl) fun duid hMem => by simpa using hMem
  | failLoad =>
      cases h
      exact hStems.silent rfl (.inl rfl) fun duid hMem => by simpa using hMem
  | beginSave rules pieces =>
      rw [KeptState.step] at h
      split_ifs at h
      cases h
      exact hStems.silent rfl (.inl rfl) fun _ hMem => hMem
  | stepSave =>
      obtain ⟨hFile, hCreating, hLog⟩ := stepSave_duidFile hDistinct hHolds h
      exact hStems.silent hFile (.inl hCreating) hLog
  | failSave =>
      rw [KeptState.step, KeptState.failSave] at h
      split at h
      · cases h
      · cases h
        exact hStems.silent rfl (.inl rfl) fun _ hMem => hMem
  | beginDuid seen secs mac pieces =>
      rw [KeptState.step] at h
      split_ifs at h
      exact stems_beginDuid hStems (hGenerated seen secs mac pieces rfl) h
  | stepDuid => exact stems_stepDuid hHolds hStems h
  | failDuid =>
      rw [KeptState.step, KeptState.failDuid] at h
      split at h
      · cases h
      · cases h
        exact hStems.silent rfl (.inr rfl) fun _ hMem => hMem
  | crash =>
      cases h
      exact hStems.silent rfl (.inr rfl) fun _ hMem => hMem

end Duid

/-- All starts that get a DUID get the same one unless one is overlooked. It has four
bytes or more and is what was in the file at first, or the first part of a DUID-LLT
that one of them has created. -/
theorem duid_stays (files : KeptFiles) (hDistinct : files.Distinct) (store : FileStore)
    {actions : List KeptAction} {finish : KeptState}
    (run : Run (KeptState.step files) files.RoundTrips (KeptState.initial store) actions finish) :
    (KeptOutput.overlooked ∉ finish.log → ∀ duid duid', KeptOutput.duid duid ∈ finish.log →
      KeptOutput.duid duid' ∈ finish.log → duid = duid') ∧
    ∀ duid, KeptOutput.duid duid ∈ finish.log → 4 ≤ duid.length ∧
      (store files.duidFile = some duid ∨ ∃ seen secs mac pieces,
        KeptAction.beginDuid seen secs mac pieces ∈ actions ∧ duid <+: duidLlt secs mac) := by
  constructor
  · intro hSeen duid duid' hMem hMem'
    obtain ⟨kept, trace, -⟩ := shows_of_run hDistinct run
    have hKnown := duid_known trace hSeen hMem
    exact Option.some.inj (hKnown.symm.trans (duid_known trace hSeen hMem'))
  · let Generated (whole : List U8) : Prop := ∃ seen secs mac pieces,
      KeptAction.beginDuid seen secs mac pieces ∈ actions ∧ whole = duidLlt secs mac
    have hInvariant : (∃ kept, finish.Holds files kept) ∧ finish.Stems files store Generated := by
      apply run.mem.invariant (P := fun s => (∃ kept, s.Holds files kept) ∧
        s.Stems files store Generated)
      · rintro s action t ⟨⟨kept, hHolds⟩, hStems⟩ ⟨hRoundTrips, hMem⟩ hStep
        obtain ⟨outputs, kept', -, -, hHolds'⟩ := holds_step hDistinct hHolds hRoundTrips hStep
        refine ⟨⟨kept', hHolds'⟩, stems_step hDistinct hHolds hStems ?_ hStep⟩
        rintro seen secs mac pieces rfl
        exact ⟨seen, secs, mac, pieces, hMem, rfl⟩
      · obtain ⟨kept, -, hHolds⟩ := shows_of_run hDistinct (Run.nil (KeptState.initial store))
        refine ⟨⟨kept, hHolds⟩, fun data hData => .inl hData, ?_, ?_⟩
        · intro _ _ hSome
          cases hSome
        · intro _ hMem
          cases hMem
    intro duid hMem
    obtain ⟨hLength, hKnown⟩ := hInvariant.2.log duid hMem
    refine ⟨hLength, hKnown.imp id ?_⟩
    rintro ⟨whole, ⟨seen, secs, mac, pieces, hBegin, rfl⟩, hPrefix⟩
    exact ⟨seen, secs, mac, pieces, hBegin, hPrefix⟩

/-- A start that overlooks the DUID of the one before returns another one. -/
example : (runAll (KeptState.step defaultFiles)
    [.beginDuid true 946684801 0 [duidLlt 946684801 0], .stepDuid, .stepDuid, .stepDuid,
      .beginDuid false 946684802 0 [duidLlt 946684802 0], .stepDuid, .stepDuid, .stepDuid]
    (KeptState.initial emptyStore)).map KeptState.log =
    some [.duid (duidLlt 946684801 0), .overlooked, .duid (duidLlt 946684802 0)] := by
  decide +kernel

/-- A process that ends after five bytes leaves them to all later ones as the DUID. -/
theorem duid_stays_crash :
    ∃ finish : KeptState, finish.log = [.duid [0, 1, 0, 1, 0x2f]] ∧
      ∀ duid, KeptOutput.duid duid ∈ finish.log → 4 ≤ duid.length := by
  have hLog : (runAll (guarded (KeptState.step defaultFiles) defaultFiles.RoundTrips)
      [.beginDuid true 1735689600 0x525400123456
          [[0, 1, 0, 1, 0x2f], [0x07, 0x42, 0x00, 0x52, 0x54, 0x00, 0x12, 0x34, 0x56]],
        .stepDuid, .stepDuid, .crash, .beginDuid true 1735689601 0x525400123456 []]
      (KeptState.initial emptyStore)).map KeptState.log =
      some [.duid [0, 1, 0, 1, 0x2f]] := by
    decide +kernel
  obtain ⟨finish, hRun, hOutputs⟩ := Option.map_eq_some_iff.mp hLog
  refine ⟨finish, hOutputs, fun duid hMem => ?_⟩
  exact ((duid_stays defaultFiles defaultFiles_distinct emptyStore (Run.of_runAll hRun)).2 duid
    hMem).1

end Mapecd
