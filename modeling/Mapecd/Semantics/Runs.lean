import Mathlib.Tactic

/-! Runs of a state machine whose actions are not always possible. -/
namespace Runs

variable {σ α : Type}

/-- The actions of a run, the last one at the end. Each was possible and allowed
in the state before it. -/
inductive Run (step : σ → α → Option σ) (Allowed : σ → α → Prop) : σ → List α → σ → Prop where
  | nil (start : σ) : Run step Allowed start [] start
  | snoc {start middle finish : σ} {actions : List α} {action : α}
      (prior : Run step Allowed start actions middle) (allowed : Allowed middle action)
      (last : step middle action = some finish) :
      Run step Allowed start (actions ++ [action]) finish

/-- No restriction. -/
def Free (_ : σ) (_ : α) : Prop := True

instance (state : σ) (action : α) : Decidable (Free state action) := .isTrue trivial

/-- The step with its restriction as a guard. -/
def guarded (step : σ → α → Option σ) (Allowed : σ → α → Prop)
    [∀ state action, Decidable (Allowed state action)] (state : σ) (action : α) : Option σ :=
  if Allowed state action then step state action else none

/-- The state after a list of actions. -/
def runAll (step : σ → α → Option σ) : List α → σ → Option σ
  | [], state => some state
  | action :: actions, state => (step state action).bind (runAll step actions)

variable {step : σ → α → Option σ} {Allowed Allowed' : σ → α → Prop} {start middle finish : σ}
  {actions rest : List α}

/-- What every allowed step keeps holds at the end of every run. -/
theorem Run.invariant {P : σ → Prop}
    (hStep : ∀ s a t, P s → Allowed s a → step s a = some t → P t)
    (run : Run step Allowed start actions finish) (hStart : P start) : P finish := by
  induction run with
  | nil => exact hStart
  | snoc prior allowed last ih => exact hStep _ _ _ ih allowed last

theorem Run.mono (run : Run step Allowed start actions finish)
    (h : ∀ state action, Allowed state action → Allowed' state action) :
    Run step Allowed' start actions finish := by
  induction run with
  | nil => exact Run.nil _
  | snoc prior allowed last ih => exact Run.snoc ih (h _ _ allowed) last

/-- The actions of a run may be told apart from all others. -/
theorem Run.mem (run : Run step Allowed start actions finish) :
    Run step (fun state action => Allowed state action ∧ action ∈ actions) start actions finish := by
  induction run with
  | nil => exact Run.nil _
  | snoc prior allowed last ih =>
      refine Run.snoc (ih.mono ?_) ⟨allowed, List.mem_append_right _ List.mem_cons_self⟩ last
      exact fun _ _ h => ⟨h.1, List.mem_append_left _ h.2⟩

/-- Two runs one after the other. -/
theorem Run.trans (left : Run step Allowed start actions middle)
    (right : Run step Allowed middle rest finish) :
    Run step Allowed start (actions ++ rest) finish := by
  induction right with
  | nil => simpa using left
  | snoc prior allowed last ih =>
      rw [← List.append_assoc]
      exact Run.snoc ih allowed last

theorem Run.single {action : α} (allowed : Allowed start action)
    (last : step start action = some finish) : Run step Allowed start [action] finish :=
  Run.snoc (Run.nil start) allowed last

/-- What can be computed is a run. -/
theorem Run.of_runAll [∀ state action, Decidable (Allowed state action)]
    (h : runAll (guarded step Allowed) actions start = some finish) :
    Run step Allowed start actions finish := by
  induction actions generalizing start with
  | nil =>
      cases h
      exact Run.nil _
  | cons action actions ih =>
      obtain ⟨next, hNext, hRest⟩ := Option.bind_eq_some_iff.mp h
      by_cases hAllowed : Allowed start action
      · rw [guarded, if_pos hAllowed] at hNext
        exact (Run.single hAllowed hNext).trans (ih hRest)
      · rw [guarded, if_neg hAllowed] at hNext
        cases hNext

end Runs
