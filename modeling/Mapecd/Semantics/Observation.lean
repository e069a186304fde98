import Mapecd.Semantics.Runs

/-! What can be seen of a machine that keeps a log, compared with a relation
between the phases of a protocol. A step of the machine may show nothing, or
several outputs at once. -/
namespace Runs

variable {σ α ω Φ : Type}

/-- The outputs lead from one phase to another, one after the other. -/
inductive Trace (Next : Φ → ω → Φ → Prop) : Φ → List ω → Φ → Prop where
  | nil (first : Φ) : Trace Next first [] first
  | snoc {first middle last : Φ} {outputs : List ω} {output : ω}
      (prior : Trace Next first outputs middle) (next : Next middle output last) :
      Trace Next first (outputs ++ [output]) last

/-- The log shows a trace to a phase that matches the state. -/
def Shows (Next : Φ → ω → Φ → Prop) (Matches : Φ → σ → Prop) (outputs : σ → List ω) (first : Φ)
    (state : σ) : Prop :=
  ∃ phase, Trace Next first (outputs state) phase ∧ Matches phase state

variable {Next : Φ → ω → Φ → Prop} {first middle last : Φ} {before after outputs : List ω}
  {output : ω}

theorem Trace.trans (left : Trace Next first before middle) (right : Trace Next middle after last) :
    Trace Next first (before ++ after) last := by
  induction right with
  | nil => rwa [List.append_nil]
  | snoc prior next ih =>
      rw [← List.append_assoc]
      exact Trace.snoc ih next

/-- The step that an output in the middle of a trace stands for. -/
theorem Trace.split (trace : Trace Next first (before ++ output :: after) last) :
    ∃ middle middle', Trace Next first before middle ∧ Next middle output middle' ∧
      Trace Next middle' after last := by
  generalize hOutputs : before ++ output :: after = outputs at trace
  induction trace generalizing after with
  | nil => simp at hOutputs
  | snoc prior next ih =>
      rename_i middle last outputs' output'
      rcases List.eq_nil_or_concat after with rfl | ⟨rest, final, rfl⟩
      · obtain ⟨rfl, hSame⟩ := List.append_inj' hOutputs rfl
        cases hSame
        exact ⟨middle, last, prior, next, Trace.nil last⟩
      · rw [List.concat_eq_append, ← List.cons_append, ← List.append_assoc] at hOutputs
        obtain ⟨hInit, hFinal⟩ := List.append_inj' hOutputs rfl
        cases hFinal
        obtain ⟨phase, phase', hBefore, hStep, hRest⟩ := ih hInit
        refine ⟨phase, phase', hBefore, hStep, ?_⟩
        rw [List.concat_eq_append]
        exact Trace.snoc hRest next

/-- The last output of a trace, unless it has none. -/
theorem Trace.last_cases (trace : Trace Next first outputs last) :
    (outputs = [] ∧ last = first) ∨
      ∃ before output middle, outputs = before ++ [output] ∧ Trace Next first before middle ∧
        Next middle output last := by
  cases trace with
  | nil => exact .inl ⟨rfl, rfl⟩
  | snoc prior next => exact .inr ⟨_, _, _, rfl, prior, next⟩

/-- The first output of a trace. -/
theorem Trace.head (trace : Trace Next first (output :: after) last) :
    ∃ middle, Next first output middle ∧ Trace Next middle after last := by
  obtain ⟨middle, middle', hNil, hNext, hAfter⟩ :=
    Trace.split (show Trace Next first ([] ++ output :: after) last from trace)
  rcases hNil.last_cases with ⟨-, rfl⟩ | ⟨_, _, _, hEmpty, -⟩
  · exact ⟨middle', hNext, hAfter⟩
  · simp at hEmpty

/-- Where no output is possible the trace ends. -/
theorem Trace.eq_nil (trace : Trace Next first outputs last)
    (h : ∀ output phase, ¬ Next first output phase) : outputs = [] := by
  cases outputs with
  | nil => rfl
  | cons output rest =>
      obtain ⟨middle, hNext, -⟩ := trace.head
      exact absurd hNext (h output middle)

end Runs
