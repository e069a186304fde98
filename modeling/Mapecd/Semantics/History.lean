import Mapecd.Semantics.Requests

/-! The states that a program takes the system through, one after each request.
The program can be stopped between any two requests. -/
namespace Effects

variable {κ σ ν ε α β : Type}

/-- The system is in `S` now and was in `P` all the time before. -/
structure World.Within (S P : κ → Prop) (f : Nat → Option ν) (w : World κ σ ν) : Prop where
  now : S w.sys
  before : ∀ k ∈ w.history, P k
  faults : w.faults = f

namespace World.Within

variable {S S' P : κ → Prop} {f : Nat → Option ν} {w : World κ σ ν}

theorem refuse (h : w.Within S P f) : w.refuse.Within S P f := ⟨h.now, h.before, h.faults⟩

theorem withState (h : w.Within S P f) (s : σ) : (w.withState s).Within S P f :=
  ⟨h.now, h.before, h.faults⟩

theorem weaken (h : w.Within S P f) (hSS' : ∀ k, S k → S' k) : w.Within S' P f :=
  ⟨hSS' _ h.now, h.before, h.faults⟩

theorem shift (h : w.Within S P f) (hSP : ∀ k, S' k → P k) {k : κ} (hk : S' k) :
    (w.shift k).Within S' P f := by
  refine ⟨hk, ?_, h.faults⟩
  intro k' hMem
  rcases List.mem_cons.mp hMem with rfl | hMem
  · exact hSP _ hk
  · exact h.before k' hMem

theorem advance (h : w.Within S P f) (hSP : ∀ k, S' k → P k) {k : κ} (hk : S' k) :
    (w.advance k).Within S' P f :=
  (h.shift hSP hk).refuse

end World.Within

/-- `x` does not leave `S`, at no request, whether it returns, fails or panics.
What held before need not be `S`, but something weaker. -/
def Stays (S : κ → Prop) (x : Program ε (World κ σ ν) α) : Prop :=
  ∀ (P : κ → Prop) (f : Nat → Option ν), (∀ k, S k → P k) → ∀ w, w.Within S P f →
    wp x (fun _ w' => w'.Within S P f) (fun _ w' => w'.Within S P f) w

/-- A request that leads from `S` to `S'`, or is refused. -/
theorem World.Within.wp_issue {S P : κ → Prop} {S' : α → κ → Prop} {f : Nat → Option ν}
    {w : World κ σ ν} {op : Operation κ ν α} {post : α → World κ σ ν → Prop}
    {stop : Failure ν → World κ σ ν → Prop} (h : w.Within S P f)
    (hOp : ∀ k a k', S k → op k = .ok (a, k') → S' a k') (hSP : ∀ a k, S' a k → P k)
    (hRefused : ∀ e w', w'.state = w.state → w'.Within S P f → stop (.error e) w')
    (hDone : ∀ a w', w'.state = w.state → w'.Within (S' a) P f → post a w') :
    wp (issue op) post stop w := by
  apply Effects.wp_issue
  · exact fun e _ => hRefused e _ rfl h.refuse
  · exact fun a k _ hOk => hDone a _ rfl (h.advance (hSP a) (hOp _ a k h.now hOk))

section Rules

variable {S : κ → Prop}

theorem Stays.pure (a : α) : Stays S (pure a : Program ε (World κ σ ν) α) := fun _ _ _ _ h => h

theorem Stays.fail (e : ε) : Stays S (fail e : Program ε (World κ σ ν) α) := fun _ _ _ _ h => h

theorem Stays.checked (x : Checked.Result α) :
    Stays S (checked x : Program ε (World κ σ ν) α) := by
  intro P _ _ w h
  cases x with
  | some a => exact h
  | none => exact h

theorem Stays.getState : Stays S (getState : Program ε (World κ σ ν) σ) := fun _ _ _ _ h => h

theorem Stays.modifyState (f : σ → σ) :
    Stays S (modifyState f : Program ε (World κ σ ν) Unit) := fun _ _ _ w h => h.withState (f w.state)

theorem Stays.issue {op : Operation κ ν α} (h : ∀ k a k', S k → op k = .ok (a, k') → S k') :
    Stays S (issue op : Program ν (World κ σ ν) α) := by
  intro P f hSP w hw
  apply wp_issue
  · exact fun _ _ => hw.refuse
  · exact fun a k _ hOp => hw.advance hSP (h _ a k hw.now hOp)

theorem Stays.internal {f : κ → κ} (h : ∀ k, S k → S (f k)) :
    Stays S (internal f : Program ε (World κ σ ν) Unit) :=
  fun _ _ hSP _ hw => hw.shift hSP (h _ hw.now)

theorem Stays.bind {x : Program ε (World κ σ ν) β} {f : β → Program ε (World κ σ ν) α}
    (hx : Stays S x) (hf : ∀ b, Stays S (f b)) : Stays S (x >>= f) := by
  intro P f hSP w h
  rw [wp_bind]
  exact wp_mono (hx P f hSP w h) (fun b w' h' => hf b P f hSP w' h') fun _ _ h' => h'

/-- A caught error leaves the history as it was at the error. -/
theorem Stays.attempt {x : Program ε (World κ σ ν) α} (hx : Stays S x) : Stays S (attempt x) := by
  intro P f hSP w h
  rw [wp_attempt]
  refine wp_mono (hx P f hSP w h) (fun _ _ h' => h') ?_
  intro failure w' h'
  cases failure with
  | error e => exact h'
  | panic => exact h'

theorem Stays.ignore {x : Program ε (World κ σ ν) α} (hx : Stays S x) : Stays S (ignore x) :=
  Stays.bind (Stays.attempt hx) fun _ => Stays.pure _

theorem Stays.mapErr {δ : Type} {f : ε → δ} {x : Program ε (World κ σ ν) α} (hx : Stays S x) :
    Stays S (mapErr f x) := by
  intro P f hSP w h
  rw [wp_mapErr]
  exact hx P f hSP w h

/-- A loop stays in `S` if its body does. -/
theorem Stays.forM {f : α → Program ε (World κ σ ν) PUnit} (xs : List α)
    (hf : ∀ a ∈ xs, Stays S (f a)) : Stays S (xs.forM f) := by
  induction xs with
  | nil => exact Stays.pure _
  | cons x xs ih =>
      rw [List.forM_eq_forM, List.forM_cons]
      exact Stays.bind (hf x List.mem_cons_self) fun _ =>
        ih fun a hMem => hf a (List.mem_cons_of_mem _ hMem)

/-- A program that moves the system by steps that stay in `S`. -/
theorem Steps.stays {R : κ → κ → Prop} {x : Program ε (World κ σ ν) α} (hx : Steps R x)
    (h : ∀ k k', S k → R k k' → S k') : Stays S x := by
  intro P f hSP w hw
  refine wp_mono (hx (fun w => w.Within S P f) (fun _ h' => h'.refuse) ?_ w hw) (fun _ _ h' => h')
    fun _ _ h' => h'.2
  intro w' k hw' hR
  have hk : S k := h _ _ hw'.now hR
  exact ⟨hw'.advance hSP hk, hw'.shift hSP hk⟩

end Rules

section Ends

variable {x : Program ε (World κ σ ν) α} {w : World κ σ ν} {S P : κ → Prop}
  {f : Nat → Option ν}

/-- The world in which `x` ends, in whatever way. -/
def endOf (x : Program ε (World κ σ ν) α) (w : World κ σ ν) : World κ σ ν :=
  match x w with
  | .ok _ w' => w'
  | .error _ w' => w'

/-- What holds behind every outcome holds of the last world. -/
theorem endOf_of_wp (Q : World κ σ ν → Prop) (h : wp x (fun _ => Q) (fun _ => Q) w) :
    Q (endOf x w) := by
  unfold endOf
  unfold wp at h
  cases hRun : x w with
  | ok a w' =>
      rw [hRun] at h
      exact h
  | error f w' =>
      rw [hRun] at h
      exact h

theorem Stays.endOf (hx : Stays S x) (hSP : ∀ k, S k → P k) (h : w.Within S P f) :
    (endOf x w).Within S P f :=
  endOf_of_wp _ (hx P f hSP w h)

end Ends

end Effects
