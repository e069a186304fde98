import Mapecd.Semantics.History

/-! Programs that do with the system what they like, but change the local state in
known ways only. The history forgets nothing, so the end of a run tells whether the
system has left a set of states on the way. -/
namespace Effects

variable {κ σ ν ε α β : Type}

/-- `I` survives whatever happens to the system, and steps of `R` of the local state. -/
structure Tracks (R : σ → σ → Prop) (I : World κ σ ν → Prop) : Prop where
  refuse : ∀ w, I w → I w.refuse
  advance : ∀ w k, I w → I (w.advance k)
  shift : ∀ w k, I w → I (w.shift k)
  withState : ∀ w s, I w → R w.state s → I (w.withState s)

/-- `x` changes the local state by steps of `R` only, however it ends. Nothing is
said about the system. -/
def Confined (R : σ → σ → Prop) (x : Program ε (World κ σ ν) α) : Prop :=
  ∀ I : World κ σ ν → Prop, Tracks R I → ∀ w, I w → wp x (fun _ => I) (fun _ => I) w

/-- Observation begins here. -/
def World.observed (w : World κ σ ν) : World κ σ ν := { w with history := [w.sys] }

section Rules

variable {R R' : σ → σ → Prop}

theorem Confined.mono {x : Program ε (World κ σ ν) α} (hx : Confined R x)
    (h : ∀ s s', R s s' → R' s s') : Confined R' x := by
  intro I hI
  exact hx I ⟨hI.refuse, hI.advance, hI.shift, fun w s hw hR => hI.withState w s hw (h _ _ hR)⟩

theorem Confined.pure (a : α) : Confined R (pure a : Program ε (World κ σ ν) α) :=
  fun _ _ _ hw => hw

theorem Confined.fail (e : ε) : Confined R (fail e : Program ε (World κ σ ν) α) :=
  fun _ _ _ hw => hw

theorem Confined.checked (x : Checked.Result α) :
    Confined R (checked x : Program ε (World κ σ ν) α) := by
  intro _ _ _ hw
  cases x with
  | some a => exact hw
  | none => exact hw

theorem Confined.getState : Confined R (getState : Program ε (World κ σ ν) σ) := fun _ _ _ hw => hw

theorem Confined.modifyState {f : σ → σ} (h : ∀ s, R s (f s)) :
    Confined R (modifyState f : Program ε (World κ σ ν) Unit) :=
  fun _ hI w hw => hI.withState w _ hw (h w.state)

theorem Confined.internal (f : κ → κ) : Confined R (internal f : Program ε (World κ σ ν) Unit) :=
  fun _ hI w hw => hI.shift w _ hw

theorem Confined.issue (op : Operation κ ν α) :
    Confined R (issue op : Program ν (World κ σ ν) α) := by
  intro I hI w hw
  apply wp_issue
  · exact fun _ _ => hI.refuse w hw
  · exact fun _ k _ _ => hI.advance w k hw

theorem Confined.mapErr {δ : Type} {f : ε → δ} {x : Program ε (World κ σ ν) α}
    (hx : Confined R x) : Confined R (mapErr f x) := by
  intro I hI w hw
  rw [wp_mapErr]
  exact hx I hI w hw

theorem Confined.bind {x : Program ε (World κ σ ν) β} {f : β → Program ε (World κ σ ν) α}
    (hx : Confined R x) (hf : ∀ b, Confined R (f b)) : Confined R (x >>= f) := by
  intro I hI w hw
  rw [wp_bind]
  exact wp_mono (hx I hI w hw) (fun b w' hw' => hf b I hI w' hw') fun _ _ hw' => hw'

/-- What is caught has recorded its states before. -/
theorem Confined.attempt {x : Program ε (World κ σ ν) α} (hx : Confined R x) :
    Confined R (attempt x) := by
  intro I hI w hw
  rw [wp_attempt]
  refine wp_mono (hx I hI w hw) (fun _ _ hw' => hw') ?_
  intro failure w' hw'
  cases failure with
  | error e => exact hw'
  | panic => exact hw'

theorem Confined.ignore {x : Program ε (World κ σ ν) α} (hx : Confined R x) :
    Confined R (ignore x) :=
  hx.attempt.bind fun _ => Confined.pure _

theorem Confined.forM {f : α → Program ε (World κ σ ν) PUnit} (xs : List α)
    (hf : ∀ a, Confined R (f a)) : Confined R (xs.forM f) := by
  induction xs with
  | nil => exact Confined.pure _
  | cons x xs ih =>
      rw [List.forM_eq_forM, List.forM_cons]
      exact (hf x).bind fun _ => ih

theorem Steps.confined {S : κ → κ → Prop} {x : Program ε (World κ σ ν) α} (hx : Steps S x) :
    Confined R x := by
  intro I hI w hw
  refine wp_mono (hx I hI.refuse ?_ w hw) (fun _ _ h => h) fun _ _ h => h.2
  exact fun w k hw _ => ⟨hI.advance w k hw, hI.shift w k hw⟩

/-- What holds of the local state, and what `R` keeps. -/
theorem tracks_state {T : σ → Prop} (h : ∀ s s', T s → R s s' → T s') :
    Tracks R fun w : World κ σ ν => T w.state :=
  ⟨fun _ hw => hw, fun _ _ hw => hw, fun _ _ hw => hw, fun _ s hw hR => h _ s hw hR⟩

/-- The history forgets nothing. -/
theorem tracks_history (k : κ) : Tracks R fun w : World κ σ ν => k ∈ w.history :=
  ⟨fun _ hk => hk, fun _ _ hk => List.mem_cons_of_mem _ hk,
    fun _ _ hk => List.mem_cons_of_mem _ hk, fun _ _ hk _ => hk⟩

end Rules

section Leaving

/-- The system has been outside of `S`. -/
def World.Left (S : κ → Prop) (w : World κ σ ν) : Prop := ∃ k ∈ w.history, ¬ S k

/-- `x` takes the system out of `S` for a moment at least, however it ends. -/
def Leaves (S : κ → Prop) (x : Program ε (World κ σ ν) α) (w : World κ σ ν) : Prop :=
  wp x (fun _ => World.Left S) (fun _ => World.Left S) w

variable {R : σ → σ → Prop} {S : κ → Prop} {w : World κ σ ν}

theorem Confined.leaves {x : Program ε (World κ σ ν) α} (hx : Confined R x) (h : w.Left S) :
    Leaves S x w := by
  obtain ⟨k, hk, hOut⟩ := h
  exact wp_mono (hx _ (tracks_history k) w hk) (fun _ _ hk' => ⟨k, hk', hOut⟩)
    fun _ _ hk' => ⟨k, hk', hOut⟩

theorem Leaves.bind {x : Program ε (World κ σ ν) β} {f : β → Program ε (World κ σ ν) α}
    (h : Leaves S x w) (hf : ∀ b, Confined R (f b)) : Leaves S (x >>= f) w := by
  rw [Leaves, wp_bind]
  exact wp_mono h (fun b w' hLeft => (hf b).leaves hLeft) fun _ _ hLeft => hLeft

/-- A state once recorded is not taken back by catching the error. -/
theorem Leaves.attempt {x : Program ε (World κ σ ν) α} (h : Leaves S x w) :
    Leaves S (attempt x) w := by
  rw [Leaves, wp_attempt]
  refine wp_mono h (fun _ _ hLeft => hLeft) ?_
  intro failure w' hLeft
  cases failure with
  | error e => exact hLeft
  | panic => exact hLeft

theorem Leaves.ignore {x : Program ε (World κ σ ν) α} (h : Leaves S x w) : Leaves S (ignore x) w :=
  h.attempt.bind fun _ => Confined.pure (R := fun _ _ => True) _

theorem Leaves.mapErr {δ : Type} {f : ε → δ} {x : Program ε (World κ σ ν) α} (h : Leaves S x w) :
    Leaves S (mapErr f x) w := by
  rw [Leaves, wp_mapErr]
  exact h

/-- A request that is granted and leads out of `S`. -/
theorem leaves_issue {op : Operation κ ν α} {a : α} {k k' : κ} {s : σ} (h : w.IsAt k s noFaults)
    (hOp : op k = .ok (a, k')) (hOut : ¬ S k') : Leaves S (issue op) w := by
  rw [Leaves, wp_issue_ok (by rw [h.faults]; rfl) (by rw [h.sys]; exact hOp)]
  exact ⟨k', List.mem_cons_self, hOut⟩

end Leaving

section Ends

variable {x : Program ε (World κ σ ν) β} {w w' : World κ σ ν}

theorem endOf_bind_ok {b : β} (f : β → Program ε (World κ σ ν) α) (h : x w = .ok b w') :
    endOf (x >>= f) w = endOf (f b) w' := by
  have hBind : (x >>= f) w = f b w' := by
    change EStateM.bind x f w = _
    rw [EStateM.bind, h]
  rw [endOf, hBind, endOf]

theorem endOf_bind_error {failure : Failure ε} (f : β → Program ε (World κ σ ν) α)
    (h : x w = .error failure w') : endOf (x >>= f) w = w' := by
  have hBind : (x >>= f) w = .error failure w' := by
    change EStateM.bind x f w = _
    rw [EStateM.bind, h]
  rw [endOf, hBind]

end Ends

/-- A run does not leave `S` if and only if `P` holds along it: with `P` a step stays
in `S` and keeps the invariant, without `P` it leaves `S`. -/
theorem forM_within_iff {ι : Type} {step : ι → Program ε (World κ σ ν) Unit}
    {P : World κ σ ν → ι → Prop} {S : κ → Prop} {I : World κ σ ν → Prop}
    (hConfined : ∀ i, Confined (fun _ _ => True) (step i))
    (hStays : ∀ i w, I w → P w i → (∀ k ∈ w.history, S k) →
      wp (step i) (fun _ w' => I w' ∧ ∀ k ∈ w'.history, S k) (fun _ w' => ∀ k ∈ w'.history, S k) w)
    (hLeaves : ∀ i w, I w → ¬ P w i → Leaves S (step i) w)
    {is : List ι} {w : World κ σ ν} (hI : I w) (hw : ∀ k ∈ w.history, S k) :
    (∀ k ∈ (endOf (is.forM step) w).history, S k) ↔ Along step P is w := by
  induction is generalizing w with
  | nil => exact iff_of_true hw trivial
  | cons i is ih =>
      by_cases hP : P w i
      · have hStep := hStays i w hI hP hw
        rw [Along, List.forM_eq_forM, List.forM_cons]
        unfold wp at hStep ⊢
        cases hRun : step i w with
        | ok _ w' =>
            rw [hRun] at hStep
            rw [endOf_bind_ok _ hRun]
            exact (ih hStep.1 hStep.2).trans (and_iff_right hP).symm
        | error failure w' =>
            rw [hRun] at hStep
            rw [endOf_bind_error _ hRun]
            exact iff_of_true hStep ⟨hP, trivial⟩
      · have hLeft : Leaves S ((i :: is).forM step) w := by
          rw [List.forM_eq_forM, List.forM_cons]
          exact (hLeaves i w hI hP).bind fun _ => Confined.forM is hConfined
        obtain ⟨k, hk, hOut⟩ := endOf_of_wp (World.Left S) hLeft
        exact iff_of_false (fun hAll => hOut (hAll k hk)) fun hAlong => hP hAlong.1

end Effects
