import Mapecd.Semantics.Checked

/-! Programs that change a state and then return, fail with an error of their
own, or panic. The state at the point of failure is kept, so that recovery code
can run from it. -/
namespace Effects

/-- A returned error, or the end of the program by a panic. -/
inductive Failure (ε : Type) where
  | error (e : ε)
  | panic
deriving DecidableEq

abbrev Program (ε σ α : Type) := EStateM (Failure ε) σ α

variable {ε σ α β : Type}

def fail (e : ε) : Program ε σ α := throw (.error e)

/-- Checked arithmetic inside a program. -/
def checked (x : Checked.Result α) : Program ε σ α :=
  match x with
  | some a => pure a
  | none => throw .panic

/-- Run `x` and return its error as a value. A panic is not caught. -/
def attempt (x : Program ε σ α) : Program ε σ (Except ε α) := fun s =>
  match x s with
  | .ok a s' => .ok (.ok a) s'
  | .error (.error e) s' => .ok (.error e) s'
  | .error .panic s' => .error .panic s'

/-- Run `x` and go on whether it failed or not. -/
def ignore (x : Program ε σ α) : Program ε σ Unit := do
  let _ ← attempt x

def Failure.map {δ : Type} (f : ε → δ) : Failure ε → Failure δ
  | .error e => .error (f e)
  | .panic => .panic

def mapErr {δ : Type} (f : ε → δ) (x : Program ε σ α) : Program δ σ α := fun s =>
  match x s with
  | .ok a s' => .ok a s'
  | .error e s' => .error (e.map f) s'

/-- `x` run from `s` returns into `post` or stops in `stop`. -/
def wp (x : Program ε σ α) (post : α → σ → Prop) (stop : Failure ε → σ → Prop) (s : σ) : Prop :=
  match x s with
  | .ok a s' => post a s'
  | .error f s' => stop f s'

/-- Runs on given inputs can be checked by evaluation. -/
instance (x : Program ε σ α) (post : α → σ → Prop) (stop : Failure ε → σ → Prop) (s : σ)
    [∀ a s', Decidable (post a s')] [∀ f s', Decidable (stop f s')] :
    Decidable (wp x post stop s) :=
  match hx : x s with
  | .ok a s' => decidable_of_iff (post a s') (by rw [wp, hx])
  | .error f s' => decidable_of_iff (stop f s') (by rw [wp, hx])

section Rules

variable {post post' : α → σ → Prop} {stop stop' : Failure ε → σ → Prop} {s : σ}

@[simp] theorem wp_pure (a : α) : wp (pure a : Program ε σ α) post stop s ↔ post a s := Iff.rfl

@[simp] theorem wp_throw (f : Failure ε) :
    wp (throw f : Program ε σ α) post stop s ↔ stop f s := Iff.rfl

@[simp] theorem wp_fail (e : ε) :
    wp (fail e : Program ε σ α) post stop s ↔ stop (.error e) s := Iff.rfl

@[simp] theorem wp_get {post : σ → σ → Prop} :
    wp (get : Program ε σ σ) post stop s ↔ post s s := Iff.rfl

@[simp] theorem wp_set (s' : σ) {post : PUnit → σ → Prop} :
    wp (set s' : Program ε σ PUnit) post stop s ↔ post ⟨⟩ s' := Iff.rfl

@[simp] theorem wp_modify (f : σ → σ) {post : PUnit → σ → Prop} :
    wp (modify f : Program ε σ PUnit) post stop s ↔ post ⟨⟩ (f s) := Iff.rfl

@[simp] theorem wp_bind (x : Program ε σ β) (f : β → Program ε σ α) :
    wp (x >>= f) post stop s ↔ wp x (fun b s' => wp (f b) post stop s') stop s := by
  change wp (EStateM.bind x f) post stop s ↔ _
  unfold wp EStateM.bind
  cases x s with
  | ok b s' => rfl
  | error e s' => rfl

@[simp] theorem wp_checked_some (a : α) :
    wp (checked (some a) : Program ε σ α) post stop s ↔ post a s := Iff.rfl

@[simp] theorem wp_checked_none :
    wp (checked none : Program ε σ α) post stop s ↔ stop .panic s := Iff.rfl

/-- A caught error is a result, a panic is not caught. -/
theorem wp_attempt (x : Program ε σ α) {post : Except ε α → σ → Prop} :
    wp (attempt x) post stop s ↔ wp x (fun a s' => post (.ok a) s')
      (fun f s' => match f with
        | .error e => post (.error e) s'
        | .panic => stop .panic s') s := by
  unfold wp attempt
  cases x s with
  | ok a s' => rfl
  | error f s' =>
      cases f with
      | error e => rfl
      | panic => rfl

@[simp] theorem wp_mapErr {δ : Type} (f : ε → δ) (x : Program ε σ α)
    {stop : Failure δ → σ → Prop} :
    wp (mapErr f x) post stop s ↔ wp x post (fun e s' => stop (e.map f) s') s := by
  unfold wp mapErr
  cases x s with
  | ok a s' => rfl
  | error e s' => rfl

/-- The rule of consequence. -/
theorem wp_mono {x : Program ε σ α} (h : wp x post stop s) (hPost : ∀ a s', post a s' → post' a s')
    (hStop : ∀ f s', stop f s' → stop' f s') : wp x post' stop' s := by
  unfold wp at h ⊢
  cases hx : x s with
  | ok a s' =>
      rw [hx] at h
      exact hPost a s' h
  | error f s' =>
      rw [hx] at h
      exact hStop f s' h

/-- Two facts about one program. -/
theorem wp_and {x : Program ε σ α} (h : wp x post stop s) (h' : wp x post' stop' s) :
    wp x (fun a s' => post a s' ∧ post' a s') (fun f s' => stop f s' ∧ stop' f s') s := by
  unfold wp at h h' ⊢
  cases hx : x s with
  | ok a s' =>
      rw [hx] at h h'
      exact ⟨h, h'⟩
  | error f s' =>
      rw [hx] at h h'
      exact ⟨h, h'⟩

/-- The postcondition holds of the run itself. -/
theorem wp_ok {x : Program ε σ α} {a : α} {s' : σ} (h : wp x post stop s) (hx : x s = .ok a s') :
    post a s' := by
  unfold wp at h
  rwa [hx] at h

theorem wp_error {x : Program ε σ α} {f : Failure ε} {s' : σ} (h : wp x post stop s)
    (hx : x s = .error f s') : stop f s' := by
  unfold wp at h
  rwa [hx] at h

/-- A program that cannot stop returns. -/
theorem exists_ok_of_wp {x : Program ε σ α} (h : wp x post (fun _ _ => False) s) :
    ∃ a s', x s = .ok a s' ∧ post a s' := by
  unfold wp at h
  cases hx : x s with
  | ok a s' =>
      rw [hx] at h
      exact ⟨a, s', rfl, h⟩
  | error f s' =>
      rw [hx] at h
      exact h.elim

theorem exists_unit_of_wp {x : Program ε σ Unit} (post : Unit → σ → Prop)
    (h : wp x post (fun _ _ => False) s) : ∃ s', x s = .ok () s' ∧ post () s' := by
  obtain ⟨⟨⟩, s', h'⟩ := exists_ok_of_wp h
  exact ⟨s', h'⟩

/-- A run on given inputs that was evaluated. -/
theorem exists_unit_of_decide {x : Program ε σ Unit} (post : Unit → σ → Prop)
    [Decidable (wp x post (fun _ _ => False) s)]
    (h : decide (wp x post (fun _ _ => False) s) = true) : ∃ s', x s = .ok () s' ∧ post () s' := by
  have hWp := of_decide_eq_true h
  exact exists_unit_of_wp post hWp

/-- A program that cannot return stops. -/
theorem exists_error_of_wp {x : Program ε σ α} (h : wp x (fun _ _ => False) stop s) :
    ∃ f s', x s = .error f s' ∧ stop f s' := by
  unfold wp at h
  cases hx : x s with
  | ok a s' =>
      rw [hx] at h
      exact h.elim
  | error f s' =>
      rw [hx] at h
      exact ⟨f, s', rfl, h⟩

end Rules

section Invariants

/-- `x` keeps `I`, whether it returns or fails, and does not panic. -/
def Maintains (I : σ → Prop) (x : Program ε σ α) : Prop :=
  ∀ s, I s → wp x (fun _ => I) (fun f s' => f ≠ .panic ∧ I s') s

variable {I : σ → Prop}

theorem Maintains.pure (a : α) : Maintains I (pure a : Program ε σ α) := fun _ h => h

theorem Maintains.fail (e : ε) : Maintains I (fail e : Program ε σ α) :=
  fun _ h => ⟨nofun, h⟩

theorem Maintains.checked {x : Checked.Result α} (hx : x.isSome) :
    Maintains I (checked x : Program ε σ α) := by
  obtain ⟨a, rfl⟩ := Option.isSome_iff_exists.mp hx
  exact fun _ h => h

theorem Maintains.bind {x : Program ε σ β} {f : β → Program ε σ α} (hx : Maintains I x)
    (hf : ∀ b, Maintains I (f b)) : Maintains I (x >>= f) := by
  intro s h
  rw [wp_bind]
  exact wp_mono (hx s h) (fun b s' hs => hf b s' hs) fun _ _ hs => hs

/-- Caught errors are not failures any more. -/
theorem Maintains.wp_attempt {x : Program ε σ α} (hx : Maintains I x) {s : σ} (h : I s) :
    wp (attempt x) (fun _ => I) (fun _ _ => False) s := by
  rw [Effects.wp_attempt]
  refine wp_mono (hx s h) (fun _ _ hs => hs) ?_
  intro f s' hs
  cases f with
  | error e => exact hs.2
  | panic => exact hs.1 rfl

theorem Maintains.attempt {x : Program ε σ α} (hx : Maintains I x) : Maintains I (attempt x) :=
  fun _ h => wp_mono (hx.wp_attempt h) (fun _ _ hs => hs) fun _ _ hs => hs.elim

theorem Maintains.ignore {x : Program ε σ α} (hx : Maintains I x) : Maintains I (ignore x) :=
  Maintains.bind (Maintains.attempt hx) fun _ => Maintains.pure _

/-- Another error value makes no difference to the state. -/
theorem Maintains.mapErr {δ : Type} {f : ε → δ} {x : Program ε σ α} (hx : Maintains I x) :
    Maintains I (mapErr f x) := by
  intro s h
  rw [wp_mapErr]
  refine wp_mono (hx s h) (fun _ _ hs => hs) ?_
  intro e s' hs
  cases e with
  | error e => exact ⟨nofun, hs.2⟩
  | panic => exact absurd rfl hs.1

theorem Maintains.forM {f : α → Program ε σ PUnit} (xs : List α)
    (hf : ∀ a, Maintains I (f a)) : Maintains I (xs.forM f) := by
  induction xs with
  | nil => exact Maintains.pure _
  | cons x xs ih =>
      rw [List.forM_eq_forM, List.forM_cons]
      exact Maintains.bind (hf x) fun _ => ih

end Invariants

section Runs

variable {ι : Type} (step : ι → Program ε σ Unit) (P : σ → ι → Prop)

/-- `P` holds before every step of a run over the inputs. -/
def Along : List ι → σ → Prop
  | [], _ => True
  | i :: is, s => P s i ∧ wp (step i) (fun _ s' => Along is s') (fun _ _ => True) s

instance decidableAlong [∀ s i, Decidable (P s i)] :
    (is : List ι) → (s : σ) → Decidable (Along step P is s)
  | [], _ => inferInstanceAs (Decidable True)
  | _ :: is, _ =>
      have := decidableAlong is
      inferInstanceAs (Decidable (_ ∧ wp _ _ _ _))

variable {step P}

theorem along_singleton {i : ι} {s : σ} (h : P s i) : Along step P [i] s := by
  refine ⟨h, ?_⟩
  unfold wp
  cases step i s with
  | ok a s' => trivial
  | error f s' => trivial

/-- Along two lists of inputs one after the other, as far as the first one is worked
off. -/
theorem along_append {is js : List ι} {s : σ} : Along step P (is ++ js) s ↔
    Along step P is s ∧
      wp (is.forM step) (fun _ s' => Along step P js s') (fun _ _ => True) s := by
  induction is generalizing s with
  | nil => exact (iff_of_eq (true_and _)).symm
  | cons i is ih =>
      rw [List.cons_append, Along, Along, and_assoc, List.forM_eq_forM, List.forM_cons, wp_bind]
      refine and_congr_right fun _ => ?_
      unfold wp
      cases step i s with
      | ok a s' => exact ih
      | error f s' => exact (and_self_iff (a := True)).symm

/-- What holds in all states needs no run. -/
theorem along_of_forall (h : ∀ i s, P s i) (is : List ι) (s : σ) : Along step P is s := by
  induction is generalizing s with
  | nil => trivial
  | cons i is ih =>
      refine ⟨h i s, ?_⟩
      unfold wp
      cases step i s with
      | ok a s' => exact ih s'
      | error f s' => trivial

/-- Two properties that agree in the states of an invariant, as far as `C` holds there,
agree along every run of `C`. -/
theorem along_congr {I : σ → Prop} {C Q : σ → ι → Prop} {is : List ι} {s : σ}
    (hStep : ∀ i s, I s → C s i → wp (step i) (fun _ => I) (fun _ _ => True) s)
    (h : ∀ i s, I s → C s i → (P s i ↔ Q s i)) (hC : Along step C is s) (hI : I s) :
    Along step P is s ↔ Along step Q is s := by
  induction is generalizing s with
  | nil => exact Iff.rfl
  | cons i is ih =>
      obtain ⟨hNow, hRest⟩ := hC
      have hNext := hStep i s hI hNow
      rw [Along, Along]
      refine and_congr (h i s hI hNow) ?_
      unfold wp at hNext hRest ⊢
      cases hRun : step i s with
      | ok a s' =>
          rw [hRun] at hNext hRest
          exact ih hRest hNext
      | error f s' => exact Iff.rfl

/-- An invariant that every step keeps under `P` holds after the run. -/
theorem wp_forM_along {I : σ → Prop} {stop : Failure ε → σ → Prop} {is : List ι} {s : σ}
    (hStep : ∀ i s, I s → P s i → wp (step i) (fun _ => I) stop s) (h : Along step P is s)
    (hI : I s) : wp (is.forM step) (fun _ => I) stop s := by
  induction is generalizing s with
  | nil => exact hI
  | cons i is ih =>
      obtain ⟨hP, hRest⟩ := h
      have hNext := hStep i s hI hP
      rw [List.forM_eq_forM, List.forM_cons, wp_bind]
      unfold wp at hRest hNext ⊢
      cases hRun : step i s with
      | ok a s' =>
          rw [hRun] at hRest hNext
          exact ih hRest hNext
      | error f s' =>
          rw [hRun] at hNext
          exact hNext

end Runs

end Effects
