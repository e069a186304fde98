import Mapecd.Semantics.Program

/-! Programs that send requests to a system. Every request can be refused: by
the system itself, or by a fault that the environment injects at its number. A
refused request changes nothing. The states after the successful requests are
recorded, so that a property of all intermediate states can be stated. -/
namespace Effects

/-- What a request does to the system, or why the system refuses it. -/
abbrev Operation (κ ν α : Type) := κ → Except ν (α × κ)

/-- System, program state, the faults to come and the requests made so far. -/
structure World (κ σ ν : Type) where
  sys : κ
  /-- the state of the program itself -/
  state : σ
  /-- the error injected at a request number -/
  faults : Nat → Option ν
  issued : Nat
  /-- system states so far, the latest first -/
  history : List κ

variable {κ σ ν ε α β : Type}

def noFaults : Nat → Option ν := fun _ => none

def faultAt (i : Nat) (e : ν) : Nat → Option ν := fun j => if j = i then some e else none

@[simp] theorem faultAt_self (i : Nat) (e : ν) : faultAt i e i = some e := if_pos rfl

theorem eq_of_faultAt_ne_none {i j : Nat} {e : ν} (h : faultAt i e j ≠ none) : j = i := by
  by_contra hNe
  exact h (if_neg hNe)

namespace World

def refuse (w : World κ σ ν) : World κ σ ν := { w with issued := w.issued + 1 }

def advance (w : World κ σ ν) (k : κ) : World κ σ ν :=
  { w with sys := k, issued := w.issued + 1, history := k :: w.history }

/-- A step of the system that is not a request and cannot be refused. -/
def shift (w : World κ σ ν) (k : κ) : World κ σ ν :=
  { w with sys := k, history := k :: w.history }

def withFaults (w : World κ σ ν) (f : Nat → Option ν) : World κ σ ν := { w with faults := f }

def withState (w : World κ σ ν) (s : σ) : World κ σ ν := { w with state := s }

section Fields

variable (w : World κ σ ν) (k : κ) (s : σ)

@[simp] theorem refuse_sys : w.refuse.sys = w.sys := rfl
@[simp] theorem refuse_state : w.refuse.state = w.state := rfl
@[simp] theorem refuse_faults : w.refuse.faults = w.faults := rfl
@[simp] theorem refuse_issued : w.refuse.issued = w.issued + 1 := rfl
@[simp] theorem refuse_history : w.refuse.history = w.history := rfl
@[simp] theorem advance_sys : (w.advance k).sys = k := rfl
@[simp] theorem advance_state : (w.advance k).state = w.state := rfl
@[simp] theorem advance_faults : (w.advance k).faults = w.faults := rfl
@[simp] theorem advance_issued : (w.advance k).issued = w.issued + 1 := rfl
@[simp] theorem advance_history : (w.advance k).history = k :: w.history := rfl
@[simp] theorem shift_sys : (w.shift k).sys = k := rfl
@[simp] theorem shift_state : (w.shift k).state = w.state := rfl
@[simp] theorem shift_faults : (w.shift k).faults = w.faults := rfl
@[simp] theorem shift_issued : (w.shift k).issued = w.issued := rfl
@[simp] theorem shift_history : (w.shift k).history = k :: w.history := rfl
@[simp] theorem withFaults_sys (f) : (w.withFaults f).sys = w.sys := rfl
@[simp] theorem withFaults_state (f) : (w.withFaults f).state = w.state := rfl
@[simp] theorem withFaults_faults (f) : (w.withFaults f).faults = f := rfl
@[simp] theorem withState_sys : (w.withState s).sys = w.sys := rfl
@[simp] theorem withState_state : (w.withState s).state = s := rfl
@[simp] theorem withState_faults : (w.withState s).faults = w.faults := rfl
@[simp] theorem withState_issued : (w.withState s).issued = w.issued := rfl
@[simp] theorem withState_history : (w.withState s).history = w.history := rfl

end Fields

end World

/-- A request either meets its fault, is refused by the system or takes effect, and
counts in each case. -/
def issue (op : Operation κ ν α) : Program ν (World κ σ ν) α := fun w =>
  match w.faults w.issued with
  | some e => .error (.error e) w.refuse
  | none =>
      match op w.sys with
      | .error e => .error (.error e) w.refuse
      | .ok (a, k) => .ok a (w.advance k)

def internal (f : κ → κ) : Program ε (World κ σ ν) Unit := modify fun w => w.shift (f w.sys)

def getState : Program ε (World κ σ ν) σ := return (← get).state

def modifyState (f : σ → σ) : Program ε (World κ σ ν) Unit :=
  modify fun w => w.withState (f w.state)

section Rules

variable {post : α → World κ σ ν → Prop} {w : World κ σ ν}

/-- The rule for a request: refused without any effect, or done. -/
theorem wp_issue {op : Operation κ ν α} {stop : Failure ν → World κ σ ν → Prop}
    (hRefused : ∀ e, w.faults w.issued = some e ∨ op w.sys = .error e → stop (.error e) w.refuse)
    (hDone : ∀ a k, w.faults w.issued = none → op w.sys = .ok (a, k) → post a (w.advance k)) :
    wp (issue op) post stop w := by
  unfold wp issue
  cases hFault : w.faults w.issued with
  | some e => exact hRefused e (Or.inl hFault)
  | none =>
      cases hOp : op w.sys with
      | error e => exact hRefused e (Or.inr hOp)
      | ok result => exact hDone result.1 result.2 hFault hOp

/-- Without a fault the system alone decides. -/
theorem wp_issue_ok {op : Operation κ ν α} {stop : Failure ν → World κ σ ν → Prop} {a : α} {k : κ}
    (hFault : w.faults w.issued = none) (hOp : op w.sys = .ok (a, k)) :
    wp (issue op) post stop w ↔ post a (w.advance k) := by
  unfold wp issue
  rw [hFault, hOp]

theorem wp_issue_error {op : Operation κ ν α} {stop : Failure ν → World κ σ ν → Prop} {e : ν}
    (hFault : w.faults w.issued = none) (hOp : op w.sys = .error e) :
    wp (issue op) post stop w ↔ stop (.error e) w.refuse := by
  unfold wp issue
  rw [hFault, hOp]

variable {stop : Failure ε → World κ σ ν → Prop}

@[simp] theorem wp_internal (f : κ → κ) {post : Unit → World κ σ ν → Prop} :
    wp (internal f) post stop w ↔ post () (w.shift (f w.sys)) := Iff.rfl

@[simp] theorem wp_getState {post : σ → World κ σ ν → Prop} :
    wp getState post stop w ↔ post w.state w := Iff.rfl

@[simp] theorem wp_modifyState (f : σ → σ) {post : Unit → World κ σ ν → Prop} :
    wp (modifyState f) post stop w ↔ post () (w.withState (f w.state)) := Iff.rfl

end Rules

section Position

/-- The system is in `k`, the program in `s`, and the faults ahead are `f`. -/
structure World.IsAt (w : World κ σ ν) (k : κ) (s : σ) (f : Nat → Option ν) : Prop where
  sys : w.sys = k
  state : w.state = s
  faults : w.faults = f

variable {post : α → World κ σ ν → Prop} {w : World κ σ ν} {k k' : κ} {s s' : σ}
  {f : Nat → Option ν}

theorem World.isAt (w : World κ σ ν) : w.IsAt w.sys w.state w.faults := ⟨rfl, rfl, rfl⟩

theorem World.IsAt.refuse (h : w.IsAt k s f) : w.refuse.IsAt k s f := ⟨h.sys, h.state, h.faults⟩

theorem World.IsAt.advance (h : w.IsAt k s f) (k' : κ) : (w.advance k').IsAt k' s f :=
  ⟨rfl, h.state, h.faults⟩

theorem World.IsAt.shift (h : w.IsAt k s f) (k' : κ) : (w.shift k').IsAt k' s f :=
  ⟨rfl, h.state, h.faults⟩

theorem World.IsAt.withState (h : w.IsAt k s f) (s' : σ) : (w.withState s').IsAt k s' f :=
  ⟨h.sys, rfl, h.faults⟩

/-- The rule where only system, state and faults matter. -/
theorem World.IsAt.wp_issue {op : Operation κ ν α} {stop : Failure ν → World κ σ ν → Prop}
    (h : w.IsAt k s f)
    (hRefused : ∀ e w', f ≠ noFaults ∨ op k = .error e → w'.IsAt k s f → stop (.error e) w')
    (hDone : ∀ a k' w', op k = .ok (a, k') → w'.IsAt k' s f → post a w') :
    wp (issue op) post stop w := by
  apply Effects.wp_issue
  · rintro e (hInjected | hSystem)
    · refine hRefused e _ (Or.inl ?_) h.refuse
      rintro rfl
      rw [h.faults] at hInjected
      cases hInjected
    · rw [h.sys] at hSystem
      exact hRefused e _ (Or.inr hSystem) h.refuse
  · intro a k' _ hOp
    rw [h.sys] at hOp
    exact hDone a k' _ hOp (h.advance k')

/-- Without faults the system decides. -/
theorem World.IsAt.wp_issue_ok {op : Operation κ ν α} {stop : Failure ν → World κ σ ν → Prop}
    {a : α} (h : w.IsAt k s noFaults) (hOp : op k = .ok (a, k'))
    (hDone : ∀ w', w'.IsAt k' s noFaults → post a w') : wp (issue op) post stop w := by
  rw [Effects.wp_issue_ok (by rw [h.faults]; rfl) (by rw [h.sys]; exact hOp)]
  exact hDone _ (h.advance k')

theorem World.IsAt.wp_issue_error {op : Operation κ ν α} {stop : Failure ν → World κ σ ν → Prop}
    {e : ν} (h : w.IsAt k s noFaults) (hOp : op k = .error e)
    (hRefused : ∀ w', w'.IsAt k s noFaults → stop (.error e) w') : wp (issue op) post stop w := by
  rw [Effects.wp_issue_error (by rw [h.faults]; rfl) (by rw [h.sys]; exact hOp)]
  exact hRefused _ h.refuse

/-- `n` requests were issued before. -/
structure World.Reached (w : World κ σ ν) (k : κ) (s : σ) (f : Nat → Option ν) (n : Nat) : Prop
    extends w.IsAt k s f where
  issued : w.issued = n

section Reached

variable {n : Nat}

theorem World.Reached.withState (h : w.Reached k s f n) (s' : σ) :
    (w.withState s').Reached k s' f n :=
  ⟨h.toIsAt.withState s', h.issued⟩

theorem World.Reached.shift (h : w.Reached k s f n) (k' : κ) : (w.shift k').Reached k' s f n :=
  ⟨h.toIsAt.shift k', h.issued⟩

theorem World.Reached.refuse (h : w.Reached k s f n) : w.refuse.Reached k s f (n + 1) :=
  ⟨h.toIsAt.refuse, congrArg (· + 1) h.issued⟩

theorem World.Reached.advance (h : w.Reached k s f n) (k' : κ) :
    (w.advance k').Reached k' s f (n + 1) :=
  ⟨h.toIsAt.advance k', congrArg (· + 1) h.issued⟩

/-- The rule where the number of requests matters too, since it decides which fault
comes next. -/
theorem World.Reached.wp_issue {op : Operation κ ν α} {stop : Failure ν → World κ σ ν → Prop}
    (h : w.Reached k s f n)
    (hFault : ∀ e w', f n ≠ none → w'.Reached k s f (n + 1) → stop (.error e) w')
    (hRefused : ∀ e w', op k = .error e → w'.Reached k s f (n + 1) → stop (.error e) w')
    (hDone : ∀ a k' w', f n = none → op k = .ok (a, k') → w'.Reached k' s f (n + 1) → post a w') :
    wp (issue op) post stop w := by
  have hAhead : w.faults w.issued = f n := by rw [h.faults, h.issued]
  apply Effects.wp_issue
  · rintro e (hInjected | hSystem)
    · refine hFault e _ ?_ h.refuse
      rw [← hAhead, hInjected]
      exact Option.some_ne_none e
    · exact hRefused e _ (by rw [← h.sys]; exact hSystem) h.refuse
  · intro a k' hNone hOp
    exact hDone a k' _ (hAhead ▸ hNone) (by rw [← h.sys]; exact hOp) (h.advance k')

end Reached

end Position

section Steps

/-- `x` changes the system by steps of `R` only, leaves the local state and the
faults alone and does not panic: it keeps every property that refusals and steps
of `R` keep. -/
def Steps (R : κ → κ → Prop) (x : Program ε (World κ σ ν) α) : Prop :=
  ∀ I : World κ σ ν → Prop, (∀ w, I w → I w.refuse) →
    (∀ w k, I w → R w.sys k → I (w.advance k) ∧ I (w.shift k)) → Maintains I x

variable {R S : κ → κ → Prop}

theorem Steps.mono {x : Program ε (World κ σ ν) α} (hx : Steps R x) (h : ∀ k k', R k k' → S k k') :
    Steps S x :=
  fun I hRefuse hStep => hx I hRefuse fun w k hw hR => hStep w k hw (h _ _ hR)

theorem Steps.issue {op : Operation κ ν α} (h : ∀ k a k', op k = .ok (a, k') → R k k') :
    Steps (σ := σ) R (issue op) := by
  intro I hRefuse hStep w hw
  exact wp_issue (fun e _ => ⟨nofun, hRefuse w hw⟩)
    fun a k _ hOp => (hStep w k hw (h _ a k hOp)).1

theorem Steps.internal {f : κ → κ} (h : ∀ k, R k (f k)) :
    Steps (ε := ε) (σ := σ) (ν := ν) R (internal f) :=
  fun _ _ hStep w hw => (hStep w _ hw (h w.sys)).2

section Position

variable {x : Program ε (World κ σ ν) α} {stop : Failure ε → World κ σ ν → Prop}
  {w : World κ σ ν} {k : κ} {s : σ} {f : Nat → Option ν} {P : κ → Prop}

/-- What each step of the system keeps is kept by the program at every fault. -/
theorem Steps.maintains_isAt (hx : Steps R x) (hStep : ∀ k k', P k → R k k' → P k') (s : σ)
    (f : Nat → Option ν) : Maintains (fun w => ∃ k, P k ∧ w.IsAt k s f) x := by
  apply hx
  · rintro w ⟨k, hP, hAt⟩
    exact ⟨k, hP, hAt.refuse⟩
  · rintro w k' ⟨k, hP, hAt⟩ hR
    have hNext : P k' := hStep k k' hP (hAt.sys ▸ hR)
    exact ⟨⟨k', hNext, hAt.advance k'⟩, ⟨k', hNext, hAt.shift k'⟩⟩

/-- Such a program moves the system by steps of `R` and nothing else. -/
theorem Steps.wp_isAt {post : α → World κ σ ν → Prop} (hx : Steps R x) (h : w.IsAt k s f)
    (hP : P k) (hStep : ∀ k k', P k → R k k' → P k')
    (hPost : ∀ a k' w', P k' → w'.IsAt k' s f → post a w')
    (hStop : ∀ e k' w', P k' → w'.IsAt k' s f → stop (.error e) w') : wp x post stop w := by
  refine wp_mono (hx.maintains_isAt hStep s f w ⟨k, hP, h⟩) ?_ ?_
  · rintro a w' ⟨k', hP', hAt⟩
    exact hPost a k' w' hP' hAt
  · rintro (e | _) w' ⟨hFailure, k', hP', hAt⟩
    · exact hStop e k' w' hP' hAt
    · exact absurd rfl hFailure

theorem Steps.wp_ignore_isAt {post : Unit → World κ σ ν → Prop} (hx : Steps R x)
    (h : w.IsAt k s f) (hP : P k) (hStep : ∀ k k', P k → R k k' → P k')
    (hPost : ∀ k' w', P k' → w'.IsAt k' s f → post () w') : wp (Effects.ignore x) post stop w := by
  rw [Effects.ignore, wp_bind]
  refine wp_mono ((hx.maintains_isAt hStep s f).wp_attempt ⟨k, hP, h⟩) ?_ fun _ _ h => h.elim
  rintro _ w' ⟨k', hP', hAt⟩
  exact hPost k' w' hP' hAt

end Position

theorem Steps.pure (a : α) : Steps R (pure a : Program ε (World κ σ ν) α) :=
  fun _ _ _ => Maintains.pure a

theorem Steps.fail (e : ε) : Steps R (fail e : Program ε (World κ σ ν) α) :=
  fun _ _ _ => Maintains.fail e

theorem Steps.checked {x : Checked.Result α} (hx : x.isSome) :
    Steps R (checked x : Program ε (World κ σ ν) α) :=
  fun _ _ _ => Maintains.checked hx

theorem Steps.getState : Steps R (getState : Program ε (World κ σ ν) σ) :=
  fun _ _ _ _ hw => hw

theorem Steps.bind {x : Program ε (World κ σ ν) β} {f : β → Program ε (World κ σ ν) α}
    (hx : Steps R x) (hf : ∀ b, Steps R (f b)) : Steps R (x >>= f) :=
  fun I hRefuse hStep =>
    Maintains.bind (hx I hRefuse hStep) fun b => hf b I hRefuse hStep

theorem Steps.attempt {x : Program ε (World κ σ ν) α} (hx : Steps R x) : Steps R (attempt x) :=
  fun I hRefuse hStep => Maintains.attempt (hx I hRefuse hStep)

theorem Steps.ignore {x : Program ε (World κ σ ν) α} (hx : Steps R x) : Steps R (ignore x) :=
  fun I hRefuse hStep => Maintains.ignore (hx I hRefuse hStep)

theorem Steps.mapErr {δ : Type} {f : ε → δ} {x : Program ε (World κ σ ν) α} (hx : Steps R x) :
    Steps R (mapErr f x) :=
  fun I hRefuse hStep => Maintains.mapErr (hx I hRefuse hStep)

theorem Steps.forM {f : α → Program ε (World κ σ ν) PUnit} (xs : List α)
    (hf : ∀ a, Steps R (f a)) : Steps R (xs.forM f) :=
  fun I hRefuse hStep => Maintains.forM xs fun a => hf a I hRefuse hStep

section Rules

variable {x : Program ε (World κ σ ν) α} {post : α → World κ σ ν → Prop}
  {stop : Failure ε → World κ σ ν → Prop} {w : World κ σ ν}

/-- The local state after such a program is the one before it. -/
theorem Steps.maintains_state (hx : Steps R x) (s : σ) : Maintains (fun w => w.state = s) x :=
  hx _ (fun _ h => h) fun _ _ h _ => ⟨h, h⟩

theorem Steps.wp_state (hx : Steps R x) (hPost : ∀ a w', w'.state = w.state → post a w')
    (hStop : ∀ e w', w'.state = w.state → stop (.error e) w') : wp x post stop w := by
  refine wp_mono (hx.maintains_state w.state w rfl) hPost ?_
  rintro (e | _) w' ⟨hFailure, hState⟩
  · exact hStop e w' hState
  · exact absurd rfl hFailure

theorem Steps.wp_attempt_state {post : Except ε α → World κ σ ν → Prop} (hx : Steps R x)
    (hPost : ∀ a w', w'.state = w.state → post a w') : wp (Effects.attempt x) post stop w :=
  wp_mono ((hx.maintains_state w.state).wp_attempt rfl) hPost fun _ _ h => h.elim

theorem Steps.wp_ignore_state {post : Unit → World κ σ ν → Prop} (hx : Steps R x)
    (hPost : ∀ w', w'.state = w.state → post () w') : wp (Effects.ignore x) post stop w := by
  rw [Effects.ignore, wp_bind]
  exact hx.wp_attempt_state fun _ w' h => hPost w' h

end Rules

end Steps

end Effects
