import Mapecd.Semantics.Requests

/-! Invariants of the system and of the local state together, with what is known
of the value that a program returns. They hold after every request, whatever is
refused, and also at a panic. -/
namespace Effects

variable {κ σ ν ε α β : Type}

/-- The system is in `S`, now and all the time before, and the local state in `T`. -/
structure World.Holds (S : κ → Prop) (T : σ → Prop) (w : World κ σ ν) : Prop where
  now : S w.sys
  before : ∀ k ∈ w.history, S k
  state : T w.state

/-- `x` keeps `S` and `T`, at every request and however it ends. A value that it
returns is in `Q`. -/
def Keeps (S : κ → Prop) (T : σ → Prop) (Q : α → Prop) (x : Program ε (World κ σ ν) α) : Prop :=
  ∀ w, w.Holds S T → wp x (fun a w' => w'.Holds S T ∧ Q a) (fun _ w' => w'.Holds S T) w

namespace World.Holds

variable {S : κ → Prop} {T : σ → Prop} {w : World κ σ ν}

theorem refuse (h : w.Holds S T) : w.refuse.Holds S T := ⟨h.now, h.before, h.state⟩

theorem withState (h : w.Holds S T) {s : σ} (hs : T s) : (w.withState s).Holds S T :=
  ⟨h.now, h.before, hs⟩

theorem shift (h : w.Holds S T) {k : κ} (hk : S k) : (w.shift k).Holds S T := by
  refine ⟨hk, ?_, h.state⟩
  intro k' hMem
  rcases List.mem_cons.mp hMem with rfl | hMem
  · exact hk
  · exact h.before k' hMem

theorem advance (h : w.Holds S T) {k : κ} (hk : S k) : (w.advance k).Holds S T :=
  (h.shift hk).refuse

end World.Holds

section Rules

variable {S : κ → Prop} {T : σ → Prop} {Q : α → Prop} {R : β → Prop}

theorem Keeps.pure {a : α} (h : Q a) : Keeps S T Q (pure a : Program ε (World κ σ ν) α) :=
  fun _ hw => ⟨hw, h⟩

theorem Keeps.fail (e : ε) : Keeps S T Q (fail e : Program ε (World κ σ ν) α) := fun _ hw => hw

theorem Keeps.checked {x : Checked.Result α} (h : ∀ a, x = some a → Q a) :
    Keeps S T Q (checked x : Program ε (World κ σ ν) α) := by
  intro w hw
  cases x with
  | none => exact hw
  | some a => exact ⟨hw, h a rfl⟩

theorem Keeps.getState : Keeps S T T (getState : Program ε (World κ σ ν) σ) :=
  fun _ hw => ⟨hw, hw.state⟩

theorem Keeps.modifyState {f : σ → σ} (h : ∀ s, T s → T (f s)) {Q : Unit → Prop} (hQ : Q ()) :
    Keeps S T Q (modifyState f : Program ε (World κ σ ν) Unit) :=
  fun _ hw => ⟨hw.withState (h _ hw.state), hQ⟩

theorem Keeps.internal {f : κ → κ} (h : ∀ k, S k → S (f k)) {Q : Unit → Prop} (hQ : Q ()) :
    Keeps S T Q (internal f : Program ε (World κ σ ν) Unit) :=
  fun _ hw => ⟨hw.shift (h _ hw.now), hQ⟩

/-- A request keeps `S` if its operation does. A refused one changes nothing. -/
theorem Keeps.issue {op : Operation κ ν α} (h : ∀ k a k', S k → op k = .ok (a, k') → S k' ∧ Q a) :
    Keeps S T Q (issue op : Program ν (World κ σ ν) α) := by
  intro w hw
  apply wp_issue
  · exact fun _ _ => hw.refuse
  · intro a k _ hOp
    obtain ⟨hk, hQ⟩ := h _ a k hw.now hOp
    exact ⟨hw.advance hk, hQ⟩

theorem Keeps.mono {Q' : α → Prop} {x : Program ε (World κ σ ν) α} (hx : Keeps S T Q x)
    (h : ∀ a, Q a → Q' a) : Keeps S T Q' x :=
  fun w hw => wp_mono (hx w hw) (fun a _ hDone => ⟨hDone.1, h a hDone.2⟩) fun _ _ hStop => hStop

theorem Keeps.bind {x : Program ε (World κ σ ν) β} {f : β → Program ε (World κ σ ν) α}
    (hx : Keeps S T R x) (hf : ∀ b, R b → Keeps S T Q (f b)) : Keeps S T Q (x >>= f) := by
  intro w hw
  rw [wp_bind]
  exact wp_mono (hx w hw) (fun b w' hDone => hf b hDone.2 w' hDone.1) fun _ _ hStop => hStop

/-- An error is returned as a value. -/
theorem Keeps.attempt {x : Program ε (World κ σ ν) α} (hx : Keeps S T Q x) :
    Keeps S T (fun result => ∀ a, result = .ok a → Q a) (attempt x) := by
  intro w hw
  rw [wp_attempt]
  apply wp_mono (hx w hw)
  · rintro a w' ⟨hw', hQ⟩
    refine ⟨hw', ?_⟩
    rintro _ ⟨⟩
    exact hQ
  · intro failure w' hw'
    cases failure with
    | error e => exact ⟨hw', by rintro _ ⟨⟩⟩
    | panic => exact hw'

theorem Keeps.ignore {x : Program ε (World κ σ ν) α} (hx : Keeps S T Q x) {R : Unit → Prop}
    (hR : R ()) : Keeps S T R (ignore x) :=
  Keeps.bind hx.attempt fun _ _ => Keeps.pure hR

theorem Keeps.mapErr {δ : Type} {f : ε → δ} {x : Program ε (World κ σ ν) α} (hx : Keeps S T Q x) :
    Keeps S T Q (mapErr f x) := by
  intro w hw
  rw [wp_mapErr]
  exact hx w hw

/-- The loop rule, for a body whose result carries no information. -/
theorem Keeps.forM {f : α → Program ε (World κ σ ν) PUnit} {R : PUnit → Prop} (hR : R ⟨⟩)
    (xs : List α) (hf : ∀ a ∈ xs, Keeps S T R (f a)) : Keeps S T R (xs.forM f) := by
  induction xs with
  | nil => exact Keeps.pure hR
  | cons x xs ih =>
      rw [List.forM_eq_forM, List.forM_cons]
      exact Keeps.bind (hf x List.mem_cons_self) fun _ _ =>
        ih fun a hMem => hf a (List.mem_cons_of_mem _ hMem)

/-- Steps that stay in `S` leave the local state alone. -/
theorem Steps.keeps {R : κ → κ → Prop} {x : Program ε (World κ σ ν) α} (hx : Steps R x)
    (h : ∀ k k', S k → R k k' → S k') : Keeps S T (fun _ => True) x := by
  intro w hw
  refine wp_mono (hx (World.Holds S T) (fun _ h' => h'.refuse) ?_ w hw)
    (fun _ _ h' => ⟨h', trivial⟩) fun _ _ h' => h'.2
  intro w' k hw' hR
  have hk : S k := h _ _ hw'.now hR
  exact ⟨hw'.advance hk, hw'.shift hk⟩

end Rules

end Effects
