import Mathlib.Data.Set.Function
import Mathlib.Tactic

/-! The first of the largest elements of a list that have a property. -/
namespace Selection

variable {α β : Type} [LinearOrder β] {p : α → Prop} {f : α → β} {x y : α} {xs ys : List α}

/-- Among those with `p` the first one of the greatest value. -/
structure FirstMax (p : α → Prop) (f : α → β) (xs : List α) (x : α) : Prop where
  holds : p x
  first : ∃ before after, xs = before ++ x :: after ∧ (∀ y ∈ before, p y → f y < f x) ∧
    ∀ y ∈ after, p y → f y ≤ f x

theorem FirstMax.mem (h : FirstMax p f xs x) : x ∈ xs := by
  obtain ⟨before, after, rfl, -⟩ := h.first
  simp

theorem FirstMax.le (h : FirstMax p f xs x) (hMem : y ∈ xs) (hHolds : p y) : f y ≤ f x := by
  obtain ⟨before, after, rfl, hBefore, hAfter⟩ := h.first
  rw [List.mem_append, List.mem_cons] at hMem
  rcases hMem with hMem | rfl | hMem
  · exact le_of_lt (hBefore y hMem hHolds)
  · exact le_rfl
  · exact hAfter y hMem hHolds

/-- An element without the property does not count. -/
theorem firstMax_cons_of_not (h : ¬ p y) : FirstMax p f (y :: xs) x ↔ FirstMax p f xs x := by
  constructor
  · intro hMax
    obtain ⟨before, after, hSplit, hBefore, hAfter⟩ := hMax.first
    cases before with
    | nil =>
        cases hSplit
        exact absurd hMax.holds h
    | cons head before =>
        cases hSplit
        exact ⟨hMax.holds, before, after, rfl,
          fun z hz => hBefore z (List.mem_cons_of_mem _ hz), hAfter⟩
  · intro hMax
    obtain ⟨before, after, rfl, hBefore, hAfter⟩ := hMax.first
    refine ⟨hMax.holds, y :: before, after, rfl, ?_, hAfter⟩
    intro z hz hHolds
    rcases List.mem_cons.mp hz with rfl | hz
    · exact absurd hHolds h
    · exact hBefore z hz hHolds

/-- Nothing is before the head. -/
theorem firstMax_head_iff (h : p x) :
    FirstMax p f (x :: xs) x ↔ ∀ y ∈ xs, p y → f y ≤ f x := by
  constructor
  · intro hMax y hy hHolds
    exact hMax.le (List.mem_cons_of_mem x hy) hHolds
  · intro hLe
    exact ⟨h, [], xs, rfl, fun y hy => absurd hy List.not_mem_nil, hLe⟩

/-- Without ties the order of the list does not matter. -/
theorem FirstMax.eq_of_perm (hInj : Set.InjOn f {z | z ∈ xs ∧ p z}) (hPerm : xs.Perm ys)
    (hx : FirstMax p f xs x) (hy : FirstMax p f ys y) : x = y := by
  have hMem : y ∈ xs := hPerm.mem_iff.mpr hy.mem
  apply hInj ⟨hx.mem, hx.holds⟩ ⟨hMem, hy.holds⟩
  exact le_antisymm (hy.le (hPerm.mem_iff.mp hx.mem) hx.holds) (hx.le hMem hy.holds)

end Selection
