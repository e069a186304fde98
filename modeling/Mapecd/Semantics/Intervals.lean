import Mathlib.Data.Set.Function
import Mathlib.Tactic

/-! Lists of intervals of natural numbers in canonical form: sorted, none of
them empty and no two that could be merged. A set has at most one such list. -/
namespace Intervals

variable {β : Type} {lo hi : β → Nat} {xs ys : List β} {x y : β} {n : Nat}

/-- The numbers in one of the intervals. -/
def union (lo hi : β → Nat) (xs : List β) : Set Nat := {n | ∃ x ∈ xs, lo x ≤ n ∧ n ≤ hi x}

/-- Between two intervals at least one number is left out. -/
structure Canonical (lo hi : β → Nat) (xs : List β) : Prop where
  nonempty : ∀ x ∈ xs, lo x ≤ hi x
  separated : xs.Pairwise fun x y => hi x + 1 < lo y

theorem mem_union_cons : n ∈ union lo hi (x :: xs) ↔ (lo x ≤ n ∧ n ≤ hi x) ∨ n ∈ union lo hi xs :=
  List.exists_mem_cons_iff ..

namespace Canonical

theorem nil : Canonical lo hi [] := ⟨fun _ hx => absurd hx List.not_mem_nil, List.Pairwise.nil⟩

theorem singleton (h : lo x ≤ hi x) : Canonical lo hi [x] := by
  refine ⟨?_, List.pairwise_singleton _ _⟩
  intro y hy
  rwa [List.mem_singleton.mp hy]

theorem tail (h : Canonical lo hi (x :: xs)) : Canonical lo hi xs :=
  ⟨fun y hy => h.nonempty y (List.mem_cons_of_mem x hy), (List.pairwise_cons.mp h.separated).2⟩

/-- The last interval may grow upwards. -/
theorem extend (h : Canonical lo hi (xs ++ [x])) (hLo : lo y = lo x) (hHi : hi x ≤ hi y) :
    Canonical lo hi (xs ++ [y]) := by
  obtain ⟨hBefore, -, hGap⟩ := List.pairwise_append.mp h.separated
  have hLast : lo x ≤ hi x := h.nonempty x (by simp)
  constructor
  · intro z hz
    rcases List.mem_append.mp hz with hz | hz
    · exact h.nonempty z (List.mem_append_left _ hz)
    · rw [List.mem_singleton.mp hz, hLo]
      exact hLast.trans hHi
  · refine List.pairwise_append.mpr ⟨hBefore, List.pairwise_singleton _ _, ?_⟩
    intro z hz last hLastMem
    rw [List.mem_singleton.mp hLastMem, hLo]
    exact hGap z hz x (List.mem_singleton_self x)

/-- A further interval behind a gap. -/
theorem append (h : Canonical lo hi (xs ++ [x])) (hGap : hi x + 1 < lo y) (hy : lo y ≤ hi y) :
    Canonical lo hi (xs ++ [x] ++ [y]) := by
  have hLast : lo x ≤ hi x := h.nonempty x (by simp)
  constructor
  · intro z hz
    rcases List.mem_append.mp hz with hz | hz
    · exact h.nonempty z hz
    · rwa [List.mem_singleton.mp hz]
  · refine List.pairwise_append.mpr ⟨h.separated, List.pairwise_singleton _ _, ?_⟩
    intro z hz last hLastMem
    rw [List.mem_singleton.mp hLastMem]
    rcases List.mem_append.mp hz with hz | hz
    · have hBefore := (List.pairwise_append.mp h.separated).2.2 z hz x (List.mem_singleton_self x)
      omega
    · rwa [List.mem_singleton.mp hz]

theorem lo_mem (h : Canonical lo hi (x :: xs)) : lo x ∈ union lo hi (x :: xs) :=
  ⟨x, List.mem_cons_self, le_rfl, h.nonempty x List.mem_cons_self⟩

/-- In canonical lists the tail is what lies above the first interval. -/
theorem mem_tail_iff (h : Canonical lo hi (x :: xs)) :
    n ∈ union lo hi xs ↔ n ∈ union lo hi (x :: xs) ∧ hi x < n := by
  rw [mem_union_cons]
  constructor
  · intro hn
    refine ⟨Or.inr hn, ?_⟩
    obtain ⟨y, hy, hLo, -⟩ := hn
    have hGap := (List.pairwise_cons.mp h.separated).1 y hy
    omega
  · rintro ⟨⟨-, hHi⟩ | hn, hBehind⟩
    · omega
    · exact hn

theorem lo_le (h : Canonical lo hi (x :: xs)) (hn : n ∈ union lo hi (x :: xs)) : lo x ≤ n := by
  have hFirst := h.nonempty x List.mem_cons_self
  rcases mem_union_cons.mp hn with ⟨hLo, -⟩ | hTail
  · exact hLo
  · have hBehind := (h.mem_tail_iff.mp hTail).2
    omega

/-- The number behind the first interval is left out. -/
theorem succ_hi_notMem (h : Canonical lo hi (x :: xs)) : hi x + 1 ∉ union lo hi (x :: xs) := by
  intro hMem
  rcases mem_union_cons.mp hMem with ⟨-, hHi⟩ | ⟨y, hy, hLo, -⟩
  · omega
  · have hGap := (List.pairwise_cons.mp h.separated).1 y hy
    omega

theorem lo_eq (hx : Canonical lo hi (x :: xs)) (hy : Canonical lo hi (y :: ys))
    (hSame : union lo hi (x :: xs) = union lo hi (y :: ys)) : lo x = lo y :=
  le_antisymm (hx.lo_le (hSame ▸ hy.lo_mem)) (hy.lo_le (hSame ▸ hx.lo_mem))

/-- With the same union the first interval of one list cannot end later, since a gap
follows it. -/
theorem hi_le (hx : Canonical lo hi (x :: xs)) (hy : Canonical lo hi (y :: ys))
    (hSame : union lo hi (x :: xs) = union lo hi (y :: ys)) : hi y ≤ hi x := by
  by_contra hLonger
  apply hx.succ_hi_notMem
  rw [hSame, mem_union_cons]
  have hFirst := hx.nonempty x List.mem_cons_self
  have hLo := hx.lo_eq hy hSame
  exact Or.inl ⟨by omega, by omega⟩

/-- Two canonical lists of one set are the same list. -/
theorem unique (hx : Canonical lo hi xs) (hy : Canonical lo hi ys)
    (hEq : ∀ x y, lo x = lo y → hi x = hi y → x = y) (hSame : union lo hi xs = union lo hi ys) :
    xs = ys := by
  induction xs generalizing ys with
  | nil =>
      cases ys with
      | nil => rfl
      | cons y ys =>
          obtain ⟨x, hMem, -⟩ := hSame ▸ hy.lo_mem
          cases hMem
  | cons x xs ih =>
      cases ys with
      | nil =>
          obtain ⟨y, hMem, -⟩ := hSame ▸ hx.lo_mem
          cases hMem
      | cons y ys =>
          have hHi : hi x = hi y := le_antisymm (hy.hi_le hx hSame.symm) (hx.hi_le hy hSame)
          have hTail : union lo hi xs = union lo hi ys := by
            ext n
            rw [hx.mem_tail_iff, hy.mem_tail_iff, hSame, hHi]
          rw [hEq x y (hx.lo_eq hy hSame) hHi, ih hx.tail hy.tail hTail]

end Canonical

end Intervals
