import Mapecd.Semantics.Prefix

/-! Sets of prefixes none of which begins another one, so that a word is behind at
most one of them. Such a set is recognised by putting its members into a trie. -/
namespace Prefix

/-- Neither of two words begins the other. -/
def Unrelated (p q : List Bool) : Prop := ¬ p <+: q ∧ ¬ q <+: p

theorem Unrelated.symm {p q : List Bool} (h : Unrelated p q) : Unrelated q p := ⟨h.2, h.1⟩

theorem Unrelated.cons {p q : List Bool} (b : Bool) (h : Unrelated p q) : Unrelated (b :: p) (b :: q) :=
  ⟨fun hPrefix => h.1 (List.cons_prefix_cons.mp hPrefix).2,
    fun hPrefix => h.2 (List.cons_prefix_cons.mp hPrefix).2⟩

theorem unrelated_of_ne {b c : Bool} (h : b ≠ c) (p q : List Bool) : Unrelated (b :: p) (c :: q) :=
  ⟨fun hPrefix => h (List.cons_prefix_cons.mp hPrefix).1,
    fun hPrefix => h (List.cons_prefix_cons.mp hPrefix).1.symm⟩

/-- A word that begins with both shows that they are not apart. -/
theorem Unrelated.not_both {p q word : List Bool} (h : Unrelated p q) (hp : p <+: word) : ¬ q <+: word := by
  intro hq
  rcases List.prefix_or_prefix_of_prefix hp hq with hPrefix | hPrefix
  · exact h.1 hPrefix
  · exact h.2 hPrefix

/-- A leaf stands for all words that begin with its path. -/
inductive Trie where
  | empty
  | leaf
  | node (zero one : Trie)

namespace Trie

/-- The trie with one path more, unless the path meets one that is there. -/
def insert : Trie → List Bool → Option Trie
  | empty, [] => some leaf
  | empty, false :: word => (insert empty word).map fun zero => node zero empty
  | empty, true :: word => (insert empty word).map fun one => node empty one
  | leaf, _ => none
  | node _ _, [] => none
  | node zero one, false :: word => (insert zero word).map fun zero => node zero one
  | node zero one, true :: word => (insert one word).map fun one => node zero one

def build : List (List Bool) → Option Trie
  | [] => some empty
  | word :: words => (build words).bind fun trie => insert trie word

/-- A path to a leaf. -/
def Has : Trie → List Bool → Prop
  | leaf, [] => True
  | node zero _, false :: word => Has zero word
  | node _ one, true :: word => Has one word
  | _, _ => False

variable {trie trie' : Trie} {word : List Bool}

/-- An inserted word is found, and it was a prefix of none of the others nor they of it. -/
theorem insert_has (h : insert trie word = some trie') :
    Has trie' word ∧ ∀ path, Has trie path → Has trie' path ∧ Unrelated word path := by
  induction trie, word using insert.induct generalizing trie' with
  | case1 =>
      cases h
      exact ⟨trivial, fun _ hPath => by cases hPath⟩
  | case2 word ih =>
      obtain ⟨zero, hZero, rfl⟩ := Option.map_eq_some_iff.mp h
      exact ⟨(ih hZero).1, fun _ hPath => by cases hPath⟩
  | case3 word ih =>
      obtain ⟨one, hOne, rfl⟩ := Option.map_eq_some_iff.mp h
      exact ⟨(ih hOne).1, fun _ hPath => by cases hPath⟩
  | case4 word =>
      rw [insert] at h
      cases h
  | case5 => cases h
  | case6 zero one word ih =>
      obtain ⟨zero', hZero, rfl⟩ := Option.map_eq_some_iff.mp h
      obtain ⟨hWord, hOld⟩ := ih hZero
      refine ⟨hWord, fun path hPath => ?_⟩
      rcases path with _ | ⟨_ | _, path⟩
      · cases hPath
      · exact ⟨(hOld path hPath).1, (hOld path hPath).2.cons false⟩
      · exact ⟨hPath, unrelated_of_ne (by decide) _ _⟩
  | case7 zero one word ih =>
      obtain ⟨one', hOne, rfl⟩ := Option.map_eq_some_iff.mp h
      obtain ⟨hWord, hOld⟩ := ih hOne
      refine ⟨hWord, fun path hPath => ?_⟩
      rcases path with _ | ⟨_ | _, path⟩
      · cases hPath
      · exact ⟨hPath, unrelated_of_ne (by decide) _ _⟩
      · exact ⟨(hOld path hPath).1, (hOld path hPath).2.cons true⟩

/-- A list that can be put into a trie has no two words that meet. -/
theorem build_pairwise {words : List (List Bool)} (h : build words = some trie) :
    words.Pairwise Unrelated ∧ ∀ word ∈ words, Has trie word := by
  induction words generalizing trie with
  | nil => exact ⟨List.Pairwise.nil, by simp⟩
  | cons word words ih =>
      obtain ⟨rest, hRest, hInsert⟩ := Option.bind_eq_some_iff.mp h
      obtain ⟨hPairwise, hHas⟩ := ih hRest
      obtain ⟨hWord, hOld⟩ := insert_has hInsert
      refine ⟨List.pairwise_cons.mpr ⟨fun other hOther => (hOld other (hHas other hOther)).2,
        hPairwise⟩, ?_⟩
      intro other hOther
      rcases List.mem_cons.mp hOther with rfl | hOther
      · exact hWord
      · exact (hOld other (hHas other hOther)).1

end Trie

variable {w : Nat}

/-- The `n` most significant bits. -/
def leading (n : Nat) (x : BitVec w) : List Bool := (List.range n).map x.getMsbD

/-- Leading bits depend on the bits that they are made of only. -/
theorem leading_congr {n : Nat} {x y : BitVec w} (h : Agree n x y) : leading n x = leading n y := by
  apply List.map_congr_left
  intro i hi
  have hRange : i < n := List.mem_range.mp hi
  rw [BitVec.getMsbD_eq_getLsbD, BitVec.getMsbD_eq_getLsbD]
  by_cases hWidth : i < w
  · rw [h (w - 1 - i) (by omega)]
  · simp [hWidth]

theorem leading_mono {n m : Nat} (x : BitVec w) (h : n ≤ m) : leading n x <+: leading m x := by
  obtain ⟨rest, rfl⟩ := Nat.exists_eq_add_of_le h
  rw [leading, leading, List.range_add, List.map_append]
  exact List.prefix_append _ _

/-- No word agrees with two prefixes that are apart. -/
theorem Unrelated.not_agree {n m : Nat} {x y z : BitVec w} (h : Unrelated (leading n x) (leading m y))
    (hn : n ≤ w) (hm : m ≤ w) (hx : Agree n z x) : ¬ Agree m z y := by
  intro hy
  rw [← leading_congr hx, ← leading_congr hy] at h
  exact h.not_both (leading_mono z hn) (leading_mono z hm)

/-- Prefixes that are pairwise apart are told apart by the words that agree with them. -/
theorem eq_of_agree {α : Type} {len : α → Nat} {word : α → BitVec w} {items : List α} {x y : α}
    {z : BitVec w} (h : (items.map fun item => leading (len item) (word item)).Pairwise Unrelated)
    (hLen : ∀ item, len item ≤ w) (hx : x ∈ items) (hy : y ∈ items)
    (hAgree : Agree (len x) z (word x)) (hAgree' : Agree (len y) z (word y)) : x = y := by
  by_contra hNe
  have : Std.Symm fun x y => Unrelated (leading (len x) (word x)) (leading (len y) (word y)) :=
    ⟨fun _ _ => Unrelated.symm⟩
  have hUnrelated := (List.pairwise_map.mp h).forall hx hy hNe
  exact hUnrelated.not_agree (hLen x) (hLen y) hAgree hAgree'

end Prefix
