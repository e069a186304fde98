import Mapecd.Dhcpv6.ContainerEncoding

/-! The loop over the options, with its position in the payload. It reads all
options that are there in full, whatever the bytes. -/
namespace Mapecd

open Checked Bytes

/-- The `while` loop of `iter_opts`, from a position on. `f` is the closure with
the variables it captures. -/
def iterOptsFrom {σ : Type} (payload : List U8) (f : σ → U16 × List U8 → σ) (pos : Nat)
    (captured : σ) : Result σ := do
  if pos + 4 ≤ payload.length then
    let code := (← index payload pos) ++ (← index payload (pos + 1))
    let len := ((← index payload (pos + 2)) ++ (← index payload (pos + 3))).toNat
    if pos + 4 + len > payload.length then
      return captured
    let data ← slice payload (pos + 4) (pos + 4 + len)
    iterOptsFrom payload f (pos + 4 + len) (f captured (code, data))
  else
    return captured
termination_by payload.length - pos

/-- No further option can be read: not even a header is left, or its length goes
beyond the end. -/
def Exhausted (rest : List U8) : Prop :=
  rest.length < 4 ∨ ∃ c₁ c₀ l₁ l₀ data, rest = c₁ :: c₀ :: l₁ :: l₀ :: data ∧
    data.length < (l₁ ++ l₀).toNat

/-- Four bytes are a header. -/
theorem length_lt_of_noHeader {payload : List U8}
    (h : ∀ c₁ c₀ l₁ l₀ rest, payload ≠ c₁ :: c₀ :: l₁ :: l₀ :: rest) : payload.length < 4 := by
  rcases payload with _ | ⟨c₁, _ | ⟨c₀, _ | ⟨l₁, _ | ⟨l₀, rest⟩⟩⟩⟩
  · exact Nat.zero_lt_succ 3
  · exact Nat.succ_lt_succ (Nat.zero_lt_succ 2)
  · exact Nat.lt_of_sub_pos Nat.succ_pos'
  · exact Nat.lt_succ_self 3
  · exact absurd rfl (h c₁ c₀ l₁ l₀ rest)

theorem iterOpts_short {payload : List U8} (h : payload.length < 4) : iterOpts payload = [] := by
  rw [iterOpts]
  rintro c₁ c₀ l₁ l₀ rest rfl
  simp only [List.length_cons] at h
  omega

section Loop

variable {σ : Type} (f : σ → U16 × List U8 → σ)

/-- One pass at a position with four bytes behind it. All reads are inside the payload. -/
theorem iterOptsFrom_header (before : List U8) (c₁ c₀ l₁ l₀ : U8) (rest : List U8) (captured : σ) :
    iterOptsFrom (before ++ c₁ :: c₀ :: l₁ :: l₀ :: rest) f before.length captured =
      if (l₁ ++ l₀).toNat ≤ rest.length then
        iterOptsFrom (before ++ c₁ :: c₀ :: l₁ :: l₀ :: rest) f
          (before.length + 4 + (l₁ ++ l₀).toNat) (f captured (c₁ ++ c₀, rest.take (l₁ ++ l₀).toNat))
      else
        some captured := by
  have hLength : (before ++ c₁ :: c₀ :: l₁ :: l₀ :: rest).length = before.length + 4 + rest.length := by
    simp only [List.length_append, List.length_cons]
    omega
  have hIndex (i : Nat) (byte : U8) (hByte : (c₁ :: c₀ :: l₁ :: l₀ :: rest)[i]? = some byte) :
      index (before ++ c₁ :: c₀ :: l₁ :: l₀ :: rest) (before.length + i) = some byte := by
    rw [index_append_right (Nat.le_add_right _ _), Nat.add_sub_cancel_left]
    exact hByte
  have hHeader : before.length + 4 ≤ (before ++ c₁ :: c₀ :: l₁ :: l₀ :: rest).length := by
    rw [hLength]
    exact Nat.le_add_right _ _
  rw [iterOptsFrom, if_pos hHeader, hIndex 1 c₀ rfl, hIndex 2 l₁ rfl, hIndex 3 l₀ rfl, hLength]
  have hFirst := hIndex 0 c₁ rfl
  rw [Nat.add_zero] at hFirst
  simp only [hFirst, Option.bind_eq_bind, Option.bind_some]
  by_cases hFits : (l₁ ++ l₀).toNat ≤ rest.length
  · have hSplit : before ++ c₁ :: c₀ :: l₁ :: l₀ :: rest = (before ++ [c₁, c₀, l₁, l₀]) ++ rest := by
      simp
    have hData : slice (before ++ c₁ :: c₀ :: l₁ :: l₀ :: rest) (before.length + 4)
        (before.length + 4 + (l₁ ++ l₀).toNat) = some (rest.take (l₁ ++ l₀).toNat) := by
      rw [hSplit]
      exact slice_append_right (by rw [List.length_append]; rfl) hFits
    rw [if_neg (by omega), if_pos hFits, hData]
    rfl
  · rw [if_pos (by omega), if_neg hFits]
    rfl

/-- Every read is inside the payload, and the loop visits the options of what is
behind its position. -/
theorem iterOptsFrom_eq (before rest : List U8) (captured : σ) :
    iterOptsFrom (before ++ rest) f before.length captured =
      some ((iterOpts rest).foldl f captured) := by
  induction rest using iterOpts.induct generalizing before captured with
  | case1 c₁ c₀ l₁ l₀ rest len hFits ih =>
      have hBehind := ih (before ++ c₁ :: c₀ :: l₁ :: l₀ :: rest.take len)
        (f captured (c₁ ++ c₀, rest.take len))
      have hSame : (before ++ c₁ :: c₀ :: l₁ :: l₀ :: rest.take len) ++ rest.drop len =
          before ++ c₁ :: c₀ :: l₁ :: l₀ :: rest := by
        simp
      have hPos : (before ++ c₁ :: c₀ :: l₁ :: l₀ :: rest.take len).length =
          before.length + 4 + len := by
        simp only [List.length_append, List.length_cons, List.length_take_of_le hFits]
        omega
      rw [hSame, hPos] at hBehind
      rw [iterOptsFrom_header, if_pos hFits, iterOpts_cons, if_pos hFits, List.foldl_cons]
      exact hBehind
  | case2 c₁ c₀ l₁ l₀ rest len hCut =>
      rw [iterOptsFrom_header, if_neg hCut, iterOpts_cons, if_neg hCut]
      rfl
  | case3 rest hShort =>
      have hLength := length_lt_of_noHeader hShort
      have hEnd : ¬ before.length + 4 ≤ (before ++ rest).length := by
        rw [List.length_append]
        omega
      rw [iterOptsFrom, if_neg hEnd, iterOpts_short hLength]
      rfl

end Loop

section Longest

/-- What is read, written again, is the front of the payload. -/
theorem iterOpts_split (payload : List U8) :
    ∃ rest, payload = encodeOptions (iterOpts payload) ++ rest ∧ Exhausted rest := by
  induction payload using iterOpts.induct with
  | case1 c₁ c₀ l₁ l₀ rest len hFits ih =>
      obtain ⟨behind, hSplit, hExhausted⟩ := ih
      refine ⟨behind, ?_, hExhausted⟩
      have hFirst : encodeOption (c₁ ++ c₀) (rest.take len) =
          c₁ :: c₀ :: l₁ :: l₀ :: rest.take len := by
        rw [encodeOption, List.length_take_of_le hFits, BitVec.ofNat_toNat, BitVec.setWidth_eq,
          toBe_append, toBe_append]
        rfl
      calc c₁ :: c₀ :: l₁ :: l₀ :: rest
          = c₁ :: c₀ :: l₁ :: l₀ :: (rest.take len ++ rest.drop len) := by
            rw [List.take_append_drop]
        _ = encodeOption (c₁ ++ c₀) (rest.take len) ++
              (encodeOptions (iterOpts (rest.drop len)) ++ behind) := by
            rw [hFirst, ← hSplit]
            rfl
        _ = encodeOptions (iterOpts (c₁ :: c₀ :: l₁ :: l₀ :: rest)) ++ behind := by
            rw [iterOpts_cons, if_pos hFits, ← List.append_assoc]
            rfl
  | case2 c₁ c₀ l₁ l₀ rest len hCut =>
      refine ⟨_, ?_, Or.inr ⟨c₁, c₀, l₁, l₀, rest, rfl, Nat.lt_of_not_le hCut⟩⟩
      rw [iterOpts_cons, if_neg hCut]
      rfl
  | case3 payload hShort =>
      have hLength := length_lt_of_noHeader hShort
      refine ⟨payload, ?_, Or.inl hLength⟩
      rw [iterOpts_short hLength]
      rfl

/-- No well-formed options at the front of the payload are longer. -/
theorem iterOpts_maximal {payload : List U8} {options : List (U16 × List U8)}
    (hLengths : ∀ option ∈ options, option.2.length < 2 ^ 16)
    (hFront : encodeOptions options <+: payload) : options <+: iterOpts payload := by
  induction options generalizing payload with
  | nil => exact List.nil_prefix
  | cons option options ih =>
      obtain ⟨rest, rfl⟩ := hFront
      have hSplit : encodeOptions (option :: options) ++ rest =
          encodeOption option.1 option.2 ++ (encodeOptions options ++ rest) :=
        List.append_assoc _ _ _
      rw [hSplit, iterOpts_encodeOption _ _ _ (hLengths option List.mem_cons_self),
        List.cons_prefix_cons]
      refine ⟨rfl, ih ?_ (List.prefix_append _ _)⟩
      intro other hOther
      exact hLengths other (List.mem_cons_of_mem option hOther)

end Longest

/-- For every payload the loop ends without a panic, having given to its closure
the options of the longest well-formed front. -/
theorem iterOpts_longest (payload : List U8) :
    ∃ options rest, (∀ (σ : Type) (f : σ → U16 × List U8 → σ) (captured : σ),
        iterOptsFrom payload f 0 captured = some (options.foldl f captured)) ∧
      payload = encodeOptions options ++ rest ∧ Exhausted rest ∧
      ∀ others : List (U16 × List U8), (∀ option ∈ others, option.2.length < 2 ^ 16) →
        encodeOptions others <+: payload → others <+: options := by
  obtain ⟨rest, hSplit, hExhausted⟩ := iterOpts_split payload
  refine ⟨iterOpts payload, rest, ?_, hSplit, hExhausted, ?_⟩
  · intro σ f captured
    exact iterOptsFrom_eq f [] payload captured
  · intro others hLengths hFront
    exact iterOpts_maximal hLengths hFront

end Mapecd
