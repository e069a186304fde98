import Mapecd.Semantics.Checked

/-! Byte strings: reads with bounds checks and big-endian numbers. -/
namespace Bytes

open Checked

abbrev Byte := BitVec 8

/-- One element. Outside the bytes the read panics. -/
def index (bytes : List Byte) (pos : Nat) : Result Byte := bytes[pos]?

/-- The elements from `start` up to but excluding `stop`. -/
def slice (bytes : List Byte) (start stop : Nat) : Result (List Byte) :=
  if start ≤ stop ∧ stop ≤ bytes.length then some ((bytes.take stop).drop start) else none

theorem index_append_right {before after : List Byte} {pos : Nat} (h : before.length ≤ pos) :
    index (before ++ after) pos = index after (pos - before.length) :=
  List.getElem?_append_right h

theorem slice_full (bytes : List Byte) (start : Nat) (h : start ≤ bytes.length) :
    slice bytes start bytes.length = some (bytes.drop start) := by
  rw [slice, if_pos ⟨h, Nat.le_refl _⟩, List.take_length]

/-- A slice inside the second part of two. -/
theorem slice_append_right {before after : List Byte} {start len : Nat}
    (hStart : start = before.length) (hLen : len ≤ after.length) :
    slice (before ++ after) start (start + len) = some (after.take len) := by
  subst hStart
  rw [slice, if_pos ⟨Nat.le_add_right _ _, by rw [List.length_append]; omega⟩,
    List.take_length_add_append, List.drop_left]

/-- The number whose most significant byte is the first one. -/
def ofBe (w : Nat) : List Byte → BitVec w
  | [] => 0
  | byte :: bytes => byte.setWidth w <<< (8 * bytes.length) ||| ofBe w bytes

/-- The `n` low bytes of a number, most significant first. -/
def toBe {w : Nat} : Nat → BitVec w → List Byte
  | 0, _ => []
  | n + 1, x => (x >>> (8 * n)).setWidth 8 :: toBe n x

variable {w : Nat}

@[simp] theorem length_toBe (n : Nat) (x : BitVec w) : (toBe n x).length = n := by
  induction n with
  | zero => rfl
  | succ n ih => rw [toBe, List.length_cons, ih]

/-- Writing and reading keeps the low bits. -/
theorem getLsbD_ofBe_toBe (n : Nat) (x : BitVec w) (i : Nat) :
    (ofBe w (toBe n x)).getLsbD i = (decide (i < 8 * n) && x.getLsbD i) := by
  induction n with
  | zero => simp [toBe, ofBe]
  | succ n ih =>
      simp only [toBe, ofBe, length_toBe, BitVec.getLsbD_or, BitVec.getLsbD_shiftLeft,
        BitVec.getLsbD_setWidth, BitVec.getLsbD_ushiftRight, ih]
      by_cases hLow : i < 8 * n
      · have hTop : i < 8 * (n + 1) := by omega
        simp [hLow, hTop]
      · have hIndex : 8 * n + (i - 8 * n) = i := by omega
        rw [hIndex]
        by_cases hWidth : i < w
        · by_cases hTop : i < 8 * (n + 1)
          · have hByte : i - 8 * n < 8 := by omega
            have hInside : i - 8 * n < w := by omega
            simp [hLow, hTop, hByte, hInside, hWidth]
          · have hByte : ¬ i - 8 * n < 8 := by omega
            simp [hLow, hTop, hByte]
        · simp [hLow, hWidth, BitVec.getLsbD_of_ge x i (Nat.le_of_not_lt hWidth)]

theorem ofBe_toBe (n : Nat) (x : BitVec w) (h : w ≤ 8 * n) : ofBe w (toBe n x) = x := by
  apply BitVec.eq_of_getLsbD_eq
  intro i hi
  have hLow : i < 8 * n := by omega
  simp [getLsbD_ofBe_toBe, hLow]

/-- Two bytes put together again are the value. -/
theorem toBe_two (x : BitVec 16) : ∃ high low : Byte, toBe 2 x = [high, low] ∧ high ++ low = x := by
  refine ⟨_, _, rfl, ?_⟩
  apply BitVec.eq_of_getLsbD_eq
  intro i hi
  rw [BitVec.getLsbD_append]
  by_cases hLow : i < 8
  · simp [hLow]
  · have hHigh : i - 8 < 8 := by omega
    have hIndex : 8 + (i - 8) = i := by omega
    simp [hLow, hHigh, hIndex]

/-- Two bytes are read and written back. -/
theorem toBe_append (high low : Byte) : toBe 2 (high ++ low) = [high, low] := by
  obtain ⟨high', low', hBytes, hSame⟩ := toBe_two (high ++ low)
  have hBit (i : Nat) : (high' ++ low').getLsbD i = (high ++ low).getLsbD i := by rw [hSame]
  simp only [BitVec.getLsbD_append] at hBit
  have hHigh : high' = high := by
    apply BitVec.eq_of_getLsbD_eq
    intro i _
    simpa using hBit (8 + i)
  have hLow : low' = low := by
    apply BitVec.eq_of_getLsbD_eq
    intro i hi
    simpa [hi] using hBit i
  rw [hBytes, hHigh, hLow]

theorem drop_toBe (n m : Nat) (x : BitVec w) : (toBe (n + m) x).drop n = toBe m x := by
  induction n with
  | zero => rw [Nat.zero_add, List.drop_zero]
  | succ n ih => rw [Nat.add_right_comm, toBe, List.drop_succ_cons, ih]

/-- Bits that are all zero are written as zero bytes, whatever stands above them. -/
theorem toBe_eq_zeros {m : Nat} {x : BitVec w} (h : ∀ i, i < 8 * m → x.getLsbD i = false) :
    toBe m x = List.replicate m 0 := by
  induction m with
  | zero => rfl
  | succ m ih =>
      have hByte : (x >>> (8 * m)).setWidth 8 = 0 := by
        apply BitVec.eq_of_getLsbD_eq
        intro i hi
        rw [BitVec.getLsbD_setWidth, BitVec.getLsbD_ushiftRight, h _ (by omega)]
        simp
      rw [toBe, List.replicate_succ, hByte, ih fun i hi => h i (by omega)]

/-- Low bits that are zero fill the last bytes with zeros. -/
theorem toBe_eq_append_zeros (n : Nat) {m : Nat} {x : BitVec w}
    (h : ∀ i, i < 8 * m → x.getLsbD i = false) :
    toBe (n + m) x = (toBe (n + m) x).take n ++ List.replicate m 0 := by
  rw [← toBe_eq_zeros h, ← drop_toBe n m x, List.take_append_drop]

/-- Only the low bits are written. -/
theorem toBe_congr {n : Nat} {x y : BitVec w} (h : ∀ i, i < 8 * n → x.getLsbD i = y.getLsbD i) :
    toBe n x = toBe n y := by
  induction n with
  | zero => rfl
  | succ n ih =>
      have hByte : (x >>> (8 * n)).setWidth 8 = (y >>> (8 * n)).setWidth 8 := by
        apply BitVec.eq_of_getLsbD_eq
        intro i hi
        simp only [BitVec.getLsbD_setWidth, BitVec.getLsbD_ushiftRight, h (8 * n + i) (by omega)]
      rw [toBe, toBe, hByte, ih fun i hi => h i (by omega)]

/-- Bytes that are not there read as zero bits. -/
theorem getLsbD_ofBe_of_ge {bytes : List Byte} {i : Nat} (h : 8 * bytes.length ≤ i) :
    (ofBe w bytes).getLsbD i = false := by
  induction bytes with
  | nil => simp [ofBe]
  | cons byte bytes ih =>
      rw [List.length_cons] at h
      have hHigh : byte.getLsbD (i - 8 * bytes.length) = false :=
        BitVec.getLsbD_of_ge _ _ (by omega)
      simp [ofBe, ih (by omega), hHigh]

/-- Bytes that fit are read and written back. -/
theorem toBe_ofBe {bytes : List Byte} (h : 8 * bytes.length ≤ w) :
    toBe bytes.length (ofBe w bytes) = bytes := by
  induction bytes with
  | nil => rfl
  | cons byte bytes ih =>
      rw [List.length_cons] at h
      have hByte : (ofBe w (byte :: bytes) >>> (8 * bytes.length)).setWidth 8 = byte := by
        apply BitVec.eq_of_getLsbD_eq
        intro i hi
        have hInside : 8 * bytes.length + i < w := by omega
        have hZero := getLsbD_ofBe_of_ge (w := w) (Nat.le_add_right (8 * bytes.length) i)
        simp only [ofBe, BitVec.getLsbD_setWidth, BitVec.getLsbD_ushiftRight, BitVec.getLsbD_or,
          BitVec.getLsbD_shiftLeft, hZero, hi, hInside, Bool.or_false]
        simp [show i < w by omega]
      have hRest : toBe bytes.length (ofBe w (byte :: bytes)) = toBe bytes.length (ofBe w bytes) := by
        apply toBe_congr
        intro i hi
        simp [ofBe, hi]
      rw [List.length_cons, toBe, hByte, hRest, ih (by omega)]

end Bytes
