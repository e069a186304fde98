import Mapecd.Semantics.Bytes

/-! Classic BPF, as far as filters of header fields need it, and the filter for a
list of tests that all have to succeed. Every failed test jumps to the last
instruction. -/
namespace PacketFilter

open Bytes

/-- `struct sock_filter`. -/
structure SockFilter where
  code : BitVec 16
  jt : BitVec 8
  jf : BitVec 8
  k : BitVec 32
deriving DecidableEq, Repr

/-- The two widths of a load that the filters use. -/
inductive Size where
  | half
  | byte
deriving DecidableEq, Repr

namespace Size

def bytes : Size → Nat
  | half => 2
  | byte => 1

/-- `BPF_LD | BPF_ABS` with the size. -/
def loadCode : Size → BitVec 16
  | half => 0x28
  | byte => 0x30

end Size

/-- `BPF_JMP | BPF_JEQ | BPF_K`. -/
def jumpCode : BitVec 16 := 0x15

/-- `BPF_RET | BPF_K`. -/
def retCode : BitVec 16 := 0x06

/-- The part of the classic instruction set that such filters are made of. -/
inductive Instruction where
  | load (size : Size) (offset : Nat)
  | jumpEq (value : BitVec 32) (jt jf : Nat)
  | ret (verdict : Nat)
deriving DecidableEq, Repr

/-- Other codes have no meaning here. -/
def decode (insn : SockFilter) : Option Instruction :=
  if insn.code = Size.loadCode .half then some (.load .half insn.k.toNat)
  else if insn.code = Size.loadCode .byte then some (.load .byte insn.k.toNat)
  else if insn.code = jumpCode then some (.jumpEq insn.k insn.jt.toNat insn.jf.toNat)
  else if insn.code = retCode then some (.ret insn.k.toNat)
  else none

/-- The number in network byte order at an offset of the packet. -/
def load (packet : List Byte) (size : Size) (offset : Nat) : Option (BitVec 32) :=
  let bytes := (packet.drop offset).take size.bytes
  if bytes.length = size.bytes then some ((ofBe (8 * size.bytes) bytes).setWidth 32) else none

/-- The verdict from here on, after skipping some instructions. Jumps go forward
only, and a load behind the end of the packet rejects it. -/
def exec (packet : List Byte) : Nat → BitVec 32 → List Instruction → Nat
  | _, _, [] => 0
  | skip + 1, acc, _ :: rest => exec packet skip acc rest
  | 0, _, .load size offset :: rest =>
      match load packet size offset with
      | some value => exec packet 0 value rest
      | none => 0
  | 0, acc, .jumpEq value jt jf :: rest => exec packet (if acc = value then jt else jf) acc rest
  | 0, _, .ret verdict :: _ => verdict

/-- The number of bytes of the packet that are delivered, 0 if it is dropped. -/
def run (program : List SockFilter) (packet : List Byte) : Option Nat :=
  (program.mapM decode).map (exec packet 0 0)

/-- A field and the value that it has to have. -/
structure Test where
  size : Size
  offset : BitVec 32
  value : BitVec 32
deriving DecidableEq, Repr

def Test.Holds (test : Test) (packet : List Byte) : Prop :=
  load packet test.size test.offset.toNat = some test.value

instance (test : Test) (packet : List Byte) : Decidable (test.Holds packet) :=
  inferInstanceAs (Decidable (_ = _))

/-- The distance from a failed test to the last instruction, with this many tests to come. -/
def distance (remaining : Nat) : Nat := 2 * remaining + 1

def compile (verdict : BitVec 32) : List Test → List SockFilter
  | [] => [⟨retCode, 0, 0, verdict⟩, ⟨retCode, 0, 0, 0⟩]
  | test :: tests =>
      ⟨test.size.loadCode, 0, 0, test.offset⟩ ::
        ⟨jumpCode, 0, BitVec.ofNat 8 (distance tests.length), test.value⟩ :: compile verdict tests

/-- The same filter before it is encoded. -/
def instructions (verdict : BitVec 32) : List Test → List Instruction
  | [] => [.ret verdict.toNat, .ret 0]
  | test :: tests =>
      .load test.size test.offset.toNat :: .jumpEq test.value 0 (distance tests.length) ::
        instructions verdict tests

variable {packet : List Byte} {verdict : BitVec 32} {tests : List Test}

theorem decode_load (size : Size) (offset : BitVec 32) :
    decode ⟨size.loadCode, 0, 0, offset⟩ = some (.load size offset.toNat) := by
  cases size <;> rfl

theorem decode_jump {value : BitVec 32} {jf : Nat} (h : jf < 2 ^ 8) :
    decode ⟨jumpCode, 0, BitVec.ofNat 8 jf, value⟩ = some (.jumpEq value 0 jf) := by
  have hJf : (BitVec.ofNat 8 jf).toNat = jf := by
    rw [BitVec.toNat_ofNat, Nat.mod_eq_of_lt h]
  change some (Instruction.jumpEq value 0 (BitVec.ofNat 8 jf).toNat) = _
  rw [hJf]

/-- The jump offsets fit in a byte as long as there are not too many tests. -/
theorem decode_compile (h : distance tests.length ≤ 2 ^ 8) :
    (compile verdict tests).mapM decode = some (instructions verdict tests) := by
  induction tests with
  | nil => rfl
  | cons test tests ih =>
      have hLt : distance tests.length < 2 ^ 8 := by
        rw [distance, List.length_cons] at h
        rw [distance]
        omega
      rw [compile, List.mapM_cons, List.mapM_cons, decode_load, decode_jump hLt, ih hLt.le]
      rfl

/-- After a failed test the packet is rejected. -/
theorem exec_failed (acc : BitVec 32) :
    exec packet (distance tests.length) acc (instructions verdict tests) = 0 := by
  induction tests with
  | nil => rfl
  | cons test tests ih =>
      have hDistance : distance (test :: tests).length = distance tests.length + 1 + 1 := by
        rw [distance, distance, List.length_cons]
        omega
      rw [hDistance, instructions, exec, exec]
      exact ih

/-- A compiled list of tests lets through what passes every test. -/
theorem exec_instructions (acc : BitVec 32) : exec packet 0 acc (instructions verdict tests) =
    if ∀ test ∈ tests, test.Holds packet then verdict.toNat else 0 := by
  induction tests generalizing acc with
  | nil => rfl
  | cons test tests ih =>
      rw [instructions, exec]
      cases hLoad : load packet test.size test.offset.toNat with
      | none =>
          have hFails : ¬ test.Holds packet := by
            rw [Test.Holds, hLoad]
            exact fun hNone => by cases hNone
          exact (if_neg fun hAll => hFails (hAll test List.mem_cons_self)).symm
      | some value =>
          dsimp only
          rw [exec]
          by_cases hValue : value = test.value
          · have hHolds : test.Holds packet := by rw [Test.Holds, hLoad, hValue]
            rw [if_pos hValue, ih]
            simp only [List.forall_mem_cons, hHolds, true_and]
          · have hFails : ¬ test.Holds packet := by
              rw [Test.Holds, hLoad]
              exact fun hSame => hValue (Option.some.inj hSame)
            rw [if_neg hValue, exec_failed]
            exact (if_neg fun hAll => hFails (hAll test List.mem_cons_self)).symm

/-- The filter delivers the packets that pass every test, and drops the others. -/
theorem run_compile (verdict : BitVec 32) (tests : List Test) (packet : List Byte)
    (h : distance tests.length ≤ 2 ^ 8) : run (compile verdict tests) packet =
      some (if ∀ test ∈ tests, test.Holds packet then verdict.toNat else 0) := by
  rw [run, decode_compile h, Option.map_some, exec_instructions]

/-- A field between other fields. -/
theorem load_append {size : Size} {n w offset : Nat} {before after : List Byte} (x : BitVec w)
    (hSize : size.bytes = n) (hWidth : 8 * n = w) (hOffset : before.length = offset) :
    load (before ++ (toBe n x ++ after)) size offset = some (x.setWidth 32) := by
  subst hSize hWidth hOffset
  have hTake : ((before ++ (toBe size.bytes x ++ after)).drop before.length).take size.bytes =
      toBe size.bytes x := by
    rw [List.drop_left, List.take_left' (length_toBe _ _)]
  rw [load, hTake, if_pos (length_toBe _ _), ofBe_toBe _ _ le_rfl]

end PacketFilter
