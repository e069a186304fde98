import Mapecd.Ebpf.Checksum
import Mathlib.Logic.Equiv.PartialEquiv

/-! Sessions through the two programs. The peer answers to the port or echo
identifier that it reads, and the answer passes the other program. Both programs
exchange the bytes of a port in the same way, so a session does not see it. -/
namespace Mapecd

open Checked Effects

section Extension

open Classical in
/-- A partial bijection, with every other value left alone. -/
noncomputable def extend {α : Type} (e : PartialEquiv α α) (x : α) : α :=
  if x ∈ e.source then e x else x

variable {α : Type} (e : PartialEquiv α α) {x : α}

theorem extend_of_mem (h : x ∈ e.source) : extend e x = e x := if_pos h

theorem extend_of_notMem (h : x ∉ e.source) : extend e x = x := if_neg h

/-- The extension of the inverse goes back from every value that was moved, and
from every other one that it does not move itself. -/
theorem extend_symm_extend_iff : extend e.symm (extend e x) = x ↔ x ∈ e.source ∨ x ∉ e.target := by
  by_cases hSource : x ∈ e.source
  · rw [extend_of_mem e hSource, extend_of_mem e.symm (e.map_source hSource), e.left_inv hSource]
    exact iff_of_true rfl (Or.inl hSource)
  · rw [extend_of_notMem e hSource]
    by_cases hTarget : x ∈ e.target
    · rw [extend_of_mem e.symm hTarget]
      refine iff_of_false ?_ (not_or.mpr ⟨hSource, not_not.mpr hTarget⟩)
      intro hSame
      exact hSource (hSame ▸ e.map_target hTarget)
    · rw [extend_of_notMem e.symm hTarget]
      exact iff_of_true rfl (Or.inr hTarget)

end Extension

namespace PsidConfig

variable {cfg : PsidConfig}

/-- The two translations of a configuration as one partial bijection. -/
def Coherent.ports (h : cfg.Coherent) : PartialEquiv U16 U16 where
  toFun s := (egressPort cfg s).getD s
  invFun p := (ingressPort cfg p).getD p
  source := {s | cfg.Staging s}
  target := {p | cfg.InBlocks p}
  map_source' s hs := by
    obtain ⟨p, hp, hIn, -⟩ := h.ingress_egress hs
    rw [hp]
    exact hIn
  map_target' p hp := by
    obtain ⟨s, hs, hStaging, -⟩ := h.egress_ingress hp
    rw [hs]
    exact hStaging
  left_inv' s hs := by
    obtain ⟨p, hp, -, hBack⟩ := h.ingress_egress hs
    rw [hp, Option.getD_some, hBack, Option.getD_some]
  right_inv' p hp := by
    obtain ⟨s, hs, -, hBack⟩ := h.egress_ingress hp
    rw [hs, Option.getD_some, hBack, Option.getD_some]

/-- Egress is the partial bijection between staging ports and blocks, and the identity
elsewhere. -/
theorem Coherent.egressPort_extend (h : cfg.Coherent) (port : U16) :
    egressPort cfg port = some (extend h.ports port) := by
  by_cases hs : cfg.Staging port
  · obtain ⟨p, hp, -⟩ := h.ingress_egress hs
    have hSame : h.ports port = p := congrArg (Option.getD · port) hp
    rw [extend_of_mem h.ports hs, hp, hSame]
  · rw [extend_of_notMem h.ports hs, h.egressPort_outside hs]

/-- Ingress is its inverse, and the identity elsewhere. -/
theorem Coherent.ingressPort_extend (h : cfg.Coherent) (port : U16) :
    ingressPort cfg port = some (extend h.ports.symm port) := by
  by_cases hp : cfg.InBlocks port
  · obtain ⟨s, hs, -⟩ := h.egress_ingress hp
    have hSame : h.ports.symm port = s := congrArg (Option.getD · port) hs
    rw [extend_of_mem h.ports.symm hp, hs, hSame]
  · rw [extend_of_notMem h.ports.symm hp, h.ingressPort_outside hp]

end PsidConfig

/-- The number in the field of `sent` comes back: whatever program the packet
leaves through, an answer of the peer to the number that it reads there has the
old number behind the program of the way back. -/
def Returns (l4CsumReplace : L4CsumReplace) (cfg : PsidConfig) (there back : Direction)
    (sent : Packet) (field : Nat) : Prop :=
  ∀ (answer : Packet) (field' : Nat), answer.HasL4Header → back.Carries answer field' →
    answer.wire16 field' = (leaving (tcProgram l4CsumReplace there (some cfg)) sent).wire16 field →
    (leaving (tcProgram l4CsumReplace back (some cfg)) answer).wire16 field' = sent.wire16 field

section Session

variable {l4CsumReplace : L4CsumReplace} {cfg : PsidConfig} {there back dir : Direction}
  {pkt sent : Packet} {field : Nat} {value port : U16}

/-- The field behind a program whose arithmetic is the extension of a bijection. -/
theorem leaving_wire16 (hFramed : l4CsumReplace.Framed) (hPort : dir.portOffset ≤ 2)
    (hOffset : cfg.offset ≠ 0) (e : PartialEquiv U16 U16)
    (hTranslate : ∀ v, (dir.translate cfg v).map (·.getD v) = some (extend e v))
    (hHeader : pkt.HasL4Header) (hCarries : dir.Carries pkt field)
    (hWire : pkt.wire16 field = some value) :
    (leaving (tcProgram l4CsumReplace dir (some cfg)) pkt).wire16 field =
      some (swapBytes (extend e (swapBytes value))) := by
  obtain ⟨result, hResult, hValue⟩ := Option.map_eq_some_iff.mp (hTranslate (swapBytes value))
  obtain ⟨pkt', hRun, hWritten⟩ :=
    tcProgram_wire hFramed hPort hOffset hHeader.header hCarries hWire hResult
  rw [leaving, hRun, ← hValue]
  exact hWritten

/-- The number comes back if the bijection moves it, or if nothing is moved to it. -/
theorem returns_iff (hFramed : l4CsumReplace.Framed) (hThere : there.portOffset ≤ 2)
    (hBack : back.portOffset ≤ 2) (hOffset : cfg.offset ≠ 0) (e : PartialEquiv U16 U16)
    (hTranslate : ∀ v, (there.translate cfg v).map (·.getD v) = some (extend e v))
    (hInverse : ∀ v, (back.translate cfg v).map (·.getD v) = some (extend e.symm v))
    (hAnswers : ∀ v, ∃ answer field', answer.HasL4Header ∧ back.Carries answer field' ∧
      answer.wire16 field' = some v)
    (hHeader : sent.HasL4Header) (hCarries : there.Carries sent field)
    (hWire : sent.wire16 field = some port) :
    Returns l4CsumReplace cfg there back sent field ↔
      swapBytes port ∈ e.source ∨ swapBytes port ∉ e.target := by
  rw [← extend_symm_extend_iff, Returns, hWire,
    leaving_wire16 hFramed hThere hOffset e hTranslate hHeader hCarries hWire]
  -- The value behind both programs does not depend on the answer.
  have hBehind {answer : Packet} {field' : Nat} (hAnswer : answer.HasL4Header)
      (hField : back.Carries answer field')
      (hSame : answer.wire16 field' = some (swapBytes (extend e (swapBytes port)))) :
      (leaving (tcProgram l4CsumReplace back (some cfg)) answer).wire16 field' =
        some (swapBytes (extend e.symm (extend e (swapBytes port)))) := by
    rw [leaving_wire16 hFramed hBack hOffset e.symm hInverse hAnswer hField hSame,
      swapBytes_swapBytes]
  constructor
  · intro hReturns
    obtain ⟨answer, field', hAnswer, hField, hSame⟩ :=
      hAnswers (swapBytes (extend e (swapBytes port)))
    have hValue := hReturns answer field' hAnswer hField hSame
    rw [hBehind hAnswer hField hSame] at hValue
    rw [← swapBytes_swapBytes (extend e.symm (extend e (swapBytes port))), Option.some.inj hValue]
  · intro hValue answer field' hAnswer hField hSame
    rw [hBehind hAnswer hField hSame, hValue, swapBytes_swapBytes]

theorem exists_egress_packet (port : U16) : ∃ pkt field, pkt.HasL4Header ∧
    egress.Carries pkt field ∧ pkt.wire16 field = some port :=
  ⟨tcpPacket port 443, 20, (tcpPacket_unfragmented port 443).hasL4Header,
    tcpPacket_carries port 443, tcpPacket_wire16 port 443⟩

theorem exists_ingress_packet (port : U16) : ∃ pkt field, pkt.HasL4Header ∧
    ingress.Carries pkt field ∧ pkt.wire16 field = some port := by
  refine ⟨tcpPacket 443 port, 22, (tcpPacket_unfragmented 443 port).hasL4Header, ?_, ?_⟩
  · exact Or.inl ⟨Or.inl rfl, by rw [tcpPacket_l4Offset]; rfl⟩
  · change some (highByte port ++ lowByte port) = some port
    rw [Packet.highByte_append_lowByte]

end Session

/-- A session that starts inside works exactly if its source port, as the
programs load it, is a staging port or is not in the blocks of the PSID. One that
starts outside works exactly if its destination port is in the blocks or is no
staging port. -/
theorem sessions_return_iff (l4CsumReplace : L4CsumReplace) (hFramed : l4CsumReplace.Framed)
    (cfg : PsidConfig) (h : cfg.Coherent) (sent : Packet) (hHeader : sent.HasL4Header)
    (field : Nat) (port : U16) (hWire : sent.wire16 field = some port) :
    (egress.Carries sent field → (Returns l4CsumReplace cfg egress ingress sent field ↔
      cfg.Staging (swapBytes port) ∨ ¬ cfg.InBlocks (swapBytes port))) ∧
    (ingress.Carries sent field → (Returns l4CsumReplace cfg ingress egress sent field ↔
      cfg.InBlocks (swapBytes port) ∨ ¬ cfg.Staging (swapBytes port))) := by
  have hEgress (v : U16) : (egress.translate cfg v).map (·.getD v) = some (extend h.ports v) := by
    rw [← h.egressPort_extend, egressPort, if_neg h.offset_ne_zero]
    rfl
  have hIngress (v : U16) :
      (ingress.translate cfg v).map (·.getD v) = some (extend h.ports.symm v) := by
    rw [← h.ingressPort_extend, ingressPort, if_neg h.offset_ne_zero]
    rfl
  constructor
  · intro hCarries
    exact returns_iff hFramed (Nat.zero_le 2) (Nat.le_refl 2) h.offset_ne_zero h.ports hEgress
      hIngress exists_ingress_packet hHeader hCarries hWire
  · intro hCarries
    exact returns_iff hFramed (Nat.le_refl 2) (Nat.zero_le 2) h.offset_ne_zero h.ports.symm hIngress
      hEgress exists_egress_packet hHeader hCarries hWire

/-- Four offset bits, eight PSID bits, PSID 5: the staging port 4096, in the order
of the target. -/
theorem sessions_return_staging :
    Returns incrementalCsum cfgFive egress ingress (tcpPacket 16 443) 20 := by
  have hHeader := (tcpPacket_unfragmented 16 443).hasL4Header
  have hWire := tcpPacket_wire16 16 443
  obtain ⟨hEgress, -⟩ := sessions_return_iff incrementalCsum incrementalCsum_framed cfgFive
    cfgFive_coherent (tcpPacket 16 443) hHeader 20 16 hWire
  have hStaging : cfgFive.Staging (swapBytes 16) := by
    unfold PsidConfig.Staging
    decide
  exact (hEgress (tcpPacket_carries 16 443)).mpr (Or.inl hStaging)

end Mapecd
