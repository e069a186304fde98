import Mapecd.Ebpf.PortMap

/-! Which bytes of a packet the two programs change. Neither looks at the version
or at the fragment offset, so the bytes behind the header need not be a header. -/
namespace Mapecd

open Checked Effects

/-- An IPv4 packet whose data start with an L4 header: version 4, at least five
words of header, fragment offset zero. -/
structure Packet.HasL4Header (pkt : Packet) : Prop where
  version : (pkt[0]?.getD 0) >>> 4 = 4
  header : 20 ≤ pkt.l4Offset
  fragmentHigh : pkt[6]?.getD 0 &&& 0x1f = 0
  fragmentLow : pkt[7]?.getD 0 = 0

/-- Byte `i` is in the field of the direction or in the checksum of an L4 header. -/
def Direction.HeaderByte (dir : Direction) (pkt : Packet) (i : Nat) : Prop :=
  pkt.HasL4Header ∧ ∃ field, dir.Carries pkt field ∧
    (i = field ∨ i = field + 1 ∨ i = pkt.csumOffset ∨ i = pkt.csumOffset + 1)

/-- Only header bytes differ, and without an L4 header the packet is the same. -/
structure Direction.TouchesHeaderOnly (dir : Direction) (pkt pkt' : Packet) : Prop where
  header : ∀ i, pkt'[i]? ≠ pkt[i]? → dir.HeaderByte pkt i
  unchanged : ¬ pkt.HasL4Header → pkt' = pkt

/-- Told that a value stays, the helper leaves the checksum of the packet. -/
def L4CsumReplace.Idle (l4CsumReplace : L4CsumReplace) (pkt : Packet) (value : U16) : Prop :=
  ∀ pkt', l4CsumReplace pkt.csumOffset (value.setWidth 64) (value.setWidth 64) pkt.csumFlags pkt =
    some pkt' → pkt' = pkt

/-- No value is to be translated, or one that is its own translation and for
which the helper is idle. -/
def PortMap.Spares (ports : PortMap) (dir : Direction) (l4CsumReplace : L4CsumReplace)
    (configMap : Option PsidConfig) (pkt : Packet) : Prop :=
  ∀ cfg field value, ports.Applies dir configMap pkt cfg field value →
    cfg.Keeps value ∧ l4CsumReplace.Idle pkt value

section Bytes

variable {l4CsumReplace : L4CsumReplace} {dir : Direction} {ports : PortMap}
  {configMap : Option PsidConfig} {pkt : Packet} {rewrite : Rewrite}

/-- A rewrite does nothing if it writes the value that was there and the helper, called
with two equal values, does nothing either. -/
theorem apply_eq_iff (hFramed : l4CsumReplace.Framed) (hPort : dir.portOffset ≤ 2)
    (h : rewrite.From dir configMap pkt) :
    rewrite.apply l4CsumReplace pkt = pkt ↔
      rewrite.new = rewrite.old ∧ l4CsumReplace.Idle pkt rewrite.old := by
  unfold L4CsumReplace.Idle
  rw [← h.csumOffset, ← h.flags]
  have hStored (hNew : rewrite.new = rewrite.old) : rewrite.stored pkt = pkt := by
    rw [Rewrite.stored, hNew]
    exact Packet.put16_native16 h.old
  constructor
  · intro hSame
    have hNew : rewrite.new = rewrite.old := by
      have hWritten := native16_apply hFramed hPort h
      rw [hSame, h.old] at hWritten
      exact (Option.some.inj hWritten).symm
    refine ⟨hNew, ?_⟩
    intro pkt' hCsum
    rw [Rewrite.apply, hStored hNew, hNew, hCsum, Option.getD_some] at hSame
    exact hSame
  · intro ⟨hNew, hCsum⟩
    rw [Rewrite.apply, hStored hNew, hNew]
    cases hResult : l4CsumReplace rewrite.csumOffset (rewrite.old.setWidth 64)
        (rewrite.old.setWidth 64) rewrite.flags pkt with
    | none => rfl
    | some pkt' => exact hCsum pkt' hResult

/-- With an L4 header the rewriting stays inside it. -/
theorem apply_headerByte (hFramed : l4CsumReplace.Framed) (hHeader : pkt.HasL4Header)
    (h : rewrite.From dir configMap pkt) {i : Nat}
    (hDiffers : (rewrite.apply l4CsumReplace pkt)[i]? ≠ pkt[i]?) : dir.HeaderByte pkt i := by
  refine ⟨hHeader, rewrite.field, h.carries, ?_⟩
  rw [← h.csumOffset]
  by_contra hOther
  simp only [not_or] at hOther
  obtain ⟨hField, hNext, hCsum, hCsumNext⟩ := hOther
  apply hDiffers
  rw [apply_stored rewrite pkt hFramed hCsum hCsumNext, Rewrite.stored, Packet.getElem?_put16_ne hField hNext]

/-- A program leaves the packet as it is exactly if it spares it. -/
theorem output_eq_iff (hFramed : l4CsumReplace.Framed) (hPort : dir.portOffset ≤ 2)
    (hComputes : dir.Computes ports)
    (hConfig : ∀ cfg, configMap = some cfg → cfg.offset = 0 ∨ cfg.Coherent) :
    dir.output l4CsumReplace configMap pkt = pkt ↔
      ports.Spares dir l4CsumReplace configMap pkt := by
  by_cases hApplies : ∃ cfg field value, ports.Applies dir configMap pkt cfg field value
  · obtain ⟨cfg, field, value, h⟩ := hApplies
    have hCoherent := (hConfig cfg h.config).resolve_left h.offset
    obtain ⟨new, hRewrite, hImage, -⟩ := h.rewrite hComputes hCoherent
    have hKeeps : new = value ↔ cfg.Keeps value := by
      rw [← hComputes.keeps hCoherent h.moves, ← hImage, BitVec.toNat_inj]
    rw [Direction.output, hRewrite]
    refine (apply_eq_iff hFramed hPort (rewrite_from hRewrite)).trans ?_
    rw [hKeeps]
    constructor
    · intro hSpared cfg' field' value' h'
      obtain ⟨rfl, rfl, rfl⟩ := h.unique h'
      exact hSpared
    · intro hSpares
      exact hSpares cfg field value h
  · simp only [not_exists] at hApplies
    have hNone := rewrite_eq_none hComputes hConfig hApplies
    refine iff_of_true (output_of_rewrite_none hNone) ?_
    intro cfg field value h
    exact absurd h (hApplies cfg field value)

/-- Inside an L4 header every configuration stays in its field and its checksum. -/
theorem touchesHeaderOnly_of_header (hFramed : l4CsumReplace.Framed) (hHeader : pkt.HasL4Header) :
    dir.TouchesHeaderOnly pkt (dir.output l4CsumReplace configMap pkt) := by
  refine ⟨?_, fun hNone => absurd hHeader hNone⟩
  intro i hDiffers
  unfold Direction.output at hDiffers
  cases hRewrite : dir.rewrite configMap pkt with
  | none =>
      rw [hRewrite] at hDiffers
      exact absurd rfl hDiffers
  | some rewrite =>
      rw [hRewrite] at hDiffers
      exact apply_headerByte hFramed hHeader (rewrite_from hRewrite) hDiffers

/-- One direction, whose port arithmetic has the closed form `ports`. -/
theorem touchesHeaderOnly_iff (hFramed : l4CsumReplace.Framed) (hPort : dir.portOffset ≤ 2)
    (hComputes : dir.Computes ports)
    (hConfig : ∀ cfg, configMap = some cfg → cfg.offset = 0 ∨ cfg.Coherent) :
    dir.TouchesHeaderOnly pkt (dir.output l4CsumReplace configMap pkt) ↔
      pkt.HasL4Header ∨ ports.Spares dir l4CsumReplace configMap pkt := by
  have hSame : dir.output l4CsumReplace configMap pkt = pkt ↔
      ports.Spares dir l4CsumReplace configMap pkt := output_eq_iff hFramed hPort hComputes hConfig
  constructor
  · intro h
    by_cases hHeader : pkt.HasL4Header
    · exact Or.inl hHeader
    · exact Or.inr (hSame.mp (h.unchanged hHeader))
  · rintro (hHeader | hSpares)
    · exact touchesHeaderOnly_of_header hFramed hHeader
    · rw [hSame.mpr hSpares]
      exact ⟨fun i hDiffers => absurd rfl hDiffers, fun _ => rfl⟩

end Bytes

/-- Both programs stay inside an L4 header exactly if there is one, or if the
packet and the configuration hold nothing that they translate to something else. -/
theorem programs_touch_iff (l4CsumReplace : L4CsumReplace) (hFramed : l4CsumReplace.Framed)
    (configMap : Option PsidConfig)
    (hConfig : ∀ cfg, configMap = some cfg → cfg.offset = 0 ∨ cfg.Coherent) (pkt : Packet) :
    (egress.TouchesHeaderOnly pkt (leaving (tcEgress l4CsumReplace configMap) pkt) ↔
      pkt.HasL4Header ∨ egressPorts.Spares egress l4CsumReplace configMap pkt) ∧
    (ingress.TouchesHeaderOnly pkt (leaving (tcIngress l4CsumReplace configMap) pkt) ↔
      pkt.HasL4Header ∨ ingressPorts.Spares ingress l4CsumReplace configMap pkt) := by
  constructor
  · rw [tcEgress, leaving_tcProgram]
    exact touchesHeaderOnly_iff hFramed (Nat.zero_le 2) egress_computes hConfig
  · rw [tcIngress, leaving_tcProgram]
    exact touchesHeaderOnly_iff hFramed (Nat.le_refl 2) ingress_computes hConfig

theorem Packet.Unfragmented.hasL4Header {pkt : Packet} (h : pkt.Unfragmented) :
    pkt.HasL4Header := by
  refine ⟨h.version, h.header, ?_, h.fragmentLow⟩
  have hMask : (0x1f : U8) = 0x3f &&& 0x1f := by decide
  rw [hMask, ← BitVec.and_assoc, h.fragmentHigh]
  exact BitVec.zero_and

/-- Four offset bits, eight PSID bits, PSID 5. -/
def cfgFive : PsidConfig := ⟨4, 8, 4, 0, 5, 4096, 4335⟩

theorem cfgFive_coherent : cfgFive.Coherent :=
  { offset_pos := by decide
    fits := by decide
    blockShift := by decide
    psid_lt := by decide
    stagingMin := by decide
    stagingMax := by decide }

/-- A TCP packet is rewritten within its header. -/
theorem programs_touch_segment :
    egress.TouchesHeaderOnly (tcpPacket 16 443)
      (leaving (tcEgress incrementalCsum (some cfgFive)) (tcpPacket 16 443)) := by
  have hConfig (cfg : PsidConfig) (hCfg : some cfgFive = some cfg) : cfg.offset = 0 ∨ cfg.Coherent := by
    cases hCfg
    exact Or.inr cfgFive_coherent
  exact (programs_touch_iff incrementalCsum incrementalCsum_framed (some cfgFive) hConfig _).1.mpr
    (Or.inl (tcpPacket_unfragmented 16 443).hasL4Header)

/-- Twelve bytes from the middle of a UDP datagram: fragment offset 185. -/
def laterFragment : Packet :=
  [0x45, 0, 0, 32, 0, 1, 0, 185, 64, 17, 0, 0, 192, 0, 2, 18, 198, 51, 100, 7,
    0, 16, 97, 98, 99, 100, 101, 102, 103, 104, 105, 106]

/-- Its first two bytes lie in the staging range and are rewritten, and so are
the two in the place of a checksum. -/
theorem fragment_rewritten :
    ¬ laterFragment.HasL4Header ∧
      leaving (tcEgress incrementalCsum (some cfgFive)) laterFragment =
        [0x45, 0, 0, 32, 0, 1, 0, 185, 64, 17, 0, 0, 192, 0, 2, 18, 198, 51, 100, 7,
          0x50, 16, 97, 98, 99, 100, 21, 102, 103, 104, 105, 106] := by
  constructor
  · intro h
    exact absurd h.fragmentLow (by decide)
  · decide +kernel

end Mapecd
