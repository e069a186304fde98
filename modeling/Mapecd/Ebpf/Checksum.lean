import Mapecd.Ebpf.HeaderOnly
import Mapecd.Semantics.OnesComplement

/-! The L4 checksum of a packet before and behind a program. The words of the
checksum are big-endian, but the helper computes with the loaded values. -/
namespace Mapecd

open Checked Effects OnesComplement

/-- The bytes as big-endian words, with a zero behind an odd last byte. -/
def words16 : List U8 → List U16
  | high :: low :: rest => (high ++ low) :: words16 rest
  | [high] => [high ++ (0 : U8)]
  | [] => []

section Words

variable {bytes : List U8} {i : Nat} {value : U16}

/-- The words of the sum are those on the wire, the programs load them exchanged. -/
theorem words16_getElem? (h : Packet.native16 bytes (2 * i) = some value) :
    (words16 bytes)[i]? = some (swapBytes value) := by
  induction i generalizing bytes with
  | zero =>
      match bytes, h with
      | low :: high :: rest, h =>
          have hValue : high ++ low = value := Option.some.inj h
          rw [← hValue, swapBytes_append]
          rfl
  | succ i ih =>
      match bytes, h with
      | [_], h => cases h
      | first :: second :: rest, h =>
          change (words16 rest)[i]? = _
          exact ih h

/-- A store at an even offset replaces one word of the sum. -/
theorem words16_put16 (h : 2 * i + 1 < bytes.length) :
    words16 (Packet.put16 bytes (2 * i) value) = (words16 bytes).set i (swapBytes value) := by
  induction i generalizing bytes with
  | zero =>
      match bytes, h with
      | low :: high :: rest, _ => rfl
  | succ i ih =>
      match bytes, h with
      | first :: second :: rest, h =>
          have hRest : 2 * i + 1 < rest.length := by
            simp only [List.length_cons] at h
            omega
          change (first ++ second) :: words16 (Packet.put16 rest (2 * i) value) = _
          rw [ih hRest]
          rfl

/-- Exchanging the bytes multiplies by 256. -/
theorem swapBytes_modEq (value : U16) :
    (swapBytes value).toNat ≡ 256 * value.toNat [MOD 2 ^ 16 - 1] := by
  have hLt := value.isLt
  rw [toNat_swapBytes]
  unfold Nat.ModEq
  omega

/-- An update of the loaded values is one of the words on the wire. -/
theorem swapBytes_update (checksum old new : U16) :
    (swapBytes (update checksum old new)).toNat + (swapBytes new).toNat ≡
      (swapBytes checksum).toNat + (swapBytes old).toNat [MOD 2 ^ 16 - 1] := by
  have hUpdate := (update_modEq checksum old new).mul_left 256
  rw [Nat.mul_add, Nat.mul_add] at hUpdate
  exact ((swapBytes_modEq _).add (swapBytes_modEq _)).trans
    (hUpdate.trans ((swapBytes_modEq _).add (swapBytes_modEq _)).symm)

end Words

namespace Packet

variable (pkt : Packet)

def totalLength : Nat := ((pkt.wire16 2).getD 0).toNat

/-- Everything from the L4 header to the end of the IPv4 packet. -/
def segment : List U8 := (pkt.take pkt.totalLength).drop pkt.l4Offset

/-- Addresses, protocol and length. -/
def pseudoHeader : List U16 :=
  words16 ((pkt.drop 12).take 8) ++ [pkt.proto.setWidth 16, BitVec.ofNat 16 pkt.segment.length]

/-- The words in front of the segment. ICMP has no pseudo header. -/
def leading : List U16 := if pkt.proto = ipprotoIcmp then [] else pkt.pseudoHeader

def checksummed : List U16 := pkt.leading ++ words16 pkt.segment

/-- The checksum field, as it is loaded. -/
def checksum : U16 := (pkt.native16 pkt.csumOffset).getD 0

/-- The receiver accepts the checksum. In UDP the field zero means that there is none. -/
def ValidChecksum : Prop := Verifies pkt.checksummed ∧ (pkt.proto = ipprotoUdp → pkt.checksum ≠ 0)

instance : Decidable pkt.ValidChecksum := inferInstanceAs (Decidable (_ ∧ _))

/-- An unfragmented IPv4 packet that is as long as it says and holds all of its L4 header. -/
structure Complete : Prop extends pkt.Unfragmented where
  total_le : pkt.totalLength ≤ pkt.length
  l4Header : (if pkt.proto = ipprotoTcp then 20 else 8) ≤ pkt.segment.length

section Put

variable {pkt} {offset n i : Nat} {value : U16}

theorem header_put16 (h : 20 ≤ offset) (hi : i < 20) : (pkt.put16 offset value)[i]? = pkt[i]? :=
  getElem?_put16_ne (by omega) (by omega)

theorem l4Offset_put16 (h : 20 ≤ offset) :
    (pkt.put16 offset value).l4Offset = pkt.l4Offset := by
  rw [l4Offset, header_put16 h (by decide), l4Offset]

theorem proto_put16 (h : 20 ≤ offset) : (pkt.put16 offset value).proto = pkt.proto := by
  rw [proto, header_put16 h (by decide), proto]

theorem csumOffset_put16 (h : 20 ≤ offset) :
    (pkt.put16 offset value).csumOffset = pkt.csumOffset := by
  rw [csumOffset, l4Offset_put16 h, proto_put16 h, csumOffset]

theorem totalLength_put16 (h : 20 ≤ offset) :
    (pkt.put16 offset value).totalLength = pkt.totalLength := by
  rw [totalLength, wire16, header_put16 h (by decide), header_put16 h (by decide), totalLength,
    wire16]

/-- Behind the IPv4 header a store into the packet is one into the segment. -/
theorem segment_put16 (h : 20 ≤ pkt.l4Offset) :
    (pkt.put16 (pkt.l4Offset + n) value).segment = put16 pkt.segment n value := by
  have hOffset : 20 ≤ pkt.l4Offset + n := Nat.le_add_right_of_le h
  have hIndex : pkt.l4Offset + n + 1 - pkt.l4Offset = n + 1 := by omega
  rw [segment, totalLength_put16 hOffset, l4Offset_put16 hOffset, put16, List.take_set,
    List.take_set, List.drop_set, List.drop_set, if_neg (by omega), if_neg (by omega),
    Nat.add_sub_cancel_left, hIndex]
  rfl

/-- The pseudo header does not see it. -/
theorem leading_put16 (h : 20 ≤ pkt.l4Offset) :
    (pkt.put16 (pkt.l4Offset + n) value).leading = pkt.leading := by
  have hOffset : 20 ≤ pkt.l4Offset + n := Nat.le_add_right_of_le h
  have hAddresses : ((pkt.put16 (pkt.l4Offset + n) value).drop 12).take 8 =
      (pkt.drop 12).take 8 := by
    apply List.ext_getElem?
    intro i
    rw [List.getElem?_take, List.getElem?_take, List.getElem?_drop, List.getElem?_drop]
    split_ifs with hi
    · exact header_put16 hOffset (by omega)
    · rfl
  rw [leading, pseudoHeader, hAddresses, proto_put16 hOffset, segment_put16 h, length_put16, leading,
    pseudoHeader]

/-- A word of the segment is replaced in the checksum, and no other. -/
theorem checksummed_put16 (value : U16) (h : 20 ≤ pkt.l4Offset)
    (hi : 2 * i + 1 < pkt.segment.length) :
    (pkt.put16 (pkt.l4Offset + 2 * i) value).checksummed =
      pkt.checksummed.set (pkt.leading.length + i) (swapBytes value) := by
  rw [checksummed, leading_put16 h, segment_put16 h, words16_put16 hi, checksummed,
    List.set_append_right _ _ (Nat.le_add_right _ _), Nat.add_sub_cancel_left]

theorem native16_segment (hi : n + 1 < pkt.segment.length) :
    native16 pkt.segment n = pkt.native16 (pkt.l4Offset + n) := by
  have hByte {k : Nat} (hk : k < pkt.segment.length) : pkt.segment[k]? = pkt[pkt.l4Offset + k]? := by
    rw [segment, List.length_drop, List.length_take] at hk
    rw [segment, List.getElem?_drop, List.getElem?_take, if_pos (by omega)]
  rw [native16, hByte (Nat.lt_of_succ_lt hi), hByte hi, native16, Nat.add_assoc]

theorem checksummed_getElem? (hi : 2 * i + 1 < pkt.segment.length)
    (h : pkt.native16 (pkt.l4Offset + 2 * i) = some value) :
    pkt.checksummed[pkt.leading.length + i]? = some (swapBytes value) := by
  rw [checksummed, List.getElem?_append_right (Nat.le_add_right _ _), Nat.add_sub_cancel_left]
  exact words16_getElem? ((native16_segment hi).trans h)

theorem exists_native16 (h : offset + 1 < pkt.length) : ∃ value, pkt.native16 offset = some value := by
  rw [native16, List.getElem?_eq_getElem (Nat.lt_of_succ_lt h), List.getElem?_eq_getElem h]
  exact ⟨_, rfl⟩

end Put

section Places

variable {pkt}

/-- The checksum is a word of the segment. -/
theorem Complete.exists_checksum (h : pkt.Complete) :
    ∃ j, pkt.csumOffset = pkt.l4Offset + 2 * j ∧ 2 * j + 1 < pkt.segment.length := by
  have hHeader := h.l4Header
  unfold csumOffset icmpCsumOffset
  split_ifs at hHeader ⊢
  · exact ⟨8, rfl, by omega⟩
  · exact ⟨3, rfl, by omega⟩
  · exact ⟨1, rfl, by omega⟩

/-- So is the field that a program rewrites. -/
theorem Complete.exists_field {dir : Direction} {field : Nat} (h : pkt.Complete)
    (hPort : dir.portOffset = 0 ∨ dir.portOffset = 2) (hCarries : dir.Carries pkt field) :
    ∃ i, field = pkt.l4Offset + 2 * i ∧ 2 * i + 1 < pkt.segment.length := by
  have hEight : 8 ≤ pkt.segment.length := by
    have hHeader := h.l4Header
    split_ifs at hHeader <;> omega
  rcases hCarries with ⟨-, rfl⟩ | ⟨-, -, rfl⟩
  · rcases hPort with hZero | hTwo
    · exact ⟨0, by rw [hZero], by omega⟩
    · exact ⟨1, by rw [hTwo], by omega⟩
  · exact ⟨2, rfl, by omega⟩

end Places

end Packet

def bpfFHdrFieldMask : U64 := 0xf

def bpfFMarkMangled0 : U64 := 0x20

/-- What the helper stores for a checksum. With the mark a zero stays and the
update is never zero. -/
def replacedCsum (flags : U64) (checksum old new : U16) : U16 :=
  if flags &&& bpfFMarkMangled0 = 0 then update checksum old new
  else if checksum = 0 then 0
  else if update checksum old new = 0 then 0xffff
  else update checksum old new

/-- With size 2 the helper updates the checksum at its offset, in the order of
the loaded values. -/
def L4CsumReplace.Incremental (l4CsumReplace : L4CsumReplace) : Prop :=
  ∀ offset old new flags pkt checksum, flags &&& bpfFHdrFieldMask = 2 →
    Packet.native16 pkt offset = some checksum →
      l4CsumReplace offset (old.setWidth 64) (new.setWidth 64) flags pkt =
        some (pkt.put16 offset (replacedCsum flags checksum old new))

theorem csumFlags_replace (pkt : Packet) :
    pkt.csumFlags &&& bpfFHdrFieldMask = 2 ∧ pkt.csumFlags &&& bpfFMarkMangled0 = 0 := by
  unfold Packet.csumFlags
  split_ifs <;> decide

/-- The helper is idle except on the second representation of zero. -/
theorem L4CsumReplace.Incremental.idle_iff {l4CsumReplace : L4CsumReplace} {pkt : Packet}
    {checksum value : U16} (h : l4CsumReplace.Incremental)
    (hChecksum : pkt.native16 pkt.csumOffset = some checksum) (hValue : value ≠ 0) :
    l4CsumReplace.Idle pkt value ↔ checksum ≠ 0xffff := by
  obtain ⟨hSize, hMark⟩ := csumFlags_replace pkt
  have hSelf : update checksum value value = checksum ↔ checksum ≠ 0xffff :=
    update_self_iff (by decide) hValue
  rw [← hSelf, Idle, h _ _ _ _ _ _ hSize hChecksum, replacedCsum, if_pos hMark]
  simp only [Option.some.injEq, forall_eq']
  constructor
  · intro hSame
    have hStored : (pkt.put16 pkt.csumOffset (update checksum value value)).native16 pkt.csumOffset =
        some (update checksum value value) :=
      Packet.native16_put16 (Packet.lt_of_native16 hChecksum)
    rw [hSame, hChecksum] at hStored
    exact (Option.some.inj hStored).symm
  · intro hSame
    rw [hSame]
    exact Packet.put16_native16 hChecksum

/-- A checksum that was valid is valid, and a UDP packet without one stays without one. -/
structure KeepsChecksum (pkt pkt' : Packet) : Prop where
  valid : pkt.ValidChecksum → pkt'.ValidChecksum
  absent : pkt.proto = ipprotoUdp → pkt.checksum = 0 → pkt'.checksum = 0

section Apply

variable {l4CsumReplace : L4CsumReplace} {dir : Direction} {configMap : Option PsidConfig}
  {pkt : Packet} {rewrite : Rewrite}

/-- A rewriting puts the new value and the updated checksum, without the mark. -/
theorem apply_eq_put16 (hIncremental : l4CsumReplace.Incremental) (hPkt : pkt.Complete)
    (hPort : dir.portOffset = 0 ∨ dir.portOffset = 2) (h : rewrite.From dir configMap pkt) :
    rewrite.apply l4CsumReplace pkt = (pkt.put16 rewrite.field rewrite.new).put16 pkt.csumOffset
        (update pkt.checksum rewrite.old rewrite.new) ∧
      pkt.native16 pkt.csumOffset = some pkt.checksum := by
  obtain ⟨j, hCsum, hj⟩ := hPkt.exists_checksum
  have hInside : pkt.csumOffset + 1 < pkt.length := by
    rw [Packet.segment, List.length_drop, List.length_take] at hj
    omega
  obtain ⟨checksum, hChecksum⟩ := Packet.exists_native16 hInside
  have hValue : pkt.checksum = checksum := by rw [Packet.checksum, hChecksum, Option.getD_some]
  obtain ⟨hLeft, hLeftNext, hRight⟩ := apart_csumOffset (by omega) h.carries
  have hStored : (rewrite.stored pkt).native16 rewrite.csumOffset = some checksum := by
    rw [h.csumOffset, ← hChecksum]
    apply Packet.native16_congr
    · exact Packet.getElem?_put16_ne hLeft hRight
    · exact Packet.getElem?_put16_ne hLeftNext fun hSame => hLeft (Nat.succ.inj hSame)
  obtain ⟨hSize, hMark⟩ := csumFlags_replace pkt
  rw [← h.flags] at hSize hMark
  rw [Rewrite.apply, hIncremental _ _ _ _ _ _ hSize hStored, Option.getD_some, replacedCsum,
    if_pos hMark, h.csumOffset, hValue]
  exact ⟨rfl, hChecksum⟩

/-- The words still sum to all ones. -/
theorem verifies_apply (hIncremental : l4CsumReplace.Incremental) (hPkt : pkt.Complete)
    (hPort : dir.portOffset = 0 ∨ dir.portOffset = 2) (h : rewrite.From dir configMap pkt)
    (hNew : rewrite.new ≠ 0) (hVerifies : Verifies pkt.checksummed) :
    Verifies (rewrite.apply l4CsumReplace pkt).checksummed := by
  obtain ⟨hApply, hChecksum⟩ := apply_eq_put16 hIncremental hPkt hPort h
  obtain ⟨i, hField, hi⟩ := hPkt.exists_field hPort h.carries
  obtain ⟨j, hCsum, hj⟩ := hPkt.exists_checksum
  have hOld := h.old
  obtain ⟨hApart, -, -⟩ := apart_csumOffset (by omega) h.carries
  rw [hField] at hOld hApply hApart
  rw [hCsum] at hChecksum hApply hApart
  have hHeader := hPkt.header
  have hOffset : 20 ≤ pkt.l4Offset + 2 * i := Nat.le_add_right_of_le hHeader
  have hStored : (pkt.put16 (pkt.l4Offset + 2 * i) rewrite.new).l4Offset = pkt.l4Offset :=
    Packet.l4Offset_put16 hOffset
  have hWords : (rewrite.apply l4CsumReplace pkt).checksummed =
      (pkt.checksummed.set (pkt.leading.length + i) (swapBytes rewrite.new)).set
        (pkt.leading.length + j) (swapBytes (update pkt.checksum rewrite.old rewrite.new)) := by
    have hLength : 2 * j + 1 <
        (pkt.put16 (pkt.l4Offset + 2 * i) rewrite.new).segment.length := by
      rw [Packet.segment_put16 hHeader, Packet.length_put16]
      exact hj
    have hSecond := Packet.checksummed_put16 (update pkt.checksum rewrite.old rewrite.new)
      (hHeader.trans hStored.ge) hLength
    rw [hStored, Packet.leading_put16 hHeader, Packet.checksummed_put16 _ hHeader hi] at hSecond
    rw [hApply]
    exact hSecond
  have hSwapped : swapBytes rewrite.new ≠ 0 := by
    intro hZero
    apply hNew
    rw [← swapBytes_swapBytes rewrite.new, hZero]
    decide
  rw [hWords]
  exact hVerifies.set (by decide) (Packet.checksummed_getElem? hi hOld)
    (Packet.checksummed_getElem? hj hChecksum) (by omega) hSwapped (swapBytes_update _ _ _)

/-- A rewrite keeps the protocol, and its checksum is the incremental update of the old
one. -/
theorem header_apply (hIncremental : l4CsumReplace.Incremental) (hPkt : pkt.Complete)
    (hPort : dir.portOffset = 0 ∨ dir.portOffset = 2) (h : rewrite.From dir configMap pkt) :
    (rewrite.apply l4CsumReplace pkt).proto = pkt.proto ∧
      (rewrite.apply l4CsumReplace pkt).checksum =
        update pkt.checksum rewrite.old rewrite.new := by
  obtain ⟨hApply, hChecksum⟩ := apply_eq_put16 hIncremental hPkt hPort h
  obtain ⟨i, hField, -⟩ := hPkt.exists_field hPort h.carries
  obtain ⟨j, hCsum, -⟩ := hPkt.exists_checksum
  have hHeader := hPkt.header
  have hFieldLower : 20 ≤ rewrite.field := by omega
  have hCsumLower : 20 ≤ pkt.csumOffset := by omega
  have hInside := Packet.lt_of_native16 hChecksum
  rw [hApply, Packet.proto_put16 hCsumLower, Packet.proto_put16 hFieldLower]
  refine ⟨rfl, ?_⟩
  rw [Packet.checksum, Packet.csumOffset_put16 hCsumLower, Packet.csumOffset_put16 hFieldLower,
    Packet.native16_put16 (by rwa [Packet.length_put16]), Option.getD_some]

/-- A rewriting keeps the checksum exactly if in a UDP packet the updated
checksum is zero when the checksum was zero, and only then. -/
theorem apply_keepsChecksum_iff (hIncremental : l4CsumReplace.Incremental) (hPkt : pkt.Complete)
    (hPort : dir.portOffset = 0 ∨ dir.portOffset = 2) (hFrom : rewrite.From dir configMap pkt)
    (hNew : rewrite.new ≠ 0) :
    KeepsChecksum pkt (rewrite.apply l4CsumReplace pkt) ↔
      (pkt.proto = ipprotoUdp → (pkt.checksum = 0 ∨ Verifies pkt.checksummed) →
        (update pkt.checksum rewrite.old rewrite.new = 0 ↔ pkt.checksum = 0)) := by
  obtain ⟨hProto, hChecksum⟩ := header_apply hIncremental hPkt hPort hFrom
  constructor
  · intro hKeeps hUdp hBefore
    by_cases hAbsent : pkt.checksum = 0
    · have hStill := hKeeps.absent hUdp hAbsent
      rw [hChecksum] at hStill
      exact iff_of_true hStill hAbsent
    · have hValid := hKeeps.valid ⟨hBefore.resolve_left hAbsent, fun _ => hAbsent⟩
      have hStill := hValid.2 (hProto.trans hUdp)
      rw [hChecksum] at hStill
      exact iff_of_false hStill hAbsent
  · intro hCondition
    constructor
    · intro ⟨hVerifies, hPresent⟩
      refine ⟨verifies_apply hIncremental hPkt hPort hFrom hNew hVerifies, ?_⟩
      intro hUdp
      rw [hProto] at hUdp
      rw [hChecksum]
      intro hStill
      exact hPresent hUdp ((hCondition hUdp (Or.inr hVerifies)).mp hStill)
    · intro hUdp hAbsent
      rw [hChecksum]
      exact (hCondition hUdp (Or.inl hAbsent)).mpr hAbsent

/-- The checksum of a UDP packet with a value to translate becomes zero exactly
if it was zero: it makes up for the loaded value and its image only if it is zero. -/
def PortMap.KeepsZero (ports : PortMap) (dir : Direction) (configMap : Option PsidConfig)
    (pkt : Packet) : Prop :=
  ∀ cfg field value, ports.Applies dir configMap pkt cfg field value → pkt.proto = ipprotoUdp →
    (pkt.checksum = 0 ∨ Verifies pkt.checksummed) →
    (pkt.checksum.toNat + value.toNat ≡ ports.image cfg value [MOD 65535] ↔ pkt.checksum = 0)

/-- Both programs at once, for a direction whose port arithmetic has the closed form
`ports`. -/
theorem output_keepsChecksum_iff {ports : PortMap} (hIncremental : l4CsumReplace.Incremental)
    (hPkt : pkt.Complete) (hPort : dir.portOffset = 0 ∨ dir.portOffset = 2)
    (hComputes : dir.Computes ports)
    (hConfig : ∀ cfg, configMap = some cfg → cfg.offset = 0 ∨ cfg.Coherent) :
    KeepsChecksum pkt (dir.output l4CsumReplace configMap pkt) ↔
      ports.KeepsZero dir configMap pkt := by
  by_cases hApplies : ∃ cfg field value, ports.Applies dir configMap pkt cfg field value
  · obtain ⟨cfg, field, value, h⟩ := hApplies
    have hCoherent := (hConfig cfg h.config).resolve_left h.offset
    obtain ⟨new, hRewrite, hImage, hNew⟩ := h.rewrite hComputes hCoherent
    have hZero : update pkt.checksum value new = 0 ↔
        pkt.checksum.toNat + value.toNat ≡ ports.image cfg value [MOD 65535] := by
      rw [← hImage]
      exact update_eq_zero_iff (by decide) hNew
    rw [Direction.output, hRewrite]
    refine (apply_keepsChecksum_iff hIncremental hPkt hPort (rewrite_from hRewrite) hNew).trans ?_
    rw [hZero]
    constructor
    · intro hCondition cfg' field' value' h'
      obtain ⟨rfl, rfl, rfl⟩ := h.unique h'
      exact hCondition
    · intro hKeeps
      exact hKeeps cfg field value h
  · simp only [not_exists] at hApplies
    rw [output_of_rewrite_none (rewrite_eq_none hComputes hConfig hApplies)]
    refine iff_of_true ⟨fun hValid => hValid, fun _ hAbsent => hAbsent⟩ ?_
    intro cfg field value h
    exact absurd h (hApplies cfg field value)

end Apply

/-- Both programs keep every TCP and ICMP checksum, and that of a UDP packet
exactly if the update leaves zero what was zero and nothing else. -/
theorem programs_keepChecksum_iff (l4CsumReplace : L4CsumReplace)
    (hIncremental : l4CsumReplace.Incremental) (configMap : Option PsidConfig)
    (hConfig : ∀ cfg, configMap = some cfg → cfg.offset = 0 ∨ cfg.Coherent) (pkt : Packet)
    (hPkt : pkt.Complete) :
    (KeepsChecksum pkt (leaving (tcEgress l4CsumReplace configMap) pkt) ↔
      egressPorts.KeepsZero egress configMap pkt) ∧
    (KeepsChecksum pkt (leaving (tcIngress l4CsumReplace configMap) pkt) ↔
      ingressPorts.KeepsZero ingress configMap pkt) := by
  constructor
  · rw [tcEgress, leaving_tcProgram]
    exact output_keepsChecksum_iff hIncremental hPkt (Or.inl rfl) egress_computes hConfig
  · rw [tcIngress, leaving_tcProgram]
    exact output_keepsChecksum_iff hIncremental hPkt (Or.inr rfl) ingress_computes hConfig

/-- The helper as it behaves for size 2. -/
def csumReplace2 : L4CsumReplace := fun offset old new flags pkt =>
  (Packet.native16 pkt offset).map fun checksum =>
    pkt.put16 offset (replacedCsum flags checksum (old.setWidth 16) (new.setWidth 16))

theorem csumReplace2_incremental : csumReplace2.Incremental := by
  intro offset old new flags pkt checksum _ hChecksum
  rw [csumReplace2, hChecksum, BitVec.setWidth_setWidth_of_le _ (by decide),
    BitVec.setWidth_setWidth_of_le _ (by decide), BitVec.setWidth_eq, BitVec.setWidth_eq]
  rfl

/-- A UDP packet from the staging port 4096, as it is loaded, to port 443. -/
def udpPacket (high low : U8) (data : List U8) : Packet :=
  [0x45, 0, 0, BitVec.ofNat 8 (28 + data.length), 0, 0, 0, 0, 64, 17, 0, 0, 192, 0, 2, 18,
    198, 51, 100, 7, 0, 16, 1, 187, 0, BitVec.ofNat 8 (8 + data.length), high, low] ++ data

theorem udpPacket_l4Offset (high low : U8) (data : List U8) :
    (udpPacket high low data).l4Offset = 20 := by
  change ((0x45 : U8) &&& 0x0f).toNat * 4 = 20
  decide

theorem udpPacket_complete (high low : U8) : (udpPacket high low []).Complete :=
  { version := by
      change (0x45 : U8) >>> 4 = 4
      decide
    header := (udpPacket_l4Offset high low []).ge
    fragmentHigh := BitVec.zero_and
    fragmentLow := rfl
    total_le := Nat.le_refl 28
    l4Header := by
      have hProto : (udpPacket high low []).proto = ipprotoUdp := rfl
      have hTotal : (udpPacket high low []).totalLength = 28 := rfl
      rw [hProto, Packet.segment, hTotal, udpPacket_l4Offset]
      exact Nat.le_refl 8 }

/-- Its source port is translated. -/
theorem udpPacket_applies : egressPorts.Applies egress (some cfgFive) (udpPacket 0x11 0xc6 [])
    cfgFive 20 4096 :=
  { config := rfl
    offset := by decide
    carries := Or.inl ⟨Or.inr rfl, by rw [udpPacket_l4Offset]; rfl⟩
    loaded := rfl
    moves := ⟨by decide, by decide⟩ }

/-- A datagram with a valid checksum is rewritten and stays valid. -/
theorem programs_keepChecksum_valid :
    (udpPacket 0x11 0xc6 []).ValidChecksum ∧
      KeepsChecksum (udpPacket 0x11 0xc6 [])
        (leaving (tcEgress csumReplace2 (some cfgFive)) (udpPacket 0x11 0xc6 [])) := by
  refine ⟨by decide +kernel, ?_⟩
  have hConfig (cfg : PsidConfig) (hCfg : some cfgFive = some cfg) : cfg.offset = 0 ∨ cfg.Coherent := by
    cases hCfg
    exact Or.inr cfgFive_coherent
  apply (programs_keepChecksum_iff csumReplace2 csumReplace2_incremental (some cfgFive) hConfig _
    (udpPacket_complete 0x11 0xc6)).1.mpr
  intro cfg field value h _ _
  obtain ⟨rfl, rfl, rfl⟩ := udpPacket_applies.unique h
  decide +kernel

/-- A packet without checksum gets one, and a checksum becomes zero, which means none. -/
theorem programs_break_checksum :
    (udpPacket 0 0 []).checksum = 0 ∧
      (leaving (tcEgress csumReplace2 (some cfgFive)) (udpPacket 0 0 [])).checksum = 0xffaf ∧
      (udpPacket 0x50 0 [0xc1, 0xc1]).ValidChecksum ∧
      (leaving (tcEgress csumReplace2 (some cfgFive)) (udpPacket 0x50 0 [0xc1, 0xc1])).checksum = 0 := by
  decide +kernel

end Mapecd
