import Mapecd.Dhcpv6.Capture
import Mapecd.Semantics.PacketFilter

/-! The filter of the capture socket, and what a frame on the link leads to. -/
namespace Mapecd

open Checked Bytes PacketFilter

/-- `BPF_FILTER`: Ethernet II, IPv6, UDP to port 546. -/
def bpfFilter : List SockFilter :=
  [ -- ldh [12], the ethertype
    { code := 0x28, jt := 0, jf := 0, k := 12 },
    { code := 0x15, jt := 0, jf := 5, k := 0x86DD },
    -- ldb [20], the next header
    { code := 0x30, jt := 0, jf := 0, k := 20 },
    { code := 0x15, jt := 0, jf := 3, k := 17 },
    -- ldh [56], the destination port
    { code := 0x28, jt := 0, jf := 0, k := 56 },
    { code := 0x15, jt := 0, jf := 1, k := 546 },
    { code := 0x06, jt := 0, jf := 0, k := 65535 },
    { code := 0x06, jt := 0, jf := 0, k := 0 }]

def clientTests : List Test :=
  [{ size := .half, offset := 12, value := 0x86DD }, { size := .byte, offset := 20, value := 17 },
    { size := .half, offset := 56, value := 546 }]

theorem bpfFilter_eq : bpfFilter = compile 65535 clientTests := rfl

/-- What arrives on the link, up to its event. The socket delivers as many bytes as
the filter says. -/
def captureFrame (codec : Codec) (frame : List U8) (ourLlAddr : Option Ipv6Addr) :
    Result (Option DhcpV6Event) :=
  match run bpfFilter frame with
  | some (size + 1) => processFrame codec (frame.take (size + 1)) ourLlAddr
  | _ => return none

/-- An IPv6 packet with a UDP header in an Ethernet frame, without extension headers. -/
structure Datagram where
  dstMac : BitVec 48
  srcMac : BitVec 48
  etherType : U16
  /-- version, traffic class and flow label -/
  flow : U32
  payloadLength : U16
  nextHeader : U8
  hopLimit : U8
  src : Ipv6Addr
  dst : Ipv6Addr
  srcPort : U16
  dstPort : U16
  udpLength : U16
  checksum : U16
  payload : List U8

namespace Datagram

variable (d : Datagram)

def header : List (List U8) :=
  [toBe 6 d.dstMac, toBe 6 d.srcMac, toBe 2 d.etherType, toBe 4 d.flow, toBe 2 d.payloadLength,
    toBe 1 d.nextHeader, toBe 1 d.hopLimit, toBe 16 d.src, toBe 16 d.dst, toBe 2 d.srcPort,
    toBe 2 d.dstPort, toBe 2 d.udpLength, toBe 2 d.checksum]

def frame : List U8 := d.header.flatten ++ d.payload

/-- The fields of a frame, by their offsets. -/
def ofFrame (frame : List U8) : Datagram :=
  { dstMac := ofBe 48 ((frame.drop 0).take 6), srcMac := ofBe 48 ((frame.drop 6).take 6)
    etherType := ofBe 16 ((frame.drop 12).take 2), flow := ofBe 32 ((frame.drop 14).take 4)
    payloadLength := ofBe 16 ((frame.drop 18).take 2), nextHeader := ofBe 8 ((frame.drop 20).take 1)
    hopLimit := ofBe 8 ((frame.drop 21).take 1), src := ofBe 128 ((frame.drop 22).take 16)
    dst := ofBe 128 ((frame.drop 38).take 16), srcPort := ofBe 16 ((frame.drop 54).take 2)
    dstPort := ofBe 16 ((frame.drop 56).take 2), udpLength := ofBe 16 ((frame.drop 58).take 2)
    checksum := ofBe 16 ((frame.drop 60).take 2), payload := frame.drop 62 }

/-- `ff00::/8`. -/
def Multicast : Prop := (d.dst >>> 120).setWidth 8 = (0xff : U8)

/-- For the DHCPv6 client of this host, as far as its address is known. -/
structure ForClient (ourLlAddr : Option Ipv6Addr) : Prop where
  etherType : d.etherType = 0x86DD
  nextHeader : d.nextHeader = 17
  dstPort : d.dstPort = 546
  dst : ∀ addr ∈ ourLlAddr, d.dst = addr ∨ d.Multicast

theorem length_header : d.header.flatten.length = 62 := by
  simp [header]

theorem drop_frame : d.frame.drop 62 = d.payload := List.drop_left' d.length_header

theorem length_frame : d.frame.length = 62 + d.payload.length := by
  rw [frame, List.length_append, length_header]

/-- A field is read off and written back. -/
theorem toBe_field {w : Nat} (frame : List U8) (start n : Nat) (hw : 8 * n = w)
    (h : start + n ≤ frame.length) :
    toBe n (ofBe w ((frame.drop start).take n)) ++ frame.drop (start + n) = frame.drop start := by
  have hLength : ((frame.drop start).take n).length = n := by
    rw [List.length_take, List.length_drop]
    omega
  have hBytes := toBe_ofBe (hLength ▸ hw.le)
  rw [hLength] at hBytes
  rw [hBytes, ← List.drop_drop, List.take_append_drop]

/-- Every frame that is long enough has these fields. -/
theorem frame_ofFrame {frame : List U8} (h : 62 ≤ frame.length) : (ofFrame frame).frame = frame := by
  have hField {w : Nat} (start n : Nat) (hw : 8 * n = w) (hn : start + n ≤ 62) :=
    toBe_field frame start n hw (hn.trans h)
  simp only [Datagram.frame, header, ofFrame, List.flatten_cons, List.flatten_nil, List.append_assoc,
    List.append_nil]
  rw [hField 60 2 rfl (by decide), hField 58 2 rfl (by decide), hField 56 2 rfl (by decide),
    hField 54 2 rfl (by decide), hField 38 16 rfl (by decide), hField 22 16 rfl (by decide),
    hField 21 1 rfl (by decide), hField 20 1 rfl (by decide), hField 18 2 rfl (by decide),
    hField 14 4 rfl (by decide), hField 12 2 rfl (by decide), hField 6 6 rfl (by decide),
    hField 0 6 rfl (by decide), List.drop_zero]

/-- A field of the header is read at its offset, whatever follows. -/
theorem load_field {w n offset : Nat} {size : Size} {x : BitVec w} {after : List (List U8)}
    (before : List (List U8)) (rest : List U8) (hHeader : d.header = before ++ toBe n x :: after) (hSize : size.bytes = n)
    (hWidth : 8 * n = w) (hOffset : before.flatten.length = offset) :
    load (d.frame ++ rest) size offset = some (x.setWidth 32) := by
  have hFrame : d.frame ++ rest =
      before.flatten ++ (toBe n x ++ (after.flatten ++ (d.payload ++ rest))) := by
    rw [frame, hHeader, List.flatten_append, List.flatten_cons]
    simp only [List.append_assoc]
  rw [hFrame]
  exact load_append x hSize hWidth hOffset

/-- The filter looks at the ethertype, the next header and the destination port. -/
theorem clientTests_iff (rest : List U8) : (∀ test ∈ clientTests, test.Holds (d.frame ++ rest)) ↔
    d.etherType = 0x86DD ∧ d.nextHeader = 17 ∧ d.dstPort = 546 := by
  have hEtherType : load (d.frame ++ rest) .half 12 = some (d.etherType.setWidth 32) :=
    d.load_field (d.header.take 2) rest rfl rfl rfl (by simp [header])
  have hNextHeader : load (d.frame ++ rest) .byte 20 = some (d.nextHeader.setWidth 32) :=
    d.load_field (d.header.take 5) rest rfl rfl rfl (by simp [header])
  have hDstPort : load (d.frame ++ rest) .half 56 = some (d.dstPort.setWidth 32) :=
    d.load_field (d.header.take 10) rest rfl rfl rfl (by simp [header])
  have hWiden16 (x y : U16) : x.setWidth 32 = y.setWidth 32 ↔ x = y := by
    constructor
    · exact fun h => by simpa using congrArg (BitVec.setWidth 16) h
    · exact congrArg _
  have hWiden8 (x y : U8) : x.setWidth 32 = y.setWidth 32 ↔ x = y := by
    constructor
    · exact fun h => by simpa using congrArg (BitVec.setWidth 8) h
    · exact congrArg _
  have hTests : (∀ test ∈ clientTests, test.Holds (d.frame ++ rest)) ↔
      load (d.frame ++ rest) .half 12 = some ((0x86DD#16).setWidth 32) ∧
        load (d.frame ++ rest) .byte 20 = some ((17#8).setWidth 32) ∧
          load (d.frame ++ rest) .half 56 = some ((546#16).setWidth 32) := by
    simp only [clientTests, List.forall_mem_cons, Test.Holds]
    simp
  rw [hTests, hEtherType, hNextHeader, hDstPort, Option.some_inj, Option.some_inj, Option.some_inj,
    hWiden16, hWiden8, hWiden16]
  rfl

/-- An own address that is not known lets every frame pass. -/
theorem passesDstFilter_iff (ourLlAddr : Option Ipv6Addr) :
    passesDstFilter d.frame ourLlAddr ↔ ∀ addr ∈ ourLlAddr, d.dst = addr ∨ d.Multicast := by
  have hLength : ¬ d.frame.length < 54 := by
    rw [length_frame]
    omega
  have hDst : (d.frame.drop 38).take 16 = toBe 16 d.dst := by
    simp [frame, header, List.drop_append, List.drop_of_length_le]
  have hFirst : (toBe 16 d.dst).head? = some ((d.dst >>> 120).setWidth 8) := rfl
  unfold passesDstFilter
  rw [if_neg hLength]
  cases ourLlAddr with
  | none => simp
  | some addr => simp [hDst, hFirst, ofBe_toBe 16 d.dst le_rfl, Multicast, or_comm]

end Datagram

section Events

variable (codec : Codec)

/-- What the parser finds in the payload of a Reply: the first delegated prefix,
with the rules of the container if there is a readable one. -/
structure AnnouncesEvent (payload : List U8) (event : DhcpV6Event) : Prop where
  msgType : payload.head? = some 7
  reply : ∃ msg, codec.decode payload = some msg ∧ msg.msgType = .reply ∧ ¬ msg.Failed
  event : ∃ iaPd, parseIaPd codec payload none = some iaPd ∧
    ∃ container, (parseMapeContainer codec payload).run = some container ∧
      event = match container with
        | .ok (some rules) => .both rules iaPd
        | _ => .iaPdReceived iaPd

variable {codec} {frame : List U8} {ourLlAddr : Option Ipv6Addr} {event : DhcpV6Event}

/-- No slice of a frame is out of bounds. -/
theorem processFrame_isSome : (processFrame codec frame ourLlAddr).isSome := by
  unfold processFrame
  cases capturedReply codec frame ourLlAddr with
  | none => rfl
  | some msg =>
      cases parseIaPd codec (dhcpPayload frame) none with
      | none => rfl
      | some iaPd =>
          cases hRun : (parseMapeContainer codec (dhcpPayload frame)).run with
          | none => exact absurd hRun (parseMapeContainer_total codec _)
          | some container => rcases container with _ | _ | _ <;> rfl

/-- What is known of a frame that goes on to the parser. -/
theorem capturedReply_eq_some {msg : Message} (h : capturedReply codec frame ourLlAddr = some msg) :
    63 ≤ frame.length ∧ passesDstFilter frame ourLlAddr ∧ (dhcpPayload frame).head? = some 7 ∧
      codec.decode (dhcpPayload frame) = some msg ∧ msg.msgType = .reply ∧ ¬ msg.Failed := by
  unfold capturedReply at h
  split_ifs at h with hLength hDst hType
  obtain ⟨decoded, hDecode, h⟩ := Option.bind_eq_some_iff.mp h
  split_ifs at h with hReply hFailed
  cases h
  exact ⟨Nat.le_of_not_lt hLength, by simpa using hDst, not_not.mp hType, hDecode, not_not.mp hReply,
    hFailed⟩

/-- The events of the frames that reach the program. -/
theorem processFrame_iff (d : Datagram) : processFrame codec d.frame ourLlAddr = some (some event) ↔
    (∀ addr ∈ ourLlAddr, d.dst = addr ∨ d.Multicast) ∧ AnnouncesEvent codec d.payload event := by
  have hPayload : dhcpPayload d.frame = d.payload := d.drop_frame
  constructor
  · intro h
    unfold processFrame at h
    cases hReply : capturedReply codec d.frame ourLlAddr with
    | none =>
        rw [hReply] at h
        cases h
    | some msg =>
        obtain ⟨-, hDst, hType, hDecode, hMsgType, hFailed⟩ := capturedReply_eq_some hReply
        rw [hPayload] at hType hDecode
        rw [hReply, hPayload] at h
        cases hIaPd : parseIaPd codec d.payload none with
        | none =>
            rw [hIaPd] at h
            cases h
        | some iaPd =>
            rw [hIaPd] at h
            obtain ⟨container, hRun, hEvent⟩ := Option.bind_eq_some_iff.mp h
            refine ⟨(d.passesDstFilter_iff ourLlAddr).mp hDst, hType, ⟨msg, hDecode, hMsgType, hFailed⟩,
              iaPd, hIaPd, container, hRun, ?_⟩
            rcases container with _ | _ | _ <;> cases hEvent <;> rfl
  · rintro ⟨hDst, hType, ⟨msg, hDecode, hMsgType, hFailed⟩, iaPd, hIaPd, container, hRun, rfl⟩
    have hLength : ¬ d.frame.length < 63 := by
      have hNonempty : d.payload ≠ [] := by
        rintro hNil
        rw [hNil] at hType
        cases hType
      have hPositive := List.length_pos_iff.mpr hNonempty
      rw [d.length_frame]
      omega
    have hReply : capturedReply codec d.frame ourLlAddr = some msg := by
      unfold capturedReply
      rw [if_neg hLength, (d.passesDstFilter_iff ourLlAddr).mpr hDst, hPayload, hDecode]
      simp [hType, hMsgType, hFailed]
    unfold processFrame
    rw [hReply, hPayload, hIaPd]
    change (parseMapeContainer codec d.payload).run.bind _ = _
    rw [hRun]
    rcases container with _ | _ | _ <;> rfl

/-- The socket filter is the list of its tests, and passes at most 65535 bytes on. -/
theorem captureFrame_eq : captureFrame codec frame ourLlAddr =
    if ∀ test ∈ clientTests, test.Holds frame then processFrame codec (frame.take 65535) ourLlAddr
    else some none := by
  have hRun := run_compile 65535 clientTests frame (by decide)
  rw [captureFrame, bpfFilter_eq, hRun]
  by_cases hTests : ∀ test ∈ clientTests, test.Holds frame
  · rw [if_pos hTests, if_pos hTests]
    rfl
  · rw [if_neg hTests, if_neg hTests]
    rfl

end Events

/-- The code of the daemon panics on no frame, as far as the decoder returns, and the
daemon is told of a Reply exactly if it is in a UDP datagram for the client port in an
IPv6 packet, for this host or a multicast group: with the first 65535 bytes of the
frame, and with all bytes behind the UDP header as the message. -/
theorem captureFrame_iff (codec : Codec) (frame : List U8) (ourLlAddr : Option Ipv6Addr) :
    (captureFrame codec frame ourLlAddr).isSome ∧
      ∀ event, captureFrame codec frame ourLlAddr = some (some event) ↔
        ∃ d : Datagram, d.frame = frame.take 65535 ∧ d.ForClient ourLlAddr ∧
          AnnouncesEvent codec d.payload event := by
  have hFrame : frame.take 65535 ++ frame.drop 65535 = frame := List.take_append_drop _ _
  rw [captureFrame_eq]
  refine ⟨?_, fun event => ⟨?_, ?_⟩⟩
  · split_ifs
    · exact processFrame_isSome
    · rfl
  · split_ifs with hTests
    · intro hEvent
      have hLong : 62 ≤ (frame.take 65535).length := by
        by_contra hShort
        have hReply : capturedReply codec (frame.take 65535) ourLlAddr = none :=
          if_pos (by omega)
        rw [processFrame, hReply] at hEvent
        cases hEvent
      have hSame := Datagram.frame_ofFrame hLong
      rw [← hFrame, ← hSame, Datagram.clientTests_iff] at hTests
      obtain ⟨hEtherType, hNextHeader, hDstPort⟩ := hTests
      rw [← hSame] at hEvent
      obtain ⟨hDst, hAnnounces⟩ := (processFrame_iff _).mp hEvent
      exact ⟨_, hSame, ⟨hEtherType, hNextHeader, hDstPort, hDst⟩, hAnnounces⟩
    · intro hNone
      cases hNone
  · rintro ⟨d, hSame, hClient, hAnnounces⟩
    have hTests : ∀ test ∈ clientTests, test.Holds frame := by
      rw [← hFrame, ← hSame, d.clientTests_iff]
      exact ⟨hClient.etherType, hClient.nextHeader, hClient.dstPort⟩
    rw [if_pos hTests, ← hSame]
    exact (processFrame_iff d).mpr ⟨hClient.dst, hAnnounces⟩

end Mapecd
