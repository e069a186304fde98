import Mapecd.Ebpf.Translation
import Mapecd.Semantics.Program

/-! The TC programs on the bytes of a packet. A `u16` is loaded and stored in
the native little-endian order of the target, while the ports on the wire are
big-endian. -/
namespace Mapecd

open Checked Effects

abbrev U64 := BitVec 64
abbrev Packet := List U8

/-- A program on one packet. `Err(())` is the failure. -/
abbrev TcM (α : Type) := Program Unit Packet α

def lowByte (x : U16) : U8 := x.setWidth 8

def highByte (x : U16) : U8 := (x >>> 8).setWidth 8

/-- The two bytes exchanged. -/
def swapBytes (x : U16) : U16 := lowByte x ++ highByte x

namespace Packet

/-- The 16-bit number that a receiver reads: first byte high. -/
def wire16 (pkt : Packet) (offset : Nat) : Option U16 :=
  match pkt[offset]?, pkt[offset + 1]? with
  | some first, some second => some (first ++ second)
  | _, _ => none

def l4Offset (pkt : Packet) : Nat := (pkt[0]?.getD 0 &&& 0x0f).toNat * 4

def proto (pkt : Packet) : U8 := pkt[9]?.getD 0

end Packet

def tcActOk : Int := 0

def ipprotoTcp : U8 := 6
def ipprotoUdp : U8 := 17
def ipprotoIcmp : U8 := 1

def ipv4IhlOffset : Nat := 0
def ipv4ProtoOffset : Nat := 9
def icmpTypeOffset : Nat := 0
def icmpCsumOffset : Nat := 2
def icmpIdOffset : Nat := 4

def load8 (offset : Nat) : TcM U8 := do
  match (← get)[offset]? with
  | some byte => return byte
  | none => fail ()

def load16 (offset : Nat) : TcM U16 := do
  let pkt ← get
  match pkt[offset]?, pkt[offset + 1]? with
  | some low, some high => return high ++ low
  | _, _ => fail ()

/-- Both bytes must be there, the low one comes first. -/
def store16 (offset : Nat) (value : U16) : TcM Unit := do
  let pkt ← get
  if offset + 1 < pkt.length then
    set ((pkt.set offset (lowByte value)).set (offset + 1) (highByte value))
  else
    fail ()

/-- `bpf_l4_csum_replace`: offset, old value, new value, flags. `none` is an error. -/
abbrev L4CsumReplace := Nat → U64 → U64 → U64 → Packet → Option Packet

/-- The helper changes at most the two checksum bytes at its offset. -/
def L4CsumReplace.Framed (l4CsumReplace : L4CsumReplace) : Prop :=
  ∀ offset old new flags pkt pkt', l4CsumReplace offset old new flags pkt = some pkt' →
    ∀ i, i ≠ offset → i ≠ offset + 1 → pkt'[i]? = pkt[i]?

def bpfFPseudoHdr : U64 := 0x10

section Program

variable (l4CsumReplace : L4CsumReplace)

def replaceCsum (csumOffset : Nat) (oldVal newVal : U16) (flags : U64) : TcM Unit := do
  match l4CsumReplace csumOffset (oldVal.setWidth 64) (newVal.setWidth 64) flags (← get) with
  | some pkt => set pkt
  | none => fail ()

def updateTcpUdpCsum (csumOffset : Nat) (oldVal newVal : U16) : TcM Unit :=
  replaceCsum l4CsumReplace csumOffset oldVal newVal (2 ||| bpfFPseudoHdr)

def updateIcmpCsum (csumOffset : Nat) (oldVal newVal : U16) : TcM Unit :=
  replaceCsum l4CsumReplace csumOffset oldVal newVal 2

/-- What distinguishes the two programs: the port of the L4 header, the ICMP
echo type and the arithmetic. -/
structure Direction where
  portOffset : Nat
  icmpType : U8
  translate : PsidConfig → U16 → Result (Option U16)

/-- Value, its offset, the checksum offset and whether it is ICMP. `none` for
a packet that is not translated. -/
def loadField (dir : Direction) (l4Offset : Nat) (proto : U8) :
    TcM (Option (U16 × Nat × Nat × Bool)) := do
  if proto = ipprotoTcp ∨ proto = ipprotoUdp then
    let portOffset := l4Offset + dir.portOffset
    let value ← load16 portOffset
    let csumOffset := if proto = ipprotoTcp then l4Offset + 16 else l4Offset + 6
    return some (value, portOffset, csumOffset, false)
  else if proto = ipprotoIcmp then
    if (← load8 (l4Offset + icmpTypeOffset)) ≠ dir.icmpType then
      return none
    let idOffset := l4Offset + icmpIdOffset
    let value ← load16 idOffset
    return some (value, idOffset, l4Offset + icmpCsumOffset, true)
  else
    return none

/-- Store the new value and update the checksum, whose errors are ignored. -/
def storeField (oldVal newVal : U16) (portOffset csumOffset : Nat) (isIcmp : Bool) : TcM Unit := do
  store16 portOffset newVal
  if isIcmp then
    let _ ← attempt (updateIcmpCsum l4CsumReplace csumOffset oldVal newVal)
  else
    let _ ← attempt (updateTcpUdpCsum l4CsumReplace csumOffset oldVal newVal)

/-- The common body of `try_egress` and `try_ingress`. `configMap` is the
entry of `CONFIG_MAP` at index zero. -/
def tryTranslate (dir : Direction) (configMap : Option PsidConfig) : TcM Int := do
  let ihlByte ← load8 ipv4IhlOffset
  let l4Offset := (ihlByte &&& 0x0f).toNat * 4
  let proto ← load8 ipv4ProtoOffset
  match configMap with
  | none => return tcActOk
  | some cfg =>
      if cfg.offset = 0 then
        return tcActOk
      match ← loadField dir l4Offset proto with
      | none => return tcActOk
      | some (oldVal, portOffset, csumOffset, isIcmp) =>
          match ← checked (dir.translate cfg oldVal) with
          | none => return tcActOk
          | some newVal =>
              storeField l4CsumReplace oldVal newVal portOffset csumOffset isIcmp
              return tcActOk

/-- Every error passes the packet on. -/
def tcProgram (dir : Direction) (configMap : Option PsidConfig) : TcM Int := do
  match ← attempt (tryTranslate l4CsumReplace dir configMap) with
  | .ok act => return act
  | .error _ => return tcActOk

def icmpEchoRequest : U8 := 8
def icmpEchoReply : U8 := 0

def egress : Direction :=
  { portOffset := 0, icmpType := icmpEchoRequest, translate := egressPsidVal }

def ingress : Direction :=
  { portOffset := 2, icmpType := icmpEchoReply, translate := ingressStagingVal }

def tryEgress : Option PsidConfig → TcM Int := tryTranslate l4CsumReplace egress
def tryIngress : Option PsidConfig → TcM Int := tryTranslate l4CsumReplace ingress
def tcEgress : Option PsidConfig → TcM Int := tcProgram l4CsumReplace egress
def tcIngress : Option PsidConfig → TcM Int := tcProgram l4CsumReplace ingress

end Program

section Bytes

theorem toNat_append (high low : U8) : (high ++ low : U16).toNat = high.toNat * 256 + low.toNat := by
  rw [BitVec.toNat_append, ← Nat.shiftLeft_add_eq_or_of_lt low.isLt, Nat.shiftLeft_eq]

theorem toNat_lowByte (x : U16) : (lowByte x).toNat = x.toNat % 256 := by
  rw [lowByte, BitVec.toNat_setWidth]

theorem toNat_highByte (x : U16) : (highByte x).toNat = x.toNat / 256 := by
  have hLt := x.isLt
  rw [highByte, BitVec.toNat_setWidth, BitVec.toNat_ushiftRight, Nat.shiftRight_eq_div_pow]
  exact Nat.mod_eq_of_lt (by omega)

theorem toNat_swapBytes (x : U16) : (swapBytes x).toNat = x.toNat % 256 * 256 + x.toNat / 256 := by
  rw [swapBytes, toNat_append, toNat_lowByte, toNat_highByte]

/-- A field in network order is loaded with its bytes exchanged. -/
theorem swapBytes_append (high low : U8) : swapBytes (high ++ low) = low ++ high := by
  have hLow := low.isLt
  refine BitVec.eq_of_toNat_eq ?_
  rw [toNat_swapBytes, toNat_append, toNat_append]
  omega

theorem swapBytes_swapBytes (x : U16) : swapBytes (swapBytes x) = x := by
  have hLt := x.isLt
  refine BitVec.eq_of_toNat_eq ?_
  rw [toNat_swapBytes, toNat_swapBytes]
  omega

end Bytes

end Mapecd
