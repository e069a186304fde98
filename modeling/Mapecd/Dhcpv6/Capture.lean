import Mapecd.Dhcpv6.Reply

/-! Passive capture of the Replies that another client on the host receives. -/
namespace Mapecd

open Checked Bytes

/-- Multicast and the own link-local address, or every destination as long as
that address is not known. -/
def passesDstFilter (frame : List U8) (ourLlAddr : Option Ipv6Addr) : Bool :=
  if frame.length < 54 then
    false
  else
    match ourLlAddr with
    | none => true
    | some ll =>
        let octets := (frame.drop 38).take 16
        octets.head? = some 0xff || ofBe 128 octets = ll

/-- DHCPv6 message behind the Ethernet, IPv6 and UDP headers. -/
def dhcpPayload (frame : List U8) : List U8 := frame.drop 62

variable (codec : Codec)

/-- The Reply in a frame, unless the frame is skipped. -/
def capturedReply (frame : List U8) (ourLlAddr : Option Ipv6Addr) : Option Message :=
  if frame.length < 63 then
    none
  else if !passesDstFilter frame ourLlAddr then
    none
  else if (dhcpPayload frame).head? ≠ some 7 then
    none
  else do
    let msg ← codec.decode (dhcpPayload frame)
    if msg.msgType ≠ .reply then none
    else if msg.Failed then none
    else some msg

/-- A container that cannot be read counts as one without rules. -/
def processFrame (frame : List U8) (ourLlAddr : Option Ipv6Addr) : Result (Option DhcpV6Event) := do
  match capturedReply codec frame ourLlAddr with
  | none => return none
  | some _ =>
      match parseIaPd codec (dhcpPayload frame) none with
      | none => return none
      | some iaPd =>
          match ← (parseMapeContainer codec (dhcpPayload frame)).run with
          | .ok (some rules) => return some (.both rules iaPd)
          | .ok none => return some (.iaPdReceived iaPd)
          | .error _ => return some (.iaPdReceived iaPd)

end Mapecd
