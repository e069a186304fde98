import Mapecd.Dhcpv6.Message
import Mapecd.Dhcpv6.RuleEncoding

/-! A codec for the messages of the client, in the wire format. -/
namespace Mapecd

open Bytes

namespace Wire

def optClientId : U16 := 1
def optServerId : U16 := 2
def optOro : U16 := 6
def optServerUnicast : U16 := 12
def optStatusCode : U16 := 13
def optIaPrefix : U16 := 26

/-- Options up to the first one that is cut off, at most `fuel` of them. -/
def readOptions : Nat → List U8 → List (U16 × List U8)
  | fuel + 1, c₁ :: c₀ :: l₁ :: l₀ :: rest =>
      let len := (l₁ ++ l₀).toNat
      if len ≤ rest.length then
        (c₁ ++ c₀, rest.take len) :: readOptions fuel (rest.drop len)
      else
        []
  | _, _ => []

/-- The status code has two bytes, then its text. -/
def readIaPdOption : U16 × List U8 → IaPdOption
  | (code, data) =>
      if code = optIaPrefix then
        .iaPrefix
          { preferredLifetime := ofBe 32 (data.take 4)
            validLifetime := ofBe 32 ((data.drop 4).take 4)
            prefixLen := ofBe 8 ((data.drop 8).take 1)
            prefixIp := ofBe 128 ((data.drop 9).take 16) }
      else if code = optStatusCode then
        .statusCode (ofBe 16 (data.take 2)) (data.drop 2)
      else
        .other code data

def readIaPd (data : List U8) : IaPd :=
  { id := ofBe 32 (data.take 4)
    t1 := ofBe 32 ((data.drop 4).take 4)
    t2 := ofBe 32 ((data.drop 8).take 4)
    opts := (readOptions data.length (data.drop 12)).map readIaPdOption }

def readCodes : List U8 → List U16
  | high :: low :: rest => (high ++ low) :: readCodes rest
  | _ => []

/-- Unknown options keep their bytes. -/
def readOption : U16 × List U8 → DhcpOption
  | (code, data) =>
      if code = optClientId then .clientId data
      else if code = optServerId then .serverId data
      else if code = optOro then .oro (readCodes data)
      else if code = optServerUnicast then .serverUnicast (ofBe 128 (data.take 16))
      else if code = optStatusCode then .statusCode (ofBe 16 (data.take 2)) (data.drop 2)
      else if code = optIaPd then .iaPd (readIaPd data)
      else .unknown code data

def readType (code : U8) : MessageType :=
  if code = 1 then .solicit
  else if code = 2 then .advertise
  else if code = 3 then .request
  else if code = 5 then .renew
  else if code = 6 then .rebind
  else if code = 7 then .reply
  else if code = 8 then .release
  else .other code

/-- Type, transaction id, options. -/
def readMessage : List U8 → Option Message
  | code :: x₂ :: x₁ :: x₀ :: rest =>
      some
        { msgType := readType code, xid := x₂ ++ x₁ ++ x₀
          opts := (readOptions rest.length rest).map readOption }
  | _ => none

def writeIaPdOption : IaPdOption → List U8
  | .iaPrefix iaPrefix =>
      encodeOption optIaPrefix (toBe 4 iaPrefix.preferredLifetime ++
        toBe 4 iaPrefix.validLifetime ++ [iaPrefix.prefixLen] ++ toBe 16 iaPrefix.prefixIp)
  | .statusCode status msg => encodeOption optStatusCode (toBe 2 status ++ msg)
  | .other code data => encodeOption code data

def writeIaPd (iaPd : IaPd) : List U8 :=
  toBe 4 iaPd.id ++ toBe 4 iaPd.t1 ++ toBe 4 iaPd.t2 ++ iaPd.opts.flatMap writeIaPdOption

def writeOption : DhcpOption → List U8
  | .clientId duid => encodeOption optClientId duid
  | .serverId duid => encodeOption optServerId duid
  | .iaPd iaPd => encodeOption optIaPd (writeIaPd iaPd)
  | .oro codes => encodeOption optOro (codes.flatMap (toBe 2))
  | .serverUnicast addr => encodeOption optServerUnicast (toBe 16 addr)
  | .statusCode status msg => encodeOption optStatusCode (toBe 2 status ++ msg)
  | .unknown code data => encodeOption code data

def writeType : MessageType → U8
  | .solicit => 1
  | .advertise => 2
  | .request => 3
  | .renew => 5
  | .rebind => 6
  | .reply => 7
  | .release => 8
  | .other code => code

def writeMessage (msg : Message) : List U8 :=
  writeType msg.msgType :: toBe 3 msg.xid ++ msg.opts.flatMap writeOption

end Wire

open Wire in
/-- Messages whose options do not fit in the wire format are not written. -/
def wireCodec : Codec where
  decode := readMessage
  encode msg := if readMessage (writeMessage msg) = some msg then some (writeMessage msg) else none

end Mapecd
