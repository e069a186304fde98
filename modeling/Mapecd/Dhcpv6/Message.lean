import Mapecd.Dhcpv6.Parser

/-! DHCPv6 messages as the library decodes them. Only what the daemon reads or
writes is kept apart. -/
namespace Mapecd

/-- Transaction id. -/
abbrev Xid := BitVec 24

/-- The types that the client sends or looks for. -/
inductive MessageType where
  | solicit
  | advertise
  | request
  | renew
  | rebind
  | reply
  | release
  | other (code : U8)
deriving DecidableEq, Repr

/-- `IAPREFIX`. -/
structure IaPrefix where
  preferredLifetime : U32
  validLifetime : U32
  prefixLen : U8
  prefixIp : Ipv6Addr
deriving DecidableEq, Repr

/-- The options within an IA_PD, the others with their bytes. -/
inductive IaPdOption where
  | iaPrefix (iaPrefix : IaPrefix)
  | statusCode (status : U16) (msg : List U8)
  | other (code : U16) (data : List U8)
deriving DecidableEq, Repr

/-- An IA_PD option with its timers. -/
structure IaPd where
  id : U32
  t1 : U32
  t2 : U32
  opts : List IaPdOption
deriving DecidableEq, Repr

/-- The options that the client builds or reads, the others with their bytes. -/
inductive DhcpOption where
  | clientId (duid : List U8)
  | serverId (duid : List U8)
  | iaPd (iaPd : IaPd)
  | oro (codes : List U16)
  | serverUnicast (addr : Ipv6Addr)
  | statusCode (status : U16) (msg : List U8)
  | unknown (code : U16) (data : List U8)
deriving DecidableEq, Repr

/-- A message between client and server. -/
structure Message where
  msgType : MessageType
  xid : Xid
  opts : List DhcpOption
deriving DecidableEq, Repr

def optIaPd : U16 := 25
def optS46ContMape : U16 := 94

/-- `Status::Success`. -/
def statusSuccess : U16 := 0

/-- The library that reads and writes messages. Nothing is assumed of it but that it returns,
not even that it reads what it has written. Where it panics on malformed options itself, the
code that called it does not go on, and no run of the model speaks of it. -/
structure Codec where
  decode : List U8 → Option Message
  encode : Message → Option (List U8)

namespace Message

variable (msg : Message)

/-- The first option of a kind, as `get` returns it. -/
def statusCode : Option U16 :=
  msg.opts.findSome? fun
    | .statusCode status _ => some status
    | _ => none

def serverUnicast : Option Ipv6Addr :=
  msg.opts.findSome? fun
    | .serverUnicast addr => some addr
    | _ => none

def extractServerDuid : Option (List U8) :=
  msg.opts.findSome? fun
    | .serverId duid => some duid
    | _ => none

def extractIaPd : Option IaPd :=
  msg.opts.findSome? fun
    | .iaPd iaPd => some iaPd
    | _ => none

/-- A status other than success is an error. -/
def Failed : Prop := ∃ status ∈ msg.statusCode, status ≠ statusSuccess

instance : Decidable msg.Failed :=
  decidable_of_iff (msg.statusCode.any (· ≠ statusSuccess)) (by
    cases h : msg.statusCode with
    | none => simp [Failed, h]
    | some status => simp [Failed, h])

/-- Payload of the first S46 container. -/
def s46ContMape : Option (List U8) :=
  msg.opts.findSome? fun
    | .unknown code data => if code = optS46ContMape then some data else none
    | _ => none

end Message

end Mapecd
