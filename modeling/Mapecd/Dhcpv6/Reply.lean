import Mapecd.Dhcpv6.Message

/-! What is read from a Reply. -/
namespace Mapecd

open Checked

/-- The rules are part of the event where there was a container. -/
inductive DhcpV6Event where
  | iaPdReceived (iaPd : Ipv6Net)
  | both (rules : List MapRule) (iaPd : Ipv6Net)
deriving DecidableEq

/-- The prefix and the completed timers. -/
structure IaPdInfo where
  cePrefix : Ipv6Net
  t1 : U32
  t2 : U32
  validLifetime : U32

/-- The largest number of seconds stands for an infinite lifetime. -/
def infiniteLifetime : U32 := BitVec.allOnes 32

/-- The default of a timer that is zero: one half of the lifetime for the
divisor 2, four fifths otherwise. -/
def complementTimer (timer validLifetime : U32) (divisor : Nat) : U32 :=
  if timer ≠ 0 then
    timer
  else if validLifetime = infiniteLifetime then
    infiniteLifetime
  else if divisor = 2 then
    validLifetime / 2
  else
    (validLifetime.setWidth 64 * 4 / 5 : BitVec 64).setWidth 32

/-- The first IA_PD with the given id, or else the first one. -/
def findIaPd (opts : List DhcpOption) (iaid : Option U32) : Option IaPd :=
  let iaPds := opts.filterMap fun
    | .iaPd iaPd => some iaPd
    | _ => none
  (iaPds.find? fun iaPd => iaid = some iaPd.id).orElse fun _ => iaPds.head?

def buildIaPrefix (iaPrefix : IaPrefix) : Option Ipv6Net :=
  (Ipv6Net.new iaPrefix.prefixIp iaPrefix.prefixLen).map Ipv6Net.trunc

namespace IaPd

variable (iaPd : IaPd)

def firstPrefix : Option IaPrefix :=
  iaPd.opts.findSome? fun
    | .iaPrefix iaPrefix => some iaPrefix
    | _ => none

/-- No status of the IA_PD is an error. -/
def succeeded : Bool :=
  iaPd.opts.all fun
    | .statusCode status _ => status = statusSuccess
    | _ => true

end IaPd

variable (codec : Codec)

/-- Timers that are zero are completed from the lifetime. -/
def parseIaPdInfo (data : List U8) (iaid : Option U32) : Option IaPdInfo := do
  let msg ← codec.decode data
  let iaPd ← findIaPd msg.opts iaid
  let iaPrefix ← iaPd.firstPrefix
  if !iaPd.succeeded then
    none
  else
    let cePrefix ← buildIaPrefix iaPrefix
    some {
      cePrefix := cePrefix
      t1 := complementTimer iaPd.t1 iaPrefix.validLifetime 2
      t2 := complementTimer iaPd.t2 iaPrefix.validLifetime 5
      validLifetime := iaPrefix.validLifetime }

def parseIaPd (data : List U8) (iaid : Option U32) : Option Ipv6Net :=
  (parseIaPdInfo codec data iaid).map IaPdInfo.cePrefix

/-- `none` without a container, also when the message cannot be decoded. -/
def parseMapeContainer (data : List U8) : Parse (Option (List MapRule)) :=
  match codec.decode data with
  | none => return none
  | some msg =>
      match msg.s46ContMape with
      | none => return none
      | some payload => do return some (← parseS46ContMape payload)

/-- What the client keeps of a Reply. -/
structure LeaseInfo where
  cePrefix : Ipv6Net
  t1 : U32
  t2 : U32
  validLifetime : U32
  rules : List MapRule
  serverDuid : List U8
  /-- Address of the server, at port 547. -/
  serverUnicast : Option Ipv6Addr
  iaPdForRelease : IaPd
deriving DecidableEq

/-- Why a Reply is not accepted. -/
inductive ReplyError where
  | decodeFailed
  | statusCode (status : U16)
  | iaPdNotFound
deriving DecidableEq, Repr

/-- Rules of the Reply. Without a readable container there are none. -/
def replyRules (data : List U8) : Result (List MapRule) := do
  match ← (parseMapeContainer codec data).run with
  | .ok (some rules) => return rules
  | .ok none => return []
  | .error _ => return []

/-- The Reply is decoded again for each part that is read from it. -/
def processReply (data : List U8) (iaid : U32) (serverDuid : List U8) :
    Result (Except ReplyError LeaseInfo) := do
  match codec.decode data with
  | none => return .error .decodeFailed
  | some msg =>
      if msg.Failed then
        return .error (.statusCode (msg.statusCode.getD statusSuccess))
      else
        match parseIaPdInfo codec data (some iaid) with
        | none => return .error .iaPdNotFound
        | some info =>
            let rules ← replyRules codec data
            return .ok {
              cePrefix := info.cePrefix
              t1 := info.t1
              t2 := info.t2
              validLifetime := info.validLifetime
              rules := rules
              serverDuid := serverDuid
              serverUnicast := msg.serverUnicast
              iaPdForRelease := { id := iaid, t1 := info.t1, t2 := info.t2, opts := [] } }

section Total

/-- No container panics, however it is cut off. -/
theorem parseMapeContainer_total (data : List U8) : Total (parseMapeContainer codec data) := by
  cases hDecode : codec.decode data with
  | none =>
      simp only [parseMapeContainer, hDecode]
      exact Total.pure _
  | some msg =>
      cases hContainer : msg.s46ContMape with
      | none =>
          simp only [parseMapeContainer, hDecode, hContainer]
          exact Total.pure _
      | some payload =>
          simp only [parseMapeContainer, hDecode, hContainer]
          exact Total.bind (parseS46ContMape_total payload) fun rules => Total.pure _

/-- A container that cannot be read is an error, which counts as no rules. -/
theorem exists_replyRules (data : List U8) : ∃ rules, replyRules codec data = some rules := by
  cases hRun : (parseMapeContainer codec data).run with
  | none => exact absurd hRun (parseMapeContainer_total codec data)
  | some result =>
      cases result with
      | error e => exact ⟨[], by simp [replyRules, hRun]⟩
      | ok container =>
          cases container with
          | none => exact ⟨[], by simp [replyRules, hRun]⟩
          | some rules => exact ⟨rules, by simp [replyRules, hRun]⟩

/-- No Reply makes the client panic. -/
theorem processReply_isSome (data : List U8) (iaid : U32) (serverDuid : List U8) :
    (processReply codec data iaid serverDuid).isSome := by
  obtain ⟨rules, hRules⟩ := exists_replyRules codec data
  cases hDecode : codec.decode data with
  | none => simp [processReply, hDecode]
  | some msg =>
      by_cases hFailed : msg.Failed
      · simp [processReply, hDecode, hFailed]
      · cases hInfo : parseIaPdInfo codec data (some iaid) with
        | none => simp [processReply, hDecode, hFailed, hInfo]
        | some info => simp [processReply, hDecode, hFailed, hInfo, hRules]

end Total

end Mapecd
