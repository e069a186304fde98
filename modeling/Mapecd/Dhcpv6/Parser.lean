import Mapecd.Error
import Mapecd.Map.Network
import Mapecd.Semantics.Bytes

/-! The parser of the S46 container of a DHCPv6 message. -/
namespace Mapecd

open Checked Bytes

/-- A parser that may also fail with an error. -/
abbrev Parse (α : Type) := ExceptT MapEError Result α

def optS46Rule : U16 := 89
def optS46Br : U16 := 90
def optS46Portparams : U16 := 93

/-- Codes and data of a TLV sequence, up to the first option that is cut off. -/
def iterOpts : List U8 → List (U16 × List U8)
  | c₁ :: c₀ :: l₁ :: l₀ :: rest =>
      let len := (l₁ ++ l₀).toNat
      if len ≤ rest.length then (c₁ ++ c₀, rest.take len) :: iterOpts (rest.drop len) else []
  | _ => []
termination_by payload => payload.length
decreasing_by
  simp only [List.length_cons, List.length_drop]
  omega

def parseS46Br (data : List U8) : Option Ipv6Addr :=
  if data.length < 16 then none else some (ofBe 128 (data.take 16))

/-- One option behind the prefixes. The PSID of the option is not stored. -/
def scanPortParams (portParams : PortParams) : U16 × List U8 → PortParams
  | (code, psidOffset :: psidLength :: _ :: _ :: _) =>
      if code = optS46Portparams then ⟨psidOffset, psidLength⟩ else portParams
  | _ => portParams

/-- `map_err` to an error with this text. -/
def orInvalid {α : Type} (result : Option α) (text : String) : Parse α :=
  match result with
  | some a => return a
  | none => throw (.invalidConfig text)

/-- The early return of an error with this text. -/
def failIf (condition : Prop) [Decidable condition] (text : String) : Parse Unit :=
  if condition then throw (.invalidConfig text) else return ()

/-- The bytes of a prefix, copied to the front of a zeroed array of `size` bytes. -/
def readPrefix (payload : List U8) (pos prefixLen size : Nat) (truncated : String) :
    Parse (List U8) := do
  let bytesLen := (prefixLen + 7) / 8
  failIf (pos + bytesLen > payload.length) truncated
  let raw ← slice payload pos (pos + bytesLen)
  return raw ++ List.replicate (size - bytesLen) 0

def parseS46Rule (payload : List U8) (brAddr : Ipv6Addr) : Parse MapRule := do
  failIf (payload.length < 3) "S46_RULE payload too short"
  let flags ← index payload 0
  let isFmr := decide (flags &&& 0x01 ≠ 0)
  let eaLength ← index payload 1
  let prefix4Len ← index payload 2
  failIf (prefix4Len > 32) s!"S46_RULE prefix4-len {prefix4Len.toNat} > 32"
  let ipv4Raw ← readPrefix payload 3 prefix4Len.toNat 4 "S46_RULE payload truncated at IPv4 prefix"
  let pos := 3 + (prefix4Len.toNat + 7) / 8
  let ipv4Prefix ← orInvalid (Ipv4Net.new (ofBe 32 ipv4Raw) prefix4Len)
    "S46_RULE invalid IPv4 prefix: invalid IP prefix length"
  failIf (pos ≥ payload.length) "S46_RULE payload truncated at prefix6-len"
  let prefix6Len ← index payload pos
  let pos := pos + 1
  failIf (prefix6Len > 128) s!"S46_RULE prefix6-len {prefix6Len.toNat} > 128"
  let ipv6Raw ← readPrefix payload pos prefix6Len.toNat 16
    "S46_RULE payload truncated at IPv6 prefix"
  let pos := pos + (prefix6Len.toNat + 7) / 8
  let ipv6Prefix ← orInvalid (Ipv6Net.new (ofBe 128 ipv6Raw) prefix6Len)
    "S46_RULE invalid IPv6 prefix: invalid IP prefix length"
  let rest ← slice payload pos payload.length
  return {
    ipv6Prefix := ipv6Prefix.trunc
    ipv4Prefix := ipv4Prefix.trunc
    eaLength := eaLength
    isFmr := isFmr
    brAddress := brAddr
    portParams := (iterOpts rest).foldl scanPortParams .default }

/-- What the scan of the container has found so far. -/
structure ContainerScan where
  brAddr : Option Ipv6Addr
  rulePayloads : List (List U8)

/-- The first readable BR address is kept, and every rule. -/
def ContainerScan.push (scan : ContainerScan) : U16 × List U8 → ContainerScan
  | (code, data) =>
      if code = optS46Br then
        match scan.brAddr with
        | none => { scan with brAddr := parseS46Br data }
        | some _ => scan
      else if code = optS46Rule then
        { scan with rulePayloads := scan.rulePayloads ++ [data] }
      else
        scan

def parseS46ContMape (payload : List U8) : Parse (List MapRule) := do
  let scan := (iterOpts payload).foldl ContainerScan.push ⟨none, []⟩
  match scan.brAddr with
  | none => throw .missingBrAddress
  | some br => scan.rulePayloads.mapM fun payload => parseS46Rule payload br

theorem iterOpts_nil : iterOpts [] = [] := by
  rw [iterOpts]
  simp

theorem iterOpts_cons (c₁ c₀ l₁ l₀ : U8) (rest : List U8) :
    iterOpts (c₁ :: c₀ :: l₁ :: l₀ :: rest) =
      if (l₁ ++ l₀).toNat ≤ rest.length then
        (c₁ ++ c₀, rest.take (l₁ ++ l₀).toNat) :: iterOpts (rest.drop (l₁ ++ l₀).toNat)
      else [] := by
  rw [iterOpts]

section Layout

/-- A prefix whose bytes are there is read as they stand. -/
theorem readPrefix_eq (before : List U8) {raw after : List U8} {pos prefixLen : Nat} (size : Nat)
    (truncated : String) (hPos : pos = before.length) (hRaw : raw.length = (prefixLen + 7) / 8) :
    readPrefix (before ++ (raw ++ after)) pos prefixLen size truncated =
      pure (raw ++ List.replicate (size - raw.length) 0) := by
  subst hPos
  have hSlice : slice (before ++ (raw ++ after)) before.length (before.length + raw.length) =
      some raw := by
    rw [slice_append_right rfl (by rw [List.length_append]; omega), List.take_left]
  have hFits : ¬ before.length + raw.length > (before ++ (raw ++ after)).length := by
    rw [List.length_append, List.length_append]
    omega
  simp only [readPrefix, failIf, ← hRaw, if_neg hFits, hSlice]
  rfl

/-- What the parser makes of a payload whose parts have the lengths it expects. -/
theorem parseS46Rule_eq {flags eaLength prefix4Len prefix6Len : U8} {ipv4 ipv6 rest : List U8}
    (brAddr : Ipv6Addr) (h4 : prefix4Len.toNat ≤ 32) (h6 : prefix6Len.toNat ≤ 128)
    (hIpv4 : ipv4.length = (prefix4Len.toNat + 7) / 8)
    (hIpv6 : ipv6.length = (prefix6Len.toNat + 7) / 8) :
    parseS46Rule (flags :: eaLength :: prefix4Len :: (ipv4 ++ prefix6Len :: (ipv6 ++ rest))) brAddr =
      pure
        { ipv6Prefix := Ipv6Net.trunc
            ⟨ofBe 128 (ipv6 ++ List.replicate (16 - ipv6.length) 0), prefix6Len, h6⟩
          ipv4Prefix := Ipv4Net.trunc
            ⟨ofBe 32 (ipv4 ++ List.replicate (4 - ipv4.length) 0), prefix4Len, h4⟩
          eaLength := eaLength
          isFmr := decide (flags &&& 0x01 ≠ 0)
          brAddress := brAddr
          portParams := (iterOpts rest).foldl scanPortParams .default } := by
  let payload := flags :: eaLength :: prefix4Len :: (ipv4 ++ prefix6Len :: (ipv6 ++ rest))
  let head := [flags, eaLength, prefix4Len]
  have hTail : payload = (head ++ ipv4 ++ [prefix6Len]) ++ (ipv6 ++ rest) := by
    simp [payload, head]
  have hEnd : payload = (head ++ ipv4 ++ [prefix6Len] ++ ipv6) ++ rest := by
    simp [payload, head]
  have hRead4 : readPrefix payload 3 prefix4Len.toNat 4 "S46_RULE payload truncated at IPv4 prefix" =
      pure (ipv4 ++ List.replicate (4 - ipv4.length) 0) := readPrefix_eq head 4 _ rfl hIpv4
  have hRead6 : readPrefix payload (3 + ipv4.length + 1) prefix6Len.toNat 16
        "S46_RULE payload truncated at IPv6 prefix" =
      pure (ipv6 ++ List.replicate (16 - ipv6.length) 0) := by
    rw [hTail]
    exact readPrefix_eq _ 16 _ (by simp [head]; omega) hIpv6
  have hIndex : index payload (3 + ipv4.length) = some prefix6Len := by
    have hHead : (head ++ ipv4).length = 3 + ipv4.length := by
      rw [List.length_append]
      rfl
    have hSplit : payload = (head ++ ipv4) ++ (prefix6Len :: (ipv6 ++ rest)) := by
      simp [payload, head]
    rw [hSplit, index_append_right (Nat.le_of_eq hHead), hHead, Nat.sub_self]
    rfl
  have hRest : slice payload (3 + ipv4.length + 1 + ipv6.length) payload.length = some rest := by
    have hLength : (head ++ ipv4 ++ [prefix6Len] ++ ipv6).length = 3 + ipv4.length + 1 + ipv6.length := by
      simp [head]
      omega
    rw [slice_full _ _ (by rw [hEnd, List.length_append, hLength]; omega), hEnd, ← hLength,
      List.drop_left]
  have hShort : ¬ payload.length < 3 := by simp [payload]
  have hMore : ¬ 3 + ipv4.length ≥ payload.length := by
    simp [payload]
    omega
  have hLe4 : ¬ prefix4Len > 32 := by
    rw [gt_iff_lt, BitVec.lt_def]
    exact Nat.not_lt.mpr h4
  have hLe6 : ¬ prefix6Len > 128 := by
    rw [gt_iff_lt, BitVec.lt_def]
    exact Nat.not_lt.mpr h6
  have hFlags : index payload 0 = some flags := rfl
  have hEaLength : index payload 1 = some eaLength := rfl
  have hLen4 : index payload 2 = some prefix4Len := rfl
  have hNet4 (addr : Ipv4Addr) : Ipv4Net.new addr prefix4Len = some ⟨addr, prefix4Len, h4⟩ :=
    dif_pos h4
  have hNet6 (addr : Ipv6Addr) : Ipv6Net.new addr prefix6Len = some ⟨addr, prefix6Len, h6⟩ :=
    dif_pos h6
  have hLift {α : Type} (a : α) : (liftM (some a : Result α) : Parse α) = pure a := rfl
  change parseS46Rule payload brAddr = _
  simp only [parseS46Rule, failIf, if_neg hShort, hFlags, hEaLength, hLen4, hLift, pure_bind,
    if_neg hLe4, hRead4, ← hIpv4, hNet4, orInvalid, if_neg hMore, hIndex, if_neg hLe6, hRead6,
    ← hIpv6, hNet6, hRest]

end Layout

section Total

/-- The parser returns or fails, but does not panic. -/
def Total {α : Type} (parser : Parse α) : Prop := parser.run ≠ none

variable {α β : Type} {payload : List U8}

theorem Total.pure (a : α) : Total (Pure.pure a : Parse α) := fun h => by cases h

theorem Total.throw (e : MapEError) : Total (throw e : Parse α) := fun h => by cases h

/-- A parser that never panics goes on with such parsers. -/
theorem Total.bind {parser : Parse α} {next : α → Parse β} (h : Total parser)
    (hNext : ∀ a, Total (next a)) : Total (parser >>= next) := by
  intro hNone
  cases hRun : parser.run with
  | none => exact h hRun
  | some result =>
      cases result with
      | error e => simp [ExceptT.run_bind, hRun] at hNone
      | ok a =>
          simp only [ExceptT.run_bind, hRun, Option.bind_eq_bind, Option.bind_some] at hNone
          exact hNext a hNone

theorem Total.orInvalid (result : Option α) (text : String) : Total (orInvalid result text) := by
  cases result with
  | none => exact Total.throw _
  | some a => exact Total.pure a

/-- Behind the check its negation holds. -/
theorem Total.failIf {condition : Prop} [Decidable condition] {text : String} {next : Unit → Parse β}
    (h : ¬ condition → Total (next ())) : Total (failIf condition text >>= next) := by
  by_cases hCondition : condition
  · rw [Mapecd.failIf, if_pos hCondition]
    exact Total.throw _
  · rw [Mapecd.failIf, if_neg hCondition]
    exact h hCondition

theorem Total.lift {result : Result α} (h : result.isSome) : Total (liftM result : Parse α) := by
  obtain ⟨a, rfl⟩ := Option.isSome_iff_exists.mp h
  exact Total.pure a

theorem Total.index {pos : Nat} (h : pos < payload.length) :
    Total (liftM (index payload pos) : Parse U8) :=
  Total.lift (by simp [Bytes.index, h])

/-- A prefix that was read does not end behind the payload. -/
theorem Total.readPrefix {pos prefixLen size : Nat} {truncated : String} {next : List U8 → Parse β}
    (h : pos + (prefixLen + 7) / 8 ≤ payload.length → ∀ raw, Total (next raw)) :
    Total (readPrefix payload pos prefixLen size truncated >>= next) := by
  simp only [Mapecd.readPrefix, bind_assoc, pure_bind]
  apply Total.failIf
  intro hFits
  have hLe := Nat.le_of_not_lt hFits
  exact Total.bind (Total.lift (by simp [slice, hLe])) fun raw => h hLe _

/-- Each index and slice of the payload is behind a check of its length. -/
theorem parseS46Rule_total (brAddr : Ipv6Addr) : Total (parseS46Rule payload brAddr) := by
  unfold parseS46Rule
  apply Total.failIf
  intro hShort
  refine Total.bind (Total.index (by omega)) fun flags => ?_
  refine Total.bind (Total.index (by omega)) fun eaLength => ?_
  refine Total.bind (Total.index (by omega)) fun prefix4Len => ?_
  apply Total.failIf
  intro _
  apply Total.readPrefix
  intro _ ipv4Raw
  refine Total.bind (Total.orInvalid _ _) fun ipv4Prefix => ?_
  apply Total.failIf
  intro hMore
  refine Total.bind (Total.index (by omega)) fun prefix6Len => ?_
  apply Total.failIf
  intro _
  apply Total.readPrefix
  intro hEnd ipv6Raw
  refine Total.bind (Total.orInvalid _ _) fun ipv6Prefix => ?_
  exact Total.bind (Total.lift (by simp [slice, hEnd])) fun rest => Total.pure _

theorem Total.mapM {parser : α → Parse β} (h : ∀ a, Total (parser a)) (items : List α) :
    Total (items.mapM parser) := by
  induction items with
  | nil => exact Total.pure _
  | cons a items ih =>
      rw [List.mapM_cons]
      exact Total.bind (h a) fun b => Total.bind ih fun rest => Total.pure _

/-- No container makes the parser panic. -/
theorem parseS46ContMape_total (payload : List U8) : Total (parseS46ContMape payload) := by
  cases hBr : ((iterOpts payload).foldl ContainerScan.push ⟨none, []⟩).brAddr with
  | none =>
      simp only [parseS46ContMape, hBr]
      exact Total.throw _
  | some br =>
      simp only [parseS46ContMape, hBr]
      exact Total.mapM (fun rulePayload => parseS46Rule_total br) _

end Total

end Mapecd
