import Mapecd.Kernel.State
import Mapecd.Map.Calc

/-! The state of the daemon and the monad of its operations. -/
namespace Mapecd

open Effects Checked

/-- Configuration file after `validate`. -/
structure Config where
  upstreamInterface : String
  tunnelInterface : String
  tunnelMtu : Option Nat
  useV6plusStaticRules : Bool
  interfaces_ne : upstreamInterface ≠ tunnelInterface
  tunnelMtu_range : ∀ mtu ∈ tunnelMtu, 1280 ≤ mtu ∧ mtu ≤ 65535

/-- The configuration file of the distribution. -/
def Config.contrib : Config :=
  { upstreamInterface := "eth0", tunnelInterface := "mape0", tunnelMtu := none
    useV6plusStaticRules := false, interfaces_ne := by decide, tunnelMtu_range := nofun }

/-- Owner of a loaded BPF object. The link ids are present while the filters
are attached. -/
structure EbpfManager where
  id : Nat
  interface : Option String
  egressLinkId : Option Nat
  ingressLinkId : Option Nat
deriving DecidableEq, Repr

/-- What `start_linux` keeps from event to event. -/
structure DaemonState where
  pendingMapRules : Option (List MapRule)
  pendingIaPd : Option Ipv6Net
  params : Option MapeParams
  tunnelIfindex : Option Nat
  originalIpForward : Option String
  originalIpv6Forward : Option String
  ebpf : Option EbpfManager

def DaemonState.new : DaemonState :=
  { pendingMapRules := none, pendingIaPd := none, params := none, tunnelIfindex := none
    originalIpForward := none, originalIpv6Forward := none, ebpf := none }

abbrev DaemonWorld := World Kernel DaemonState Errno
abbrev DaemonM (α : Type) := Program MapEError DaemonWorld α

def request {α : Type} (toError : Option Errno → MapEError) (op : Operation Kernel Errno α) :
    DaemonM α :=
  mapErr (fun e => toError (some e)) (issue op)

/-- The first rule that contains the prefix and whose parameters can be computed. -/
def firstMatch (cePrefix : Ipv6Net) (format : CeFormat) :
    List MapRule → Result (Except MapEError MapeParams)
  | [] => some (.error .noPrefixMatch)
  | rule :: rules =>
      if rule.ipv6Prefix.Contains cePrefix.addr then do
        match ← computeMapeParams cePrefix rule format with
        | .ok params => return .ok params
        | .error _ => firstMatch cePrefix format rules
      else
        firstMatch cePrefix format rules

/-- `Ok(true)` with the new parameters, `Ok(false)` or the error. -/
def DaemonState.compute (state : DaemonState) (format : CeFormat) :
    Result (Except MapEError (Option MapeParams)) :=
  match state.pendingMapRules, state.pendingIaPd with
  | some (rule :: rules), some cePrefix => do
      match ← firstMatch cePrefix format (rule :: rules) with
      | .ok params => return .ok (some params)
      | .error e => return .error e
  | _, _ => some (.ok none)

section Compute

variable {cePrefix : Ipv6Net} {format : CeFormat} {rules : List MapRule} {params : MapeParams}

/-- The loop returns what it has computed from a rule of the list that contains the
prefix. -/
theorem firstMatch_ok_spec (h : firstMatch cePrefix format rules = some (.ok params)) :
    params.rule ∈ rules ∧ params.rule.ipv6Prefix.Contains cePrefix.addr ∧
      computeMapeParams cePrefix params.rule format = some (.ok params) := by
  induction rules with
  | nil => cases h
  | cons rule rules ih =>
      have hLater (h : firstMatch cePrefix format rules = some (.ok params)) :
          params.rule ∈ rule :: rules ∧ params.rule.ipv6Prefix.Contains cePrefix.addr ∧
            computeMapeParams cePrefix params.rule format = some (.ok params) := by
        obtain ⟨hMem, hSpec⟩ := ih h
        exact ⟨List.mem_cons_of_mem _ hMem, hSpec⟩
      unfold firstMatch at h
      split_ifs at h with hContains
      · simp only [Option.bind_eq_bind, Option.bind_eq_some_iff] at h
        obtain ⟨result, hResult, h⟩ := h
        cases result with
        | error e => exact hLater h
        | ok computed =>
            cases h
            obtain ⟨-, -, -, -, -, hRule⟩ := computeMapeParams_steps hResult
            rw [hRule]
            exact ⟨List.mem_cons_self, hContains, hResult⟩
      · exact hLater h

/-- The result is that of the first rule that computes for the pending prefix. -/
theorem DaemonState.compute_ok_iff {state : DaemonState} :
    state.compute format = some (.ok (some params)) ↔
      ∃ rules cePrefix, state.pendingMapRules = some rules ∧ state.pendingIaPd = some cePrefix ∧
        firstMatch cePrefix format rules = some (.ok params) := by
  rw [DaemonState.compute]
  split
  · rename_i rule rules cePrefix hRules hIaPd
    rw [hRules, hIaPd]
    simp only [Option.some.injEq, exists_and_left, exists_eq_left']
    cases firstMatch cePrefix format (rule :: rules) with
    | none => simp
    | some result => cases result <;> simp
  · rename_i hOther
    refine iff_of_false (by simp) ?_
    rintro ⟨rules, cePrefix, hRules, hIaPd, hMatch⟩
    cases rules with
    | nil => cases hMatch
    | cons rule rules => exact hOther rule rules cePrefix hRules hIaPd

end Compute

/-- Store the computed parameters, if there are any. -/
def tryCompute (format : CeFormat) : DaemonM Bool := do
  let state ← getState
  match ← checked (state.compute format) with
  | .ok (some params) =>
      modifyState fun state => { state with params := some params }
      return true
  | .ok none => return false
  | .error e => fail e

end Mapecd
