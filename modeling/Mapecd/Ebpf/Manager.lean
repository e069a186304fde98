import Mapecd.Daemon.State

/-! Loading the BPF object, attaching the two programs and writing `CONFIG_MAP`.
A manager that goes out of scope closes its object. -/
namespace Mapecd

open Effects Checked

/-- `None` of `try_new` becomes an error. -/
def psidConfigFromParams (params : MapeParams) : Result (Except MapEError PsidConfig) := do
  match ← PsidConfig.tryNew params.rule.portParams.psidOffset params.rule.portParams.psidLength
      params.psid with
  | some cfg => return .ok cfg
  | none => return .error (.ebpfError "invalid PSID params" none)

theorem psidConfigFromParams_isSome (params : MapeParams) :
    (psidConfigFromParams params).isSome := by
  obtain ⟨result, hNew, -⟩ := PsidConfig.tryNew_total params.rule.portParams.psidOffset
    params.rule.portParams.psidLength params.psid
  rw [psidConfigFromParams, hNew]
  cases result <;> rfl

def ofExcept {α : Type} (x : Except MapEError α) : DaemonM α :=
  match x with
  | .ok a => return a
  | .error e => fail e

/-- An error of `x` drops the owner of the object. -/
def orDrop {α : Type} (id : Nat) (x : DaemonM α) : DaemonM α := do
  match ← attempt x with
  | .ok a => return a
  | .error e =>
      internal (Kernel.dropBpf id)
      fail e

namespace EbpfManager

def setConfigMap (id : Nat) (config : PsidConfig) : DaemonM Unit :=
  request (.ebpfError "CONFIG_MAP set failed") (Kernel.setConfigMap id config)

def load (config : PsidConfig) : DaemonM EbpfManager := do
  let id ← request (.ebpfError "failed to load BPF ELF") Kernel.loadBpf
  orDrop id (setConfigMap id config)
  return { id := id, interface := none, egressLinkId := none, ingressLinkId := none }

/-- The result of adding the qdisc is ignored: it may be there already. -/
def linkTc (manager : EbpfManager) (interface : String) : DaemonM EbpfManager := do
  ignore (request (.ebpfError "clsact") (Kernel.addClsact interface))
  request (.ebpfError "tc_egress load failed") Kernel.loadProgram
  let egressLinkId ← request (.ebpfError "tc_egress attach failed")
    (Kernel.attachTc manager.id .egress interface)
  request (.ebpfError "tc_ingress load failed") Kernel.loadProgram
  let ingressLinkId ← request (.ebpfError "tc_ingress attach failed")
    (Kernel.attachTc manager.id .ingress interface)
  return { manager with
    interface := some interface
    egressLinkId := some egressLinkId
    ingressLinkId := some ingressLinkId }

def updateConfig (manager : EbpfManager) (config : PsidConfig) : DaemonM Unit :=
  setConfigMap manager.id config

def detach (id : Nat) (attachType : TcAttachType) (linkId : Option Nat) : DaemonM Unit := do
  if linkId.isSome then
    ignore (request (.ebpfError "detach") (Kernel.detachTc id attachType))

/-- Detach both filters. Errors are ignored. -/
def unlinkTc (manager : EbpfManager) : DaemonM Unit := do
  detach manager.id .egress manager.egressLinkId
  detach manager.id .ingress manager.ingressLinkId

end EbpfManager

/-- `unlink_tc` on a manager taken out of the state, which is dropped afterwards. -/
def unlinkAndDrop (manager : EbpfManager) : DaemonM Unit := do
  ignore manager.unlinkTc
  internal (Kernel.dropBpf manager.id)

end Mapecd
