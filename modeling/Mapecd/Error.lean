import Mathlib.Tactic

/-! Error numbers of the kernel and the errors of the daemon. -/
namespace Mapecd

/-- The errors that the modelled requests answer with, and any other one that is
injected. -/
inductive Errno where
  | enodev
  | eexist
  | enoent
  | esrch
  | eaddrnotavail
  | other (code : Nat)
deriving DecidableEq, Repr

/-- The error texts are reduced to the operation that failed and the cause. -/
inductive MapEError where
  | invalidCePrefix
  | noPrefixMatch
  | missingBrAddress
  | emptyPortRanges
  | invalidConfig (text : String)
  | netlinkError (operation : String) (cause : Option Errno)
  | nftError (operation : String) (cause : Option Errno)
  | ebpfError (operation : String) (cause : Option Errno)
deriving DecidableEq, Repr

end Mapecd
