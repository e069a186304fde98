import Mapecd.Daemon.Lifecycle

/-! The event loop. -/
namespace Mapecd

open Effects Checked

/-- What the DHCPv6 client, the capture and the lease watcher send. -/
inductive DaemonEvent where
  | iaPdReceived (iaPd : Ipv6Net)
  | both (rules : List MapRule) (iaPd : Ipv6Net)
  | lease (iaPd : Ipv6Net)

def isValidIaPdForStaticRules (iaPd : Ipv6Net) : Bool := iaPd.prefixLen = 56

def ceFormat (config : Config) : CeFormat :=
  if config.useV6plusStaticRules then .v6Plus else .rfc7597

def clearParams : DaemonM Unit := modifyState fun state => { state with params := none }

/-- `apply`, and on an error `cleanup` with the same parameters. -/
def applyOrCleanup (config : Config) (params : MapeParams) : DaemonM Unit := do
  match ← attempt (apply config params) with
  | .ok () => pure ()
  | .error _ =>
      cleanup config params
      clearParams

/-- A failed update is cleaned up by the new parameters. -/
def updateOrCleanup (config : Config) (old new : MapeParams) : DaemonM Unit := do
  match ← attempt (update config old new) with
  | .ok () => pure ()
  | .error _ =>
      cleanup config new
      clearParams

/-- What follows a successful computation. -/
def applyNew (config : Config) (oldParams : Option MapeParams) (newParams : MapeParams) :
    DaemonM Unit := do
  if (← getState).tunnelIfindex.isSome then
    match oldParams with
    | some old =>
        if hasChanged old newParams then
          if old.rule.portParams ≠ newParams.rule.portParams then
            cleanup config old
            applyOrCleanup config newParams
          else
            updateOrCleanup config old newParams
    | none =>
        cleanup config newParams
        applyOrCleanup config newParams
  else
    applyOrCleanup config newParams

/-- The old parameters are kept aside before they are overwritten. -/
def applyIfReady (config : Config) : DaemonM Unit := do
  let oldParams := (← getState).params
  match ← attempt (tryCompute (ceFormat config)) with
  | .ok true =>
      match (← getState).params with
      | some newParams => applyNew config oldParams newParams
      | none => pure ()
  | .ok false => pure ()
  | .error _ => pure ()

def setPendingIaPd (iaPd : Ipv6Net) : DaemonM Unit :=
  modifyState fun state => { state with pendingIaPd := some iaPd }

/-- In static mode other lengths than 56 are ignored. -/
def handleIaPd (config : Config) (iaPd : Ipv6Net) : DaemonM Unit := do
  if config.useV6plusStaticRules && !isValidIaPdForStaticRules iaPd then
    pure ()
  else
    setPendingIaPd iaPd
    applyIfReady config

def saveRulesCache (rules : List MapRule) : DaemonM Unit :=
  request (.netlinkError "MAP rules cache save") (Kernel.writeRulesCache rules)

/-- In static mode the received rules are not used. -/
def handleBoth (config : Config) (rules : List MapRule) (iaPd : Ipv6Net) : DaemonM Unit := do
  if config.useV6plusStaticRules then
    if !isValidIaPdForStaticRules iaPd then
      pure ()
    else
      setPendingIaPd iaPd
      applyIfReady config
  else
    ignore (saveRulesCache rules)
    modifyState fun state => { state with pendingMapRules := some rules }
    setPendingIaPd iaPd
    applyIfReady config

def handleEvent (config : Config) : DaemonEvent → DaemonM Unit
  | .iaPdReceived iaPd => handleIaPd config iaPd
  | .both rules iaPd => handleBoth config rules iaPd
  | .lease iaPd => handleIaPd config iaPd

/-- After SIGTERM or SIGINT. -/
def shutdown (config : Config) : DaemonM Unit := do
  match (← getState).params with
  | some params => cleanup config params
  | none => pure ()

/-- The state before the first event: static rules, cached rules or none. -/
def initialState (rules : Option (List MapRule)) : DaemonState :=
  { DaemonState.new with pendingMapRules := rules }

def initialWorld (kernel : Kernel) (faults : Nat → Option Errno) (rules : Option (List MapRule)) :
    DaemonWorld :=
  { sys := kernel, state := initialState rules, faults := faults, issued := 0, history := [kernel] }

def run (config : Config) (events : List DaemonEvent) : DaemonM Unit :=
  events.forM (handleEvent config)

end Mapecd
