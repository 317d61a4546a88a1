import UnitreeGo2.PrivateWifi.Checks

/-!
# The rollback of the private Wi-Fi tool

The rollback restores the campus network first.  It activates the wired profile only where no
interface has the address of the host, and takes the profile down again where that does not lead
to one stable owner of the address.
-/

namespace UnitreeGo2.PrivateWifi

open Script (ask get modify raise tryCatch ensure loop)

def ROLLBACK_ATTEMPTS : ℕ := 3

def STABLE_OBSERVATIONS : ℕ := 4

def STABILITY_SAMPLE_LIMIT : ℕ := 10

def STABILITY_INTERVAL_S : ℚ := 1 / 4

def RUNTIME_RECHECK_INTERVAL_S : ℚ := 1

variable (lib : Library)

/-! ## Samples -/

/-- `_campus_active_sample`. -/
def campusActiveSample : Action Bool := do
  let state ← requireState
  let uuid ← activeUuid lib WIFI_INTERFACE "observe campus Wi-Fi restoration"
  if uuid ≠ state.campusUuid then return false
  else
    let output ← run defaultRouteArgv "observe campus default route restoration" QUERY_TIMEOUT_S
    return decide (lib.strip output ≠ "")

/-- `_campus_without_host_sample`. -/
def campusWithoutHostSample : Action Bool := do
  let active ← campusActiveSample lib
  if active then
    let records ← allIpv4Addresses lib
    return decide (hostOwners records = [])
  else return false

/-- The call of a check that may raise a `SwitchError`, as a value. -/
def succeeds (result : Except Raised Unit) : Bool :=
  match result with
  | .ok () => true
  | .error _ => false

/-- `_fully_restored_sample`. -/
def fullyRestoredSample : Action Bool := do
  let state ← requireState
  let active ← campusActiveSample lib
  if active = false then return false
  else
    let uuid ← activeUuid lib WIRED_INTERFACE "observe wired restoration"
    if uuid ≠ state.wiredUuid then return false
    else
      let records ← allIpv4Addresses lib
      return succeeds (requireExactHostOwner records WIRED_INTERFACE "rollback")

/-- `_no_host_owner_sample`. -/
def noHostOwnerSample : Action Bool := do
  let records ← allIpv4Addresses lib
  return decide (hostOwners records = [])

/-- `_wired_unique_sample`. -/
def wiredUniqueSample : Action Bool := do
  let state ← requireState
  tryCatch (do
      let wifi ← optionalActiveUuid lib WIFI_INTERFACE
        "observe fallback private Wi-Fi cancellation"
      if wifi = some state.targetUuid then return false
      else
        let wired ← activeUuid lib WIRED_INTERFACE "observe fallback wired restoration"
        if wired ≠ state.wiredUuid then return false
        else
          let records ← allIpv4Addresses lib
          check (requireExactHostOwner records WIRED_INTERFACE "fallback rollback")
          return true)
    fun error => if error.switchText.isSome then return false else raise error

/-- The rounds of `_wait_for_stable` from the one of that index. -/
def waitRounds (sample : Action Bool) : ℕ → ℕ → Action Bool
  | 0, _ => return false
  | left + 1, consecutive => do
    let valid ← tryCatch sample fun error =>
      if error.isException then return false else raise error
    let consecutive := if valid then consecutive + 1 else 0
    if STABLE_OBSERVATIONS ≤ consecutive then return true
    else if left = 0 then return false
    else
      let _ ← ask (.sleep STABILITY_INTERVAL_S)
      waitRounds sample left consecutive

/-- `_wait_for_stable`. -/
def waitForStable (sample : Action Bool) : Action Bool :=
  waitRounds sample STABILITY_SAMPLE_LIMIT 0

/-- `_best_effort`. -/
def bestEffort (action : Action Unit) : Action Unit :=
  tryCatch action fun error => if error.isException then return () else raise error

/-! ## The rollback -/

/-- One attempt, and whether it has restored everything. -/
def attempt (state : ConnectionState) : Action Bool := do
  bestEffort (activate state.campusUuid WIFI_INTERFACE "restore campus Wi-Fi")
  bestEffort (deactivate state.targetUuid "cancel private Wi-Fi activation during rollback")
  bestEffort (activate state.campusUuid WIFI_INTERFACE "reassert campus Wi-Fi during rollback")
  let free ← waitForStable (campusWithoutHostSample lib)
  if free = false then return false
  else
    bestEffort (activate state.wiredUuid WIRED_INTERFACE "restore go2-readonly wired profile")
    let restored ← waitForStable (fullyRestoredSample lib)
    if restored then return true
    else
      bestEffort (deactivate state.wiredUuid "remove unstable wired address during rollback")
      return false

def attempts (state : ConnectionState) : ℕ → Action Bool
  | 0 => return false
  | left + 1 => do
    let restored ← attempt lib state
    if restored then return true else attempts state left

/-- What follows attempts in vain, and whether the wired profile was restored safely. -/
def fallback (state : ConnectionState) : Action Bool := do
  bestEffort (activate state.campusUuid WIFI_INTERFACE "final campus Wi-Fi recovery attempt")
  bestEffort (deactivate state.targetUuid "final private Wi-Fi cancellation")
  bestEffort (activate state.campusUuid WIFI_INTERFACE "final campus Wi-Fi reassertion")
  let free ← waitForStable (noHostOwnerSample lib)
  let safe ← if free then (do
      bestEffort (activate state.wiredUuid WIRED_INTERFACE
        "fallback go2-readonly wired restoration")
      waitForStable (wiredUniqueSample lib)) else pure false
  if safe then return true
  else
    bestEffort (deactivate state.wiredUuid "remove unverified wired address")
    return false

/-- The text of an incomplete rollback. -/
def incomplete (wiredSafeFallback : Bool) : String :=
  "rollback did not restore stable campus Wi-Fi; " ++
    if wiredSafeFallback then "wired go2-readonly was restored with unique address ownership"
    else "wired restoration was blocked to prevent duplicate addresses"

/-- The deferred part of `rollback`: whether everything was restored, or else the wired profile. -/
def restore (state : ConnectionState) : Action (Bool × Bool) := do
  let restored ← attempts lib state ROLLBACK_ATTEMPTS
  if restored then return (true, false)
  else
    let wiredSafeFallback ← fallback lib state
    return (false, wiredSafeFallback)

def rollback : Action Unit := do
  let w ← get
  match w.state with
  | none => return ()
  | some state =>
    if w.rollbackArmed = false ∨ w.rollbackStarted = true then return ()
    else
      modify fun w => { w with rollbackStarted := true }
      let (restored, wiredSafeFallback) ← deferred (restore lib state)
      modify fun w => { w with rollbackArmed := false }
      if restored then return () else raise (.switchError (incomplete wiredSafeFallback))

/-! ## The tool -/

/-- Which of its modes the tool runs in. -/
inductive Mode where
  | preflight
  | execute (interactiveTarget : Bool)
  deriving DecidableEq, Repr

/-- The rounds while the private network is held. -/
def hold (deadline : ℚ) : Action Unit :=
  loop (fun _ => do
    let now ← ask .monotonic
    if now.time < deadline then
      let later ← ask .monotonic
      let _ ← ask (.sleep (min RUNTIME_RECHECK_INTERVAL_S (max 0 (deadline - later.time))))
      raiseIfPending
      validatePrivateState lib
      return .inl ()
    else return .inr ()) ()

/-- The part of `execute` that a rollback follows. -/
def validation (holdSeconds : ℕ) (interactiveTarget : Bool) (state : ConnectionState) :
    Action Unit := do
  deactivate state.wiredUuid "temporarily disconnect go2-readonly wired profile"
  if interactiveTarget then activateTargetInteractive state.targetUuid
  else activate state.targetUuid WIFI_INTERFACE "temporarily activate private Wi-Fi"
  validatePrivateRuntime lib
  let now ← ask .monotonic
  hold lib (now.time + holdSeconds)

/-- The rollback of `execute`, after an error or without one. -/
def conclude (primaryError : Option Raised) : Action Unit := do
  tryCatch (rollback lib) fun rollbackError =>
    match rollbackError.switchText, primaryError with
    | some text, some _ => raise (.switchError
        ("private validation failed and rollback was incomplete: " ++ text))
    | _, _ => raise rollbackError
  match primaryError with
  | some error => raise error
  | none => raiseIfPending

def execute (environ : String → Option String) (holdSeconds : ℕ) (interactiveTarget : Bool) :
    Action Unit := do
  let terminal ← if interactiveTarget then (do
      let answer ← ask .isatty
      return answer.holds) else pure true
  if terminal = false then raise (.switchError
    "interactive activation requires visible terminal stdin/stdout/stderr")
  else
    let _ ← preflight lib environ
    let state ← requireState
    modify fun w => { w with rollbackArmed := true }
    let primaryError ← tryCatch (do
        validation lib holdSeconds interactiveTarget state
        return none) fun error => return some error
    conclude lib primaryError

/-- `main`, by its exit code. -/
def main (environ : String → Option String) (mode : Mode) (holdSeconds : ℕ) : Action ℕ :=
  tryCatch (do
      match mode with
      | .preflight =>
        let _ ← preflight lib environ
        raiseIfPending
      | .execute interactiveTarget => execute lib environ holdSeconds interactiveTarget
      return 0) fun error => do
    match error with
    | .switchInterrupted signum =>
      tryCatch (do
          rollback lib
          return 128 + signum) fun rollbackError =>
        if rollbackError.switchText.isSome then return 70 else raise rollbackError
    | .switchError _ | .commandTimedOut _ => return 1
    | .exception typeName => raise (.exception typeName)

end UnitreeGo2.PrivateWifi
