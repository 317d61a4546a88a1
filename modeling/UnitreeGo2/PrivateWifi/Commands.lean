import UnitreeGo2.Lib.Script
import UnitreeGo2.Lib.PyText
import Mathlib.Algebra.Order.Ring.Rat
import Mathlib.Data.Finset.Dedup
import Mathlib.Data.Finset.Insert

/-!
# The commands of the private Wi-Fi tool

The tool leaves the campus network for the private one of the robot, and restores the original
links.  It runs `nmcli`, `ip` and `ping`, each of which may fail, time out or answer anything,
and it latches signals, which it looks at between its commands only.
-/

namespace UnitreeGo2.PrivateWifi

open Script (ask get modify raise tryCatch ensure loop)

/-! ## Values -/

def TARGET_SSID : String := "Robonix-Go2"

def WIFI_INTERFACE : String := "wlo1"

def WIRED_INTERFACE : String := "enp108s0"

def WIRED_PROFILE_NAME : String := "go2-readonly"

def HOST_ADDRESS : String := "192.168.123.99/24"

def QUERY_TIMEOUT_S : ℚ := 8

def ACTIVATION_TIMEOUT_S : ℚ := 25

def PING_TIMEOUT_S : ℚ := 8

/-- An `IPv4Interface`, by its address and the length of its prefix. -/
structure Interface4 where
  ip : ℕ
  prefixLength : ℕ
  deriving DecidableEq, Repr

/-- The number of an IPv4 address. -/
def ipv4 (a b c d : ℕ) : ℕ := ((a * 256 + b) * 256 + c) * 256 + d

def HOST_INTERFACE : Interface4 := ⟨ipv4 192 168 123 99, 24⟩

def HOST_IP : ℕ := HOST_INTERFACE.ip

/-- An `ip_network`, whose address has no bits after its prefix. -/
structure IpNetwork where
  version : ℕ
  networkAddress : ℕ
  prefixLength : ℕ
  deriving DecidableEq, Repr

/-- What the standard library does with texts and addresses. -/
structure Library where
  strip : String → String
  splitlines : String → List String
  /-- `text.split()`. -/
  split : String → List String
  /-- `IPv4Interface(text)`, if it does not raise. -/
  ipv4Interface : String → Option Interface4
  /-- `IPv6Interface(text)`, if it does not raise, by its address and prefix length. -/
  ipv6Interface : String → Option (ℕ × ℕ)
  /-- `ip_network(text, strict=False)`, if it does not raise. -/
  ipNetwork : String → Option IpNetwork
  /-- `network.is_private`. -/
  isPrivate : IpNetwork → Bool
  /-- `str` of an IPv6 address. -/
  ipv6Text : ℕ → String
  /-- `text.isdigit()`. -/
  isDigits : String → Bool

structure ConnectionState where
  campusUuid : String
  targetUuid : String
  wiredUuid : String
  deriving DecidableEq, Repr

/-- The tool between two of its steps. -/
structure Workflow where
  pendingSignum : Option ℕ := none
  deferDepth : ℕ := 0
  state : Option ConnectionState := none
  rollbackArmed : Bool := false
  rollbackStarted : Bool := false
  deriving DecidableEq, Repr

inductive Raised where
  | switchError (text : String)
  | commandTimedOut (text : String)
  | switchInterrupted (signum : ℕ)
  /-- Any other `Exception`. -/
  | exception (typeName : String)
  deriving DecidableEq, Repr

/-- `isinstance(error, Exception)`. -/
def Raised.isException : Raised → Bool
  | switchInterrupted _ => false
  | _ => true

/-- `isinstance(error, SwitchError)`, with its text. -/
def Raised.switchText : Raised → Option String
  | switchError text | commandTimedOut text => some text
  | _ => none

/-- What becomes of a command. -/
inductive CommandResult where
  | completed (returncode : ℤ) (stdout : String)
  | timedOut
  /-- An `OSError`. -/
  | notStarted
  /-- Another exception, as of an output that does not decode. -/
  | failed (typeName : String)
  deriving DecidableEq, Repr

/-- What the tool asks of its surroundings. -/
inductive Call where
  /-- Which signal the latch has captured first since the last look. -/
  | signals
  | run (argv : List String) (timeout : ℚ) (interactive : Bool)
  | sleep (seconds : ℚ)
  | monotonic
  /-- `path.resolve(strict=True)`, as a text. -/
  | resolve (path : String)
  | isDir (path : String)
  /-- Whether all three streams are terminals. -/
  | isatty
  deriving DecidableEq, Repr

/-- An answer, of which a call reads its own part. -/
structure Answer where
  signal : Option ℕ
  result : CommandResult
  time : ℚ
  resolved : Option String
  holds : Bool

abbrev Action (α : Type) := Script Workflow Call Answer Raised α

abbrev LogStep := Script.Step Workflow Call Answer

/-! ## Signals -/

/-- `capture`. -/
def Workflow.capture (signal : Option ℕ) (w : Workflow) : Workflow :=
  { w with pendingSignum := w.pendingSignum.or signal }

def raiseIfPending : Action Unit := do
  let answer ← ask .signals
  modify (Workflow.capture answer.signal)
  let w ← get
  match w.pendingSignum with
  | some signum => if w.deferDepth = 0 then raise (.switchInterrupted signum) else return ()
  | none => return ()

def deferred {α : Type} (body : Action α) : Action α := do
  modify fun w => { w with deferDepth := w.deferDepth + 1 }
  ensure body (modify fun w => { w with deferDepth := w.deferDepth - 1 })

/-! ## Commands -/

/-- What `run` makes of the result of a command. -/
def answered (operation : String) : CommandResult → Except Raised String
  | .completed returncode stdout =>
    if returncode ≠ 0 then .error (.switchError (operation ++ " failed")) else .ok stdout
  | .timedOut => .error (.commandTimedOut (operation ++ " timed out"))
  | .notStarted => .error (.switchError (operation ++ " could not be started"))
  | .failed typeName => .error (.exception typeName)

/-- `CommandRunner.run` and `run_interactive`. -/
def runnerRun (argv : List String) (timeout : ℚ) (operation : String) (interactive : Bool) :
    Action String := do
  raiseIfPending
  let answer ← ask (.run argv timeout interactive)
  match answer.result with
  | .failed typeName => raise (.exception typeName)
  | result =>
    raiseIfPending
    match answered operation result with
    | .error error => raise error
    | .ok output => return output

/-- `_run` and `_run_interactive`. -/
def runCommand (argv : List String) (operation : String) (timeout : ℚ) (interactive : Bool) :
    Action String := do
  raiseIfPending
  let output ← tryCatch (runnerRun argv timeout operation interactive) fun error => do
    raiseIfPending
    raise error
  raiseIfPending
  return output

def run (argv : List String) (operation : String) (timeout : ℚ) : Action String :=
  runCommand argv operation timeout false

def activateArgv (ask : Bool) (uuid interface : String) : List String :=
  ["nmcli"] ++ (if ask then ["--ask"] else []) ++
    ["--wait", "25", "connection", "up", "uuid", uuid, "ifname", interface]

def deactivateArgv (uuid : String) : List String :=
  ["nmcli", "--wait", "25", "connection", "down", "uuid", uuid]

/-- `_activate`. -/
def activate (uuid interface operation : String) : Action Unit := do
  let _ ← run (activateArgv false uuid interface) operation (ACTIVATION_TIMEOUT_S + 3)

/-- `_activate_target_interactive`. -/
def activateTargetInteractive (uuid : String) : Action Unit := do
  let _ ← runCommand (activateArgv true uuid WIFI_INTERFACE)
    "interactively activate private Wi-Fi" (ACTIVATION_TIMEOUT_S + 3) true

/-- `_deactivate`. -/
def deactivate (uuid operation : String) : Action Unit := do
  let _ ← run (deactivateArgv uuid) operation (ACTIVATION_TIMEOUT_S + 3)

/-! ## Observations -/

variable (lib : Library)

/-- Whether `UUID_RE` matches the whole text. -/
def isUuid (text : String) : Bool :=
  let hex (c : Char) : Bool := c.isDigit || ('a' ≤ c && c ≤ 'f') || ('A' ≤ c && c ≤ 'F')
  let groups := text.toList.splitOn '-'
  groups.map List.length = [8, 4, 4, 4, 12] && groups.all fun group => group.all hex

def nmValueArgv (field uuid : String) : List String :=
  ["nmcli", "--get-values", field, "connection", "show", "uuid", uuid]

/-- `_nm_value`. -/
def nmValue (field uuid operation : String) : Action String := do
  let output ← run (nmValueArgv field uuid) operation QUERY_TIMEOUT_S
  return lib.strip output

def activeUuidArgv (interface : String) : List String :=
  ["nmcli", "--get-values", "GENERAL.CON-UUID", "device", "show", interface]

def oneConnection (operation : String) : String :=
  operation ++ " did not return one active connection"

/-- `_optional_active_uuid`. -/
def optionalActiveUuid (interface operation : String) : Action (Option String) := do
  let output ← run (activeUuidArgv interface) operation QUERY_TIMEOUT_S
  let value := lib.strip output
  if value = "" then return none
  else if isUuid value then return some value
  else raise (.switchError (oneConnection operation))

/-- `_active_uuid`. -/
def activeUuid (interface operation : String) : Action String := do
  match ← optionalActiveUuid lib interface operation with
  | none => raise (.switchError (oneConnection operation))
  | some value => return value

structure AddressRecord where
  interface : String
  address : Interface4
  deriving DecidableEq, Repr

/-- The record of a line, if it can be parsed. -/
def parseAddress (line : String) : Option AddressRecord :=
  let fields := lib.split line
  if fields.length < 4 ∨ "inet" ∉ fields then none
  else
    match fields[fields.idxOf "inet" + 1]? with
    | none => none
    | some text =>
      let interface := String.ofList ((fields.getD 1 "").toList.takeWhile (· ≠ '@'))
      (lib.ipv4Interface text).map fun address => ⟨interface, address⟩

/-- The records of the output of `ip`. -/
def parseAddresses (output : String) : Option (List AddressRecord) :=
  (lib.splitlines output).mapM (parseAddress lib)

def addressesArgv : List String := ["ip", "-o", "-4", "addr", "show"]

/-- `_all_ipv4_addresses`. -/
def allIpv4Addresses : Action (List AddressRecord) := do
  let output ← run addressesArgv "read all IPv4 address ownership" QUERY_TIMEOUT_S
  match parseAddresses lib output with
  | none => raise (.switchError "could not parse global IPv4 address ownership")
  | some records => return records

/-- `_host_owners`. -/
def hostOwners (records : List AddressRecord) : List AddressRecord :=
  records.filter fun record => record.address.ip = HOST_IP

/-- `_interface_addresses`. -/
def interfaceAddresses (records : List AddressRecord) (interface : String) : List Interface4 :=
  (records.filter fun record => record.interface = interface).map AddressRecord.address

/-- `_require_exact_host_owner`. -/
def requireExactHostOwner (records : List AddressRecord) (interface context : String) :
    Except Raised Unit :=
  if hostOwners records ≠ [⟨interface, HOST_INTERFACE⟩] then
    .error (.switchError
      s!"{context} requires one global 192.168.123.99/24 owner on {interface}")
  else if interfaceAddresses records interface ≠ [HOST_INTERFACE] then
    .error (.switchError s!"{context} requires exactly one IPv4 address on {interface}")
  else .ok ()

/-- A check that raises or not. -/
def check (result : Except Raised Unit) : Action Unit :=
  match result with
  | .error error => raise error
  | .ok () => return ()

/-- The `assert` that there is a state. -/
def requireState : Action ConnectionState := do
  let w ← get
  match w.state with
  | none => raise (.exception "AssertionError")
  | some state => return state

def defaultRouteArgv : List String :=
  ["ip", "-4", "route", "show", "default", "dev", WIFI_INTERFACE]

end UnitreeGo2.PrivateWifi
