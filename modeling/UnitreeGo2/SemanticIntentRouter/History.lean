import UnitreeGo2.Lib.JsonText
import UnitreeGo2.SemanticIntentRouter.FollowDistance
import UnitreeGo2.SemanticNavigation.Landmarks

/-!
# The history of the semantic intent router

The router keeps nothing between two requests (`semantic_intent_router/server.py`).  It reads the
turn of the last command, the results of the executor and the latest navigation run off the
messages that come with a request.

The JSON documents in the feedback are read by the decoder of the interpreter, which the model
takes as it comes.
-/

namespace UnitreeGo2.SemanticIntentRouter

open SemanticNavigation (getOr)

/-- What the router uses of Python. -/
structure Library extends SemanticNavigation.LandmarkLibrary, Unicode, JsonDecoder where
  upper : String → String
  /-- A float with the format `g`. -/
  general : ExtRat → String

/-! ## Names -/

def NAV_CONTRACT : String := "robonix/skill/semantic_navigation/navigate_landmark"

def STATUS_CONTRACT : String := "robonix/skill/semantic_navigation/navigate_landmark/status"

def CANCEL_CONTRACT : String := "robonix/skill/semantic_navigation/navigate_landmark/cancel"

def FOLLOW_DISTANCE_CONTRACT : String := "robonix/primitive/follow/distance"

def NAV_CAPABILITY : String := "semantic_navigation.semantic_navigation_navigate_landmark"

def STATUS_CAPABILITY : String := "semantic_navigation.navigate_landmark_status"

def CANCEL_CAPABILITY : String := "semantic_navigation.navigate_landmark_cancel"

def FOLLOW_DISTANCE_CAPABILITY : String := "go2_robottrack.follow_distance"

def FEEDBACK_PREFIX : String :=
  "Executor feedback for the current RTDL leaf (not a new user request): "

/-! ## States of a run -/

/-- `_KNOWN_STATES`. -/
inductive RunState where
  | starting
  | pending
  | running
  | succeeded
  | failed
  | canceled
  deriving DecidableEq, Repr

namespace RunState

def name : RunState → String
  | starting => "STARTING"
  | pending => "PENDING"
  | running => "RUNNING"
  | succeeded => "SUCCEEDED"
  | failed => "FAILED"
  | canceled => "CANCELED"

/-- The known state of a name. -/
def ofName? (name : String) : Option RunState :=
  [starting, pending, running, succeeded, failed, canceled].find? fun state => state.name = name

/-- `state in _TERMINAL_STATES`. -/
def Terminal (state : RunState) : Prop := state = succeeded ∨ state = failed ∨ state = canceled

instance (state : RunState) : Decidable state.Terminal :=
  inferInstanceAs (Decidable (state = succeeded ∨ state = failed ∨ state = canceled))

end RunState

structure ActiveRun where
  runId : String
  target : String
  state : RunState
  deriving DecidableEq, Repr

def ActiveRun.Terminal (run : ActiveRun) : Prop := run.state.Terminal

instance (run : ActiveRun) : Decidable run.Terminal :=
  inferInstanceAs (Decidable run.state.Terminal)

/-! ## Messages -/

/-- A message of a request. -/
abbrev Message := List (String × PyValue)

/-- The text of a part of a message, if the part has one. -/
def partText : PyValue → Option String
  | .dict part =>
    match PyValue.get part "text" with
    | .str text => if (PyValue.get part "type").eqStr "text" then some text else none
    | _ => none
  | _ => none

def messageText (message : Message) : String :=
  match PyValue.get message "content" with
  | .str content => content
  | .list parts => String.intercalate "\n" (parts.filterMap partText)
  | _ => ""

/-- What `_CAP_LINE` finds in a text.  Only blanks have been seen since the last line began where
`fresh` holds: a line may begin with blank lines, and the blanks behind a name may not be followed
by anything in its line. -/
def capabilityLines : ℕ → Bool → List Char → List String
  | 0, _, _ => []
  | _, _, [] => []
  | fuel + 1, fresh, c :: text =>
    if fresh ∧ c = '-' then
      let label := text.dropWhile PyText.isSpace
      let rest := (label.drop "capability_name:".length).dropWhile PyText.isSpace
      let name := rest.takeWhile (!PyText.isSpace ·)
      let blanks := (rest.dropWhile (!PyText.isSpace ·)).takeWhile PyText.isSpace
      let others := (rest.dropWhile (!PyText.isSpace ·)).dropWhile PyText.isSpace
      if "capability_name:".toList.isPrefixOf label ∧ name ≠ [] ∧ (others = [] ∨ '\n' ∈ blanks) then
        String.ofList name :: capabilityLines fuel true others
      else capabilityLines fuel false text
    else capabilityLines fuel (PyText.isSpace c && (fresh || c = '\n')) text

/-- The capabilities that the system messages advertise. -/
def advertisedCapabilities (messages : List Message) : List String :=
  messages.flatMap fun message =>
    if (PyValue.get message "role").eqStr "system" then
      let text := (messageText message).toList
      capabilityLines text.length true text
    else []

def isFeedback (message : Message) : Bool :=
  (PyValue.get message "role").eqStr "user" &&
    FEEDBACK_PREFIX.toList.isPrefixOf (messageText message).toList

/-- A message of the user that is no feedback. -/
def isCommand (message : Message) : Bool :=
  (PyValue.get message "role").eqStr "user" && !isFeedback message

/-- A history, split at the last command. -/
structure Turn where
  command : String
  boundary : ℕ
  priorMessages : List Message
  feedbackMessages : List Message

section

variable (lib : Library)

/-- The loop of `current_turn`: the place of the last command and its text. -/
def lastCommand (messages : List Message) : Option (ℕ × String) :=
  messages.zipIdx.foldl (fun found entry =>
    if isCommand entry.1 then some (entry.2, lib.strip (messageText entry.1)) else found) none

def currentTurn (messages : List Message) : Turn :=
  match lastCommand lib messages with
  | none => ⟨"", messages.length, messages, []⟩
  | some (boundary, command) =>
    ⟨command, boundary, messages.take boundary, (messages.drop (boundary + 1)).filter isFeedback⟩

/-! ## Results of the executor -/

/-- The result of a leaf. -/
abbrev Leaf := List (String × PyValue)

/-- The result that a value in a feedback holds. -/
def leafOf? : PyValue → Option Leaf
  | .dict node =>
    match PyValue.get node "leaf_result" with
    | .dict leaf => some leaf
    | _ =>
      if ["contract_id", "success", "output"].all (· ∈ node.map Prod.fst) then some node else none
  | _ => none

/-- The results of one message. -/
def messageResults (message : Message) : List Leaf :=
  if isFeedback message then
    let payload := (messageText message).toList.drop FEEDBACK_PREFIX.toList.length
    ((lib.values 0 payload).flatMap lib.walk).filterMap leafOf?
  else []

def leafResults (messages : List Message) : List Leaf := messages.flatMap (messageResults lib)

/-- The object that a value is, or is a document of. -/
def mapping : PyValue → Leaf
  | .dict items => items
  | .str text =>
    match lib.loads text with
    | some (.dict items) => items
    | _ => []
  | _ => []

/-- `value is True`. -/
def isTrue : PyValue → Bool
  | .bool true => true
  | _ => false

/-- `value is False`. -/
def isFalse : PyValue → Bool
  | .bool false => true
  | _ => false

/-- `str(value)`. -/
def str : PyValue → String
  | .str text => text
  | value => lib.text value

/-- A value as `in` looks for it in a set. -/
def hashable : PyValue → Bool
  | .list _ | .dict _ => false
  | _ => true

/-- An error that leaves the router. -/
inductive RouterRaised where
  | parser (raised : Raised)
  | typeError
  | overflowError
  | valueError (text : String)
  deriving DecidableEq

/-- The result of a leaf of semantic navigation. -/
def isSemantic (leaf : Leaf) : Bool :=
  [NAV_CONTRACT, STATUS_CONTRACT, CANCEL_CONTRACT].any (PyValue.get leaf "contract_id").eqStr

/-- The results of semantic navigation. -/
def semanticResults (messages : List Message) : List Leaf :=
  (leafResults lib messages).filter isSemantic

/-- A result whose contract is a list or an object cannot be looked up. -/
def semanticLeaves (messages : List Message) : Except RouterRaised (List Leaf) :=
  if (leafResults lib messages).all fun leaf => hashable (PyValue.get leaf "contract_id") then
    .ok (semanticResults lib messages)
  else .error .typeError

def followDistanceLeaves (messages : List Message) : List Leaf :=
  (leafResults lib messages).filter fun leaf =>
    (PyValue.get leaf "contract_id").eqStr FOLLOW_DISTANCE_CONTRACT

/-! ## What an output says -/

/-- `str(output.get(key, "")).strip()`. -/
def strippedItem (output : Leaf) (key : String) : String :=
  lib.strip (str lib (getOr output key (.str "")))

def detailMapping (output : Leaf) : Leaf := mapping lib (PyValue.get output "detail")

/-- `str(value).strip()`, unless the value is missing. -/
def strippedLandmark (output : Leaf) : String :=
  match PyValue.get output "landmark" with
  | .none => ""
  | value => lib.strip (str lib value)

def targetFromOutput (output : Leaf) : String :=
  if strippedLandmark lib output ≠ "" then strippedLandmark lib output
  else strippedLandmark lib (detailMapping lib output)

def runIdFromOutput (output : Leaf) : String :=
  if strippedItem lib output "run_id" ≠ "" then strippedItem lib output "run_id"
  else if strippedItem lib output "semantic_run_id" ≠ "" then
    strippedItem lib output "semantic_run_id"
  else strippedItem lib (detailMapping lib output) "semantic_run_id"

def stateFromOutput (output : Leaf) : String :=
  if lib.upper (strippedItem lib output "state") ≠ "" then
    lib.upper (strippedItem lib output "state")
  else lib.upper (strippedItem lib (detailMapping lib output) "state")

/-- The state of a run that was kept open until it ended, or was reported as ended. -/
def navigationCompletionState (output : Leaf) : Option RunState :=
  match RunState.ofName? (stateFromOutput lib output) with
  | none => none
  | some state =>
    if isTrue (PyValue.get output "known") then some state
    else if (isTrue (PyValue.get output "remote_terminal") ||
        isTrue (PyValue.get (detailMapping lib output) "remote_terminal")) ∧ state.Terminal then
      some state
    else none

/-! ## The latest run -/

def Leaf.contract (leaf : Leaf) : String := str lib (getOr leaf "contract_id" (.str ""))

def Leaf.output (leaf : Leaf) : Leaf := mapping lib (PyValue.get leaf "output")

def Leaf.succeeded (leaf : Leaf) : Bool := isTrue (PyValue.get leaf "success")

/-- One round of `_advance_active`. -/
def advance (active : Option ActiveRun) (leaf : Leaf) : Option ActiveRun :=
  let output := leaf.output lib
  let runId := runIdFromOutput lib output
  let target := targetFromOutput lib output
  if leaf.contract lib = NAV_CONTRACT then
    if runId = "" then active
    else
      match navigationCompletionState lib output with
      | some state => some ⟨runId, target, state⟩
      | none =>
        if leaf.succeeded ∧ isTrue (PyValue.get output "accepted") then
          some ⟨runId, target, .running⟩
        else active
  else if leaf.contract lib = STATUS_CONTRACT then
    if !leaf.succeeded then active
    else
      match RunState.ofName? (stateFromOutput lib output) with
      | none => active
      | some state =>
        if !isTrue (PyValue.get output "known") then active
        else
          match active with
          | none => if runId ≠ "" then some ⟨runId, target, state⟩ else none
          | some run =>
            if runId ≠ "" ∧ runId ≠ run.runId then some run
            else some ⟨run.runId, if target ≠ "" then target else run.target, state⟩
  else active

def advanceActive (active : Option ActiveRun) (leaves : List Leaf) : Option ActiveRun :=
  leaves.foldl (advance lib) active

end

end UnitreeGo2.SemanticIntentRouter
