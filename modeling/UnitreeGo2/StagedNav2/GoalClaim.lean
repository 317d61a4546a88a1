import UnitreeGo2.Lib.PyValue

/-!
# The goal claim of a staged navigation session

The dispatcher publishes one claim, which must match the permit field by field and names
the goal that the guard may follow.
-/

namespace UnitreeGo2.StagedNav2

/-- What the guard uses of the standard library of its language. -/
structure Library where
  /-- `json.loads`, on the texts that it accepts. -/
  loads : String → Option PyValue
  /-- `float` on a string. -/
  parseFloat : String → Option ExtRat
  strip : String → String
  upper : String → String
  lower : String → String
  /-- `math.hypot` of a finite difference. -/
  hypot : ℚ → ℚ → ExtRat

/-- The exceptions that leave a method of the guard. -/
inductive Raised where
  | guardError (message : String)
  | overflowError
  deriving DecidableEq, Repr

structure ExpectedGoalClaim where
  sessionId : String
  pairId : String
  source : String
  targetId : String
  mapId : String
  generation : Int
  xM : ℚ
  yM : ℚ
  yawRad : ℚ
  startXM : ℚ
  startYM : ℚ
  evidenceSha256 : String
  deriving DecidableEq

structure AcceptedGoalClaim where
  goalUuid : String
  expected : ExpectedGoalClaim
  deriving DecidableEq

def goalClaimSchema : String := "robonix-go2-staged-nav2-goal-claim-v1"

def exactKeys : List String :=
  ["schema", "session_id", "pair_id", "source", "target_id", "map_id", "generation", "pose",
    "goal_evidence_sha256", "goal_uuid"]

/-- `GOAL_UUID_RE.fullmatch`. -/
def isGoalUuid (text : String) : Bool :=
  text.length = 32 && text.toList.all fun c => ('0' ≤ c && c ≤ '9') || ('a' ≤ c && c ≤ 'f')

/-- `math.isfinite(actual) and math.isclose(actual, wanted, rel_tol=0.0, abs_tol=1e-9)`. -/
def isCloseTo (actual : ExtRat) (wanted : ℚ) : Bool :=
  actual.isFinite && |actual.toRat - wanted| ≤ 1e-9

/-- The fields of a claim other than the pose that the permit determines. -/
def matchesPermit (payload : List (String × PyValue)) (expected : ExpectedGoalClaim) : Bool :=
  (PyValue.get payload "schema").eqStr goalClaimSchema &&
    (PyValue.get payload "session_id").eqStr expected.sessionId &&
    (PyValue.get payload "pair_id").eqStr expected.pairId &&
    (PyValue.get payload "source").eqStr expected.source &&
    (PyValue.get payload "target_id").eqStr expected.targetId &&
    (PyValue.get payload "map_id").eqStr expected.mapId &&
    (PyValue.get payload "generation").eqInt expected.generation &&
    (PyValue.get payload "goal_evidence_sha256").eqStr expected.evidenceSha256

/-- The pose of a claim as floats. -/
def claimPose (lib : Library) (pose : List (String × PyValue)) :
    Except PyError (ExtRat × ExtRat × ExtRat) := do
  let x ← (PyValue.get pose "x").toFloat lib.parseFloat
  let y ← (PyValue.get pose "y").toFloat lib.parseFloat
  let yaw ← (PyValue.get pose "yaw").toFloat lib.parseFloat
  return (x, y, yaw)

def validateGoalUuid (payload : List (String × PyValue)) (expected : ExpectedGoalClaim) :
    Except Raised AcceptedGoalClaim :=
  match PyValue.get payload "goal_uuid" with
  | .str goalUuid =>
    if isGoalUuid goalUuid then .ok ⟨goalUuid, expected⟩
    else .error (.guardError "goal claim UUID must be 16-byte lowercase hex")
  | _ => .error (.guardError "goal claim UUID must be 16-byte lowercase hex")

/-- The checks of a decoded claim. -/
def validateGoalClaimObject (lib : Library) (payload : List (String × PyValue))
    (expected : ExpectedGoalClaim) : Except Raised AcceptedGoalClaim :=
  if !PyValue.hasExactKeys payload exactKeys then
    .error (.guardError "goal claim keys do not match the exact schema")
  else
    match PyValue.get payload "pose" with
    | .dict pose =>
      if !PyValue.hasExactKeys pose ["x", "y", "yaw"] then
        .error (.guardError "goal claim pose keys do not match the exact schema")
      else if !matchesPermit payload expected then
        .error (.guardError "goal claim does not match permit-derived fields")
      else
        match claimPose lib pose with
        -- An integer that is too large for a float is not caught.
        | .error .overflowError => .error .overflowError
        | .error _ => .error (.guardError "goal claim pose is not numeric")
        | .ok (x, y, yaw) =>
          if !(isCloseTo x expected.xM && isCloseTo y expected.yM &&
              isCloseTo yaw expected.yawRad) then
            .error (.guardError "goal claim pose does not match permit-derived pose")
          else validateGoalUuid payload expected
    | _ => .error (.guardError "goal claim pose keys do not match the exact schema")

def validateGoalClaim (lib : Library) (payload : PyValue) (expected : ExpectedGoalClaim) :
    Except Raised AcceptedGoalClaim :=
  match payload with
  | .str text =>
    match lib.loads text with
    | none => .error (.guardError "goal claim is not valid JSON")
    | some (.dict items) => validateGoalClaimObject lib items expected
    | some _ => .error (.guardError "goal claim must be a JSON object")
  | .dict items => validateGoalClaimObject lib items expected
  | _ => .error (.guardError "goal claim must be a JSON object")

end UnitreeGo2.StagedNav2
