import UnitreeGo2.Lib.Machine
import UnitreeGo2.Lib.PyValue

/-!
# The store of operator initial poses

The dashboard keeps the pose estimates that an operator gave for localization beside the map
library, one sidecar file for every map.  A seed belongs to one generation of its map: it is
saved and restored only while the map service localizes in that generation.
-/

namespace UnitreeGo2.Dashboard

inductive Raised where
  | initialPoseError (detail : String)
  | typeError
  | valueError
  | overflowError
  | attributeError
  deriving DecidableEq, Repr

/-- What the store uses of Python and of PyYAML.  A file has a content of type `C`. -/
structure Library (C : Type) where
  strip : String → String
  casefold : String → String
  /-- `str(value)`. -/
  text : PyValue → String
  /-- `float(text)`, where it is a number. -/
  parseFloat : String → Option ExtRat
  /-- `int(text)`, where it is a number. -/
  parseInt : String → Option ℤ
  /-- `math.sqrt` of the sum of the squares. -/
  norm : List ℚ → ExtRat
  safeDump : PyValue → C
  /-- `yaml.safe_load`, with the text of a `YAMLError`. -/
  safeLoad : C → Except String PyValue

/-! ## Values -/

def SCHEMA : String := "robonix-go2-operator-initial-pose-v1"

def UINT64_MAX : ℤ := 2 ^ 64 - 1

/-- `_MAP_ID.fullmatch`. -/
def matchesMapId (value : String) : Bool :=
  1 ≤ value.length && value.length ≤ 160 &&
    value.toList.all fun c => c.isAlphanum || c = '.' || c = '_' || c = '-'

section Values

variable {C : Type} (lib : Library C)

/-- `value.strip() if isinstance(value, str) else ""`. -/
def stripped : PyValue → String
  | .str text => lib.strip text
  | _ => ""

/-- `_map_id`. -/
def mapIdOf (value : PyValue) : Except Raised String :=
  let result := stripped lib value
  if ¬ matchesMapId result ∨ result = "." ∨ result = ".." then
    .error (.initialPoseError "map_id is empty or outside the safe map-id grammar")
  else .ok result

/-- `_generation`. -/
def generationOf (value : PyValue) (label : String) : Except Raised ℕ :=
  match value.exactInt? with
  | none => .error (.initialPoseError s!"{label} must be a uint64 integer")
  | some n =>
    if n < 0 ∨ UINT64_MAX < n then
      .error (.initialPoseError s!"{label} must be within uint64 range")
    else .ok n.toNat

/-- `_finite`. -/
def finite (value : PyValue) (label : String) : Except Raised ℚ :=
  match value with
  | .bool _ => .error (.initialPoseError s!"{label} must be a finite number")
  | _ =>
    match value.toFloat lib.parseFloat with
    | .error .typeError => .error .typeError
    | .error .valueError => .error .valueError
    | .error .overflowError => .error .overflowError
    | .ok (.fin x) => .ok x
    | .ok _ => .error (.initialPoseError s!"{label} must be a finite number")

/-- A pose as `normalize_pose` returns it. -/
structure Pose where
  frameId : String
  position : ℚ × ℚ × ℚ
  orientation : ℚ × ℚ × ℚ × ℚ
  covariance : List ℚ
  deriving DecidableEq

abbrev Items := List (String × PyValue)

/-- Whether a quaternion of this norm is refused. -/
def normRefused : ExtRat → Bool
  | .fin norm => norm < 1 / 10 ^ 9 || 1 / 50 < |norm - 1|
  | .inf _ => true
  | .nan => false

/-- The values of a covariance, from an index on. -/
def finiteEntries : ℕ → List PyValue → Except Raised (List ℚ)
  | _, [] => .ok []
  | index, entry :: entries => do
    let first ← finite lib entry s!"covariance[{index}]"
    let rest ← finiteEntries (index + 1) entries
    return first :: rest

def normalizePose (frameId : String) (value : Items) : Except Raised Pose :=
  if lib.text ((value.lookup "frame_id").getD (.str "")) ≠ frameId then
    .error (.initialPoseError s!"initial pose frame_id must exactly match '{frameId}'")
  else
    match PyValue.get value "position", PyValue.get value "orientation" with
    | .dict position, .dict orientation =>
      match PyValue.get value "covariance" with
      | .list covariance =>
        if covariance.length ≠ 36 then
          .error (.initialPoseError "initial pose covariance must contain exactly 36 values")
        else do
          let x ← finite lib ((position.lookup "x").getD (.float 0)) "position.x"
          let y ← finite lib ((position.lookup "y").getD (.float 0)) "position.y"
          let z ← finite lib ((position.lookup "z").getD (.float 0)) "position.z"
          let qx ← finite lib (PyValue.get orientation "x") "orientation.x"
          let qy ← finite lib (PyValue.get orientation "y") "orientation.y"
          let qz ← finite lib (PyValue.get orientation "z") "orientation.z"
          let qw ← finite lib (PyValue.get orientation "w") "orientation.w"
          if normRefused (lib.norm [qx, qy, qz, qw]) then
            throw (.initialPoseError "initial pose quaternion must be normalized")
          let entries ← finiteEntries lib 0 covariance
          return ⟨frameId, (x, y, z), (qx, qy, qz, qw), entries⟩
      | _ => .error (.initialPoseError "initial pose covariance must contain exactly 36 values")
    | _, _ => .error (.initialPoseError "initial pose position and orientation are required")

end Values

/-! ## Files -/

/-- What `_timestamp` returns, such as `20260731T093000.000001Z`. -/
structure Timestamp where
  text : String
  length : text.length = 23
  last : text.toList.getLast? = some 'Z'
  deriving DecidableEq

/-- The files of the store in the map library. -/
inductive SeedPath where
  | sidecar (mapId : String)
  /-- The copy of a seed that was saved over. -/
  | archive (mapId : String) (stamp : Timestamp)
  /-- A seed that was reset. -/
  | disabled (mapId : String) (stamp : Timestamp)
  deriving DecidableEq

def SeedPath.name : SeedPath → String
  | sidecar mapId => mapId ++ ".initial-pose.operator" ++ ".yaml"
  | archive mapId stamp => mapId ++ ".initial-pose.operator" ++ "." ++ stamp.text ++ ".yaml"
  | disabled mapId stamp =>
    mapId ++ ".initial-pose.operator" ++ ".disabled" ++ "." ++ stamp.text ++ ".yaml"

namespace SeedPath

/-- A name without `.yaml` ends in the stamp, if there is one. -/
def stem : SeedPath → List Char
  | sidecar mapId => mapId.toList ++ ".initial-pose.operator".toList
  | archive mapId stamp =>
    mapId.toList ++ ".initial-pose.operator".toList ++ ".".toList ++ stamp.text.toList
  | disabled mapId stamp =>
    mapId.toList ++ ".initial-pose.operator".toList ++ ".disabled".toList ++ ".".toList ++
      stamp.text.toList

lemma toList_name (path : SeedPath) : path.name.toList = path.stem ++ ".yaml".toList := by
  cases path <;> simp only [name, stem, String.toList_append]

/-- Text with the same stamp at its end. -/
lemma stamp_inj {front front' : List Char} {stamp stamp' : Timestamp}
    (h : front ++ ".".toList ++ stamp.text.toList = front' ++ ".".toList ++ stamp'.text.toList) :
    front = front' ∧ stamp = stamp' := by
  have hlength : stamp.text.toList.length = stamp'.text.toList.length := by
    rw [String.length_toList, String.length_toList, stamp.length, stamp'.length]
  obtain ⟨hfront, htext⟩ := List.append_inj' h hlength
  refine ⟨List.append_cancel_right hfront, ?_⟩
  cases stamp with
  | mk text _ _ =>
    cases stamp' with
    | mk text' _ _ =>
      obtain rfl : text = text' := String.toList_inj.mp htext
      rfl

/-- A name without a stamp does not end like one. -/
lemma unstamped_ne {front front' : List Char} {stamp : Timestamp} :
    front ++ ".initial-pose.operator".toList ≠ front' ++ stamp.text.toList := by
  intro h
  have hlast := congrArg List.getLast? h
  have hend : ".initial-pose.operator".toList.getLast? = some 'r' := by decide +kernel
  rw [List.getLast?_append, List.getLast?_append, stamp.last, hend] at hlast
  simp at hlast

/-- The copies of a seed and the seeds that were reset do not share names. -/
lemma unmarked_ne {front front' : List Char} :
    front ++ ".initial-pose.operator".toList ≠ front' ++ ".disabled".toList := by
  intro h
  have hlast := congrArg List.getLast? h
  have hend : ".initial-pose.operator".toList.getLast? = some 'r' := by decide +kernel
  have hend' : ".disabled".toList.getLast? = some 'd' := by decide +kernel
  rw [List.getLast?_append, List.getLast?_append, hend, hend'] at hlast
  simp at hlast

/-- **The files of the store have different names.** -/
theorem name_injective : Function.Injective name := by
  intro path path' h
  have hstem : path.stem = path'.stem := by
    have htext := congrArg String.toList h
    rw [toList_name, toList_name] at htext
    exact List.append_cancel_right htext
  cases path with
  | sidecar mapId =>
    cases path' with
    | sidecar mapId' =>
      rw [String.toList_inj.mp (List.append_cancel_right hstem)]
    | archive mapId' stamp' => exact absurd hstem unstamped_ne
    | disabled mapId' stamp' => exact absurd hstem unstamped_ne
  | archive mapId stamp =>
    cases path' with
    | sidecar mapId' => exact absurd hstem.symm unstamped_ne
    | archive mapId' stamp' =>
      obtain ⟨hfront, rfl⟩ := stamp_inj hstem
      rw [String.toList_inj.mp (List.append_cancel_right hfront)]
    | disabled mapId' stamp' => exact absurd (stamp_inj hstem).1 unmarked_ne
  | disabled mapId stamp =>
    cases path' with
    | sidecar mapId' => exact absurd hstem.symm unstamped_ne
    | archive mapId' stamp' => exact absurd (stamp_inj hstem).1.symm unmarked_ne
    | disabled mapId' stamp' =>
      obtain ⟨hfront, rfl⟩ := stamp_inj hstem
      rw [String.toList_inj.mp
        (List.append_cancel_right (List.append_cancel_right hfront))]

end SeedPath

/-- The directory of a map. -/
structure Artifact where
  isDir : Bool := false
  hasDatabase : Bool := false
  /-- The text of the file `generation`, if it can be read. -/
  generation : Option String := none

/-- The map library: the directories of its maps and the seeds beside them. -/
structure Files (C : Type) where
  artifacts : String → Artifact := fun _ => {}
  seeds : SeedPath → Option C := fun _ => none

namespace Files

variable {C : Type}

/-- A file is written under another name and moved into its place. -/
def write (files : Files C) (path : SeedPath) (content : C) : Files C :=
  { files with seeds := fun other => if other = path then some content else files.seeds other }

/-- `shutil.copy2`. -/
def copy (files : Files C) (source target : SeedPath) : Files C :=
  { files with
    seeds := fun other => if other = target then files.seeds source else files.seeds other }

/-- `os.replace`. -/
def replace (files : Files C) (source target : SeedPath) : Files C :=
  { files with
    seeds := fun other =>
      if other = source then none
      else if other = target then files.seeds source else files.seeds other }

variable (files : Files C) (source target other : SeedPath) (content : C)

lemma write_seeds : (files.write target content).seeds other =
    if other = target then some content else files.seeds other := rfl

lemma copy_seeds : (files.copy source target).seeds other =
    if other = target then files.seeds source else files.seeds other := rfl

lemma replace_seeds : (files.replace source target).seeds other =
    if other = source then none
    else if other = target then files.seeds source else files.seeds other := rfl

end Files

/-! ## The store -/

structure MapIdentity where
  mapId : String
  mode : String
  generation : ℕ
  deriving DecidableEq

/-- A seed as `_read_sidecar` returns it. -/
structure Saved where
  pose : Pose
  mapId : String
  generation : ℕ
  source : PyValue
  path : String

structure InitialPoseStore where
  root : String
  frameId : String := "map"
  identity : Option MapIdentity := none
  error : String := "waiting for a named MapLifecycle sample"
  saved : Option Saved := none
  lastAction : String := "idle"

structure Status where
  mapId : String
  mode : String
  generation : Option ℕ
  savedPose : Option (Pose × PyValue)
  sidecarPath : String
  error : String
  lastAction : String

/-- What a call returns. -/
inductive Answer where
  | status (status : Status)
  | restored (saved : Saved)
  /-- The environment has changed something. -/
  | done

namespace InitialPoseStore

def status (store : InitialPoseStore) : Status where
  mapId := (store.identity.map MapIdentity.mapId).getD ""
  mode := (store.identity.map MapIdentity.mode).getD ""
  generation := store.identity.map MapIdentity.generation
  savedPose := store.saved.map fun saved => (saved.pose, saved.source)
  sidecarPath := (store.saved.map Saved.path).getD ""
  error := store.error
  lastAction := store.lastAction

variable {C : Type} (lib : Library C) (store : InitialPoseStore) (files : Files C)

/-- `_verify_artifact`. -/
def verifyArtifact (identity : MapIdentity) : Except Raised Unit :=
  let artifact := files.artifacts identity.mapId
  if ¬ (artifact.isDir ∧ artifact.hasDatabase) then
    .error (.initialPoseError s!"saved map artifact is missing for '{identity.mapId}'")
  else
    match artifact.generation.bind lib.parseInt with
    | none =>
      .error (.initialPoseError s!"saved map generation is unreadable for '{identity.mapId}'")
    | some diskGeneration =>
      if diskGeneration ≠ identity.generation then
        .error (.initialPoseError
          "live MapLifecycle generation does not match the saved map artifact")
      else .ok ()

/-- `value or {}`, for a value of a document. -/
def orEmpty : PyValue → PyValue
  | .none | .bool false | .int 0 | .str "" | .list [] => .dict []
  | .float x => if x = 0 then .dict [] else .float x
  | value => value

/-- The covariance of a seed that has none of its own. -/
def hintedCovariance (hint : PyValue) : Except Raised PyValue :=
  match hint with
  | .dict hint => do
    let xy ← finite lib ((hint.lookup "xy_variance").getD (.float (.fin (1 / 4)))) "xy_variance"
    let yaw ← finite lib
      ((hint.lookup "yaw_variance").getD (.float (.fin (6853891909122467 / 10 ^ 17))))
      "yaw_variance"
    return .list ((List.range 36).map fun index =>
      if index = 0 ∨ index = 7 then .float (.fin xy)
      else if index = 35 then .float (.fin yaw) else .float 0)
  | _ => .error .attributeError

/-- `_read_sidecar` of a document. -/
def readDocument (identity : MapIdentity) (document : PyValue) : Except Raised Saved :=
  match document with
  | .dict document => do
    if ¬ (PyValue.get document "schema").eqStr SCHEMA then
      throw (.initialPoseError "initial pose sidecar has an unsupported schema")
    let mapId ← mapIdOf lib (PyValue.get document "map_id")
    if mapId ≠ identity.mapId then
      throw (.initialPoseError "initial pose sidecar map_id does not match live map")
    let generation ← generationOf (PyValue.get document "map_generation") "map_generation"
    if generation ≠ identity.generation then
      throw (.initialPoseError "saved initial pose belongs to a different map generation")
    match PyValue.get document "pose" with
    | .dict pose =>
      let covariance ← match PyValue.get pose "covariance" with
        | .none => hintedCovariance lib (orEmpty (PyValue.get document "covariance_hint"))
        | covariance => .ok covariance
      let normalized ← normalizePose lib store.frameId
        [("frame_id", PyValue.get document "frame_id"), ("position", PyValue.get pose "position"),
          ("orientation", PyValue.get pose "orientation"), ("covariance", covariance)]
      return ⟨normalized, identity.mapId, identity.generation,
        orEmpty (PyValue.get document "source"),
        s!"{store.root}/{(SeedPath.sidecar identity.mapId).name}"⟩
    | _ => throw (.initialPoseError "initial pose sidecar has no pose")
  | _ => .error (.initialPoseError "initial pose sidecar has an unsupported schema")

/-- `_read_sidecar`. -/
def readSidecar (identity : MapIdentity) : Except Raised (Option Saved) :=
  match files.seeds (.sidecar identity.mapId) with
  | none => .ok none
  | some content =>
    match lib.safeLoad content with
    | .error detail => .error (.initialPoseError s!"initial pose sidecar is unreadable: {detail}")
    | .ok document => (readDocument lib store identity document).map some

/-- The identity that `observe_lifecycle` is told. -/
def identityOf (mapId mode generation : PyValue) : Except Raised MapIdentity := do
  let mapId ← mapIdOf lib mapId
  let generation ← generationOf generation "generation"
  let mode := lib.casefold (lib.strip (lib.text mode))
  if mode ≠ "mapping" ∧ mode ≠ "localization" then
    throw (.initialPoseError "MapLifecycle mode is unsupported")
  return ⟨mapId, mode, generation⟩

/-- The handler of `observe_lifecycle`. -/
def refuse (raised : Raised) : Except Raised Answer × InitialPoseStore :=
  match raised with
  | .initialPoseError detail =>
    let store := { store with identity := none, saved := none, error := detail }
    (.ok (.status store.status), store)
  | raised => (.error raised, { store with saved := none })

def observeLifecycle (mapId mode generation : PyValue) :
    Except Raised Answer × InitialPoseStore :=
  match identityOf lib mapId mode generation with
  | .error raised => store.refuse raised
  | .ok identity =>
    match verifyArtifact lib files identity with
    | .error raised => store.refuse raised
    | .ok () =>
      match readSidecar lib store files identity with
      | .error raised => { store with identity := some identity }.refuse raised
      | .ok saved =>
        let store := { store with
          identity := some identity
          saved := saved
          error := if saved.isSome then ""
            else "no operator initial pose saved for this map generation" }
        (.ok (.status store.status), store)

/-- `_require_identity`. -/
def requireIdentity : Except Raised MapIdentity :=
  match store.identity with
  | none =>
    .error (.initialPoseError
      (if store.error = "" then "live map identity is unavailable" else store.error))
  | some identity => (verifyArtifact lib files identity).map fun _ => identity

/-- `_require_localization_identity`. -/
def requireLocalizationIdentity : Except Raised MapIdentity := do
  let identity ← requireIdentity lib store files
  if identity.mode ≠ "localization" then
    throw (.initialPoseError "initial pose persistence requires localization mode")
  return identity

/-- The document that `save_operator_pose` writes. -/
def seedDocument (identity : MapIdentity) (pose : Pose) (capturedAt : String) : PyValue :=
  .dict [("schema", .str SCHEMA), ("map_id", .str identity.mapId),
    ("map_generation", .int identity.generation), ("frame_id", .str store.frameId),
    ("pose", .dict [
      ("position", .dict [("x", .float (.fin pose.position.1)),
        ("y", .float (.fin pose.position.2.1)), ("z", .float (.fin pose.position.2.2))]),
      ("orientation", .dict [("x", .float (.fin pose.orientation.1)),
        ("y", .float (.fin pose.orientation.2.1)), ("z", .float (.fin pose.orientation.2.2.1)),
        ("w", .float (.fin pose.orientation.2.2.2))]),
      ("covariance", .list (pose.covariance.map fun entry => .float (.fin entry)))]),
    ("source", .dict [("kind", .str "operator_initialpose_observed_by_dashboard"),
      ("captured_at", .str capturedAt)]),
    ("use", .dict [("note", .str ("Localization seed only. Restore only when the robot is " ++
      "physically at the same marked start pose. This is not a navigation goal or motion " ++
      "command."))])]

def saveOperatorPose (pose : Items) (stamp : Timestamp) (capturedAt : String) :
    Except Raised Answer × InitialPoseStore × Files C :=
  match requireLocalizationIdentity lib store files with
  | .error raised => (.error raised, store, files)
  | .ok identity =>
    match normalizePose lib store.frameId pose with
    | .error raised => (.error raised, store, files)
    | .ok normalized =>
      let path := SeedPath.sidecar identity.mapId
      let files := if (files.seeds path).isSome then files.copy path (.archive identity.mapId stamp)
        else files
      let files :=
        files.write path (lib.safeDump (store.seedDocument identity normalized capturedAt))
      match readSidecar lib store files identity with
      | .error raised => (.error raised, store, files)
      | .ok saved =>
        let store := { store with saved := saved, error := "", lastAction := "saved_operator_pose" }
        (.ok (.status store.status), store, files)

def restorePose (mapId generation : PyValue) : Except Raised Answer × InitialPoseStore :=
  let result : Except Raised Saved := do
    let identity ← requireLocalizationIdentity lib store files
    let mapId ← mapIdOf lib mapId
    if mapId ≠ identity.mapId then
      throw (.initialPoseError "restore confirmation does not match live map_id and generation")
    let generation ← generationOf generation "generation"
    if generation ≠ identity.generation then
      throw (.initialPoseError "restore confirmation does not match live map_id and generation")
    match ← readSidecar lib store files identity with
    | none => throw (.initialPoseError "no saved operator initial pose is available")
    | some saved => return saved
  match result with
  | .error raised => (.error raised, store)
  | .ok saved =>
    (.ok (.restored saved),
      { store with saved := some saved, error := "", lastAction := "restore_requested" })

def reset (confirmMapId generation : PyValue) (stamp : Timestamp) :
    Except Raised Answer × InitialPoseStore × Files C :=
  let result : Except Raised MapIdentity := do
    let identity ← requireIdentity lib store files
    let mapId ← mapIdOf lib confirmMapId
    if mapId ≠ identity.mapId then
      throw (.initialPoseError "reset confirmation does not match live map_id and generation")
    let generation ← generationOf generation "generation"
    if generation ≠ identity.generation then
      throw (.initialPoseError "reset confirmation does not match live map_id and generation")
    if (files.seeds (.sidecar identity.mapId)).isNone then
      throw (.initialPoseError "no active initial pose sidecar exists")
    return identity
  match result with
  | .error raised => (.error raised, store, files)
  | .ok identity =>
    let files := files.replace (.sidecar identity.mapId) (.disabled identity.mapId stamp)
    let store := { store with
      saved := none
      error := "operator initial pose reset; archived recoverably"
      lastAction := "reset_archived" }
    (.ok (.status store.status), store, files)

end InitialPoseStore

/-! ## The store at work -/

/-- A store and the map library. -/
structure Deployment (C : Type) where
  store : InitialPoseStore
  files : Files C

inductive StoreEvent where
  | observeLifecycle (mapId mode generation : PyValue)
  | saveOperatorPose (pose : Items) (stamp : Timestamp) (capturedAt : String)
  | restorePose (mapId generation : PyValue)
  | reset (confirmMapId generation : PyValue) (stamp : Timestamp)
  /-- The artifact of a map changes. -/
  | artifact (mapId : String) (artifact : Artifact)
  /-- The dashboard starts again. -/
  | restart

def poseStore {C : Type} (lib : Library C) :
    Machine (Deployment C) StoreEvent (Except Raised Answer) where
  step s
    | .observeLifecycle mapId mode generation =>
      let r := s.store.observeLifecycle lib s.files mapId mode generation
      (r.1, { s with store := r.2 })
    | .saveOperatorPose pose stamp capturedAt =>
      let r := s.store.saveOperatorPose lib s.files pose stamp capturedAt
      (r.1, ⟨r.2.1, r.2.2⟩)
    | .restorePose mapId generation =>
      let r := s.store.restorePose lib s.files mapId generation
      (r.1, { s with store := r.2 })
    | .reset confirmMapId generation stamp =>
      let r := s.store.reset lib s.files confirmMapId generation stamp
      (r.1, ⟨r.2.1, r.2.2⟩)
    | .artifact mapId artifact =>
      (.ok .done, { s with files := { s.files with
        artifacts := fun other => if other = mapId then artifact else s.files.artifacts other } })
    | .restart =>
      (.ok .done, { s with store := { root := s.store.root, frameId := s.store.frameId } })

end UnitreeGo2.Dashboard
