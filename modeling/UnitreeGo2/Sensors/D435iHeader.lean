import UnitreeGo2.Lib.Outcome
import UnitreeGo2.Lib.PyText
import UnitreeGo2.Lib.PyValue

/-!
# The header of a D435i frame

Every frame comes with a JSON object that the workstation validates against its stream plan.
Numbers are exact; what `float` reads of a text is given.
-/

namespace UnitreeGo2.Sensors.D435iHeader

inductive Raised where
  | configurationError (detail : String)
  | streamProtocolError (detail : String)
  /-- `float` refuses a value. -/
  | conversion (error : PyError)
  deriving DecidableEq, Repr

/-- The errors that the module raises itself. -/
def Raised.declared : Raised → Bool
  | conversion _ => false
  | _ => true

abbrev Raised.Named (raised : Raised) : Prop := raised.declared = true

/-! ## Stream plans -/

def DEFAULT_NAMESPACE : String := "/go2/d435i"

def DEFAULT_FRAME_ID : String := "d435i_color_optical_frame"

def CAPTURE_WIDTH : ℤ := 640

def CAPTURE_HEIGHT : ℤ := 480

def HARDWARE_FPS : ℤ := 30

def MAX_WIDTH : ℤ := 640

def MAX_HEIGHT : ℤ := 480

def MAX_PUBLISH_HZ : ℤ := 10

def DEPTH_METRES_PER_UNIT : ℚ := 1 / 1000

structure StreamPlan where
  namespacePath : String
  frameId : String
  width : ℤ
  height : ℤ
  hardwareFps : ℤ
  publishHz : ℤ
  serial : String
  deriving DecidableEq

def isLetter (c : Char) : Bool := c.isAlpha || c = '_'

/-- `[A-Za-z_][A-Za-z0-9_]*`, where the later characters may also be `extra` ones. -/
def isSegment (extra : Char → Bool) : List Char → Bool
  | [] => false
  | first :: rest => isLetter first && rest.all fun c => c.isAlphanum || c = '_' || extra c

def normalizeNamespace (value : String) : Except Raised String :=
  let parts := PyText.parts '/' (PyText.strip PyText.isSpace value.toList)
  if parts.isEmpty || parts.any (!isSegment (fun _ => false) ·) then
    .error (.configurationError "namespace must contain only ROS name segments")
  else .ok ("/" ++ "/".intercalate (parts.map String.ofList))

def validateFrameId (value : String) : Except Raised String :=
  let candidate := (PyText.strip PyText.isSpace value.toList).dropWhile (· = '/')
  if !isSegment (· = '/') candidate then
    .error (.configurationError "frame_id is not a valid relative ROS frame name")
  else .ok (String.ofList candidate)

def makeStreamPlan (namespacePath frameId : String)
    (width height hardwareFps publishHz : ℤ) (serial : String) : Except Raised StreamPlan :=
  if width ≤ 0 ∨ height ≤ 0 ∨ MAX_WIDTH < width ∨ MAX_HEIGHT < height then
    .error (.configurationError "resolution exceeds the approved 640x480 envelope")
  else if hardwareFps ≠ HARDWARE_FPS then
    .error (.configurationError "hardware capture must remain exactly 30 Hz")
  else if publishHz ≤ 0 ∨ MAX_PUBLISH_HZ < publishHz ∨ hardwareFps % publishHz ≠ 0 then
    .error (.configurationError "publish_hz must divide 30 and not exceed 10 Hz")
  else
    let cleanSerial := PyText.strip PyText.isSpace serial.toList
    if !cleanSerial.isEmpty && !cleanSerial.all Char.isAlphanum then
      .error (.configurationError "serial must be alphanumeric")
    else do
      let namespacePath ← normalizeNamespace namespacePath
      let frameId ← validateFrameId frameId
      return ⟨namespacePath, frameId, width, height, hardwareFps, publishHz,
        String.ofList cleanSerial⟩

/-- The resolution of a plan is within the envelope. -/
lemma makeStreamPlan_resolution {namespacePath frameId serial : String}
    {width height hardwareFps publishHz : ℤ} {plan : StreamPlan}
    (h : makeStreamPlan namespacePath frameId width height hardwareFps publishHz serial =
      .ok plan) :
    0 < plan.width ∧ plan.width ≤ CAPTURE_WIDTH ∧ 0 < plan.height ∧
      plan.height ≤ CAPTURE_HEIGHT := by
  rw [makeStreamPlan] at h
  split at h
  · cases h
  rename_i hresolution
  split at h
  · cases h
  split at h
  · cases h
  dsimp only at h
  split at h
  · cases h
  obtain ⟨_, -, h⟩ := Except.bind_eq_ok_iff.mp h
  obtain ⟨_, -, h⟩ := Except.bind_eq_ok_iff.mp h
  cases h
  simp only [MAX_WIDTH, MAX_HEIGHT, CAPTURE_WIDTH, CAPTURE_HEIGHT] at *
  omega

/-! ## Validation -/

abbrev Header := List (String × PyValue)

/-- The fields that a header must have. -/
def REQUIRED : List String :=
  ["sequence", "capture_unix_ns", "capture_monotonic_ns", "width", "height", "frame_id",
    "color_codec", "depth_codec", "depth_scale", "fx", "fy", "ppx", "ppy", "coefficients"]

/-- The fields of the intrinsics, in the order in which they are checked. -/
def INTRINSICS : List String := ["fx", "fy", "ppx", "ppy"]

section Validation

variable (parse : String → Option ExtRat)

/-- `float(value)`. -/
def toFloat (value : PyValue) : Except Raised ExtRat :=
  match value.toFloat parse with
  | .ok x => .ok x
  | .error error => .error (.conversion error)

def validateDepthScale (metresPerUnit : ExtRat) : Except Raised Unit :=
  if (ExtRat.fin (1 / 10 ^ 9)).lt (metresPerUnit.sub (.fin DEPTH_METRES_PER_UNIT)).abs then
    .error (.configurationError "D435i depth scale is not 0.001 m/unit; refusing 16UC1 output")
  else .ok ()

/-- The comparisons of `validate_header` that come before the first conversion. -/
def validateExact (header : Header) (plan : StreamPlan) : Except Raised Unit :=
  let field := PyValue.get header
  if !PyValue.hasExactKeys header REQUIRED then
    .error (.streamProtocolError "D435i header fields are not exact")
  else if ¬ ((field "sequence").int?.any (0 ≤ ·) ∧ (field "capture_unix_ns").int?.any (0 < ·) ∧
      (field "capture_monotonic_ns").int?.any (0 < ·)) then
    .error (.streamProtocolError "invalid D435i sequence or capture time")
  else if ¬ ((field "width").eqInt plan.width ∧ (field "height").eqInt plan.height) then
    .error (.streamProtocolError "D435i frame dimensions changed")
  else if !(field "frame_id").eqStr plan.frameId then
    .error (.streamProtocolError "D435i frame ID changed")
  else if !(field "color_codec").eqStr "jpeg-bgr8" then
    .error (.streamProtocolError "unexpected D435i color codec")
  else if !(field "depth_codec").eqStr "zlib-u16le" then
    .error (.streamProtocolError "unexpected D435i depth codec")
  else .ok ()

/-- The body of the loop over the intrinsics. -/
def validateIntrinsic (header : Header) (field : String) : Except Raised Unit := do
  let value ← toFloat parse (PyValue.get header field)
  if !value.isFinite then
    throw (.streamProtocolError "non-finite D435i intrinsic")
  if field ∈ ["fx", "fy"] ∧ value.le 0 then
    throw (.streamProtocolError "non-positive D435i focal length")

/-- `any(not math.isfinite(float(value)) for value in values)`. -/
def anyNonFinite : List PyValue → Except Raised Bool
  | [] => .ok false
  | value :: values => do
    let x ← toFloat parse value
    if x.isFinite then anyNonFinite values else .ok true

def validateCoefficients (coefficients : PyValue) : Except Raised Unit :=
  match coefficients with
  | .list values =>
    if 8 < values.length then
      .error (.streamProtocolError "invalid D435i distortion coefficients")
    else do
      if ← anyNonFinite parse values then
        throw (.streamProtocolError "non-finite D435i distortion coefficient")
  | _ => .error (.streamProtocolError "invalid D435i distortion coefficients")

def validateHeader (header : Header) (plan : StreamPlan) : Except Raised Header := do
  validateExact header plan
  validateDepthScale (← toFloat parse (PyValue.get header "depth_scale"))
  INTRINSICS.forM (validateIntrinsic parse header)
  validateCoefficients parse (PyValue.get header "coefficients")
  return header

end Validation

/-! ## The producer -/

/-- The intrinsics of a camera. -/
structure Intrinsics where
  fx : ExtRat
  fy : ExtRat
  ppx : ExtRat
  ppy : ExtRat
  coeffs : List ExtRat

/-- `_remote_header`. -/
def remoteHeader (sequence captureUnixNs captureMonotonicNs : ℤ) (plan : StreamPlan)
    (intrinsics : Intrinsics) : Header :=
  let scaleX : ExtRat := .fin (plan.width / CAPTURE_WIDTH)
  let scaleY : ExtRat := .fin (plan.height / CAPTURE_HEIGHT)
  [("sequence", .int sequence), ("capture_unix_ns", .int captureUnixNs),
    ("capture_monotonic_ns", .int captureMonotonicNs), ("width", .int plan.width),
    ("height", .int plan.height), ("frame_id", .str plan.frameId),
    ("color_codec", .str "jpeg-bgr8"), ("depth_codec", .str "zlib-u16le"),
    ("depth_scale", .float (.fin DEPTH_METRES_PER_UNIT)),
    ("fx", .float (intrinsics.fx.mul scaleX)), ("fy", .float (intrinsics.fy.mul scaleY)),
    ("ppx", .float (intrinsics.ppx.mul scaleX)), ("ppy", .float (intrinsics.ppy.mul scaleY)),
    ("coefficients", .list (intrinsics.coeffs.map .float))]

/-! ## What a header has to be -/

/-- The number that a value of a JSON document is, if a float can hold it. -/
def number? : PyValue → Option ℚ
  | .int n => if |n| < PyValue.floatOverflow then some n else none
  | .float (.fin x) => some x
  | _ => none

/-- The header of a frame of the plan. -/
structure Exact (header : Header) (plan : StreamPlan) : Prop where
  keys : PyValue.hasExactKeys header REQUIRED = true
  sequence : (PyValue.get header "sequence").exactInt?.any (0 ≤ ·) = true
  captureUnixNs : (PyValue.get header "capture_unix_ns").exactInt?.any (0 < ·) = true
  captureMonotonicNs : (PyValue.get header "capture_monotonic_ns").exactInt?.any (0 < ·) = true
  width : (PyValue.get header "width").eqInt plan.width = true
  height : (PyValue.get header "height").eqInt plan.height = true
  frameId : (PyValue.get header "frame_id").eqStr plan.frameId = true
  colorCodec : (PyValue.get header "color_codec").eqStr "jpeg-bgr8" = true
  depthCodec : (PyValue.get header "depth_codec").eqStr "zlib-u16le" = true
  depthScale : ∃ x, number? (PyValue.get header "depth_scale") = some x ∧
    |x - DEPTH_METRES_PER_UNIT| ≤ 1 / 10 ^ 9
  intrinsics : ∀ field ∈ INTRINSICS, ∃ x, number? (PyValue.get header field) = some x ∧
    (field ∈ ["fx", "fy"] → 0 < x)
  coefficients : ∃ values, PyValue.get header "coefficients" = .list values ∧
    values.length ≤ 8 ∧ ∀ value ∈ values, (number? value).isSome = true

section Readings

variable (parse : String → Option ExtRat)

/-- The validation accepts the header of a frame of the plan, and refuses every other header with
an error of the module. -/
def Validates (header : Header) (plan : StreamPlan) : Prop :=
  (Exact header plan ∧ validateHeader parse header plan = .ok header) ∨
    (¬ Exact header plan ∧ ∃ raised, raised.declared = true ∧
      validateHeader parse header plan = .error raised)

/-- A value that is converted, with the test of the float. -/
abbrev Reading := PyValue × (ExtRat → Bool)

def depthScaleFits (x : ExtRat) : Bool :=
  !(ExtRat.fin (1 / 10 ^ 9)).lt (x.sub (.fin DEPTH_METRES_PER_UNIT)).abs

def intrinsicFits (field : String) (x : ExtRat) : Bool :=
  x.isFinite && !(field ∈ ["fx", "fy"] && x.le 0)

/-- The values that are converted, in their order. -/
def readings (header : Header) : List Reading :=
  (PyValue.get header "depth_scale", depthScaleFits) ::
    (INTRINSICS.map fun field => (PyValue.get header field, intrinsicFits field)) ++
    match PyValue.get header "coefficients" with
    | .list values => if 8 < values.length then [] else values.map (·, ExtRat.isFinite)
    | _ => []

/-- The coefficients are a list of at most eight values. -/
def HasCoefficients (header : Header) : Prop :=
  ∃ values, PyValue.get header "coefficients" = .list values ∧ values.length ≤ 8

/-- `float` reads a value, and the test lets the float pass. -/
def Reads (reading : Reading) : Prop :=
  ∃ x, reading.1.toFloat parse = .ok x ∧ reading.2 x = true

/-- `float` refuses a value. -/
def Raises (reading : Reading) : Prop := ∃ error, reading.1.toFloat parse = .error error

/-- `float` makes a number of a value that is none. -/
def isCoerced : PyValue → Bool
  | .bool _ | .str _ => true
  | _ => false

/-- A boolean stands for a time or a number, a text for a number, or NaN for the depth scale. -/
def Coerces (header : Header) : Prop :=
  (∃ field ∈ ["sequence", "capture_unix_ns", "capture_monotonic_ns"], ∃ b,
    PyValue.get header field = .bool b) ∨
  PyValue.get header "depth_scale" = .float .nan ∨
  ∃ reading ∈ readings header, isCoerced reading.1 = true

/-- A header whose exact fields are those of the plan reaches a value that `float` refuses, or its
other values pass by coercion. -/
def Slips (header : Header) (plan : StreamPlan) : Prop :=
  validateExact header plan = .ok () ∧
    ((readings header).Reaches (Reads parse) (Raises parse) ∨
      (∀ reading ∈ readings header, Reads parse reading) ∧ HasCoefficients header ∧
        Coerces header)

/-! ## Stages -/

lemma toFloat_eq_ok_iff {value : PyValue} {x : ExtRat} :
    toFloat parse value = .ok x ↔ value.toFloat parse = .ok x := by
  rw [toFloat]
  cases value.toFloat parse <;> simp

lemma toFloat_of_error {value : PyValue} {error : PyError}
    (h : value.toFloat parse = .error error) :
    toFloat parse value = .error (.conversion error) := by
  rw [toFloat, h]

/-- What a stage of the validation does with readings: it passes if they are all read, and what
`float` raises escapes. -/
abbrev Stage (stage : Except Raised Unit) (readings : List Reading) : Prop :=
  Except.Outcome Raised.Named stage (fun _ => ∀ reading ∈ readings, Reads parse reading)
    (readings.Reaches (Reads parse) (Raises parse))

/-- One value is converted, and the validation goes on as the test of the float says. -/
lemma outcome_convert {value : PyValue} (test : ExtRat → Bool) {next : ExtRat → Except Raised Unit}
    (hpasses : ∀ x, test x = true → next x = .ok ())
    (hfails : ∀ x, test x = false → ∃ raised, next x = .error raised ∧ raised.Named) :
    Except.Outcome Raised.Named (toFloat parse value >>= next)
      (fun _ => Reads parse (value, test)) (Raises parse (value, test)) := by
  cases hvalue : value.toFloat parse with
  | ok x =>
    have hread : toFloat parse value >>= next = next x := by
      rw [(toFloat_eq_ok_iff parse).mpr hvalue]
      rfl
    have hnever : ¬ Raises parse (value, test) := by
      rintro ⟨error, herror⟩
      cases hvalue.symm.trans herror
    rw [hread]
    cases htest : test x with
    | true =>
      have hreads : Reads parse (value, test) := ⟨x, hvalue, htest⟩
      rw [hpasses x htest]
      exact (Except.Outcome.ok ()).congr (by simp [hreads]) (by simp [hnever])
    | false =>
      obtain ⟨raised, hraised, hdeclared⟩ := hfails x htest
      have hreads : ¬ Reads parse (value, test) := by
        rintro ⟨x', hvalue', htest'⟩
        obtain rfl := Except.ok.inj (hvalue.symm.trans hvalue')
        cases htest.symm.trans htest'
      rw [hraised]
      exact (Except.Outcome.raise hdeclared).congr (by simp [hreads]) (by simp [hnever])
  | error error =>
    have hreads : ¬ Reads parse (value, test) := by
      rintro ⟨x, hread, -⟩
      cases hvalue.symm.trans hread
    have hraises : Raises parse (value, test) := ⟨error, hvalue⟩
    have hescapes : ¬ Raised.Named (.conversion error) := Bool.false_ne_true
    rw [toFloat_of_error parse hvalue]
    exact (Except.Outcome.escape hescapes).congr (by simp [hreads]) (by simp [hraises])

lemma stage_depthScale (value : PyValue) :
    Stage parse (toFloat parse value >>= validateDepthScale) [(value, depthScaleFits)] := by
  refine (outcome_convert parse depthScaleFits (fun x htest => ?_) fun x htest => ?_).congr
    (by simp) (by simp [List.reaches_cons_iff, List.reaches_nil])
  · rw [depthScaleFits, Bool.not_eq_true'] at htest
    rw [validateDepthScale, htest]
    rfl
  · rw [depthScaleFits, Bool.not_eq_false'] at htest
    exact ⟨_, by rw [validateDepthScale, htest]; rfl, rfl⟩

lemma outcome_intrinsic (header : Header) (field : String) :
    Except.Outcome Raised.Named (validateIntrinsic parse header field)
      (fun _ => Reads parse (PyValue.get header field, intrinsicFits field))
      (Raises parse (PyValue.get header field, intrinsicFits field)) := by
  refine outcome_convert parse _ (fun x htest => ?_) fun x htest => ?_
  · rw [intrinsicFits, Bool.and_eq_true, Bool.not_eq_true'] at htest
    obtain ⟨hfinite, hpositive⟩ := htest
    have hpositive' : ¬ (field ∈ ["fx", "fy"] ∧ x.le 0 = true) := by simpa using hpositive
    simp [hfinite, hpositive', -List.mem_cons]
    rfl
  · by_cases hfinite : x.isFinite = true
    · rw [intrinsicFits, hfinite, Bool.true_and, Bool.not_eq_false'] at htest
      have hpositive : field ∈ ["fx", "fy"] ∧ x.le 0 = true := by simpa using htest
      exact ⟨_, by simp [hfinite, hpositive, -List.mem_cons]; rfl, rfl⟩
    · rw [Bool.not_eq_true] at hfinite
      exact ⟨_, by simp [hfinite]; rfl, rfl⟩

lemma stage_intrinsics (header : Header) :
    Stage parse (INTRINSICS.forM (validateIntrinsic parse header))
      (INTRINSICS.map fun field => (PyValue.get header field, intrinsicFits field)) :=
  (Except.Outcome.forM (outcome_intrinsic parse header)).congr
    (fun _ => by rw [List.forall_mem_map]) List.reaches_map_iff.symm

/-- The test of the coefficients, one after another. -/
def requireFinite (parse : String → Option ExtRat) (values : List PyValue) :
    Except Raised Unit := do
  if ← anyNonFinite parse values then
    throw (.streamProtocolError "non-finite D435i distortion coefficient")

/-- The step of the test. -/
def requireFiniteValue (parse : String → Option ExtRat) (value : PyValue) :
    Except Raised Unit := do
  let x ← toFloat parse value
  if x.isFinite then .ok ()
    else .error (.streamProtocolError "non-finite D435i distortion coefficient")

lemma requireFinite_eq (values : List PyValue) :
    requireFinite parse values = values.forM (requireFiniteValue parse) := by
  induction values with
  | nil => rfl
  | cons value values ih =>
    change _ = requireFiniteValue parse value >>= fun _ => values.forM (requireFiniteValue parse)
    rw [← ih, requireFinite, requireFinite, anyNonFinite, requireFiniteValue]
    cases toFloat parse value with
    | error raised => rfl
    | ok x =>
      cases hfinite : x.isFinite with
      | true => simp [bind, Except.bind, hfinite]
      | false => simp [bind, Except.bind, hfinite]; rfl

lemma stage_coefficients (values : List PyValue) :
    Stage parse (requireFinite parse values) (values.map (·, ExtRat.isFinite)) := by
  have hvalue (value : PyValue) : Except.Outcome Raised.Named
      (requireFiniteValue parse value) (fun _ => Reads parse (value, ExtRat.isFinite))
      (Raises parse (value, ExtRat.isFinite)) := by
    refine outcome_convert parse ExtRat.isFinite (fun x htest => ?_) fun x htest => ?_
    · rw [if_pos htest]
    · exact ⟨_, if_neg (by simp [htest]), rfl⟩
  rw [requireFinite_eq]
  exact (Except.Outcome.forM hvalue).congr (fun _ => by rw [List.forall_mem_map])
    List.reaches_map_iff.symm

/-- Two stages, one after the other. -/
lemma Stage.bind {parse : String → Option ExtRat} {stage stage' : Except Raised Unit}
    {first rest : List Reading} (h : Stage parse stage first) (h' : Stage parse stage' rest) :
    Stage parse (stage >>= fun _ => stage') (first ++ rest) := by
  refine (Except.Outcome.bind h fun _ _ => h').congr (fun _ => ?_) ?_
  · rw [List.forall_mem_append]
    exact ⟨fun ⟨_, hboth⟩ => hboth, fun hboth => ⟨(), hboth⟩⟩
  · rw [List.reaches_append_iff]
    exact or_congr_right ⟨fun ⟨_, hboth⟩ => hboth, fun hboth => ⟨(), hboth⟩⟩

/-! ## The whole header -/

lemma validateExact_declared {header : Header} {plan : StreamPlan} {raised : Raised}
    (h : validateExact header plan = .error raised) : raised.declared = true := by
  rw [validateExact] at h
  split_ifs at h <;> cases h <;> rfl

/-- The part of the validation behind the exact fields. -/
def validateReadings (parse : String → Option ExtRat) (header : Header) : Except Raised Unit :=
  ((toFloat parse (PyValue.get header "depth_scale") >>= validateDepthScale) >>=
    fun _ => INTRINSICS.forM (validateIntrinsic parse header)) >>=
      fun _ => validateCoefficients parse (PyValue.get header "coefficients")

lemma validateHeader_eq (header : Header) (plan : StreamPlan) :
    validateHeader parse header plan =
      validateExact header plan >>= fun _ => validateReadings parse header >>= fun _ =>
        .ok header := by
  rw [validateHeader, validateReadings]
  simp only [bind_assoc]
  rfl

/-- The readings without the coefficients. -/
def scaleReadings (header : Header) : List Reading :=
  (PyValue.get header "depth_scale", depthScaleFits) ::
    INTRINSICS.map fun field => (PyValue.get header field, intrinsicFits field)

lemma stage_scale (header : Header) :
    Stage parse ((toFloat parse (PyValue.get header "depth_scale") >>= validateDepthScale) >>=
      fun _ => INTRINSICS.forM (validateIntrinsic parse header)) (scaleReadings header) :=
  (stage_depthScale parse _).bind (stage_intrinsics parse header)

/-- The coefficients are a list of values that are converted, or they are refused at once. -/
lemma validateCoefficients_cases (header : Header) :
    (∃ values, PyValue.get header "coefficients" = .list values ∧ values.length ≤ 8 ∧
      readings header = scaleReadings header ++ values.map (·, ExtRat.isFinite) ∧
      validateCoefficients parse (PyValue.get header "coefficients") =
        requireFinite parse values) ∨
    ¬ HasCoefficients header ∧ readings header = scaleReadings header ++ [] ∧
      ∃ raised, raised.Named ∧
        validateCoefficients parse (PyValue.get header "coefficients") = .error raised := by
  have hreadings (last : List Reading) (h : (match PyValue.get header "coefficients" with
      | .list values => if 8 < values.length then [] else values.map (·, ExtRat.isFinite)
      | _ => []) = last) : readings header = scaleReadings header ++ last := by
    rw [readings, h]
    rfl
  by_cases hcoefficients : HasCoefficients header
  · obtain ⟨values, hvalues, hlength⟩ := hcoefficients
    refine .inl ⟨values, hvalues, hlength, hreadings _ ?_, ?_⟩
    · rw [hvalues]
      exact if_neg (not_lt.mpr hlength)
    · rw [hvalues, validateCoefficients, if_neg (not_lt.mpr hlength), requireFinite]
  · refine .inr ⟨hcoefficients, hreadings _ ?_, ?_⟩
    · split
      · rename_i values hvalues
        exact if_pos (not_le.mp fun hlength => hcoefficients ⟨values, hvalues, hlength⟩)
      · rfl
    · rw [validateCoefficients.eq_def]
      split
      · rename_i values hvalues
        rw [if_pos (not_le.mp fun hlength => hcoefficients ⟨values, hvalues, hlength⟩)]
        exact ⟨_, rfl, rfl⟩
      · exact ⟨_, rfl, rfl⟩

lemma validateReadings_outcome (header : Header) :
    Except.Outcome Raised.Named (validateReadings parse header)
      (fun _ => (∀ reading ∈ readings header, Reads parse reading) ∧ HasCoefficients header)
      ((readings header).Reaches (Reads parse) (Raises parse)) := by
  rw [validateReadings]
  rcases validateCoefficients_cases parse header with
    ⟨values, hvalues, hlength, hreadings, heq⟩ | ⟨hnone, hreadings, raised, hdeclared, heq⟩
  · rw [heq, hreadings]
    refine ((stage_scale parse header).bind (stage_coefficients parse values)).congr
      (fun _ => ?_) Iff.rfl
    exact ⟨fun hreads => ⟨hreads, values, hvalues, hlength⟩, And.left⟩
  · rw [heq, hreadings, List.append_nil]
    refine (Except.Outcome.bind (stage_scale parse header)
      fun _ _ => Except.Outcome.raise hdeclared).congr
      (fun _ => ?_) ?_
    · simp [hnone]
    · simp

/-! ## Numbers -/

/-- A value is a number that passes the test. -/
def Measures (reading : Reading) : Prop :=
  ∃ x, number? reading.1 = some x ∧ reading.2 (.fin x) = true

lemma number?_eq_some_iff {value : PyValue} {x : ℚ} :
    number? value = some x ↔ value.toFloat parse = .ok (.fin x) ∧ isCoerced value = false := by
  cases value with
  | int n =>
    rw [number?, PyValue.toFloat]
    split_ifs <;> simp [isCoerced]
  | float y =>
    cases y <;> simp [number?, PyValue.toFloat, isCoerced]
  | none => simp [number?, PyValue.toFloat]
  | bool b => simp [number?, isCoerced]
  | str text => simp [number?, isCoerced]
  | list items => simp [number?, PyValue.toFloat]
  | dict items => simp [number?, PyValue.toFloat]

/-- Where a test passes no infinity, a number is a value that is read without coercion, and not
NaN. -/
lemma measures_iff {reading : Reading} (htest : ∀ s, reading.2 (.inf s) = false) :
    Measures reading ↔ Reads parse reading ∧ isCoerced reading.1 = false ∧
      reading.1 ≠ .float .nan := by
  constructor
  · rintro ⟨x, hnumber, hpasses⟩
    obtain ⟨hread, hplain⟩ := (number?_eq_some_iff parse).mp hnumber
    refine ⟨⟨.fin x, hread, hpasses⟩, hplain, fun hnan => ?_⟩
    rw [hnan] at hnumber
    cases hnumber
  · rintro ⟨⟨x, hread, hpasses⟩, hplain, hnan⟩
    cases x with
    | fin x => exact ⟨x, (number?_eq_some_iff parse).mpr ⟨hread, hplain⟩, hpasses⟩
    | inf s => cases (htest s).symm.trans hpasses
    | nan =>
      cases hvalue : reading.1 with
      | float y =>
        rw [hvalue] at hread hnan
        exact absurd (congrArg PyValue.float (Except.ok.inj hread)) hnan
      | int n =>
        rw [hvalue, PyValue.toFloat] at hread
        split_ifs at hread
        cases hread
      | bool b => cases (hvalue ▸ hplain : isCoerced (.bool b) = false)
      | str text => cases (hvalue ▸ hplain : isCoerced (.str text) = false)
      | none => cases (hvalue ▸ hread : PyValue.toFloat parse .none = .ok .nan)
      | list items => cases (hvalue ▸ hread : PyValue.toFloat parse (.list items) = .ok .nan)
      | dict items => cases (hvalue ▸ hread : PyValue.toFloat parse (.dict items) = .ok .nan)

/-- The tests of the readings pass no infinity, and NaN for the depth scale only. -/
lemma readings_test {header : Header} {reading : Reading} (h : reading ∈ readings header) :
    (∀ s, reading.2 (.inf s) = false) ∧
      (reading.2 .nan = true → reading.1 = PyValue.get header "depth_scale") := by
  rw [readings, List.mem_append, List.mem_cons, List.mem_map] at h
  rcases h with (rfl | ⟨field, -, rfl⟩) | hcoefficient
  · exact ⟨fun s => by cases s <;> rfl, fun _ => rfl⟩
  · exact ⟨fun s => rfl, fun hnan => (by cases hnan)⟩
  · split at hcoefficient
    · split_ifs at hcoefficient
      · cases hcoefficient
      · obtain ⟨value, -, rfl⟩ := List.mem_map.mp hcoefficient
        exact ⟨fun s => rfl, fun hnan => (by cases hnan)⟩
    · cases hcoefficient

lemma depthScaleFits_fin (x : ℚ) :
    depthScaleFits (.fin x) = true ↔ |x - DEPTH_METRES_PER_UNIT| ≤ 1 / 10 ^ 9 := by
  rw [depthScaleFits, ExtRat.sub_fin, ExtRat.abs_fin, Bool.not_eq_true', ← Bool.not_eq_true,
    ExtRat.lt_fin, not_lt]

lemma intrinsicFits_fin (field : String) (x : ℚ) :
    intrinsicFits field (.fin x) = true ↔ (field ∈ ["fx", "fy"] → 0 < x) := by
  rw [intrinsicFits, ExtRat.isFinite_fin, Bool.true_and, Bool.not_eq_true', ← Bool.not_eq_true,
    Bool.and_eq_true, decide_eq_true_eq, ExtRat.zero_def, ExtRat.le_fin, not_and, not_le]

lemma exactInt?_any_iff {value : PyValue} {p : ℤ → Bool} :
    value.exactInt?.any p = true ↔ value.int?.any p = true ∧ ∀ b, value ≠ .bool b := by
  cases value <;> simp [PyValue.exactInt?, PyValue.int?]

lemma validateExact_ok_iff {header : Header} {plan : StreamPlan} :
    validateExact header plan = .ok () ↔
      PyValue.hasExactKeys header REQUIRED = true ∧
      ((PyValue.get header "sequence").int?.any (0 ≤ ·) = true ∧
        (PyValue.get header "capture_unix_ns").int?.any (0 < ·) = true ∧
        (PyValue.get header "capture_monotonic_ns").int?.any (0 < ·) = true) ∧
      ((PyValue.get header "width").eqInt plan.width = true ∧
        (PyValue.get header "height").eqInt plan.height = true) ∧
      (PyValue.get header "frame_id").eqStr plan.frameId = true ∧
      (PyValue.get header "color_codec").eqStr "jpeg-bgr8" = true ∧
      (PyValue.get header "depth_codec").eqStr "zlib-u16le" = true := by
  rw [validateExact]
  split_ifs <;> simp_all

/-- The values that are converted are numbers that pass, and the coefficients are a short list. -/
lemma measures_readings_iff (header : Header) :
    (∀ reading ∈ readings header, Measures reading) ∧ HasCoefficients header ↔
      (∃ x, number? (PyValue.get header "depth_scale") = some x ∧
        |x - DEPTH_METRES_PER_UNIT| ≤ 1 / 10 ^ 9) ∧
      (∀ field ∈ INTRINSICS, ∃ x, number? (PyValue.get header field) = some x ∧
        (field ∈ ["fx", "fy"] → 0 < x)) ∧
      ∃ values, PyValue.get header "coefficients" = .list values ∧ values.length ≤ 8 ∧
        ∀ value ∈ values, (number? value).isSome = true := by
  have hscale : (∀ reading ∈ scaleReadings header, Measures reading) ↔
      (∃ x, number? (PyValue.get header "depth_scale") = some x ∧
        |x - DEPTH_METRES_PER_UNIT| ≤ 1 / 10 ^ 9) ∧
      (∀ field ∈ INTRINSICS, ∃ x, number? (PyValue.get header field) = some x ∧
        (field ∈ ["fx", "fy"] → 0 < x)) := by
    rw [scaleReadings, List.forall_mem_cons, List.forall_mem_map]
    simp only [Measures, depthScaleFits_fin, intrinsicFits_fin]
  have hvalue (value : PyValue) :
      Measures (value, ExtRat.isFinite) ↔ (number? value).isSome = true := by
    rw [Option.isSome_iff_exists]
    simp [Measures]
  rw [← and_assoc, ← hscale]
  rcases validateCoefficients_cases (fun _ => none) header with
    ⟨values, hvalues, hlength, hreadings, -⟩ | ⟨hnone, hreadings, -⟩
  · rw [hreadings, List.forall_mem_append, List.forall_mem_map]
    simp only [hvalue]
    constructor
    · rintro ⟨⟨hfirst, hrest⟩, -⟩
      exact ⟨hfirst, values, hvalues, hlength, hrest⟩
    · rintro ⟨hfirst, values', hvalues', hlength', hrest⟩
      obtain rfl := PyValue.list.inj (hvalues.symm.trans hvalues')
      exact ⟨⟨hfirst, hrest⟩, values, hvalues, hlength⟩
  · refine ⟨fun h => absurd h.2 hnone, ?_⟩
    rintro ⟨-, values, hvalues, hlength, -⟩
    exact absurd ⟨values, hvalues, hlength⟩ hnone

/-- The readings measure if they are read, but for what is coerced. -/
lemma measures_iff_reads {header : Header} :
    (∀ reading ∈ readings header, Measures reading) ↔
      (∀ reading ∈ readings header, Reads parse reading) ∧
        PyValue.get header "depth_scale" ≠ .float .nan ∧
          ∀ reading ∈ readings header, isCoerced reading.1 = false := by
  have hscale : (PyValue.get header "depth_scale", depthScaleFits) ∈ readings header :=
    List.mem_append_left _ List.mem_cons_self
  constructor
  · intro h
    have hparts (reading : Reading) (hreading : reading ∈ readings header) :=
      (measures_iff parse (readings_test hreading).1).mp (h reading hreading)
    exact ⟨fun reading hreading => (hparts reading hreading).1, (hparts _ hscale).2.2,
      fun reading hreading => (hparts reading hreading).2.1⟩
  · rintro ⟨hreads, hscale, hplain⟩ reading hreading
    obtain ⟨htest, hnan⟩ := readings_test hreading
    refine (measures_iff parse htest).mpr
      ⟨hreads reading hreading, hplain reading hreading, fun hvalue => ?_⟩
    obtain ⟨x, hread, hpasses⟩ := hreads reading hreading
    rw [hvalue] at hread
    obtain rfl := Except.ok.inj hread
    exact hscale ((hnan hpasses).symm.trans hvalue)

/-- The header is that of a frame exactly if it is accepted and nothing in it is coerced. -/
lemma exact_iff {header : Header} {plan : StreamPlan} :
    Exact header plan ↔ validateExact header plan = .ok () ∧
      ((∀ reading ∈ readings header, Reads parse reading) ∧ HasCoefficients header) ∧
        ¬ Coerces header := by
  have hmeasures := measures_readings_iff header
  rw [measures_iff_reads parse] at hmeasures
  constructor
  · intro h
    obtain ⟨⟨hreads, hscale, hplain⟩, hcoefficients⟩ :=
      hmeasures.mpr ⟨h.depthScale, h.intrinsics, h.coefficients⟩
    obtain ⟨hsequence, hsequence'⟩ := exactInt?_any_iff.mp h.sequence
    obtain ⟨hunix, hunix'⟩ := exactInt?_any_iff.mp h.captureUnixNs
    obtain ⟨hmonotonic, hmonotonic'⟩ := exactInt?_any_iff.mp h.captureMonotonicNs
    refine ⟨validateExact_ok_iff.mpr ⟨h.keys, ⟨hsequence, hunix, hmonotonic⟩,
      ⟨h.width, h.height⟩, h.frameId, h.colorCodec, h.depthCodec⟩, ⟨hreads, hcoefficients⟩, ?_⟩
    rintro (⟨field, hfield, b, hbool⟩ | hnan | ⟨reading, hreading, hcoerced⟩)
    · simp only [List.mem_cons, List.not_mem_nil, or_false] at hfield
      rcases hfield with rfl | rfl | rfl
      · exact hsequence' b hbool
      · exact hunix' b hbool
      · exact hmonotonic' b hbool
    · exact hscale hnan
    · cases (hplain reading hreading).symm.trans hcoerced
  · rintro ⟨hexact, ⟨hreads, hcoefficients⟩, hcoerces⟩
    obtain ⟨hkeys, ⟨hsequence, hunix, hmonotonic⟩, ⟨hwidth, hheight⟩, hframe, hcolor, hdepth⟩ :=
      validateExact_ok_iff.mp hexact
    have hplain (reading : Reading) (hreading : reading ∈ readings header) :
        isCoerced reading.1 = false :=
      Bool.eq_false_iff.mpr fun hcoerced => hcoerces (.inr (.inr ⟨reading, hreading, hcoerced⟩))
    have htime (field : String)
        (hfield : field ∈ ["sequence", "capture_unix_ns", "capture_monotonic_ns"]) (b : Bool) :
        PyValue.get header field ≠ .bool b :=
      fun hbool => hcoerces (.inl ⟨field, hfield, b, hbool⟩)
    obtain ⟨hscale, hintrinsics, hvalues⟩ := hmeasures.mp
      ⟨⟨hreads, fun hnan => hcoerces (.inr (.inl hnan)), hplain⟩, hcoefficients⟩
    exact ⟨hkeys, exactInt?_any_iff.mpr ⟨hsequence, htime _ (by simp)⟩,
      exactInt?_any_iff.mpr ⟨hunix, htime _ (by simp)⟩,
      exactInt?_any_iff.mpr ⟨hmonotonic, htime _ (by simp)⟩, hwidth, hheight, hframe, hcolor,
      hdepth, hscale, hintrinsics, hvalues⟩

/-- The validation does what it is to do exactly if nothing slips. -/
lemma validates_iff (header : Header) (plan : StreamPlan) :
    Validates parse header plan ↔ ¬ Slips parse header plan := by
  have houtcome := validateReadings_outcome parse header
  rw [Validates, Slips, validateHeader_eq, exact_iff parse]
  cases hexact : validateExact header plan with
  | error raised =>
    refine ⟨fun _ h => (by cases h.1), fun _ => .inr ⟨fun h => (by cases h.1), raised, ?_, rfl⟩⟩
    exact validateExact_declared hexact
  | ok _ =>
    cases hreadings : validateReadings parse header with
    | ok _ =>
      obtain ⟨hreads, hcoefficients⟩ := (houtcome.returns_iff ()).mp hreadings
      have hnever : ¬ (readings header).Reaches (Reads parse) (Raises parse) := fun hreaches => by
        obtain ⟨raised, herror, -⟩ := houtcome.escapes_iff.mpr hreaches
        cases hreadings.symm.trans herror
      by_cases hcoerces : Coerces header
      · refine ⟨?_, fun h => absurd ⟨rfl, .inr ⟨hreads, hcoefficients, hcoerces⟩⟩ h⟩
        rintro (⟨⟨-, -, hplain⟩, -⟩ | ⟨-, raised, -, hraised⟩)
        · exact absurd hcoerces hplain
        · cases hraised
      · refine ⟨fun _ => ?_, fun _ => .inl ⟨⟨rfl, ⟨hreads, hcoefficients⟩, hcoerces⟩, rfl⟩⟩
        rintro ⟨-, hreaches | ⟨-, -, h⟩⟩
        · exact hnever hreaches
        · exact hcoerces h
    | error raised =>
      have hrefused : ¬ ((∀ reading ∈ readings header, Reads parse reading) ∧
          HasCoefficients header) := fun hreads => by
        cases hreadings.symm.trans ((houtcome.returns_iff ()).mpr hreads)
      by_cases hnamed : raised.declared = true
      · refine ⟨fun _ => ?_, fun _ => .inr ⟨fun h => absurd h.2.1 hrefused, _, hnamed, rfl⟩⟩
        rintro ⟨-, hreaches | ⟨hreads, hcoefficients, -⟩⟩
        · obtain ⟨other, herror, hother⟩ := houtcome.escapes_iff.mpr hreaches
          obtain rfl := Except.error.inj (hreadings.symm.trans herror)
          exact hother hnamed
        · exact hrefused ⟨hreads, hcoefficients⟩
      · have hreaches := houtcome.escapes_iff.mp ⟨raised, hreadings, hnamed⟩
        refine ⟨?_, fun h => absurd ⟨rfl, .inl hreaches⟩ h⟩
        rintro (⟨⟨-, h, -⟩, -⟩ | ⟨-, other, hother, herror⟩)
        · exact absurd h hrefused
        · cases herror
          exact absurd hother hnamed

end Readings

/-! ## What the producer sends -/

/-- The intrinsics of a working camera. -/
structure Intrinsics.Usable (intrinsics : Intrinsics) : Prop where
  fx : ∃ x, intrinsics.fx = .fin x ∧ 0 < x
  fy : ∃ x, intrinsics.fy = .fin x ∧ 0 < x
  ppx : intrinsics.ppx.isFinite = true
  ppy : intrinsics.ppy.isFinite = true
  length : intrinsics.coeffs.length ≤ 8
  coeffs : ∀ value ∈ intrinsics.coeffs, value.isFinite = true

lemma isSome_number? {x : ExtRat} (h : x.isFinite = true) :
    ∃ y, x = .fin y ∧ number? (.float x) = some y := by
  cases x with
  | fin y => exact ⟨y, rfl, rfl⟩
  | inf s => cases h
  | nan => cases h

/-- The producer sends the header of a frame of its plan. -/
lemma remoteHeader_exact {plan : StreamPlan} (hwidth : 0 < plan.width) (hheight : 0 < plan.height)
    {sequence captureUnixNs captureMonotonicNs : ℤ} {intrinsics : Intrinsics}
    (hsequence : 0 ≤ sequence) (hunix : 0 < captureUnixNs) (hmonotonic : 0 < captureMonotonicNs)
    (h : intrinsics.Usable) :
    Exact (remoteHeader sequence captureUnixNs captureMonotonicNs plan intrinsics) plan := by
  have hscaleX : (0 : ℚ) < plan.width / CAPTURE_WIDTH :=
    div_pos (Int.cast_pos.mpr hwidth) (Int.cast_pos.mpr (by decide))
  have hscaleY : (0 : ℚ) < plan.height / CAPTURE_HEIGHT :=
    div_pos (Int.cast_pos.mpr hheight) (Int.cast_pos.mpr (by decide))
  obtain ⟨fx, hfx, hfxPositive⟩ := h.fx
  obtain ⟨fy, hfy, hfyPositive⟩ := h.fy
  obtain ⟨ppx, hppx, -⟩ := isSome_number? h.ppx
  obtain ⟨ppy, hppy, -⟩ := isSome_number? h.ppy
  constructor
  · rfl
  · exact decide_eq_true hsequence
  · exact decide_eq_true hunix
  · exact decide_eq_true hmonotonic
  · exact beq_self_eq_true plan.width
  · exact beq_self_eq_true plan.height
  · exact beq_self_eq_true plan.frameId
  · rfl
  · rfl
  · exact ⟨_, rfl, by simp⟩
  · intro field hfield
    simp only [INTRINSICS, List.mem_cons, List.not_mem_nil, or_false] at hfield
    rcases hfield with rfl | rfl | rfl | rfl
    · refine ⟨fx * (plan.width / CAPTURE_WIDTH), ?_, fun _ => mul_pos hfxPositive hscaleX⟩
      change number? (.float (intrinsics.fx.mul _)) = _
      rw [hfx]
      rfl
    · refine ⟨fy * (plan.height / CAPTURE_HEIGHT), ?_, fun _ => mul_pos hfyPositive hscaleY⟩
      change number? (.float (intrinsics.fy.mul _)) = _
      rw [hfy]
      rfl
    · refine ⟨ppx * (plan.width / CAPTURE_WIDTH), ?_, fun hfocal => absurd hfocal (by decide)⟩
      change number? (.float (intrinsics.ppx.mul _)) = _
      rw [hppx]
      rfl
    · refine ⟨ppy * (plan.height / CAPTURE_HEIGHT), ?_, fun hfocal => absurd hfocal (by decide)⟩
      change number? (.float (intrinsics.ppy.mul _)) = _
      rw [hppy]
      rfl
  · refine ⟨intrinsics.coeffs.map .float, rfl, by simpa using h.length, ?_⟩
    rw [List.forall_mem_map]
    intro value hvalue
    obtain ⟨y, -, hy⟩ := isSome_number? (h.coeffs value hvalue)
    rw [hy]
    rfl

/-- The header of a frame of the plan is accepted. -/
lemma Exact.accepted (parse : String → Option ExtRat) {header : Header} {plan : StreamPlan}
    (h : Exact header plan) : validateHeader parse header plan = .ok header := by
  obtain ⟨hexact, hreadings, -⟩ := (exact_iff parse).mp h
  rw [validateHeader_eq, hexact,
    ((validateReadings_outcome parse header).returns_iff ()).mpr hreadings]
  rfl

/-- **When the validation of a header is exact.**  For every plan, the validation accepts a header
that has exactly the fields of a frame of the plan, and refuses every other one with an error of
its own, exactly if no value that `float` refuses is reached and nothing passes by coercion.  A
header that the producer sends for the plan is accepted. -/
theorem header_validation (parse : String → Option ExtRat) {namespacePath frameId serial : String}
    {width height hardwareFps publishHz : ℤ} {plan : StreamPlan}
    (hplan : makeStreamPlan namespacePath frameId width height hardwareFps publishHz serial =
      .ok plan) :
    (∀ header, Validates parse header plan ↔ ¬ Slips parse header plan) ∧
      ∀ sequence captureUnixNs captureMonotonicNs intrinsics, 0 ≤ sequence →
        0 < captureUnixNs → 0 < captureMonotonicNs → intrinsics.Usable →
          validateHeader parse
              (remoteHeader sequence captureUnixNs captureMonotonicNs plan intrinsics) plan =
            .ok (remoteHeader sequence captureUnixNs captureMonotonicNs plan intrinsics) := by
  obtain ⟨hwidth, -, hheight, -⟩ := makeStreamPlan_resolution hplan
  refine ⟨fun header => validates_iff parse header plan, ?_⟩
  intro sequence captureUnixNs captureMonotonicNs intrinsics hsequence hunix hmonotonic h
  exact (remoteHeader_exact hwidth hheight hsequence hunix hmonotonic h).accepted parse

/-- The plan of the defaults. -/
def defaultPlan : StreamPlan :=
  ⟨DEFAULT_NAMESPACE, DEFAULT_FRAME_ID, 640, 480, 30, 6, ""⟩

def defaultIntrinsics : Intrinsics :=
  ⟨.fin 600, .fin 600, .fin 320, .fin 240, [.fin 0, .fin 0, .fin 0, .fin 0, .fin 0]⟩

theorem header_validation_default :
    validateHeader (fun _ => none) (remoteHeader 0 1 1 defaultPlan defaultIntrinsics) defaultPlan =
      .ok (remoteHeader 0 1 1 defaultPlan defaultIntrinsics) := by
  have hplan : makeStreamPlan DEFAULT_NAMESPACE DEFAULT_FRAME_ID 640 480 30 6 "" =
      .ok defaultPlan := by
    decide +kernel
  refine (header_validation (fun _ => none) hplan).2 0 1 1 defaultIntrinsics (by decide)
    (by decide) (by decide) ?_
  exact ⟨⟨600, rfl, by norm_num⟩, ⟨600, rfl, by norm_num⟩, rfl, rfl, by decide, by decide⟩

/-- A header of the producer, with NaN for the depth scale. -/
def nanHeader : Header :=
  (remoteHeader 0 1 1 defaultPlan defaultIntrinsics).map fun item =>
    if item.1 = "depth_scale" then ("depth_scale", .float .nan) else item

/-- It is accepted, although it has no depth scale. -/
theorem nanHeader_accepted :
    makeStreamPlan DEFAULT_NAMESPACE DEFAULT_FRAME_ID 640 480 30 6 "" = .ok defaultPlan ∧
      validateHeader (fun _ => none) nanHeader defaultPlan = .ok nanHeader ∧
      ¬ Validates (fun _ => none) nanHeader defaultPlan := by
  have hexact : validateExact nanHeader defaultPlan = .ok () := by decide +kernel
  have hreadings : validateReadings (fun _ => none) nanHeader = .ok () := by decide +kernel
  obtain ⟨hreads, hcoefficients⟩ :=
    ((validateReadings_outcome _ nanHeader).returns_iff ()).mp hreadings
  refine ⟨by decide +kernel, ?_, ?_⟩
  · rw [validateHeader_eq, hexact, hreadings]
    rfl
  · rw [validates_iff, not_not]
    exact ⟨hexact, .inr ⟨hreads, hcoefficients, .inr (.inl rfl)⟩⟩

end UnitreeGo2.Sensors.D435iHeader
