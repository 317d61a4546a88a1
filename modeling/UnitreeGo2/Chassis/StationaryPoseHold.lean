import Mathlib
import UnitreeGo2.Lib.ExtendedRat
import UnitreeGo2.Lib.Machine
import UnitreeGo2.Lib.PlanarMotion

/-!
# The stationary pose hold

While three witnesses find the robot stationary, its pose is held.  The correction that holds
it goes on afterwards, so that the corrected pose never jumps.  The arithmetic is exact, and a
yaw stands for its rotation.
-/

namespace UnitreeGo2.Chassis

structure PassiveStationaryEvidence where
  sportFreshValid : Bool := false
  sportLinearSpeedMps : ExtRat := 0
  sportYawRateRps : ExtRat := 0
  externalTwistValid : Bool := false
  externalLinearSpeedMps : ExtRat := 0
  externalYawRateRps : ExtRat := 0
  externalPoseRateValid : Bool := false
  externalPoseLinearRateMps : ExtRat := 0
  externalPoseYawRateRps : ExtRat := 0

structure StationaryPoseHoldConfig where
  enabled : Bool := false
  dwellSec : ExtRat
  sportMaxLinearMps : ExtRat
  sportMaxYawRateRps : ExtRat
  externalTwistMaxLinearMps : ExtRat
  externalTwistMaxYawRateRps : ExtRat
  poseMaxLinearRateMps : ExtRat
  poseMaxYawRateRps : ExtRat

inductive StationaryPoseHoldState where
  | disabled
  | unqualified
  | qualifying
  | holding
  deriving DecidableEq, Repr

/-- A reading that is valid and within its limits. -/
def within (valid : Bool) (linear yaw maxLinear maxYaw : ExtRat) : Bool :=
  valid && linear.isFinite && yaw.isFinite && ExtRat.le 0 linear && ExtRat.le 0 yaw &&
    linear.le maxLinear && yaw.le maxYaw

namespace StationaryPoseHoldConfig

variable (config : StationaryPoseHoldConfig) (evidence : PassiveStationaryEvidence)

def sportGate : Bool :=
  within evidence.sportFreshValid evidence.sportLinearSpeedMps evidence.sportYawRateRps
    config.sportMaxLinearMps config.sportMaxYawRateRps

def twistGate : Bool :=
  within evidence.externalTwistValid evidence.externalLinearSpeedMps evidence.externalYawRateRps
    config.externalTwistMaxLinearMps config.externalTwistMaxYawRateRps

def poseRateGate : Bool :=
  within evidence.externalPoseRateValid evidence.externalPoseLinearRateMps
    evidence.externalPoseYawRateRps config.poseMaxLinearRateMps config.poseMaxYawRateRps

end StationaryPoseHoldConfig

variable {A K : Type} [AddCommGroup A] [CommRing K] [Rotations A K]

/-- `PassiveStationaryPoseHold`, without its configuration. -/
structure PassiveStationaryPoseHold (A K : Type) where
  state : StationaryPoseHoldState
  correction : Se2Pose A K
  anchor : Se2Pose A K
  qualificationStartSec : ℚ := 0
  qualificationElapsedSec : ℚ := 0
  lastUpdateSec : ℚ := 0
  lastSportGate : Bool := false
  lastTwistGate : Bool := false
  lastPoseRateGate : Bool := false

structure StationaryPoseHoldResult (A K : Type) where
  valid : Bool := false
  /-- `none` is a pose that is not finite. -/
  corrected : Option (Se2Pose A K)
  zeroPlanarTwist : Bool := false
  state : StationaryPoseHoldState
  sportGate : Bool := false
  twistGate : Bool := false
  poseRateGate : Bool := false
  qualificationElapsedSec : ℚ := 0
  correction : Se2Pose A K

/-- The arguments of `Update`. -/
structure HoldUpdate (A K : Type) where
  steadyNowSec : ExtRat
  /-- `none` is a pose that is not finite. -/
  raw : Option (Se2Pose A K)
  evidence : PassiveStationaryEvidence

namespace PassiveStationaryPoseHold

/-- The constructor. -/
def start (config : StationaryPoseHoldConfig) : PassiveStationaryPoseHold A K where
  state := if config.enabled then .unqualified else .disabled
  correction := 1
  anchor := 1

variable (config : StationaryPoseHoldConfig) (hold : PassiveStationaryPoseHold A K)

def breakQualification : PassiveStationaryPoseHold A K :=
  { hold with
    state := if config.enabled then .unqualified else .disabled
    qualificationStartSec := 0
    qualificationElapsedSec := 0 }

/-- The gates and the clock of an update. -/
def stationary (now : ℚ) (evidence : PassiveStationaryEvidence) : Bool :=
  config.sportGate evidence && config.twistGate evidence && config.poseRateGate evidence &&
    (hold.lastUpdateSec ≤ 0 || hold.lastUpdateSec ≤ now)

/-- What an update does to the hold, once its gates are known: the corrected pose, whether the
twist is zeroed, and the hold. -/
def advance (now : ℚ) (raw : Se2Pose A K) (stationary : Bool) :
    Se2Pose A K × Bool × PassiveStationaryPoseHold A K :=
  match hold.state with
  | .holding =>
    if stationary then
      (hold.anchor, true, { hold with correction := hold.anchor * raw⁻¹ })
    else (hold.correction * raw, false, hold.breakQualification config)
  | .qualifying =>
    let corrected := hold.correction * raw
    if ¬ stationary then (corrected, false, hold.breakQualification config)
    else
      let elapsed := now - hold.qualificationStartSec
      if config.dwellSec.le (.fin elapsed) then
        (corrected, true,
          { hold with
            qualificationElapsedSec := elapsed
            anchor := corrected
            correction := corrected * raw⁻¹
            state := .holding })
      else (corrected, false, { hold with qualificationElapsedSec := elapsed })
  | _ =>
    let corrected := hold.correction * raw
    if ¬ stationary then (corrected, false, hold.breakQualification config)
    else
      (corrected, false,
        { hold with
          state := .qualifying
          qualificationStartSec := now
          qualificationElapsedSec := 0 })

/-- The gates of an update. -/
def gated (evidence : PassiveStationaryEvidence) : PassiveStationaryPoseHold A K :=
  { hold with
    lastSportGate := config.sportGate evidence
    lastTwistGate := config.twistGate evidence
    lastPoseRateGate := config.poseRateGate evidence }

/-- The result of an update of an enabled hold. -/
def report (corrected : Se2Pose A K) (zeroPlanarTwist : Bool) : StationaryPoseHoldResult A K where
  valid := true
  corrected := some corrected
  zeroPlanarTwist
  state := hold.state
  sportGate := hold.lastSportGate
  twistGate := hold.lastTwistGate
  poseRateGate := hold.lastPoseRateGate
  qualificationElapsedSec := hold.qualificationElapsedSec
  correction := hold.correction

def update (call : HoldUpdate A K) :
    StationaryPoseHoldResult A K × PassiveStationaryPoseHold A K :=
  match call.steadyNowSec, call.raw with
  | .fin now, some raw =>
    if config.enabled = false then
      ({ valid := true, corrected := some raw, state := .disabled, correction := 1 },
        { hold with state := .disabled, correction := 1, lastUpdateSec := now })
    else
      let (corrected, zeroPlanarTwist, held) := (hold.gated config call.evidence).advance config now
        raw (hold.stationary config now call.evidence)
      let held := { held with lastUpdateSec := now }
      (held.report corrected zeroPlanarTwist, held)
  | _, _ =>
    let broken := hold.breakQualification config
    ({ corrected := call.raw, state := broken.state, correction := hold.correction }, broken)

end PassiveStationaryPoseHold

/-- The hold as a machine. -/
def poseHold (config : StationaryPoseHoldConfig) :
    Machine (PassiveStationaryPoseHold A K) (HoldUpdate A K) (StationaryPoseHoldResult A K) :=
  ⟨fun hold call => hold.update config call⟩

/-! ## One update -/

section Update

variable {config : StationaryPoseHoldConfig} {hold held : PassiveStationaryPoseHold A K} {now : ℚ}
  {raw corrected : Se2Pose A K} {zeroed stationary : Bool}

/-- What an update of an enabled hold can do. -/
inductive Advances (config : StationaryPoseHoldConfig) (hold : PassiveStationaryPoseHold A K)
    (now : ℚ) (raw : Se2Pose A K) (stationary : Bool) (corrected : Se2Pose A K)
    (held : PassiveStationaryPoseHold A K) : Prop where
  /-- The pose stays held. -/
  | stays (hstate : hold.state = .holding) (hstationary : stationary = true)
      (hcorrected : corrected = hold.anchor) (hheld : held.state = .holding)
      (hanchor : held.anchor = hold.anchor) (hcorrection : held.correction = hold.anchor * raw⁻¹)
  /-- Some witness fails, or the clock goes back. -/
  | breaks (hstationary : stationary = false) (hcorrected : corrected = hold.correction * raw)
      (hheld : held.state = .unqualified) (hcorrection : held.correction = hold.correction)
  | enters (hstate : hold.state = .qualifying) (hstationary : stationary = true)
      (hdwell : config.dwellSec.le (.fin (now - hold.qualificationStartSec)) = true)
      (hcorrected : corrected = hold.correction * raw) (hheld : held.state = .holding)
      (hanchor : held.anchor = corrected) (hcorrection : held.correction = corrected * raw⁻¹)
  | waits (hstate : hold.state = .qualifying) (hstationary : stationary = true)
      (hcorrected : corrected = hold.correction * raw) (hheld : held.state = .qualifying)
      (hstart : held.qualificationStartSec = hold.qualificationStartSec)
      (hcorrection : held.correction = hold.correction)
  | begins (hstationary : stationary = true) (hcorrected : corrected = hold.correction * raw)
      (hheld : held.state = .qualifying) (hstart : held.qualificationStartSec = now)
      (hcorrection : held.correction = hold.correction)

omit [AddCommGroup A] [CommRing K] [Rotations A K] in
lemma breakQualification_state (henabled : config.enabled = true) :
    (hold.breakQualification config).state = .unqualified :=
  if_pos henabled

lemma advances_advance (henabled : config.enabled = true) :
    Advances config hold now raw stationary (hold.advance config now raw stationary).1
      (hold.advance config now raw stationary).2.2 := by
  unfold PassiveStationaryPoseHold.advance
  split
  · rename_i hstate
    cases stationary with
    | true => exact .stays hstate rfl rfl hstate rfl rfl
    | false => exact .breaks rfl rfl (breakQualification_state henabled) rfl
  · rename_i hstate
    cases stationary with
    | true =>
      dsimp only
      rw [if_neg (by decide)]
      split
      · rename_i hdwell
        exact .enters hstate rfl hdwell rfl rfl rfl rfl
      · exact .waits hstate rfl rfl hstate rfl rfl
    | false => exact .breaks rfl rfl (breakQualification_state henabled) rfl
  · cases stationary with
    | true => exact .begins rfl rfl rfl rfl rfl
    | false => exact .breaks rfl rfl (breakQualification_state henabled) rfl

/-- The correction leads from the raw to the corrected pose. -/
lemma Advances.correction_mul (h : Advances config hold now raw stationary corrected held) :
    held.correction * raw = corrected := by
  cases h with
  | stays _ _ hcorrected _ _ hcorrection => rw [hcorrection, hcorrected, inv_mul_cancel_right]
  | breaks _ hcorrected _ hcorrection => rw [hcorrection, hcorrected]
  | enters _ _ _ _ _ _ hcorrection => rw [hcorrection, inv_mul_cancel_right]
  | waits _ _ hcorrected _ _ hcorrection => rw [hcorrection, hcorrected]
  | begins _ hcorrected _ _ hcorrection => rw [hcorrection, hcorrected]

lemma Advances.anchor_eq (h : Advances config hold now raw stationary corrected held)
    (hheld : held.state = .holding) : held.anchor = corrected := by
  cases h with
  | stays _ _ hcorrected _ hanchor _ => rw [hanchor, hcorrected]
  | breaks _ _ hstate _ =>
    rw [hheld] at hstate
    cases hstate
  | enters _ _ _ _ _ hanchor _ => exact hanchor
  | waits _ _ _ hstate _ _ =>
    rw [hheld] at hstate
    cases hstate
  | begins _ _ hstate _ _ =>
    rw [hheld] at hstate
    cases hstate

/-- An update that does not stay in the hold lets the raw motion through. -/
lemma Advances.moves (h : Advances config hold now raw stationary corrected held)
    (hleaves : ¬ (hold.state = .holding ∧ held.state = .holding)) :
    corrected = hold.correction * raw := by
  cases h with
  | stays hstate _ _ hheld _ _ => exact absurd ⟨hstate, hheld⟩ hleaves
  | breaks _ hcorrected _ _ => exact hcorrected
  | enters _ _ _ hcorrected _ _ _ => exact hcorrected
  | waits _ _ hcorrected _ _ _ => exact hcorrected
  | begins _ hcorrected _ _ _ => exact hcorrected

lemma Advances.remains (h : Advances config hold now raw stationary corrected held)
    (hstate : hold.state = .holding) (hheld : held.state = .holding) :
    corrected = hold.anchor := by
  cases h with
  | stays _ _ hcorrected _ _ _ => exact hcorrected
  | breaks _ _ hstate' _ =>
    rw [hheld] at hstate'
    cases hstate'
  | enters hstate' _ _ _ _ _ _ =>
    rw [hstate] at hstate'
    cases hstate'
  | waits hstate' _ _ _ _ _ =>
    rw [hstate] at hstate'
    cases hstate'
  | begins _ _ hstate' _ _ =>
    rw [hheld] at hstate'
    cases hstate'

end Update

/-! ## Runs -/

/-- A valid call: the clock and the pose are finite. -/
structure ValidUpdate (A K : Type) where
  now : ℚ
  raw : Se2Pose A K
  evidence : PassiveStationaryEvidence

def ValidUpdate.call (u : ValidUpdate A K) : HoldUpdate A K := ⟨.fin u.now, some u.raw, u.evidence⟩

abbrev PoseHoldStep (A K : Type) :=
  Machine.Step (PassiveStationaryPoseHold A K) (HoldUpdate A K) (StationaryPoseHoldResult A K)

/-- The clock of a step. -/
def nowSec (x : PoseHoldStep A K) : ℚ := x.event.steadyNowSec.toRat

/-- All three witnesses are within their limits. -/
structure Witnessed (config : StationaryPoseHoldConfig) (evidence : PassiveStationaryEvidence) :
    Prop where
  sport : config.sportGate evidence = true
  twist : config.twistGate evidence = true
  poseRate : config.poseRateGate evidence = true

/-- The witnesses agree at a step, and the clock has gone on since the step before. -/
structure QuietAt (progressed : ℚ → ℚ → Prop) (config : StationaryPoseHoldConfig)
    (l : List (PoseHoldStep A K)) (x : PoseHoldStep A K) : Prop where
  witnessed : Witnessed config x.event.evidence
  clock : ∀ p, l.getLast? = some p → progressed (nowSec p) (nowSec x)

/-- Every step from some `z` on is quiet. -/
structure QuietSince (progressed : ℚ → ℚ → Prop) (config : StationaryPoseHoldConfig)
    (z : PoseHoldStep A K) (l : List (PoseHoldStep A K)) : Prop where
  quiet : ∃ l₁ m, l = l₁ ++ z :: m ∧
    ∀ l₂ w m₂, l = l₂ ++ w :: m₂ → l₁.length ≤ l₂.length → QuietAt progressed config l₂ w

/-- **The hold never snaps back.**  What it means that the clock has `progressed` is a
parameter. -/
structure NeverSnapsBack (progressed : ℚ → ℚ → Prop) (config : StationaryPoseHoldConfig)
    (log : List (PoseHoldStep A K)) : Prop where
  held : ∀ l x y r, log = l ++ x :: y :: r → x.output.state = .holding →
    y.output.state = .holding → y.output.corrected = x.output.corrected
  moved : ∀ l x y r, log = l ++ x :: y :: r →
    ¬ (x.output.state = .holding ∧ y.output.state = .holding) →
    ∃ corrected raw raw', x.output.corrected = some corrected ∧ x.event.raw = some raw ∧
      y.event.raw = some raw' ∧ y.output.corrected = some (corrected * (raw⁻¹ * raw'))
  /-- Before a hold the witnesses have agreed for the dwell time. -/
  entered : ∀ l y r, log = l ++ y :: r → y.output.state = .holding →
    (∀ x, l.getLast? = some x → x.output.state ≠ .holding) →
    ∃ z, config.dwellSec.le (.fin (nowSec y - nowSec z)) = true ∧
      QuietSince progressed config z (l ++ [y])

/-- The clock is not checked against a previous time that is not positive. -/
def ClockProgressed (last now : ℚ) : Prop := last ≤ 0 ∨ last ≤ now

section Runs

variable {config : StationaryPoseHoldConfig}

/-- The step of a valid call. -/
lemma update_valid (henabled : config.enabled = true) (hold : PassiveStationaryPoseHold A K)
    (u : ValidUpdate A K) :
    ∃ corrected held, (hold.update config u.call).1.corrected = some corrected ∧
      (hold.update config u.call).1.state = held.state ∧
      (hold.update config u.call).2 = { held with lastUpdateSec := u.now } ∧
      Advances config (hold.gated config u.evidence) u.now u.raw
        (hold.stationary config u.now u.evidence) corrected held := by
  have hstep : hold.update config u.call = if config.enabled = false then _ else _ := rfl
  rw [if_neg (by rw [henabled]; decide)] at hstep
  rw [hstep]
  exact ⟨_, _, rfl, rfl, rfl, advances_advance henabled⟩

variable {progressed : ℚ → ℚ → Prop} {l : List (PoseHoldStep A K)} {x z : PoseHoldStep A K}

omit [AddCommGroup A] [CommRing K] [Rotations A K] in
lemma QuietSince.begin (h : QuietAt progressed config l x) :
    QuietSince progressed config x (l ++ [x]) := by
  refine ⟨l, [], rfl, fun l₂ w m₂ hsplit hlength => ?_⟩
  rcases Machine.concat_eq_append_cons_iff.mp hsplit with ⟨rfl, rfl, _⟩ | ⟨r', hl, _⟩
  · exact h
  · rw [hl, List.length_append, List.length_cons] at hlength
    omega

omit [AddCommGroup A] [CommRing K] [Rotations A K] in
lemma QuietSince.concat (h : QuietSince progressed config z l)
    (hx : QuietAt progressed config l x) : QuietSince progressed config z (l ++ [x]) := by
  obtain ⟨l₁, m, hl, hquiet⟩ := h.quiet
  refine ⟨l₁, m ++ [x], by rw [hl, List.append_assoc, List.cons_append], ?_⟩
  intro l₂ w m₂ hsplit hlength
  rcases Machine.concat_eq_append_cons_iff.mp hsplit with ⟨rfl, rfl, _⟩ | ⟨r', hl', _⟩
  · exact hx
  · exact hquiet l₂ w r' hl' hlength

/-- What a run of valid calls knows of the hold. -/
structure Tracked (config : StationaryPoseHoldConfig) (tr : List (PoseHoldStep A K))
    (hold : PassiveStationaryPoseHold A K) : Prop where
  start : tr = [] → hold.state ≠ .holding
  state : ∀ p, tr.getLast? = some p → p.output.state = hold.state
  clock : ∀ p, tr.getLast? = some p → nowSec p = hold.lastUpdateSec
  qualifying : hold.state = .qualifying → ∃ z, nowSec z = hold.qualificationStartSec ∧
    QuietSince ClockProgressed config z tr
  entered : ∀ l y r, tr = l ++ y :: r → y.output.state = .holding →
    (∀ x, l.getLast? = some x → x.output.state ≠ .holding) →
    ∃ z, config.dwellSec.le (.fin (nowSec y - nowSec z)) = true ∧
      QuietSince ClockProgressed config z (l ++ [y])

omit [AddCommGroup A] [CommRing K] [Rotations A K] in
/-- A stationary update is a quiet step. -/
lemma Tracked.quietAt {hold : PassiveStationaryPoseHold A K} (h : Tracked config l hold)
    {u : ValidUpdate A K} (hevent : x.event = u.call)
    (hstationary : hold.stationary config u.now u.evidence = true) :
    QuietAt ClockProgressed config l x := by
  unfold PassiveStationaryPoseHold.stationary at hstationary
  simp only [Bool.and_eq_true, Bool.or_eq_true, decide_eq_true_eq] at hstationary
  obtain ⟨⟨⟨hsport, htwist⟩, hrate⟩, hclock⟩ := hstationary
  refine ⟨?_, fun p hp => ?_⟩
  · rw [hevent]
    exact ⟨hsport, htwist, hrate⟩
  · unfold nowSec
    rw [hevent]
    have hlast := h.clock p hp
    unfold nowSec at hlast
    rw [hlast]
    exact hclock

lemma Tracked.concat (henabled : config.enabled = true) {hold : PassiveStationaryPoseHold A K}
    (h : Tracked config l hold) (u : ValidUpdate A K) :
    Tracked config (l ++ [(poseHold config).stepAt hold u.call])
      ((poseHold config).step hold u.call).2 := by
  obtain ⟨corrected, held, hcorrected, hstate, hpost, hadvances⟩ :=
    update_valid henabled hold u
  have hnow : nowSec ((poseHold config).stepAt hold u.call) = u.now := rfl
  have hpost' : ((poseHold config).step hold u.call).2 = { held with lastUpdateSec := u.now } :=
    hpost
  have hout : ((poseHold config).stepAt hold u.call).output.state = held.state := hstate
  have hquiet := h.quietAt (x := (poseHold config).stepAt hold u.call) (u := u) rfl
  rw [hpost']
  refine ⟨fun hnil => absurd hnil (by simp), ?_, ?_, ?_, ?_⟩
  · intro p hp
    rw [List.getLast?_concat] at hp
    rw [← Option.some_inj.mp hp]
    exact hout
  · intro p hp
    rw [List.getLast?_concat] at hp
    rw [← Option.some_inj.mp hp]
    exact hnow
  · intro hqualifying
    cases hadvances with
    | stays _ _ _ hheld _ _ =>
      rw [show held.state = _ from hqualifying] at hheld
      cases hheld
    | breaks _ _ hheld _ =>
      rw [show held.state = _ from hqualifying] at hheld
      cases hheld
    | enters _ _ _ _ hheld _ _ =>
      rw [show held.state = _ from hqualifying] at hheld
      cases hheld
    | waits hstate' hstationary _ _ hstart _ =>
      obtain ⟨z, hz, hsince⟩ := h.qualifying hstate'
      exact ⟨z, hz.trans hstart.symm, hsince.concat (hquiet hstationary)⟩
    | begins hstationary _ _ hstart _ =>
      exact ⟨_, hnow.trans hstart.symm, QuietSince.begin (hquiet hstationary)⟩
  · intro l' y r hsplit hholding hbefore
    rcases Machine.concat_eq_append_cons_iff.mp hsplit with ⟨rfl, rfl, _⟩ | ⟨r', hl', _⟩
    · rw [hout] at hholding
      have hentering : hold.state ≠ .holding := by
        intro hhold
        cases hlast : l.getLast? with
        | none => exact h.start (List.getLast?_eq_none_iff.mp hlast) hhold
        | some p => exact hbefore p hlast ((h.state p hlast).trans hhold)
      cases hadvances with
      | stays hstate' _ _ _ _ _ => exact absurd hstate' hentering
      | breaks _ _ hheld _ =>
        rw [hholding] at hheld
        cases hheld
      | enters hstate' hstationary hdwell _ _ _ _ =>
        obtain ⟨z, hz, hsince⟩ := h.qualifying hstate'
        refine ⟨z, ?_, hsince.concat (hquiet hstationary)⟩
        rw [hnow, hz]
        exact hdwell
      | waits _ _ _ hheld _ _ =>
        rw [hholding] at hheld
        cases hheld
      | begins _ _ hheld _ _ =>
        rw [hholding] at hheld
        cases hheld
    · exact h.entered l' y r' hl' hholding hbefore

end Runs

/-- The run of valid calls. -/
abbrev poseHoldRun (config : StationaryPoseHoldConfig) (calls : List (ValidUpdate A K)) :
    List (PoseHoldStep A K) :=
  (poseHold config).trace (.start config) (calls.map ValidUpdate.call)

lemma tracked_run {config : StationaryPoseHoldConfig} (henabled : config.enabled = true)
    (calls : List (ValidUpdate A K)) :
    Tracked config (poseHoldRun config calls)
      ((poseHold config).final (.start config) (calls.map ValidUpdate.call)) := by
  induction calls using List.reverseRecOn with
  | nil =>
    have hstate : (PassiveStationaryPoseHold.start config : PassiveStationaryPoseHold A K).state =
        .unqualified := if_pos henabled
    show Tracked config [] (.start config)
    refine ⟨fun _ hholding => ?_, by simp, by simp, fun hqualifying => ?_, by simp⟩
    · rw [hstate] at hholding
      cases hholding
    · rw [hstate] at hqualifying
      cases hqualifying
  | append_singleton calls u ih =>
    unfold poseHoldRun
    rw [List.map_append, List.map_singleton, Machine.trace_concat, Machine.final_concat]
    exact ih.concat henabled u

/-- Two steps of a run, one after the other. -/
lemma consecutive {config : StationaryPoseHoldConfig} {calls : List (ValidUpdate A K)}
    {l r : List (PoseHoldStep A K)} {x y : PoseHoldStep A K}
    (h : poseHoldRun config calls = l ++ x :: y :: r) :
    ∃ (hold : PassiveStationaryPoseHold A K) (u v : ValidUpdate A K),
      x = (poseHold config).stepAt hold u.call ∧ y = (poseHold config).stepAt x.post v.call := by
  obtain ⟨es₁, es₂, hes, _, hx, hr⟩ := (poseHold config).trace_eq_append_cons h
  obtain ⟨es₃, es₄, hes', hnil, hy, _⟩ :=
    (poseHold config).trace_eq_append_cons (l := []) (x := y) (r := r) hr.symm
  have hcall : ∀ event ∈ calls.map ValidUpdate.call, ∃ u : ValidUpdate A K, event = u.call := by
    intro event hevent
    obtain ⟨u, _, rfl⟩ := List.mem_map.mp hevent
    exact ⟨u, rfl⟩
  obtain ⟨u, hu⟩ := hcall x.event (by rw [hes]; simp)
  obtain ⟨v, hv⟩ := hcall y.event (by rw [hes, hes']; simp)
  have hes₃ : es₃ = [] := List.length_eq_zero_iff.mp (by
    rw [← Machine.length_trace (poseHold config) x.post es₃, ← hnil]
    rfl)
  refine ⟨(poseHold config).final (.start config) es₁, u, v, ?_, ?_⟩
  · rw [hu] at hx
    exact hx
  · rw [hes₃, hv] at hy
    exact hy

/-- **The hold never snaps back**, with the clock checked against positive times. -/
theorem neverSnapsBack_run {config : StationaryPoseHoldConfig} (henabled : config.enabled = true)
    (calls : List (ValidUpdate A K)) :
    NeverSnapsBack ClockProgressed config (poseHoldRun config calls) where
  held := by
    intro l x y r hrun hx hy
    obtain ⟨hold, u, v, rfl, rfl⟩ := consecutive hrun
    obtain ⟨corrected, held, hcorrected, hstate, hpost, hadvances⟩ := update_valid henabled hold u
    obtain ⟨corrected', held', hcorrected', hstate', _, hadvances'⟩ :=
      update_valid henabled (hold.update config u.call).2 v
    rw [hpost] at hadvances'
    have hheld := hstate.symm.trans hx
    have hremains := hadvances'.remains hheld (hstate'.symm.trans hy)
    refine hcorrected'.trans (Eq.trans ?_ hcorrected.symm)
    rw [hremains, ← hadvances.anchor_eq hheld]
    rfl
  moved := by
    intro l x y r hrun hleaves
    obtain ⟨hold, u, v, rfl, rfl⟩ := consecutive hrun
    obtain ⟨corrected, held, hcorrected, hstate, hpost, hadvances⟩ := update_valid henabled hold u
    obtain ⟨corrected', held', hcorrected', hstate', _, hadvances'⟩ :=
      update_valid henabled (hold.update config u.call).2 v
    rw [hpost] at hadvances'
    refine ⟨corrected, u.raw, v.raw, hcorrected, rfl, rfl, hcorrected'.trans ?_⟩
    have hmoves : corrected' = held.correction * v.raw :=
      hadvances'.moves fun h => hleaves ⟨hstate.trans h.1, hstate'.trans h.2⟩
    rw [hmoves, ← hadvances.correction_mul]
    exact congrArg some (by group)
  entered := (tracked_run henabled calls).entered

/-! ## Quarter turns -/

/-- The quarter turns of the plane. -/
instance : Rotations (ZMod 4) ℚ where
  cosine a := if a = 0 then 1 else if a = 1 + 1 then -1 else 0
  sine a := if a = 1 then 1 else if a = -1 then -1 else 0
  cosine_zero := rfl
  cosine_neg := by decide +kernel
  sine_neg := by decide +kernel
  cosine_add := by decide +kernel
  sine_add := by decide +kernel

/-- The reviewed limits, with a dwell time of two seconds. -/
def reviewedHold : StationaryPoseHoldConfig where
  enabled := true
  dwellSec := .fin 2
  sportMaxLinearMps := .fin (3 / 100)
  sportMaxYawRateRps := .fin (3 / 100)
  externalTwistMaxLinearMps := .fin (3 / 100)
  externalTwistMaxYawRateRps := .fin (3 / 100)
  poseMaxLinearRateMps := .fin (5 / 1000)
  poseMaxYawRateRps := .fin (1 / 100)

/-- An update with three quiet witnesses. -/
def quietUpdate (now x y : ℚ) (yaw : ZMod 4) : ValidUpdate (ZMod 4) ℚ :=
  ⟨now, ⟨x, y, yaw⟩,
    { sportFreshValid := true, externalTwistValid := true, externalPoseRateValid := true }⟩

/-- An update that the witnesses do not support. -/
def movingUpdate (now x y : ℚ) (yaw : ZMod 4) : ValidUpdate (ZMod 4) ℚ := ⟨now, ⟨x, y, yaw⟩, {}⟩

/-- A hold is entered and left again. -/
theorem neverSnapsBack_drift :
    NeverSnapsBack ClockProgressed reviewedHold (poseHoldRun reviewedHold
      [quietUpdate 10 1 0 1, quietUpdate 12 2 0 1, quietUpdate 13 2 1 2, movingUpdate 14 2 2 3]) ∧
    ((poseHoldRun reviewedHold [quietUpdate 10 1 0 1, quietUpdate 12 2 0 1, quietUpdate 13 2 1 2,
      movingUpdate 14 2 2 3]).map fun x => (x.output.state, x.output.corrected)) =
      [(.qualifying, some ⟨1, 0, 1⟩), (.holding, some ⟨2, 0, 1⟩), (.holding, some ⟨2, 0, 1⟩),
        (.unqualified, some ⟨3, 0, 2⟩)] :=
  ⟨neverSnapsBack_run rfl _, by decide +kernel⟩

/-- The clock goes back before it is positive. -/
def negativeClock : List (ValidUpdate (ZMod 4) ℚ) :=
  [quietUpdate (-1) 0 0 0, quietUpdate (-2) 0 0 0, quietUpdate 1 0 0 0]

theorem not_neverSnapsBack_negativeClock :
    ¬ NeverSnapsBack (fun last now => last ≤ now) reviewedHold
      (poseHoldRun reviewedHold negativeClock) := by
  intro h
  obtain ⟨a, b, c, hrun⟩ : ∃ a b c, poseHoldRun reviewedHold negativeClock = [a, b, c] :=
    ⟨_, _, _, rfl⟩
  have hclock : (poseHoldRun reviewedHold negativeClock).map nowSec = [-1, -2, 1] := by
    decide +kernel
  have hstates : (poseHoldRun reviewedHold negativeClock).map (fun x => x.output.state) =
      [.qualifying, .qualifying, .holding] := by decide +kernel
  rw [hrun] at hclock hstates h
  simp only [List.map_cons, List.map_nil, List.cons.injEq, and_true] at hclock hstates
  obtain ⟨ha, hb, hc⟩ := hclock
  obtain ⟨z, hdwell, hsince⟩ := h.entered [a, b] c [] rfl hstates.2.2 (by
    intro x hx
    obtain rfl : b = x := Option.some_inj.mp hx
    rw [hstates.2.1]
    decide)
  obtain ⟨l₁, m, hl, hquiet⟩ := hsince.quiet
  rcases Nat.lt_or_ge 1 l₁.length with hlast | hfirst
  · have hlength := congrArg List.length hl
    rw [List.length_append, List.length_cons] at hlength
    obtain rfl : m = [] := List.length_eq_zero_iff.mp (by
      simp only [List.length_append, List.length_cons, List.length_nil] at hlength
      omega)
    obtain ⟨_, hz⟩ := List.append_inj' hl rfl
    rw [← List.singleton_inj.mp hz, sub_self] at hdwell
    revert hdwell
    decide +kernel
  · have hback := (hquiet [a] b [c] rfl hfirst).clock a rfl
    rw [ha, hb] at hback
    norm_num at hback

end UnitreeGo2.Chassis
