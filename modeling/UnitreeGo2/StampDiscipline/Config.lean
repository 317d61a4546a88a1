import UnitreeGo2.Lib.Binary64
import UnitreeGo2.TimeSync.ReceiptClocks
import Mathlib.Data.List.Sort
import Mathlib.Data.Rat.Defs
import Mathlib.Data.String.Basic

/-!
# The contract of the stamp discipline

The limits of the required streams and of the session, with the checks of the constructor.
Float settings are rational numbers.
-/

namespace UnitreeGo2.StampDiscipline

open TimeSync (Raised)

def NANOSECONDS_PER_SECOND : ℤ := 1000000000

def LOCKED_AFFINE_DRIFT_WINDOW_NS : ℤ := 60 * NANOSECONDS_PER_SECOND

def APPROVED_AFFINE_ANCHOR_WINDOW_NS : ℤ := NANOSECONDS_PER_SECOND

def LOCKED_RECEIPT_RECOVERY_REQUIRED_SAMPLES : ℕ := 2

def WORKSTATION_NOMOTION_QUALIFYING_NONCORE_DELTA_ERROR_CEILING_NS : ℤ := 200000000

def WORKSTATION_NOMOTION_QUALIFYING_NONCORE_PERIOD_CEILING_NS : ℤ := 500000000

/-- The float `0.1`. -/
def ONE_TENTH : ℚ := Binary64.nearest (1 / 10)

inductive DisciplineState where
  | qualifying
  | locked
  | faulted
  deriving DecidableEq, Repr

/-- Limits for one required navigation stream. -/
structure StreamPolicy where
  name : String
  maxCorrectedAgeNs : ℤ
  hardAgeCeilingNs : ℤ
  staleReceiptTimeoutNs : ℤ
  maxRelativeLagNs : ℤ
  minSamples : ℕ
  maxDuplicateFraction : ℚ := ONE_TENTH
  /-- Without an override the limit of the session holds. -/
  maxSourceReceiptDeltaErrorNs : Option ℤ := none
  deriving Inhabited

structure DisciplineConfig where
  referenceStream : String
  expectedClockDomain : String
  streams : List StreamPolicy
  minimumQualificationSpanNs : ℤ := 30 * NANOSECONDS_PER_SECOND
  offsetGuardNs : ℤ := 5000000
  affineAnchorPastGuardNs : ℤ := 5000000
  lowerQuantile : ℚ := Binary64.nearest (1 / 100)
  maxCorrectedFutureNs : ℤ := 2000000
  minimumLockedCorrectedAgeNs : Option ℤ := none
  maxRelativeLeadNs : ℤ := 5000000
  maxClockPairDiscontinuityNs : ℤ := 20000000
  maxClockReadSpanNs : ℤ := 1000000
  maxSourceReceiptDeltaErrorNs : ℤ := 50000000
  maxAbsoluteDriftPpm : ℚ := 50
  maxPairwiseDriftPpm : ℚ := 25
  maxApprovedAffineDriftDeviationPpm : ℚ := 5
  affineQualificationWindowNs : Option ℤ := none
  maxAffineWindowCommonDriftDeviationPpm : ℚ := 5
  affineEnforceSubwindowPairwiseDrift : Bool := true
  affineEnforceSubwindowCommonDrift : Bool := true
  maxLockedAffineDriftDeviationPpm : ℚ := 25
  maxLockedOffsetDeviationNs : ℤ := 20000000
  driftBinNs : ℤ := NANOSECONDS_PER_SECOND
  statisticsEvaluationPeriodNs : ℤ := NANOSECONDS_PER_SECOND
  lockedStatisticsEnabled : Bool := true
  retainedSamplesPerStream : ℕ := 20000
  affineLockedNoncoreDeltaDropStreams : List String := []
  affineQualifyingNoncoreDeltaDropStreams : List String := []
  affineRestartQualificationOnCoreDeltaDiscontinuity : Bool := false
  affineLockedCoreDeltaRecoveryStreams : List String := []

namespace DisciplineConfig

/-- The names of the required streams, in the order of the configuration. -/
def names (config : DisciplineConfig) : List String := config.streams.map StreamPolicy.name

/-- `_policies[name]`, for the name of a required stream. -/
def policy (config : DisciplineConfig) (name : String) : StreamPolicy :=
  (config.streams.find? (·.name = name)).getD default

end DisciplineConfig

/-! ## The checks of the constructor -/

/-- A check of `validate`: what must hold, and the text of the `ValueError` otherwise. -/
structure Check where
  holds : Bool
  text : String

/-- The first check that fails is raised. -/
def Check.all (checks : List Check) : Except Raised Unit :=
  match checks.find? (!·.holds) with
  | some check => .error (.valueError check.text)
  | none => .ok ()

lemma Check.all_holds {checks : List Check} (h : Check.all checks = .ok ()) (check : Check)
    (hmem : check ∈ checks) : check.holds = true := by
  rw [Check.all] at h
  split at h
  · cases h
  · rename_i hnone
    simpa using List.find?_eq_none.mp hnone check hmem

/-- `sorted(set(names))`. -/
def sortedSet (names : List String) : List String := names.dedup.insertionSort (· ≤ ·)

/-- `sorted(set(left) - set(right))`. -/
def sortedDifference (left right : List String) : List String :=
  sortedSet (left.filter (· ∉ right))

/-- `sorted(set(left).intersection(right))`. -/
def sortedIntersection (left right : List String) : List String :=
  sortedSet (left.filter (· ∈ right))

/-- The text names the streams that must not be there. -/
def Check.noneOf (offending : List String) (text : String) : Check :=
  ⟨offending.isEmpty, text ++ ",".intercalate offending⟩

/-- The names of a stream list are names, each once. -/
def uniqueNames (names : List String) : Bool := names.all (· ≠ "") && decide names.Nodup

def StreamPolicy.checks (config : DisciplineConfig) (policy : StreamPolicy) : List Check :=
  [⟨policy.name ≠ "", "stream name cannot be empty"⟩,
    ⟨0 < policy.maxCorrectedAgeNs ∧ policy.maxCorrectedAgeNs ≤ policy.hardAgeCeilingNs,
      policy.name ++ ": corrected-age threshold exceeds its hard ceiling"⟩,
    ⟨0 < policy.staleReceiptTimeoutNs ∧ policy.staleReceiptTimeoutNs ≤ policy.hardAgeCeilingNs,
      policy.name ++ ": receipt timeout exceeds its hard ceiling"⟩,
    ⟨0 ≤ policy.maxRelativeLagNs ∧ policy.maxRelativeLagNs ≤ policy.hardAgeCeilingNs,
      policy.name ++ ": relative lag exceeds its hard age ceiling"⟩,
    ⟨10 ≤ policy.minSamples ∧ policy.minSamples ≤ config.retainedSamplesPerStream,
      policy.name ++ ": invalid minimum sample count"⟩,
    ⟨0 ≤ policy.maxDuplicateFraction ∧ policy.maxDuplicateFraction ≤ ONE_TENTH,
      policy.name ++ ": duplicate allowance may be at most 10 percent"⟩] ++
  match policy.maxSourceReceiptDeltaErrorNs with
  | none => []
  | some deltaLimit =>
    [⟨1000000 ≤ deltaLimit ∧ deltaLimit ≤ 250000000,
        policy.name ++ ": source/receipt delta error threshold must be 1..250 ms"⟩,
      ⟨deltaLimit ≤ policy.hardAgeCeilingNs,
        policy.name ++ ": source/receipt delta error threshold exceeds its hard age ceiling"⟩]

namespace DisciplineConfig

/-- The checks of `validate`, in their order. -/
def checks (config : DisciplineConfig) : List Check :=
  let names := config.names
  let dropStreams := config.affineLockedNoncoreDeltaDropStreams
  let qualifyingDropStreams := config.affineQualifyingNoncoreDeltaDropStreams
  let recoveryStreams := config.affineLockedCoreDeltaRecoveryStreams
  [⟨config.referenceStream ≠ "" ∧ config.expectedClockDomain ≠ "",
      "reference stream and expected clock domain are required"⟩,
    ⟨!config.streams.isEmpty, "at least one required stream is needed"⟩,
    ⟨names.Nodup ∧ config.referenceStream ∈ names,
      "stream names must be unique and include the reference"⟩,
    ⟨10 * NANOSECONDS_PER_SECOND ≤ config.minimumQualificationSpanNs,
      "qualification span must be at least 10 seconds"⟩,
    ⟨1000000 ≤ config.offsetGuardNs ∧ config.offsetGuardNs ≤ 20000000,
      "offset guard must be 1..20 ms"⟩,
    ⟨1000000 ≤ config.affineAnchorPastGuardNs ∧ config.affineAnchorPastGuardNs ≤ 20000000,
      "affine anchor past guard must be 1..20 ms"⟩,
    ⟨0 < config.lowerQuantile ∧ config.lowerQuantile ≤ Binary64.nearest (1 / 20),
      "lower quantile must be in (0, 0.05]"⟩,
    ⟨0 ≤ config.maxCorrectedFutureNs ∧ config.maxCorrectedFutureNs ≤ 5000000,
      "navigation correction may allow at most 5 ms future skew"⟩,
    ⟨config.maxCorrectedFutureNs ≤ config.offsetGuardNs,
      "offset guard must cover the allowed future skew"⟩,
    ⟨config.maxCorrectedFutureNs ≤ config.affineAnchorPastGuardNs,
      "affine anchor past guard must cover the allowed future skew"⟩,
    ⟨config.minimumLockedCorrectedAgeNs.all fun minimum =>
        1000000 ≤ minimum ∧ minimum ≤ config.affineAnchorPastGuardNs,
      "locked corrected-age floor must be 1 ms..affine anchor guard"⟩,
    ⟨0 ≤ config.maxRelativeLeadNs ∧ config.maxRelativeLeadNs ≤ 10000000,
      "cross-stream lead allowance may be at most 10 ms"⟩,
    ⟨1000000 ≤ config.maxClockPairDiscontinuityNs ∧
        config.maxClockPairDiscontinuityNs ≤ 50000000,
      "clock discontinuity threshold must be 1..50 ms"⟩,
    ⟨0 < config.maxClockReadSpanNs ∧ config.maxClockReadSpanNs ≤ 5000000,
      "clock read span ceiling must be at most 5 ms"⟩,
    ⟨1000000 ≤ config.maxSourceReceiptDeltaErrorNs ∧
        config.maxSourceReceiptDeltaErrorNs ≤ 250000000,
      "source/receipt delta error threshold must be 1..250 ms"⟩,
    ⟨ONE_TENTH ≤ config.maxAbsoluteDriftPpm ∧ config.maxAbsoluteDriftPpm ≤ 100,
      "absolute drift threshold must be 0.1..100 ppm"⟩,
    ⟨ONE_TENTH ≤ config.maxPairwiseDriftPpm ∧ config.maxPairwiseDriftPpm ≤ 50,
      "pairwise drift threshold must be 0.1..50 ppm"⟩,
    ⟨ONE_TENTH ≤ config.maxApprovedAffineDriftDeviationPpm ∧
        config.maxApprovedAffineDriftDeviationPpm ≤ 5,
      "approved affine drift-deviation threshold must be 0.1..5 ppm"⟩,
    ⟨config.affineQualificationWindowNs.all fun window =>
        10 * NANOSECONDS_PER_SECOND ≤ window ∧ window % config.driftBinNs = 0,
      "affine qualification window must be an integer multiple " ++
        "of the drift bin and at least 10 seconds"⟩,
    ⟨ONE_TENTH ≤ config.maxAffineWindowCommonDriftDeviationPpm ∧
        config.maxAffineWindowCommonDriftDeviationPpm ≤ 20,
      "affine window common-drift threshold must be 0.1..20 ppm"⟩,
    ⟨ONE_TENTH ≤ config.maxLockedAffineDriftDeviationPpm ∧
        config.maxLockedAffineDriftDeviationPpm ≤ 50,
      "locked affine drift-deviation threshold must be 0.1..50 ppm"⟩,
    ⟨config.maxPairwiseDriftPpm ≤ config.maxAbsoluteDriftPpm,
      "pairwise drift threshold cannot exceed absolute drift"⟩,
    ⟨1000000 ≤ config.maxLockedOffsetDeviationNs ∧
        config.maxLockedOffsetDeviationNs ≤ 50000000,
      "locked offset deviation must be 1..50 ms"⟩,
    ⟨100000000 ≤ config.driftBinNs ∧ config.driftBinNs ≤ 5 * NANOSECONDS_PER_SECOND,
      "drift bin must be 0.1..5 seconds"⟩,
    ⟨10000000 ≤ config.statisticsEvaluationPeriodNs ∧
        config.statisticsEvaluationPeriodNs ≤ 5 * NANOSECONDS_PER_SECOND,
      "statistics evaluation period must be 0.01..5 seconds"⟩,
    ⟨100 ≤ config.retainedSamplesPerStream ∧ config.retainedSamplesPerStream ≤ 100000,
      "retained sample count must be 100..100000"⟩,
    ⟨uniqueNames dropStreams,
      "affine locked non-core delta-drop streams must be unique names"⟩,
    .noneOf (sortedDifference dropStreams names)
      "affine locked non-core delta-drop streams are unknown: ",
    ⟨(sortedDifference dropStreams ["mid360_cloud"]).isEmpty,
      "only mid360_cloud may use the affine locked non-core delta-drop contract"⟩,
    ⟨config.referenceStream ∉ dropStreams,
      "the affine reference stream cannot be delta-drop enabled"⟩,
    ⟨uniqueNames qualifyingDropStreams,
      "affine qualifying non-core delta-drop streams must be unique names"⟩,
    .noneOf (sortedDifference qualifyingDropStreams names)
      "affine qualifying non-core delta-drop streams are unknown: ",
    ⟨(sortedDifference qualifyingDropStreams ["mid360_cloud"]).isEmpty,
      "only mid360_cloud may use the affine qualifying non-core delta-drop contract"⟩,
    ⟨config.referenceStream ∉ qualifyingDropStreams,
      "the affine reference stream cannot be qualifying delta-drop enabled"⟩,
    ⟨uniqueNames recoveryStreams,
      "affine locked core delta-recovery streams must be unique names"⟩,
    .noneOf (sortedDifference recoveryStreams names)
      "affine locked core delta-recovery streams are unknown: ",
    .noneOf (sortedIntersection recoveryStreams dropStreams)
      "affine delta-drop and delta-recovery streams must be disjoint: "] ++
  config.streams.flatMap (StreamPolicy.checks config)

/-- `validate`. -/
def validate (config : DisciplineConfig) : Except Raised Unit := Check.all config.checks

end DisciplineConfig

end UnitreeGo2.StampDiscipline
