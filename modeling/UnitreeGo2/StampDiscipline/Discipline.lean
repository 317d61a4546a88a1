import UnitreeGo2.StampDiscipline.Estimate
import Mathlib.Logic.Function.Basic

/-!
# The affine stamp discipline

The discipline observes samples of the required streams.  While it is locked, it answers with
stamps that one frozen affine model has corrected; it polices the clocks, and it pauses after a
receipt outage until every stream is fresh again.
-/

namespace UnitreeGo2.StampDiscipline

open TimeSync (Raised)
open Binary64 (nearest)

/-! ## Reasons -/

/-- The reasons of results and faults. -/
inductive Reason where
  | disciplineFaulted
  | unexpectedStream (stream : String)
  | clockDomainMismatch (stream : String)
  | invalidTimestampEncoding (stream : String)
  | clockReadSpanExceeded (stream : String)
  | localRealtimeDiscontinuity
  | sourceTimestampRegression (stream : String)
  | duplicateSourceTimestamp (stream : String)
  | receiptMonotonicNotAdvancing (stream : String)
  | sourceReceiptDeltaDiscontinuity (stream : String)
  | affineQualificationRestarted (stream : String)
  | affineNotLocked
  | affineModelMissingAfterLock
  | affineCorrectedAgeCacheMissingAfterLock
  | affineCorrectedAgeCacheMisaligned (stream : String)
  | affineCorrectionOutOfRange (stream : String)
  | correctedTimestampInFuture (stream : String)
  | affineCorrectedAgeMarginExhausted (stream : String)
  | streamStale (stream : String) (receiptAgeNs : Option ℤ) (limitNs : ℤ)
  | correctedTimestampTransientStale (stream : String)
  | statisticsMonotonicRegression
  | streamLost (stream : String)
  | duplicateFractionExceeded (stream : String)
  | lockedAffineCommonWindowIncomplete (stream : String)
  | clockDriftExceeded (stream : String)
  | affineModelDriftDeviationExceeded
  | pairwiseDriftDisagreement (stream : String)
  | affineModelResidualExceeded (stream : String)
  | streamRelativeLagChanged (stream : String)
  | streamLeadsReference (stream : String)
  | streamLagExceeded (stream : String)
  | invalidPollTime
  | affineQualificationTerminalFailed
  | approvedAffineCommonDriftDeviationExceeded
  | noncoreDeltaDropped (stream : String)
  | lockedStaleSampleDropped (stream : String)
  | recoveryDeltaDropped (stream : String)
  | awaitingFreshStreams (streams : List String)
  | awaitingLockedStatistics
  | lockedReceiptRecovery (reason : Reason)
  | lockedReceiptRecovered
  | healthyNoSample
  | navigationSafeAffine
  deriving DecidableEq

namespace Reason

def text : Reason → String
  | disciplineFaulted => "discipline faulted"
  | unexpectedStream stream => "unexpected_stream:" ++ stream
  | clockDomainMismatch stream => "clock_domain_mismatch:" ++ stream
  | invalidTimestampEncoding stream => "invalid_timestamp_encoding:" ++ stream
  | clockReadSpanExceeded stream => "clock_read_span_exceeded:" ++ stream
  | localRealtimeDiscontinuity => "local_realtime_discontinuity"
  | sourceTimestampRegression stream => "source_timestamp_regression:" ++ stream
  | duplicateSourceTimestamp stream => "duplicate_source_timestamp:" ++ stream
  | receiptMonotonicNotAdvancing stream => "receipt_monotonic_not_advancing:" ++ stream
  | sourceReceiptDeltaDiscontinuity stream => "source_receipt_delta_discontinuity:" ++ stream
  | affineQualificationRestarted stream =>
    "affine_qualification_restarted_after_delivery_pause:" ++ stream
  | affineNotLocked => "affine_not_locked"
  | affineModelMissingAfterLock => "affine_model_missing_after_lock"
  | affineCorrectedAgeCacheMissingAfterLock => "affine_corrected_age_cache_missing_after_lock"
  | affineCorrectedAgeCacheMisaligned stream =>
    "affine_corrected_age_cache_misaligned:" ++ stream
  | affineCorrectionOutOfRange stream => "affine_correction_out_of_range:" ++ stream
  | correctedTimestampInFuture stream => "corrected_timestamp_in_future:" ++ stream
  | affineCorrectedAgeMarginExhausted stream =>
    "affine_corrected_age_margin_exhausted:" ++ stream
  | streamStale stream receiptAgeNs limitNs =>
    let ageText := (receiptAgeNs.map toString).getD "missing"
    "stream_stale:" ++ stream ++ ":receipt_age_ns=" ++ ageText ++ s!":limit_ns={limitNs}"
  | correctedTimestampTransientStale stream => "corrected_timestamp_transient_stale:" ++ stream
  | statisticsMonotonicRegression => "statistics_monotonic_regression"
  | streamLost stream => "stream_lost:" ++ stream
  | duplicateFractionExceeded stream => "duplicate_fraction_exceeded:" ++ stream
  | lockedAffineCommonWindowIncomplete stream =>
    "locked_affine_common_window_incomplete:" ++ stream
  | clockDriftExceeded stream => "clock_drift_exceeded:" ++ stream
  | affineModelDriftDeviationExceeded => "affine_model_drift_deviation_exceeded"
  | pairwiseDriftDisagreement stream => "pairwise_drift_disagreement:" ++ stream
  | affineModelResidualExceeded stream => "affine_model_residual_exceeded:" ++ stream
  | streamRelativeLagChanged stream => "stream_relative_lag_changed:" ++ stream
  | streamLeadsReference stream => "stream_leads_reference:" ++ stream
  | streamLagExceeded stream => "stream_lag_exceeded:" ++ stream
  | invalidPollTime => "invalid_poll_time"
  | affineQualificationTerminalFailed => "affine_qualification_terminal_failed"
  | approvedAffineCommonDriftDeviationExceeded =>
    "approved_affine_common_drift_deviation_exceeded"
  | noncoreDeltaDropped stream => "noncore_source_receipt_delta_discontinuity_dropped:" ++ stream
  | lockedStaleSampleDropped stream => "locked_corrected_timestamp_stale_dropped:" ++ stream
  | recoveryDeltaDropped stream =>
    "locked_receipt_recovery_delta_discontinuity_dropped:" ++ stream
  | awaitingFreshStreams streams => "awaiting_fresh_streams:" ++ ",".intercalate streams
  | awaitingLockedStatistics => "awaiting_locked_statistics"
  | lockedReceiptRecovery reason => "locked_receipt_recovery:" ++ reason.text
  | lockedReceiptRecovered => "locked_receipt_recovered"
  | healthyNoSample => "healthy_no_sample"
  | navigationSafeAffine => "navigation_safe_affine"

/-- The reasons whose texts begin with `locked_affine_common_window_incomplete:`. -/
def isWindowIncomplete : Reason → Bool
  | lockedAffineCommonWindowIncomplete _ => true
  | _ => false

/-- The reasons that `_enter_locked_receipt_recovery` recovers from, told by their prefixes. -/
def recoverable : Reason → Bool
  | streamStale .. => true
  | correctedTimestampTransientStale _ => true
  | recoveryDeltaDropped _ => true
  | lockedAffineCommonWindowIncomplete _ => true
  | _ => false

end Reason

structure CorrectionResult where
  accepted : Bool
  correctedStampNs : Option ℤ
  navigationEligible : Bool
  reason : Reason
  state : DisciplineState
  diagnostics : List (String × ℤ) := []

/-- A result without a stamp. -/
def CorrectionResult.refused (reason : Reason) (state : DisciplineState)
    (diagnostics : List (String × ℤ)) : CorrectionResult :=
  ⟨false, none, false, reason, state, diagnostics⟩

/-! ## The state -/

/-- `deque.append` with a `maxlen`. -/
def appendBounded {α : Type*} (limit : ℕ) (values : List α) (value : α) : List α :=
  (values ++ [value]).drop (values.length + 1 - limit)

structure StreamState where
  retainedLimit : ℕ
  samples : List Sample := []
  lastSourceNs : Option ℤ := none
  lastAdvancingReceiptMonotonicNs : Option ℤ := none
  advancing : ℕ := 0
  duplicates : ℕ := 0

/-- The corrected ages of a stream, with the `maxlen` of their deque. -/
structure AgeWindow where
  limit : ℕ
  ages : List ℤ
  deriving DecidableEq

/-- A receipt gap of a stream, by the receipts on both of its sides. -/
structure ReceiptGap where
  leftNs : ℤ
  rightNs : ℤ
  gapNs : ℤ
  deriving DecidableEq

/-- `state.duplicates / total if total else 0.0`. -/
def StreamState.duplicateFraction (stream : StreamState) : ℚ :=
  let total := stream.advancing + stream.duplicates
  if total = 0 then 0 else nearest ((stream.duplicates : ℚ) / (total : ℚ))

/-- The cached ages of a stream are those of its samples. -/
def StreamState.alignedWith (stream : StreamState) (window : AgeWindow) : Bool :=
  window.limit = stream.retainedLimit ∧ window.ages.length = stream.samples.length

def AffineClockModel.baselineAgeNs (model : AffineClockModel) (stream : String) : ℤ :=
  (model.streamBaselineCorrectedAgeNs.lookup stream).getD 0

/-- What an auditor of the run writes down; the discipline never reads it. -/
structure AuditTrail where
  /-- The gaps recorded in the present pause. -/
  pending : List (String × ReceiptGap) := []
  /-- The gaps recorded in completed pauses. -/
  audited : List (String × ReceiptGap) := []
  /-- A gap was recorded while the waiver of another gap of its stream was held. -/
  overlapped : Bool := false
  /-- The verdicts of the health evaluations, the latest first. -/
  verdicts : List (Option Reason) := []

/-- What the constructor fixes. -/
structure Settings where
  config : DisciplineConfig
  coreStreams : List String
  allowLockedReceiptRecovery : Bool := false

structure Discipline where
  state : DisciplineState
  faultReason : Option Reason
  streams : String → StreamState
  lastClockBaseNs : Option ℤ
  lastStatisticsEvaluationMonotonicNs : Option ℤ
  affineQualificationStartMonotonicNs : Option ℤ
  /-- The last structurally valid advancing observation, retained or not. -/
  observedContinuity : String → Option (ℤ × ℤ)
  observedContinuityIsLastGood : String → Bool
  lockedAffineModel : Option AffineClockModel
  lockedCorrectedAges : Option (String → AgeWindow)
  affineLockMonotonicNs : Option ℤ
  affineLockClockBaseNs : Option ℤ
  receiptRecoveryActive : Bool
  receiptRecoveryCount : ℕ
  receiptRecoverySampleCounts : String → ℕ
  receiptRecoveryPreGapReceiptNs : String → Option ℤ
  receiptRecoveryGapWaivers : String → Option ReceiptGap
  audit : AuditTrail

namespace Settings

variable (d : Settings)

/-- The checks of the constructor, behind those of the configuration. -/
def checks (qualificationStart : Option ℤ) : List Check :=
  let names := d.config.names
  [⟨2 ≤ d.coreStreams.length ∧ d.coreStreams.Nodup,
      "at least two unique affine core streams are required"⟩,
    .noneOf (sortedDifference d.coreStreams names) "unknown affine core streams: ",
    ⟨d.config.referenceStream ∈ d.coreStreams,
      "affine core streams must include the reference stream"⟩,
    .noneOf (sortedIntersection d.config.affineLockedNoncoreDeltaDropStreams d.coreStreams)
      "affine core streams cannot be delta-drop enabled: ",
    .noneOf (sortedIntersection d.config.affineQualifyingNoncoreDeltaDropStreams d.coreStreams)
      "affine core streams cannot be qualifying delta-drop enabled: ",
    .noneOf (sortedDifference d.config.affineLockedCoreDeltaRecoveryStreams d.coreStreams)
      "only affine core streams can use delta recovery: ",
    ⟨qualificationStart.all fun start => 0 < start,
      "affine qualification start must be a positive integer"⟩]

/-- The state that the constructor leaves. -/
def initial (qualificationStart : Option ℤ) : Discipline where
  state := .qualifying
  faultReason := none
  streams := fun _ => { retainedLimit := d.config.retainedSamplesPerStream }
  lastClockBaseNs := none
  lastStatisticsEvaluationMonotonicNs := none
  affineQualificationStartMonotonicNs := qualificationStart
  observedContinuity := fun _ => none
  observedContinuityIsLastGood := fun _ => false
  lockedAffineModel := none
  lockedCorrectedAges := none
  affineLockMonotonicNs := none
  affineLockClockBaseNs := none
  receiptRecoveryActive := false
  receiptRecoveryCount := 0
  receiptRecoverySampleCounts := fun _ => 0
  receiptRecoveryPreGapReceiptNs := fun _ => none
  receiptRecoveryGapWaivers := fun _ => none
  audit := {}

/-- `AffineNavigationStampDiscipline.__init__`. -/
def create (qualificationStart : Option ℤ) : Except Raised Discipline := do
  d.config.validate
  Check.all (d.checks qualificationStart)
  return d.initial qualificationStart

variable {d} in
lemma create_eq {qualificationStart : Option ℤ} (hvalid : d.config.validate = .ok ())
    (hchecks : Check.all (d.checks qualificationStart) = .ok ()) :
    d.create qualificationStart = .ok (d.initial qualificationStart) := by
  rw [create, hvalid, hchecks]
  rfl

end Settings

/-! ## Observations and receipt windows -/

/-- The arguments of `observe`. -/
structure Observation where
  stream : String
  sourceStampNs : ℤ
  receiptRealtimeNs : ℤ
  receiptMonotonicNs : ℤ
  clockDomain : String
  clockReadSpanNs : ℤ := 0
  deriving DecidableEq

namespace Observation

variable (x : Observation)

def clockBaseNs : ℤ := x.receiptRealtimeNs - x.receiptMonotonicNs

def ageNs : ℤ := x.receiptRealtimeNs - x.sourceStampNs

def sample : Sample := ⟨x.sourceStampNs, x.receiptMonotonicNs, x.ageNs⟩

/-- The pair that the continuity baseline keeps. -/
def continuity : ℤ × ℤ := (x.sourceStampNs, x.receiptMonotonicNs)

end Observation

/-- How far the source period and the receipt period of an observation are apart. -/
structure DeltaError where
  sourceDeltaNs : ℤ
  receiptDeltaNs : ℤ
  limitNs : ℤ

namespace DeltaError

variable (delta : DeltaError)

def errorNs : ℤ := |delta.sourceDeltaNs - delta.receiptDeltaNs|

def diagnostics : List (String × ℤ) :=
  [("source_delta_ns", delta.sourceDeltaNs), ("receipt_delta_ns", delta.receiptDeltaNs),
    ("delta_error_ns", delta.errorNs), ("delta_error_limit_ns", delta.limitNs)]

end DeltaError

/-- An interval of receipts, with both of its ends. -/
structure DriftWindow where
  startNs : ℤ
  endNs : ℤ

def DriftWindow.samples (window : DriftWindow) (retained : List Sample) : List Sample :=
  retained.filter fun sample =>
    window.startNs ≤ sample.receiptMonotonicNs ∧ sample.receiptMonotonicNs ≤ window.endNs

/-- The gap between two receipts. -/
def gapBetween (leftNs rightNs : ℤ) : ReceiptGap := ⟨leftNs, rightNs, rightNs - leftNs⟩

/-- The receipt gaps between neighbouring samples. -/
def receiptGaps : List Sample → List ReceiptGap
  | left :: right :: rest =>
    gapBetween left.receiptMonotonicNs right.receiptMonotonicNs :: receiptGaps (right :: rest)
  | _ => []

/-- The first of the longest gaps. -/
def longestGap : List ReceiptGap → Option ReceiptGap
  | [] => none
  | gap :: gaps =>
    match longestGap gaps with
    | none => some gap
    | some later => if later.gapNs ≤ gap.gapNs then some gap else some later

/-- The diagnostics of a core stream that decide whether its window is complete. -/
structure WindowDetails where
  windowSamples : ℕ
  envelopePoints : ℕ
  firstReceiptOffsetNs : Option ℤ
  lastReceiptOffsetNs : Option ℤ
  maxReceiptGap : Option ReceiptGap

/-- The test of `_statistical_health` for a complete window. -/
def WindowDetails.complete (details : WindowDetails) (window : DriftWindow)
    (requiredEnvelopePoints coverageLimitNs : ℤ) (recordedGap : Option ReceiptGap) : Bool :=
  let maximumGapIsAllowed := details.maxReceiptGap.any fun gap =>
    gap.gapNs ≤ coverageLimitNs ∨ recordedGap = some gap
  let recordedGapCoversWindowStart := recordedGap.any fun recorded =>
    recorded.leftNs < window.startNs ∧ window.startNs ≤ recorded.rightNs ∧
      details.firstReceiptOffsetNs.any (window.startNs + · = recorded.rightNs)
  let firstEdgeIsAllowed := details.firstReceiptOffsetNs.any fun offset =>
    offset ≤ coverageLimitNs ∨ recordedGapCoversWindowStart
  4 ≤ details.windowSamples ∧ requiredEnvelopePoints ≤ details.envelopePoints ∧
    firstEdgeIsAllowed ∧ details.lastReceiptOffsetNs.any (· ≤ coverageLimitNs) ∧
    maximumGapIsAllowed

/-- A waiver, unless its gap has rolled out of the window. -/
def unexpired (window : DriftWindow) (waiver : Option ReceiptGap) : Option ReceiptGap :=
  waiver.filter fun recorded => window.startNs ≤ recorded.rightNs

namespace Discipline

/-! ## Health -/

/-- `_fault`. -/
def fault (s : Discipline) (reason : Reason) (diagnostics : List (String × ℤ)) :
    CorrectionResult × Discipline :=
  (.refused reason .faulted diagnostics,
    { s with state := .faulted, faultReason := some reason })

/-- The age of the last receipt that advanced a stream. -/
def receiptAgeNs (s : Discipline) (stream : String) (nowNs : ℤ) : Option ℤ :=
  (s.streams stream).lastAdvancingReceiptMonotonicNs.map (nowNs - ·)

/-- The `live` entry of `receipt_liveness_snapshot`. -/
def live (s : Discipline) (policy : StreamPolicy) (nowNs : ℤ) : Bool :=
  (s.receiptAgeNs policy.name nowNs).any fun age =>
    0 ≤ age ∧ age ≤ policy.staleReceiptTimeoutNs

/-- `_liveness_health`. -/
def livenessHealth (d : Settings) (s : Discipline) (nowNs : ℤ) : Option Reason :=
  (d.config.streams.find? (!s.live · nowNs)).map fun policy =>
    .streamStale policy.name (s.receiptAgeNs policy.name nowNs) policy.staleReceiptTimeoutNs

/-- The receipt of the last retained sample, for a stream that has one. -/
def latestReceiptNs (s : Discipline) (stream : String) : ℤ :=
  ((s.streams stream).samples.getLast?.map Sample.receiptMonotonicNs).getD 0

/-- `_locked_affine_drift_window`, whose samples and diagnostics are read stream by stream. -/
def lockedAffineDriftWindow (d : Settings) (s : Discipline) : DriftWindow :=
  let commonEndNs := (d.coreStreams.map s.latestReceiptNs).min?.getD 0
  let qualificationStartNs := s.affineQualificationStartMonotonicNs.getD commonEndNs
  ⟨max qualificationStartNs (commonEndNs - LOCKED_AFFINE_DRIFT_WINDOW_NS), commonEndNs⟩

/-- The bins of the envelopes are anchored where the qualification started. -/
def binAnchorNs (s : Discipline) : ℤ := s.affineQualificationStartMonotonicNs.getD 0

/-- The lower envelope of samples, on the bins of the session. -/
def envelope (d : Settings) (s : Discipline) (samples : List Sample) : List Sample :=
  lowerEnvelopePoints samples d.config.driftBinNs s.binAnchorNs

def windowDetails (d : Settings) (s : Discipline) (window : DriftWindow) (stream : String) :
    WindowDetails :=
  let samples := window.samples (s.streams stream).samples
  { windowSamples := samples.length
    envelopePoints := (s.envelope d samples).length
    firstReceiptOffsetNs := samples.head?.map (·.receiptMonotonicNs - window.startNs)
    lastReceiptOffsetNs := samples.getLast?.map (window.endNs - ·.receiptMonotonicNs)
    maxReceiptGap := longestGap (receiptGaps samples) }

/-- The envelope points that a complete window must have. -/
def requiredEnvelopePoints (d : Settings) (window : DriftWindow) : ℤ :=
  max 4 ((window.endNs - window.startNs) / d.config.driftBinNs)

def windowComplete (d : Settings) (s : Discipline) (window : DriftWindow) (stream : String)
    (recordedGap : Option ReceiptGap) : Bool :=
  (s.windowDetails d window stream).complete window (requiredEnvelopePoints d window)
    (d.config.policy stream).staleReceiptTimeoutNs recordedGap

/-- The loop of `_statistical_health` over the windows of the core streams, which drops the
waivers of gaps that have rolled out. -/
def reviewWindows (d : Settings) (s : Discipline) (window : DriftWindow) :
    List String → (String → Option ReceiptGap) → Option Reason × (String → Option ReceiptGap)
  | [], waivers => (none, waivers)
  | stream :: rest, waivers =>
    let recordedGap := unexpired window (waivers stream)
    let waivers := Function.update waivers stream recordedGap
    if s.windowComplete d window stream recordedGap then s.reviewWindows d window rest waivers
    else (some (.lockedAffineCommonWindowIncomplete stream), waivers)

/-- The checks of `_statistical_health` that every stream is there. -/
def presenceHealth (d : Settings) (s : Discipline) : Option Reason :=
  d.config.streams.findSome? fun policy =>
    if (s.streams policy.name).samples.isEmpty then some (.streamLost policy.name)
    else if policy.maxDuplicateFraction < (s.streams policy.name).duplicateFraction then
      some (.duplicateFractionExceeded policy.name)
    else none

def coreDrifts (d : Settings) (s : Discipline) (window : DriftWindow) :
    List (String × Option ℚ) :=
  d.coreStreams.map fun stream =>
    (stream, theilSenAgeDriftPpm nearest (s.envelope d (window.samples (s.streams stream).samples)))

/-- The checks of `_statistical_health` on the clock rates. -/
def driftHealth (d : Settings) (model : AffineClockModel) (drifts : List (String × Option ℚ)) :
    Option Reason :=
  match drifts.find? (·.2.all (d.config.maxAbsoluteDriftPpm < |·|)) with
  | some drift => some (.clockDriftExceeded drift.1)
  | none =>
    if (commonDrift drifts).any fun common =>
        d.config.maxLockedAffineDriftDeviationPpm < |nearest (common - model.driftPpm)| then
      some .affineModelDriftDeviationExceeded
    else
      let currentDrifts := drifts.filterMap fun drift => drift.2.map (drift.1, ·)
      (pairwiseDriftDisagreements currentDrifts d.config.maxPairwiseDriftPpm).head?.map
        .pairwiseDriftDisagreement

/-- The checks of `_statistical_health` on the corrected ages. -/
def residualHealth (d : Settings) (s : Discipline) (model : AffineClockModel) :
    Option Reason :=
  match s.lockedCorrectedAges with
  | none => some .affineCorrectedAgeCacheMissingAfterLock
  | some windows =>
    let currentLowerNs := fun stream => quantile (windows stream).ages d.config.lowerQuantile
    let reference := d.config.referenceStream
    let residual := d.config.names.findSome? fun stream =>
      if !(s.streams stream).alignedWith (windows stream) then
        some (.affineCorrectedAgeCacheMisaligned stream)
      else if d.config.maxLockedOffsetDeviationNs <
          |currentLowerNs stream - model.baselineAgeNs stream| then
        some (.affineModelResidualExceeded stream)
      else none
    let relative := d.config.streams.findSome? fun policy =>
      let baselineRelative := model.baselineAgeNs policy.name -
        model.baselineAgeNs reference
      let currentRelative := currentLowerNs policy.name - currentLowerNs reference
      if d.config.maxLockedOffsetDeviationNs < |currentRelative - baselineRelative| then
        some (.streamRelativeLagChanged policy.name)
      else if currentRelative < -d.config.maxRelativeLeadNs then
        some (.streamLeadsReference policy.name)
      else if policy.maxRelativeLagNs < currentRelative then
        some (.streamLagExceeded policy.name)
      else none
    residual.or relative

/-- `_statistical_health`, with the waivers that are left. -/
def statisticalHealth (d : Settings) (s : Discipline) :
    Option Reason × (String → Option ReceiptGap) :=
  match s.lockedAffineModel with
  | none => (some .affineModelMissingAfterLock, s.receiptRecoveryGapWaivers)
  | some model =>
    match s.presenceHealth d with
    | some reason => (some reason, s.receiptRecoveryGapWaivers)
    | none =>
      let window := s.lockedAffineDriftWindow d
      let review := s.reviewWindows d window d.coreStreams s.receiptRecoveryGapWaivers
      ((review.1.or (driftHealth d model (s.coreDrifts d window))).or (s.residualHealth d model),
        review.2)

/-- `_scheduled_statistics_health`. -/
def scheduledStatisticsHealth (d : Settings) (s : Discipline) (nowNs : ℤ) :
    Option Reason × Discipline :=
  let previous := s.lastStatisticsEvaluationMonotonicNs
  if previous.any (nowNs < ·) then (some .statisticsMonotonicRegression, s)
  else if !d.config.lockedStatisticsEnabled then (none, s)
  else if previous.any (nowNs - · < d.config.statisticsEvaluationPeriodNs) then (none, s)
  else
    let (verdict, waivers) := s.statisticalHealth d
    (verdict,
      { s with
        lastStatisticsEvaluationMonotonicNs := some nowNs
        receiptRecoveryGapWaivers := waivers
        audit := { s.audit with verdicts := verdict :: s.audit.verdicts } })

/-! ## Locked receipt recovery -/

/-- `_receipt_recovery_result`. -/
def receiptRecoveryResult (s : Discipline) (reason : Reason) (diagnostics : List (String × ℤ)) :
    CorrectionResult :=
  .refused (.lockedReceiptRecovery reason) s.state diagnostics

/-- `_record_gap_waiver`. -/
def recordGapWaiver (d : Settings) (s : Discipline) (stream : String) (leftNs rightNs : ℤ) :
    Discipline :=
  let candidate := gapBetween leftNs rightNs
  if candidate.gapNs ≤ (d.config.policy stream).staleReceiptTimeoutNs then s
  else
    let held := s.receiptRecoveryGapWaivers stream
    { s with
      receiptRecoveryGapWaivers :=
        if held.all (·.gapNs < candidate.gapNs) then
          Function.update s.receiptRecoveryGapWaivers stream (some candidate)
        else s.receiptRecoveryGapWaivers
      audit := { s.audit with
        pending := (stream, candidate) :: s.audit.pending
        overlapped := s.audit.overlapped || held.any (· ≠ candidate) } }

/-- A stream whose last receipt ended an outage has one sample of the new pause already. -/
def seedReceiptRecovery (d : Settings) (s : Discipline) (stream : String) : Discipline :=
  match (receiptGaps (s.streams stream).samples).getLast? with
  | none => s
  | some gap =>
    if gap.gapNs ≤ (d.config.policy stream).staleReceiptTimeoutNs then s
    else
      let s := s.recordGapWaiver d stream gap.leftNs gap.rightNs
      { s with
        receiptRecoverySampleCounts := Function.update s.receiptRecoverySampleCounts stream 1
        receiptRecoveryPreGapReceiptNs :=
          Function.update s.receiptRecoveryPreGapReceiptNs stream (some gap.rightNs) }

/-- The start of a pause. -/
def startReceiptRecovery (d : Settings) (s : Discipline) : Discipline :=
  d.config.names.foldl (seedReceiptRecovery d)
    { s with
      receiptRecoveryActive := true
      receiptRecoveryCount := s.receiptRecoveryCount + 1
      receiptRecoverySampleCounts := fun _ => 0
      receiptRecoveryPreGapReceiptNs := fun stream =>
        (s.streams stream).lastAdvancingReceiptMonotonicNs }

/-- `_enter_locked_receipt_recovery`. -/
def enterLockedReceiptRecovery (d : Settings) (s : Discipline) (reason : Reason)
    (diagnostics : List (String × ℤ)) : CorrectionResult × Discipline :=
  if !d.allowLockedReceiptRecovery ∨ s.state ≠ .locked ∨ !reason.recoverable then
    s.fault reason diagnostics
  else
    let s := if s.receiptRecoveryActive then s else s.startReceiptRecovery d
    (s.receiptRecoveryResult reason diagnostics, s)

/-- `_record_locked_receipt_recovery_sample`. -/
def recordLockedReceiptRecoverySample (d : Settings) (s : Discipline) (stream : String)
    (receiptMonotonicNs : ℤ) : Discipline :=
  let count := s.receiptRecoverySampleCounts stream
  if !s.receiptRecoveryActive ∨ LOCKED_RECEIPT_RECOVERY_REQUIRED_SAMPLES ≤ count then s
  else
    let s := match count, s.receiptRecoveryPreGapReceiptNs stream with
      | 0, some previousNs => s.recordGapWaiver d stream previousNs receiptMonotonicNs
      | _, _ => s
    { s with
      receiptRecoverySampleCounts :=
        Function.update s.receiptRecoverySampleCounts stream (count + 1) }

/-- The end of a pause. -/
def completeReceiptRecovery (s : Discipline) : Discipline :=
  { s with
    receiptRecoveryActive := false
    audit := { s.audit with pending := [], audited := s.audit.pending ++ s.audit.audited } }

/-- The streams that a pause still waits for. -/
def pendingStreams (d : Settings) (s : Discipline) : List String :=
  sortedSet (d.config.names.filter fun stream =>
    s.receiptRecoverySampleCounts stream < LOCKED_RECEIPT_RECOVERY_REQUIRED_SAMPLES)

/-- `_locked_receipt_recovery_health`; without a result the pause is over. -/
def lockedReceiptRecoveryHealth (d : Settings) (s : Discipline) (nowNs : ℤ) :
    Option CorrectionResult × Discipline :=
  match s.livenessHealth d nowNs with
  | some reason => (some (s.receiptRecoveryResult reason []), s)
  | none =>
    if s.pendingStreams d ≠ [] then
      (some (s.receiptRecoveryResult (.awaitingFreshStreams (s.pendingStreams d)) []), s)
    else if !d.config.lockedStatisticsEnabled then (none, s.completeReceiptRecovery)
    else
      let previousEvaluationNs := s.lastStatisticsEvaluationMonotonicNs
      let (health, s) := s.scheduledStatisticsHealth d nowNs
      if s.lastStatisticsEvaluationMonotonicNs = previousEvaluationNs then
        (some (s.receiptRecoveryResult .awaitingLockedStatistics []), s)
      else
        match health with
        | none => (none, s.completeReceiptRecovery)
        | some reason =>
          if reason.isWindowIncomplete then (some (s.receiptRecoveryResult reason []), s)
          else
            let (result, s) := s.fault reason []
            (some result, s)

/-- The end of `observe` and `poll`: what follows from a health verdict. -/
def healthOutcome (d : Settings) (s : Discipline) (reason : Reason) :
    CorrectionResult × Discipline :=
  if reason.isWindowIncomplete then s.enterLockedReceiptRecovery d reason []
  else s.fault reason []

/-! ## Observing -/

/-- The checks of `observe` on the observation itself and on the local clocks. -/
def structuralFault (d : Settings) (s : Discipline) (x : Observation) : Option Reason :=
  if x.stream ∉ d.config.names then some (.unexpectedStream x.stream)
  else if x.clockDomain ≠ d.config.expectedClockDomain then some (.clockDomainMismatch x.stream)
  else if ¬ (0 < x.sourceStampNs ∧ 0 < x.receiptRealtimeNs ∧ 0 < x.receiptMonotonicNs) then
    some (.invalidTimestampEncoding x.stream)
  else if ¬ (0 ≤ x.clockReadSpanNs ∧ x.clockReadSpanNs ≤ d.config.maxClockReadSpanNs) then
    some (.clockReadSpanExceeded x.stream)
  else if s.lastClockBaseNs.any fun lastNs =>
      d.config.maxClockPairDiscontinuityNs < |x.clockBaseNs - lastNs| then
    some .localRealtimeDiscontinuity
  else none

/-- Retain an observation as the last good one of its stream. -/
def retain (s : Discipline) (x : Observation) : Discipline :=
  let stream := s.streams x.stream
  { s with
    observedContinuity := Function.update s.observedContinuity x.stream (some x.continuity)
    observedContinuityIsLastGood :=
      Function.update s.observedContinuityIsLastGood x.stream true
    streams := Function.update s.streams x.stream
      { stream with
        samples := appendBounded stream.retainedLimit stream.samples x.sample
        lastSourceNs := some x.sourceStampNs
        lastAdvancingReceiptMonotonicNs := some x.receiptMonotonicNs
        advancing := stream.advancing + 1 } }

/-- Discard an observation, which advances the continuity baseline only. -/
def discard (s : Discipline) (x : Observation) : Discipline :=
  { s with
    observedContinuity := Function.update s.observedContinuity x.stream (some x.continuity)
    observedContinuityIsLastGood :=
      Function.update s.observedContinuityIsLastGood x.stream false }

/-- `_restart_qualification_after_core_delivery_pause`. -/
def restartQualification (d : Settings) (s : Discipline) (x : Observation)
    (diagnostics : List (String × ℤ)) : CorrectionResult × Discipline :=
  let s := { s with
    streams := fun _ => { retainedLimit := d.config.retainedSamplesPerStream }
    observedContinuity := fun _ => none
    observedContinuityIsLastGood := fun _ => false
    affineQualificationStartMonotonicNs := none
    lastStatisticsEvaluationMonotonicNs := none }
  let s := s.retain x
  (.refused (.affineQualificationRestarted x.stream) s.state diagnostics, s)

/-- The receipt gaps over the timeouts, seen from a receipt. -/
def staleReceiptGaps (d : Settings) (s : Discipline) (receiptMonotonicNs : ℤ) : List ℤ :=
  d.config.streams.filterMap fun policy =>
    (s.receiptAgeNs policy.name receiptMonotonicNs).filter (policy.staleReceiptTimeoutNs < ·)

/-- `_locked_noncore_drop_health`. -/
def lockedNoncoreDropHealth (d : Settings) (s : Discipline) (stream : String) (nowNs : ℤ) :
    Option Reason × Discipline :=
  match s.lockedAffineModel, s.lockedCorrectedAges with
  | none, _ => (some .affineModelMissingAfterLock, s)
  | some _, none => (some .affineCorrectedAgeCacheMissingAfterLock, s)
  | some _, some windows =>
    if !(s.streams stream).alignedWith (windows stream) then
      (some (.affineCorrectedAgeCacheMisaligned stream), s)
    else
      match s.livenessHealth d nowNs with
      | some reason => (some reason, s)
      | none => s.scheduledStatisticsHealth d nowNs

def deltaError (d : Settings) (x : Observation) (continuity : ℤ × ℤ) : DeltaError where
  sourceDeltaNs := x.sourceStampNs - continuity.1
  receiptDeltaNs := x.receiptMonotonicNs - continuity.2
  limitNs := (d.config.policy x.stream).maxSourceReceiptDeltaErrorNs.getD
    d.config.maxSourceReceiptDeltaErrorNs

/-- `observe`, for an observation whose delta error is over the limit. -/
def observeDiscontinuity (d : Settings) (s : Discipline) (x : Observation) (delta : DeltaError) :
    CorrectionResult × Discipline :=
  if s.state = .qualifying ∧ d.config.affineRestartQualificationOnCoreDeltaDiscontinuity ∧
      x.stream ∈ d.coreStreams then
    s.restartQualification d x delta.diagnostics
  else if s.state = .qualifying ∧
      x.stream ∈ d.config.affineQualifyingNoncoreDeltaDropStreams ∧
      delta.errorNs ≤ WORKSTATION_NOMOTION_QUALIFYING_NONCORE_DELTA_ERROR_CEILING_NS ∧
      delta.sourceDeltaNs ≤ WORKSTATION_NOMOTION_QUALIFYING_NONCORE_PERIOD_CEILING_NS ∧
      delta.receiptDeltaNs ≤ WORKSTATION_NOMOTION_QUALIFYING_NONCORE_PERIOD_CEILING_NS then
    (.refused (.noncoreDeltaDropped x.stream) s.state delta.diagnostics, s.discard x)
  else if s.state = .locked ∧ s.receiptRecoveryActive ∧ d.allowLockedReceiptRecovery then
    (s.receiptRecoveryResult (.recoveryDeltaDropped x.stream) delta.diagnostics, s.discard x)
  else if s.state = .locked ∧ d.allowLockedReceiptRecovery ∧
      x.stream ∈ d.config.affineLockedCoreDeltaRecoveryStreams ∧
      delta.errorNs ≤ (d.config.policy x.stream).hardAgeCeilingNs then
    let (result, s) :=
      s.enterLockedReceiptRecovery d (.recoveryDeltaDropped x.stream) delta.diagnostics
    (result, if result.state ≠ .faulted then s.discard x else s)
  else if s.state = .locked ∧ x.stream ∈ d.config.affineLockedNoncoreDeltaDropStreams then
    match s.lockedNoncoreDropHealth d x.stream x.receiptMonotonicNs with
    | (some reason, s) => s.fault reason []
    | (none, s) => (.refused (.noncoreDeltaDropped x.stream) s.state delta.diagnostics, s.discard x)
  else s.fault (.sourceReceiptDeltaDiscontinuity x.stream) delta.diagnostics

/-- The end of `observe`, for an observation that a locked discipline has retained. -/
def observeHealth (d : Settings) (s : Discipline) (x : Observation) (correctedStampNs : ℤ) :
    CorrectionResult × Discipline :=
  match s.livenessHealth d x.receiptMonotonicNs with
  | some reason => s.enterLockedReceiptRecovery d reason []
  | none =>
    match s.scheduledStatisticsHealth d x.receiptMonotonicNs with
    | (some reason, s) => s.healthOutcome d reason
    | (none, s) => (⟨true, some correctedStampNs, true, .navigationSafeAffine, s.state, []⟩, s)

/-- `observe`, for an observation that a locked discipline has retained. -/
def observeRetained (d : Settings) (s : Discipline) (x : Observation) (correctedStampNs : ℤ) :
    CorrectionResult × Discipline :=
  if s.receiptRecoveryActive then
    let s := s.recordLockedReceiptRecoverySample d x.stream x.receiptMonotonicNs
    match s.lockedReceiptRecoveryHealth d x.receiptMonotonicNs with
    | (some result, s) => (result, s)
    | (none, s) => s.observeHealth d x correctedStampNs
  else s.observeHealth d x correctedStampNs

/-- A corrected age joins the cache of its stream. -/
def cacheAge (s : Discipline) (windows : String → AgeWindow) (stream : String) (ageNs : ℤ) :
    Discipline :=
  let window := windows stream
  { s with
    lockedCorrectedAges := some (Function.update windows stream
      { window with ages := appendBounded window.limit window.ages ageNs }) }

/-- `observe` while locked, for an observation that continues its stream. -/
def observeLocked (d : Settings) (s : Discipline) (x : Observation) :
    CorrectionResult × Discipline :=
  match s.lockedAffineModel, s.lockedCorrectedAges with
  | none, _ => s.fault .affineModelMissingAfterLock []
  | some _, none => s.fault .affineCorrectedAgeCacheMissingAfterLock []
  | some model, some windows =>
    if !(s.streams x.stream).alignedWith (windows x.stream) then
      s.fault (.affineCorrectedAgeCacheMisaligned x.stream) []
    else
      match model.correctedStampNs x.sourceStampNs with
      | .error _ => s.fault (.affineCorrectionOutOfRange x.stream) []
      | .ok correctedStampNs =>
        let policy := d.config.policy x.stream
        let correctedAgeNs := x.receiptRealtimeNs - correctedStampNs
        if correctedAgeNs < -d.config.maxCorrectedFutureNs then
          s.fault (.correctedTimestampInFuture x.stream)
            [("corrected_age_ns", correctedAgeNs),
              ("max_corrected_future_ns", d.config.maxCorrectedFutureNs)]
        else if d.config.minimumLockedCorrectedAgeNs.any (correctedAgeNs < ·) then
          s.fault (.affineCorrectedAgeMarginExhausted x.stream)
            [("corrected_age_ns", correctedAgeNs),
              ("minimum_locked_corrected_age_ns", d.config.minimumLockedCorrectedAgeNs.getD 0)]
        else if policy.maxCorrectedAgeNs < correctedAgeNs then
          match s.livenessHealth d x.receiptMonotonicNs with
          | some reason => s.enterLockedReceiptRecovery d reason []
          | none =>
            (.refused (.lockedStaleSampleDropped x.stream) s.state
              [("corrected_age_ns", correctedAgeNs),
                ("max_corrected_age_ns", policy.maxCorrectedAgeNs)], s.discard x)
        else
          -- the cache was aligned with the samples, and both deques grow alike
          ((s.retain x).cacheAge windows x.stream correctedAgeNs).observeRetained d x
            correctedStampNs

/-- `observe`, for an observation that continues its stream. -/
def observeContinuing (d : Settings) (s : Discipline) (x : Observation) :
    CorrectionResult × Discipline :=
  if s.state = .locked then s.observeLocked d x
  else
    let s := s.retain x
    let firstReceipts := d.config.names.map fun stream =>
      (s.streams stream).samples.head?.map Sample.receiptMonotonicNs
    let s := if s.state = .qualifying ∧ s.affineQualificationStartMonotonicNs = none ∧
        firstReceipts.all Option.isSome then
        { s with
          affineQualificationStartMonotonicNs := (firstReceipts.filterMap id).max? }
      else s
    (.refused .affineNotLocked s.state [], s)

/-- `observe`, from its look at the continuity of the stream. -/
def observeStream (d : Settings) (s : Discipline) (x : Observation) :
    CorrectionResult × Discipline :=
  match s.observedContinuity x.stream with
  | none => s.observeContinuing d x
  | some continuity =>
    if x.sourceStampNs < continuity.1 then s.fault (.sourceTimestampRegression x.stream) []
    else if x.sourceStampNs = continuity.1 then
      let stream := s.streams x.stream
      let s := if s.observedContinuityIsLastGood x.stream then
          { s with
            streams := Function.update s.streams x.stream
              { stream with duplicates := stream.duplicates + 1 } }
        else s
      (.refused (.duplicateSourceTimestamp x.stream) s.state [], s)
    else
      let delta := deltaError d x continuity
      if delta.receiptDeltaNs ≤ 0 then s.fault (.receiptMonotonicNotAdvancing x.stream) []
      else if delta.limitNs < delta.errorNs then s.observeDiscontinuity d x delta
      else s.observeContinuing d x

/-- `observe`, where a locked discipline looks at the liveness of all streams first. -/
def observePeers (d : Settings) (s : Discipline) (x : Observation) :
    CorrectionResult × Discipline :=
  if s.state = .locked ∧ d.allowLockedReceiptRecovery ∧ !s.receiptRecoveryActive then
    match s.livenessHealth d x.receiptMonotonicNs with
    | some reason => (s.enterLockedReceiptRecovery d reason []).2.observeStream d x
    | none => s.observeStream d x
  else s.observeStream d x

/-- `observe`, for an observation on sound clocks. -/
def observeTimed (d : Settings) (s : Discipline) (x : Observation) :
    CorrectionResult × Discipline :=
  let receiptGaps := s.staleReceiptGaps d x.receiptMonotonicNs
  if s.state = .qualifying ∧ d.config.affineRestartQualificationOnCoreDeltaDiscontinuity ∧
      s.affineQualificationStartMonotonicNs ≠ none ∧ receiptGaps ≠ [] then
    s.restartQualification d x
      [("stale_stream_count", receiptGaps.length),
        ("largest_receipt_gap_ns", receiptGaps.max?.getD 0)]
  else s.observePeers d x

/-- `observe`. -/
def observe (d : Settings) (s : Discipline) (x : Observation) : CorrectionResult × Discipline :=
  if s.state = .faulted then
    (.refused (s.faultReason.getD .disciplineFaulted) s.state [], s)
  else
    match s.structuralFault d x with
    | some reason => s.fault reason []
    | none => observeTimed d { s with lastClockBaseNs := some x.clockBaseNs } x

/-! ## Polls -/

/-- `poll`, outside a pause. -/
def pollHealth (d : Settings) (s : Discipline) (nowNs : ℤ) : CorrectionResult × Discipline :=
  match s.livenessHealth d nowNs with
  | some reason => s.enterLockedReceiptRecovery d reason []
  | none =>
    match s.scheduledStatisticsHealth d nowNs with
    | (some reason, s) => s.healthOutcome d reason
    | (none, s) => (.refused .healthyNoSample s.state [], s)

/-- `poll`. -/
def poll (d : Settings) (s : Discipline) (nowNs : ℤ) : CorrectionResult × Discipline :=
  if s.state = .faulted then
    (.refused (s.faultReason.getD .disciplineFaulted) s.state [], s)
  else if s.state ≠ .locked then (.refused .affineNotLocked s.state [], s)
  else if nowNs ≤ 0 then s.fault .invalidPollTime []
  else if s.receiptRecoveryActive then
    match s.lockedReceiptRecoveryHealth d nowNs with
    | (some result, s) => (result, s)
    | (none, s) => (.refused .lockedReceiptRecovered s.state [], s)
  else s.pollHealth d nowNs

end Discipline

end UnitreeGo2.StampDiscipline
