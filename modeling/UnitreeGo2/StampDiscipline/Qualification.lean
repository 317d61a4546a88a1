import UnitreeGo2.StampDiscipline.Discipline

/-!
# Qualifying and locking

A model is derived from the retained samples, directly or from a snapshot of them that another
thread evaluates.  It is locked when no reason speaks against it.
-/

namespace UnitreeGo2.StampDiscipline

open TimeSync (Raised)
open Binary64 (nearest roundHalfEven)
open Median (median)

/-! ## Evidence -/

/-- The metrics that the affine qualification reads. -/
structure StreamMetrics where
  samples : ℕ
  spanNs : ℤ
  lowerAgeNs : ℤ
  duplicateFraction : ℚ

/-- Lower-envelope rate evidence for one fixed monotonic interval. -/
structure DriftIntervalEvidence where
  startMonotonicNs : ℤ
  endMonotonicNs : ℤ
  endInclusive : Bool
  coreStreamDriftsPpm : List (String × Option ℚ)
  coreStreamEnvelopePoints : List (String × ℕ)
  coreStreamFirstReceiptOffsetNs : List (String × Option ℤ)
  coreStreamLastReceiptOffsetNs : List (String × Option ℤ)
  coreStreamMaxReceiptGapNs : List (String × Option ℤ)
  commonDriftPpm : Option ℚ
  deriving DecidableEq

/-- Evidence from the samples and the envelopes of the core streams. -/
def intervalEvidence (d : Settings) (startNs endNs : ℤ) (endInclusive : Bool)
    (samples envelopes : String → List Sample) : DriftIntervalEvidence :=
  let coreDrifts := d.coreStreams.map fun stream =>
    (stream, theilSenAgeDriftPpm nearest (envelopes stream))
  { startMonotonicNs := startNs
    endMonotonicNs := endNs
    endInclusive := endInclusive
    coreStreamDriftsPpm := coreDrifts
    coreStreamEnvelopePoints := d.coreStreams.map fun stream =>
      (stream, (envelopes stream).length)
    coreStreamFirstReceiptOffsetNs := d.coreStreams.map fun stream =>
      (stream, (samples stream).head?.map (·.receiptMonotonicNs - startNs))
    coreStreamLastReceiptOffsetNs := d.coreStreams.map fun stream =>
      (stream, (samples stream).getLast?.map (endNs - ·.receiptMonotonicNs))
    coreStreamMaxReceiptGapNs := d.coreStreams.map fun stream =>
      (stream, ((receiptGaps (samples stream)).map ReceiptGap.gapNs).max?)
    commonDriftPpm := commonDrift coreDrifts }

/-! ## Reasons against a lock -/

/-- The reasons that the metrics of a stream give, without metrics of the reference stream those
that need none. -/
def streamReasons (d : Settings) (policy : StreamPolicy) (metrics reference : Option StreamMetrics)
    (receiptAgeNs : Option ℤ) : List String :=
  match metrics with
  | none => ["missing_stream:" ++ policy.name]
  | some metrics =>
    let live := receiptAgeNs.any fun age => 0 ≤ age ∧ age ≤ policy.staleReceiptTimeoutNs
    let relativeLagNs := reference.map (metrics.lowerAgeNs - ·.lowerAgeNs)
    (if metrics.samples < policy.minSamples then ["insufficient_samples:" ++ policy.name]
      else []) ++
    (if metrics.spanNs < d.config.minimumQualificationSpanNs then
      ["insufficient_span:" ++ policy.name] else []) ++
    (if !live then ["stream_not_live:" ++ policy.name] else []) ++
    (if policy.maxDuplicateFraction < metrics.duplicateFraction then
      ["excessive_duplicates:" ++ policy.name] else []) ++
    (if relativeLagNs.any (· < -d.config.maxRelativeLeadNs) then
      ["stream_leads_reference:" ++ policy.name] else []) ++
    (if relativeLagNs.any (policy.maxRelativeLagNs < ·) then
      ["stream_lag_exceeded:" ++ policy.name] else [])

/-- The drifts that are there. -/
def availableDrifts (drifts : List (String × Option ℚ)) : List (String × ℚ) :=
  drifts.filterMap fun drift => drift.2.map (drift.1, ·)

/-- The reasons that the drifts over the complete interval give. -/
def driftReasons (d : Settings) (drifts : List (String × Option ℚ)) : List String :=
  let available := availableDrifts drifts
  (drifts.flatMap fun drift =>
    match drift.2 with
    | none => ["insufficient_affine_drift_bins:" ++ drift.1]
    | some value =>
      if d.config.maxAbsoluteDriftPpm < |value| then ["clock_drift_exceeded:" ++ drift.1]
      else []) ++
  if available.length = d.coreStreams.length then
    (pairwiseDriftDisagreements available d.config.maxPairwiseDriftPpm).map
      ("pairwise_drift_disagreement:" ++ ·)
  else []

/-- `dict(pairs)[key]`, for a key that is there. -/
def entry {α : Type*} [Inhabited α] (pairs : List (String × α)) (key : String) : α :=
  (pairs.lookup key).getD default

/-- The window of a core stream has all its envelope points and no long gap. -/
def DriftIntervalEvidence.covers (d : Settings) (evidence : DriftIntervalEvidence)
    (requiredPoints : ℤ) (stream : String) (drift : Option ℚ) : Bool :=
  let within := fun offset : Option ℤ =>
    offset.any (· ≤ (d.config.policy stream).staleReceiptTimeoutNs)
  requiredPoints ≤ entry evidence.coreStreamEnvelopePoints stream ∧ drift.isSome ∧
    within (entry evidence.coreStreamFirstReceiptOffsetNs stream) ∧
    within (entry evidence.coreStreamLastReceiptOffsetNs stream) ∧
    within (entry evidence.coreStreamMaxReceiptGapNs stream)

/-- The reasons that one of the two windows gives. -/
def windowReasons (d : Settings) (label : String) (evidence : DriftIntervalEvidence)
    (requiredPoints : ℤ) : List String :=
  let covered := evidence.coreStreamDriftsPpm.filter fun drift =>
    evidence.covers d requiredPoints drift.1 drift.2
  let windowDrifts := availableDrifts covered
  (evidence.coreStreamDriftsPpm.flatMap fun drift =>
    if !evidence.covers d requiredPoints drift.1 drift.2 then
      ["insufficient_affine_window:" ++ label ++ ":" ++ drift.1]
    else if drift.2.any (d.config.maxAbsoluteDriftPpm < |·|) then
      ["affine_window_clock_drift_exceeded:" ++ label ++ ":" ++ drift.1]
    else []) ++
  if d.config.affineEnforceSubwindowPairwiseDrift ∧
      windowDrifts.length = d.coreStreams.length then
    (pairwiseDriftDisagreements windowDrifts d.config.maxPairwiseDriftPpm).map fun stream =>
      "affine_window_pairwise_drift_disagreement:" ++ label ++ ":" ++ stream
  else []

/-- The reasons that the two windows give. -/
def subwindowReasons (d : Settings) (windowNs : ℤ) (first second : DriftIntervalEvidence) :
    List String :=
  let requiredPoints := windowNs / d.config.driftBinNs
  let deviates : Bool := match first.commonDriftPpm, second.commonDriftPpm with
    | some left, some right =>
      decide (d.config.maxAffineWindowCommonDriftDeviationPpm < |nearest (left - right)|)
    | _, _ => false
  windowReasons d "first" first requiredPoints ++
    windowReasons d "second" second requiredPoints ++
    if d.config.affineEnforceSubwindowCommonDrift ∧ deviates then
      ["affine_window_common_drift_deviation_exceeded"]
    else []

/-- The reasons that the corrected ages of a stream give. -/
def candidateReasons (d : Settings) (policy : StreamPolicy) (correctedAges : List ℤ) :
    List String :=
  let correctedMinNs := quantile correctedAges d.config.lowerQuantile
  let correctedP95Ns := quantile correctedAges (nearest (95 / 100))
  (if correctedMinNs < -d.config.maxCorrectedFutureNs then
      ["candidate_would_be_future:" ++ policy.name]
    else if d.config.minimumLockedCorrectedAgeNs.any (correctedMinNs < ·) then
      ["candidate_locked_corrected_age_below_minimum:" ++ policy.name]
    else []) ++
  if policy.maxCorrectedAgeNs < correctedP95Ns then
    ["candidate_would_be_stale:" ++ policy.name]
  else []

/-! ## The candidate model -/

/-- The model through an anchor of the reference stream. -/
def anchoredModel (d : Settings) (anchorSourceNs predictedReferenceAgeNs : ℤ) (driftPpm scale : ℚ)
    (coreDrifts : List (String × ℚ)) : AffineClockModel where
  anchorSourceNs := anchorSourceNs
  anchorLocalNs :=
    anchorSourceNs + predictedReferenceAgeNs - d.config.affineAnchorPastGuardNs
  driftPpm := driftPpm
  sourceToLocalScale := scale
  coreStreamDriftsPpm := coreDrifts
  streamBaselineCorrectedAgeNs := []

/-- The model for the drifts of the core streams, without points of the reference stream none. -/
def candidateModel (d : Settings) (coreDrifts : List (String × ℚ))
    (referencePoints : List Sample) : Except Raised (Option AffineClockModel) := do
  let commonDriftPpm := median nearest (coreDrifts.map Prod.snd)
  let scale ← sourceToLocalScale commonDriftPpm
  match (referencePoints.map Sample.sourceNs).max? with
  | none => return none
  | some anchorSourceNs =>
    let ageSlopePerSource := nearest (scale - 1)
    let anchorAges := referencePoints.map (·.anchorAge anchorSourceNs ageSlopePerSource)
    return some (anchoredModel d anchorSourceNs (roundHalfEven (median nearest anchorAges))
      commonDriftPpm scale coreDrifts)

namespace Discipline

/-! ## The direct evaluation -/

/-- `_metrics`. -/
def metrics (d : Settings) (s : Discipline) (stream : String) : Option StreamMetrics :=
  let state := s.streams stream
  match state.samples.head?, state.samples.getLast? with
  | some first, some last =>
    some { samples := state.samples.length
           spanNs := max 0 (last.receiptMonotonicNs - first.receiptMonotonicNs)
           lowerAgeNs := quantile (state.samples.map Sample.ageNs) d.config.lowerQuantile
           duplicateFraction := state.duplicateFraction }
  | _, _ => none

/-- `_interval_samples`, over the retained samples. -/
def intervalSamples (s : Discipline) (startNs endNs : ℤ) (endInclusive : Bool) (stream : String) :
    List Sample :=
  (s.streams stream).samples.filter fun sample =>
    startNs ≤ sample.receiptMonotonicNs ∧
      if endInclusive then sample.receiptMonotonicNs ≤ endNs
      else sample.receiptMonotonicNs < endNs

/-- `_drift_interval_evidence`. -/
def driftIntervalEvidence (d : Settings) (s : Discipline) (startNs endNs : ℤ)
    (endInclusive : Bool) : DriftIntervalEvidence :=
  let samples := s.intervalSamples startNs endNs endInclusive
  intervalEvidence d startNs endNs endInclusive samples fun stream =>
    s.envelope d (samples stream)

/-- `affine_qualification_evidence`. -/
def affineQualificationEvidence (d : Settings) (s : Discipline) :
    Option (DriftIntervalEvidence × DriftIntervalEvidence × DriftIntervalEvidence) :=
  match d.config.affineQualificationWindowNs, s.affineQualificationStartMonotonicNs with
  | some windowNs, some startNs =>
    let splitNs := startNs + windowNs
    let endNs := splitNs + windowNs
    some (s.driftIntervalEvidence d startNs splitNs false,
      s.driftIntervalEvidence d splitNs endNs true, s.driftIntervalEvidence d startNs endNs true)
  | _, _ => none

/-- `_model_samples`. -/
def modelSamples (d : Settings) (s : Discipline) (stream : String) : List Sample :=
  match s.affineQualificationEvidence d with
  | none => (s.streams stream).samples
  | some (_, _, complete) =>
    s.intervalSamples complete.startMonotonicNs complete.endMonotonicNs complete.endInclusive
      stream

/-- The drifts of the core streams over the samples of the model. -/
def modelDrifts (d : Settings) (s : Discipline) : List (String × Option ℚ) :=
  d.coreStreams.map fun stream =>
    (stream, theilSenAgeDriftPpm nearest (s.envelope d (s.modelSamples d stream)))

/-- The baselines of the streams, when every stream has samples. -/
def baselines (d : Settings) (s : Discipline) (model : AffineClockModel) :
    List String → Except Raised (Option (List (String × ℤ)))
  | [] => return some []
  | stream :: rest => do
    let correctedAges ← model.correctedAges (s.modelSamples d stream)
    if correctedAges = [] then return none
    let baselines ← s.baselines d model rest
    return baselines.map ((stream, quantile correctedAges d.config.lowerQuantile) :: ·)

/-- `_provisional_affine_model`. -/
def provisionalAffineModel (d : Settings) (s : Discipline) :
    Except Raised (Option AffineClockModel) := do
  let coreDrifts := availableDrifts (s.modelDrifts d)
  if coreDrifts.length ≠ d.coreStreams.length then return none
  let referencePoints := s.envelope d (s.modelSamples d d.config.referenceStream)
  match ← candidateModel d coreDrifts referencePoints with
  | none => return none
  | some model =>
    let baselines ← s.baselines d model d.config.names
    return baselines.map fun baselines => { model with streamBaselineCorrectedAgeNs := baselines }

/-- The reasons of `qualification_reasons` against the provisional model. -/
def provisionalReasons (d : Settings) (s : Discipline) (model : AffineClockModel) :
    Except Raised (List String) := do
  let reasons ← d.config.streams.mapM fun policy => do
    let correctedAges ← model.correctedAges (s.modelSamples d policy.name)
    return candidateReasons d policy correctedAges
  return reasons.flatten

/-- The reasons of `qualification_reasons` about the two windows. -/
def twoWindowReasons (d : Settings) (s : Discipline) (nowNs : ℤ) : List String :=
  match d.config.affineQualificationWindowNs with
  | none => []
  | some windowNs =>
    (match s.affineQualificationStartMonotonicNs with
      | none => ["missing_affine_qualification_start"]
      | some startNs =>
        if nowNs < startNs + 2 * windowNs then ["insufficient_affine_two_window_duration"]
        else []) ++
    match s.affineQualificationEvidence d with
    | none => []
    | some (first, second, _) => subwindowReasons d windowNs first second

/-- `qualification_reasons`. -/
def qualificationReasons (d : Settings) (s : Discipline) (nowNs : ℤ) :
    Except Raised (List String) :=
  if nowNs ≤ 0 then return ["invalid_qualification_time"]
  else
    match s.metrics d d.config.referenceStream with
    | none => return ["missing_reference_stream"]
    | some reference => do
      let streams := d.config.streams.flatMap fun policy =>
        streamReasons d policy (s.metrics d policy.name) (some reference)
          (s.receiptAgeNs policy.name nowNs)
      let candidate ← s.provisionalAffineModel d
      let candidates ← match candidate with
        | none => pure []
        | some model => s.provisionalReasons d model
      return sortedSet (streams ++ driftReasons d (s.modelDrifts d) ++
        s.twoWindowReasons d nowNs ++ candidates)

end Discipline

/-! ## The evaluation of a snapshot -/

/-- Immutable per-stream input to one terminal affine evaluation. -/
structure QualificationStreamSnapshot where
  name : String
  samples : List Sample
  lastAdvancingReceiptMonotonicNs : Option ℤ
  advancing : ℕ
  duplicates : ℕ

/-- One immutable fixed-window view. -/
structure QualificationSnapshot where
  qualificationStartMonotonicNs : ℤ
  qualificationEndMonotonicNs : ℤ
  evaluationMonotonicNs : ℤ
  streams : List QualificationStreamSnapshot

/-- Cached result used for one terminal decision and one lock commit. -/
structure QualificationEvaluation where
  snapshot : QualificationSnapshot
  reasons : List String
  intervalEvidence : DriftIntervalEvidence × DriftIntervalEvidence × DriftIntervalEvidence
  model : Option AffineClockModel
  correctedAgeWindows : List (String × List ℤ)

/-- The snapshot of a stream. -/
def StreamState.snapshot (state : StreamState) (name : String) : QualificationStreamSnapshot where
  name := name
  samples := state.samples
  lastAdvancingReceiptMonotonicNs := state.lastAdvancingReceiptMonotonicNs
  advancing := state.advancing
  duplicates := state.duplicates

/-- `stream_snapshots[name]`, for a stream that is there. -/
def QualificationSnapshot.stream (snapshot : QualificationSnapshot) (name : String) :
    QualificationStreamSnapshot :=
  (snapshot.streams.find? (·.name = name)).getD ⟨name, [], none, 0, 0⟩

/-- The samples of a stream in the two windows and in both. -/
structure WindowSamples where
  first : List Sample := []
  second : List Sample := []
  complete : List Sample := []

/-- The partition of the samples at the ends of the windows. -/
def partitionSamples (startNs splitNs endNs : ℤ) : List Sample → WindowSamples
  | [] => {}
  | sample :: samples =>
    let rest := partitionSamples startNs splitNs endNs samples
    if sample.receiptMonotonicNs < startNs ∨ endNs < sample.receiptMonotonicNs then rest
    else if sample.receiptMonotonicNs < splitNs then
      { rest with first := sample :: rest.first, complete := sample :: rest.complete }
    else { rest with second := sample :: rest.second, complete := sample :: rest.complete }

/-- The metrics of a snapshot of a stream over its samples in the complete window. -/
def snapshotMetrics (d : Settings) (stream : QualificationStreamSnapshot)
    (samples : List Sample) : Option StreamMetrics :=
  match samples.head?, samples.getLast? with
  | some first, some last =>
    let total := stream.advancing + stream.duplicates
    some { samples := samples.length
           spanNs := max 0 (last.receiptMonotonicNs - first.receiptMonotonicNs)
           lowerAgeNs := quantile (samples.map Sample.ageNs) d.config.lowerQuantile
           duplicateFraction :=
             if total = 0 then 0 else nearest ((stream.duplicates : ℚ) / (total : ℚ)) }
  | _, _ => none

/-- What the loop over the streams collects for a candidate. -/
structure CandidateAges where
  reasons : List String := []
  baselines : List (String × ℤ) := []
  cachedWindows : List (String × List ℤ) := []

/-- The loop over the streams, which ends at a stream without qualified samples. -/
def candidateAges (d : Settings) (snapshot : QualificationSnapshot) (candidate : AffineClockModel) :
    List StreamPolicy → Except Raised CandidateAges
  | [] => return {}
  | policy :: rest => do
    let samples := (snapshot.stream policy.name).samples
    let lockedCorrectedAges ← candidate.correctedAges samples
    let qualifiedCorrectedAges :=
      ((samples.zip lockedCorrectedAges).filter fun pair =>
        snapshot.qualificationStartMonotonicNs ≤ pair.1.receiptMonotonicNs ∧
          pair.1.receiptMonotonicNs ≤ snapshot.qualificationEndMonotonicNs).map Prod.snd
    if qualifiedCorrectedAges = [] then return {}
    let correctedMinNs := quantile qualifiedCorrectedAges d.config.lowerQuantile
    let others ← candidateAges d snapshot candidate rest
    return { reasons := candidateReasons d policy qualifiedCorrectedAges ++ others.reasons
             baselines := (policy.name, correctedMinNs) :: others.baselines
             cachedWindows := (policy.name, lockedCorrectedAges) :: others.cachedWindows }

namespace Discipline

/-- `affine_qualification_deadline_monotonic_ns`. -/
def affineQualificationDeadlineMonotonicNs (d : Settings) (s : Discipline) : Option ℤ :=
  match s.affineQualificationStartMonotonicNs, d.config.affineQualificationWindowNs with
  | some startNs, some windowNs => some (startNs + 2 * windowNs)
  | _, _ => none

/-- `capture_affine_qualification_snapshot`. -/
def captureAffineQualificationSnapshot (d : Settings) (s : Discipline) (nowNs : ℤ) :
    Except Raised QualificationSnapshot :=
  if nowNs ≤ 0 then .error (.valueError "invalid affine qualification snapshot time")
  else
    match s.affineQualificationStartMonotonicNs, s.affineQualificationDeadlineMonotonicNs d with
    | some startNs, some deadlineNs =>
      if nowNs < deadlineNs then
        .error (.runtimeError "fixed affine qualification window is incomplete")
      else
        .ok { qualificationStartMonotonicNs := startNs
              qualificationEndMonotonicNs := deadlineNs
              evaluationMonotonicNs := nowNs
              streams := d.config.names.map fun name => (s.streams name).snapshot name }
    | _, _ => .error (.runtimeError "fixed affine qualification window is not initialized")

/-- `_require_current_affine_snapshot`. -/
def requireCurrentAffineSnapshot (d : Settings) (s : Discipline)
    (snapshot : QualificationSnapshot) : Except Raised Unit :=
  if some snapshot.qualificationStartMonotonicNs ≠ s.affineQualificationStartMonotonicNs ∨
      some snapshot.qualificationEndMonotonicNs ≠ s.affineQualificationDeadlineMonotonicNs d ∨
      snapshot.evaluationMonotonicNs < snapshot.qualificationEndMonotonicNs ∨
      snapshot.streams.map QualificationStreamSnapshot.name ≠ d.config.names then
    .error (.valueError "affine qualification snapshot does not match runtime")
  else .ok ()

end Discipline

/-- The windows of `evaluate_affine_qualification_snapshot`, stream by stream. -/
def QualificationSnapshot.windows (snapshot : QualificationSnapshot) (splitNs : ℤ)
    (stream : String) : WindowSamples :=
  partitionSamples snapshot.qualificationStartMonotonicNs splitNs
    snapshot.qualificationEndMonotonicNs (snapshot.stream stream).samples

/-- `evaluate_affine_qualification_snapshot`, for a snapshot that is current. -/
def QualificationSnapshot.evaluate (d : Settings) (snapshot : QualificationSnapshot)
    (windowNs : ℤ) : Except Raised QualificationEvaluation := do
  let startNs := snapshot.qualificationStartMonotonicNs
  let endNs := snapshot.qualificationEndMonotonicNs
  let splitNs := startNs + windowNs
  let windows := snapshot.windows splitNs
  let envelope := fun samples => lowerEnvelopePoints samples d.config.driftBinNs startNs
  let evidence := fun startNs endNs endInclusive (samples : String → List Sample) =>
    intervalEvidence d startNs endNs endInclusive samples fun stream => envelope (samples stream)
  let first := evidence startNs splitNs false fun stream => (windows stream).first
  let second := evidence splitNs endNs true fun stream => (windows stream).second
  let complete := evidence startNs endNs true fun stream => (windows stream).complete
  let metrics := fun stream =>
    snapshotMetrics d (snapshot.stream stream) (windows stream).complete
  let reference := metrics d.config.referenceStream
  let missing := if reference.isNone then ["missing_reference_stream"] else []
  let streams := d.config.streams.flatMap fun policy =>
    streamReasons d policy (metrics policy.name) reference
      ((snapshot.stream policy.name).lastAdvancingReceiptMonotonicNs.map
        (snapshot.evaluationMonotonicNs - ·))
  let completeDrifts := complete.coreStreamDriftsPpm
  let coreDrifts := availableDrifts completeDrifts
  let reasons := missing ++ streams ++ driftReasons d completeDrifts ++
    subwindowReasons d windowNs first second
  let candidate ←
    if coreDrifts.length = d.coreStreams.length then
      candidateModel d coreDrifts (envelope (windows d.config.referenceStream).complete)
    else pure none
  match candidate with
  | none =>
    return { snapshot := snapshot, reasons := sortedSet reasons
             intervalEvidence := (first, second, complete), model := none
             correctedAgeWindows := [] }
  | some candidate =>
    let ages ← candidateAges d snapshot candidate d.config.streams
    let qualified := ages.baselines.length = d.config.streams.length
    return { snapshot := snapshot, reasons := sortedSet (reasons ++ ages.reasons)
             intervalEvidence := (first, second, complete)
             model := if qualified then
               some { candidate with streamBaselineCorrectedAgeNs := ages.baselines } else none
             correctedAgeWindows := if qualified then ages.cachedWindows else [] }

namespace Discipline

/-- `evaluate_affine_qualification_snapshot`. -/
def evaluateAffineQualificationSnapshot (d : Settings) (s : Discipline)
    (snapshot : QualificationSnapshot) : Except Raised QualificationEvaluation := do
  s.requireCurrentAffineSnapshot d snapshot
  match d.config.affineQualificationWindowNs with
  | none => .error (.other "AssertionError" "")
  | some windowNs => snapshot.evaluate d windowNs

/-! ## Locking -/

/-- The live state of a stream is that of its snapshot, as far as its counters tell. -/
def unchangedSince (s : Discipline) (stream : QualificationStreamSnapshot) : Bool :=
  let state := s.streams stream.name
  state.samples.length = stream.samples.length ∧
    state.lastSourceNs = stream.samples.getLast?.map Sample.sourceNs ∧
    state.lastAdvancingReceiptMonotonicNs = stream.lastAdvancingReceiptMonotonicNs ∧
    state.advancing = stream.advancing ∧ state.duplicates = stream.duplicates

/-- The checks of `lock_affine` before it uses a cached evaluation. -/
def requireUsableEvaluation (d : Settings) (s : Discipline) (nowNs : ℤ)
    (evaluation : QualificationEvaluation) : Except Raised Unit := do
  let snapshot := evaluation.snapshot
  s.requireCurrentAffineSnapshot d snapshot
  if nowNs ≤ 0 ∨ nowNs < snapshot.evaluationMonotonicNs then
    .error (.runtimeError "affine commit time precedes qualification evaluation")
  if !d.config.names.all fun name => s.unchangedSince (snapshot.stream name) then
    .error (.runtimeError "affine live samples changed after terminal snapshot")
  let cached := evaluation.correctedAgeWindows
  if sortedSet (cached.map Prod.fst) ≠ sortedSet d.config.names ∨
      !d.config.names.all fun name =>
        (entry cached name).length = (snapshot.stream name).samples.length then
    .error (.runtimeError "affine qualification corrected-age cache is incomplete")

/-- The arguments of `lock_affine`, but for the cached evaluation. -/
structure LockRequest where
  identityEvidenceVerified : Bool
  nowMonotonicNs : ℤ
  approvedReferenceOffsetNs : Option ℤ := none
  approvedCommonDriftPpm : Option ℚ := none

/-- The reasons and the model that `lock_affine` decides on. -/
def lockVerdict (d : Settings) (s : Discipline) (nowNs : ℤ)
    (evaluation : Option QualificationEvaluation) :
    Except Raised (List String × Option AffineClockModel) :=
  match evaluation with
  | none => do
    let reasons ← s.qualificationReasons d nowNs
    let model ← s.provisionalAffineModel d
    return (reasons, model)
  | some evaluation => do
    s.requireUsableEvaluation d nowNs evaluation
    return (evaluation.reasons, evaluation.model)

/-- `corrected_age_windows`, from the cache or from the retained samples. -/
def lockedAgeWindows (d : Settings) (s : Discipline) (model : AffineClockModel)
    (cached : Option (List (String × List ℤ))) : Except Raised (String → AgeWindow) := do
  let windows ← d.config.names.mapM fun name => do
    let state := s.streams name
    let values ← match cached with
      | none => model.correctedAges state.samples
      | some cached => pure (entry cached name)
    return (name, values.drop (values.length - state.retainedLimit))
  return fun name => ⟨(s.streams name).retainedLimit, entry windows name⟩

/-- The state that a lock leaves. -/
def withLock (s : Discipline) (model : AffineClockModel) (windows : String → AgeWindow)
    (nowNs : ℤ) : Discipline :=
  { s with
    lockedAffineModel := some model
    lockedCorrectedAges := some windows
    affineLockMonotonicNs := some nowNs
    affineLockClockBaseNs := s.lastClockBaseNs
    state := .locked
    lastStatisticsEvaluationMonotonicNs := some nowNs }

/-- The commit of `lock_affine`. -/
def commitLock (d : Settings) (s : Discipline) (model : AffineClockModel) (nowNs : ℤ)
    (cached : Option (List (String × List ℤ))) : Except Raised AffineClockModel × Discipline :=
  match s.lockedAgeWindows d model cached with
  | .error raised => (.error raised, s)
  | .ok windows => (.ok model, s.withLock model windows nowNs)

/-- The check of `lock_affine` against the approved reference offset. -/
def checkReferenceOffset (d : Settings) (model : AffineClockModel) (approvedNs : Option ℤ) :
    Except Raised Unit :=
  match approvedNs with
  | none => .ok ()
  | some approvedNs => do
    let observedOffset ← model.offsetAtSourceNs model.anchorSourceNs
    if d.config.maxLockedOffsetDeviationNs < |observedOffset - approvedNs| then
      .error (.runtimeError "approved reference offset disagrees with affine qualification")

/-- `lock_affine`, on a model that the qualification gives. -/
def lockModel (d : Settings) (s : Discipline) (request : LockRequest)
    (cached : Option (List (String × List ℤ))) (model : AffineClockModel) :
    Except Raised AffineClockModel × Discipline :=
  if request.approvedCommonDriftPpm.any (d.config.maxAbsoluteDriftPpm < |·|) then
    (.error (.runtimeError "approved affine common drift is invalid"), s)
  else if request.approvedCommonDriftPpm.any fun approved =>
      d.config.maxApprovedAffineDriftDeviationPpm < |nearest (model.driftPpm - approved)| then
    (.error (.runtimeError (Reason.text .approvedAffineCommonDriftDeviationExceeded)),
      (s.fault .approvedAffineCommonDriftDeviationExceeded []).2)
  else
    match checkReferenceOffset d model request.approvedReferenceOffsetNs with
    | .error raised => (.error raised, s)
    | .ok () => s.commitLock d model request.nowMonotonicNs cached

/-- What a lock request gets that is not decided anew. -/
def settledLock (s : Discipline) (deviates : AffineClockModel → Bool) :
    Except Raised AffineClockModel :=
  if s.state = .faulted then
    .error (.runtimeError ((s.faultReason.map Reason.text).getD "discipline faulted"))
  else
    match s.lockedAffineModel with
    | none => .error (.runtimeError "discipline is already locked in fixed-offset mode")
    | some model =>
      if deviates model then
        .error (.runtimeError "discipline is already locked to a different affine drift")
      else .ok model

/-- `lock_affine`. -/
def lockAffine (d : Settings) (s : Discipline) (request : LockRequest)
    (evaluation : Option QualificationEvaluation) :
    Except Raised AffineClockModel × Discipline :=
  if s.state ≠ .qualifying then
    (s.settledLock fun model => request.approvedCommonDriftPpm.any fun approved =>
      d.config.maxApprovedAffineDriftDeviationPpm < |nearest (model.driftPpm - approved)|, s)
  else if !request.identityEvidenceVerified then
    (.error (.runtimeError "clock-domain identity evidence is not verified"), s)
  else
    match s.lockVerdict d request.nowMonotonicNs evaluation with
    | .error raised => (.error raised, s)
    | .ok (reasons, model) =>
      if reasons ≠ [] then
        (.error (.runtimeError ("timestamp qualification failed: " ++ ",".intercalate reasons)), s)
      else
        match model with
        | none =>
          (.error (.runtimeError "timestamp qualification did not produce an affine model"), s)
        | some model =>
          s.lockModel d request (evaluation.map QualificationEvaluation.correctedAgeWindows) model

/-- The recent samples of `lock_affine_from_approved_drift`, without a gap. -/
def recentSamples (s : Discipline) (windowStartNs nowNs : ℤ)
    (policy : StreamPolicy) : Except Raised (List Sample) :=
  let samples := (s.streams policy.name).samples.filter fun sample =>
    windowStartNs ≤ sample.receiptMonotonicNs ∧ sample.receiptMonotonicNs ≤ nowNs
  let long := fun gapNs : Option ℤ => gapNs.any (policy.staleReceiptTimeoutNs < ·)
  if samples.length < 2 then
    .error (.runtimeError ("approved_affine_live_samples_missing:" ++ policy.name))
  else if long (samples.head?.map (·.receiptMonotonicNs - windowStartNs)) ∨
      long (samples.getLast?.map (nowNs - ·.receiptMonotonicNs)) ∨
      long ((receiptGaps samples).map ReceiptGap.gapNs).max? then
    .error (.runtimeError ("approved_affine_stream_not_live:" ++ policy.name))
  else .ok samples

/-- The candidate of `lock_affine_from_approved_drift`. -/
def approvedCandidate (d : Settings) (driftPpm : ℚ) (referenceSamples : List Sample) :
    Except Raised AffineClockModel := do
  let scale ← sourceToLocalScale driftPpm
  let anchorSourceNs := ((referenceSamples.map Sample.sourceNs).max?).getD 0
  let ageSlopePerSource := nearest (scale - 1)
  let anchorAges := referenceSamples.map fun sample =>
    roundHalfEven (sample.anchorAge anchorSourceNs ageSlopePerSource)
  return anchoredModel d anchorSourceNs (quantile anchorAges d.config.lowerQuantile) driftPpm scale
    (d.coreStreams.map (·, driftPpm))

/-- The baseline of a stream, checked against the limits of the candidate. -/
def approvedBaseline (d : Settings) (candidate : AffineClockModel) (policy : StreamPolicy)
    (samples : List Sample) : Except Raised (String × ℤ) := do
  let correctedAges ← candidate.correctedAges samples
  let correctedMinNs := correctedAges.min?.getD 0
  let correctedP95Ns := quantile correctedAges (nearest (95 / 100))
  if correctedMinNs < -d.config.maxCorrectedFutureNs then
    .error (.runtimeError ("candidate_would_be_future:" ++ policy.name))
  if policy.maxCorrectedAgeNs < correctedP95Ns then
    .error (.runtimeError ("candidate_would_be_stale:" ++ policy.name))
  return (policy.name, quantile correctedAges d.config.lowerQuantile)

/-- The check of a baseline against that of the reference stream. -/
def checkRelativeLag (d : Settings) (baselines : List (String × ℤ)) (policy : StreamPolicy) :
    Except Raised Unit := do
  let relativeLagNs := entry baselines policy.name - entry baselines d.config.referenceStream
  if relativeLagNs < -d.config.maxRelativeLeadNs then
    .error (.runtimeError ("stream_leads_reference:" ++ policy.name))
  if policy.maxRelativeLagNs < relativeLagNs then
    .error (.runtimeError ("stream_lag_exceeded:" ++ policy.name))

/-- The model of `lock_affine_from_approved_drift`. -/
def approvedModel (d : Settings) (s : Discipline) (driftPpm : ℚ) (nowNs : ℤ) :
    Except Raised AffineClockModel := do
  match s.affineQualificationStartMonotonicNs with
  | none => .error (.runtimeError "approved affine live anchor window is incomplete")
  | some startNs =>
    if nowNs < startNs + APPROVED_AFFINE_ANCHOR_WINDOW_NS then
      .error (.runtimeError "approved affine live anchor window is incomplete")
    let windowStartNs := max startNs (nowNs - APPROVED_AFFINE_ANCHOR_WINDOW_NS)
    let recent ← d.config.streams.mapM fun policy => do
      return (policy.name, ← s.recentSamples windowStartNs nowNs policy)
    let candidate ← approvedCandidate d driftPpm (entry recent d.config.referenceStream)
    let baselines ← d.config.streams.mapM fun policy =>
      approvedBaseline d candidate policy (entry recent policy.name)
    d.config.streams.forM (checkRelativeLag d baselines)
    return { candidate with streamBaselineCorrectedAgeNs := baselines }

/-- `lock_affine_from_approved_drift`. -/
def lockAffineFromApprovedDrift (d : Settings) (s : Discipline) (approvedCommonDriftPpm : ℚ)
    (identityEvidenceVerified : Bool) (nowNs : ℤ) : Except Raised AffineClockModel × Discipline :=
  if s.state ≠ .qualifying then
    (s.settledLock fun model =>
      nearest (1 / 1000000000) < |nearest (model.driftPpm - approvedCommonDriftPpm)|, s)
  else if !identityEvidenceVerified then
    (.error (.runtimeError "clock-domain identity evidence is not verified"), s)
  else if d.config.maxAbsoluteDriftPpm < |approvedCommonDriftPpm| then
    (.error (.runtimeError "approved affine common drift is invalid"), s)
  else if nowNs ≤ 0 then (.error (.runtimeError "invalid affine commit time"), s)
  else
    match s.approvedModel d approvedCommonDriftPpm nowNs with
    | .error raised => (.error raised, s)
    | .ok model => s.commitLock d model nowNs none

end Discipline

end UnitreeGo2.StampDiscipline
