import UnitreeGo2.Lib.Machine
import UnitreeGo2.StampDiscipline.Qualification
import Mathlib.Logic.Relation

/-!
# Sessions

A session is a discipline with the snapshots and evaluations that its caller holds.  Every call
changes the discipline by a sequence of updates; what each update keeps, every call keeps.
-/

namespace UnitreeGo2.StampDiscipline

open TimeSync (Raised)

/-! ## The machine -/

/-- A discipline, with the snapshots and the evaluations that its caller has taken. -/
structure Session where
  discipline : Discipline
  snapshots : List QualificationSnapshot := []
  evaluations : List QualificationEvaluation := []

/-- The calls of a session. -/
inductive Call where
  | observe (x : Observation)
  | poll (nowNs : ℤ)
  | capture (nowNs : ℤ)
  /-- Evaluate one of the snapshots. -/
  | evaluate (snapshot : ℕ)
  /-- Lock, with one of the evaluations or without. -/
  | lockAffine (request : Discipline.LockRequest) (evaluation : Option ℕ)
  | lockAffineFromApprovedDrift (approvedCommonDriftPpm : ℚ) (identityEvidenceVerified : Bool)
      (nowNs : ℤ)

/-- The reading of the monotonic clock that a call brings. -/
def Call.timeNs : Call → Option ℤ
  | observe x => some x.receiptMonotonicNs
  | poll nowNs => some nowNs
  | capture nowNs => some nowNs
  | evaluate _ => none
  | lockAffine request _ => some request.nowMonotonicNs
  | lockAffineFromApprovedDrift _ _ nowNs => some nowNs

/-- What a call returns. -/
inductive Answer where
  | result (result : CorrectionResult)
  | snapshot (snapshot : Except Raised QualificationSnapshot)
  | evaluation (evaluation : Except Raised QualificationEvaluation)
  | lock (model : Except Raised AffineClockModel)

namespace Session

/-- Evaluate a snapshot, and keep the evaluation. -/
def evaluate (d : Settings) (s : Session) (snapshot : QualificationSnapshot) : Answer × Session :=
  match s.discipline.evaluateAffineQualificationSnapshot d snapshot with
  | .error raised => (.evaluation (.error raised), s)
  | .ok evaluation =>
    (.evaluation (.ok evaluation), { s with evaluations := s.evaluations ++ [evaluation] })

def step (d : Settings) (s : Session) : Call → Answer × Session
  | .observe x =>
    let (result, discipline) := s.discipline.observe d x
    (.result result, { s with discipline := discipline })
  | .poll nowNs =>
    let (result, discipline) := s.discipline.poll d nowNs
    (.result result, { s with discipline := discipline })
  | .capture nowNs =>
    match s.discipline.captureAffineQualificationSnapshot d nowNs with
    | .error raised => (.snapshot (.error raised), s)
    | .ok snapshot => (.snapshot (.ok snapshot), { s with snapshots := s.snapshots ++ [snapshot] })
  | .evaluate snapshot =>
    match s.snapshots[snapshot]? with
    | none => (.evaluation (.error (.valueError "invalid affine qualification snapshot")), s)
    | some snapshot => s.evaluate d snapshot
  | .lockAffine request evaluation =>
    let (model, discipline) :=
      s.discipline.lockAffine d request (evaluation.bind (s.evaluations[·]?))
    (.lock model, { s with discipline := discipline })
  | .lockAffineFromApprovedDrift driftPpm verified nowNs =>
    let (model, discipline) :=
      s.discipline.lockAffineFromApprovedDrift d driftPpm verified nowNs
    (.lock model, { s with discipline := discipline })

/-- A session as a machine. -/
def machine (d : Settings) : Machine Session Call Answer where
  step := step d

/-- A session that begins with a discipline. -/
def opened (s : Discipline) : Session where
  discipline := s

end Session

/-! ## Updates -/

/-- The observation continues its stream: its source and its receipt advance. -/
def Continues (s : Discipline) (x : Observation) : Prop :=
  ∀ continuity, s.observedContinuity x.stream = some continuity →
    continuity.1 < x.sourceStampNs ∧ continuity.2 < x.receiptMonotonicNs

/-- A locked discipline may retain the observation. -/
structure Correctable (d : Settings) (s : Discipline) (x : Observation) (model : AffineClockModel)
    (windows : String → AgeWindow) (correctedStampNs : ℤ) : Prop where
  locked : s.state = .locked
  modelLocked : s.lockedAffineModel = some model
  agesCached : s.lockedCorrectedAges = some windows
  aligned : (s.streams x.stream).alignedWith (windows x.stream) = true
  corrected : model.correctedStampNs x.sourceStampNs = .ok correctedStampNs
  future : -d.config.maxCorrectedFutureNs ≤ x.receiptRealtimeNs - correctedStampNs
  minimum : ∀ minimum, d.config.minimumLockedCorrectedAgeNs = some minimum →
    minimum ≤ x.receiptRealtimeNs - correctedStampNs
  maximum : x.receiptRealtimeNs - correctedStampNs ≤
    (d.config.policy x.stream).maxCorrectedAgeNs

/-- The reasons that speak of a model or of a cache that a lock has not left in order. -/
def Reason.isCacheFault : Reason → Bool
  | affineModelMissingAfterLock => true
  | affineCorrectedAgeCacheMissingAfterLock => true
  | affineCorrectedAgeCacheMisaligned _ => true
  | _ => false

/-- There are a model and a cache, and every stream has as many corrected ages as samples. -/
def CacheAligned (d : Settings) (s : Discipline) : Prop :=
  ∃ model windows, s.lockedAffineModel = some model ∧ s.lockedCorrectedAges = some windows ∧
    ∀ stream ∈ d.config.names, (s.streams stream).alignedWith (windows stream) = true

namespace Discipline

/-- Retain an observation while locked, with its corrected age, and count it for a pause. -/
def retainLocked (d : Settings) (s : Discipline) (x : Observation) (windows : String → AgeWindow)
    (correctedStampNs : ℤ) : Discipline :=
  ((s.retain x).cacheAge windows x.stream
    (x.receiptRealtimeNs - correctedStampNs)).recordLockedReceiptRecoverySample d x.stream
      x.receiptMonotonicNs

/-- Count a duplicate of the last good observation. -/
def countDuplicate (s : Discipline) (stream : String) : Discipline :=
  { s with
    streams := Function.update s.streams stream
      { s.streams stream with duplicates := (s.streams stream).duplicates + 1 } }

end Discipline

/-- A single change that a call makes at a time. -/
inductive Update (d : Settings) (nowNs : ℤ) : Discipline → Discipline → Prop
  | clock (s : Discipline) (baseNs : ℤ) :
    Update d nowNs s { s with lastClockBaseNs := some baseNs }
  | fault (s : Discipline) (reason : Reason)
    (hcache : reason.isCacheFault = true → s.state = .locked ∧ ¬ CacheAligned d s) :
    Update d nowNs s { s with state := .faulted, faultReason := some reason }
  | restart (s : Discipline) (x : Observation) (htime : x.receiptMonotonicNs = nowNs)
    (hstream : x.stream ∈ d.config.names) (hstate : s.state = .qualifying) :
    Update d nowNs s (s.restartQualification d x []).2
  | duplicate (s : Discipline) (x : Observation)
    (hgood : s.observedContinuityIsLastGood x.stream = true) :
    Update d nowNs s (s.countDuplicate x.stream)
  | discard (s : Discipline) (x : Observation) (htime : x.receiptMonotonicNs = nowNs)
    (hcontinues : Continues s x) : Update d nowNs s (s.discard x)
  | retain (s : Discipline) (x : Observation) (htime : x.receiptMonotonicNs = nowNs)
    (hstream : x.stream ∈ d.config.names) (hstate : s.state ≠ .locked)
    (hcontinues : Continues s x) : Update d nowNs s (s.observeContinuing d x).2
  | retainLocked (s : Discipline) (x : Observation) (model : AffineClockModel)
    (windows : String → AgeWindow) (correctedStampNs : ℤ) (htime : x.receiptMonotonicNs = nowNs)
    (hstream : x.stream ∈ d.config.names) (hcontinues : Continues s x)
    (hcorrectable : Correctable d s x model windows correctedStampNs) :
    Update d nowNs s (s.retainLocked d x windows correctedStampNs)
  | pause (s : Discipline) (hstate : s.state = .locked)
    (hallow : d.allowLockedReceiptRecovery = true) (hactive : s.receiptRecoveryActive = false) :
    Update d nowNs s (s.startReceiptRecovery d)
  | evaluate (s : Discipline) (hstate : s.state = .locked) :
    Update d nowNs s (s.scheduledStatisticsHealth d nowNs).2
  | resume (s : Discipline) (hstate : s.state = .locked) (hactive : s.receiptRecoveryActive = true)
    (hfresh : s.pendingStreams d = []) : Update d nowNs s s.completeReceiptRecovery

/-- The changes that a call makes at a time. -/
abbrev Updates (d : Settings) (nowNs : ℤ) : Discipline → Discipline → Prop :=
  Relation.ReflTransGen (Update d nowNs)

/-! ## Frames -/

namespace Discipline

variable {d : Settings} {s : Discipline}

/-- Only the notes of a pause are changed. -/
def SameButNotes (s s' : Discipline) : Prop :=
  ∃ counts preGap waivers audit, s' =
    { s with
      receiptRecoverySampleCounts := counts
      receiptRecoveryPreGapReceiptNs := preGap
      receiptRecoveryGapWaivers := waivers
      audit := audit }

lemma SameButNotes.refl (s : Discipline) : SameButNotes s s := ⟨_, _, _, _, rfl⟩

lemma SameButNotes.trans {s s' s'' : Discipline} (h : SameButNotes s s')
    (h' : SameButNotes s' s'') : SameButNotes s s'' := by
  obtain ⟨_, _, _, _, rfl⟩ := h
  obtain ⟨_, _, _, _, rfl⟩ := h'
  exact ⟨_, _, _, _, rfl⟩

lemma SameButNotes.state_eq {s s' : Discipline} (h : SameButNotes s s') : s'.state = s.state := by
  obtain ⟨_, _, _, _, rfl⟩ := h
  rfl

lemma SameButNotes.active_eq {s s' : Discipline} (h : SameButNotes s s') :
    s'.receiptRecoveryActive = s.receiptRecoveryActive := by
  obtain ⟨_, _, _, _, rfl⟩ := h
  rfl

lemma recordGapWaiver_notes (stream : String) (leftNs rightNs : ℤ) :
    SameButNotes s (s.recordGapWaiver d stream leftNs rightNs) := by
  rw [recordGapWaiver]
  dsimp only
  split
  · exact .refl s
  · exact ⟨_, _, _, _, rfl⟩

lemma seedReceiptRecovery_notes (stream : String) :
    SameButNotes s (s.seedReceiptRecovery d stream) := by
  rw [seedReceiptRecovery]
  split
  · exact .refl s
  · split
    · exact .refl s
    · exact (recordGapWaiver_notes stream _ _).trans ⟨_, _, _, _, rfl⟩

lemma foldl_seedReceiptRecovery_notes (names : List String) :
    SameButNotes s (names.foldl (seedReceiptRecovery d) s) := by
  induction names generalizing s with
  | nil => exact .refl s
  | cons stream names ih => exact (seedReceiptRecovery_notes stream).trans ih

lemma startReceiptRecovery_notes :
    SameButNotes
      { s with
        receiptRecoveryActive := true
        receiptRecoveryCount := s.receiptRecoveryCount + 1 } (s.startReceiptRecovery d) :=
  SameButNotes.trans ⟨_, _, _, _, rfl⟩ (foldl_seedReceiptRecovery_notes d.config.names)

lemma recordLockedReceiptRecoverySample_notes (stream : String) (receiptNs : ℤ) :
    SameButNotes s (s.recordLockedReceiptRecoverySample d stream receiptNs) := by
  rw [recordLockedReceiptRecoverySample]
  dsimp only
  split
  · exact .refl s
  · split
    · exact (recordGapWaiver_notes stream _ _).trans ⟨_, _, _, _, rfl⟩
    · exact ⟨_, _, _, _, rfl⟩

/-- A health check changes what an evaluation changes, or nothing. -/
lemma scheduledStatisticsHealth_cases (nowNs : ℤ) :
    (s.scheduledStatisticsHealth d nowNs).2 = s ∨
      (s.scheduledStatisticsHealth d nowNs).1 = (s.statisticalHealth d).1 ∧
      d.config.lockedStatisticsEnabled = true ∧
      (s.scheduledStatisticsHealth d nowNs).2 =
        { s with
          lastStatisticsEvaluationMonotonicNs := some nowNs
          receiptRecoveryGapWaivers := (s.statisticalHealth d).2
          audit := { s.audit with
            verdicts := (s.statisticalHealth d).1 :: s.audit.verdicts } } := by
  rw [scheduledStatisticsHealth]
  dsimp only
  split_ifs with hregression henabled hdue
  · exact .inl rfl
  · exact .inl rfl
  · exact .inl rfl
  · exact .inr ⟨rfl, by simpa using henabled, rfl⟩

/-! ## Reasons of faults -/

/-- The reason is none of the cache. -/
def Plain (reason : Option Reason) : Prop := ∀ r, reason = some r → r.isCacheFault = false

lemma livenessHealth_plain (nowNs : ℤ) : Plain (s.livenessHealth d nowNs) := by
  intro r h
  rw [livenessHealth, Option.map_eq_some_iff] at h
  obtain ⟨policy, -, rfl⟩ := h
  rfl

lemma presenceHealth_plain : Plain (s.presenceHealth d) := by
  intro r h
  obtain ⟨policy, -, h⟩ := List.exists_of_findSome?_eq_some h
  split_ifs at h <;> cases h <;> rfl

lemma reviewWindows_plain (window : DriftWindow) (streams : List String)
    (waivers : String → Option ReceiptGap) :
    Plain (s.reviewWindows d window streams waivers).1 := by
  induction streams generalizing waivers with
  | nil =>
    intro r h
    cases h
  | cons stream streams ih =>
    rw [reviewWindows]
    split
    · exact ih _
    · intro r h
      cases h
      rfl

lemma driftHealth_plain (model : AffineClockModel) (drifts : List (String × Option ℚ)) :
    Plain (driftHealth d model drifts) := by
  intro r h
  rw [driftHealth] at h
  split at h
  · cases h
    rfl
  · split_ifs at h
    · cases h
      rfl
    · obtain ⟨stream, -, rfl⟩ := Option.map_eq_some_iff.mp h
      rfl

lemma Plain.or {r r' : Option Reason} (h : Plain r) (h' : Plain r') : Plain (r.or r') := by
  cases r with
  | none => rwa [Option.none_or]
  | some r => rwa [Option.some_or]

/-- With the cache in order, the ages give no reason of the cache. -/
lemma residualHealth_plain (hcache : CacheAligned d s) (model : AffineClockModel) :
    Plain (s.residualHealth d model) := by
  obtain ⟨-, windows, -, hwindows, haligned⟩ := hcache
  rw [residualHealth, hwindows]
  refine Plain.or ?_ ?_
  · intro r h
    obtain ⟨stream, hstream, h⟩ := List.exists_of_findSome?_eq_some h
    rw [haligned stream hstream] at h
    simp only [Bool.not_true, Bool.false_eq_true, if_false] at h
    split_ifs at h
    cases h
    rfl
  · intro r h
    obtain ⟨policy, -, h⟩ := List.exists_of_findSome?_eq_some h
    dsimp only at h
    split_ifs at h <;> cases h <;> rfl

/-- With the cache in order, no evaluation gives a reason of the cache. -/
lemma statisticalHealth_plain (hcache : CacheAligned d s) : Plain (s.statisticalHealth d).1 := by
  have hresidual := residualHealth_plain hcache
  obtain ⟨model, -, hmodel, -⟩ := hcache
  rw [statisticalHealth, hmodel]
  dsimp only
  split
  · rename_i reason hpresence
    exact hpresence ▸ presenceHealth_plain
  · exact ((reviewWindows_plain _ _ _).or (driftHealth_plain _ _)).or (hresidual model)

lemma scheduledStatisticsHealth_plain (hcache : CacheAligned d s) (nowNs : ℤ) :
    Plain (s.scheduledStatisticsHealth d nowNs).1 := by
  have hverdict := statisticalHealth_plain hcache
  rw [scheduledStatisticsHealth]
  dsimp only
  split_ifs
  · intro r h
    cases h
    rfl
  · intro r h
    cases h
  · intro r h
    cases h
  · exact hverdict

lemma structuralFault_plain (x : Observation) : Plain (s.structuralFault d x) := by
  intro r h
  rw [structuralFault] at h
  split_ifs at h <;> cases h <;> rfl

/-! ## The updates of a call -/

variable {t : ℤ}

lemma updates_of_cases {s' : Discipline} (h : s' = s ∨ Update d t s s') :
    Updates d t s s' := by
  rcases h with rfl | h
  · exact .refl
  · exact .single h

lemma fault_updates {reason : Reason} (diagnostics : List (String × ℤ))
    (hcache : reason.isCacheFault = true → s.state = .locked ∧ ¬ CacheAligned d s) :
    Updates d t s (s.fault reason diagnostics).2 :=
  .single (.fault s reason hcache)

lemma plainFault_updates {reason : Reason} (diagnostics : List (String × ℤ))
    (hplain : reason.isCacheFault = false) :
    Updates d t s (s.fault reason diagnostics).2 :=
  fault_updates diagnostics fun h => absurd (hplain.symm.trans h) (by decide)

lemma scheduledStatisticsHealth_updates (hstate : s.state = .locked) :
    Updates d t s (s.scheduledStatisticsHealth d t).2 :=
  .single (.evaluate s hstate)

lemma scheduledStatisticsHealth_state :
    (s.scheduledStatisticsHealth d t).2.state = s.state := by
  rcases scheduledStatisticsHealth_cases (d := d) (s := s) t with h | ⟨-, -, h⟩ <;> rw [h]

lemma scheduledStatisticsHealth_active :
    (s.scheduledStatisticsHealth d t).2.receiptRecoveryActive = s.receiptRecoveryActive := by
  rcases scheduledStatisticsHealth_cases (d := d) (s := s) t with h | ⟨-, -, h⟩ <;> rw [h]

/-- A cache reason of an evaluation tells that the cache is not in order. -/
lemma scheduledStatisticsHealth_fault (hstate : s.state = .locked) {reason : Reason}
    (h : (s.scheduledStatisticsHealth d t).1 = some reason) :
    reason.isCacheFault = true → (s.scheduledStatisticsHealth d t).2.state = .locked ∧
      ¬ CacheAligned d (s.scheduledStatisticsHealth d t).2 := by
  intro hfault
  refine ⟨scheduledStatisticsHealth_state.trans hstate, fun hcache => ?_⟩
  have hcache' : CacheAligned d s := by
    rcases scheduledStatisticsHealth_cases (d := d) (s := s) t with hpost | ⟨-, -, hpost⟩ <;>
      rw [hpost] at hcache
    · exact hcache
    · exact hcache
  have hplain := scheduledStatisticsHealth_plain hcache' t reason h
  rw [hfault] at hplain
  cases hplain

lemma startReceiptRecovery_state : (s.startReceiptRecovery d).state = s.state := by
  exact (startReceiptRecovery_notes (d := d) (s := s)).state_eq

/-- The way into a pause, or into a fault. -/
lemma enterLockedReceiptRecovery_cases (reason : Reason) (diagnostics : List (String × ℤ)) :
    (s.enterLockedReceiptRecovery d reason diagnostics).2.state = .faulted ∧
      (s.enterLockedReceiptRecovery d reason diagnostics).1.state = .faulted ∧
      (s.enterLockedReceiptRecovery d reason diagnostics).2 = (s.fault reason diagnostics).2 ∨
    s.state = .locked ∧ d.allowLockedReceiptRecovery = true ∧ reason.recoverable = true ∧
      (s.enterLockedReceiptRecovery d reason diagnostics).1.state = .locked ∧
      (s.enterLockedReceiptRecovery d reason diagnostics).2 =
        if s.receiptRecoveryActive then s else s.startReceiptRecovery d := by
  rw [enterLockedReceiptRecovery]
  split
  · exact .inl ⟨rfl, rfl, rfl⟩
  · rename_i hrefuse
    obtain ⟨hallow, hstate, hreason⟩ : d.allowLockedReceiptRecovery = true ∧ s.state = .locked ∧
        reason.recoverable = true := by
      simpa using hrefuse
    refine .inr ⟨hstate, hallow, hreason, ?_, rfl⟩
    rw [← hstate]
    dsimp only [receiptRecoveryResult, CorrectionResult.refused]
    split
    · rfl
    · exact startReceiptRecovery_state

lemma enterLockedReceiptRecovery_updates (reason : Reason) (diagnostics : List (String × ℤ))
    (hplain : reason.isCacheFault = false) :
    Updates d t s (s.enterLockedReceiptRecovery d reason diagnostics).2 := by
  rcases enterLockedReceiptRecovery_cases (d := d) (s := s) reason diagnostics with
    ⟨-, -, h⟩ | ⟨hstate, hallow, -, -, h⟩
  · rw [h]
    exact plainFault_updates diagnostics hplain
  · rw [h]
    split_ifs with hactive
    · exact .refl
    · exact .single (.pause s hstate hallow (Bool.eq_false_iff.mpr hactive))

lemma lockedReceiptRecoveryHealth_updates (hstate : s.state = .locked)
    (hactive : s.receiptRecoveryActive = true) :
    Updates d t s (s.lockedReceiptRecoveryHealth d t).2 := by
  rw [lockedReceiptRecoveryHealth]
  split
  · exact .refl
  split_ifs with hpending henabled
  · exact .refl
  · exact .single (.resume s hstate hactive (not_not.mp hpending))
  · have hevaluated := scheduledStatisticsHealth_updates (d := d) (t := t) hstate
    have hstate' := (scheduledStatisticsHealth_state (d := d) (t := t)).trans hstate
    have hactive' := (scheduledStatisticsHealth_active (d := d) (t := t)).trans hactive
    have hpending' : (s.scheduledStatisticsHealth d t).2.pendingStreams d = [] := by
      rcases scheduledStatisticsHealth_cases (d := d) (s := s) t with h | ⟨-, -, h⟩ <;>
        rw [h] <;> exact not_not.mp hpending
    dsimp only
    split_ifs
    · exact hevaluated
    · split
      · exact hevaluated.trans (.single (.resume _ hstate' hactive' hpending'))
      · split_ifs
        · exact hevaluated
        · rename_i reason hverdict _
          exact hevaluated.trans
            (fault_updates [] (scheduledStatisticsHealth_fault hstate hverdict))

/-- The ends of `observe` and `poll`. -/
lemma healthOutcome_updates {reason : Reason}
    (hcache : reason.isCacheFault = true → s.state = .locked ∧ ¬ CacheAligned d s) :
    Updates d t s (s.healthOutcome d reason).2 := by
  rw [healthOutcome]
  split_ifs with hincomplete
  · refine enterLockedReceiptRecovery_updates _ [] ?_
    cases reason <;> first | rfl | cases hincomplete
  · exact fault_updates [] hcache

lemma pollHealth_updates (hstate : s.state = .locked) :
    Updates d t s (s.pollHealth d t).2 := by
  rw [pollHealth]
  split
  · rename_i hstale
    exact enterLockedReceiptRecovery_updates _ [] (livenessHealth_plain t _ hstale)
  · have hevaluated := scheduledStatisticsHealth_updates (d := d) (t := t) hstate
    split
    · rename_i reason s' heq
      have hfault := scheduledStatisticsHealth_fault hstate (by rw [heq] :
        (s.scheduledStatisticsHealth d t).1 = some reason)
      rw [heq] at hevaluated hfault
      exact hevaluated.trans (healthOutcome_updates hfault)
    · rename_i s' heq
      rw [heq] at hevaluated
      exact hevaluated

/-- Every poll is a sequence of updates. -/
theorem poll_updates : Updates d t s (s.poll d t).2 := by
  rw [poll]
  split_ifs with hfaulted hlocked htime hactive
  · exact .refl
  · exact .refl
  · exact plainFault_updates [] rfl
  · have hrecovery := lockedReceiptRecoveryHealth_updates (d := d) (t := t)
      (not_not.mp hlocked) hactive
    split
    · rename_i heq
      rwa [heq] at hrecovery
    · rename_i heq
      rwa [heq] at hrecovery
  · exact pollHealth_updates (not_not.mp hlocked)

section Observe

variable {x : Observation}

lemma observeHealth_updates (hstate : s.state = .locked) (correctedStampNs : ℤ) :
    Updates d x.receiptMonotonicNs s (s.observeHealth d x correctedStampNs).2 := by
  rw [observeHealth]
  split
  · rename_i hstale
    exact enterLockedReceiptRecovery_updates _ [] (livenessHealth_plain _ _ hstale)
  · have hevaluated := scheduledStatisticsHealth_updates (d := d)
      (t := x.receiptMonotonicNs) hstate
    split
    · rename_i reason s' heq
      have hfault := scheduledStatisticsHealth_fault hstate (by rw [heq] :
        (s.scheduledStatisticsHealth d x.receiptMonotonicNs).1 = some reason)
      rw [heq] at hevaluated hfault
      exact hevaluated.trans (healthOutcome_updates hfault)
    · rename_i s' heq
      rwa [heq] at hevaluated

lemma recordLockedReceiptRecoverySample_of_inactive (hactive : ¬ s.receiptRecoveryActive = true)
    (stream : String) (receiptNs : ℤ) :
    s.recordLockedReceiptRecoverySample d stream receiptNs = s := by
  rw [recordLockedReceiptRecoverySample]
  exact if_pos (.inl (by simpa using hactive))

/-- A recovery check that ends the pause leaves the state of the discipline. -/
lemma lockedReceiptRecoveryHealth_none (h : (s.lockedReceiptRecoveryHealth d t).1 = none) :
    (s.lockedReceiptRecoveryHealth d t).2.state = s.state := by
  rw [lockedReceiptRecoveryHealth] at h ⊢
  split at h
  · cases h
  split at h
  · cases h
  rename_i hlive hpending
  rw [if_neg hpending]
  split at h
  · rename_i henabled
    rw [if_pos henabled]
    rfl
  · rename_i henabled
    rw [if_neg henabled]
    dsimp only at h ⊢
    split at h
    · cases h
    · rename_i hevaluated
      rw [if_neg hevaluated]
      split at h
      · exact scheduledStatisticsHealth_state
      · split at h <;> cases h

lemma observeRetained_updates (hstate : s.state = .locked) (correctedStampNs : ℤ) :
    Updates d x.receiptMonotonicNs
      (s.recordLockedReceiptRecoverySample d x.stream x.receiptMonotonicNs)
      (s.observeRetained d x correctedStampNs).2 := by
  rw [observeRetained]
  split
  · rename_i hactive
    dsimp only
    have hnotes := recordLockedReceiptRecoverySample_notes (d := d) (s := s) x.stream
      x.receiptMonotonicNs
    have hstate' := hnotes.state_eq.trans hstate
    have hrecovery := lockedReceiptRecoveryHealth_updates (d := d)
      (t := x.receiptMonotonicNs) hstate' (hnotes.active_eq.trans hactive)
    split
    · rename_i result s' heq
      rw [heq] at hrecovery
      exact hrecovery
    · rename_i s' heq
      have hlocked := lockedReceiptRecoveryHealth_none (d := d) (by rw [heq])
      rw [heq] at hlocked hrecovery
      exact hrecovery.trans (observeHealth_updates (hlocked.trans hstate') _)
  · rename_i hactive
    rw [recordLockedReceiptRecoverySample_of_inactive hactive]
    exact observeHealth_updates hstate _

lemma observeLocked_updates (hstream : x.stream ∈ d.config.names) (hstate : s.state = .locked)
    (hcontinues : Continues s x) :
    Updates d x.receiptMonotonicNs s (s.observeLocked d x).2 := by
  rw [observeLocked]
  split
  · rename_i hmodel
    refine fault_updates [] fun _ => ⟨hstate, fun ⟨model, _, hsome, _⟩ => ?_⟩
    rw [hmodel] at hsome
    cases hsome
  · rename_i hwindows
    refine fault_updates [] fun _ => ⟨hstate, fun ⟨_, windows, _, hsome, _⟩ => ?_⟩
    rw [hwindows] at hsome
    cases hsome
  rename_i model windows hmodel hwindows
  split
  · rename_i hmisaligned
    refine fault_updates [] fun _ => ⟨hstate, fun ⟨_, windows', _, hsome, haligned⟩ => ?_⟩
    obtain rfl := Option.some.inj (hwindows.symm.trans hsome)
    rw [haligned x.stream hstream] at hmisaligned
    cases hmisaligned
  rename_i haligned
  split
  · exact plainFault_updates [] rfl
  rename_i correctedStampNs hcorrected
  dsimp only
  split_ifs with hfuture hminimum hmaximum
  · exact plainFault_updates _ rfl
  · exact plainFault_updates _ rfl
  · split
    · rename_i hstale
      exact enterLockedReceiptRecovery_updates _ [] (livenessHealth_plain _ _ hstale)
    · exact .single (.discard s x rfl hcontinues)
  · have hcorrectable : Correctable d s x model windows correctedStampNs := by
      refine ⟨hstate, hmodel, hwindows, by simpa using haligned, hcorrected, not_lt.mp hfuture, ?_,
        not_lt.mp hmaximum⟩
      intro minimum hminimumNs
      rw [hminimumNs] at hminimum
      simpa using hminimum
    exact .trans (.single (.retainLocked s x model windows correctedStampNs rfl hstream hcontinues
      hcorrectable)) (observeRetained_updates (x := x) (by exact hstate) correctedStampNs)

lemma observeContinuing_updates (hstream : x.stream ∈ d.config.names)
    (hcontinues : Continues s x) :
    Updates d x.receiptMonotonicNs s (s.observeContinuing d x).2 := by
  by_cases hstate : s.state = .locked
  · rw [observeContinuing, if_pos hstate]
    exact observeLocked_updates hstream hstate hcontinues
  · exact .single (.retain s x rfl hstream hstate hcontinues)

/-- The diagnostics of a restart do not reach the state. -/
lemma restartQualification_updates (hstream : x.stream ∈ d.config.names)
    (hstate : s.state = .qualifying) (diagnostics : List (String × ℤ)) :
    Updates d x.receiptMonotonicNs s (s.restartQualification d x diagnostics).2 :=
  .single (.restart s x rfl hstream hstate)

lemma lockedNoncoreDropHealth_updates (hstate : s.state = .locked) (stream : String) :
    Updates d t s (s.lockedNoncoreDropHealth d stream t).2 := by
  rw [lockedNoncoreDropHealth]
  split
  · exact .refl
  · exact .refl
  · split
    · exact .refl
    · split
      · exact .refl
      · exact scheduledStatisticsHealth_updates hstate

lemma lockedNoncoreDropHealth_fault {stream : String} (hstream : stream ∈ d.config.names)
    (hstate : s.state = .locked) {reason : Reason}
    (h : (s.lockedNoncoreDropHealth d stream t).1 = some reason) :
    reason.isCacheFault = true → (s.lockedNoncoreDropHealth d stream t).2.state = .locked ∧
      ¬ CacheAligned d (s.lockedNoncoreDropHealth d stream t).2 := by
  rw [lockedNoncoreDropHealth] at h ⊢
  split
  · rename_i hmodel
    refine fun _ => ⟨hstate, fun ⟨model, _, hsome, _⟩ => ?_⟩
    rw [hmodel] at hsome
    cases hsome
  · rename_i hwindows
    refine fun _ => ⟨hstate, fun ⟨_, windows, _, hsome, _⟩ => ?_⟩
    rw [hwindows] at hsome
    cases hsome
  · rename_i model windows hmodel hwindows
    split
    · rename_i hmisaligned
      refine fun _ => ⟨hstate, fun ⟨_, windows', _, hsome, haligned⟩ => ?_⟩
      obtain rfl := Option.some.inj (hwindows.symm.trans hsome)
      rw [haligned stream hstream] at hmisaligned
      cases hmisaligned
    · rename_i haligned
      rw [hmodel, hwindows] at h
      dsimp only at h
      rw [if_neg haligned] at h
      split
      · rename_i stale hstale
        rw [hstale] at h
        obtain rfl := Option.some.inj h
        intro hfault
        rw [livenessHealth_plain t _ hstale] at hfault
        cases hfault
      · rename_i hlive
        rw [hlive] at h
        exact scheduledStatisticsHealth_fault hstate h

lemma lockedNoncoreDropHealth_continuity (stream : String) :
    (s.lockedNoncoreDropHealth d stream t).2.observedContinuity = s.observedContinuity := by
  rw [lockedNoncoreDropHealth]
  split
  · rfl
  · rfl
  · split
    · rfl
    · split
      · rfl
      · rcases scheduledStatisticsHealth_cases (d := d) (s := s) t with h | ⟨-, -, h⟩ <;> rw [h]

lemma startReceiptRecovery_continuity :
    (s.startReceiptRecovery d).observedContinuity = s.observedContinuity := by
  obtain ⟨_, _, _, _, h⟩ := startReceiptRecovery_notes (d := d) (s := s)
  rw [h]

lemma observeDiscontinuity_updates (hstream : x.stream ∈ d.config.names)
    (hcontinues : Continues s x) (delta : DeltaError) :
    Updates d x.receiptMonotonicNs s (s.observeDiscontinuity d x delta).2 := by
  rw [observeDiscontinuity]
  split_ifs with hrestart hqualifying hpaused hcore hnoncore
  · exact restartQualification_updates hstream hrestart.1 _
  · exact .single (.discard s x rfl hcontinues)
  · exact .single (.discard s x rfl hcontinues)
  · have henter := enterLockedReceiptRecovery_updates (d := d) (s := s)
      (t := x.receiptMonotonicNs) (.recoveryDeltaDropped x.stream)
      delta.diagnostics rfl
    dsimp only
    rcases enterLockedReceiptRecovery_cases (d := d) (s := s) (.recoveryDeltaDropped x.stream)
      delta.diagnostics with ⟨-, hresult, -⟩ | ⟨-, -, -, hresult, hpost⟩
    · rw [if_neg (not_not.mpr hresult)]
      exact henter
    · rw [if_pos (by rw [hresult]; decide)]
      refine henter.trans (.single (.discard _ x rfl ?_))
      intro continuity hcontinuity
      refine hcontinues continuity ?_
      rw [hpost] at hcontinuity
      split_ifs at hcontinuity
      · exact hcontinuity
      · rwa [startReceiptRecovery_continuity] at hcontinuity
  · have hhealth := lockedNoncoreDropHealth_updates (d := d) (t := x.receiptMonotonicNs)
      hnoncore.1 x.stream
    have hcontinuity := lockedNoncoreDropHealth_continuity (d := d) (s := s)
      (t := x.receiptMonotonicNs) x.stream
    split
    · rename_i reason s' heq
      have hfault := lockedNoncoreDropHealth_fault hstream hnoncore.1 (by rw [heq] :
        (s.lockedNoncoreDropHealth d x.stream x.receiptMonotonicNs).1 = some reason)
      rw [heq] at hhealth hfault
      exact hhealth.trans (fault_updates [] hfault)
    · rename_i heq
      rw [heq] at hhealth hcontinuity
      refine hhealth.trans (.single (.discard _ x rfl ?_))
      intro continuity h
      exact hcontinues continuity (hcontinuity ▸ h)
  · exact plainFault_updates _ rfl

lemma observeStream_updates (hstream : x.stream ∈ d.config.names) :
    Updates d x.receiptMonotonicNs s (s.observeStream d x).2 := by
  rw [observeStream]
  split
  · rename_i hnone
    refine observeContinuing_updates hstream ?_
    intro continuity hsome
    rw [hnone] at hsome
    cases hsome
  · rename_i continuity hsome
    split_ifs with hregression hduplicate hgood
    · exact plainFault_updates [] rfl
    · exact .single (.duplicate s x hgood)
    · exact .refl
    · dsimp only
      split_ifs with hadvancing hlimit
      · exact plainFault_updates [] rfl
      all_goals
        have hcontinues : Continues s x := by
          intro continuity' hsome'
          obtain rfl := Option.some.inj (hsome.symm.trans hsome')
          rw [deltaError] at hadvancing
          dsimp only at hadvancing
          omega
      · exact observeDiscontinuity_updates hstream hcontinues _
      · exact observeContinuing_updates hstream hcontinues

lemma observePeers_updates (hstream : x.stream ∈ d.config.names) :
    Updates d x.receiptMonotonicNs s (s.observePeers d x).2 := by
  rw [observePeers]
  split
  · split
    · rename_i hstale
      exact (enterLockedReceiptRecovery_updates _ [] (livenessHealth_plain _ _ hstale)).trans
        (observeStream_updates hstream)
    · exact observeStream_updates hstream
  · exact observeStream_updates hstream

lemma livenessHealth_recoverable {reason : Reason}
    (h : s.livenessHealth d t = some reason) : reason.recoverable = true := by
  obtain ⟨policy, -, rfl⟩ := Option.map_eq_some_iff.mp h
  rfl

/-- The look at the other streams leads into a pause, or to the same state. -/
lemma observePeers_eq (hstate : s.state = .locked) :
    s.observePeers d x = s.observeStream d x ∨
      s.observePeers d x = (s.startReceiptRecovery d).observeStream d x := by
  rw [observePeers]
  split
  · rename_i hpeers
    split
    · rename_i reason hstale
      right
      obtain ⟨-, hallow, hactive⟩ := hpeers
      have hrecoverable := livenessHealth_recoverable hstale
      rw [enterLockedReceiptRecovery, if_neg (by simp [hallow, hstate, hrecoverable])]
      dsimp only
      rw [if_neg (by simpa using hactive)]
    · exact .inl rfl
  · exact .inl rfl

/-- An observation that passes the structural checks is one of a required stream. -/
lemma mem_names_of_structuralFault (h : s.structuralFault d x = none) :
    x.stream ∈ d.config.names := by
  rw [structuralFault] at h
  split at h
  · cases h
  · rename_i hmem
    exact not_not.mp hmem

/-- Every observation is a sequence of updates. -/
theorem observe_updates : Updates d x.receiptMonotonicNs s (s.observe d x).2 := by
  rw [observe]
  split
  · exact .refl
  split
  · rename_i hunsound
    exact plainFault_updates [] (structuralFault_plain x _ hunsound)
  rename_i hsound
  have hstream := mem_names_of_structuralFault hsound
  refine .head (.clock s x.clockBaseNs) ?_
  rw [observeTimed]
  dsimp only
  split_ifs with hrestart
  · refine restartQualification_updates hstream ?_ _
    exact hrestart.1
  · exact observePeers_updates hstream

end Observe

/-! ## Locks -/

/-- A commit changes nothing, or it locks the model with the ages of all streams. -/
lemma commitLock_cases (model : AffineClockModel) (cached : Option (List (String × List ℤ))) :
    (s.commitLock d model t cached).2 = s ∨
      ∃ windows, s.lockedAgeWindows d model cached = .ok windows ∧
        s.commitLock d model t cached = (.ok model, s.withLock model windows t) := by
  rw [commitLock]
  split
  · exact .inl rfl
  · rename_i windows hwindows
    exact .inr ⟨windows, hwindows, rfl⟩

/-- A lock request changes nothing of a discipline that is locked or faulted. -/
lemma lockAffine_settled (hstate : s.state ≠ .qualifying) (request : LockRequest)
    (evaluation : Option QualificationEvaluation) : (s.lockAffine d request evaluation).2 = s := by
  rw [lockAffine, if_pos hstate]

lemma lockAffineFromApprovedDrift_settled (hstate : s.state ≠ .qualifying) (driftPpm : ℚ)
    (verified : Bool) : (s.lockAffineFromApprovedDrift d driftPpm verified t).2 = s := by
  rw [lockAffineFromApprovedDrift, if_pos hstate]

/-- What `lock_affine` does: nothing, a fault, or the lock that its verdict allows. -/
lemma lockAffine_cases (request : LockRequest) (evaluation : Option QualificationEvaluation) :
    (s.lockAffine d request evaluation).2 = s ∨
    (s.lockAffine d request evaluation).2 =
      (s.fault .approvedAffineCommonDriftDeviationExceeded []).2 ∨
    ∃ model windows, s.state = .qualifying ∧
      s.lockVerdict d request.nowMonotonicNs evaluation = .ok ([], some model) ∧
      s.lockedAgeWindows d model
        (evaluation.map QualificationEvaluation.correctedAgeWindows) = .ok windows ∧
      s.lockAffine d request evaluation =
        (.ok model, s.withLock model windows request.nowMonotonicNs) := by
  rw [lockAffine]
  split_ifs with hstate hidentity
  · exact .inl rfl
  · exact .inl rfl
  split
  · exact .inl rfl
  rename_i reasons model hverdict
  split_ifs with hreasons
  · exact .inl rfl
  obtain rfl := not_not.mp hreasons
  split
  · exact .inl rfl
  rename_i model
  rw [lockModel]
  split_ifs with hinvalid hdeviates
  · exact .inl rfl
  · exact .inr (.inl rfl)
  split
  · exact .inl rfl
  rcases commitLock_cases (d := d) (s := s) (t := request.nowMonotonicNs) model
    (evaluation.map QualificationEvaluation.correctedAgeWindows) with h | ⟨windows, hages, h⟩
  · exact .inl h
  · exact .inr (.inr ⟨model, windows, not_not.mp hstate, hverdict, hages, h⟩)

/-- What `lock_affine_from_approved_drift` does: nothing, or the lock of its model. -/
lemma lockAffineFromApprovedDrift_cases (driftPpm : ℚ) (verified : Bool) :
    (s.lockAffineFromApprovedDrift d driftPpm verified t).2 = s ∨
    ∃ model windows, s.state = .qualifying ∧ s.approvedModel d driftPpm t = .ok model ∧
      |driftPpm| ≤ d.config.maxAbsoluteDriftPpm ∧
      s.lockedAgeWindows d model none = .ok windows ∧
      s.lockAffineFromApprovedDrift d driftPpm verified t =
        (.ok model, s.withLock model windows t) := by
  rw [lockAffineFromApprovedDrift]
  split_ifs with hstate hidentity hdrift htime
  · exact .inl rfl
  · exact .inl rfl
  · exact .inl rfl
  · exact .inl rfl
  split
  · exact .inl rfl
  rename_i model hmodel
  rcases commitLock_cases (d := d) (s := s) (t := t) model none with h | ⟨windows, hages, h⟩
  · exact .inl h
  · exact .inr ⟨model, windows, not_not.mp hstate, hmodel, not_lt.mp hdrift, hages, h⟩

end Discipline

/-! ## Frames of updates -/

/-- An update leaves the state, or it is a fault. -/
lemma Update.state_eq {d : Settings} {t : ℤ} {s s' : Discipline} (h : Update d t s s') :
    s'.state = s.state ∨ s'.state = .faulted := by
  cases h with
  | fault reason hcache => exact .inr rfl
  | clock baseNs => exact .inl rfl
  | restart x htime hstream hstate => exact .inl rfl
  | duplicate x hgood => exact .inl rfl
  | discard x htime hcontinues => exact .inl rfl
  | retain x htime hstream hstate hcontinues =>
    rw [Discipline.observeContinuing, if_neg hstate]
    dsimp only
    split <;> exact .inl rfl
  | retainLocked x model windows correctedStampNs htime hstream hcontinues hcorrectable =>
    exact .inl (Discipline.recordLockedReceiptRecoverySample_notes _ _).state_eq
  | pause hstate hallow hactive => exact .inl Discipline.startReceiptRecovery_notes.state_eq
  | evaluate hstate =>
    rcases Discipline.scheduledStatisticsHealth_cases (d := d) (s := s) t with
      heq | ⟨-, -, heq⟩ <;>
    · rw [heq]
      exact .inl rfl
  | resume hstate hactive hfresh => exact .inl rfl

/-- An update begins a pause, or it leaves the number of pauses. -/
lemma Update.pause_or {d : Settings} {t : ℤ} {s s' : Discipline} (h : Update d t s s') :
    s.state = .locked ∧ s.receiptRecoveryActive = false ∧ s' = s.startReceiptRecovery d ∨
      s'.receiptRecoveryCount = s.receiptRecoveryCount := by
  cases h with
  | pause hstate hallow hactive => exact .inl ⟨hstate, hactive, rfl⟩
  | clock baseNs => exact .inr rfl
  | fault reason hcache => exact .inr rfl
  | restart x htime hstream hstate => exact .inr rfl
  | duplicate x hgood => exact .inr rfl
  | discard x htime hcontinues => exact .inr rfl
  | retain x htime hstream hstate hcontinues =>
    rw [Discipline.observeContinuing, if_neg hstate]
    dsimp only
    split <;> exact .inr rfl
  | retainLocked x model windows correctedStampNs htime hstream hcontinues hcorrectable =>
    obtain ⟨_, _, _, _, h⟩ := Discipline.recordLockedReceiptRecoverySample_notes (d := d)
      (s := (s.retain x).cacheAge windows x.stream (x.receiptRealtimeNs - correctedStampNs))
      x.stream x.receiptMonotonicNs
    rw [Discipline.retainLocked, h]
    exact .inr rfl
  | evaluate hstate =>
    rcases Discipline.scheduledStatisticsHealth_cases (d := d) (s := s) t with
      heq | ⟨-, -, heq⟩ <;>
    · rw [heq]
      exact .inr rfl
  | resume hstate hactive hfresh => exact .inr rfl

/-! ## The steps of a session -/

namespace Session

variable {d : Settings}

/-- The discipline locks a model that it did not have. -/
def Locks (nowNs : ℤ) (s s' : Discipline) : Prop :=
  s.state = .qualifying ∧ ∃ model windows, s' = s.withLock model windows nowNs

variable (s : Session)

lemma step_lockAffine (request : Discipline.LockRequest) (evaluation : Option ℕ) :
    ((machine d).step s (.lockAffine request evaluation)).2.discipline =
      (s.discipline.lockAffine d request (evaluation.bind (s.evaluations[·]?))).2 := rfl

lemma step_lockAffineFromApprovedDrift (driftPpm : ℚ) (verified : Bool) (t : ℤ) :
    ((machine d).step s (.lockAffineFromApprovedDrift driftPpm verified t)).2.discipline =
      (s.discipline.lockAffineFromApprovedDrift d driftPpm verified t).2 := rfl

lemma step_capture (t : ℤ) :
    ((machine d).step s (.capture t)).2.discipline = s.discipline := by
  dsimp only [machine, step]
  split <;> rfl

lemma step_evaluate (snapshot : ℕ) :
    ((machine d).step s (.evaluate snapshot)).2.discipline = s.discipline := by
  dsimp only [machine, step, Session.evaluate]
  split
  · rfl
  · split <;> rfl

/-- **Every call updates the discipline or locks it.** -/
theorem step_cases (c : Call) :
    ∃ t, (∀ timeNs, c.timeNs = some timeNs → timeNs = t) ∧
      (Updates d t s.discipline ((machine d).step s c).2.discipline ∨
        Locks t s.discipline ((machine d).step s c).2.discipline) := by
  cases c with
  | observe x => exact ⟨_, fun _ h => (Option.some.inj h).symm, .inl Discipline.observe_updates⟩
  | poll t => exact ⟨t, fun _ h => (Option.some.inj h).symm, .inl Discipline.poll_updates⟩
  | capture t =>
    refine ⟨t, fun _ h => (Option.some.inj h).symm, .inl ?_⟩
    rw [step_capture]
  | evaluate snapshot =>
    refine ⟨0, fun _ h => absurd h (by simp [Call.timeNs]), .inl ?_⟩
    rw [step_evaluate]
  | lockAffine request evaluation =>
    refine ⟨request.nowMonotonicNs, fun _ h => (Option.some.inj h).symm, ?_⟩
    rw [step_lockAffine]
    rcases Discipline.lockAffine_cases (d := d) (s := s.discipline) request
      (evaluation.bind (s.evaluations[·]?)) with h | h | ⟨model, windows, hstate, -, -, h⟩
    · rw [h]
      exact .inl .refl
    · rw [h]
      exact .inl (Discipline.plainFault_updates [] rfl)
    · rw [h]
      exact .inr ⟨hstate, model, windows, rfl⟩
  | lockAffineFromApprovedDrift driftPpm verified t =>
    refine ⟨t, fun _ h => (Option.some.inj h).symm, ?_⟩
    rw [step_lockAffineFromApprovedDrift]
    rcases Discipline.lockAffineFromApprovedDrift_cases (d := d) (s := s.discipline)
      (t := t) driftPpm verified with h | ⟨model, windows, hstate, -, -, -, h⟩
    · rw [h]
      exact .inl .refl
    · rw [h]
      exact .inr ⟨hstate, model, windows, rfl⟩

/-- What every update keeps, the updates of a call keep. -/
lemma keep_updates {P : Discipline → Prop} {t : ℤ}
    (update : ∀ s s', P s → Update d t s s' → P s') {s s' : Discipline} (hs : P s)
    (h : Updates d t s s') : P s' := by
  induction h with
  | refl => exact hs
  | tail _ hstep ih => exact update _ _ ih hstep

/-- What every update and every lock keeps holds after every run. -/
theorem invariant_final {P : Discipline → Prop} {s₀ : Discipline} (init : P s₀)
    (update : ∀ t s s', P s → Update d t s s' → P s')
    (lock : ∀ t s s', P s → Locks t s s' → P s') (calls : List Call) :
    P ((machine d).final (opened s₀) calls).discipline := by
  refine Machine.Invariant.final (M := machine d) (I := fun s => P s.discipline) ⟨init, ?_⟩ calls
  intro s c hs
  obtain ⟨t, -, hupdates | hlocks⟩ := step_cases (d := d) s c
  · exact keep_updates (update t) hs hupdates
  · exact lock t _ _ hs hlocks

/-! ## Chronological runs -/

/-- A step of a session. -/
abbrev Step := Machine.Step Session Call Answer

/-- The step accepts an observation. -/
def Accepts (y : Step) : Prop :=
  ∃ x result, y.event = .observe x ∧ y.output = .result result ∧ result.accepted = true

lemma accepts_observe {s : Session} {x : Observation}
    (h : (s.discipline.observe d x).1.accepted = true) :
    Accepts ((machine d).stepAt s (.observe x)) :=
  ⟨x, (s.discipline.observe d x).1, rfl, rfl, h⟩

/-- The calls bring readings of a clock that does not go back. -/
def Chronological (calls : List Call) : Prop :=
  (calls.filterMap Call.timeNs).Pairwise (· ≤ ·)

instance (calls : List Call) : Decidable (Chronological calls) :=
  inferInstanceAs (Decidable (List.Pairwise _ _))

/-- The induction rule for runs whose clock does not go back. -/
theorem chronological_induction {P : ℤ → Session → Prop} {s₀ : Session}
    (init : ∀ t, P t s₀)
    (later : ∀ t laterNs s, t ≤ laterNs → P t s → P laterNs s)
    (timed : ∀ t s c, c.timeNs = some t → P t s → P t ((machine d).step s c).2)
    (untimed : ∀ t s c, c.timeNs = none → P t s → P t ((machine d).step s c).2)
    {calls : List Call} (hcalls : Chronological calls) {t : ℤ}
    (hnow : ∀ timeNs ∈ calls.filterMap Call.timeNs, timeNs ≤ t) :
    P t ((machine d).final s₀ calls) := by
  induction calls using List.reverseRecOn generalizing t with
  | nil => exact init t
  | append_singleton calls c ih =>
    rw [Machine.final_concat]
    rw [Chronological, List.filterMap_append] at hcalls
    rw [List.filterMap_append] at hnow
    obtain ⟨hbefore, -, hlast⟩ := List.pairwise_append.mp hcalls
    cases htime : c.timeNs with
    | none =>
      refine untimed t _ c htime (ih hbefore fun timeNs h => ?_)
      exact hnow timeNs (List.mem_append_left _ h)
    | some callNs =>
      have hcall : callNs ∈ [c].filterMap Call.timeNs := by simp [htime]
      refine later callNs t _ (hnow callNs (List.mem_append_right _ hcall)) ?_
      exact timed callNs _ c htime (ih hbefore fun timeNs h => hlast timeNs h callNs hcall)

end Session

/-! ## A session of three streams -/

namespace Demo

/-- A required stream with a receipt timeout. -/
def policy (name : String) (timeoutNs : ℤ) : StreamPolicy where
  name := name
  maxCorrectedAgeNs := 200000000
  hardAgeCeilingNs := 10000000000
  staleReceiptTimeoutNs := timeoutNs
  maxRelativeLagNs := 100000000
  minSamples := 10

/-- Two core streams and a cloud that may drop discontinuities, with recovery from outages. -/
def settings (timeoutNs : ℤ) : Settings where
  config :=
    { referenceStream := "imu"
      expectedClockDomain := "go2"
      streams := [policy "imu" timeoutNs, policy "odom" timeoutNs,
        policy "mid360_cloud" timeoutNs]
      affineLockedNoncoreDeltaDropStreams := ["mid360_cloud"] }
  coreStreams := ["imu", "odom"]
  allowLockedReceiptRecovery := true

/-- A sample of a clock that is two minutes ahead. -/
def sample (stream : String) (sourceNs receiptNs : ℤ) : Observation where
  stream := stream
  sourceStampNs := sourceNs + 120000000000
  receiptRealtimeNs := receiptNs + 60000000000
  receiptMonotonicNs := receiptNs
  clockDomain := "go2"

/-- Every stream is observed, without a delay. -/
def observeAll (receiptNs : ℤ) : List Call :=
  ["imu", "odom", "mid360_cloud"].map fun stream => .observe (sample stream receiptNs receiptNs)

/-- Two samples of every stream, and a lock to the approved drift of zero. -/
def lockingCalls : List Call :=
  observeAll 1000000000 ++ observeAll 2000000000 ++
    [.lockAffineFromApprovedDrift 0 true 2000000000]

/-- The session after calls. -/
def after (timeoutNs : ℤ) (calls : List Call) : Session :=
  (Session.machine (settings timeoutNs)).final
    (Session.opened ((settings timeoutNs).initial none)) calls

lemma create_settings :
    (settings 2000000000).create none = .ok ((settings 2000000000).initial none) :=
  Settings.create_eq (by decide +kernel) (by decide +kernel)

end Demo

end UnitreeGo2.StampDiscipline
