import UnitreeGo2.TimeSync.ClockRef

/-!
# What the clock reference feeds to chrony

What a callback knows is a function of the messages and the graph refreshes before it.  They are
listed with the newest first here, so that each definition recurses on the event it is about.
-/

namespace UnitreeGo2.TimeSync

/-! ## The past of a message -/

/-- How the stamp of a message is judged. -/
inductive Judgement where
  | malformed
  | regression
  | duplicate
  | jump
  /-- The message is a sample of its topic. -/
  | sample (sourceNs : ℤ)
  deriving DecidableEq

/-- A judgement after which nothing is fed any more. -/
def Judgement.IsLatch (judgement : Judgement) : Prop :=
  judgement = malformed ∨ judgement = regression ∨ judgement = jump

/-- The clocks of the last message. -/
def lastClockPair : List ClockEvent → Option ClockPair
  | [] => none
  | .receive message :: _ => some (readClockPair message.reads)
  | .refresh _ :: past => lastClockPair past

/-- The local clock was stepped before a message. -/
def steppedBefore (past : List ClockEvent) (message : Message) : Bool :=
  (lastClockPair past).any fun previous => clockStepped previous (readClockPair message.reads)

/-- The well-formed source stamps of a topic, with their receipt times. -/
def receivedStamps (topic : Topic) : List ClockEvent → List (ℤ × ℤ)
  | [] => []
  | .refresh _ :: past => receivedStamps topic past
  | .receive message :: past =>
    match stampToNanoseconds message.stamp with
    | none => receivedStamps topic past
    | some sourceNs =>
      if message.topic = topic then
        (sourceNs, (readClockPair message.reads).monotonicNs) :: receivedStamps topic past
      else receivedStamps topic past

/-- The judgement of a stamp by the last one of its topic. -/
def judgeStamp (maxSourceJumpNs : ℤ) (last : Option (ℤ × ℤ)) (sourceNs monotonicNs : ℤ) :
    Judgement :=
  match last with
  | none => .sample sourceNs
  | some (lastSourceNs, lastMonotonicNs) =>
    if sourceNs < lastSourceNs then .regression
    else if sourceNs = lastSourceNs then .duplicate
    else if monotonicNs ≤ lastMonotonicNs ∨
        maxSourceJumpNs < |sourceNs - lastSourceNs - (monotonicNs - lastMonotonicNs)| then .jump
    else .sample sourceNs

/-- The judgement of a message. -/
def judge (maxSourceJumpNs : ℤ) (past : List ClockEvent) (message : Message) : Judgement :=
  match stampToNanoseconds message.stamp with
  | none => .malformed
  | some sourceNs =>
    judgeStamp maxSourceJumpNs (receivedStamps message.topic past).head? sourceNs
      (readClockPair message.reads).monotonicNs

/-- The offset and the receipt time of a message, if it is a sample of `topic`. -/
def sampleOf (maxSourceJumpNs : ℤ) (topic : Topic) (past : List ClockEvent) (message : Message) :
    Option (ℤ × ℤ) :=
  match judge maxSourceJumpNs past message with
  | .sample sourceNs =>
    if message.topic = topic then
      some (sourceNs - (readClockPair message.reads).realtimeNs,
        (readClockPair message.reads).monotonicNs)
    else none
  | _ => none

/-- The samples of a topic since the last step of the local clock, the oldest first. -/
def samplesSinceStep (maxSourceJumpNs : ℤ) (topic : Topic) : List ClockEvent → List (ℤ × ℤ)
  | [] => []
  | .refresh _ :: past => samplesSinceStep maxSourceJumpNs topic past
  | .receive message :: past =>
    (if steppedBefore past message then [] else samplesSinceStep maxSourceJumpNs topic past) ++
      (sampleOf maxSourceJumpNs topic past message).toList

/-- The last sample of a topic, before or after a step of the local clock. -/
def lastSample (maxSourceJumpNs : ℤ) (topic : Topic) : List ClockEvent → Option (ℤ × ℤ)
  | [] => none
  | .refresh _ :: past => lastSample maxSourceJumpNs topic past
  | .receive message :: past =>
    (sampleOf maxSourceJumpNs topic past message).or (lastSample maxSourceJumpNs topic past)

/-- The last look at the graph found the approved writer of a topic alone. -/
def authorizedBy (approvals : Approvals) (topic : Topic) : List ClockEvent → Bool
  | [] => false
  | .refresh publishers :: _ => authorizedGraphTopics publishers approvals topic
  | .receive _ :: past => authorizedBy approvals topic past

/-- No message so far has latched the feed off. -/
def Unlatched (maxSourceJumpNs : ℤ) : List ClockEvent → Prop
  | [] => True
  | .refresh _ :: past => Unlatched maxSourceJumpNs past
  | .receive message :: past =>
    ¬ (judge maxSourceJumpNs past message).IsLatch ∧ Unlatched maxSourceJumpNs past

/-- The primary topic has no sample, or none that is recent. -/
def PrimaryStale (arguments : Arguments) (fl : ℚ → ℚ) (past : List ClockEvent)
    (monotonicNs : ℤ) : Prop :=
  ∀ sample, lastSample (arguments.maxSourceJumpNs fl) .primary past = some sample →
    arguments.primaryStaleNs fl < monotonicNs - sample.2

/-! ## Qualified samples -/

section Feed

variable (arguments : Arguments) (fl : ℚ → ℚ) (approvals : Approvals)

/-- What stands behind a sample that is sent at a message. -/
structure QualifiedSample (past : List ClockEvent) (message : Message) (sample : ChronySample) :
    Prop where
  source : stampToNanoseconds message.stamp = some sample.sourceStampNs
  receipt : sample.receiptRealtimeNs = (readClockPair message.reads).realtimeNs
  authorized : authorizedBy approvals message.topic past = true
  unlatched : Unlatched (arguments.maxSourceJumpNs fl) (.receive message :: past)
  advancing : ∀ earlier ∈ receivedStamps message.topic past, earlier.1 < sample.sourceStampNs
  warm : arguments.warmupSamples ≤ (samplesSinceStep (arguments.maxSourceJumpNs fl) message.topic
    (.receive message :: past)).length
  jitter : ∃ jitter, jitterP95Ns fl (retained arguments.windowSamples (samplesSinceStep
    (arguments.maxSourceJumpNs fl) message.topic (.receive message :: past))) = some jitter ∧
      jitter ≤ fl (arguments.maxJitterMs * 1000000)
  drift : ∃ drift, driftPpm fl (retained arguments.windowSamples (samplesSinceStep
    (arguments.maxSourceJumpNs fl) message.topic (.receive message :: past))) = some drift ∧
      |drift| ≤ arguments.maxAbsoluteDriftPpm
  /-- A fallback sample stands in for the primary topic. -/
  primaryStale : message.topic = .fallback →
    PrimaryStale arguments fl past (readClockPair message.reads).monotonicNs

/-- The primary offset that a fallback sample agrees with has been measured since the last step
of the local clock. -/
def AgreesWithPrimary (past : List ClockEvent) (message : Message) (sample : ChronySample) :
    Prop :=
  ∃ primary ∈ samplesSinceStep (arguments.maxSourceJumpNs fl) .primary (.receive message :: past),
    |sample.sourceStampNs - sample.receiptRealtimeNs - primary.1| ≤
      arguments.fallbackAgreementNs fl

abbrev ClockStep := Machine.Step ClockRef ClockEvent (Option ChronySample)

/-- The events of a history, the newest first. -/
def pastOf (tr : List ClockStep) : List ClockEvent := (tr.map Machine.Step.event).reverse

/-- **The feed discipline**, for the steps of a run. -/
structure FeedDiscipline (tr : List ClockStep) : Prop where
  qualified : ∀ l x r, tr = l ++ x :: r → ∀ sample, x.output = some sample →
    ∃ message, x.event = .receive message ∧
      QualifiedSample arguments fl approvals (pastOf l) message sample ∧
      (message.topic = .fallback → AgreesWithPrimary arguments fl (pastOf l) message sample)
  /-- Consecutive samples keep the minimum interval. -/
  spaced : ∀ l x m y r, tr = l ++ x :: (m ++ y :: r) → x.output ≠ none → y.output ≠ none →
    (∀ z ∈ m, z.output = none) → ∀ message message', x.event = .receive message →
      y.event = .receive message' → (readClockPair message.reads).monotonicNs +
        arguments.minIntervalNs fl ≤ (readClockPair message'.reads).monotonicNs
  /-- After a message that latches the feed off, nothing is sent. -/
  latched : ∀ l x m y r, tr = l ++ x :: (m ++ y :: r) → ∀ message, x.event = .receive message →
    (judge (arguments.maxSourceJumpNs fl) (pastOf l) message).IsLatch → y.output = none

/-- A fallback sample stands in for the primary topic and agrees with its last offset, which was
measured before the last step of the local clock. -/
structure OutdatedAgreement (past : List ClockEvent) (message : Message) : Prop where
  topic : message.topic = .fallback
  unlatched : Unlatched (arguments.maxSourceJumpNs fl) (.receive message :: past)
  authorized : authorizedBy approvals .fallback past = true
  primaryStale : PrimaryStale arguments fl past (readClockPair message.reads).monotonicNs
  agrees : ∃ own primary,
    sampleOf (arguments.maxSourceJumpNs fl) .fallback past message = some own ∧
      lastSample (arguments.maxSourceJumpNs fl) .primary past = some primary ∧
        |own.1 - primary.1| ≤ arguments.fallbackAgreementNs fl
  outdated : samplesSinceStep (arguments.maxSourceJumpNs fl) .primary
    (.receive message :: past) = []

end Feed

/-! ## The state of the node -/

section Retained

variable {α : Type}

lemma retained_append_retained (size : ℕ) (samples : List α) (sample : α) :
    retained size (retained size samples ++ [sample]) = retained size (samples ++ [sample]) := by
  unfold retained
  rcases Nat.le_total samples.length size with hle | hle
  · rw [Nat.sub_eq_zero_of_le hle, List.drop_zero]
  · rw [← List.drop_append_of_le_length (by omega), List.drop_drop]
    congr 1
    simp only [List.length_drop, List.length_append, List.length_singleton]
    omega

@[simp] lemma retained_nil (size : ℕ) : retained size ([] : List α) = [] := by
  simp [retained]

lemma length_retained_le (size : ℕ) (samples : List α) :
    (retained size samples).length ≤ samples.length := by
  simp [retained]

lemma retained_eq_nil_iff {size : ℕ} {samples : List α} (hsize : 0 < size) :
    retained size samples = [] ↔ samples = [] := by
  simp only [retained, List.drop_eq_nil_iff]
  constructor
  · intro h
    exact List.length_eq_zero_iff.mp (by omega)
  · rintro rfl
    simp

end Retained

/-- What a tracker has seen of its topic. -/
structure TrackerOf (stamps : List (ℤ × ℤ)) (tracker : StreamTracker) : Prop where
  source : tracker.lastSourceNs = stamps.head?.map Prod.fst
  receipt : tracker.lastReceiptMonotonicNs = stamps.head?.map Prod.snd

/-- The node remembers its past. -/
structure Tracks (arguments : Arguments) (fl : ℚ → ℚ) (approvals : Approvals)
    (past : List ClockEvent) (r : ClockRef) : Prop where
  clock : r.previousClockPair = lastClockPair past
  tracker : ∀ topic, TrackerOf (receivedStamps topic past) (r.trackers topic)
  size : ∀ topic, (r.quality topic).size = arguments.windowSamples
  quality : ∀ topic, (r.quality topic).samples = retained arguments.windowSamples
    (samplesSinceStep (arguments.maxSourceJumpNs fl) topic past)
  lastReceipt : ∀ topic,
    r.lastReceipt topic = (lastSample (arguments.maxSourceJumpNs fl) topic past).map Prod.snd
  lastOffset : ∀ topic,
    r.lastOffset topic = (lastSample (arguments.maxSourceJumpNs fl) topic past).map Prod.fst
  authorized : ∀ topic, r.authorizedTopics topic = authorizedBy approvals topic past
  unlatched : r.unsafeLatched = false → Unlatched (arguments.maxSourceJumpNs fl) past

section State

variable {arguments : Arguments} {fl : ℚ → ℚ} {approvals : Approvals} {past : List ClockEvent}
  {r : ClockRef} {message : Message}

lemma tracks_init : Tracks arguments fl approvals [] (ClockRef.init arguments) where
  clock := rfl
  tracker _ := ⟨rfl, rfl⟩
  size _ := rfl
  quality _ := by simp [ClockRef.init, samplesSinceStep]
  lastReceipt _ := rfl
  lastOffset _ := rfl
  authorized _ := rfl
  unlatched _ := trivial

lemma Tracks.refresh (h : Tracks arguments fl approvals past r)
    (hmode : arguments.mode = .feedChrony) (publishers : Topic → List Gid) :
    Tracks arguments fl approvals (.refresh publishers :: past)
      (r.refreshGraphAuthority arguments approvals publishers) := by
  unfold ClockRef.refreshGraphAuthority
  rw [if_neg (by simp [Arguments.approvalMode, hmode])]
  exact ⟨h.clock, h.tracker, h.size, h.quality, h.lastReceipt, h.lastOffset,
    fun _ => rfl, h.unlatched⟩

/-- A step of the local clock empties the windows, and nothing else. -/
lemma Tracks.observeClocks_eq (h : Tracks arguments fl approvals past r) (message : Message) :
    ∃ count, r.observeClocks (readClockPair message.reads) =
      { r with
        quality := fun topic => ⟨arguments.windowSamples, retained arguments.windowSamples
          (if steppedBefore past message then []
          else samplesSinceStep (arguments.maxSourceJumpNs fl) topic past)⟩
        clockDiscontinuityCount := count
        previousClockPair := some (readClockPair message.reads) } := by
  have hquality : r.quality = fun topic => ⟨arguments.windowSamples,
      retained arguments.windowSamples
        (samplesSinceStep (arguments.maxSourceJumpNs fl) topic past)⟩ := by
    funext topic
    cases hwindow : r.quality topic with
    | mk size samples =>
      have hsize := h.size topic
      have hsamples := h.quality topic
      rw [hwindow] at hsize hsamples
      exact congrArg₂ QualityWindow.mk hsize hsamples
  unfold ClockRef.observeClocks steppedBefore
  rw [h.clock]
  split
  · refine ⟨r.clockDiscontinuityCount + 1, ?_⟩
    simp only [hquality, QualityWindow.reset, retained_nil]
  · refine ⟨r.clockDiscontinuityCount, ?_⟩
    rw [← hquality]

lemma receivedStamps_receive (message : Message) (topic : Topic) :
    receivedStamps topic (.receive message :: past) =
      match stampToNanoseconds message.stamp with
      | none => receivedStamps topic past
      | some sourceNs =>
        if message.topic = topic then
          (sourceNs, (readClockPair message.reads).monotonicNs) :: receivedStamps topic past
        else receivedStamps topic past := rfl

/-- A tracker takes the stamp of a message. -/
lemma Tracks.tracker_observed (h : Tracks arguments fl approvals past r) (message : Message)
    (topic : Topic) : TrackerOf (receivedStamps topic (.receive message :: past))
      (Function.update r.trackers message.topic ((r.trackers message.topic).observe message.stamp
        (readClockPair message.reads)).2 topic) := by
  rw [receivedStamps_receive]
  unfold StreamTracker.observe
  cases hstamp : stampToNanoseconds message.stamp with
  | none =>
    by_cases htopic : topic = message.topic
    · subst htopic
      rw [Function.update_self]
      dsimp only
      split <;> exact ⟨(h.tracker _).source, (h.tracker _).receipt⟩
    · rw [Function.update_of_ne htopic]
      exact h.tracker topic
  | some sourceNs =>
    by_cases htopic : topic = message.topic
    · subst htopic
      rw [Function.update_self]
      dsimp only
      rw [if_pos rfl]
      exact ⟨rfl, rfl⟩
    · rw [Function.update_of_ne htopic]
      dsimp only
      rw [if_neg (Ne.symm htopic)]
      exact h.tracker topic

/-- The state of a callback once its stamp has been seen. -/
def ClockRef.observed (arguments : Arguments) (fl : ℚ → ℚ) (past : List ClockEvent)
    (r : ClockRef) (message : Message) (count : ℕ) : ClockRef :=
  { r with
    trackers := Function.update r.trackers message.topic ((r.trackers message.topic).observe
      message.stamp (readClockPair message.reads)).2
    quality := fun topic => ⟨arguments.windowSamples, retained arguments.windowSamples
      (if steppedBefore past message then []
      else samplesSinceStep (arguments.maxSourceJumpNs fl) topic past)⟩
    clockDiscontinuityCount := count
    previousClockPair := some (readClockPair message.reads) }

lemma stampStatus_of_lt {last sourceNs : ℤ} (h : sourceNs < last) :
    stampStatus (some last) sourceNs = .regression := by
  simp [stampStatus, h]

lemma stampStatus_self (sourceNs : ℤ) : stampStatus (some sourceNs) sourceNs = .duplicate := by
  simp [stampStatus]

lemma stampStatus_of_gt {last sourceNs : ℤ} (h : last < sourceNs) :
    stampStatus (some last) sourceNs = .advancing := by
  simp [stampStatus, h.not_gt, h.ne]

lemma observe_malformed {stamp : Time} (h : stampToNanoseconds stamp = none)
    (tracker : StreamTracker) (receipt : ClockPair) :
    (tracker.observe stamp receipt).1.sourceStampNs = none := by
  unfold StreamTracker.observe
  rw [h]
  dsimp only
  split <;> rfl

lemma observe_valid {tracker : StreamTracker} {stamp : Time} {receipt : ClockPair} {sourceNs : ℤ}
    (h : stampToNanoseconds stamp = some sourceNs) :
    (tracker.observe stamp receipt).1 =
      { sourceStampNs := some sourceNs
        status := stampStatus tracker.lastSourceNs sourceNs
        sourceMinusReceiptNs := some (sourceNs - receipt.realtimeNs)
        sourceDeltaNs := tracker.lastSourceNs.map fun last => sourceNs - last
        receiptMonotonicDeltaNs :=
          tracker.lastReceiptMonotonicNs.map fun last => receipt.monotonicNs - last } := by
  unfold StreamTracker.observe
  rw [h]

lemma jumpReason_eq_none_iff {sourceDeltaNs : ℤ} (h : 0 ≤ sourceDeltaNs)
    (receiptDeltaNs maxDeltaErrorNs : ℤ) :
    sourceTimingJumpReason (some sourceDeltaNs) (some receiptDeltaNs) maxDeltaErrorNs = none ↔
      ¬ (receiptDeltaNs ≤ 0 ∨ maxDeltaErrorNs < |sourceDeltaNs - receiptDeltaNs|) := by
  unfold sourceTimingJumpReason
  dsimp only
  rw [if_neg h.not_gt]
  by_cases hreceipt : receiptDeltaNs ≤ 0
  · simp [hreceipt]
  · simp [hreceipt]

/-- A callback follows the judgement of its message. -/
lemma Tracks.callback_eq (h : Tracks arguments fl approvals past r)
    (hmode : arguments.mode = .feedChrony) (message : Message) :
    ∃ count, r.callback arguments fl message =
      match judge (arguments.maxSourceJumpNs fl) past message with
      | .duplicate => (none, r.observed arguments fl past message count)
      | .sample sourceNs =>
        ((r.observed arguments fl past message count).record message.topic
          (sourceNs - (readClockPair message.reads).realtimeNs)
          (readClockPair message.reads).monotonicNs).feed arguments fl message.topic sourceNs
            (sourceNs - (readClockPair message.reads).realtimeNs) (readClockPair message.reads)
      | _ => (none, { r.observed arguments fl past message count with unsafeLatched := true }) := by
  obtain ⟨count, hclocks⟩ := h.observeClocks_eq message
  have hfeed : arguments.feedMode = true := by simp [Arguments.feedMode, hmode]
  have happroval : arguments.approvalMode = true := by simp [Arguments.approvalMode, hmode]
  refine ⟨count, ?_⟩
  unfold ClockRef.callback judge
  dsimp only
  rw [hclocks, hfeed, happroval]
  dsimp only
  have hsource := (h.tracker message.topic).source
  have hreceipt := (h.tracker message.topic).receipt
  unfold ClockRef.observed
  generalize hobserve : (r.trackers message.topic).observe message.stamp
    (readClockPair message.reads) = observed
  obtain ⟨observation, tracker⟩ := observed
  cases hstamp : stampToNanoseconds message.stamp with
  | none =>
    have hnone : observation.sourceStampNs = none := by
      have hfst := observe_malformed hstamp (r.trackers message.topic)
        (readClockPair message.reads)
      rwa [hobserve] at hfst
    dsimp only
    rw [hnone]
  | some sourceNs =>
    obtain rfl := (observe_valid hstamp).symm.trans (congrArg Prod.fst hobserve)
    dsimp only
    rw [hsource, hreceipt]
    cases hlast : (receivedStamps message.topic past).head? with
    | none => rfl
    | some last =>
      obtain ⟨lastSourceNs, lastMonotonicNs⟩ := last
      dsimp only [Option.map_some]
      rcases lt_trichotomy sourceNs lastSourceNs with hlt | rfl | hgt
      · rw [if_pos (stampStatus_of_lt hlt), judgeStamp, if_pos hlt]
      · rw [if_neg (by simp [stampStatus_self]), if_pos (stampStatus_self _), judgeStamp,
          if_neg (lt_irrefl _), if_pos rfl]
      · rw [if_neg (by simp [stampStatus_of_gt hgt]), if_neg (by simp [stampStatus_of_gt hgt]),
          judgeStamp, if_neg hgt.not_gt, if_neg hgt.ne']
        have hreason := jumpReason_eq_none_iff (sub_nonneg.mpr hgt.le)
          ((readClockPair message.reads).monotonicNs - lastMonotonicNs)
          (arguments.maxSourceJumpNs fl)
        rw [sub_nonpos] at hreason
        cases hjump : sourceTimingJumpReason (some (sourceNs - lastSourceNs))
            (some ((readClockPair message.reads).monotonicNs - lastMonotonicNs))
            (arguments.maxSourceJumpNs fl) with
        | none => rw [if_neg (hreason.mp hjump)]
        | some reason =>
          rw [if_pos (by
            by_contra hno
            rw [hreason.mpr hno] at hjump
            cases hjump)]

/-- A message that is not a sample. -/
lemma Tracks.skip (h : Tracks arguments fl approvals past r)
    (hsample : ∀ topic, sampleOf (arguments.maxSourceJumpNs fl) topic past message = none)
    (count : ℕ) (latched : Bool) (hlatched : latched = false → r.unsafeLatched = false ∧
      ¬ (judge (arguments.maxSourceJumpNs fl) past message).IsLatch) :
    Tracks arguments fl approvals (.receive message :: past)
      { r.observed arguments fl past message count with unsafeLatched := latched } where
  clock := rfl
  tracker := h.tracker_observed message
  size _ := rfl
  quality topic := by
    show retained _ _ = retained _ (samplesSinceStep _ topic (.receive message :: past))
    rw [samplesSinceStep, hsample topic, Option.toList_none, List.append_nil]
  lastReceipt topic := by
    rw [lastSample, hsample topic, Option.none_or]
    exact h.lastReceipt topic
  lastOffset topic := by
    rw [lastSample, hsample topic, Option.none_or]
    exact h.lastOffset topic
  authorized := h.authorized
  unlatched hnone := ⟨(hlatched hnone).2, h.unlatched (hlatched hnone).1⟩

/-- A message that is a sample of its topic. -/
lemma Tracks.record (h : Tracks arguments fl approvals past r) {sourceNs : ℤ}
    (hjudge : judge (arguments.maxSourceJumpNs fl) past message = .sample sourceNs) (count : ℕ) :
    Tracks arguments fl approvals (.receive message :: past)
      ((r.observed arguments fl past message count).record message.topic
        (sourceNs - (readClockPair message.reads).realtimeNs)
        (readClockPair message.reads).monotonicNs) := by
  have hown : sampleOf (arguments.maxSourceJumpNs fl) message.topic past message =
      some (sourceNs - (readClockPair message.reads).realtimeNs,
        (readClockPair message.reads).monotonicNs) := by
    rw [sampleOf, hjudge]
    exact if_pos rfl
  have hother : ∀ topic, topic ≠ message.topic →
      sampleOf (arguments.maxSourceJumpNs fl) topic past message = none := by
    intro topic htopic
    rw [sampleOf, hjudge]
    exact if_neg (Ne.symm htopic)
  refine ⟨rfl, h.tracker_observed message, fun topic => ?_, fun topic => ?_, fun topic => ?_,
    fun topic => ?_, h.authorized, fun hnone => ⟨?_, h.unlatched hnone⟩⟩
  · unfold ClockRef.record
    by_cases htopic : topic = message.topic
    · subst htopic
      dsimp only
      rw [Function.update_self]
      rfl
    · dsimp only
      rw [Function.update_of_ne htopic]
      rfl
  · unfold ClockRef.record
    dsimp only
    rw [samplesSinceStep]
    by_cases htopic : topic = message.topic
    · subst htopic
      rw [Function.update_self, hown, Option.toList_some]
      exact retained_append_retained _ _ _
    · rw [Function.update_of_ne htopic, hother topic htopic, Option.toList_none, List.append_nil]
      rfl
  · show Function.update r.lastReceipt message.topic _ topic = _
    rw [lastSample]
    by_cases htopic : topic = message.topic
    · subst htopic
      rw [Function.update_self, hown]
      rfl
    · rw [Function.update_of_ne htopic, hother topic htopic, Option.none_or]
      exact h.lastReceipt topic
  · show Function.update r.lastOffset message.topic _ topic = _
    rw [lastSample]
    by_cases htopic : topic = message.topic
    · subst htopic
      rw [Function.update_self, hown]
      rfl
    · rw [Function.update_of_ne htopic, hother topic htopic, Option.none_or]
      exact h.lastOffset topic
  · rw [hjudge]
    simp [Judgement.IsLatch]

/-! ## Feeding -/

/-- What a callback has checked when it sends a sample. -/
structure Feeds (arguments : Arguments) (fl : ℚ → ℚ) (r : ClockRef) (topic : Topic)
    (sourceNs offsetNs : ℤ) (receipt : ClockPair) (sample : ChronySample) (r' : ClockRef) :
    Prop where
  sample : sample = ⟨sourceNs, receipt.realtimeNs⟩
  unlatched : r.unsafeLatched = false
  authorized : r.authorizedTopics topic = true
  active : topic = r.activeTopic arguments fl topic receipt.monotonicNs
  agrees : topic = .fallback → r.agrees arguments fl offsetNs = true
  qualified : ClockRef.qualified arguments fl (r.quality topic) = true
  interval : r.lastFeedMonotonicNs + arguments.minIntervalNs fl ≤ receipt.monotonicNs
  post : r' = { r with
    lastFeedMonotonicNs := receipt.monotonicNs
    feedCount := r.feedCount + 1 }

lemma feed_cases (arguments : Arguments) (fl : ℚ → ℚ) (r : ClockRef) (topic : Topic)
    (sourceNs offsetNs : ℤ) (receipt : ClockPair) :
    r.feed arguments fl topic sourceNs offsetNs receipt = (none, r) ∨
      ∃ sample r', r.feed arguments fl topic sourceNs offsetNs receipt = (some sample, r') ∧
        Feeds arguments fl r topic sourceNs offsetNs receipt sample r' := by
  unfold ClockRef.feed
  split
  · exact .inl rfl
  rename_i hlatched
  split
  · exact .inl rfl
  rename_i hauthorized
  split
  · exact .inl rfl
  rename_i hactive
  split
  · exact .inl rfl
  rename_i hagrees
  split
  · exact .inl rfl
  rename_i hqualified
  split
  · exact .inl rfl
  rename_i hinterval
  refine .inr ⟨_, _, rfl, rfl, ?_, ?_, not_not.mp hactive, ?_, ?_, by omega, rfl⟩
  · exact Bool.not_eq_true _ ▸ fun h => hlatched (.inr h)
  · exact Bool.not_eq_false _ ▸ hauthorized
  · intro htopic
    exact Bool.not_eq_false _ ▸ fun h => hagrees ⟨htopic, h⟩
  · exact Bool.not_eq_false _ ▸ hqualified

/-- The fed state differs only in what the next feed is measured against. -/
lemma Tracks.fed (h : Tracks arguments fl approvals past r) (monotonicNs : ℤ) (count : ℕ) :
    Tracks arguments fl approvals past
      { r with lastFeedMonotonicNs := monotonicNs, feedCount := count } :=
  ⟨h.clock, h.tracker, h.size, h.quality, h.lastReceipt, h.lastOffset, h.authorized, h.unlatched⟩

/-- A window that qualifies holds enough samples, and quiet ones. -/
lemma qualified_iff {window : QualityWindow} (h : ClockRef.qualified arguments fl window = true) :
    arguments.warmupSamples ≤ window.samples.length ∧
      (∃ jitter, jitterP95Ns fl window.samples = some jitter ∧
        jitter ≤ fl (arguments.maxJitterMs * 1000000)) ∧
      ∃ drift, driftPpm fl window.samples = some drift ∧
        |drift| ≤ arguments.maxAbsoluteDriftPpm := by
  unfold ClockRef.qualified QualityWindow.metrics at h
  by_cases hempty : window.samples = []
  · rw [if_pos hempty] at h
    simp at h
  · rw [if_neg hempty] at h
    simpa [Option.any_eq_true] using h

end State

section History

variable {maxSourceJumpNs : ℤ} {past : List ClockEvent} {message : Message} {topic : Topic}

/-- Stamps that are not latched off do not go back. -/
lemma receivedStamps_le (h : Unlatched maxSourceJumpNs past) :
    ∀ last, (receivedStamps topic past).head? = some last →
      ∀ earlier ∈ receivedStamps topic past, earlier.1 ≤ last.1 := by
  induction past with
  | nil =>
    intro last hlast
    cases hlast
  | cons event past ih =>
    cases event with
    | refresh publishers => exact ih h
    | receive message =>
      obtain ⟨hjudge, hpast⟩ := h
      intro last hlast earlier hearlier
      rw [receivedStamps_receive] at hlast hearlier
      cases hstamp : stampToNanoseconds message.stamp with
      | none =>
        rw [hstamp] at hlast hearlier
        exact ih hpast last hlast earlier hearlier
      | some sourceNs =>
        rw [hstamp] at hlast hearlier
        dsimp only at hlast hearlier
        by_cases htopic : message.topic = topic
        · rw [if_pos htopic] at hlast hearlier
          cases hlast
          rcases List.mem_cons.mp hearlier with rfl | hearlier
          · exact le_rfl
          cases hhead : (receivedStamps topic past).head? with
          | none =>
            rw [List.head?_eq_none_iff.mp hhead] at hearlier
            cases hearlier
          | some before =>
            refine (ih hpast before hhead earlier hearlier).trans ?_
            by_contra hlt
            refine hjudge (.inr (.inl ?_))
            rw [judge, hstamp]
            dsimp only
            rw [htopic, hhead]
            exact if_pos (not_le.mp hlt)
        · rw [if_neg htopic] at hlast hearlier
          exact ih hpast last hlast earlier hearlier

/-- A sample is later than everything before it on its topic. -/
lemma receivedStamps_lt (h : Unlatched maxSourceJumpNs past) {sourceNs : ℤ}
    (hjudge : judge maxSourceJumpNs past message = .sample sourceNs) :
    stampToNanoseconds message.stamp = some sourceNs ∧
      ∀ earlier ∈ receivedStamps message.topic past, earlier.1 < sourceNs := by
  unfold judge at hjudge
  cases hstamp : stampToNanoseconds message.stamp with
  | none =>
    rw [hstamp] at hjudge
    cases hjudge
  | some stampNs =>
    rw [hstamp] at hjudge
    dsimp only at hjudge
    cases hhead : (receivedStamps message.topic past).head? with
    | none =>
      rw [hhead] at hjudge
      cases hjudge
      refine ⟨rfl, fun earlier hearlier => ?_⟩
      rw [List.head?_eq_none_iff.mp hhead] at hearlier
      cases hearlier
    | some last =>
      rw [hhead] at hjudge
      unfold judgeStamp at hjudge
      dsimp only at hjudge
      split at hjudge
      · cases hjudge
      rename_i hbefore
      split at hjudge
      · cases hjudge
      rename_i hequal
      split at hjudge
      · cases hjudge
      cases hjudge
      refine ⟨rfl, fun earlier hearlier => ?_⟩
      have hle := receivedStamps_le h last hhead earlier hearlier
      omega

/-- The last sample since a step of the clock is the last sample. -/
lemma getLast?_samplesSinceStep (h : samplesSinceStep maxSourceJumpNs topic past ≠ []) :
    (samplesSinceStep maxSourceJumpNs topic past).getLast? =
      lastSample maxSourceJumpNs topic past := by
  induction past with
  | nil => exact absurd rfl h
  | cons event past ih =>
    cases event with
    | refresh publishers => exact ih h
    | receive message =>
      rw [samplesSinceStep] at h ⊢
      rw [lastSample]
      cases hsample : sampleOf maxSourceJumpNs topic past message with
      | some sample => simp
      | none =>
        rw [hsample, Option.toList_none, List.append_nil] at h
        rw [Option.toList_none, List.append_nil, Option.none_or]
        split at h
        · exact absurd rfl h
        · rename_i hstepped
          rw [if_neg hstepped]
          exact ih h

end History

section Runs

variable {arguments : Arguments} {fl : ℚ → ℚ} {approvals : Approvals} {past : List ClockEvent}
  {r : ClockRef} {message : Message}

/-- What a sample that is sent at a message rests on. -/
structure FedSample (arguments : Arguments) (fl : ℚ → ℚ) (approvals : Approvals)
    (past : List ClockEvent) (r : ClockRef) (message : Message) (sample : ChronySample) :
    Prop where
  qualified : QualifiedSample arguments fl approvals past message sample
  agrees : message.topic = .fallback →
    ¬ OutdatedAgreement arguments fl approvals past message →
      AgreesWithPrimary arguments fl past message sample
  interval : r.lastFeedMonotonicNs + arguments.minIntervalNs fl ≤
    (readClockPair message.reads).monotonicNs

/-- A sample is fed with the evidence for it. -/
lemma Tracks.fedSample (h : Tracks arguments fl approvals past r) {sourceNs : ℤ} {count : ℕ}
    (hjudge : judge (arguments.maxSourceJumpNs fl) past message = .sample sourceNs)
    {sample : ChronySample} {r' : ClockRef}
    (hfeeds : Feeds arguments fl ((r.observed arguments fl past message count).record message.topic
      (sourceNs - (readClockPair message.reads).realtimeNs)
      (readClockPair message.reads).monotonicNs) message.topic sourceNs
      (sourceNs - (readClockPair message.reads).realtimeNs) (readClockPair message.reads)
      sample r') :
    FedSample arguments fl approvals past r message sample := by
  have htracks := h.record hjudge count
  obtain ⟨rfl, hunlatched, hauthorized, hactive, hagrees, hqualified, hinterval, -⟩ := hfeeds
  rw [htracks.authorized] at hauthorized
  have hpast := htracks.unlatched hunlatched
  obtain ⟨hstamp, hadvancing⟩ := receivedStamps_lt hpast.2 hjudge
  obtain ⟨hwarm, hjitter, hdrift⟩ := qualified_iff hqualified
  rw [htracks.quality] at hwarm hjitter hdrift
  have hnone (htopic : message.topic = .fallback) :
      sampleOf (arguments.maxSourceJumpNs fl) .primary past message = none := by
    rw [sampleOf, hjudge, htopic]
    rfl
  have hstale : message.topic = .fallback →
      PrimaryStale arguments fl past (readClockPair message.reads).monotonicNs := by
    intro htopic primary hprimary
    have hreceipt := htracks.lastReceipt .primary
    rw [lastSample, hnone htopic, Option.none_or, hprimary] at hreceipt
    rw [htopic] at hactive hreceipt
    unfold ClockRef.activeTopic at hactive
    split at hactive
    · rename_i hall
      rw [hreceipt] at hall
      simpa using hall.2
    · cases hactive
  refine ⟨⟨hstamp, rfl, hauthorized, hpast, hadvancing,
    hwarm.trans (length_retained_le _ _), hjitter, hdrift, hstale⟩, ?_, hinterval⟩
  intro htopic houtdated
  have hoffset := htracks.lastOffset .primary
  have hagree := hagrees htopic
  unfold ClockRef.agrees at hagree
  rw [hoffset, Option.any_eq_true] at hagree
  obtain ⟨primaryOffset, hprimary, hle⟩ := hagree
  obtain ⟨primary, hlast, rfl⟩ := Option.map_eq_some_iff.mp hprimary
  rw [decide_eq_true_eq] at hle
  have hsince : samplesSinceStep (arguments.maxSourceJumpNs fl) .primary
      (.receive message :: past) ≠ [] := by
    intro hempty
    have hfallback : authorizedBy approvals .fallback past = true := by
      rw [htopic] at hauthorized
      exact hauthorized
    have hown : sampleOf (arguments.maxSourceJumpNs fl) .fallback past message =
        some (sourceNs - (readClockPair message.reads).realtimeNs,
          (readClockPair message.reads).monotonicNs) := by
      rw [sampleOf, hjudge]
      exact if_pos htopic
    have hbefore : lastSample (arguments.maxSourceJumpNs fl) .primary past = some primary := by
      rwa [lastSample, hnone htopic, Option.none_or] at hlast
    exact houtdated ⟨htopic, hpast, hfallback, hstale htopic, ⟨_, primary, hown, hbefore, hle⟩,
      hempty⟩
  refine ⟨primary, ?_, hle⟩
  rw [← getLast?_samplesSinceStep hsince] at hlast
  exact List.mem_of_getLast? hlast

/-- **One callback**: it keeps the memory of the node, and what it sends is qualified. -/
theorem Tracks.callback (h : Tracks arguments fl approvals past r)
    (hmode : arguments.mode = .feedChrony) (message : Message) :
    Tracks arguments fl approvals (.receive message :: past)
        (r.callback arguments fl message).2 ∧
      ((r.callback arguments fl message).1 = none ∧
        (r.callback arguments fl message).2.lastFeedMonotonicNs = r.lastFeedMonotonicNs ∨
      ∃ sample, (r.callback arguments fl message).1 = some sample ∧
        FedSample arguments fl approvals past r message sample ∧
        (r.callback arguments fl message).2.lastFeedMonotonicNs =
          (readClockPair message.reads).monotonicNs) := by
  obtain ⟨count, hcallback⟩ := h.callback_eq hmode message
  rw [hcallback]
  have hskip : (∀ sourceNs,
      judge (arguments.maxSourceJumpNs fl) past message ≠ .sample sourceNs) →
      ∀ topic, sampleOf (arguments.maxSourceJumpNs fl) topic past message = none := by
    intro hjudge topic
    unfold sampleOf
    split
    · rename_i sourceNs hsample
      exact absurd hsample (hjudge sourceNs)
    · rfl
  cases hjudge : judge (arguments.maxSourceJumpNs fl) past message with
  | malformed =>
    exact ⟨h.skip (hskip (by simp [hjudge])) count true (fun hlatched => by cases hlatched),
      .inl ⟨rfl, rfl⟩⟩
  | regression =>
    exact ⟨h.skip (hskip (by simp [hjudge])) count true (fun hlatched => by cases hlatched),
      .inl ⟨rfl, rfl⟩⟩
  | jump =>
    exact ⟨h.skip (hskip (by simp [hjudge])) count true (fun hlatched => by cases hlatched),
      .inl ⟨rfl, rfl⟩⟩
  | duplicate =>
    refine ⟨h.skip (hskip (by simp [hjudge])) count r.unsafeLatched
      fun hunlatched => ⟨hunlatched, ?_⟩, .inl ⟨rfl, rfl⟩⟩
    simp [hjudge, Judgement.IsLatch]
  | sample sourceNs =>
    dsimp only
    have htracks := h.record hjudge count
    rcases feed_cases arguments fl ((r.observed arguments fl past message count).record
        message.topic (sourceNs - (readClockPair message.reads).realtimeNs)
        (readClockPair message.reads).monotonicNs) message.topic sourceNs
        (sourceNs - (readClockPair message.reads).realtimeNs) (readClockPair message.reads)
      with hnone | ⟨sample, r', hfeed, hfeeds⟩
    · rw [hnone]
      exact ⟨htracks, .inl ⟨rfl, rfl⟩⟩
    · rw [hfeed]
      refine ⟨?_, .inr ⟨sample, rfl, h.fedSample hjudge hfeeds, ?_⟩⟩
      · rw [hfeeds.post]
        exact htracks.fed _ _
      · rw [hfeeds.post]

end Runs

/-! ## The whole run -/

section Run

variable {arguments : Arguments} {fl : ℚ → ℚ} {approvals : Approvals} {tr : List ClockStep}
  {r : ClockRef}

lemma pastOf_concat (tr : List ClockStep) (x : ClockStep) :
    pastOf (tr ++ [x]) = x.event :: pastOf tr := by
  simp [pastOf]

lemma pastOf_split (l : List ClockStep) (x : ClockStep) (m : List ClockStep) :
    pastOf (l ++ x :: m) = pastOf m ++ x.event :: pastOf l := by
  simp [pastOf]

lemma Unlatched.split {maxSourceJumpNs : ℤ} {newer older : List ClockEvent} {message : Message}
    (h : Unlatched maxSourceJumpNs (newer ++ .receive message :: older)) :
    ¬ (judge maxSourceJumpNs older message).IsLatch := by
  induction newer with
  | nil => exact h.1
  | cons event newer ih =>
    cases event with
    | refresh publishers => exact ih h
    | receive _ => exact ih h.2

/-- The discipline of a history, and what its last state remembers of it. -/
structure Fed (arguments : Arguments) (fl : ℚ → ℚ) (approvals : Approvals)
    (tr : List ClockStep) (r : ClockRef) : Prop where
  tracks : Tracks arguments fl approvals (pastOf tr) r
  lastFeed : ∀ l x m, tr = l ++ x :: m → x.output ≠ none → (∀ z ∈ m, z.output = none) →
    ∀ message, x.event = .receive message →
      r.lastFeedMonotonicNs = (readClockPair message.reads).monotonicNs
  discipline : FeedDiscipline arguments fl approvals tr

/-- A step that sends nothing. -/
lemma Fed.silent {y : ClockStep} (h : Fed arguments fl approvals tr r)
    (htracks : Tracks arguments fl approvals (y.event :: pastOf tr) y.post)
    (hy : y.output = none) (hfeed : y.post.lastFeedMonotonicNs = r.lastFeedMonotonicNs) :
    Fed arguments fl approvals (tr ++ [y]) y.post where
  tracks := pastOf_concat tr y ▸ htracks
  lastFeed := by
    intro l x m hsplit hx hm message hmessage
    rcases Machine.concat_eq_append_cons_iff.mp hsplit with ⟨-, rfl, -⟩ | ⟨m', hinit, rfl⟩
    · exact absurd hy hx
    · rw [hfeed]
      exact h.lastFeed l x m' hinit hx (fun z hz => hm z (by simp [hz])) message hmessage
  discipline := {
    qualified := Machine.splits_concat h.discipline.qualified
      fun sample hsample => by rw [hy] at hsample; cases hsample
    spaced := Machine.pairs_concat h.discipline.spaced fun _ _ _ _ _ hsent => absurd hy hsent
    latched := Machine.pairs_concat h.discipline.latched fun _ _ _ _ _ _ _ => hy }

/-- A step that sends a qualified sample. -/
lemma Fed.send {y : ClockStep} {message : Message} {sample : ChronySample}
    (h : Fed arguments fl approvals tr r)
    (htracks : Tracks arguments fl approvals (y.event :: pastOf tr) y.post)
    (hevent : y.event = .receive message) (hy : y.output = some sample)
    (hsample : FedSample arguments fl approvals (pastOf tr) r message sample)
    (houtdated : ¬ OutdatedAgreement arguments fl approvals (pastOf tr) message)
    (hfeed : y.post.lastFeedMonotonicNs = (readClockPair message.reads).monotonicNs) :
    Fed arguments fl approvals (tr ++ [y]) y.post where
  tracks := pastOf_concat tr y ▸ htracks
  lastFeed := by
    intro l x m hsplit hx hm other hother
    rcases Machine.concat_eq_append_cons_iff.mp hsplit with ⟨-, rfl, -⟩ | ⟨m', -, rfl⟩
    · rw [hevent] at hother
      cases hother
      exact hfeed
    · rw [hm y (by simp)] at hy
      cases hy
  discipline := {
    qualified := by
      refine Machine.splits_concat h.discipline.qualified fun sent hsent => ?_
      rw [hy] at hsent
      cases hsent
      exact ⟨message, hevent, hsample.qualified, fun htopic => hsample.agrees htopic houtdated⟩
    spaced := by
      refine Machine.pairs_concat h.discipline.spaced ?_
      intro l x m hsplit hx _ hm earlier later hearlier hlater
      rw [hevent] at hlater
      cases hlater
      rw [← h.lastFeed l x m hsplit hx hm earlier hearlier]
      exact hsample.interval
    latched := by
      refine Machine.pairs_concat h.discipline.latched ?_
      intro l x m hsplit latching hlatching hlatch
      have hunlatched := hsample.qualified.unlatched
      rw [hsplit, pastOf_split, hlatching] at hunlatched
      exact absurd hlatch hunlatched.2.split }

/-- **The clock reference feeds only qualified samples**, in every run in which no fallback sample
agrees with a primary offset from before a step of the local clock. -/
theorem feedDiscipline_of_current (arguments : Arguments) (fl : ℚ → ℚ) (approvals : Approvals)
    (hmode : arguments.mode = .feedChrony) (events : List ClockEvent)
    (hcurrent : ∀ l x r, (clockRef arguments fl approvals).trace (ClockRef.init arguments) events =
      l ++ x :: r → ∀ message, x.event = .receive message →
        ¬ OutdatedAgreement arguments fl approvals (pastOf l) message) :
    FeedDiscipline arguments fl approvals
      ((clockRef arguments fl approvals).trace (ClockRef.init arguments) events) := by
  refine ((clockRef arguments fl approvals).guarded_induction
    (motive := Fed arguments fl approvals) ?_ ?_ events hcurrent).discipline
  · exact ⟨tracks_init, by simp, ⟨by simp, by simp, by simp⟩⟩
  · intro tr r event hcurrent h
    cases event with
    | refresh publishers => exact h.silent (h.tracks.refresh hmode publishers) rfl (by
        show (r.refreshGraphAuthority arguments approvals publishers).lastFeedMonotonicNs = _
        unfold ClockRef.refreshGraphAuthority
        split <;> rfl)
    | receive message =>
      obtain ⟨htracks, ⟨hnone, hfeed⟩ | ⟨sample, hsample, hfed, hfeed⟩⟩ :=
        h.tracks.callback hmode message
      · exact h.silent htracks hnone hfeed
      · exact h.send htracks rfl hsample hfed (hcurrent message rfl) hfeed

end Run

/-! ## Two runs -/

def approvedGid : Gid := List.replicate 16 7

/-- The defaults of the argument parser, with the shortest warm-up. -/
def shortWarmup : Arguments where
  mode := .feedChrony
  warmupSamples := 10
  windowSamples := 10
  maxJitterMs := 20
  maxAbsoluteDriftPpm := 500
  maxFeedHz := 10
  primaryStaleSeconds := 1
  fallbackAgreementMs := 20
  maxSourceJumpMs := 250

def approvedGraph : ClockEvent := .refresh fun _ => [approvedGid]

/-- A message with its stamp and its receipt times in milliseconds. -/
def messageAt (topic : Topic) (sourceMs realtimeMs monotonicMs : ℤ) : Message :=
  ⟨topic, ⟨sourceMs / 1000, sourceMs % 1000 * 1000000⟩,
    ⟨monotonicMs * 1000000, realtimeMs * 1000000, monotonicMs * 1000000⟩⟩

/-- Messages of one topic every tenth of a second, without an offset. -/
def messagesFrom (topic : Topic) (realtimeMs monotonicMs : ℤ) (count : ℕ) : List ClockEvent :=
  (List.range count).map fun (index : ℕ) => .receive (messageAt topic
    (realtimeMs + 100 * index) (realtimeMs + 100 * index) (monotonicMs + 100 * index))

/-- Ten samples of the primary topic feed chrony. -/
theorem feedDiscipline_primary :
    FeedDiscipline shortWarmup id (fun _ => some approvedGid)
      ((clockRef shortWarmup id fun _ => some approvedGid).trace (.init shortWarmup)
        (approvedGraph :: messagesFrom .primary 1000000 1000 10)) ∧
      ((clockRef shortWarmup id fun _ => some approvedGid).trace (.init shortWarmup)
        (approvedGraph :: messagesFrom .primary 1000000 1000 10)).map (·.output) =
          List.replicate 10 none ++ [some ⟨1000900000000, 1000900000000⟩] := by
  refine ⟨feedDiscipline_of_current shortWarmup id _ rfl _ ?_, by decide +kernel⟩
  intro l x r hsplit message hmessage houtdated
  have hmem : x.event ∈ approvedGraph :: messagesFrom .primary 1000000 1000 10 := by
    rw [← Machine.map_event_trace (clockRef shortWarmup id fun _ => some approvedGid)
      (.init shortWarmup) (approvedGraph :: messagesFrom .primary 1000000 1000 10), hsplit]
    simp
  rw [hmessage] at hmem
  have htopic : message.topic = .primary := by
    simp only [approvedGraph, messagesFrom, List.mem_cons, reduceCtorEq, List.mem_map,
      ClockEvent.receive.injEq, false_or] at hmem
    obtain ⟨index, -, rfl⟩ := hmem
    rfl
  rw [houtdated.topic] at htopic
  cases htopic

/-- After a primary sample, the local clock is stepped while only the fallback is received. -/
def steppedRun : List ClockEvent :=
  approvedGraph :: .receive (messageAt .primary 1000000 1000000 1000) ::
    messagesFrom .fallback 1002100 3000 9

/-- A fallback sample is fed although the primary topic has not been measured since the step. -/
theorem not_feedDiscipline_steppedRun :
    ¬ FeedDiscipline shortWarmup id (fun _ => some approvedGid)
      ((clockRef shortWarmup id fun _ => some approvedGid).trace (.init shortWarmup)
        (steppedRun ++ [.receive (messageAt .fallback 1003000 1003000 3900)])) := by
  intro h
  obtain ⟨message, hmessage, -, hagrees⟩ := h.qualified _ _ []
    (Machine.trace_concat _ _ _ _) ⟨1003000000000, 1003000000000⟩ (by decide +kernel)
  obtain rfl : messageAt .fallback 1003000 1003000 3900 = message := by
    cases hmessage
    rfl
  obtain ⟨primary, hprimary, -⟩ := hagrees rfl
  have hpast : pastOf ((clockRef shortWarmup id fun _ => some approvedGid).trace
      (.init shortWarmup) steppedRun) = steppedRun.reverse := by
    rw [pastOf, Machine.map_event_trace]
  have hnone : samplesSinceStep (shortWarmup.maxSourceJumpNs id) .primary
      (.receive (messageAt .fallback 1003000 1003000 3900) :: steppedRun.reverse) = [] := by
    decide +kernel
  rw [hpast, hnone] at hprimary
  cases hprimary

end UnitreeGo2.TimeSync
