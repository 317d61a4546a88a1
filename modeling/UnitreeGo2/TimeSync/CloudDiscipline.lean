import UnitreeGo2.TimeSync.CloudRelay
import UnitreeGo2.Lib.PyValue

/-!
# What the cloud relay publishes

Every published cloud is fresh at two clock readings, carries the frozen correction of its own
stamp, and keeps its distance from the clouds published before it.
-/

namespace UnitreeGo2.TimeSync

variable {P : Type}

abbrev CloudStep (P : Type) := Machine.Step CloudRelay (CloudEvent P) (CloudExit P)

/-! ## Publications and samples -/

/-- The callback that handles a cloud. -/
def Handles (x : CloudStep P) (e : CloudCallback P) : Prop := x.event = .cloud e

/-- A cloud that is published, with the readings it was judged by. -/
structure Publication (P : Type) where
  callback : CloudCallback P
  clocks : ReceiptClockPair
  publishClocks : ReceiptClockPair
  sourceNs : ℤ
  correctedNs : ℤ
  output : PointCloud2 P

/-- A cloud judged fresh at its receipt, after a check of the parent contract. -/
structure FreshAtReceipt (contract : CloudCorrectionContract) (e : CloudCallback P)
    (clocks : ReceiptClockPair) (sourceNs correctedNs : ℤ) : Prop where
  checked : e.guardBefore = none
  read : CloudRelay.receiptClocks contract e.receiptReads = .ok clocks
  source : sourceStampNs e.message.stamp = .ok sourceNs
  corrected : contract.model sourceNs = .ok correctedNs
  fresh : contract.FreshAge (clocks.realtimeNs - correctedNs)

/-- A step that publishes a cloud, as the relay must. -/
structure Publishes (contract : CloudCorrectionContract) (x : CloudStep P) (p : Publication P) :
    Prop where
  handles : Handles x p.callback
  exit : x.output = .published p.output
  receipt : FreshAtReceipt contract p.callback p.clocks p.sourceNs p.correctedNs
  /-- The cloud is the message with the corrected stamp. -/
  output : p.output.payload = p.callback.message.payload ∧
    sourceStampNs p.output.stamp = .ok p.correctedNs
  checked : p.callback.guardAfter = none
  reread : CloudRelay.receiptClocks contract p.callback.publishReads = .ok p.publishClocks
  fresh : contract.FreshAge (p.publishClocks.realtimeNs - p.correctedNs)

/-- A cloud that the relay, without a fault, judged fresh at its receipt. -/
def FreshSample (contract : CloudCorrectionContract) (x : CloudStep P) : Prop :=
  x.pre.faultReason = none ∧ ∃ e clocks sourceNs correctedNs, Handles x e ∧
    FreshAtReceipt contract e clocks sourceNs correctedNs

/-- Two fresh samples with no other cloud between them. -/
def FreshPair (contract : CloudCorrectionContract) (m : List (CloudStep P)) : Prop :=
  ∃ m₁ z m₂ z' m₃, m = m₁ ++ z :: (m₂ ++ z' :: m₃) ∧ FreshSample contract z ∧
    FreshSample contract z' ∧ ∀ w ∈ m₂, ∀ e, ¬ Handles w e

/-- **The publication discipline of the relay**, for the steps of a run. -/
structure CloudDiscipline (contract : CloudCorrectionContract) (tr : List (CloudStep P)) :
    Prop where
  published : ∀ x ∈ tr, ∀ output, x.output = .published output →
    ∃ p, p.output = output ∧ Publishes contract x p
  /-- Publications keep their distance on the clock they were admitted by. -/
  spaced : ∀ l x m y r, tr = l ++ x :: (m ++ y :: r) → ∀ p q, Publishes contract x p →
    Publishes contract y q → p.clocks.monotonicNs + contract.publishPeriodNs ≤ q.clocks.monotonicNs
  /-- After a stale drop, two consecutive clouds are fresh before one is published. -/
  recovered : contract.profile = .nomotion → ∀ l x m y r, tr = l ++ x :: (m ++ y :: r) →
    x.output = .droppedStale → ∀ output, y.output = .published output →
      FreshPair contract (m ++ [y])
  ordered : contract.profile = .motion → ∀ l x m y r, tr = l ++ x :: (m ++ y :: r) →
    ∀ p q, Publishes contract x p → Publishes contract y q →
      p.sourceNs < q.sourceNs ∧ p.correctedNs < q.correctedNs
  /-- A fault is for good, and nothing is published after it. -/
  silent : ∀ l x m y r, tr = l ++ x :: (m ++ y :: r) → ∀ reason,
    x.post.faultReason = some reason →
      y.post.faultReason = some reason ∧ ∀ output, y.output ≠ .published output

/-! ## Judgements -/

section Judgements

variable {contract : CloudCorrectionContract} {sourceNs receiptNs correctedNs : ℤ}

/-- A judgement returns the frozen correction, of a stamp whose age is in the window. -/
lemma correctedStampNs_eq_ok
    (h : contract.correctedStampNs sourceNs receiptNs = .ok correctedNs) :
    contract.model sourceNs = .ok correctedNs ∧ contract.FreshAge (receiptNs - correctedNs) := by
  unfold CloudCorrectionContract.correctedStampNs at h
  obtain ⟨corrected, hmodel, h⟩ := Except.bind_eq_ok_iff.mp h
  dsimp only at h
  split at h
  · cases h
  rename_i hfuture
  split at h
  · cases h
  rename_i hminimum
  split at h
  · split at h <;> cases h
  rename_i hmaximum
  cases h
  refine ⟨hmodel, ?_, not_lt.mp hmaximum⟩
  unfold CloudCorrectionContract.leastCorrectedAgeNs
  cases hleast : contract.minimumCorrectedAgeNs with
  | none => exact not_lt.mp hfuture
  | some minimumNs =>
    rw [hleast] at hminimum
    simp only [Option.any_some, decide_eq_true_eq, not_lt] at hminimum
    exact max_le (not_lt.mp hfuture) hminimum

lemma correctedMessageCopy_eq_ok {message output : PointCloud2 P} {copyFault : Option Raised}
    (h : correctedMessageCopy message copyFault correctedNs = .ok output) :
    output.payload = message.payload ∧ sourceStampNs output.stamp = .ok correctedNs := by
  cases copyFault with
  | some raised => cases h
  | none =>
    unfold correctedMessageCopy at h
    cases hparts : correctedStampParts correctedNs 0 with
    | error raised =>
      rw [hparts] at h
      cases h
    | ok stamp =>
      rw [hparts] at h
      cases h
      exact ⟨rfl, sourceStampNs_of_correctedStampParts hparts⟩

end Judgements

/-! ## One callback -/

/-- The limiter has admitted a reading, or a later one. -/
def PublishRateLimiter.Covers (limiter : PublishRateLimiter) (monotonicNs : ℤ) : Prop :=
  ∃ last, limiter.lastPublishMonotonicNs = some last ∧ monotonicNs ≤ last

/-- The guard has seen a pair of stamps, or later ones. -/
def CloudStampSequenceGuard.Covers (guard : CloudStampSequenceGuard)
    (sourceNs correctedNs : ℤ) : Prop :=
  ∃ lastSourceNs lastCorrectedNs, guard.lastSourceNs = some lastSourceNs ∧
    guard.lastCorrectedNs = some lastCorrectedNs ∧ sourceNs ≤ lastSourceNs ∧
    correctedNs ≤ lastCorrectedNs

/-- How the recovery gate receives a fresh cloud. -/
def CloudRelay.gate (contract : CloudCorrectionContract) (r : CloudRelay) :
    Bool × FreshCloudRecoveryGate :=
  if contract.requireFreshRecovery then r.recovery.allowFresh else (true, r.recovery)

/-- The relay has let a fresh cloud through its gate and taken its stamps. -/
structure Ordered (contract : CloudCorrectionContract) (r : CloudRelay)
    (sourceNs correctedNs : ℤ) (a : CloudRelay) : Prop where
  fault : a.faultReason = r.faultReason
  gate : r.gate contract = (true, a.recovery)
  ordered : contract.profile = .motion → ∀ earlierSourceNs earlierCorrectedNs,
    r.stampSequence.Covers earlierSourceNs earlierCorrectedNs →
      earlierSourceNs < sourceNs ∧ earlierCorrectedNs < correctedNs
  sequence : contract.profile = .motion → a.stampSequence = ⟨some sourceNs, some correctedNs⟩

/-- The relay has taken a cloud for publication. -/
structure Admitted (contract : CloudCorrectionContract) (r : CloudRelay)
    (clocks : ReceiptClockPair) (sourceNs correctedNs : ℤ) (a : CloudRelay) : Prop
    extends Ordered contract r sourceNs correctedNs a where
  spaced : ∀ earlierNs, r.limiter.Covers earlierNs →
    earlierNs + r.limiter.periodNs ≤ clocks.monotonicNs
  limiter : a.limiter = { r.limiter with lastPublishMonotonicNs := some clocks.monotonicNs }

/-- **What a callback does** to a relay without a fault. -/
inductive CallbackStep (contract : CloudCorrectionContract) (r : CloudRelay)
    (e : CloudCallback P) : CloudExit P × CloudRelay → Prop
  | failed {r' : CloudRelay} (h : r'.faultReason.isSome) : CallbackStep contract r e (.failed, r')
  | stale {r' : CloudRelay} (dropped : r.dropStale contract = ((.droppedStale : CloudExit P), r')) :
      CallbackStep contract r e (.droppedStale, r')
  | recovering {clocks : ReceiptClockPair} {sourceNs correctedNs : ℤ}
      {recovery : FreshCloudRecoveryGate}
      (fresh : FreshAtReceipt contract e clocks sourceNs correctedNs)
      (gate : r.gate contract = (false, recovery)) :
      CallbackStep contract r e (.recovering, { r with recovery })
  | rateLimited {clocks : ReceiptClockPair} {sourceNs correctedNs : ℤ} {a : CloudRelay}
      (fresh : FreshAtReceipt contract e clocks sourceNs correctedNs)
      (ordered : Ordered contract r sourceNs correctedNs a) (limiter : a.limiter = r.limiter) :
      CallbackStep contract r e (.rateLimited, a)
  /-- The cloud has become stale while it was copied. -/
  | staleCopy {clocks : ReceiptClockPair} {sourceNs correctedNs : ℤ} {a r' : CloudRelay}
      (fresh : FreshAtReceipt contract e clocks sourceNs correctedNs)
      (admitted : Admitted contract r clocks sourceNs correctedNs a)
      (dropped : a.dropStale contract = ((.droppedStale : CloudExit P), r')) :
      CallbackStep contract r e (.droppedStale, r')
  | published {a r' : CloudRelay} {p : Publication P} (callback : p.callback = e)
      (fresh : FreshAtReceipt contract e p.clocks p.sourceNs p.correctedNs)
      (admitted : Admitted contract r p.clocks p.sourceNs p.correctedNs a)
      (output : p.output.payload = e.message.payload ∧
        sourceStampNs p.output.stamp = .ok p.correctedNs)
      (checked : e.guardAfter = none)
      (reread : CloudRelay.receiptClocks contract e.publishReads = .ok p.publishClocks)
      (fresh' : contract.FreshAge (p.publishClocks.realtimeNs - p.correctedNs))
      (post : r'.faultReason.isSome ∨ r' = a) :
      CallbackStep contract r e (.published p.output, r')

section Callback

variable {contract : CloudCorrectionContract} {r a : CloudRelay} {e : CloudCallback P}
  {clocks : ReceiptClockPair} {sourceNs correctedNs : ℤ}

lemma latchFault_isSome (r : CloudRelay) (reason : String) :
    (r.latchFault contract reason).faultReason.isSome := by
  unfold CloudRelay.latchFault
  split
  · assumption
  · rfl

lemma CallbackStep.fail (r' : CloudRelay) (raised : Raised) :
    CallbackStep contract r e (r'.fail contract raised) :=
  .failed (latchFault_isSome r' _)

/-- The limiter admits a reading that is a period later than those before. -/
lemma allow_eq_ok {limiter limiter' : PublishRateLimiter} {monotonicNs : ℤ} {allowed : Bool}
    (h : limiter.allow monotonicNs = .ok (allowed, limiter')) :
    allowed = false ∧ limiter' = limiter ∨ allowed = true ∧
      limiter' = { limiter with lastPublishMonotonicNs := some monotonicNs } ∧
      ∀ earlierNs, limiter.Covers earlierNs → earlierNs + limiter.periodNs ≤ monotonicNs := by
  unfold PublishRateLimiter.allow at h
  split at h
  · cases h
  cases hlast : limiter.lastPublishMonotonicNs with
  | none =>
    rw [hlast] at h
    cases h
    refine .inr ⟨rfl, rfl, ?_⟩
    rintro earlierNs ⟨last, hsome, -⟩
    rw [hlast] at hsome
    cases hsome
  | some previous =>
    rw [hlast] at h
    dsimp only at h
    split at h
    · cases h
    split at h
    · cases h
      exact .inl ⟨rfl, rfl⟩
    · rename_i hperiod
      cases h
      refine .inr ⟨rfl, rfl, ?_⟩
      rintro earlierNs ⟨last, hsome, hle⟩
      rw [hlast] at hsome
      cases hsome
      omega

/-- The order guard takes stamps that are later than those before. -/
lemma observe_eq_ok {guard guard' : CloudStampSequenceGuard}
    (h : guard.observe sourceNs correctedNs = .ok guard') :
    guard' = ⟨some sourceNs, some correctedNs⟩ ∧ ∀ earlierSourceNs earlierCorrectedNs,
      guard.Covers earlierSourceNs earlierCorrectedNs →
        earlierSourceNs < sourceNs ∧ earlierCorrectedNs < correctedNs := by
  unfold CloudStampSequenceGuard.observe at h
  split at h
  · cases h
  split at h
  · cases h
  rename_i hsource
  split at h
  · cases h
  rename_i hcorrected
  cases h
  refine ⟨rfl, ?_⟩
  rintro earlierSourceNs earlierCorrectedNs ⟨lastSourceNs, lastCorrectedNs, hs, hc, hle, hle'⟩
  rw [hs] at hsource
  rw [hc] at hcorrected
  simp only [Option.any_some, decide_eq_true_eq, not_le] at hsource hcorrected
  exact ⟨hle.trans_lt hsource, hle'.trans_lt hcorrected⟩

/-- The second half of a callback, whose cloud has been admitted and copied. -/
lemma publishCopy_step (hfresh : FreshAtReceipt contract e clocks sourceNs correctedNs)
    (hadmitted : Admitted contract r clocks sourceNs correctedNs a) {output : PointCloud2 P}
    (houtput : correctedMessageCopy e.message e.copyFault correctedNs = .ok output) :
    CallbackStep contract r e (a.publishCopy contract e sourceNs correctedNs output) := by
  unfold CloudRelay.publishCopy
  split
  · exact .fail _ _
  rename_i hchecked
  split
  · exact .fail _ _
  rename_i publishClocks hreread
  split
  · exact .staleCopy hfresh hadmitted rfl
  · exact .fail _ _
  rename_i publishCorrectedNs hjudged
  split
  · exact .fail _ _
  rename_i hsame
  rw [not_not.mp hsame] at hjudged
  have hpublished : ∀ r' : CloudRelay, r'.faultReason.isSome ∨ r' = a →
      CallbackStep contract r e (.published output, r') := fun r' hpost =>
    .published (p := ⟨e, clocks, publishClocks, sourceNs, correctedNs, output⟩) rfl hfresh
      hadmitted (correctedMessageCopy_eq_ok houtput) hchecked hreread
      (correctedStampNs_eq_ok hjudged).2 hpost
  split
  · exact hpublished _ (.inl (latchFault_isSome a _))
  · exact hpublished _ (.inr rfl)

/-- The first half, from the gate on. -/
lemma admit_step (hfresh : FreshAtReceipt contract e clocks sourceNs correctedNs)
    {recovery : FreshCloudRecoveryGate} (hgate : r.gate contract = (true, recovery)) :
    CallbackStep contract r e
      ({ r with recovery }.passOn contract e clocks sourceNs correctedNs) := by
  unfold CloudRelay.passOn
  dsimp only
  split
  · exact .fail _ _
  rename_i stampSequence hsequence
  have hobserved (hprofile : contract.profile = .motion) :
      r.stampSequence.observe sourceNs correctedNs = .ok stampSequence := by
    rw [hprofile] at hsequence
    exact hsequence
  have hordered (limiter : PublishRateLimiter) : Ordered contract r sourceNs correctedNs
      { r with recovery, stampSequence, limiter } :=
    ⟨rfl, hgate, fun hprofile => (observe_eq_ok (hobserved hprofile)).2,
      fun hprofile => (observe_eq_ok (hobserved hprofile)).1⟩
  split
  · exact .fail _ _
  · rename_i limiter hallow
    rcases allow_eq_ok hallow with ⟨-, rfl⟩ | ⟨hallowed, -⟩
    · exact .rateLimited hfresh (hordered _) rfl
    · cases hallowed
  · rename_i limiter hallow
    rcases allow_eq_ok hallow with ⟨hallowed, -⟩ | ⟨-, hlimiter, hspaced⟩
    · cases hallowed
    split
    · exact .fail _ _
    · rename_i output houtput
      exact publishCopy_step hfresh ⟨hordered limiter, hspaced, hlimiter⟩ houtput

/-- **A callback of a relay without a fault ends in one of six ways.** -/
theorem cloud_step (hfault : r.faultReason = none) :
    CallbackStep contract r e (r.cloud contract e) := by
  unfold CloudRelay.cloud
  rw [if_neg (by simp [hfault])]
  split
  · exact .fail _ _
  rename_i hchecked
  split
  · exact .fail _ _
  rename_i clocks hread
  split
  · exact .fail _ _
  rename_i sourceNs hsource
  split
  · exact .stale rfl
  · exact .fail _ _
  rename_i correctedNs hjudged
  obtain ⟨hmodel, hage⟩ := correctedStampNs_eq_ok hjudged
  have hfresh : FreshAtReceipt contract e clocks sourceNs correctedNs :=
    ⟨hchecked, hread, hsource, hmodel, hage⟩
  show CallbackStep contract r e
    (if (r.gate contract).1 then
      { r with recovery := (r.gate contract).2 }.passOn contract e clocks sourceNs correctedNs
    else (.recovering, { r with recovery := (r.gate contract).2 }))
  split
  · rename_i hallowed
    exact admit_step hfresh (Prod.ext hallowed rfl)
  · rename_i hheld
    exact .recovering hfresh (Prod.ext (Bool.not_eq_true _ ▸ hheld) rfl)

end Callback

/-! ## Recovery -/

section Recovery

variable {contract : CloudCorrectionContract} {tr m : List (CloudStep P)} {x y : CloudStep P}

/-- The last cloud was a fresh sample. -/
def FreshLast (contract : CloudCorrectionContract) (m : List (CloudStep P)) : Prop :=
  ∃ m₁ z m₂, m = m₁ ++ z :: m₂ ∧ FreshSample contract z ∧ ∀ w ∈ m₂, ∀ e, ¬ Handles w e

/-- Every cloud that was dropped as stale is followed by such steps. -/
def SinceStale (Q : List (CloudStep P) → Prop) (tr : List (CloudStep P)) : Prop :=
  ∀ l x m, tr = l ++ x :: m → x.output = .droppedStale → Q m

lemma FreshPair.concat (h : FreshPair contract m) : FreshPair contract (m ++ [y]) := by
  obtain ⟨m₁, z, m₂, z', m₃, rfl, hz, hz', hm⟩ := h
  exact ⟨m₁, z, m₂, z', m₃ ++ [y], by simp, hz, hz', hm⟩

lemma FreshLast.concat (h : FreshLast contract m) (hy : ∀ e, ¬ Handles y e) :
    FreshLast contract (m ++ [y]) := by
  obtain ⟨m₁, z, m₂, rfl, hz, hm⟩ := h
  refine ⟨m₁, z, m₂ ++ [y], by simp, hz, fun w hw => ?_⟩
  rcases List.mem_append.mp hw with hw | hw
  · exact hm w hw
  · rw [List.mem_singleton.mp hw]
    exact hy

lemma FreshLast.pair (h : FreshLast contract m) (hy : FreshSample contract y) :
    FreshPair contract (m ++ [y]) := by
  obtain ⟨m₁, z, m₂, rfl, hz, hm⟩ := h
  exact ⟨m₁, z, m₂, y, [], by simp, hz, hy, hm⟩

lemma freshLast_concat (hy : FreshSample contract y) : FreshLast contract (m ++ [y]) :=
  ⟨m, y, [], rfl, hy, by simp⟩

lemma SinceStale.concat {Q R : List (CloudStep P) → Prop} (h : SinceStale Q tr)
    (hQ : ∀ m, Q m → R (m ++ [y])) (hy : y.output ≠ .droppedStale) : SinceStale R (tr ++ [y]) := by
  intro l x m hsplit hx
  rcases Machine.concat_eq_append_cons_iff.mp hsplit with ⟨-, rfl, -⟩ | ⟨m', hinit, rfl⟩
  · exact absurd hx hy
  · exact hQ m' (h l x m' hinit hx)

/-- What the recovery gate knows about the clouds so far. -/
structure GateInv (contract : CloudCorrectionContract) (tr : List (CloudStep P))
    (gate : FreshCloudRecoveryGate) : Prop where
  required : gate.requiredFreshSamples = 2
  inactive : gate.active = false → SinceStale (FreshPair contract) tr
  waiting : gate.active = true →
    gate.freshSamples = 0 ∨ gate.freshSamples = 1 ∧ SinceStale (FreshLast contract) tr

/-- A step that handles no cloud. -/
lemma GateInv.poll {gate : FreshCloudRecoveryGate} (h : GateInv contract tr gate)
    (hy : ∀ e, ¬ Handles y e) (hexit : y.output ≠ .droppedStale) :
    GateInv contract (tr ++ [y]) gate where
  required := h.required
  inactive hinactive := (h.inactive hinactive).concat (fun _ hm => hm.concat) hexit
  waiting hactive :=
    (h.waiting hactive).imp id fun hone => ⟨hone.1, hone.2.concat (fun _ hm => hm.concat hy) hexit⟩

/-- A stale cloud. -/
lemma gateInv_observeStale {gate : FreshCloudRecoveryGate}
    (hrequired : gate.requiredFreshSamples = 2) :
    GateInv contract tr gate.observeStale where
  required := hrequired
  inactive hinactive := by cases hinactive
  waiting _ := .inl rfl

/-- A fresh cloud that has to wait for another one. -/
lemma GateInv.held {gate gate' : FreshCloudRecoveryGate} (h : GateInv contract tr gate)
    (hgate : gate.allowFresh = (false, gate')) (hy : FreshSample contract y)
    (hexit : y.output ≠ .droppedStale) : GateInv contract (tr ++ [y]) gate' := by
  unfold FreshCloudRecoveryGate.allowFresh at hgate
  split at hgate
  · cases hgate
  split at hgate
  · rename_i hactive hcount
    cases hgate
    rw [h.required] at hcount
    refine ⟨h.required, fun hinactive => absurd hinactive hactive, fun _ => .inr ⟨by
      dsimp only
      omega, ?_⟩⟩
    intro l x m hsplit hx
    rcases Machine.concat_eq_append_cons_iff.mp hsplit with ⟨-, rfl, -⟩ | ⟨m', -, rfl⟩
    · exact absurd hx hexit
    · exact freshLast_concat hy
  · cases hgate

/-- A fresh cloud that is let through ends the recovery. -/
lemma GateInv.passed {gate gate' : FreshCloudRecoveryGate} (h : GateInv contract tr gate)
    (hgate : gate.allowFresh = (true, gate')) (hy : FreshSample contract y) :
    gate'.requiredFreshSamples = 2 ∧ gate'.active = false ∧
      ∀ l x m, tr = l ++ x :: m → x.output = .droppedStale → FreshPair contract (m ++ [y]) := by
  unfold FreshCloudRecoveryGate.allowFresh at hgate
  split at hgate
  · rename_i hinactive
    cases hgate
    exact ⟨h.required, hinactive,
      fun l x m hsplit hx => (h.inactive hinactive l x m hsplit hx).concat⟩
  split at hgate
  · cases hgate
  · rename_i hactive hcount
    cases hgate
    rw [h.required] at hcount
    refine ⟨h.required, rfl, fun l x m hsplit hx => ?_⟩
    rcases h.waiting (Bool.of_not_eq_false hactive) with hnone | ⟨-, hlast⟩
    · omega
    · exact (hlast l x m hsplit hx).pair hy

end Recovery

/-! ## Runs -/

/-- What a relay without a fault remembers of its publications. -/
structure RelayInv (contract : CloudCorrectionContract) (tr : List (CloudStep P))
    (r : CloudRelay) : Prop where
  period : r.limiter.periodNs = contract.publishPeriodNs
  limiter : ∀ x ∈ tr, ∀ p, Publishes contract x p → r.limiter.Covers p.clocks.monotonicNs
  sequence : contract.profile = .motion → ∀ x ∈ tr, ∀ p, Publishes contract x p →
    r.stampSequence.Covers p.sourceNs p.correctedNs
  recovery : contract.profile = .nomotion → GateInv contract tr r.recovery

section Runs

variable {contract : CloudCorrectionContract} {tr : List (CloudStep P)} {r r' a : CloudRelay}
  {e : CloudCallback P} {clocks : ReceiptClockPair} {sourceNs correctedNs : ℤ}
  {x : CloudStep P} {p : Publication P}

/-- Only one publication describes a step. -/
lemma Publishes.clocks_eq (h : Publishes contract x p) (hx : Handles x e)
    (hfresh : FreshAtReceipt contract e clocks sourceNs correctedNs) :
    p.clocks = clocks ∧ p.sourceNs = sourceNs ∧ p.correctedNs = correctedNs := by
  have hcallback : p.callback = e := by
    have hevent := h.handles.symm.trans hx
    cases hevent
    rfl
  have hreceipt := h.receipt
  rw [hcallback] at hreceipt
  have hclocks := hreceipt.read.symm.trans hfresh.read
  have hsource := hreceipt.source.symm.trans hfresh.source
  obtain rfl : p.clocks = clocks := Except.ok.inj hclocks
  obtain rfl : p.sourceNs = sourceNs := Except.ok.inj hsource
  have hcorrected := hreceipt.corrected.symm.trans hfresh.corrected
  exact ⟨rfl, rfl, Except.ok.inj hcorrected⟩

lemma Ordered.covers (h : Ordered contract r sourceNs correctedNs a)
    (hmotion : contract.profile = .motion) {s c : ℤ} (hs : r.stampSequence.Covers s c) :
    a.stampSequence.Covers s c := by
  obtain ⟨hsource, hcorrected⟩ := h.ordered hmotion s c hs
  rw [h.sequence hmotion]
  exact ⟨_, _, rfl, rfl, hsource.le, hcorrected.le⟩

lemma Admitted.covers (h : Admitted contract r clocks sourceNs correctedNs a)
    (hperiod : 0 < r.limiter.periodNs) {ns : ℤ} (hns : r.limiter.Covers ns) :
    a.limiter.Covers ns := by
  have hspaced := h.spaced ns hns
  rw [h.limiter]
  exact ⟨_, rfl, by omega⟩

/-- The gate has let a fresh cloud through. -/
lemma Ordered.passed (h : Ordered contract r sourceNs correctedNs a)
    (hrecovery : contract.requireFreshRecovery = true) :
    r.recovery.allowFresh = (true, a.recovery) := by
  have hgate := h.gate
  unfold CloudRelay.gate at hgate
  rwa [if_pos hrecovery] at hgate

lemma Ordered.gateInv (h : Ordered contract r sourceNs correctedNs a)
    (hrecovery : contract.requireFreshRecovery = true) (hinv : GateInv contract tr r.recovery)
    (hx : FreshSample contract x) (hexit : x.output ≠ .droppedStale) :
    GateInv contract (tr ++ [x]) a.recovery := by
  obtain ⟨hrequired, hinactive, hpair⟩ := hinv.passed (h.passed hrecovery) hx
  refine ⟨hrequired, fun _ => ?_, fun hactive => by rw [hinactive] at hactive; cases hactive⟩
  intro l z m hsplit hz
  rcases Machine.concat_eq_append_cons_iff.mp hsplit with ⟨-, rfl, -⟩ | ⟨m', hinit, rfl⟩
  · exact absurd hz hexit
  · exact hpair l z m' hinit hz

lemma dropStale_fields (h : a.dropStale contract = ((.droppedStale : CloudExit P), r')) :
    r'.limiter = a.limiter ∧ r'.stampSequence = a.stampSequence ∧
      (contract.requireFreshRecovery = true → r'.recovery = a.recovery.observeStale) := by
  unfold CloudRelay.dropStale at h
  split at h
  · cases h
    exact ⟨rfl, rfl, fun _ => rfl⟩
  · rename_i hrecovery
    cases h
    exact ⟨rfl, rfl, fun htrue => absurd htrue hrecovery⟩

lemma RelayInv.extend (h : RelayInv contract tr r)
    (hperiod : r'.limiter.periodNs = r.limiter.periodNs)
    (hlimiter : ∀ ns, r.limiter.Covers ns → r'.limiter.Covers ns)
    (hsequence : contract.profile = .motion →
      ∀ s c, r.stampSequence.Covers s c → r'.stampSequence.Covers s c)
    (hx : ∀ p, Publishes contract x p → r'.limiter.Covers p.clocks.monotonicNs ∧
      (contract.profile = .motion → r'.stampSequence.Covers p.sourceNs p.correctedNs))
    (hgate : contract.profile = .nomotion → GateInv contract (tr ++ [x]) r'.recovery) :
    RelayInv contract (tr ++ [x]) r' where
  period := hperiod.trans h.period
  limiter := by
    intro z hz p hp
    rcases List.mem_append.mp hz with hz | hz
    · exact hlimiter _ (h.limiter z hz p hp)
    · rw [List.mem_singleton.mp hz] at hp
      exact (hx p hp).1
  sequence := by
    intro hmotion z hz p hp
    rcases List.mem_append.mp hz with hz | hz
    · exact hsequence hmotion _ _ (h.sequence hmotion z hz p hp)
    · rw [List.mem_singleton.mp hz] at hp
      exact (hx p hp).2 hmotion
  recovery := hgate

/-- What a step adds to the history of a relay without a fault. -/
structure StepFacts (contract : CloudCorrectionContract) (tr : List (CloudStep P))
    (y : CloudStep P) : Prop where
  published : ∀ output, y.output = .published output → ∃ p, p.output = output ∧
    Publishes contract y p
  spaced : ∀ x ∈ tr, ∀ p q, Publishes contract x p → Publishes contract y q →
    p.clocks.monotonicNs + contract.publishPeriodNs ≤ q.clocks.monotonicNs
  recovered : contract.profile = .nomotion → ∀ l x m, tr = l ++ x :: m →
    x.output = .droppedStale → ∀ output, y.output = .published output →
      FreshPair contract (m ++ [y])
  ordered : contract.profile = .motion → ∀ x ∈ tr, ∀ p q, Publishes contract x p →
    Publishes contract y q → p.sourceNs < q.sourceNs ∧ p.correctedNs < q.correctedNs
  inv : y.post.faultReason = none → RelayInv contract (tr ++ [y]) y.post

/-- A step that publishes nothing. -/
lemma StepFacts.of_unpublished {y : CloudStep P} (hy : ∀ output, y.output ≠ .published output)
    (hinv : y.post.faultReason = none → RelayInv contract (tr ++ [y]) y.post) :
    StepFacts contract tr y where
  published output houtput := absurd houtput (hy output)
  spaced _ _ _ q _ hq := absurd hq.exit (hy q.output)
  recovered _ _ _ _ _ _ output houtput := absurd houtput (hy output)
  ordered _ _ _ _ q _ hq := absurd hq.exit (hy q.output)
  inv := hinv

lemma pollGuard_step (h : RelayInv contract tr r) (stopRequested : Bool) (guard : Option Raised) :
    StepFacts contract tr ((cloudRelay contract).stepAt r
      (.pollGuard stopRequested guard : CloudEvent P)) := by
  refine .of_unpublished (fun output houtput => by cases houtput) fun hfault => ?_
  have hsame : (r.pollGuard contract stopRequested guard).limiter = r.limiter ∧
      (r.pollGuard contract stopRequested guard).stampSequence = r.stampSequence ∧
      (r.pollGuard contract stopRequested guard).recovery = r.recovery := by
    unfold CloudRelay.pollGuard
    split
    · exact ⟨rfl, rfl, rfl⟩
    · cases guard with
      | none => exact ⟨rfl, rfl, rfl⟩
      | some raised =>
        unfold CloudRelay.latchFault
        dsimp only
        split <;> exact ⟨rfl, rfl, rfl⟩
  obtain ⟨hlimiter, hsequence, hrecovery⟩ := hsame
  refine h.extend (congrArg PublishRateLimiter.periodNs hlimiter) (fun ns hns => ?_)
    (fun _ s c hs => ?_) (fun p hp => by cases hp.exit) fun hnomotion => ?_
  · show PublishRateLimiter.Covers (r.pollGuard contract stopRequested guard).limiter ns
    rwa [hlimiter]
  · show CloudStampSequenceGuard.Covers (r.pollGuard contract stopRequested guard).stampSequence s c
    rwa [hsequence]
  · show GateInv contract _ (r.pollGuard contract stopRequested guard).recovery
    rw [hrecovery]
    exact (h.recovery hnomotion).poll (fun e he => by cases he) (fun hexit => by cases hexit)

/-- **What a callback adds to the history.** -/
theorem cloud_stepFacts (h : RelayInv contract tr r) (hfault : r.faultReason = none)
    (hperiod : 0 < contract.publishPeriodNs)
    (hrecovery : contract.profile = .nomotion → contract.requireFreshRecovery = true)
    (e : CloudCallback P) :
    StepFacts contract tr ((cloudRelay contract).stepAt r (.cloud e)) := by
  have hstep : CallbackStep contract r e (r.cloud contract e) := cloud_step hfault
  have hx : Handles ((cloudRelay contract).stepAt r (.cloud e)) e := rfl
  have hsample : ∀ clocks sourceNs correctedNs, FreshAtReceipt contract e clocks sourceNs
      correctedNs → FreshSample contract ((cloudRelay contract).stepAt r (.cloud e)) :=
    fun clocks sourceNs correctedNs hfresh => ⟨hfault, e, clocks, sourceNs, correctedNs, hx, hfresh⟩
  have hlimited : 0 < r.limiter.periodNs := by
    rw [h.period]
    exact hperiod
  obtain ⟨exit, r', hr⟩ : ∃ exit r', r.cloud contract e = (exit, r') := ⟨_, _, rfl⟩
  have hstepAt : (cloudRelay contract).stepAt r (.cloud e) = ⟨r, .cloud e, exit, r'⟩ := by
    show (⟨r, .cloud e, (r.cloud contract e).1, (r.cloud contract e).2⟩ : CloudStep P) = _
    rw [hr]
  rw [hr] at hstep
  rw [hstepAt] at hx hsample ⊢
  generalize hout : (exit, r') = out at hstep
  cases hstep with
  | failed hlatched =>
    cases hout
    refine .of_unpublished (fun output houtput => by cases houtput) fun hnone => ?_
    rw [show r'.faultReason = none from hnone] at hlatched
    cases hlatched
  | stale hdropped =>
    cases hout
    obtain ⟨hlimiter, hsequence, hstale⟩ := dropStale_fields hdropped
    refine .of_unpublished (fun output houtput => by cases houtput) fun _ => ?_
    refine h.extend (congrArg _ hlimiter) (fun _ hns => hlimiter ▸ hns)
      (fun _ _ _ hs => hsequence ▸ hs) (fun p hp => by cases hp.exit) fun hnomotion => ?_
    rw [hstale (hrecovery hnomotion)]
    exact gateInv_observeStale (h.recovery hnomotion).required
  | recovering hfresh hgate =>
    cases hout
    refine .of_unpublished (fun output houtput => by cases houtput) fun _ => ?_
    refine h.extend rfl (fun _ hns => hns) (fun _ _ _ hs => hs) (fun p hp => by cases hp.exit)
      fun hnomotion => ?_
    unfold CloudRelay.gate at hgate
    rw [if_pos (hrecovery hnomotion)] at hgate
    exact (h.recovery hnomotion).held hgate (hsample _ _ _ hfresh) (fun hexit => by cases hexit)
  | rateLimited hfresh hordered hlimiter =>
    cases hout
    refine .of_unpublished (fun output houtput => by cases houtput) fun _ => ?_
    refine h.extend (congrArg _ hlimiter) (fun _ hns => hlimiter ▸ hns)
      (fun hmotion _ _ hs => hordered.covers hmotion hs) (fun p hp => by cases hp.exit)
      fun hnomotion => ?_
    exact hordered.gateInv (hrecovery hnomotion) (h.recovery hnomotion) (hsample _ _ _ hfresh)
      (fun hexit => by cases hexit)
  | staleCopy hfresh hadmitted hdropped =>
    cases hout
    obtain ⟨hlimiter, hsequence, hstale⟩ := dropStale_fields hdropped
    refine .of_unpublished (fun output houtput => by cases houtput) fun _ => ?_
    refine h.extend ?_ ?_ ?_ (fun p hp => by cases hp.exit) fun hnomotion => ?_
    · rw [hlimiter, hadmitted.limiter]
    · intro ns hns
      rw [hlimiter]
      exact hadmitted.covers hlimited hns
    · intro hmotion s c hs
      rw [hsequence]
      exact hadmitted.toOrdered.covers hmotion hs
    · rw [hstale (hrecovery hnomotion)]
      exact gateInv_observeStale ((h.recovery hnomotion).passed
        (hadmitted.toOrdered.passed (hrecovery hnomotion)) (hsample _ _ _ hfresh)).1
  | @published a r'' p hcallback hfresh hadmitted houtput hchecked hreread hfresh' hpost =>
    cases hout
    have hpublishes : Publishes contract ⟨r, .cloud e, .published p.output, r'⟩ p := by
      subst hcallback
      exact ⟨rfl, rfl, hfresh, houtput, hchecked, hreread, hfresh'⟩
    have hsame : ∀ q, Publishes contract ⟨r, .cloud e, .published p.output, r'⟩ q →
        q.clocks = p.clocks ∧ q.sourceNs = p.sourceNs ∧ q.correctedNs = p.correctedNs :=
      fun q hq => hq.clocks_eq hx hfresh
    refine ⟨?_, ?_, ?_, ?_, ?_⟩
    · intro output hexit
      cases hexit
      exact ⟨p, rfl, hpublishes⟩
    · intro z hz q q' hq hq'
      rw [(hsame q' hq').1, ← h.period]
      exact hadmitted.spaced _ (h.limiter z hz q hq)
    · intro hnomotion l z m hsplit hz output _
      exact ((h.recovery hnomotion).passed (hadmitted.toOrdered.passed (hrecovery hnomotion))
        (hsample _ _ _ hfresh)).2.2 l z m hsplit hz
    · intro hmotion z hz q q' hq hq'
      obtain ⟨-, hsource, hcorrected⟩ := hsame q' hq'
      rw [hsource, hcorrected]
      exact hadmitted.ordered hmotion _ _ (h.sequence hmotion z hz q hq)
    · intro hnone
      rcases hpost with hlatched | rfl
      · rw [show r'.faultReason = none from hnone] at hlatched
        cases hlatched
      refine h.extend (by rw [hadmitted.limiter]) (fun _ hns => hadmitted.covers hlimited hns)
        (fun hmotion _ _ hs => hadmitted.toOrdered.covers hmotion hs) (fun q hq => ?_)
        fun hnomotion => ?_
      · obtain ⟨hclocks, hsource, hcorrected⟩ := hsame q hq
        rw [hclocks, hsource, hcorrected, hadmitted.limiter]
        refine ⟨⟨_, rfl, le_rfl⟩, fun hmotion => ?_⟩
        rw [hadmitted.sequence hmotion]
        exact ⟨_, _, rfl, rfl, le_rfl, le_rfl⟩
      · exact hadmitted.toOrdered.gateInv (hrecovery hnomotion) (h.recovery hnomotion)
          (hsample _ _ _ hfresh) (fun hexit => by cases hexit)

end Runs

/-! ## The whole run -/

section Discipline

variable {contract : CloudCorrectionContract} {tr : List (CloudStep P)} {r : CloudRelay}
  {reason : String}

/-- A relay with a fault keeps it and publishes nothing. -/
lemma latched_step (h : r.faultReason = some reason) (event : CloudEvent P) :
    ((cloudRelay contract).stepAt r event).post.faultReason = some reason ∧
      ∀ output, ((cloudRelay contract).stepAt r event).output ≠ .published output := by
  cases event with
  | pollGuard stopRequested guard =>
    refine ⟨?_, fun output houtput => by cases houtput⟩
    show (r.pollGuard contract stopRequested guard).faultReason = some reason
    unfold CloudRelay.pollGuard
    split
    · exact h
    · cases guard with
      | none => exact h
      | some raised =>
        show (r.latchFault contract _).faultReason = some reason
        unfold CloudRelay.latchFault
        rw [if_pos (by rw [h]; rfl)]
        exact h
  | cloud e =>
    have hlatched : r.cloud contract e = (.latched, r) := by
      unfold CloudRelay.cloud
      rw [if_pos (by rw [h]; rfl)]
    refine ⟨?_, fun output houtput => ?_⟩
    · show (r.cloud contract e).2.faultReason = some reason
      rw [hlatched]
      exact h
    · replace houtput : (r.cloud contract e).1 = .published output := houtput
      rw [hlatched] at houtput
      cases houtput

/-- The discipline of a history, and what its last state remembers of it. -/
structure Disciplined (contract : CloudCorrectionContract) (tr : List (CloudStep P))
    (r : CloudRelay) : Prop where
  discipline : CloudDiscipline contract tr
  inv : r.faultReason = none → RelayInv contract tr r
  latched : ∀ x ∈ tr, ∀ reason, x.post.faultReason = some reason → r.faultReason = some reason

lemma disciplined_init : Disciplined (P := P) contract [] (CloudRelay.init contract) where
  discipline := {
    published := by simp
    spaced := by simp
    recovered := by simp
    ordered := by simp
    silent := by simp }
  inv _ := {
    period := rfl
    limiter := by simp
    sequence := by simp
    recovery := fun _ => ⟨rfl, fun _ l x m hsplit => by simp at hsplit, fun hactive => by
      cases hactive⟩ }
  latched := by simp

/-- What a step adds keeps the discipline. -/
lemma Disciplined.extend {y : CloudStep P} (h : Disciplined contract tr r)
    (hfacts : StepFacts contract tr y)
    (hkept : ∀ reason, r.faultReason = some reason →
      y.post.faultReason = some reason ∧ ∀ output, y.output ≠ .published output) :
    Disciplined contract (tr ++ [y]) y.post where
  discipline := {
    published := by
      intro x hx
      rcases List.mem_append.mp hx with hx | hx
      · exact h.discipline.published x hx
      · rw [List.mem_singleton.mp hx]
        exact hfacts.published
    spaced := Machine.pairs_concat (C := fun _ x _ y => ∀ p q, Publishes contract x p →
        Publishes contract y q →
          p.clocks.monotonicNs + contract.publishPeriodNs ≤ q.clocks.monotonicNs)
      h.discipline.spaced fun l x m hsplit => hfacts.spaced x (by rw [hsplit]; simp)
    recovered := fun hnomotion => Machine.pairs_concat (C := fun _ x m y =>
        x.output = .droppedStale → ∀ output, y.output = .published output →
          FreshPair contract (m ++ [y]))
      (h.discipline.recovered hnomotion) (hfacts.recovered hnomotion)
    ordered := fun hmotion => Machine.pairs_concat (C := fun _ x _ y => ∀ p q,
        Publishes contract x p → Publishes contract y q →
          p.sourceNs < q.sourceNs ∧ p.correctedNs < q.correctedNs)
      (h.discipline.ordered hmotion)
      fun l x m hsplit => hfacts.ordered hmotion x (by rw [hsplit]; simp)
    silent := Machine.pairs_concat (C := fun _ x _ y => ∀ reason,
        x.post.faultReason = some reason →
          y.post.faultReason = some reason ∧ ∀ output, y.output ≠ .published output)
      h.discipline.silent
      fun l x m hsplit reason hx => hkept reason (h.latched x (by rw [hsplit]; simp) reason hx) }
  inv := hfacts.inv
  latched := by
    intro x hx reason hreason
    rcases List.mem_append.mp hx with hx | hx
    · exact (hkept reason (h.latched x hx reason hreason)).1
    · rw [List.mem_singleton.mp hx] at hreason
      exact hreason

lemma Disciplined.step (hperiod : 0 < contract.publishPeriodNs)
    (hrecovery : contract.profile = .nomotion → contract.requireFreshRecovery = true)
    (h : Disciplined contract tr r) (event : CloudEvent P) :
    Disciplined contract (tr ++ [(cloudRelay contract).stepAt r event])
      ((cloudRelay contract).step r event).2 := by
  refine h.extend (y := (cloudRelay contract).stepAt r event) ?_
    fun reason hreason => latched_step hreason event
  cases hfault : r.faultReason with
  | none =>
    cases event with
    | pollGuard stopRequested guard => exact pollGuard_step (h.inv hfault) stopRequested guard
    | cloud e => exact cloud_stepFacts (h.inv hfault) hfault hperiod hrecovery e
  | some reason =>
    refine .of_unpublished (latched_step hfault event).2 fun hnone => ?_
    rw [(latched_step hfault event).1] at hnone
    cases hnone

end Discipline

/-- **The cloud relay keeps its publication discipline** under every validated contract, whatever
the clouds, the clocks and the parent contract do. -/
theorem cloudDiscipline (profile : RelayProfile) (sessionId : String)
    (model : ℤ → Except Raised ℤ) (events : List (CloudEvent P)) :
    CloudDiscipline (.validated profile sessionId model)
      ((cloudRelay (.validated profile sessionId model)).trace
        (.init (.validated profile sessionId model)) events) := by
  have hperiod := CloudCorrectionContract.validated_period_pos profile sessionId model
  have hrecovery := CloudCorrectionContract.validated_recovery profile sessionId model
  exact (Machine.history_induction _ (motive := Disciplined _) disciplined_init
    (fun tr r event h => h.step hperiod hrecovery event) events).discipline

end UnitreeGo2.TimeSync
