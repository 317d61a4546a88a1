import UnitreeGo2.TimeSync.ReceiptClocks
import UnitreeGo2.Lib.Machine

/-!
# The corrected cloud relay

A process of its own takes the raw point clouds, corrects their stamps with the frozen affine
model of the timestamp process, and publishes those that are still fresh.
-/

namespace UnitreeGo2.TimeSync

def PUBLISH_PERIOD_NS : ℤ := 200000000

def MOTION_PUBLISH_PERIOD_NS : ℤ := 100000000

def MOTION_CLOUD_MAX_CORRECTED_AGE_NS : ℤ := 250000000

def NOMOTION_TRANSIENT_STALE_RECOVERY_CEILING_NS : ℤ := 2000000000

def FAULT_SCHEMA : String := "robonix-go2-workstation-nomotion-cloud-relay-fault-v1"

def MOTION_FAULT_SCHEMA : String := "robonix-go2-workstation-motion-cloud-relay-fault-v1"

/-- `RELAY_PROFILES`. -/
inductive RelayProfile where
  | nomotion
  | motion
  deriving DecidableEq, Repr

/-! ## The contract -/

structure CloudCorrectionContract where
  sessionId : String
  profile : RelayProfile
  /-- `model.corrected_stamp_ns`, the frozen function of the source stamp. -/
  model : ℤ → Except Raised ℤ
  maxCorrectedAgeNs : ℤ
  hardCorrectedAgeNs : ℤ
  maxCorrectedFutureNs : ℤ
  minimumCorrectedAgeNs : Option ℤ
  maxClockReadSpanNs : ℤ
  clockPairAgeAcquisitionAttempts : ℕ
  publishPeriodNs : ℤ
  dropAllStale : Bool
  requireFreshRecovery : Bool

namespace CloudCorrectionContract

/-- The contract that `validate_stamp_ready` returns for a profile: the limits of its checked-in
stream configuration, around the session and the model of the READY file. -/
def validated (profile : RelayProfile) (sessionId : String) (model : ℤ → Except Raised ℤ) :
    CloudCorrectionContract :=
  match profile with
  | .motion =>
    { sessionId, profile := .motion, model
      maxCorrectedAgeNs := MOTION_CLOUD_MAX_CORRECTED_AGE_NS
      hardCorrectedAgeNs := MOTION_CLOUD_MAX_CORRECTED_AGE_NS
      maxCorrectedFutureNs := 2000000
      minimumCorrectedAgeNs := none
      maxClockReadSpanNs := 1000000
      clockPairAgeAcquisitionAttempts := MOTION_CLOCK_PAIR_AGE_ACQUISITION_ATTEMPTS
      publishPeriodNs := MOTION_PUBLISH_PERIOD_NS
      dropAllStale := true
      requireFreshRecovery := false }
  | .nomotion =>
    { sessionId, profile := .nomotion, model
      maxCorrectedAgeNs := 250000000
      hardCorrectedAgeNs := NOMOTION_TRANSIENT_STALE_RECOVERY_CEILING_NS
      maxCorrectedFutureNs := 2000000
      minimumCorrectedAgeNs := some 5000000
      maxClockReadSpanNs := 1000000
      clockPairAgeAcquisitionAttempts := NOMOTION_CLOCK_PAIR_AGE_ACQUISITION_ATTEMPTS
      publishPeriodNs := PUBLISH_PERIOD_NS
      dropAllStale := false
      requireFreshRecovery := true }

/-- The frozen correction of a source stamp, judged at a receipt time. -/
def correctedStampNs (contract : CloudCorrectionContract) (sourceNs receiptRealtimeNs : ℤ) :
    Except Raised ℤ := do
  let correctedNs ← contract.model sourceNs
  let correctedAgeNs := receiptRealtimeNs - correctedNs
  if correctedAgeNs < -contract.maxCorrectedFutureNs then
    throw (.relayError "corrected cloud timestamp is too far in the future")
  if contract.minimumCorrectedAgeNs.any fun minimumNs => correctedAgeNs < minimumNs then
    throw (.relayError "corrected cloud timestamp exhausted its affine age margin")
  if contract.maxCorrectedAgeNs < correctedAgeNs then
    if contract.dropAllStale ∨ correctedAgeNs ≤ contract.hardCorrectedAgeNs then
      throw (.transientCloudStale correctedAgeNs contract.maxCorrectedAgeNs
        contract.hardCorrectedAgeNs)
    throw (.relayError "corrected cloud timestamp exceeds its hard stale ceiling")
  return correctedNs

/-- The least age of a published cloud. -/
def leastCorrectedAgeNs (contract : CloudCorrectionContract) : ℤ :=
  contract.minimumCorrectedAgeNs.elim (-contract.maxCorrectedFutureNs)
    (max (-contract.maxCorrectedFutureNs))

/-- An age at which a cloud may be published. -/
def FreshAge (contract : CloudCorrectionContract) (correctedAgeNs : ℤ) : Prop :=
  contract.leastCorrectedAgeNs ≤ correctedAgeNs ∧ correctedAgeNs ≤ contract.maxCorrectedAgeNs

lemma validated_period_pos (profile : RelayProfile) (sessionId : String)
    (model : ℤ → Except Raised ℤ) : 0 < (validated profile sessionId model).publishPeriodNs := by
  cases profile
  · show 0 < PUBLISH_PERIOD_NS
    decide
  · show 0 < MOTION_PUBLISH_PERIOD_NS
    decide

lemma validated_recovery (profile : RelayProfile) (sessionId : String)
    (model : ℤ → Except Raised ℤ) (h : (validated profile sessionId model).profile = .nomotion) :
    (validated profile sessionId model).requireFreshRecovery = true := by
  cases profile with
  | nomotion => rfl
  | motion => cases h

end CloudCorrectionContract

/-! ## Rate, order and recovery -/

structure PublishRateLimiter where
  periodNs : ℤ
  lastPublishMonotonicNs : Option ℤ := none

/-- `_PublishRateLimiter.allow`. -/
def PublishRateLimiter.allow (limiter : PublishRateLimiter) (monotonicNs : ℤ) :
    Except Raised (Bool × PublishRateLimiter) :=
  if monotonicNs ≤ 0 then .error (.valueError "publish clock must be positive")
  else
    match limiter.lastPublishMonotonicNs with
    | none => .ok (true, { limiter with lastPublishMonotonicNs := some monotonicNs })
    | some previous =>
      if monotonicNs < previous then .error (.relayError "publish monotonic clock regressed")
      else if monotonicNs - previous < limiter.periodNs then .ok (false, limiter)
      else .ok (true, { limiter with lastPublishMonotonicNs := some monotonicNs })

structure CloudStampSequenceGuard where
  lastSourceNs : Option ℤ := none
  lastCorrectedNs : Option ℤ := none

/-- `_CloudStampSequenceGuard.observe`. -/
def CloudStampSequenceGuard.observe (guard : CloudStampSequenceGuard)
    (sourceNs correctedNs : ℤ) : Except Raised CloudStampSequenceGuard :=
  if sourceNs ≤ 0 ∨ correctedNs ≤ 0 then
    .error (.relayError "cloud stamp sequence values must be positive")
  else if guard.lastSourceNs.any fun last => sourceNs ≤ last then
    .error (.relayError "cloud source timestamp did not advance")
  else if guard.lastCorrectedNs.any fun last => correctedNs ≤ last then
    .error (.relayError "cloud corrected timestamp did not advance")
  else .ok ⟨some sourceNs, some correctedNs⟩

structure FreshCloudRecoveryGate where
  requiredFreshSamples : ℕ := 2
  active : Bool := false
  freshSamples : ℕ := 0

namespace FreshCloudRecoveryGate

def observeStale (gate : FreshCloudRecoveryGate) : FreshCloudRecoveryGate :=
  { gate with active := true, freshSamples := 0 }

def allowFresh (gate : FreshCloudRecoveryGate) : Bool × FreshCloudRecoveryGate :=
  if gate.active = false then (true, gate)
  else if gate.freshSamples + 1 < gate.requiredFreshSamples then
    (false, { gate with freshSamples := gate.freshSamples + 1 })
  else (true, { gate with active := false, freshSamples := 0 })

end FreshCloudRecoveryGate

/-! ## The node -/

/-- The cloud message; everything but its stamp is the payload. -/
structure PointCloud2 (P : Type) where
  stamp : Time
  payload : P

/-- `_corrected_nomotion_cloud_copy`, unless copying the message fails. -/
def correctedMessageCopy {P : Type} (message : PointCloud2 P) (copyFault : Option Raised)
    (correctedNs : ℤ) : Except Raised (PointCloud2 P) :=
  match copyFault with
  | some raised => .error raised
  | none => (correctedStampParts correctedNs 0).map fun stamp => { message with stamp }

/-- The report in the fault file. -/
structure FaultReport where
  schema : String
  sessionId : String
  reason : String
  motionReady : Bool := false
  canonicalOdomReady : Bool := false

/-- `CloudRelayNode` with its `_Runtime`. -/
structure CloudRelay where
  limiter : PublishRateLimiter
  stampSequence : CloudStampSequenceGuard := {}
  recovery : FreshCloudRecoveryGate := {}
  faultReason : Option String := none
  faultFile : Option FaultReport := none
  isShutdown : Bool := false

/-- All that a cloud callback reads. -/
structure CloudCallback (P : Type) where
  message : PointCloud2 P
  /-- What the checks of the parent contract raise before and after the copy. -/
  guardBefore : Option Raised := none
  guardAfter : Option Raised := none
  receiptReads : ℕ → Acquisition
  publishReads : ℕ → Acquisition
  copyFault : Option Raised := none
  /-- What the publisher raises. -/
  publishFault : Option Raised := none

inductive CloudEvent (P : Type) where
  | pollGuard (stopRequested : Bool) (guard : Option Raised)
  | cloud (callback : CloudCallback P)

/-- How a callback ends. -/
inductive CloudExit (P : Type) where
  | polled
  /-- A fault was latched before. -/
  | latched
  | failed
  | droppedStale
  | recovering
  | rateLimited
  | published (output : PointCloud2 P)

namespace CloudRelay

variable {P : Type}

def init (contract : CloudCorrectionContract) : CloudRelay where
  limiter := { periodNs := contract.publishPeriodNs }

/-- `_Runtime.latch_fault`. -/
def latchFault (contract : CloudCorrectionContract) (r : CloudRelay) (reason : String) :
    CloudRelay :=
  if r.faultReason.isSome then r
  else
    let kept := String.ofList (reason.toList.take 240)
    let reason := if kept = "" then "unspecified_cloud_relay_fault" else kept
    let schema := match contract.profile with
      | .motion => MOTION_FAULT_SCHEMA
      | .nomotion => FAULT_SCHEMA
    { r with
      faultReason := some reason
      faultFile := some { schema, sessionId := contract.sessionId, reason }
      isShutdown := true }

def pollGuard (contract : CloudCorrectionContract) (r : CloudRelay) (stopRequested : Bool)
    (guard : Option Raised) : CloudRelay :=
  if stopRequested then { r with isShutdown := true }
  else
    match guard with
    | none => r
    | some raised =>
      r.latchFault contract s!"parent_guard_failed:{raised.typeName}:{raised.text}"

/-- The clock pair of a callback. -/
def receiptClocks (contract : CloudCorrectionContract) (reads : ℕ → Acquisition) :
    Except Raised ReceiptClockPair :=
  freshPairedReceiptClocks contract.maxClockReadSpanNs contract.clockPairAgeAcquisitionAttempts
    reads

/-- A callback that raises latches a fault. -/
def fail (contract : CloudCorrectionContract) (r : CloudRelay) (raised : Raised) :
    CloudExit P × CloudRelay :=
  (.failed, r.latchFault contract
    s!"cloud_processing_failed:{raised.typeName}:{raised.text}")

/-- The drop of a stale cloud. -/
def dropStale (contract : CloudCorrectionContract) (r : CloudRelay) : CloudExit P × CloudRelay :=
  (.droppedStale, if contract.requireFreshRecovery then
    { r with recovery := r.recovery.observeStale } else r)

/-- The second judgement of a cloud that has been copied, and its publication. -/
def publishCopy (contract : CloudCorrectionContract) (r : CloudRelay) (e : CloudCallback P)
    (sourceNs correctedNs : ℤ) (output : PointCloud2 P) : CloudExit P × CloudRelay :=
  match e.guardAfter with
  | some raised => r.fail contract raised
  | none =>
    match receiptClocks contract e.publishReads with
    | .error raised => r.fail contract raised
    | .ok publishClocks =>
      match contract.correctedStampNs sourceNs publishClocks.realtimeNs with
      | .error (.transientCloudStale _ _ _) => r.dropStale contract
      | .error raised => r.fail contract raised
      | .ok publishCorrectedNs =>
        if publishCorrectedNs ≠ correctedNs then
          r.fail contract (.relayError "frozen cloud correction changed")
        else
          match e.publishFault with
          | some raised => (.published output, (r.fail contract raised : CloudExit P × _).2)
          | none => (.published output, r)

/-- The order and the rate of the clouds that are fresh at their receipt. -/
def passOn (contract : CloudCorrectionContract) (r : CloudRelay) (e : CloudCallback P)
    (clocks : ReceiptClockPair) (sourceNs correctedNs : ℤ) : CloudExit P × CloudRelay :=
  let stampSequence := match contract.profile with
    | .motion => r.stampSequence.observe sourceNs correctedNs
    | .nomotion => .ok r.stampSequence
  match stampSequence with
  | .error raised => r.fail contract raised
  | .ok stampSequence =>
    let r := { r with stampSequence }
    match r.limiter.allow clocks.monotonicNs with
    | .error raised => r.fail contract raised
    | .ok (false, limiter) => (.rateLimited, { r with limiter })
    | .ok (true, limiter) =>
      let r := { r with limiter }
      match correctedMessageCopy e.message e.copyFault correctedNs with
      | .error raised => r.fail contract raised
      | .ok output => r.publishCopy contract e sourceNs correctedNs output

/-- `CloudRelayNode._cloud`. -/
def cloud (contract : CloudCorrectionContract) (r : CloudRelay) (e : CloudCallback P) :
    CloudExit P × CloudRelay :=
  if r.faultReason.isSome then (.latched, r)
  else
    match e.guardBefore with
    | some raised => r.fail contract raised
    | none =>
      match receiptClocks contract e.receiptReads with
      | .error raised => r.fail contract raised
      | .ok clocks =>
        match sourceStampNs e.message.stamp with
        | .error raised => r.fail contract raised
        | .ok sourceNs =>
          match contract.correctedStampNs sourceNs clocks.realtimeNs with
          | .error (.transientCloudStale _ _ _) => r.dropStale contract
          | .error raised => r.fail contract raised
          | .ok correctedNs =>
            let (allowed, recovery) :=
              if contract.requireFreshRecovery then r.recovery.allowFresh
              else (true, r.recovery)
            let r := { r with recovery }
            if allowed then r.passOn contract e clocks sourceNs correctedNs
            else (.recovering, r)

end CloudRelay

/-- The relay as its executor drives it. -/
def cloudRelay {P : Type} (contract : CloudCorrectionContract) :
    Machine CloudRelay (CloudEvent P) (CloudExit P) where
  step r
    | .pollGuard stopRequested guard => (.polled, r.pollGuard contract stopRequested guard)
    | .cloud callback => r.cloud contract callback

end UnitreeGo2.TimeSync
