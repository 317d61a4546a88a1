import UnitreeGo2.Lib.Machine
import UnitreeGo2.MotionStateRelay.GidGuard

/-!
# The motion-state relay

The relay republishes the corrected states of one supervised writer.  A timer polls the graph
and the pipe of the supervisor; a message drains the pipe too, and is published when the
heartbeat, the graph, the identity of its writer and its stamp all hold.  The first fault ends
the process.
-/

namespace UnitreeGo2.MotionStateRelay

def kExpectedNodeName : String := "go2_workstation_nomotion_stamp_discipline"
def kExpectedNodeNamespace : String := "/"
def kExpectedTopicType : String := "unitree_go/msg/SportModeState"
def kHeartbeatTimeoutNs : ℤ := 200000000
def kHeartbeatHexCharacters : ℕ := 16
def kMaximumHeartbeatBufferBytes : ℕ := 1024
def kInitialMessageTimeoutNs : ℤ := 5000000000
def kGraphFreshNs : ℤ := 100000000
def kMinimumReadySamples : ℕ := 30
def kMaximumCorrectedAgeNs : ℤ := 200000000
def kMaximumCorrectedFutureNs : ℤ := 5000000
def kNanosecondsPerSecond : ℤ := 1000000000
def kInt64Max : ℤ := 9223372036854775807

/-! ## The heartbeat -/

structure HeartbeatTimestampGuard where
  lastSenderNs : Option ℤ := none
  reason : String := ""
  faulted : Bool := false

namespace HeartbeatTimestampGuard

/-- `Observe`, with the value that it returns. -/
def observe (senderNs : ℤ) (h : HeartbeatTimestampGuard) : Bool × HeartbeatTimestampGuard :=
  if h.faulted then (false, h)
  else if senderNs ≤ 0 then
    (false, { h with faulted := true, reason := "supervisor_heartbeat_protocol_error" })
  else if h.lastSenderNs.any (senderNs ≤ ·) then
    (false, { h with faulted := true, reason := "supervisor_heartbeat_nonmonotonic" })
  else (true, { h with lastSenderNs := some senderNs })

def fresh (nowNs maximumAgeNs : ℤ) (h : HeartbeatTimestampGuard) : Bool :=
  !h.faulted && 0 ≤ maximumAgeNs &&
    h.lastSenderNs.any fun senderNs => senderNs ≤ nowNs && nowNs - senderNs ≤ maximumAgeNs

end HeartbeatTimestampGuard

/-- How one `read` of the heartbeat pipe ends. -/
inductive ReadResult where
  | data (bytes : List UInt8)
  | eof
  | interrupted
  | wouldBlock
  | error

def newline : UInt8 := 10

/-- The bytes before the first newline, and those after it. -/
def splitRecord : List UInt8 → Option (List UInt8 × List UInt8)
  | [] => none
  | b :: bs =>
    if b = newline then some ([], bs)
    else (splitRecord bs).map fun (record, rest) => (b :: record, rest)

/-- A lower-case hexadecimal digit. -/
def hexValue? (b : UInt8) : Option ℕ :=
  if 48 ≤ b ∧ b ≤ 57 then some (b.toNat - 48)
  else if 97 ≤ b ∧ b ≤ 102 then some (b.toNat - 87)
  else none

/-- The stamp of a heartbeat record; the other records are a protocol error. -/
def heartbeatStamp? (record : List UInt8) : Option ℤ :=
  if record.length = kHeartbeatHexCharacters ∧ record.all fun b => (hexValue? b).isSome then
    let rawStamp := record.foldl (fun n b => 16 * n + (hexValue? b).getD 0) 0
    if rawStamp = 0 ∨ kInt64Max < rawStamp then none else some rawStamp
  else none

/-! ## Messages and endpoints -/

/-- A state with its corrected stamp; the relay hands on the rest unread. -/
structure StateMessage (α : Type) where
  sec : ℤ
  nanosec : ℕ
  payload : α

def correctedStampNs {α : Type} (message : StateMessage α) : Option ℤ :=
  if message.sec ≤ 0 ∨ kNanosecondsPerSecond ≤ message.nanosec then none
  else if (kInt64Max - message.nanosec) / kNanosecondsPerSecond < message.sec then none
  else some (message.sec * kNanosecondsPerSecond + message.nanosec)

inductive CorrectedStampFreshness where
  | fresh
  | tooOld
  | tooFarFuture
  deriving DecidableEq

def evaluateCorrectedStampFreshness (nowNs stampNs : ℤ) : CorrectedStampFreshness :=
  if nowNs < stampNs ∧ kMaximumCorrectedFutureNs < stampNs - nowNs then .tooFarFuture
  else if stampNs ≤ nowNs ∧ kMaximumCorrectedAgeNs < nowNs - stampNs then .tooOld
  else .fresh

/-- What the graph tells of a publisher. -/
structure Endpoint where
  gid : PublisherGid
  nodeName : String
  nodeNamespace : String
  topicType : String
  isPublisher : Bool
  reliabilityBestEffort : Bool
  durabilityVolatile : Bool

namespace Endpoint

def identityExact (e : Endpoint) : Bool :=
  e.nodeName = kExpectedNodeName && e.nodeNamespace = kExpectedNodeNamespace &&
    e.topicType = kExpectedTopicType && e.isPublisher

/-- `IsSafeCorrectedStatePublisherQos`. -/
def qosExact (e : Endpoint) : Bool := e.reliabilityBestEffort && e.durabilityVolatile

end Endpoint

/-- What the poll tells the guard. -/
def graphObservation : List Endpoint → GraphObservation
  | [e] => ⟨1, e.identityExact, e.qosExact, e.gid⟩
  | endpoints => { publisherCount := endpoints.length }

/-- The identity under which a message arrives. -/
structure MessageInfo where
  publisherGid : PublisherGid
  /-- The identifier of the middleware; it may be missing. -/
  implementationIdentifier : Option String

/-! ## The relay -/

structure RelayConfig where
  startedSteadyNs : ℤ
  rmwImplementationIdentifier : String := "rmw_cyclonedds_cpp"

/-- A line of the event pipe. -/
inductive EventLine where
  | ready (graphGid messageGid : PublisherGid) (validSamples publisherCount stableGraphPolls
      stableMessageSamples : ℕ)
  | fault (report : GuardFault)
  deriving DecidableEq

def optionalGidToWire (gid : Option PublisherGid) : String := (gid.map gidToHex).getD "-"

/-- The text of a line. -/
def EventLine.wire (config : RelayConfig) : EventLine → String
  | .ready graphGid messageGid validSamples publisherCount stableGraphPolls
      stableMessageSamples =>
    String.intercalate "\t" ["READY_V3", gidToHex graphGid, gidToHex messageGid,
      config.rmwImplementationIdentifier, toString validSamples, toString publisherCount,
      toString stableGraphPolls, toString stableMessageSamples] ++ "\n"
  | .fault report =>
    String.intercalate "\t" ["FAULT_V3", report.reason, optionalGidToWire report.graphGid,
      optionalGidToWire report.messageGid, optionalGidToWire report.observedGid,
      report.observedGidDomain.toWire, toString report.publisherCount,
      config.rmwImplementationIdentifier] ++ "\n"

/-- What a callback does that is seen outside. -/
inductive RelayEffect (α : Type) where
  | published (message : StateMessage α)
  /-- A line is written, or else reported on the error stream. -/
  | event (line : EventLine)
  /-- The line that announces the relay could not be written. -/
  | eventPipeFailed

/-- The members of `MotionStateRelay`, and the effects of the current callback. -/
structure Relay (α : Type) where
  gidGuard : PublisherGidGuard := {}
  heartbeatGuard : HeartbeatTimestampGuard := {}
  lastObservedGid : Option PublisherGid := none
  heartbeatBuffer : List UInt8 := []
  lastGraphVerifiedSteadyNs : Option ℤ := none
  lastReceiptSteadyNs : Option ℤ := none
  lastCorrectedStampNs : Option ℤ := none
  validSamples : ℕ := 0
  readyEmitted : Bool := false
  faulted : Bool := false
  effects : List (RelayEffect α) := []

namespace Relay

variable {α : Type} (config : RelayConfig)

def emit (effect : RelayEffect α) (r : Relay α) : Relay α :=
  { r with effects := r.effects ++ [effect] }

/-! ### Faults -/

def latchFaultDetailed (report : GuardFault) (r : Relay α) : Relay α :=
  if r.faulted then r else { r.emit (.event (.fault report)) with faulted := true }

/-- `LatchFault`; an observed identity is one of a message unless the caller says more. -/
def latchFault (reason : String) (r : Relay α) : Relay α :=
  r.latchFaultDetailed
    { reason := reason
      graphGid := r.gidGuard.frozenGraphGid
      messageGid := r.gidGuard.frozenMessageGid
      publisherCount := r.gidGuard.lastPublisherCount }

/-- `LatchFault`, with the last observed identity of a message. -/
def latchMessageFault (reason : String) (r : Relay α) : Relay α :=
  r.latchFaultDetailed
    { reason := reason
      graphGid := r.gidGuard.frozenGraphGid
      messageGid := r.gidGuard.frozenMessageGid
      observedGid := r.lastObservedGid
      observedGidDomain := .message
      publisherCount := r.gidGuard.lastPublisherCount }

def latchGuardFault (r : Relay α) : Relay α :=
  match r.gidGuard.fault with
  | some report => r.latchFaultDetailed report
  | none => r.latchFault "internal_missing_gid_guard_fault"

/-! ### The heartbeat pipe -/

def heartbeatFresh (nowNs : ℤ) (r : Relay α) : Bool :=
  r.heartbeatGuard.fresh nowNs kHeartbeatTimeoutNs

end Relay

/-- A record leaves fewer bytes behind it. -/
lemma length_lt_of_splitRecord {bytes record rest : List UInt8}
    (h : splitRecord bytes = some (record, rest)) : rest.length < bytes.length := by
  induction bytes generalizing record with
  | nil => cases h
  | cons b bs ih =>
    unfold splitRecord at h
    split at h
    · cases h
      exact Nat.lt_succ_self _
    · obtain ⟨⟨record', rest'⟩, hsplit, heq⟩ := Option.map_eq_some_iff.mp h
      cases heq
      exact Nat.lt_succ_of_lt (ih hsplit)

namespace Relay

variable {α : Type} (config : RelayConfig)

/-- The loop of `ParseHeartbeatRecords`. -/
def parseHeartbeatRecords (r : Relay α) : Relay α :=
  if r.faulted then r
  else
    match _hsplit : splitRecord r.heartbeatBuffer with
    | none => r
    | some (record, rest) =>
      let r : Relay α := { r with heartbeatBuffer := rest }
      match heartbeatStamp? record with
      | none => r.latchFault "supervisor_heartbeat_protocol_error"
      | some stamp =>
        if (r.heartbeatGuard.observe stamp).1 then
          { r with heartbeatGuard := (r.heartbeatGuard.observe stamp).2 }.parseHeartbeatRecords
        else
          { r with heartbeatGuard := (r.heartbeatGuard.observe stamp).2 }.latchFault
            (r.heartbeatGuard.observe stamp).2.reason
termination_by r.heartbeatBuffer.length
decreasing_by exact length_lt_of_splitRecord _hsplit

/-- `DrainHeartbeat`, for the reads that it makes; it ends where the pipe would block. -/
def drainHeartbeat : List ReadResult → Relay α → Relay α
  | [], r => r
  | read :: reads, r =>
    if r.faulted then r
    else
      match read with
      | .data bytes =>
        let r : Relay α := { r with heartbeatBuffer := r.heartbeatBuffer ++ bytes }
        if kMaximumHeartbeatBufferBytes < r.heartbeatBuffer.length then
          r.latchFault "supervisor_heartbeat_buffer_overflow"
        else drainHeartbeat reads r.parseHeartbeatRecords
      | .eof => r.latchFault "supervisor_heartbeat_eof"
      | .interrupted => drainHeartbeat reads r
      | .wouldBlock => r
      | .error => r.latchFault "supervisor_heartbeat_read_error"

/-! ### The graph timer -/

/-- The end of a poll: the graph is verified, and the receipts are checked. -/
def checkReceipt (nowNs : ℤ) (r : Relay α) : Relay α :=
  match r.lastReceiptSteadyNs with
  | none =>
    if nowNs < config.startedSteadyNs ∨
        kInitialMessageTimeoutNs < nowNs - config.startedSteadyNs then
      r.latchFault "corrected_state_initial_timeout"
    else r
  | some receiptNs =>
    if nowNs < receiptNs then r.latchFault "steady_receipt_clock_regressed" else r

/-- What a poll does with the publishers that it finds. -/
def verifyGraph (nowNs : ℤ) (endpoints : List Endpoint) (r : Relay α) : Relay α :=
  if endpoints.isEmpty && mayDeferInitialPublisherAbsence r.gidGuard.candidateSeen
      config.startedSteadyNs nowNs then r
  else
    let r : Relay α := { r with gidGuard := r.gidGuard.observeGraph (graphObservation endpoints) }
    if r.gidGuard.faulted then r.latchGuardFault
    else
      checkReceipt config nowNs { r with
        lastGraphVerifiedSteadyNs :=
          if r.gidGuard.graphBound then some nowNs else r.lastGraphVerifiedSteadyNs }

/-- `PollGraphAndSupervisor`; the query of the graph may fail. -/
def pollGraphAndSupervisor (reads : List ReadResult) (nowNs : ℤ)
    (endpoints : Option (List Endpoint)) (r : Relay α) : Relay α :=
  if r.faulted then r
  else
    let r := r.drainHeartbeat reads
    if r.faulted then r
    else if !r.heartbeatFresh nowNs then
      if nowNs < config.startedSteadyNs ∨
          kHeartbeatTimeoutNs < nowNs - config.startedSteadyNs then
        r.latchFault "supervisor_heartbeat_stale"
      else r
    else
      match endpoints with
      | none => r.latchFault "publisher_graph_query_failed"
      | some endpoints => r.verifyGraph config nowNs endpoints

/-! ### Messages -/

/-- `EmitReady`; the event pipe may refuse the line. -/
def emitReady (written : Bool) (r : Relay α) : Relay α :=
  match r.gidGuard.frozenGraphGid, r.gidGuard.frozenMessageGid with
  | some graphGid, some messageGid =>
    if !r.gidGuard.perMessageGidVerified then
      r.latchFault "internal_ready_without_frozen_gids"
    else if written then
      { r.emit (.event (.ready graphGid messageGid r.validSamples r.gidGuard.lastPublisherCount
          r.gidGuard.stableGraphPolls r.gidGuard.stableMessageSamples)) with readyEmitted := true }
    else { r.emit .eventPipeFailed with faulted := true }
  | _, _ => r.latchFault "internal_ready_without_frozen_gids"

/-- An accepted sample is published, once the relay is ready. -/
def acceptSample (message : StateMessage α) (stampNs nowSteadyNs : ℤ) (written : Bool)
    (r : Relay α) : Relay α :=
  let r := { r with
    lastCorrectedStampNs := some stampNs
    lastReceiptSteadyNs := some nowSteadyNs
    validSamples := r.validSamples + 1 }
  if r.readyEmitted then r.emit (.published message)
  else if kMinimumReadySamples ≤ r.validSamples then r.emitReady written
  else r

/-- The checks of the stamp of a message whose writer is verified. -/
def checkStamp (message : StateMessage α) (nowSteadyNs nowSystemNs : ℤ) (written : Bool)
    (r : Relay α) : Relay α :=
  match correctedStampNs message with
  | none => r.latchMessageFault "corrected_state_stamp_invalid"
  | some stampNs =>
    if r.lastCorrectedStampNs.any (stampNs ≤ ·) then
      r.latchMessageFault "corrected_state_stamp_nonmonotonic"
    else if nowSystemNs ≤ 0 ∨ nowSteadyNs ≤ 0 then r.latchMessageFault "local_clock_invalid"
    else
      match evaluateCorrectedStampFreshness nowSystemNs stampNs with
      | .tooFarFuture => r.latchMessageFault "corrected_state_stamp_future"
      | .tooOld => r
      | .fresh =>
        if r.lastReceiptSteadyNs.any (nowSteadyNs < ·) then
          r.latchMessageFault "steady_receipt_clock_regressed"
        else r.acceptSample message stampNs nowSteadyNs written

/-- The check of the identity of the writer. -/
def checkIdentity (message : StateMessage α) (info : MessageInfo) (nowSteadyNs nowSystemNs : ℤ)
    (written : Bool) (r : Relay α) : Relay α :=
  let (accepted, guard) := r.gidGuard.observeMessage info.publisherGid
    (info.implementationIdentifier = some config.rmwImplementationIdentifier)
  let r := { r with gidGuard := guard }
  if accepted then r.checkStamp message nowSteadyNs nowSystemNs written
  else if guard.faulted then r.latchGuardFault
  else r

/-- The graph was not verified lately. -/
def graphStale (nowNs : ℤ) (r : Relay α) : Bool :=
  !r.lastGraphVerifiedSteadyNs.any fun verifiedNs =>
    verifiedNs ≤ nowNs && nowNs - verifiedNs ≤ kGraphFreshNs

/-- `ObserveMessage`. -/
def observeMessage (reads : List ReadResult) (message : StateMessage α) (info : MessageInfo)
    (nowSteadyNs nowSystemNs : ℤ) (written : Bool) (r : Relay α) : Relay α :=
  if r.faulted then r
  else
    let r := r.drainHeartbeat reads
    if r.faulted then r
    else
      let r := { r with lastObservedGid := some info.publisherGid }
      if !r.heartbeatFresh nowSteadyNs then r.latchMessageFault "supervisor_heartbeat_stale"
      else if !r.gidGuard.graphBound then r
      else if r.graphStale nowSteadyNs then
        r.latchMessageFault "publisher_graph_verification_stale"
      else r.checkIdentity config message info nowSteadyNs nowSystemNs written

end Relay

/-! ## The relay as a machine -/

/-- The callbacks, with what they read; `written` tells whether the event pipe takes a line. -/
inductive RelayEvent (α : Type) where
  | poll (reads : List ReadResult) (nowNs : ℤ) (endpoints : Option (List Endpoint))
  | message (reads : List ReadResult) (message : StateMessage α) (info : MessageInfo)
      (nowSteadyNs nowSystemNs : ℤ) (written : Bool)

/-- The callback of an event. -/
def Relay.callback {α : Type} (config : RelayConfig) (event : RelayEvent α) (r : Relay α) :
    Relay α :=
  match event with
  | .poll reads nowNs endpoints => r.pollGraphAndSupervisor config reads nowNs endpoints
  | .message reads message info nowSteadyNs nowSystemNs written =>
    r.observeMessage config reads message info nowSteadyNs nowSystemNs written

/-- The machine of a relay; a step answers with the effects of its callback. -/
def relay {α : Type} (config : RelayConfig) :
    Machine (Relay α) (RelayEvent α) (List (RelayEffect α)) where
  step r event :=
    let r := { r with effects := [] }.callback config event
    (r.effects, r)

abbrev RelayStep (α : Type) := Machine.Step (Relay α) (RelayEvent α) (List (RelayEffect α))

end UnitreeGo2.MotionStateRelay
