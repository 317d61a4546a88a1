import UnitreeGo2.TimeSync.ReceiptClocks
import UnitreeGo2.Lib.Machine
import Mathlib.Algebra.Order.Round
import Mathlib.Data.List.Sort
import Mathlib.Data.Rat.Floor

/-!
# The clock reference

A node that receives the stamps of the robot on two topics and hands those it trusts to chrony
as samples of a reference clock.  Floats are rational numbers here, and `fl` rounds the result
of an operation.
-/

namespace UnitreeGo2.TimeSync

def NANOSECONDS_PER_SECOND : ℤ := 1000000000

/-- A positive, well-formed timestamp or nothing. -/
def stampToNanoseconds (stamp : Time) : Option ℤ :=
  if stamp.sec < 0 ∨ ¬ (0 ≤ stamp.nanosec ∧ stamp.nanosec < NANOSECONDS_PER_SECOND) then none
  else
    let result := stamp.sec * NANOSECONDS_PER_SECOND + stamp.nanosec
    if 0 < result then some result else none

/-- Both clocks at the receipt of a message. -/
structure ClockPair where
  realtimeNs : ℤ
  monotonicNs : ℤ
  deriving DecidableEq, Repr

def readClockPair (reads : ClockReads) : ClockPair :=
  ⟨reads.realtimeNs, (reads.beforeNs + reads.afterNs) / 2⟩

/-! ## Streams -/

inductive StampStatus where
  | zero
  | malformed
  | regression
  | duplicate
  | advancing
  deriving DecidableEq, Repr

structure Observation where
  sourceStampNs : Option ℤ
  status : StampStatus
  sourceMinusReceiptNs : Option ℤ := none
  sourceDeltaNs : Option ℤ := none
  receiptMonotonicDeltaNs : Option ℤ := none

structure StreamTracker where
  received : ℕ := 0
  valid : ℕ := 0
  malformed : ℕ := 0
  zero : ℕ := 0
  duplicates : ℕ := 0
  regressions : ℕ := 0
  lastSourceNs : Option ℤ := none
  lastReceiptMonotonicNs : Option ℤ := none

/-- How a stamp follows the last one of its stream. -/
def stampStatus (lastSourceNs : Option ℤ) (sourceNs : ℤ) : StampStatus :=
  if lastSourceNs.any fun last => sourceNs < last then .regression
  else if lastSourceNs = some sourceNs then .duplicate
  else .advancing

def StreamTracker.observe (tracker : StreamTracker) (stamp : Time) (receipt : ClockPair) :
    Observation × StreamTracker :=
  match stampToNanoseconds stamp with
  | none =>
    if stamp.sec = 0 ∧ stamp.nanosec = 0 then
      ({ sourceStampNs := none, status := .zero },
        { tracker with received := tracker.received + 1, zero := tracker.zero + 1 })
    else
      ({ sourceStampNs := none, status := .malformed },
        { tracker with received := tracker.received + 1, malformed := tracker.malformed + 1 })
  | some sourceNs =>
    let status := stampStatus tracker.lastSourceNs sourceNs
    ({ sourceStampNs := some sourceNs
       status
       sourceMinusReceiptNs := some (sourceNs - receipt.realtimeNs)
       sourceDeltaNs := tracker.lastSourceNs.map fun last => sourceNs - last
       receiptMonotonicDeltaNs :=
        tracker.lastReceiptMonotonicNs.map fun last => receipt.monotonicNs - last },
      { tracker with
        received := tracker.received + 1
        valid := tracker.valid + 1
        duplicates := tracker.duplicates + if status = .duplicate then 1 else 0
        regressions := tracker.regressions + if status = .regression then 1 else 0
        lastSourceNs := some sourceNs
        lastReceiptMonotonicNs := some receipt.monotonicNs })

/-- The reasons of `source_timing_jump_reason`. -/
inductive JumpReason where
  | sourceTimestampRegression
  | receiptMonotonicNotAdvancing
  | sourceReceiptDeltaDiscontinuity
  deriving DecidableEq, Repr

def sourceTimingJumpReason (sourceDeltaNs receiptMonotonicDeltaNs : Option ℤ)
    (maxDeltaErrorNs : ℤ) : Option JumpReason :=
  match sourceDeltaNs, receiptMonotonicDeltaNs with
  | some sourceDeltaNs, some receiptDeltaNs =>
    if sourceDeltaNs < 0 then some .sourceTimestampRegression
    else if receiptDeltaNs ≤ 0 then some .receiptMonotonicNotAdvancing
    else if maxDeltaErrorNs < |sourceDeltaNs - receiptDeltaNs| then
      some .sourceReceiptDeltaDiscontinuity
    else none
  | _, _ => none

/-! ## Quality -/

/-- The last `size` elements of a list. -/
def retained {α : Type} (size : ℕ) (samples : List α) : List α :=
  samples.drop (samples.length - size)

/-- `deque(maxlen=size)` of offsets and the monotonic times they were measured at. -/
structure QualityWindow where
  size : ℕ
  samples : List (ℤ × ℤ) := []

namespace QualityWindow

def add (window : QualityWindow) (offsetNs monotonicNs : ℤ) : QualityWindow :=
  { window with samples := retained window.size (window.samples ++ [(offsetNs, monotonicNs)]) }

def reset (window : QualityWindow) : QualityWindow := { window with samples := [] }

end QualityWindow

/-- The 95th percentile of the deviations from the median offset. -/
def jitterP95Ns (fl : ℚ → ℚ) (samples : List (ℤ × ℤ)) : Option ℚ :=
  let ordered := (samples.map Prod.fst).insertionSort (· ≤ ·)
  let median := ordered.getD (ordered.length / 2) 0
  let deviations := (ordered.map fun value => |value - median|).insertionSort (· ≤ ·)
  let index := min ((samples.length : ℤ) - 1) (⌈fl (fl (19 / 20) * samples.length)⌉ - 1)
  (deviations[index.toNat]?).map fun deviation => fl deviation

/-- The slope between the first and the last offset. -/
def driftPpm (fl : ℚ → ℚ) (samples : List (ℤ × ℤ)) : Option ℚ :=
  match samples.head?, samples.getLast? with
  | some first, some last =>
    let elapsed := last.2 - first.2
    if 1 < samples.length ∧ 0 < elapsed then
      some (fl (fl (((last.1 - first.1 : ℤ) : ℚ) / elapsed) * 1000000))
    else none
  | _, _ => none

/-- `QualityWindow.metrics`. -/
def QualityWindow.metrics (fl : ℚ → ℚ) (window : QualityWindow) : ℕ × Option ℚ × Option ℚ :=
  if window.samples = [] then (0, none, none)
  else (window.samples.length, jitterP95Ns fl window.samples, driftPpm fl window.samples)

/-! ## The node -/

/-- `topics`: the primary one and the fallback. -/
inductive Topic where
  | primary
  | fallback
  deriving DecidableEq, Repr

inductive Mode where
  | observeOnly
  | verifyGraph
  | feedChrony
  deriving DecidableEq, Repr

structure Arguments where
  mode : Mode
  warmupSamples : ℕ
  windowSamples : ℕ
  maxJitterMs : ℚ
  maxAbsoluteDriftPpm : ℚ
  maxFeedHz : ℚ
  primaryStaleSeconds : ℚ
  fallbackAgreementMs : ℚ
  maxSourceJumpMs : ℚ

/-- `int(value)`, towards zero. -/
def truncate (value : ℚ) : ℤ := if 0 ≤ value then ⌊value⌋ else ⌈value⌉

namespace Arguments

def feedMode (arguments : Arguments) : Bool := arguments.mode = .feedChrony

def approvalMode (arguments : Arguments) : Bool := arguments.mode ≠ .observeOnly

def maxSourceJumpNs (arguments : Arguments) (fl : ℚ → ℚ) : ℤ :=
  truncate (fl (arguments.maxSourceJumpMs * 1000000))

def primaryStaleNs (arguments : Arguments) (fl : ℚ → ℚ) : ℤ :=
  truncate (fl (arguments.primaryStaleSeconds * 1000000000))

def fallbackAgreementNs (arguments : Arguments) (fl : ℚ → ℚ) : ℤ :=
  truncate (fl (arguments.fallbackAgreementMs * 1000000))

def minIntervalNs (arguments : Arguments) (fl : ℚ → ℚ) : ℤ :=
  truncate (fl (1000000000 / arguments.maxFeedHz))

end Arguments

abbrev Gid := List UInt8

/-- The writers of the approval file, by topic. -/
abbrev Approvals := Topic → Option Gid

/-- `authorized_graph_topics`: the one live publisher of a topic is the approved one. -/
def authorizedGraphTopics (publishers : Topic → List Gid) (approvals : Approvals)
    (topic : Topic) : Bool :=
  match approvals topic, publishers topic with
  | some approvedGid, [currentGid] =>
    16 ≤ currentGid.length ∧ currentGid.take 16 = approvedGid.take 16
  | _, _ => false

/-- A message of a topic, and the clock reads of its callback. -/
structure Message where
  topic : Topic
  stamp : Time
  reads : ClockReads

/-- A sample that is sent to chrony. -/
structure ChronySample where
  sourceStampNs : ℤ
  receiptRealtimeNs : ℤ
  deriving DecidableEq, Repr

structure ClockRef where
  trackers : Topic → StreamTracker := fun _ => {}
  quality : Topic → QualityWindow
  lastReceipt : Topic → Option ℤ := fun _ => none
  lastOffset : Topic → Option ℤ := fun _ => none
  lastFeedMonotonicNs : ℤ := 0
  authorizedTopics : Topic → Bool := fun _ => false
  unsafeLatched : Bool := false
  feedCount : ℕ := 0
  clockDiscontinuityCount : ℕ := 0
  previousClockPair : Option ClockPair := none
  lastValidSampleMonotonicNs : ℤ := 0

/-- The local realtime clock was stepped between two receipts. -/
def clockStepped (previous receipt : ClockPair) : Bool :=
  50000000 < |receipt.realtimeNs - previous.realtimeNs -
    (receipt.monotonicNs - previous.monotonicNs)|

namespace ClockRef

def init (arguments : Arguments) : ClockRef where
  quality _ := { size := arguments.windowSamples }

/-- `_refresh_graph_authority`. -/
def refreshGraphAuthority (arguments : Arguments) (approvals : Approvals) (r : ClockRef)
    (publishers : Topic → List Gid) : ClockRef :=
  if arguments.approvalMode = false then r
  else { r with authorizedTopics := authorizedGraphTopics publishers approvals }

/-- The start of a callback: the windows are emptied after a step of the local clock. -/
def observeClocks (r : ClockRef) (receipt : ClockPair) : ClockRef :=
  if r.previousClockPair.any fun previous => clockStepped previous receipt then
    { r with
      quality := fun topic => (r.quality topic).reset
      clockDiscontinuityCount := r.clockDiscontinuityCount + 1
      previousClockPair := some receipt }
  else { r with previousClockPair := some receipt }

/-- A sample that is neither a duplicate nor suspicious. -/
def record (r : ClockRef) (topic : Topic) (offsetNs monotonicNs : ℤ) : ClockRef :=
  { r with
    lastValidSampleMonotonicNs := monotonicNs
    quality := Function.update r.quality topic ((r.quality topic).add offsetNs monotonicNs)
    lastReceipt := Function.update r.lastReceipt topic (some monotonicNs)
    lastOffset := Function.update r.lastOffset topic (some offsetNs) }

/-- The topic that feeds chrony when a sample of `topic` arrives. -/
def activeTopic (arguments : Arguments) (fl : ℚ → ℚ) (r : ClockRef) (topic : Topic)
    (monotonicNs : ℤ) : Topic :=
  if topic = .fallback ∧ (r.lastReceipt .primary).all fun primaryReceipt =>
      arguments.primaryStaleNs fl < monotonicNs - primaryReceipt then .fallback
  else .primary

/-- A fallback offset agrees with the last one of the primary topic. -/
def agrees (arguments : Arguments) (fl : ℚ → ℚ) (r : ClockRef) (offsetNs : ℤ) : Bool :=
  (r.lastOffset .primary).any fun primaryOffset =>
    |offsetNs - primaryOffset| ≤ arguments.fallbackAgreementNs fl

/-- The window of a topic is long and quiet enough. -/
def qualified (arguments : Arguments) (fl : ℚ → ℚ) (window : QualityWindow) : Bool :=
  let (count, jitterP95Ns, driftPpm) := window.metrics fl
  arguments.warmupSamples ≤ count ∧
    (jitterP95Ns.any fun jitter => jitter ≤ fl (arguments.maxJitterMs * 1000000)) ∧
    driftPpm.any fun drift => |drift| ≤ arguments.maxAbsoluteDriftPpm

/-- The end of a callback, after its sample has been recorded. -/
def feed (arguments : Arguments) (fl : ℚ → ℚ) (r : ClockRef) (topic : Topic)
    (sourceNs offsetNs : ℤ) (receipt : ClockPair) : Option ChronySample × ClockRef :=
  if arguments.feedMode = false ∨ r.unsafeLatched then (none, r)
  else if r.authorizedTopics topic = false then (none, r)
  else if topic ≠ r.activeTopic arguments fl topic receipt.monotonicNs then (none, r)
  else if topic = .fallback ∧ r.agrees arguments fl offsetNs = false then (none, r)
  else if qualified arguments fl (r.quality topic) = false then (none, r)
  else if receipt.monotonicNs - r.lastFeedMonotonicNs < arguments.minIntervalNs fl then (none, r)
  else
    (some ⟨sourceNs, receipt.realtimeNs⟩,
      { r with lastFeedMonotonicNs := receipt.monotonicNs, feedCount := r.feedCount + 1 })

/-- The callback of a topic. -/
def callback (arguments : Arguments) (fl : ℚ → ℚ) (r : ClockRef) (message : Message) :
    Option ChronySample × ClockRef :=
  let topic := message.topic
  let receipt := readClockPair message.reads
  let r := r.observeClocks receipt
  let (observation, tracker) := (r.trackers topic).observe message.stamp receipt
  let r := { r with trackers := Function.update r.trackers topic tracker }
  match observation.sourceStampNs, observation.sourceMinusReceiptNs with
  | some sourceNs, some offsetNs =>
    if observation.status = .regression then
      (none, { r with unsafeLatched := arguments.feedMode })
    else if observation.status = .duplicate then (none, r)
    else
      match sourceTimingJumpReason observation.sourceDeltaNs observation.receiptMonotonicDeltaNs
          (arguments.maxSourceJumpNs fl) with
      | some _ => (none, { r with unsafeLatched := arguments.approvalMode })
      | none =>
        let r := r.record topic offsetNs receipt.monotonicNs
        r.feed arguments fl topic sourceNs offsetNs receipt
  | _, _ => (none, { r with unsafeLatched := arguments.feedMode })

end ClockRef

inductive ClockEvent where
  /-- The graph timer, and the publishers it finds. -/
  | refresh (publishers : Topic → List Gid)
  | receive (message : Message)

/-- The node as its executor drives it. -/
def clockRef (arguments : Arguments) (fl : ℚ → ℚ) (approvals : Approvals) :
    Machine ClockRef ClockEvent (Option ChronySample) where
  step r
    | .refresh publishers => (none, r.refreshGraphAuthority arguments approvals publishers)
    | .receive message => r.callback arguments fl message

end UnitreeGo2.TimeSync
