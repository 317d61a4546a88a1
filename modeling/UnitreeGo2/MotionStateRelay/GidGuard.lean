import Mathlib.Data.Int.Notation
import Mathlib.Data.Nat.Notation
import Mathlib.Tactic.Lemma

/-!
# The identity guard of the motion-state relay

The guard freezes the one graph endpoint that names the publisher, and then the one handle
under which its messages arrive.  The two are different representations and are never
compared with each other.  A fault is latched with what was observed at the time.
-/

namespace UnitreeGo2.MotionStateRelay

def kPublisherGidBytes : ℕ := 24
def kRequiredStableGraphPolls : ℕ := 3
def kRequiredStableMessageSamples : ℕ := 3
def kInitialGraphDiscoveryTimeoutNs : ℤ := 1000000000

abbrev PublisherGid := Vector UInt8 kPublisherGidBytes

def mayDeferInitialPublisherAbsence (candidateSeen : Bool) (startedNs nowNs : ℤ) : Bool :=
  !candidateSeen && 0 < startedNs && startedNs ≤ nowNs &&
    nowNs - startedNs < kInitialGraphDiscoveryTimeoutNs

def isNonzeroGid (gid : PublisherGid) : Bool := gid.toList.any (· ≠ 0)

/-- The writer's identity is not zero, and what is stored behind it is. -/
def isCycloneGraphGidShape (gid : PublisherGid) : Bool :=
  (gid.toList.take 16).any (· ≠ 0) && (gid.toList.drop 16).all (· = 0)

/-- The publication handle is not zero, and what is stored behind it is. -/
def isCycloneMessageGidShape (gid : PublisherGid) : Bool :=
  (gid.toList.take 8).any (· ≠ 0) && (gid.toList.drop 8).all (· = 0)

def hexDigit (n : ℕ) : Char := "0123456789abcdef".toList.getD n '0'

def gidToHex (gid : PublisherGid) : String :=
  String.ofList (gid.toList.flatMap fun b => [hexDigit (b.toNat / 16), hexDigit (b.toNat % 16)])

structure GraphObservation where
  publisherCount : ℕ := 0
  identityExact : Bool := false
  qosExact : Bool := false
  gid : PublisherGid := Vector.replicate _ 0

inductive GidDomain where
  | none
  | graph
  | message
  deriving DecidableEq

def GidDomain.toWire : GidDomain → String
  | .graph => "graph"
  | .message => "message"
  | .none => "-"

structure GuardFault where
  reason : String
  graphGid : Option PublisherGid := none
  messageGid : Option PublisherGid := none
  observedGid : Option PublisherGid := none
  observedGidDomain : GidDomain := .none
  publisherCount : ℕ := 0
  deriving DecidableEq

structure PublisherGidGuard where
  graphCandidateGid : Option PublisherGid := none
  frozenGraphGid : Option PublisherGid := none
  messageCandidateGid : Option PublisherGid := none
  frozenMessageGid : Option PublisherGid := none
  fault : Option GuardFault := none
  stableGraphPolls : ℕ := 0
  stableMessageSamples : ℕ := 0
  lastPublisherCount : ℕ := 0
  perMessageGidVerified : Bool := false

namespace PublisherGidGuard

def graphBound (g : PublisherGidGuard) : Bool := g.frozenGraphGid.isSome

def messageBound (g : PublisherGidGuard) : Bool := g.frozenMessageGid.isSome

def bound (g : PublisherGidGuard) : Bool := g.graphBound && g.messageBound

def faulted (g : PublisherGidGuard) : Bool := g.fault.isSome

def candidateSeen (g : PublisherGidGuard) : Bool := g.graphCandidateGid.isSome

def currentGraphGid (g : PublisherGidGuard) : Option PublisherGid :=
  g.frozenGraphGid.or g.graphCandidateGid

def currentMessageGid (g : PublisherGidGuard) : Option PublisherGid :=
  g.frozenMessageGid.or g.messageCandidateGid

def latchFault (fault : GuardFault) (g : PublisherGidGuard) : PublisherGidGuard :=
  if g.fault.isSome then g else { g with fault := some fault }

/-- The fault of a graph poll. -/
def graphFault (reason : String) (observed : Option PublisherGid) (domain : GidDomain)
    (g : PublisherGidGuard) : PublisherGidGuard :=
  g.latchFault ⟨reason, g.currentGraphGid, g.currentMessageGid, observed, domain,
    g.lastPublisherCount⟩

def freezeGraph (g : PublisherGidGuard) : PublisherGidGuard :=
  if g.stableGraphPolls = kRequiredStableGraphPolls then
    { g with frozenGraphGid := g.graphCandidateGid }
  else g

/-- The candidate of the graph, once a poll names exactly one publisher. -/
def bindGraph (gid : PublisherGid) (g : PublisherGidGuard) : PublisherGidGuard :=
  match g.graphCandidateGid with
  | none => { g with graphCandidateGid := some gid, stableGraphPolls := 1 }.freezeGraph
  | some candidate =>
    if candidate ≠ gid then
      g.graphFault "graph_publisher_gid_changed_before_freeze" (some gid) .graph
    else { g with stableGraphPolls := g.stableGraphPolls + 1 }.freezeGraph

def observeGraph (observation : GraphObservation) (g : PublisherGidGuard) : PublisherGidGuard :=
  if g.fault.isSome then g
  else
    let g := { g with lastPublisherCount := observation.publisherCount }
    if observation.publisherCount ≠ 1 then
      g.graphFault "publisher_count_not_one" none .none
    else if !observation.identityExact then
      g.graphFault "publisher_identity_mismatch" (some observation.gid) .graph
    else if !observation.qosExact then
      g.graphFault "publisher_qos_mismatch" (some observation.gid) .graph
    else if !isNonzeroGid observation.gid then
      g.graphFault "graph_publisher_gid_zero" none .graph
    else if !isCycloneGraphGidShape observation.gid then
      g.graphFault "graph_publisher_gid_shape_mismatch" (some observation.gid) .graph
    else
      match g.frozenGraphGid with
      | some frozen =>
        if observation.gid ≠ frozen then
          g.graphFault "graph_publisher_gid_changed" (some observation.gid) .graph
        else g
      | none => g.bindGraph observation.gid

/-- The fault of a message sample. -/
def messageFault (reason : String) (observed : Option PublisherGid) (g : PublisherGidGuard) :
    Bool × PublisherGidGuard :=
  (false, g.latchFault ⟨reason, g.frozenGraphGid, g.currentMessageGid, observed, .message,
    g.lastPublisherCount⟩)

def freezeMessage (g : PublisherGidGuard) : Bool × PublisherGidGuard :=
  if g.stableMessageSamples < kRequiredStableMessageSamples then (false, g)
  else (true, { g with frozenMessageGid := g.messageCandidateGid, perMessageGidVerified := true })

/-- The candidate of the messages, once the graph is frozen. -/
def bindMessage (gid : PublisherGid) (g : PublisherGidGuard) : Bool × PublisherGidGuard :=
  match g.messageCandidateGid with
  | none => { g with messageCandidateGid := some gid, stableMessageSamples := 1 }.freezeMessage
  | some candidate =>
    if candidate ≠ gid then
      g.messageFault "message_publisher_gid_changed_before_freeze" (some gid)
    else { g with stableMessageSamples := g.stableMessageSamples + 1 }.freezeMessage

/-- `ObserveMessage`, with the value that it returns. -/
def observeMessage (observedGid : PublisherGid) (implementationIdentifierExact : Bool)
    (g : PublisherGidGuard) : Bool × PublisherGidGuard :=
  if g.fault.isSome then (false, g)
  else if g.frozenGraphGid.isNone then (false, g)
  else if !implementationIdentifierExact then
    g.messageFault "message_publisher_gid_implementation_mismatch" (some observedGid)
  else if !isNonzeroGid observedGid then g.messageFault "message_publisher_gid_zero" none
  else if !isCycloneMessageGidShape observedGid then
    g.messageFault "message_publisher_gid_shape_mismatch" (some observedGid)
  else
    match g.frozenMessageGid with
    | some frozen =>
      if observedGid ≠ frozen then
        g.messageFault "message_publisher_gid_changed" (some observedGid)
      else (true, { g with perMessageGidVerified := true })
    | none => g.bindMessage observedGid

end PublisherGidGuard

end UnitreeGo2.MotionStateRelay
