import Mathlib.Data.List.Basic
import Mathlib.Data.Nat.Init
import Mathlib.Order.Basic
import UnitreeGo2.MotionStateRelay.Relay

/-!
# The transitions of the motion-state relay

What draining the heartbeat pipe leaves of the bytes that arrived, whatever their chunks, and
what a poll and a message can do to a relay that has drained it.
-/

namespace UnitreeGo2.MotionStateRelay

variable {α : Type}

/-! ## Faults -/

/-- A fault is reported. -/
def RelayEffect.IsReport : RelayEffect α → Prop
  | .event (.fault _) => True
  | .eventPipeFailed => True
  | _ => False

/-- What the relay remembers of the samples that it accepted. -/
def Relay.tally (r : Relay α) : Option ℤ × Option ℤ × ℕ × Bool :=
  (r.lastReceiptSteadyNs, r.lastCorrectedStampNs, r.validSamples, r.readyEmitted)

/-- The relay has faulted, reported this once, and accepted nothing. -/
structure Failed (r r' : Relay α) : Prop where
  faulted : r'.faulted = true
  report : ∃ e : RelayEffect α, e.IsReport ∧ r'.effects = r.effects ++ [e] ∧
    ∀ fault, r'.gidGuard.fault = some fault → e = .event (.fault fault)
  tally : r'.tally = r.tally

section Faults

variable {r r' : Relay α}

/-- A fault in a relay in which nothing that matters has changed, reported as the guard
latched it. -/
lemma failed_latchFaultDetailed (s : Relay α) (report : GuardFault) (hf : s.faulted = false)
    (hguard : ∀ fault, s.gidGuard.fault = some fault → report = fault)
    (heffects : s.effects = r.effects) (htally : s.tally = r.tally) :
    Failed r (s.latchFaultDetailed report) := by
  rw [Relay.latchFaultDetailed, if_neg (by simp [hf])]
  refine ⟨rfl, ⟨.event (.fault report), trivial, ?_, fun fault h => ?_⟩, htally⟩
  · rw [← heffects]
    rfl
  · rw [hguard fault h]

/-- A fault that is not one of the guard. -/
lemma failed_latchFault (s : Relay α) (report : GuardFault) (hf : s.faulted = false)
    (hguard : s.gidGuard.fault = none) (heffects : s.effects = r.effects)
    (htally : s.tally = r.tally) : Failed r (s.latchFaultDetailed report) := by
  refine failed_latchFaultDetailed s report hf (fun fault h => ?_) heffects htally
  rw [hguard] at h
  cases h

lemma failed_latchGuardFault (s : Relay α) (hf : s.faulted = false)
    (heffects : s.effects = r.effects) (htally : s.tally = r.tally) :
    Failed r s.latchGuardFault := by
  unfold Relay.latchGuardFault
  split
  · rename_i report hreport
    refine failed_latchFaultDetailed s report hf (fun fault h => ?_) heffects htally
    rw [hreport] at h
    exact Option.some.inj h
  · rename_i hguard
    exact failed_latchFault s _ hf hguard heffects htally

/-- A fault does not depend on what else has changed before it. -/
lemma Failed.of_eq {s : Relay α} (h : Failed s r') (heffects : s.effects = r.effects)
    (htally : s.tally = r.tally) : Failed r r' :=
  ⟨h.faulted, heffects ▸ h.report, h.tally.trans htally⟩

end Faults

/-! ## The heartbeat pipe -/

/-- The bytes are records with the given stamps, and then an incomplete record. -/
structure HeartbeatStream (bytes : List UInt8) (stamps : List ℤ) (rest : List UInt8) : Prop where
  records : ∃ records : List (List UInt8),
    bytes = records.flatMap (· ++ [newline]) ++ rest ∧
      records.map heartbeatStamp? = stamps.map some
  ordered : stamps.Pairwise (· < ·)
  incomplete : newline ∉ rest

/-- The relay has taken the records of the given stamps out of the bytes. -/
structure HeartbeatRead (bytes : List UInt8) (stamps : List ℤ) (r : Relay α) : Prop where
  records : ∃ records : List (List UInt8),
    bytes = records.flatMap (· ++ [newline]) ++ r.heartbeatBuffer ∧
      records.map heartbeatStamp? = stamps.map some
  ordered : stamps.Pairwise (· < ·)
  last : r.heartbeatGuard.lastSenderNs = stamps.getLast?
  sound : r.heartbeatGuard.faulted = false

/-- The bytes that a sequence of reads returns before it ends. -/
def received : List ReadResult → List UInt8
  | [] => []
  | read :: reads =>
    match read with
    | .data bytes => bytes ++ received reads
    | .interrupted => received reads
    | _ => []

lemma splitRecord_eq_some {bytes record rest : List UInt8}
    (h : splitRecord bytes = some (record, rest)) : bytes = record ++ newline :: rest := by
  induction bytes generalizing record with
  | nil => cases h
  | cons b bs ih =>
    unfold splitRecord at h
    split at h
    · rename_i hb
      cases h
      rw [hb]
      rfl
    · obtain ⟨⟨record', rest'⟩, hsplit, heq⟩ := Option.map_eq_some_iff.mp h
      cases heq
      rw [ih hsplit]
      rfl

lemma splitRecord_eq_none {bytes : List UInt8} (h : splitRecord bytes = none) :
    newline ∉ bytes := by
  induction bytes with
  | nil => simp
  | cons b bs ih =>
    unfold splitRecord at h
    split at h
    · cases h
    · rename_i hb
      rw [Option.map_eq_none_iff] at h
      rw [List.mem_cons, not_or]
      exact ⟨fun heq => hb heq.symm, ih h⟩

/-- The newest stamp of an ordered list exceeds the others. -/
lemma pairwise_concat_of_last {stamps : List ℤ} {stamp : ℤ} (h : stamps.Pairwise (· < ·))
    (hlast : ∀ last, stamps.getLast? = some last → last < stamp) :
    (stamps ++ [stamp]).Pairwise (· < ·) := by
  refine List.pairwise_append.mpr ⟨h, List.pairwise_singleton _ _, fun a ha b hb => ?_⟩
  rw [List.mem_singleton.mp hb]
  obtain ⟨l, last, rfl⟩ := stamps.eq_nil_or_concat'.resolve_left (List.ne_nil_of_mem ha)
  have hle : last < stamp := hlast last (by simp)
  rcases List.mem_append.mp ha with ha | ha
  · have := (List.pairwise_append.mp h).2.2 a ha last (by simp)
    omega
  · rw [List.mem_singleton.mp ha]
    exact hle

/-- A stamp that the guard takes is its newest. -/
lemma observe_eq_true {h : HeartbeatTimestampGuard} {senderNs : ℤ}
    (hobserve : (h.observe senderNs).1 = true) :
    (∀ last, h.lastSenderNs = some last → last < senderNs) ∧
      (h.observe senderNs).2 = { h with lastSenderNs := some senderNs } := by
  unfold HeartbeatTimestampGuard.observe at hobserve ⊢
  split at hobserve
  · cases hobserve
  rename_i hsound
  split at hobserve
  · cases hobserve
  rename_i hpositive
  split at hobserve
  · cases hobserve
  rename_i hnewer
  rw [if_neg hsound, if_neg hpositive, if_neg hnewer]
  refine ⟨fun last hlast => ?_, rfl⟩
  rw [hlast] at hnewer
  simpa using hnewer

/-- What is left of a relay that has read without a fault. -/
structure Drained (bytes : List UInt8) (r r' : Relay α) : Prop where
  frame : ∃ buffer guard, r' = { r with heartbeatBuffer := buffer, heartbeatGuard := guard }
  read : ∃ stamps, HeartbeatRead bytes stamps r'
  incomplete : newline ∉ r'.heartbeatBuffer

/-- A record whose stamp the guard takes is one more that has been read. -/
lemma HeartbeatRead.concat {bytes record rest : List UInt8} {stamps : List ℤ} {stamp : ℤ}
    {r : Relay α} (h : HeartbeatRead bytes stamps r)
    (hsplit : splitRecord r.heartbeatBuffer = some (record, rest))
    (hstamp : heartbeatStamp? record = some stamp)
    (hobserve : (r.heartbeatGuard.observe stamp).1 = true) :
    HeartbeatRead bytes (stamps ++ [stamp]) { r with
      heartbeatBuffer := rest
      heartbeatGuard := (r.heartbeatGuard.observe stamp).2 } := by
  obtain ⟨hnewer, hguard⟩ := observe_eq_true hobserve
  obtain ⟨records, hbytes, hstamps⟩ := h.records
  refine ⟨⟨records ++ [record], ?_, ?_⟩, ?_, ?_, ?_⟩
  · rw [hbytes, splitRecord_eq_some hsplit]
    simp
  · rw [List.map_append, List.map_append, hstamps]
    simp [hstamp]
  · exact pairwise_concat_of_last h.ordered fun last hlast => hnewer last (h.last.trans hlast)
  · rw [hguard]
    simp
  · rw [hguard]
    exact h.sound

/-- The loop takes every complete record out of the buffer, or faults. -/
lemma parseHeartbeatRecords_cases {bytes : List UInt8} (r : Relay α) (hf : r.faulted = false)
    (hg : r.gidGuard.fault = none) {stamps : List ℤ} (hr : HeartbeatRead bytes stamps r) :
    Failed r r.parseHeartbeatRecords ∨ Drained bytes r r.parseHeartbeatRecords := by
  -- each turn of the loop shortens the buffer
  induction hn : r.heartbeatBuffer.length using Nat.strongRecOn generalizing r stamps with
  | _ n ih =>
    rw [Relay.parseHeartbeatRecords, if_neg (by simp [hf])]
    split
    · rename_i hsplit
      exact Or.inr ⟨⟨_, _, rfl⟩, ⟨stamps, hr⟩, splitRecord_eq_none hsplit⟩
    · rename_i record rest hsplit
      dsimp only
      split
      · exact Or.inl (failed_latchFault _ _ hf hg rfl rfl)
      · rename_i stamp hstamp
        split
        · rename_i hobserve
          have hlt : rest.length < n := hn ▸ length_lt_of_splitRecord hsplit
          have hread := hr.concat hsplit hstamp hobserve
          rcases ih rest.length hlt { r with
              heartbeatBuffer := rest
              heartbeatGuard := (r.heartbeatGuard.observe stamp).2 } hf hg hread rfl with
            h | ⟨⟨buffer, guard, heq⟩, hstamps, hrest⟩
          · exact Or.inl (h.of_eq rfl rfl)
          · exact Or.inr ⟨⟨buffer, guard, heq⟩, hstamps, hrest⟩
        · exact Or.inl (failed_latchFault _ _ hf hg rfl rfl)

lemma drainHeartbeat_of_faulted (reads : List ReadResult) {r : Relay α} (hf : r.faulted = true) :
    r.drainHeartbeat reads = r := by
  cases reads with
  | nil => rfl
  | cons read reads =>
    unfold Relay.drainHeartbeat
    rw [if_pos hf]

/-- **Draining the pipe takes the records out of the bytes, however they were chunked, or
faults.** -/
theorem drainHeartbeat_cases (reads : List ReadResult) {bytes : List UInt8} (r : Relay α)
    (hf : r.faulted = false) (hg : r.gidGuard.fault = none) {stamps : List ℤ}
    (hr : HeartbeatRead bytes stamps r) (hrest : newline ∉ r.heartbeatBuffer) :
    Failed r (r.drainHeartbeat reads) ∨
      Drained (bytes ++ received reads) r (r.drainHeartbeat reads) := by
  induction reads generalizing r bytes stamps with
  | nil =>
    rw [received, List.append_nil]
    exact Or.inr ⟨⟨_, _, rfl⟩, ⟨stamps, hr⟩, hrest⟩
  | cons read reads ih =>
    unfold Relay.drainHeartbeat received
    rw [if_neg (by simp [hf])]
    cases read with
    | data chunk =>
      let s : Relay α := { r with heartbeatBuffer := r.heartbeatBuffer ++ chunk }
      have hread : HeartbeatRead (bytes ++ chunk) stamps s := by
        obtain ⟨records, hbytes, hstamps⟩ := hr.records
        exact ⟨⟨records, by rw [hbytes, List.append_assoc], hstamps⟩, hr.ordered, hr.last,
          hr.sound⟩
      dsimp only
      split
      · exact Or.inl (failed_latchFault _ _ hf hg rfl rfl)
      · rcases parseHeartbeatRecords_cases s hf hg hread with
          h | ⟨⟨buffer, guard, heq⟩, ⟨_, hp⟩, hi⟩
        · rw [drainHeartbeat_of_faulted reads h.faulted]
          exact Or.inl (h.of_eq rfl rfl)
        · rw [← List.append_assoc]
          have hfp : s.parseHeartbeatRecords.faulted = false := by
            rw [heq]
            exact hf
          have hgp : s.parseHeartbeatRecords.gidGuard.fault = none := by
            rw [heq]
            exact hg
          rcases ih s.parseHeartbeatRecords hfp hgp hp hi with
            h | ⟨⟨buffer', guard', heq'⟩, hs, hi'⟩
          · exact Or.inl (h.of_eq (by rw [heq]) (by rw [heq]; rfl))
          · exact Or.inr ⟨⟨buffer', guard', by rw [heq', heq]⟩, hs, hi'⟩
    | interrupted => exact ih r hf hg hr hrest
    | wouldBlock =>
      rw [List.append_nil]
      exact Or.inr ⟨⟨_, _, rfl⟩, ⟨stamps, hr⟩, hrest⟩
    | eof => exact Or.inl (failed_latchFault _ _ hf hg rfl rfl)
    | error => exact Or.inl (failed_latchFault _ _ hf hg rfl rfl)

/-! ## The identity guard -/

/-- What the guard has frozen, or is about to freeze, of the graph. -/
def PublisherGidGuard.graphPart (g : PublisherGidGuard) :
    Option PublisherGid × Option PublisherGid × ℕ :=
  (g.graphCandidateGid, g.frozenGraphGid, g.stableGraphPolls)

/-- What the guard has frozen, or is about to freeze, of the messages. -/
def PublisherGidGuard.messagePart (g : PublisherGidGuard) :
    Option PublisherGid × Option PublisherGid × ℕ :=
  (g.messageCandidateGid, g.frozenMessageGid, g.stableMessageSamples)

/-- What a poll does to a guard that then has no fault. -/
inductive GraphVerified (gid : PublisherGid) (g g' : PublisherGidGuard) : Prop where
  | known (hfrozen : g.frozenGraphGid = some gid) (hgraph : g'.graphPart = g.graphPart)
  | first (hfrozen : g.frozenGraphGid = none) (hgraph : g'.graphPart = (some gid, none, 1))
  | counted (hfrozen : g.frozenGraphGid = none) (hcandidate : g.graphCandidateGid = some gid)
      (hgraph : g'.graphPart = (some gid, none, g.stableGraphPolls + 1))
  | frozen (hcandidate : g.graphCandidateGid = some gid)
      (hstable : g.stableGraphPolls + 1 = kRequiredStableGraphPolls)
      (hgraph : g'.graphPart = (some gid, some gid, g.stableGraphPolls + 1))

section Guard

variable {g : PublisherGidGuard}

lemma faulted_latchFault (fault : GuardFault) (g : PublisherGidGuard) :
    (g.latchFault fault).faulted = true := by
  unfold PublisherGidGuard.latchFault PublisherGidGuard.faulted
  split
  · assumption
  · rfl

lemma bindGraph_cases (hg : g.fault = none) (hfrozen : g.frozenGraphGid = none)
    (gid : PublisherGid) :
    (g.bindGraph gid).faulted = true ∨ (g.bindGraph gid).fault = none ∧
      GraphVerified gid g (g.bindGraph gid) ∧ (g.bindGraph gid).messagePart = g.messagePart := by
  unfold PublisherGidGuard.bindGraph PublisherGidGuard.freezeGraph
  split
  · refine Or.inr ?_
    rw [if_neg (show (1 : ℕ) ≠ kRequiredStableGraphPolls by decide)]
    refine ⟨hg, .first hfrozen ?_, rfl⟩
    simp only [PublisherGidGuard.graphPart, hfrozen]
  · rename_i candidate hcandidate
    split
    · exact Or.inl (faulted_latchFault _ _)
    · rename_i hsame
      rw [not_not] at hsame
      subst hsame
      refine Or.inr ?_
      split
      · rename_i hstable
        exact ⟨hg, .frozen hcandidate hstable (by
          simp only [PublisherGidGuard.graphPart, hcandidate]), rfl⟩
      · exact ⟨hg, .counted hfrozen hcandidate (by
          simp only [PublisherGidGuard.graphPart, hcandidate, hfrozen]), rfl⟩

/-- A poll faults the guard, or names exactly one publisher. -/
lemma observeGraph_cases (observation : GraphObservation) (hg : g.fault = none) :
    (g.observeGraph observation).faulted = true ∨
      (observation.publisherCount = 1 ∧ observation.identityExact = true ∧
        observation.qosExact = true) ∧ (g.observeGraph observation).fault = none ∧
      GraphVerified observation.gid g (g.observeGraph observation) ∧
      (g.observeGraph observation).messagePart = g.messagePart := by
  unfold PublisherGidGuard.observeGraph
  rw [if_neg (by simp [hg])]
  dsimp only
  split
  · exact Or.inl (faulted_latchFault _ _)
  rename_i hcount
  split
  · exact Or.inl (faulted_latchFault _ _)
  rename_i hidentity
  split
  · exact Or.inl (faulted_latchFault _ _)
  rename_i hqos
  split
  · exact Or.inl (faulted_latchFault _ _)
  split
  · exact Or.inl (faulted_latchFault _ _)
  rw [not_not] at hcount
  rw [Bool.not_eq_true', Bool.not_eq_false] at hidentity hqos
  have hexact := And.intro hcount (And.intro hidentity hqos)
  split
  · rename_i frozen hfrozen
    split
    · exact Or.inl (faulted_latchFault _ _)
    · rename_i hsame
      rw [not_not] at hsame
      exact Or.inr ⟨hexact, hg, .known (hsame ▸ hfrozen) rfl, rfl⟩
  · rename_i hfrozen
    rcases bindGraph_cases (g := { g with lastPublisherCount := observation.publisherCount }) hg
      hfrozen observation.gid with h | ⟨hfault, hverified, hmessage⟩
    · exact Or.inl h
    · refine Or.inr ⟨hexact, hfault, ?_, hmessage⟩
      cases hverified with
      | known h hgraph => exact .known h hgraph
      | first h hgraph => exact .first h hgraph
      | counted h hcandidate hgraph => exact .counted h hcandidate hgraph
      | frozen hcandidate hstable hgraph => exact .frozen hcandidate hstable hgraph

/-- What a sample does to a guard that then has no fault. -/
inductive MessageVerified (gid : PublisherGid) (g g' : PublisherGidGuard) : Bool → Prop where
  | known (hfrozen : g.frozenMessageGid = some gid) (hmessage : g'.messagePart = g.messagePart) :
      MessageVerified gid g g' true
  | first (hfrozen : g.frozenMessageGid = none) (hmessage : g'.messagePart = (some gid, none, 1)) :
      MessageVerified gid g g' false
  | counted (hfrozen : g.frozenMessageGid = none) (hcandidate : g.messageCandidateGid = some gid)
      (hmessage : g'.messagePart = (some gid, none, g.stableMessageSamples + 1)) :
      MessageVerified gid g g' false
  | frozen (hcandidate : g.messageCandidateGid = some gid)
      (hstable : kRequiredStableMessageSamples ≤ g.stableMessageSamples + 1)
      (hmessage : g'.messagePart = (some gid, some gid, g.stableMessageSamples + 1)) :
      MessageVerified gid g g' true

lemma bindMessage_cases (hg : g.fault = none) (hfrozen : g.frozenMessageGid = none)
    (gid : PublisherGid) :
    (g.bindMessage gid).2.faulted = true ∧ (g.bindMessage gid).1 = false ∨
      (g.bindMessage gid).2.fault = none ∧
        MessageVerified gid g (g.bindMessage gid).2 (g.bindMessage gid).1 ∧
        (g.bindMessage gid).2.graphPart = g.graphPart := by
  unfold PublisherGidGuard.bindMessage PublisherGidGuard.freezeMessage
  split
  · refine Or.inr ?_
    rw [if_pos (show (1 : ℕ) < kRequiredStableMessageSamples by decide)]
    refine ⟨hg, .first hfrozen ?_, rfl⟩
    simp only [PublisherGidGuard.messagePart, hfrozen]
  · rename_i candidate hcandidate
    split
    · exact Or.inl ⟨faulted_latchFault _ _, rfl⟩
    · rename_i hsame
      rw [not_not] at hsame
      subst hsame
      refine Or.inr ?_
      split
      · exact ⟨hg, .counted hfrozen hcandidate (by
          simp only [PublisherGidGuard.messagePart, hcandidate, hfrozen]), rfl⟩
      · rename_i hstable
        exact ⟨hg, .frozen hcandidate (Nat.not_lt.mp hstable) (by
          simp only [PublisherGidGuard.messagePart, hcandidate]), rfl⟩

/-- A sample faults the guard, or comes from a writer with an exact identifier. -/
lemma observeMessage_cases (gid : PublisherGid) (exact : Bool) (hg : g.fault = none)
    (hbound : g.graphBound = true) :
    (g.observeMessage gid exact).2.faulted = true ∧ (g.observeMessage gid exact).1 = false ∨
      exact = true ∧ (g.observeMessage gid exact).2.fault = none ∧
        MessageVerified gid g (g.observeMessage gid exact).2 (g.observeMessage gid exact).1 ∧
        (g.observeMessage gid exact).2.graphPart = g.graphPart := by
  have hsome : g.frozenGraphGid.isNone = false := by
    obtain ⟨frozen, hfrozen⟩ := Option.isSome_iff_exists.mp hbound
    rw [hfrozen]
    rfl
  unfold PublisherGidGuard.observeMessage
  rw [if_neg (by simp [hg]), if_neg (by simp [hsome])]
  split
  · exact Or.inl ⟨faulted_latchFault _ _, rfl⟩
  rename_i hexact
  rw [Bool.not_eq_true', Bool.not_eq_false] at hexact
  split
  · exact Or.inl ⟨faulted_latchFault _ _, rfl⟩
  split
  · exact Or.inl ⟨faulted_latchFault _ _, rfl⟩
  split
  · rename_i frozen hfrozen
    split
    · exact Or.inl ⟨faulted_latchFault _ _, rfl⟩
    · rename_i hsame
      rw [not_not] at hsame
      exact Or.inr ⟨hexact, hg, .known (hsame ▸ hfrozen) rfl, rfl⟩
  · rename_i hfrozen
    exact (bindMessage_cases hg hfrozen gid).imp_right fun h => ⟨hexact, h⟩

end Guard

/-! ## Polls -/

/-- What a poll does to a relay that has drained the pipe. -/
inductive PollStep (nowNs : ℤ) (endpoints : Option (List Endpoint)) (d r' : Relay α) : Prop where
  | failed (h : Failed d r')
  | waiting (h : r' = d)
  | verified (e : Endpoint) (g : PublisherGidGuard) (hendpoints : endpoints = some [e])
      (hexact : e.identityExact = true ∧ e.qosExact = true) (hguard : g.fault = none)
      (hgraph : GraphVerified e.gid d.gidGuard g)
      (hmessage : g.messagePart = d.gidGuard.messagePart)
      (h : r' = { d with
        gidGuard := g
        lastGraphVerifiedSteadyNs :=
          if g.graphBound then some nowNs else d.lastGraphVerifiedSteadyNs })

/-- An exact observation is that of a single publisher. -/
lemma graphObservation_of_identityExact {endpoints : List Endpoint}
    (h : (graphObservation endpoints).identityExact = true) :
    ∃ e, endpoints = [e] ∧
      graphObservation endpoints = ⟨1, e.identityExact, e.qosExact, e.gid⟩ := by
  match endpoints with
  | [e] => exact ⟨e, rfl, rfl⟩
  | [] => cases h
  | _ :: _ :: _ => cases h

section Callbacks

variable {config : RelayConfig} {d : Relay α} {nowNs : ℤ}

lemma checkReceipt_cases (config : RelayConfig) (nowNs : ℤ) (d : Relay α)
    (hf : d.faulted = false) (hg : d.gidGuard.fault = none) :
    Failed d (d.checkReceipt config nowNs) ∨ d.checkReceipt config nowNs = d := by
  unfold Relay.checkReceipt
  split
  · split
    · exact Or.inl (failed_latchFault d _ hf hg rfl rfl)
    · exact Or.inr rfl
  · split
    · exact Or.inl (failed_latchFault d _ hf hg rfl rfl)
    · exact Or.inr rfl

lemma verifyGraph_cases (endpoints : List Endpoint) (hf : d.faulted = false)
    (hg : d.gidGuard.fault = none) :
    PollStep nowNs (some endpoints) d (d.verifyGraph config nowNs endpoints) := by
  unfold Relay.verifyGraph
  split
  · exact .waiting rfl
  dsimp only
  rcases observeGraph_cases (graphObservation endpoints) hg with
    hfault | ⟨⟨-, hidentity, hqos⟩, hfault, hgraph, hmessage⟩
  · rw [if_pos hfault]
    exact .failed (failed_latchGuardFault _ hf rfl rfl)
  · obtain ⟨e, rfl, heq⟩ := graphObservation_of_identityExact hidentity
    have hsound : (d.gidGuard.observeGraph (graphObservation [e])).faulted = false := by
      rw [PublisherGidGuard.faulted, hfault]
      rfl
    rw [if_neg (by simp [hsound])]
    rcases checkReceipt_cases config nowNs { d with
        gidGuard := d.gidGuard.observeGraph (graphObservation [e])
        lastGraphVerifiedSteadyNs :=
          if (d.gidGuard.observeGraph (graphObservation [e])).graphBound then some nowNs
          else d.lastGraphVerifiedSteadyNs } hf hfault with h | h
    · exact .failed (h.of_eq rfl rfl)
    · exact .verified e _ rfl ⟨hidentity, hqos⟩ hfault hgraph hmessage h

/-- **A poll faults, waits, or verifies the one publisher that it finds.** -/
theorem pollGraphAndSupervisor_cases (reads : List ReadResult) (endpoints : Option (List Endpoint))
    {r : Relay α} (hf : r.faulted = false) (hd : r.drainHeartbeat reads = d)
    (hdf : d.faulted = false) (hg : d.gidGuard.fault = none) :
    PollStep nowNs endpoints d (r.pollGraphAndSupervisor config reads nowNs endpoints) := by
  unfold Relay.pollGraphAndSupervisor
  rw [if_neg (by simp [hf]), hd, if_neg (by simp [hdf])]
  split
  · split
    · exact .failed (failed_latchFault d _ hdf hg rfl rfl)
    · exact .waiting rfl
  · cases endpoints with
    | none => exact .failed (failed_latchFault d _ hdf hg rfl rfl)
    | some endpoints => exact verifyGraph_cases endpoints hdf hg

end Callbacks

/-! ## Messages -/

/-- The relay that has accepted a sample. -/
def Relay.counted (stampNs nowSteadyNs : ℤ) (r : Relay α) : Relay α :=
  { r with
    lastCorrectedStampNs := some stampNs
    lastReceiptSteadyNs := some nowSteadyNs
    validSamples := r.validSamples + 1 }

/-- What becomes of an accepted sample. -/
inductive AcceptStep (message : StateMessage α) (c r' : Relay α) : Prop where
  | published (hready : c.readyEmitted = true) (h : r' = c.emit (.published message))
  | counted (hready : c.readyEmitted = false) (h : r' = c)
  | announced (hsamples : kMinimumReadySamples ≤ c.validSamples)
      (graphGid messageGid : PublisherGid) (hgraph : c.gidGuard.frozenGraphGid = some graphGid)
      (hmessage : c.gidGuard.frozenMessageGid = some messageGid)
      (h : r' = { c.emit (.event (.ready graphGid messageGid c.validSamples
        c.gidGuard.lastPublisherCount c.gidGuard.stableGraphPolls
        c.gidGuard.stableMessageSamples)) with readyEmitted := true })
  | failed (h : Failed c r')

/-- The stamp of a sample is valid, fresh and newer than the last one, and so is its receipt. -/
structure SampleValid (s : Relay α) (message : StateMessage α)
    (nowSteadyNs nowSystemNs stampNs : ℤ) : Prop where
  stamp : correctedStampNs message = some stampNs
  advances : ∀ last, s.lastCorrectedStampNs = some last → last < stampNs
  fresh : evaluateCorrectedStampFreshness nowSystemNs stampNs = .fresh
  receipt : ∀ receiptNs, s.lastReceiptSteadyNs = some receiptNs → receiptNs ≤ nowSteadyNs

/-- What becomes of a sample of the verified writer. -/
inductive SampleStep (message : StateMessage α) (nowSteadyNs nowSystemNs : ℤ) (s r' : Relay α) :
    Prop where
  | failed (h : Failed s r')
  | dropped (h : r' = s)
  | accepted (stampNs : ℤ) (hvalid : SampleValid s message nowSteadyNs nowSystemNs stampNs)
      (h : AcceptStep message (s.counted stampNs nowSteadyNs) r')

/-- What holds of a message that is one of the first samples, or has its stamp checked. -/
structure MessageChecked (config : RelayConfig) (info : MessageInfo) (nowSteadyNs : ℤ)
    (d : Relay α) (g : PublisherGidGuard) (accepted : Bool) : Prop where
  heartbeat : d.heartbeatFresh nowSteadyNs = true
  bound : d.gidGuard.graphBound = true
  verified : d.graphStale nowSteadyNs = false
  implementation : info.implementationIdentifier = some config.rmwImplementationIdentifier
  guard : g.fault = none
  writer : MessageVerified info.publisherGid d.gidGuard g accepted
  graph : g.graphPart = d.gidGuard.graphPart

/-- What a message does to a relay that has drained the pipe. -/
inductive MessageStep (config : RelayConfig) (message : StateMessage α) (info : MessageInfo)
    (nowSteadyNs nowSystemNs : ℤ) (d r' : Relay α) : Prop where
  | failed (h : Failed d r')
  | waiting (h : r' = { d with lastObservedGid := some info.publisherGid })
  | sampled (g : PublisherGidGuard) (hchecked : MessageChecked config info nowSteadyNs d g false)
      (h : r' = { d with lastObservedGid := some info.publisherGid, gidGuard := g })
  | judged (g : PublisherGidGuard) (hchecked : MessageChecked config info nowSteadyNs d g true)
      (h : SampleStep message nowSteadyNs nowSystemNs
        { d with lastObservedGid := some info.publisherGid, gidGuard := g } r')

section Callbacks

variable {config : RelayConfig} {d : Relay α} {message : StateMessage α} {info : MessageInfo}
  {nowSteadyNs nowSystemNs : ℤ}

lemma emitReady_cases {c : Relay α} (written : Bool) (hf : c.faulted = false)
    (hg : c.gidGuard.fault = none) (hsamples : kMinimumReadySamples ≤ c.validSamples) :
    AcceptStep message c (c.emitReady written) := by
  unfold Relay.emitReady
  split
  · rename_i graphGid messageGid hgraph hmessage
    split
    · exact .failed (failed_latchFault c _ hf hg rfl rfl)
    split
    · exact .announced hsamples graphGid messageGid hgraph hmessage rfl
    · refine .failed ⟨rfl, ⟨.eventPipeFailed, trivial, rfl, fun fault h => ?_⟩, rfl⟩
      rw [show c.gidGuard.fault = some fault from h] at hg
      cases hg
  · exact .failed (failed_latchFault c _ hf hg rfl rfl)

lemma acceptSample_cases {s : Relay α} (stampNs : ℤ) (written : Bool) (hf : s.faulted = false)
    (hg : s.gidGuard.fault = none) :
    AcceptStep message (s.counted stampNs nowSteadyNs)
      (s.acceptSample message stampNs nowSteadyNs written) := by
  unfold Relay.acceptSample
  dsimp only
  split
  · rename_i hready
    exact .published hready rfl
  · rename_i hready
    split
    · rename_i hsamples
      exact emitReady_cases written hf hg hsamples
    · exact .counted (Bool.not_eq_true _ ▸ hready) rfl

lemma checkStamp_cases {s : Relay α} (written : Bool) (hf : s.faulted = false)
    (hg : s.gidGuard.fault = none) :
    SampleStep message nowSteadyNs nowSystemNs s
      (s.checkStamp message nowSteadyNs nowSystemNs written) := by
  unfold Relay.checkStamp
  split
  · exact .failed (failed_latchFault s _ hf hg rfl rfl)
  rename_i stampNs hstamp
  split
  · exact .failed (failed_latchFault s _ hf hg rfl rfl)
  rename_i hadvances
  split
  · exact .failed (failed_latchFault s _ hf hg rfl rfl)
  split
  · exact .failed (failed_latchFault s _ hf hg rfl rfl)
  · exact .dropped rfl
  rename_i hfresh
  split
  · exact .failed (failed_latchFault s _ hf hg rfl rfl)
  rename_i hreceipt
  refine .accepted stampNs ⟨hstamp, fun last h => ?_, hfresh, fun receiptNs h => ?_⟩
    (acceptSample_cases stampNs written hf hg)
  · rw [h] at hadvances
    simpa using hadvances
  · rw [h] at hreceipt
    simpa using hreceipt

/-- **A message faults, waits for the graph, is one of the first samples of its writer, or is
judged by its stamp.** -/
theorem observeMessage_step (reads : List ReadResult) (written : Bool) {r : Relay α}
    (hf : r.faulted = false) (hd : r.drainHeartbeat reads = d) (hdf : d.faulted = false)
    (hg : d.gidGuard.fault = none) :
    MessageStep config message info nowSteadyNs nowSystemNs d
      (r.observeMessage config reads message info nowSteadyNs nowSystemNs written) := by
  unfold Relay.observeMessage
  rw [if_neg (by simp [hf]), hd]
  dsimp only
  rw [if_neg (by simp [hdf])]
  split
  · exact .failed (failed_latchFault _ _ hdf hg rfl rfl)
  rename_i hheartbeat
  rw [Bool.not_eq_true', Bool.not_eq_false] at hheartbeat
  split
  · exact .waiting rfl
  rename_i hbound
  rw [Bool.not_eq_true', Bool.not_eq_false] at hbound
  split
  · exact .failed (failed_latchFault _ _ hdf hg rfl rfl)
  rename_i hstale
  rw [Bool.not_eq_true] at hstale
  unfold Relay.checkIdentity
  rcases observeMessage_cases info.publisherGid
    (info.implementationIdentifier = some config.rmwImplementationIdentifier) hg hbound with
    ⟨hfault, hrefused⟩ | ⟨himplementation, hfault, hwriter, hgraph⟩
  · dsimp only
    rw [if_neg (by simp [hrefused]), if_pos hfault]
    exact .failed (failed_latchGuardFault _ hdf rfl rfl)
  · have hchecked : MessageChecked config info nowSteadyNs d
        (d.gidGuard.observeMessage info.publisherGid
          (info.implementationIdentifier = some config.rmwImplementationIdentifier)).2
        (d.gidGuard.observeMessage info.publisherGid
          (info.implementationIdentifier = some config.rmwImplementationIdentifier)).1 :=
      ⟨hheartbeat, hbound, hstale, of_decide_eq_true himplementation, hfault, hwriter, hgraph⟩
    dsimp only
    split
    · rename_i haccepted
      rw [haccepted] at hchecked
      exact .judged _ hchecked (checkStamp_cases written hdf hfault)
    · rename_i haccepted
      rw [Bool.not_eq_true] at haccepted
      rw [haccepted] at hchecked
      rw [if_neg (by simp [PublisherGidGuard.faulted, hfault])]
      exact .sampled _ hchecked rfl

end Callbacks

end UnitreeGo2.MotionStateRelay
