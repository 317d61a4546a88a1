import UnitreeGo2.SportActions.Cleanup

/-!
# Pose recovery and reported stops

The two promises of the cleanup are compared with what it does.  A pose whose enter packet went
out without an acknowledgement is never left again; and a stop that was acknowledged is reported
even when an exit packet went out after it and the disarm failed.
-/

namespace UnitreeGo2.SportActions

/-! ## The invariant over a run -/

/-- A run, its calls so far and its worker. -/
structure JobInv (log : List Call) (job : Job) : Prop where
  known : CallInv log job.worker
  working : job.worker.pc ≠ .finished →
    job.run.state.isFinal = false ∧ job.run.stopAcknowledged = false
  finished : job.worker.pc = .finished → job.run.state.isFinal = true ∧
    job.run.stopAcknowledged = job.worker.stopOk ∧
    (job.run.state = .failed ↔ job.worker.error ≠ "")

section Invariant

variable {log : List Call} {job : Job}

lemma Worker.blame_pc (w : Worker) (what : String) (error : Option CallError) :
    (w.blame what error).pc = w.pc := by
  cases error <;> rfl

lemma Worker.standUp_pc (w : Worker) : w.standUp.pc ≠ .finished := by
  unfold Worker.standUp
  split_ifs <;> simp

lemma Worker.called_pc {w : Worker} (outcome : Outcome) (h : w.pc ≠ .finished) :
    (w.called outcome).pc ≠ .finished := by
  unfold Worker.called
  split
  · unfold Worker.attempt
    split <;> simp
  · unfold Worker.attempt
    split <;> simp
  · unfold Worker.attempt
    split <;> simp
  · unfold Worker.leaveHandstand
    split_ifs
    · simp
    · exact Worker.standUp_pc _
  · exact Worker.standUp_pc _
  · simp
  · simp
  · exact h

lemma Job.unlessCancelled_run (job : Job) (next : Pc) :
    (job.unlessCancelled next).run = job.run := by
  unfold Job.unlessCancelled
  split <;> rfl

lemma Job.unlessCancelled_pc (job : Job) {next : Pc} (h : next ≠ .finished) :
    (job.unlessCancelled next).worker.pc ≠ .finished := by
  unfold Job.unlessCancelled Worker.cancel
  split
  · simp
  · exact h

/-- Only the last critical section of the worker makes the state of its run final. -/
lemma Job.proceed_cases (job : Job) (answer : Answer) (hpc : job.worker.pc ≠ .finished) :
    ((job.proceed answer).worker.pc ≠ .finished ∧
      (job.run.state.isFinal = false → (job.proceed answer).run.state.isFinal = false) ∧
      (job.proceed answer).run.stopAcknowledged = job.run.stopAcknowledged) ∨
    (job.worker.pc = .finishing ∧ job.proceed answer =
      { run := Job.finish job.run job.worker, worker := { job.worker with pc := .finished } }) := by
  unfold Job.proceed
  split
  · exact Or.inl ⟨by simp, fun _ => rfl, rfl⟩
  · exact Or.inl ⟨by simp, id, rfl⟩
  · exact Or.inl ⟨by simp, id, rfl⟩
  · exact Or.inl ⟨by simp, fun _ => rfl, rfl⟩
  · exact Or.inl ⟨by simp, id, rfl⟩
  · rw [Job.unlessCancelled_run]
    exact Or.inl ⟨Job.unlessCancelled_pc _ (by simp), id, rfl⟩
  · exact Or.inl ⟨by simp, id, rfl⟩
  · exact Or.inl ⟨by simp, id, rfl⟩
  · split <;> exact Or.inl ⟨by simp, id, rfl⟩
  · rw [Job.unlessCancelled_run]
    exact Or.inl ⟨Job.unlessCancelled_pc _ (by simp), id, rfl⟩
  · rw [Job.unlessCancelled_run]
    exact Or.inl ⟨Job.unlessCancelled_pc _ (by simp), id, rfl⟩
  · exact Or.inl ⟨by simp, id, rfl⟩
  · exact Or.inr ⟨‹_›, rfl⟩
  · exact Or.inl ⟨hpc, id, rfl⟩

lemma Job.proceed_of_finished (h : job.worker.pc = .finished) (answer : Answer) :
    job.proceed answer = job := by
  unfold Job.proceed
  rw [h]

lemma JobInv.proceed (h : JobInv log job) (answer : Answer) : JobInv log (job.proceed answer) := by
  have hknown := h.known.proceed answer
  by_cases hpc : job.worker.pc = .finished
  · rw [Job.proceed_of_finished hpc] at hknown ⊢
    exact ⟨hknown, h.working, h.finished⟩
  rcases job.proceed_cases answer hpc with ⟨hne, hfinal, hstop⟩ | ⟨-, hfinish⟩
  · obtain ⟨hstate, hreport⟩ := h.working hpc
    exact ⟨hknown, fun _ => ⟨hfinal hstate, hstop.trans hreport⟩, fun heq => absurd heq hne⟩
  · rw [hfinish] at hknown ⊢
    have hstate : (Job.finish job.run job.worker).state.isFinal = true ∧
        ((Job.finish job.run job.worker).state = .failed ↔ job.worker.error ≠ "") := by
      have heq : (Job.finish job.run job.worker).state = if job.worker.error ≠ "" then .failed
          else if job.worker.cancelled then .cancelled else .sdkAcceptedCompletionUnverified := rfl
      rw [heq]
      split_ifs with herror hcancelled
      · exact ⟨rfl, iff_of_true rfl herror⟩
      · exact ⟨rfl, iff_of_false (by simp) herror⟩
      · exact ⟨rfl, iff_of_false (by simp) herror⟩
    exact ⟨hknown, fun hne => absurd rfl hne, fun _ => ⟨hstate.1, rfl, hstate.2⟩⟩

lemma JobInv.call (h : JobInv log job) {packet : Packet}
    (hpacket : job.worker.pc.packet? = some packet) (outcome : Outcome) :
    JobInv (⟨packet, outcome⟩ :: log) { job with worker := job.worker.called outcome } := by
  have hpc : job.worker.pc ≠ .finished := by
    intro hpc
    rw [hpc] at hpacket
    cases hpacket
  exact ⟨h.known.called hpacket, fun _ => h.working hpc,
    fun heq => absurd heq (Worker.called_pc outcome hpc)⟩

lemma JobInv.work (h : JobInv log job) (answer : Answer) :
    JobInv ((job.work answer).1.toList ++ log) (job.work answer).2 := by
  unfold Job.work
  split
  · exact h.call ‹_› _
  · exact h
  · exact h.proceed _

lemma JobInv.requestCancel (h : JobInv log job) :
    JobInv log { job with run := { job.run with cancelRequested := true } } :=
  ⟨h.known, h.working, h.finished⟩

lemma jobInv_queued (name : PlanName) (requestId requestedName : String) :
    JobInv [] (.queued name requestId requestedName) := by
  have hahead : Ahead [] .starting :=
    ⟨fun _ hs => absurd hs List.not_mem_nil, List.Pairwise.nil, fun _ _ h => h⟩
  refine ⟨?_, fun _ => ⟨rfl, rfl⟩, fun hpc => nomatch hpc⟩
  refine ⟨fun _ hc => absurd hc List.not_mem_nil, fun _ hc => absurd hc List.not_mem_nil,
    fun p => ?_, hahead, rfl, rfl, fun _ => rfl⟩
  cases p <;> exact iff_of_false (fun howes => howes) Bool.false_ne_true

lemma calls_concat (tr : List (Machine.Step Job JobEvent (Option Call)))
    (x : Machine.Step Job JobEvent (Option Call)) :
    calls (tr ++ [x]) = x.output.toList ++ calls tr := by
  rw [calls, List.reverse_append]
  cases h : x.output <;> simp [calls, h]

/-- **The invariant holds in every run, whatever its surroundings answer.** -/
theorem jobInv_run (name : PlanName) (requestId requestedName : String) (events : List JobEvent) :
    JobInv (calls (jobMachine.trace (.queued name requestId requestedName) events))
      (jobMachine.final (.queued name requestId requestedName) events) := by
  refine jobMachine.history_induction (motive := fun tr job => JobInv (calls tr) job)
    (jobInv_queued name requestId requestedName) ?_ events
  intro tr job event h
  rw [calls_concat]
  cases event with
  | cancel => exact h.requestCancel
  | work answer => exact h.work answer

end Invariant

/-! ## The calls of a finished run -/

section Finished

variable {log plan cleanup : List Call} {job : Job} {w : Worker} {p : Pose} {outcome : Outcome}

/-- The cleanup leaves a pose owed only if its exit was not acknowledged. -/
lemma owes_cleanup (hexits : ∀ c ∈ cleanup, ∃ q : Pose, c.packet = q.exit) :
    Owes p (cleanup ++ log) ↔
      Owes p log ∧ ∀ c ∈ cleanup, c.packet = p.exit → c.outcome ≠ .acknowledged := by
  induction cleanup with
  | nil => simp
  | cons c cleanup ih =>
    obtain ⟨q, hq⟩ := hexits c List.mem_cons_self
    have henter : c.packet ≠ p.enter := hq ▸ Pose.exit_ne_enter q p
    rw [List.cons_append, Owes, ih fun d hd => hexits d (List.mem_cons_of_mem _ hd)]
    simp only [henter, false_and, false_or, List.forall_mem_cons, not_and, ne_eq]
    tauto

/-- The calls of the cleanup between the stop and the disarm are the exits of the flags. -/
structure CleanedUp (cleanup : List Call) (outcome : Outcome) (plan : List Call) (w : Worker) :
    Prop where
  exits : cleanup.map Call.packet = w.exits
  stopOk : w.stopOk = outcome.error?.isNone
  left : Left plan w.flag

lemma mem_exits {packet : Packet} :
    packet ∈ w.exits ↔ ∃ q : Pose, w.flag q = true ∧ packet = q.exit := by
  unfold Worker.exits Worker.exit
  constructor
  · intro h
    rcases List.mem_append.mp h with h | h
    · split at h
      · exact ⟨.crouch, ‹_›, List.mem_singleton.mp h⟩
      · cases h
    · split at h
      · exact ⟨.handstand, ‹_›, List.mem_singleton.mp h⟩
      · cases h
  · rintro ⟨q, hq, rfl⟩
    cases q
    · exact List.mem_append_right _ (by rw [if_pos hq]; exact List.mem_singleton_self _)
    · exact List.mem_append_left _ (by rw [if_pos hq]; exact List.mem_singleton_self _)

lemma CleanedUp.exit (h : CleanedUp cleanup outcome plan w) :
    ∀ c ∈ cleanup, ∃ q : Pose, w.flag q = true ∧ c.packet = q.exit := fun _ hc =>
  mem_exits.mp (h.exits ▸ List.mem_map_of_mem hc)

lemma CleanedUp.exit_of_flag (h : CleanedUp cleanup outcome plan w) (hp : w.flag p = true) :
    ∃ c ∈ cleanup, c.packet = p.exit :=
  List.mem_map.mp (h.exits ▸ mem_exits.mpr ⟨p, hp, rfl⟩)

lemma Cleaning.cleanedUp (h : Cleaning (disarmPacket :: w.exits) log w) :
    ∃ last cleanup outcome plan,
      log = ⟨disarmPacket, last⟩ :: (cleanup ++ ⟨stopPacket, outcome⟩ :: plan) ∧
        CleanedUp cleanup outcome plan w := by
  obtain ⟨-, made, outcome, plan, rfl, hmade, hstop, hleft⟩ := h
  cases made with
  | nil => cases hmade
  | cons c cleanup =>
    obtain ⟨packet, last⟩ := c
    obtain ⟨hpacket, hexits⟩ := List.cons.inj hmade
    have hdisarm : packet = disarmPacket := hpacket
    subst hdisarm
    exact ⟨last, cleanup, outcome, plan, rfl, hexits, hstop, hleft⟩

/-- A finished run either did not reach the daemon, or its calls end with a whole cleanup. -/
lemma JobInv.ended (h : JobInv log job) (hpc : job.worker.pc = .finished) :
    (log = [] ∧ job.worker.error ≠ "" ∧ job.worker.stopOk = false) ∨
      Cleaning (disarmPacket :: job.worker.exits) log job.worker := by
  have hknown := h.known
  unfold CallInv at hknown
  rw [hpc] at hknown
  exact hknown

lemma Cleaning.noDisarm {made : List Packet} (h : Cleaning made log w)
    (hmade : ∀ packet ∈ made, packet ≠ disarmPacket) : ∀ c ∈ log, c.packet ≠ disarmPacket := by
  obtain ⟨-, cleanup, outcome, plan, rfl, rfl, -, hleft⟩ := h
  intro c hc
  rcases List.mem_append.mp hc with hc | hc
  · exact hmade _ (List.mem_map_of_mem hc)
  · rcases List.mem_cons.mp hc with rfl | hc
    · show stopPacket ≠ disarmPacket
      decide
    · exact hleft.noDisarm c hc

lemma exits_ne_disarm : ∀ packet ∈ w.exits, packet ≠ disarmPacket := by
  intro packet hpacket
  obtain ⟨q, -, rfl⟩ := mem_exits.mp hpacket
  exact Pose.exit_ne_disarm

/-- A run that has called its disarm has cleaned up. -/
lemma CallInv.disarmed (h : CallInv log w) {c : Call} (hc : c ∈ log)
    (hdisarm : c.packet = disarmPacket) : Cleaning (disarmPacket :: w.exits) log w := by
  unfold CallInv at h
  split at h
  · exact absurd hdisarm (h.2.1.noDisarm c hc)
  · exact absurd hdisarm (h.1.noDisarm (by simp) c hc)
  · refine absurd hdisarm (h.1.noDisarm (fun packet hpacket => ?_) c hc)
    exact exits_ne_disarm packet (List.mem_append_right _ hpacket)
  · exact absurd hdisarm (h.noDisarm exits_ne_disarm c hc)
  · exact h
  · rcases h with ⟨rfl, -⟩ | h
    · exact absurd hc List.not_mem_nil
    · exact h
  · rcases h with ⟨rfl, -⟩ | h
    · exact absurd hc List.not_mem_nil
    · exact h
  · exact absurd hdisarm (h.noDisarm c hc)

lemma CleanedUp.noStop (h : CleanedUp cleanup outcome plan w) :
    ∀ c ∈ cleanup, c.packet ≠ stopPacket := by
  intro c hc
  obtain ⟨q, -, hq⟩ := h.exit c hc
  rw [hq]
  exact Pose.exit_ne_stop

lemma CleanedUp.noDisarm (h : CleanedUp cleanup outcome plan w) :
    ∀ c ∈ cleanup ++ ⟨stopPacket, outcome⟩ :: plan, c.packet ≠ disarmPacket := by
  intro c hc
  rcases List.mem_append.mp hc with hc | hc
  · obtain ⟨q, -, hq⟩ := h.exit c hc
    rw [hq]
    exact Pose.exit_ne_disarm
  rcases List.mem_cons.mp hc with rfl | hc
  · show stopPacket ≠ disarmPacket
    decide
  · exact h.left.noDisarm c hc

/-- The last disarm is the only one. -/
lemma CleanedUp.disarm_unique (h : CleanedUp cleanup outcome plan w) {after before : List Call}
    {last other : Outcome}
    (hlog : (⟨disarmPacket, last⟩ : Call) :: (cleanup ++ ⟨stopPacket, outcome⟩ :: plan) =
      after ++ ⟨disarmPacket, other⟩ :: before) :
    before = cleanup ++ ⟨stopPacket, outcome⟩ :: plan := by
  cases after with
  | nil => exact (List.cons.inj hlog).2.symm
  | cons c after =>
    refine absurd rfl (h.noDisarm ⟨disarmPacket, other⟩ ?_)
    rw [(List.cons.inj hlog).2]
    exact List.mem_append_right _ List.mem_cons_self

end Finished

/-! ## Pose recovery -/

/-- A pose that is owed when the cleanup stops, or when it disarms, is left in between; and
where it is still owed in the end, the run has failed. -/
structure PoseRecovered (p : Pose) (log : List Call) (state : RunState) : Prop where
  recovers : ∀ after outcome before, log = after ++ ⟨disarmPacket, outcome⟩ :: before →
    Owes p before ∨ Owes p (uptoStop before) → ∃ c ∈ sinceStop before, c.packet = p.exit
  fails : state.isFinal = true → Owes p log → state = .failed

/-- Every enter packet that went out was acknowledged. -/
def EntersAcknowledged (log : List Call) : Prop := ∀ p, ¬ Lost p log

section Recovered

variable {log : List Call} {job : Job}

lemma CleanedUp.owes_plan {cleanup plan : List Call} {outcome : Outcome} {w : Worker} {p : Pose}
    (h : CleanedUp cleanup outcome plan w)
    (howes : Owes p (cleanup ++ ⟨stopPacket, outcome⟩ :: plan)) :
    Owes p plan := by
  have hexits : ∀ c ∈ cleanup, ∃ q : Pose, c.packet = q.exit := fun c hc =>
    (h.exit c hc).imp fun q hq => hq.2
  exact owes_stop_cons.mp ((owes_cleanup hexits).mp howes).1

/-- The run has called its disarm. -/
def Disarmed (log : List Call) : Prop := ∃ c ∈ log, c.packet = disarmPacket

/-- A run whose enter packets were acknowledged recovers its poses. -/
theorem JobInv.poseRecovered (h : JobInv log job)
    (henters : Disarmed log → EntersAcknowledged log) (p : Pose) :
    PoseRecovered p log job.run.state := by
  constructor
  · intro after last before hlog howes
    have hmem : (⟨disarmPacket, last⟩ : Call) ∈ log := by
      rw [hlog]
      exact List.mem_append_right _ List.mem_cons_self
    have henters := henters ⟨_, hmem, rfl⟩
    obtain ⟨_, cleanup, outcome, plan, rfl, hclean⟩ := (h.known.disarmed hmem rfl).cleanedUp
    rw [hclean.disarm_unique hlog, uptoStop_append hclean.noStop, owes_stop_cons] at howes
    rw [hclean.disarm_unique hlog, sinceStop_append hclean.noStop]
    have hplan : Owes p plan := howes.elim hclean.owes_plan id
    rcases (hclean.left.owes p).mp hplan with hflag | ⟨c, hc, hlost⟩
    · exact hclean.exit_of_flag hflag
    · exact absurd ⟨c, by simp [hc], hlost⟩ (henters p)
  · intro hfinal howes
    have hpc : job.worker.pc = .finished := by
      by_contra hne
      rw [(h.working hne).1] at hfinal
      cases hfinal
    by_contra hstate
    have herror : job.worker.error = "" := not_not.mp fun hne =>
      hstate ((h.finished hpc).2.2.mpr hne)
    rcases h.ended hpc with ⟨rfl, -⟩ | hcleaning
    · exact howes
    have hack := hcleaning.honest herror
    obtain ⟨last, cleanup, outcome, plan, rfl, hclean⟩ := hcleaning.cleanedUp
    have henters := henters ⟨_, List.mem_cons_self, rfl⟩
    have hdisarm : Owes p (cleanup ++ ⟨stopPacket, outcome⟩ :: plan) := by
      rwa [owes_cons_of_ne Pose.enter_ne_disarm.symm Pose.exit_ne_disarm.symm] at howes
    have hexits : ∀ c ∈ cleanup, ∃ q : Pose, c.packet = q.exit := fun c hc =>
      (hclean.exit c hc).imp fun q hq => hq.2
    rcases (hclean.left.owes p).mp (hclean.owes_plan hdisarm) with hflag | ⟨c, hc, hlost⟩
    · obtain ⟨c, hc, hexit⟩ := hclean.exit_of_flag hflag
      exact ((owes_cleanup hexits).mp hdisarm).2 c hc hexit (hack c (by simp [hc]))
    · exact absurd ⟨c, by simp [hc], hlost⟩ (henters p)

lemma CleanedUp.lost_plan {cleanup plan : List Call} {outcome last : Outcome} {w : Worker}
    {p : Pose} (h : CleanedUp cleanup outcome plan w)
    (hlost : Lost p (⟨disarmPacket, last⟩ :: (cleanup ++ ⟨stopPacket, outcome⟩ :: plan))) :
    Lost p plan := by
  obtain ⟨c, hc, henter, hlost⟩ := hlost
  refine ⟨c, ?_, henter, hlost⟩
  rcases List.mem_cons.mp hc with rfl | hc
  · exact absurd henter Pose.enter_ne_disarm.symm
  rcases List.mem_append.mp hc with hc | hc
  · obtain ⟨q, -, hq⟩ := h.exit c hc
    exact absurd (hq.symm.trans henter) (Pose.exit_ne_enter q p)
  rcases List.mem_cons.mp hc with rfl | hc
  · exact absurd henter Pose.enter_ne_stop.symm
  · exact hc

/-- A run that lost an enter packet disarms without leaving the pose. -/
theorem JobInv.entersAcknowledged (h : JobInv log job)
    (hrecovered : ∀ p, PoseRecovered p log job.run.state) (hdisarmed : Disarmed log) :
    EntersAcknowledged log := by
  intro p hlost
  obtain ⟨c, hc, hdisarm⟩ := hdisarmed
  obtain ⟨last, cleanup, outcome, plan, rfl, hclean⟩ := (h.known.disarmed hc hdisarm).cleanedUp
  have hplan := hclean.lost_plan hlost
  have howes : Owes p (uptoStop (cleanup ++ ⟨stopPacket, outcome⟩ :: plan)) := by
    rw [uptoStop_append hclean.noStop, owes_stop_cons]
    exact (hclean.left.owes p).mpr (Or.inr hplan)
  obtain ⟨c, hc, hexit⟩ := (hrecovered p).recovers [] last _ rfl (Or.inr howes)
  rw [sinceStop_append hclean.noStop] at hc
  obtain ⟨q, hflag, hq⟩ := hclean.exit c hc
  rw [← Pose.exit_injective (hexit.symm.trans hq), hclean.left.lost p hplan] at hflag
  cases hflag

end Recovered

/-- **A run recovers its poses exactly as long as no enter packet has been lost by the time it
disarms.** -/
theorem posesRecovered_iff_entersAcknowledged (name : PlanName) (requestId requestedName : String)
    (events : List JobEvent) :
    let job := jobMachine.final (.queued name requestId requestedName) events
    let log := calls (jobMachine.trace (.queued name requestId requestedName) events)
    (∀ p, PoseRecovered p log job.run.state) ↔ (Disarmed log → EntersAcknowledged log) :=
  have h := jobInv_run name requestId requestedName events
  ⟨h.entersAcknowledged, h.poseRecovered⟩

/-- A handstand whose enter packet is sent, and whose reply does not arrive in time. -/
def lostHandstand : List JobEvent :=
  [.work .proceed, .work (.connected none), .work (.called .acknowledged), .work .proceed,
    .work .proceed, .work (.called (.unacknowledged .timedOut)), .work (.called .acknowledged),
    .work (.called .acknowledged), .work (.closed none), .work .proceed]

/-- The daemon may stand on its hands, and the run disarms without the exit. -/
theorem not_poseRecovered_lostHandstand :
    ¬ PoseRecovered .handstand
      (calls (jobMachine.trace (.queued .handstand "request" "handstand") lostHandstand))
      (jobMachine.final (.queued .handstand "request" "handstand") lostHandstand).run.state := by
  intro h
  obtain ⟨c, hc, -⟩ := h.recovers [] .acknowledged
    [⟨stopPacket, .acknowledged⟩, ⟨Pose.handstand.enter, .unacknowledged .timedOut⟩,
      ⟨{ operation := arm }, .acknowledged⟩] rfl
    (Or.inl (Or.inr ⟨Or.inl ⟨rfl, rfl⟩, by decide⟩))
  exact absurd hc List.not_mem_nil

/-! ## Reported stops -/

/-- The packets that move the robot. -/
def Packet.isMotion (packet : Packet) : Bool :=
  packet.operation = move ∨ packet.operation = sportAction

/-- A stop that is reported stands after the last motion, and a run that does not fail has had
all its packets acknowledged. -/
structure StopTruthful (log : List Call) (run : Run) : Prop where
  stop : run.stopAcknowledged = true → ∃ after c before, log = after ++ c :: before ∧
    (c.packet = stopPacket ∨ c.packet = disarmPacket) ∧ c.outcome = .acknowledged ∧
      ∀ d ∈ after, d.outcome.sent = true → d.packet.isMotion = false
  complete : run.state = .sdkAcceptedCompletionUnverified ∨ run.state = .cancelled →
    ∀ c ∈ log, c.outcome = .acknowledged

/-- The disarm was acknowledged, or the stop of the cleanup was not, or no exit went out after
it. -/
def StopHeld (log : List Call) : Prop :=
  (∃ c ∈ log, c.packet = disarmPacket ∧ c.outcome = .acknowledged) ∨
    (∀ c, (uptoStop log).head? = some c → c.outcome ≠ .acknowledged) ∨
    ∀ c ∈ sinceStop log, c.outcome.sent = true → c.packet.isMotion = false

section Truthful

variable {log : List Call} {job : Job}

/-- What stands before the first call of a kind stands before every call of the kind. -/
lemma mem_after_of_first {first rest after before : List Call} {c d : Call}
    (hlog : first ++ rest = after ++ c :: before) (hfirst : c ∉ first) (hd : d ∈ first) :
    d ∈ after := by
  rcases List.append_eq_append_iff.mp hlog with ⟨m, rfl, -⟩ | ⟨m, rfl, hm⟩
  · exact List.mem_append_left _ hd
  · cases m with
    | nil => simpa using hd
    | cons e m =>
      obtain ⟨rfl, -⟩ := List.cons.inj hm
      exact absurd (List.mem_append_right _ List.mem_cons_self) hfirst

lemma Outcome.error?_isNone {outcome : Outcome} :
    outcome.error?.isNone = true ↔ outcome = .acknowledged := by
  cases outcome <;> simp [Outcome.error?]

/-- The report of a finished run is truthful exactly when its stop still held. -/
theorem JobInv.stopTruthful_iff (h : JobInv log job) (hpc : job.worker.pc = .finished) :
    StopTruthful log job.run ↔ StopHeld log := by
  obtain ⟨-, hreport, hfailed⟩ := h.finished hpc
  rcases h.ended hpc with ⟨rfl, -, hstop⟩ | hcleaning
  · refine iff_of_true ⟨fun hrep => ?_, fun _ c hc => absurd hc List.not_mem_nil⟩
      (Or.inr (Or.inl fun c hc => by cases hc))
    rw [hreport, hstop] at hrep
    cases hrep
  have hack := hcleaning.honest
  obtain ⟨last, cleanup, outcome, plan, rfl, hclean⟩ := hcleaning.cleanedUp
  have hsplit : (⟨disarmPacket, last⟩ : Call) :: (cleanup ++ ⟨stopPacket, outcome⟩ :: plan) =
      (⟨disarmPacket, last⟩ :: cleanup) ++ ⟨stopPacket, outcome⟩ :: plan := rfl
  have hnostop : ∀ c ∈ (⟨disarmPacket, last⟩ : Call) :: cleanup, c.packet ≠ stopPacket :=
    List.forall_mem_cons.mpr ⟨show disarmPacket ≠ stopPacket by decide, hclean.noStop⟩
  have hok : job.run.stopAcknowledged = true ↔ outcome = .acknowledged := by
    rw [hreport, hclean.stopOk, Outcome.error?_isNone]
  rw [StopHeld, hsplit, sinceStop_append hnostop, uptoStop_append hnostop, ← hsplit]
  constructor
  · rintro ⟨hstop, -⟩
    by_contra hnot
    simp only [not_or, not_exists, not_and, not_forall, List.head?_cons, Option.some.injEq,
      exists_prop, Classical.not_not, Bool.not_eq_false] at hnot
    obtain ⟨hdisarm, ⟨_, rfl, hstopped⟩, d, hd, hsent, hmotion⟩ := hnot
    obtain ⟨after, c, before, hlog, hkind, hcack, hafter⟩ := hstop (hok.mpr hstopped)
    have hc : c ∈ (⟨disarmPacket, last⟩ : Call) :: (cleanup ++ ⟨stopPacket, outcome⟩ :: plan) := by
      rw [hlog]
      exact List.mem_append_right _ List.mem_cons_self
    have hcstop : c.packet = stopPacket := hkind.resolve_right fun hcd => hdisarm c hc hcd hcack
    rw [hsplit] at hlog
    have hdafter := mem_after_of_first hlog (fun hcl => hnostop c hcl hcstop) hd
    rw [hafter d hdafter hsent] at hmotion
    cases hmotion
  · intro hheld
    refine ⟨fun hrep => ?_, fun hstate => hack ?_⟩
    · have hacked := hok.mp hrep
      rcases hheld with ⟨c, hc, hcd, hcack⟩ | hnot | hstill
      · rcases List.mem_cons.mp hc with rfl | hc
        · exact ⟨[], _, _, rfl, Or.inr rfl, hcack, fun d hd => absurd hd List.not_mem_nil⟩
        · exact absurd hcd (hclean.noDisarm c hc)
      · exact absurd hacked (hnot _ rfl)
      · exact ⟨_, _, _, hsplit, Or.inl rfl, hacked, hstill⟩
    · by_contra hne
      have hstate' := hfailed.mpr hne
      rw [hstate'] at hstate
      rcases hstate with hstate | hstate <;> cases hstate

lemma JobInv.stopTruthful_of_working (h : JobInv log job) (hpc : job.worker.pc ≠ .finished) :
    StopTruthful log job.run := by
  obtain ⟨hstate, hreport⟩ := h.working hpc
  refine ⟨fun hrep => ?_, fun hfinal => ?_⟩
  · rw [hreport] at hrep
    cases hrep
  · rcases hfinal with hfinal | hfinal <;> rw [hfinal] at hstate <;> cases hstate

end Truthful

/-- **The reports of a run are truthful exactly when, once it is finished, its stop still
held.** -/
theorem stopTruthful_iff_stopHeld (name : PlanName) (requestId requestedName : String)
    (events : List JobEvent) :
    let job := jobMachine.final (.queued name requestId requestedName) events
    let log := calls (jobMachine.trace (.queued name requestId requestedName) events)
    StopTruthful log job.run ↔ (job.worker.pc = .finished → StopHeld log) := by
  intro job log
  have h := jobInv_run name requestId requestedName events
  constructor
  · exact fun htrue hpc => (h.stopTruthful_iff hpc).mp htrue
  · intro hheld
    by_cases hpc : job.worker.pc = .finished
    · exact (h.stopTruthful_iff hpc).mpr (hheld hpc)
    · exact h.stopTruthful_of_working hpc

/-- A handstand that is cancelled while it is held, and whose disarm is not acknowledged. -/
def cancelledHandstand : List JobEvent :=
  [.work .proceed, .work (.connected none), .work (.called .acknowledged), .work .proceed,
    .work .proceed, .work (.called .acknowledged), .work .proceed, .work (.clock 0), .cancel,
    .work (.clock 0), .work .proceed, .work (.called .acknowledged), .work (.called .acknowledged),
    .work (.called (.unacknowledged .timedOut)), .work (.closed none), .work .proceed]

/-- The run reports the stop that came before its last motion. -/
theorem not_stopTruthful_cancelledHandstand :
    ¬ StopTruthful
      (calls (jobMachine.trace (.queued .handstand "request" "handstand") cancelledHandstand))
      (jobMachine.final (.queued .handstand "request" "handstand") cancelledHandstand).run := by
  intro h
  have hheld := ((jobInv_run .handstand "request" "handstand" cancelledHandstand).stopTruthful_iff
    (by decide +kernel)).mp h
  rcases hheld with ⟨c, hc, hdisarm, hack⟩ | hnot | hstill
  · revert c
    decide +kernel
  · exact hnot ⟨stopPacket, .acknowledged⟩ (by decide +kernel) rfl
  · revert hstill
    decide +kernel

end UnitreeGo2.SportActions
