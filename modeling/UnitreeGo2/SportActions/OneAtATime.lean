import UnitreeGo2.SportActions.Recovery
import UnitreeGo2.SportActions.Manager

/-!
# One action at a time

Every event of the manager leaves a run alone, cancels it or lets its worker take one step, and
a run is created only while no other is active.  From these two facts follow the guarantees
that the clients rely on, whatever the order of their calls and of the steps of the workers.
-/

namespace UnitreeGo2.SportActions

/-! ## The steps of one run -/

/-- The packet of the plan that a step of the worker sends. -/
def Job.dispatches (job : Job) (answer : Answer) : Option Packet :=
  match job.worker.pc, answer with
  | .dispatching step _, .called _ => some step.packet
  | _, _ => none

/-- The steps of the plan that a worker may still dispatch, unless it has left the plan. -/
def Pc.remaining (name : PlanName) : Pc → Option (List Step)
  | .starting | .connecting | .arming | .running => some (plans name)
  | .stopping | .leavingHandstand | .standingUp | .disarming | .closing | .finishing
  | .finished => none
  | pc => some pc.ahead

def Job.remaining (job : Job) : Option (List Step) := job.worker.pc.remaining job.run.name

/-- The packets dispatched so far are a first part of the plan. -/
def Job.Progress (job : Job) (sent : List Packet) : Prop :=
  match job.remaining with
  | some rest => sent ++ rest.map Step.packet = (plans job.run.name).map Step.packet
  | none => sent <+: (plans job.run.name).map Step.packet

/-- The worker has looked at the cancellation for the last time before its next dispatch. -/
def Pc.committed : Pc → Bool
  | .dispatching _ _ => true
  | _ => false

def Job.committed (job : Job) : Bool := job.worker.pc.committed

section Job

variable {job : Job} {answer : Answer}

/-- What a client knows a run by. -/
structure SameRun (job next : Job) : Prop where
  name : next.run.name = job.run.name
  requestId : next.run.requestId = job.run.requestId
  requestedName : next.run.requestedName = job.run.requestedName

lemma Job.proceed_sameRun (job : Job) (answer : Answer) : SameRun job (job.proceed answer) := by
  unfold Job.proceed
  split
  case h_9 => split <;> exact ⟨rfl, rfl, rfl⟩
  case h_6 | h_10 | h_11 =>
    refine ⟨?_, ?_, ?_⟩ <;> rw [Job.unlessCancelled_run]
  all_goals exact ⟨rfl, rfl, rfl⟩

lemma Job.proceed_cancelRequested (job : Job) (answer : Answer) :
    (job.proceed answer).run.cancelRequested = job.run.cancelRequested := by
  unfold Job.proceed
  split
  case h_9 => split <;> rfl
  case h_6 | h_10 | h_11 => rw [Job.unlessCancelled_run]
  all_goals rfl

lemma Job.work_sameRun (job : Job) (answer : Answer) : SameRun job (job.work answer).2 := by
  unfold Job.work
  split
  · exact ⟨rfl, rfl, rfl⟩
  · exact ⟨rfl, rfl, rfl⟩
  · exact job.proceed_sameRun _

lemma Job.work_cancelRequested (job : Job) (answer : Answer) :
    (job.work answer).2.run.cancelRequested = job.run.cancelRequested := by
  unfold Job.work
  split
  · rfl
  · rfl
  · exact job.proceed_cancelRequested _

lemma Job.work_of_finished (h : job.worker.pc = .finished) (answer : Answer) :
    (job.work answer).2 = job := by
  unfold Job.work
  rw [h]
  exact Job.proceed_of_finished h answer

lemma Worker.attempt_pc (w : Worker) (outcome : Outcome) (next : Pc) :
    (w.attempt outcome next).pc = next ∨ (w.attempt outcome next).pc = .stopping := by
  unfold Worker.attempt
  split
  · exact Or.inl rfl
  · exact Or.inr rfl

lemma Worker.standUp_remaining (w : Worker) (name : PlanName) :
    w.standUp.pc.remaining name = none := by
  unfold Worker.standUp
  split <;> rfl

lemma Worker.leaveHandstand_remaining (w : Worker) (name : PlanName) :
    w.leaveHandstand.pc.remaining name = none := by
  unfold Worker.leaveHandstand
  split
  · rfl
  · exact w.standUp_remaining name

lemma Job.unlessCancelled_remaining (job : Job) (next : Pc) :
    (job.unlessCancelled next).remaining = none ∨
      (job.unlessCancelled next).remaining = next.remaining job.run.name := by
  unfold Job.unlessCancelled
  split
  · exact Or.inl rfl
  · exact Or.inr rfl

lemma Job.dispatches_eq_none (h : ∀ step rest, job.worker.pc ≠ .dispatching step rest) :
    job.dispatches answer = none := by
  unfold Job.dispatches
  split
  · exact absurd ‹_› (h _ _)
  · rfl

lemma Job.dispatches_of_not_called (h : ∀ outcome, answer ≠ .called outcome) :
    job.dispatches answer = none := by
  unfold Job.dispatches
  split
  · exact absurd rfl (h _)
  · rfl

lemma Job.proceed_remaining (job : Job) (answer : Answer) :
    (job.proceed answer).remaining = none ∨ (job.proceed answer).remaining = job.remaining := by
  unfold Job.proceed
  split
  case h_14 => exact Or.inr rfl
  case h_9 hpc =>
    rw [Job.remaining, Job.remaining, hpc]
    split <;> exact Or.inr rfl
  case h_6 hpc | h_10 hpc | h_11 hpc =>
    rw [Job.remaining, Job.remaining, hpc]
    exact job.unlessCancelled_remaining _
  case h_3 | h_5 | h_12 | h_13 => exact Or.inl rfl
  all_goals
    rename_i hpc
    rw [Job.remaining, Job.remaining, hpc]
    exact Or.inr rfl

lemma Worker.called_remaining (w : Worker) (outcome : Outcome) (name : PlanName) :
    (∃ step rest, w.pc = .dispatching step rest ∧
      ((w.called outcome).pc.remaining name = none ∨
        (w.called outcome).pc.remaining name = some rest)) ∨
    ((∀ step rest, w.pc ≠ .dispatching step rest) ∧
      ((w.called outcome).pc.remaining name = none ∨
        (w.called outcome).pc.remaining name = w.pc.remaining name)) := by
  unfold Worker.called
  split
  · rename_i hpc
    refine Or.inr ⟨by simp [hpc], ?_⟩
    rcases w.attempt_pc outcome .running with h | h <;> rw [h, hpc]
    · exact Or.inr rfl
    · exact Or.inl rfl
  · rename_i step rest hpc
    refine Or.inl ⟨step, rest, hpc, ?_⟩
    rcases w.attempt_pc outcome (.recording step rest) with h | h <;> rw [h]
    · exact Or.inr rfl
    · exact Or.inl rfl
  · rename_i step rest endS hpc
    refine Or.inr ⟨by simp [hpc], ?_⟩
    rcases w.attempt_pc outcome (.timing step rest endS) with h | h <;> rw [h, hpc]
    · exact Or.inr rfl
    · exact Or.inl rfl
  · rename_i hpc
    exact Or.inr ⟨by simp [hpc], Or.inl (Worker.leaveHandstand_remaining _ _)⟩
  · rename_i hpc
    exact Or.inr ⟨by simp [hpc], Or.inl (Worker.standUp_remaining _ _)⟩
  · rename_i hpc
    exact Or.inr ⟨by simp [hpc], Or.inl rfl⟩
  · rename_i hpc
    exact Or.inr ⟨by simp [hpc], Or.inl rfl⟩
  · rename_i hdispatching _ _ _ _ _
    exact Or.inr ⟨fun step rest => hdispatching step rest, Or.inr rfl⟩

/-- A step of the worker keeps the steps that remain, or dispatches the first of them, or leaves
the plan. -/
lemma Job.work_remaining (job : Job) (answer : Answer) :
    (job.dispatches answer = none ∧
      ((job.work answer).2.remaining = none ∨ (job.work answer).2.remaining = job.remaining)) ∨
    ∃ step rest, job.dispatches answer = some step.packet ∧
      job.remaining = some (step :: rest) ∧
      ((job.work answer).2.remaining = none ∨ (job.work answer).2.remaining = some rest) := by
  unfold Job.work
  split
  · rename_i packet outcome hpacket
    rcases job.worker.called_remaining outcome job.run.name with ⟨step, rest, hpc, h⟩ | ⟨hpc, h⟩
    · refine Or.inr ⟨step, rest, ?_, ?_, h⟩
      · unfold Job.dispatches
        rw [hpc]
      · rw [Job.remaining, hpc]
        rfl
    · exact Or.inl ⟨Job.dispatches_eq_none hpc, h⟩
  · rename_i _ hcall
    exact Or.inl ⟨Job.dispatches_of_not_called hcall, Or.inr rfl⟩
  · rename_i hpacket
    refine Or.inl ⟨Job.dispatches_eq_none fun step rest hpc => ?_, job.proceed_remaining _⟩
    rw [hpc] at hpacket
    cases hpacket

/-- **A worker goes through its plan once.** -/
lemma Job.Progress.work {sent : List Packet} (h : job.Progress sent) (answer : Answer) :
    (job.work answer).2.Progress (sent ++ (job.dispatches answer).toList) := by
  have hname := (job.work_sameRun answer).name
  unfold Job.Progress at h ⊢
  rw [hname]
  rcases job.work_remaining answer with ⟨hnone, hleft | hkept⟩ | ⟨step, rest, hsent, hrest, hnext⟩
  · rw [hnone, hleft, Option.toList_none, List.append_nil]
    split at h
    · rw [← h]
      exact List.prefix_append _ _
    · exact h
  · rw [hnone, hkept, Option.toList_none, List.append_nil]
    exact h
  · rw [hrest] at h
    have hplan : (sent ++ [step.packet]) ++ rest.map Step.packet =
        (plans job.run.name).map Step.packet := by
      rw [List.append_assoc]
      exact h
    rcases hnext with hnext | hnext <;> rw [hsent, hnext, Option.toList_some]
    · exact ⟨_, hplan⟩
    · exact hplan

lemma Job.Progress.isPrefix {sent : List Packet} (h : job.Progress sent) :
    sent <+: (plans job.run.name).map Step.packet := by
  unfold Job.Progress at h
  split at h
  · exact ⟨_, h⟩
  · exact h

lemma Worker.called_committed (w : Worker) (outcome : Outcome) :
    (w.called outcome).pc.committed = false := by
  unfold Worker.called
  split
  · rcases w.attempt_pc outcome .running with h | h <;> rw [h] <;> rfl
  · rename_i step rest _
    rcases w.attempt_pc outcome (.recording step rest) with h | h <;> rw [h] <;> rfl
  · rename_i step rest endS _
    rcases w.attempt_pc outcome (.timing step rest endS) with h | h <;> rw [h] <;> rfl
  · unfold Worker.leaveHandstand Worker.standUp
    split_ifs <;> rfl
  · unfold Worker.standUp
    split_ifs <;> rfl
  · rfl
  · rfl
  · rename_i hdispatching _ _ _ _ _
    unfold Pc.committed
    split
    · exact absurd ‹_› (hdispatching _ _)
    · rfl

lemma Job.proceed_committed (hcancel : job.run.cancelRequested = true)
    (hpc : job.worker.pc.committed = false) (answer : Answer) :
    (job.proceed answer).committed = false := by
  unfold Job.proceed
  split
  case h_14 => exact hpc
  case h_9 => split <;> rfl
  case h_6 | h_10 | h_11 =>
    unfold Job.unlessCancelled
    rw [if_pos hcancel]
    rfl
  all_goals rfl

/-- A cancelled worker dispatches at most the step that it is committed to. -/
lemma Job.work_committed (hcancel : job.run.cancelRequested = true) (answer : Answer) :
    (job.dispatches answer).toList.length + (job.work answer).2.committed.toNat ≤
      job.committed.toNat := by
  unfold Job.work
  split
  · rename_i packet outcome hpacket
    have hnext : ({ job with worker := job.worker.called outcome } : Job).committed = false :=
      job.worker.called_committed outcome
    rw [hnext]
    unfold Job.dispatches Job.committed
    split
    · rename_i hpc _
      rw [hpc]
      exact le_rfl
    · exact Nat.zero_le _
  · rename_i _ hcall
    rw [Job.dispatches_of_not_called hcall]
    exact (Nat.zero_add _).le
  · rename_i hpacket
    have hpc : ∀ step rest, job.worker.pc ≠ .dispatching step rest := by
      intro step rest hpc
      rw [hpc] at hpacket
      cases hpacket
    have hidle : job.worker.pc.committed = false := by
      unfold Pc.committed
      split
      · exact absurd ‹_› (hpc _ _)
      · rfl
    rw [Job.dispatches_eq_none hpc, Job.proceed_committed hcancel hidle]
    exact Nat.zero_le _

end Job

/-! ## The steps of the manager -/

/-- The packet of its plan that a run sends in a step of the manager. -/
def dispatchOf (runId : ℕ) (x : Machine.Step Manager ManagerEvent ManagerOutput) : Option Packet :=
  match x.event with
  | .work worker answer =>
    if worker = runId then x.pre.jobs[runId]?.bind fun job => job.dispatches answer else none
  | _ => none

/-- The packets of its plan that a run has sent. -/
def dispatched (runId : ℕ) (tr : List (Machine.Step Manager ManagerEvent ManagerOutput)) :
    List Packet :=
  tr.filterMap (dispatchOf runId)

/-- The call that a run makes in a step of the manager. -/
def callOf (runId : ℕ) (x : Machine.Step Manager ManagerEvent ManagerOutput) : Option Call :=
  match x.output with
  | .called worker call => if worker = runId then some call else none
  | _ => none

/-- The calls of a run, the last one first. -/
def callsOf (runId : ℕ) (tr : List (Machine.Step Manager ManagerEvent ManagerOutput)) :
    List Call :=
  tr.reverse.filterMap (callOf runId)

/-- What an event does to the runs. -/
inductive Change (m : Manager) (event : ManagerEvent) (m' : Manager) : Prop where
  | still (hjobs : m'.jobs = m.jobs) (hactive : m'.activeRunId = m.activeRunId)
      (hwork : ∀ runId answer, event = .work runId answer → m.jobs[runId]? = none)
  | created (name requestId : String) (choice : ℕ)
      (hevent : event = .execute name requestId choice)
      (hjobs : m'.jobs = m.jobs ++ [m.start name requestId choice])
      (hidle : m.activeRunId = none) (hactive : m'.activeRunId = some m.jobs.length)
      (hfresh : requestId = "" ∨ ∀ job ∈ m.jobs, job.run.requestId ≠ requestId)
  | cancelled (runId : ℕ) (hevent : ∀ runId answer, event ≠ .work runId answer)
      (hjobs : m'.jobs = m.jobs.modify runId Job.requestCancel)
      (hactive : m'.activeRunId = m.activeRunId)
  | worked (runId : ℕ) (answer : Answer) (job : Job) (hevent : event = .work runId answer)
      (hjob : m.jobs[runId]? = some job) (hjobs : m'.jobs = m.jobs.set runId (job.work answer).2)
      (hactive : m'.activeRunId =
        if job.worker.pc = .finishing ∧ (job.work answer).2.worker.pc = .finished ∧
          m.activeRunId = some runId then none else m.activeRunId)

section Changes

variable {m m' : Manager} {event : ManagerEvent} {runId : ℕ} {job : Job}

lemma Manager.findRequest_eq_none {requestId : String} (h : m.findRequest requestId = none) :
    ∀ job ∈ m.jobs, job.run.requestId ≠ requestId := by
  intro job hjob
  obtain ⟨i, hi⟩ := List.mem_iff_getElem?.mp hjob
  have hmem : (job, i) ∈ m.jobs.zipIdx := List.mem_zipIdx_iff_getElem?.mpr hi
  have hnot := List.find?_eq_none.mp h _ hmem
  simpa using hnot

lemma Manager.execute_change (m : Manager) (name requestId : String) (choice : ℕ) :
    Change m (.execute name requestId choice) (m.execute name requestId choice).2 := by
  have hstill : Change m (.execute name requestId choice) m :=
    .still rfl rfl fun _ _ h => nomatch h
  unfold Manager.execute
  split
  · exact hstill
  split
  · exact hstill
  split
  · split <;> exact hstill
  · exact hstill
  · rename_i hrequest hidle
    refine .created name requestId choice rfl rfl hidle rfl ?_
    split at hrequest
    · exact Or.inl ‹_›
    · exact Or.inr (Manager.findRequest_eq_none hrequest)

/-- A request identifier that is known already creates nothing. -/
lemma Manager.execute_repeated {name requestId : String} (hempty : requestId ≠ "")
    (hjob : job ∈ m.jobs) (hrequest : job.run.requestId = requestId) (choice : ℕ) :
    (m.execute name requestId choice).2.jobs = m.jobs := by
  unfold Manager.execute
  split
  · rfl
  split
  · rfl
  split
  · split <;> rfl
  · rfl
  · rename_i hnone _
    exact absurd hrequest (Manager.findRequest_eq_none hnone job hjob)

lemma Manager.cancel_change (m : Manager) (runId : ℕ) {event : ManagerEvent}
    (hevent : ∀ runId answer, event ≠ .work runId answer) :
    Change m event (m.cancel runId).2 := by
  have hstill : Change m event m := .still rfl rfl fun _ _ h => absurd h (hevent _ _)
  unfold Manager.cancel
  split
  · exact hstill
  split
  · exact hstill
  · exact .cancelled runId hevent rfl rfl

/-- **Every event leaves the runs alone, creates one, cancels one or lets one work.** -/
theorem change_step (m : Manager) (event : ManagerEvent) :
    Change m event (managerMachine.step m event).2 := by
  cases event with
  | execute name requestId choice => exact m.execute_change name requestId choice
  | status runId => exact .still rfl rfl fun _ _ h => nomatch h
  | cancel runId => exact m.cancel_change runId fun _ _ h => nomatch h
  | cancelActive =>
    show Change m .cancelActive m.cancelActive.2
    unfold Manager.cancelActive
    split
    · exact .still rfl rfl fun _ _ h => nomatch h
    · exact m.cancel_change _ fun _ _ h => nomatch h
  | shutdown => exact .still rfl rfl fun _ _ h => nomatch h
  | shutdownCancel index =>
    show Change m (.shutdownCancel index) (m.shutdownCancel index)
    unfold Manager.shutdownCancel
    split
    · exact .still rfl rfl fun _ _ h => nomatch h
    · exact .cancelled _ (fun _ _ h => nomatch h) rfl rfl
  | work runId answer =>
    show Change m (.work runId answer) (m.work runId answer).2
    unfold Manager.work
    split
    · rename_i hnone
      exact .still rfl rfl fun _ _ h => by cases h; exact hnone
    · exact .worked runId answer _ rfl ‹_› rfl rfl

/-- A step in which the worker of a run does not take part is silent for the run. -/
lemma silent_of_ne_work (m : Manager) {event : ManagerEvent}
    (hevent : ∀ answer, event ≠ .work runId answer) :
    dispatchOf runId (managerMachine.stepAt m event) = none ∧
      callOf runId (managerMachine.stepAt m event) = none := by
  cases event with
  | work worker answer =>
    have hne : worker ≠ runId := by
      rintro rfl
      exact hevent answer rfl
    refine ⟨if_neg hne, ?_⟩
    unfold callOf
    split
    · rename_i other call houtput
      have hworker : other = worker := by
        have hsome : ((m.work worker answer).1.map (ManagerOutput.called worker)).getD .none =
          .called other call := houtput
        cases hcall : (m.work worker answer).1 <;> rw [hcall] at hsome <;> cases hsome
        rfl
      rw [hworker, if_neg hne]
    · rfl
  | _ => exact ⟨rfl, rfl⟩

lemma silent_of_none (event : ManagerEvent) (hnone : m.jobs[runId]? = none) :
    dispatchOf runId (managerMachine.stepAt m event) = none ∧
      callOf runId (managerMachine.stepAt m event) = none := by
  by_cases hevent : ∃ answer, event = .work runId answer
  · obtain ⟨answer, rfl⟩ := hevent
    have hcall : (m.work runId answer).1 = none := by
      unfold Manager.work
      rw [hnone]
    refine ⟨?_, ?_⟩
    · show (if runId = runId then m.jobs[runId]?.bind _ else none) = _
      rw [if_pos rfl, hnone]
      rfl
    · show (match ((m.work runId answer).1.map (ManagerOutput.called runId)).getD .none with
        | .called worker call => if worker = runId then some call else none
        | _ => none) = _
      rw [hcall]
      rfl
  · exact silent_of_ne_work m fun answer h => hevent ⟨answer, h⟩

/-- A step of the worker of a run, as the manager shows it. -/
lemma shown_of_work (hjob : m.jobs[runId]? = some job) (answer : Answer) :
    dispatchOf runId (managerMachine.stepAt m (.work runId answer)) = job.dispatches answer ∧
      callOf runId (managerMachine.stepAt m (.work runId answer)) = (job.work answer).1 := by
  have hcall : (m.work runId answer).1 = (job.work answer).1 := by
    unfold Manager.work
    rw [hjob]
  refine ⟨?_, ?_⟩
  · show (if runId = runId then m.jobs[runId]?.bind _ else none) = _
    rw [if_pos rfl, hjob]
    rfl
  · show (match ((m.work runId answer).1.map (ManagerOutput.called runId)).getD .none with
      | .called worker call => if worker = runId then some call else none
      | _ => none) = _
    rw [hcall]
    cases (job.work answer).1 with
    | none => rfl
    | some call => exact if_pos rfl

/-- **A step of the manager leaves a run alone, cancels it or is a step of its worker.** -/
theorem run_step (m : Manager) (event : ManagerEvent) (hjob : m.jobs[runId]? = some job) :
    ∃ next, (managerMachine.step m event).2.jobs[runId]? = some next ∧
      ((dispatchOf runId (managerMachine.stepAt m event) = none ∧
          callOf runId (managerMachine.stepAt m event) = none ∧
          (next = job ∨ next = job.requestCancel)) ∨
        ∃ answer, next = (job.work answer).2 ∧
          dispatchOf runId (managerMachine.stepAt m event) = job.dispatches answer ∧
          callOf runId (managerMachine.stepAt m event) = (job.work answer).1) := by
  have hlt : runId < m.jobs.length := (List.getElem?_eq_some_iff.mp hjob).1
  by_cases hevent : ∃ answer, event = .work runId answer
  · obtain ⟨answer, rfl⟩ := hevent
    obtain ⟨hdispatch, hcall⟩ := shown_of_work hjob answer
    refine ⟨(job.work answer).2, ?_, Or.inr ⟨answer, rfl, hdispatch, hcall⟩⟩
    show (m.work runId answer).2.jobs[runId]? = _
    unfold Manager.work
    rw [hjob]
    exact List.getElem?_set_self hlt
  · obtain ⟨hdispatch, hcall⟩ := silent_of_ne_work m fun answer h => hevent ⟨answer, h⟩
    suffices hnext : ∃ next, (managerMachine.step m event).2.jobs[runId]? = some next ∧
        (next = job ∨ next = job.requestCancel) by
      obtain ⟨next, hnext, hkind⟩ := hnext
      exact ⟨next, hnext, Or.inl ⟨hdispatch, hcall, hkind⟩⟩
    rcases change_step m event with
      ⟨hjobs, -, -⟩ | ⟨name, requestId, choice, -, hjobs, -⟩ | ⟨other, -, hjobs, -⟩ |
        ⟨worker, answer, other, rfl, hother, hjobs, -⟩
    · exact ⟨job, hjobs ▸ hjob, Or.inl rfl⟩
    · refine ⟨job, ?_, Or.inl rfl⟩
      rw [hjobs, List.getElem?_append_left hlt, hjob]
    · by_cases hsame : other = runId
      · refine ⟨job.requestCancel, ?_, Or.inr rfl⟩
        rw [hjobs, hsame, List.getElem?_modify_eq, hjob]
        rfl
      · refine ⟨job, ?_, Or.inl rfl⟩
        rw [hjobs, List.getElem?_modify_ne _ _ hsame, hjob]
    · have hne : worker ≠ runId := by
        rintro rfl
        exact hevent ⟨answer, rfl⟩
      refine ⟨job, ?_, Or.inl rfl⟩
      rw [hjobs, List.getElem?_set_ne hne, hjob]

/-- A run that is not there before a step is the one that the step creates. -/
theorem run_created (m : Manager) (event : ManagerEvent) (hnone : m.jobs[runId]? = none)
    (hjob : (managerMachine.step m event).2.jobs[runId]? = some job) :
    ∃ name requestId choice, event = .execute name requestId choice ∧
      job = m.start name requestId choice ∧ runId = m.jobs.length ∧ m.activeRunId = none ∧
      (managerMachine.step m event).2.activeRunId = some runId ∧
      (requestId = "" ∨ ∀ other ∈ m.jobs, other.run.requestId ≠ requestId) := by
  have hle : m.jobs.length ≤ runId := List.getElem?_eq_none_iff.mp hnone
  rcases change_step m event with
    ⟨hjobs, -, -⟩ | ⟨name, requestId, choice, hevent, hjobs, hidle, hactive, hfresh⟩ |
      ⟨other, -, hjobs, -⟩ | ⟨worker, answer, other, -, hother, hjobs, -⟩
  · rw [hjobs, hnone] at hjob
    cases hjob
  · have hlt : runId < m.jobs.length + 1 := by
      have hlt := (List.getElem?_eq_some_iff.mp hjob).1
      rwa [hjobs, List.length_append, List.length_singleton] at hlt
    have hid : runId = m.jobs.length := by omega
    rw [hjobs, hid, List.getElem?_append_right le_rfl, Nat.sub_self] at hjob
    exact ⟨name, requestId, choice, hevent, (Option.some.inj hjob).symm, hid, hidle,
      hactive.trans (congrArg some hid.symm), hfresh⟩
  · have hlt := (List.getElem?_eq_some_iff.mp hjob).1
    rw [hjobs, List.length_modify] at hlt
    omega
  · have hlt := (List.getElem?_eq_some_iff.mp hjob).1
    rw [hjobs, List.length_set] at hlt
    omega

end Changes

/-! ## The invariant of the manager -/

/-- The runs of the manager after a history. -/
structure ManagerInv (tr : List (Machine.Step Manager ManagerEvent ManagerOutput)) (m : Manager) :
    Prop where
  active : ∀ (runId : ℕ) (job : Job), m.jobs[runId]? = some job →
    (job.worker.pc ≠ .finished ↔ m.activeRunId = some runId)
  distinct : ∀ (i j : ℕ) (a b : Job), m.jobs[i]? = some a → m.jobs[j]? = some b →
    a.run.requestId ≠ "" → a.run.requestId = b.run.requestId → i = j
  progress : ∀ (runId : ℕ) (job : Job), m.jobs[runId]? = some job →
    job.Progress (dispatched runId tr)
  known : ∀ runId job, m.jobs[runId]? = some job → JobInv (callsOf runId tr) job
  unborn : ∀ runId : ℕ, m.jobs[runId]? = none → dispatched runId tr = [] ∧ callsOf runId tr = []

section Invariant

variable {m : Manager} {tr r : List (Machine.Step Manager ManagerEvent ManagerOutput)} {runId : ℕ}
  {job : Job}

lemma dispatched_append (tr r : List (Machine.Step Manager ManagerEvent ManagerOutput)) :
    dispatched runId (tr ++ r) = dispatched runId tr ++ dispatched runId r :=
  List.filterMap_append

lemma dispatched_singleton (x : Machine.Step Manager ManagerEvent ManagerOutput) :
    dispatched runId [x] = (dispatchOf runId x).toList := by
  rw [dispatched, List.filterMap_cons]
  cases dispatchOf runId x <;> rfl

lemma callsOf_concat (x : Machine.Step Manager ManagerEvent ManagerOutput) :
    callsOf runId (tr ++ [x]) = (callOf runId x).toList ++ callsOf runId tr := by
  rw [callsOf, List.reverse_append, List.reverse_singleton, List.singleton_append,
    List.filterMap_cons]
  cases callOf runId x <;> rfl

lemma Job.requestCancel_progress {sent : List Packet} (h : job.Progress sent) :
    job.requestCancel.Progress sent := h

/-- A run that is there after a step was there before it, or has just been created. -/
lemma run_before (event : ManagerEvent)
    (hjob : (managerMachine.step m event).2.jobs[runId]? = some job) :
    (∃ before, m.jobs[runId]? = some before ∧
      (((dispatchOf runId (managerMachine.stepAt m event) = none ∧
          callOf runId (managerMachine.stepAt m event) = none ∧
          (job = before ∨ job = before.requestCancel)) ∨
        ∃ answer, job = (before.work answer).2 ∧
          dispatchOf runId (managerMachine.stepAt m event) = before.dispatches answer ∧
          callOf runId (managerMachine.stepAt m event) = (before.work answer).1))) ∨
    m.jobs[runId]? = none := by
  cases hbefore : m.jobs[runId]? with
  | none => exact Or.inr rfl
  | some before =>
    obtain ⟨next, hnext, hkind⟩ := run_step m event hbefore
    obtain rfl : next = job := Option.some.inj (hnext.symm.trans hjob)
    exact Or.inl ⟨before, rfl, hkind⟩

lemma ManagerInv.progress_step (h : ManagerInv tr m) (event : ManagerEvent)
    (hjob : (managerMachine.step m event).2.jobs[runId]? = some job) :
    job.Progress (dispatched runId (tr ++ [managerMachine.stepAt m event])) ∧
      JobInv (callsOf runId (tr ++ [managerMachine.stepAt m event])) job := by
  rw [dispatched_append, dispatched_singleton, callsOf_concat]
  rcases run_before event hjob with
    ⟨before, hbefore, ⟨hdispatch, hcall, hkind⟩ | ⟨answer, rfl, hdispatch, hcall⟩⟩ | hnone
  · have hprogress := h.progress runId before hbefore
    have hknown := h.known runId before hbefore
    rw [hdispatch, hcall, Option.toList_none, Option.toList_none, List.append_nil, List.nil_append]
    rcases hkind with rfl | rfl
    · exact ⟨hprogress, hknown⟩
    · exact ⟨hprogress, hknown.requestCancel⟩
  · rw [hdispatch, hcall]
    exact ⟨(h.progress runId before hbefore).work answer,
      (h.known runId before hbefore).work answer⟩
  · obtain ⟨name, requestId, choice, rfl, rfl, -⟩ := run_created m event hnone hjob
    have hevent : ∀ answer, (.execute name requestId choice : ManagerEvent) ≠ .work runId answer :=
      fun _ h => nomatch h
    obtain ⟨hdispatch, hcall⟩ := silent_of_ne_work m hevent
    obtain ⟨hdispatched, hcalls⟩ := h.unborn runId hnone
    rw [hdispatch, hcall, hdispatched, hcalls]
    exact ⟨rfl, jobInv_queued _ _ _⟩

lemma Job.work_finished {answer : Answer} (hpc : job.worker.pc ≠ .finished)
    (hnext : (job.work answer).2.worker.pc = .finished) : job.worker.pc = .finishing := by
  unfold Job.work at hnext
  split at hnext
  · exact absurd hnext (Worker.called_pc _ hpc)
  · exact absurd hnext hpc
  · rcases job.proceed_cases _ hpc with ⟨hne, -⟩ | ⟨hfinishing, -⟩
    · exact absurd hnext hne
    · exact hfinishing

lemma ManagerInv.active_step (h : ManagerInv tr m) (event : ManagerEvent)
    (hjob : (managerMachine.step m event).2.jobs[runId]? = some job) :
    job.worker.pc ≠ .finished ↔ (managerMachine.step m event).2.activeRunId = some runId := by
  rcases change_step m event with
    ⟨hjobs, hactive, -⟩ | ⟨name, requestId, choice, -, hjobs, hidle, hactive, -⟩ |
      ⟨other, -, hjobs, hactive⟩ | ⟨worker, answer, before, -, hbefore, hjobs, hactive⟩
  · rw [hactive]
    exact h.active runId job (hjobs ▸ hjob)
  · rw [hactive]
    rw [hjobs] at hjob
    by_cases hlt : runId < m.jobs.length
    · rw [List.getElem?_append_left hlt] at hjob
      have hfinished := h.active runId job hjob
      rw [hidle] at hfinished
      refine iff_of_false (fun hne => nomatch hfinished.mp hne) fun heq => ?_
      have hid := Option.some.inj heq
      omega
    · have hle : runId < m.jobs.length + 1 := by
        have hlt := (List.getElem?_eq_some_iff.mp hjob).1
        rwa [List.length_append, List.length_singleton] at hlt
      have hid : runId = m.jobs.length := by omega
      rw [hid, List.getElem?_append_right le_rfl, Nat.sub_self] at hjob
      rw [← Option.some.inj hjob, hid]
      exact iff_of_true (fun hpc => nomatch hpc) rfl
  · rw [hactive]
    rw [hjobs, List.getElem?_modify] at hjob
    obtain ⟨before, hbefore, rfl⟩ := Option.map_eq_some_iff.mp hjob
    have hold := h.active runId before hbefore
    split <;> exact hold
  · rw [hactive]
    rw [hjobs] at hjob
    have hworker := h.active worker before hbefore
    by_cases hid : worker = runId
    · subst hid
      rw [List.getElem?_set_self (List.getElem?_eq_some_iff.mp hbefore).1] at hjob
      rw [← Option.some.inj hjob]
      by_cases hpc : before.worker.pc = .finished
      · rw [Job.work_of_finished hpc, if_neg fun hfinish => ?_]
        · exact hworker
        · rw [hpc] at hfinish
          exact nomatch hfinish.1
      · by_cases hnext : (before.work answer).2.worker.pc = .finished
        · rw [if_pos ⟨Job.work_finished hpc hnext, hnext, hworker.mp hpc⟩]
          exact iff_of_false (not_not.mpr hnext) fun hnone => nomatch hnone
        · rw [if_neg fun hfinish => hnext hfinish.2.1]
          exact iff_of_true hnext (hworker.mp hpc)
    · rw [List.getElem?_set_ne hid] at hjob
      have hold := h.active runId job hjob
      split
      · rename_i hfinish
        rw [hfinish.2.2] at hold
        refine iff_of_false (fun hne => hid (Option.some.inj (hold.mp hne))) ?_
        exact fun hnone => nomatch hnone
      · exact hold

lemma ManagerInv.distinct_step (h : ManagerInv tr m) (event : ManagerEvent) {i j : ℕ} {a b : Job}
    (ha : (managerMachine.step m event).2.jobs[i]? = some a)
    (hb : (managerMachine.step m event).2.jobs[j]? = some b) (hempty : a.run.requestId ≠ "")
    (heq : a.run.requestId = b.run.requestId) : i = j := by
  have hsame : ∀ {runId : ℕ} {job : Job},
      (managerMachine.step m event).2.jobs[runId]? = some job →
      (∃ before : Job, m.jobs[runId]? = some before ∧
        job.run.requestId = before.run.requestId) ∨ m.jobs[runId]? = none := by
    intro runId job hjob
    refine (run_before event hjob).imp_left ?_
    rintro ⟨before, hbefore, ⟨-, -, rfl | rfl⟩ | ⟨answer, rfl, -⟩⟩
    · exact ⟨_, hbefore, rfl⟩
    · exact ⟨_, hbefore, rfl⟩
    · exact ⟨_, hbefore, (before.work_sameRun answer).requestId⟩
  have hnew : ∀ {i j : ℕ} {a b : Job}, m.jobs[i]? = none →
      (managerMachine.step m event).2.jobs[i]? = some a → m.jobs[j]? = some b →
      a.run.requestId ≠ "" → a.run.requestId ≠ b.run.requestId := by
    intro i j a b hnone ha hb hempty heq
    obtain ⟨name, requestId, choice, -, rfl, -, -, -, hfresh⟩ := run_created m event hnone ha
    rcases hfresh with hfresh | hfresh
    · exact hempty hfresh
    · exact hfresh b (List.mem_of_getElem? hb) heq.symm
  rcases hsame ha with ⟨c, hc, hac⟩ | hanone <;> rcases hsame hb with ⟨d, hd, hbd⟩ | hbnone
  · exact h.distinct i j c d hc hd (hac ▸ hempty) (by rw [← hac, ← hbd, heq])
  · exact absurd (heq.symm.trans hac) (hnew hbnone hb hc (heq ▸ hempty))
  · exact absurd (heq.trans hbd) (hnew hanone ha hd hempty)
  · obtain ⟨-, -, -, -, -, hi, -⟩ := run_created m event hanone ha
    obtain ⟨-, -, -, -, -, hj, -⟩ := run_created m event hbnone hb
    rw [hi, hj]

lemma ManagerInv.unborn_step (h : ManagerInv tr m) (event : ManagerEvent)
    (hnone : (managerMachine.step m event).2.jobs[runId]? = none) :
    dispatched runId (tr ++ [managerMachine.stepAt m event]) = [] ∧
      callsOf runId (tr ++ [managerMachine.stepAt m event]) = [] := by
  have hbefore : m.jobs[runId]? = none := by
    cases hjob : m.jobs[runId]? with
    | none => rfl
    | some job =>
      obtain ⟨next, hnext, -⟩ := run_step m event hjob
      exact nomatch hnext.symm.trans hnone
  obtain ⟨hdispatch, hcall⟩ := silent_of_none event hbefore
  obtain ⟨hdispatched, hcalls⟩ := h.unborn runId hbefore
  rw [dispatched_append, dispatched_singleton, callsOf_concat, hdispatch, hcall, hdispatched,
    hcalls]
  exact ⟨rfl, rfl⟩

/-- **The invariant holds in every run of the manager.** -/
theorem managerInv_run (variants : DanceVariants) (configured : Bool) (events : List ManagerEvent) :
    ManagerInv (managerMachine.trace { danceVariants := variants, configured := configured } events)
      (managerMachine.final { danceVariants := variants, configured := configured } events) := by
  refine managerMachine.history_induction (motive := ManagerInv) ?_ ?_ events
  · have hnone : ∀ (runId : ℕ) (job : Job), ([] : List Job)[runId]? ≠ some job := by
      intro runId job h
      rw [List.getElem?_nil] at h
      cases h
    exact ⟨fun i job h => absurd h (hnone i job), fun i _ a _ h => absurd h (hnone i a),
      fun i job h => absurd h (hnone i job), fun i job h => absurd h (hnone i job),
      fun _ _ => ⟨rfl, rfl⟩⟩
  · intro tr m event h
    exact ⟨fun _ _ => h.active_step event, fun _ _ _ _ => h.distinct_step event,
      fun _ _ hjob => (h.progress_step event hjob).1,
      fun _ _ hjob => (h.progress_step event hjob).2, fun _ => h.unborn_step event⟩

end Invariant

/-! ## What the clients rely on -/

/-- What holds of a history and of the state after it. -/
structure OneAtATime (tr : List (Machine.Step Manager ManagerEvent ManagerOutput)) (m : Manager) :
    Prop where
  /-- At most one run is active. -/
  single : ∀ (i j : ℕ) (a b : Job), m.jobs[i]? = some a → m.jobs[j]? = some b →
    a.run.state.isFinal = false → b.run.state.isFinal = false → i = j
  /-- A request identifier belongs to one run. -/
  distinct : ∀ (i j : ℕ) (a b : Job), m.jobs[i]? = some a → m.jobs[j]? = some b →
    a.run.requestId ≠ "" → a.run.requestId = b.run.requestId → i = j
  /-- A repeated request identifier creates nothing. -/
  repeated : ∀ x ∈ tr, ∀ name requestId choice, x.event = .execute name requestId choice →
    requestId ≠ "" → (∃ job ∈ x.pre.jobs, job.run.requestId = requestId) →
    x.post.jobs = x.pre.jobs
  /-- A run sends its plan at most once. -/
  once : ∀ (runId : ℕ) (job : Job), m.jobs[runId]? = some job →
    dispatched runId tr <+: (plans job.run.name).map Step.packet
  /-- A run is created when every other worker has closed its session and returned. -/
  sessions : ∀ x ∈ tr, x.post.jobs.length ≠ x.pre.jobs.length →
    ∀ job ∈ x.pre.jobs, job.worker.pc = .finished
  /-- What a run shows in a final state, it shows for ever. -/
  final : ∀ l x r, tr = l ++ x :: r → ∀ (runId : ℕ) (job : Job), x.post.jobs[runId]? = some job →
    job.run.state.isFinal = true →
    ∃ next, m.jobs[runId]? = some next ∧ next.run.snapshot runId = job.run.snapshot runId
  /-- After a granted cancellation a run sends at most the step that it was about to send. -/
  cancelled : ∀ l x r, tr = l ++ x :: r → ∀ reply runId, x.output = .cancelled reply →
    reply.ok = true → reply.runId = some runId →
    ∃ job, x.post.jobs[runId]? = some job ∧
      (dispatched runId r).length ≤ job.committed.toNat

section Guarantees

variable {m : Manager} {event : ManagerEvent} {runId : ℕ} {job : Job}

lemma JobInv.isFinal_iff {log : List Call} (h : JobInv log job) :
    job.run.state.isFinal = true ↔ job.worker.pc = .finished := by
  constructor
  · intro hfinal
    by_contra hpc
    rw [(h.working hpc).1] at hfinal
    cases hfinal
  · exact fun hpc => (h.finished hpc).1

/-- A finished run is left as it is, but for its cancellation flag. -/
lemma finished_step (hjob : m.jobs[runId]? = some job) (hpc : job.worker.pc = .finished)
    (event : ManagerEvent) :
    ∃ next, (managerMachine.step m event).2.jobs[runId]? = some next ∧
      next.worker.pc = .finished ∧ next.run.snapshot runId = job.run.snapshot runId := by
  obtain ⟨next, hnext, ⟨-, -, rfl | rfl⟩ | ⟨answer, rfl, -⟩⟩ := run_step m event hjob
  · exact ⟨_, hnext, hpc, rfl⟩
  · exact ⟨_, hnext, hpc, rfl⟩
  · rw [Job.work_of_finished hpc] at hnext
    exact ⟨_, hnext, hpc, rfl⟩

/-- A finished run is left as it is over a whole history. -/
lemma finished_run (hjob : m.jobs[runId]? = some job) (hpc : job.worker.pc = .finished)
    (events : List ManagerEvent) :
    ∃ next, (managerMachine.final m events).jobs[runId]? = some next ∧
      next.worker.pc = .finished ∧ next.run.snapshot runId = job.run.snapshot runId := by
  refine managerMachine.history_induction (motive := fun _ m' => ∃ next,
    m'.jobs[runId]? = some next ∧ next.worker.pc = .finished ∧
      next.run.snapshot runId = job.run.snapshot runId)
    ⟨job, hjob, hpc, rfl⟩ ?_ events
  rintro tr m' event ⟨next, hnext, hfinished, hsnapshot⟩
  obtain ⟨later, hlater, hdone, hsame⟩ := finished_step hnext hfinished event
  exact ⟨later, hlater, hdone, hsame.trans hsnapshot⟩

/-- A cancelled run sends at most the step that it is committed to. -/
lemma cancelled_run (hjob : m.jobs[runId]? = some job) (hcancel : job.run.cancelRequested = true)
    (events : List ManagerEvent) :
    (dispatched runId (managerMachine.trace m events)).length ≤ job.committed.toNat := by
  have hinv : ∃ next, (managerMachine.final m events).jobs[runId]? = some next ∧
      next.run.cancelRequested = true ∧
      (dispatched runId (managerMachine.trace m events)).length + next.committed.toNat ≤
        job.committed.toNat := by
    refine managerMachine.history_induction (motive := fun tr m' => ∃ next,
      m'.jobs[runId]? = some next ∧ next.run.cancelRequested = true ∧
      (dispatched runId tr).length + next.committed.toNat ≤ job.committed.toNat)
      ⟨job, hjob, hcancel, (Nat.zero_add _).le⟩ ?_ events
    rintro tr m' event ⟨next, hnext, hflag, hcount⟩
    obtain ⟨later, hlater, hkind⟩ := run_step m' event hnext
    refine ⟨later, hlater, ?_⟩
    rw [dispatched_append, dispatched_singleton, List.length_append]
    rcases hkind with ⟨hdispatch, -, rfl | rfl⟩ | ⟨answer, rfl, hdispatch, -⟩
    · rw [hdispatch]
      exact ⟨hflag, hcount⟩
    · rw [hdispatch]
      exact ⟨rfl, hcount⟩
    · have hwork := next.work_committed hflag answer
      rw [hdispatch]
      exact ⟨(next.work_cancelRequested answer).trans hflag, by omega⟩
  obtain ⟨next, -, -, hcount⟩ := hinv
  omega

lemma Manager.cancel_granted (hok : (m.cancel runId).1.ok = true) :
    (m.cancel runId).1.runId = some runId ∧
      ∃ job, (m.cancel runId).2.jobs[runId]? = some job ∧ job.run.cancelRequested = true := by
  unfold Manager.cancel at hok ⊢
  cases hjob : m.jobs[runId]? with
  | none =>
    rw [hjob] at hok
    cases hok
  | some job =>
    rw [hjob] at hok
    dsimp only at hok ⊢
    split at hok
    · cases hok
    · rename_i hactive
      rw [if_neg hactive]
      refine ⟨rfl, job.requestCancel, ?_, rfl⟩
      show (m.jobs.modify runId Job.requestCancel)[runId]? = _
      rw [List.getElem?_modify_eq, hjob]
      rfl

/-- A granted cancellation sets the flag of the run. -/
lemma cancel_granted {reply : CancelReply}
    (houtput : (managerMachine.step m event).1 = .cancelled reply) (hok : reply.ok = true)
    (hid : reply.runId = some runId) :
    ∃ job, (managerMachine.step m event).2.jobs[runId]? = some job ∧
      job.run.cancelRequested = true := by
  have hcancel : ∀ other, (m.cancel other).1 = reply →
      ∃ job, (m.cancel other).2.jobs[runId]? = some job ∧ job.run.cancelRequested = true := by
    rintro other rfl
    obtain ⟨hother, hjob⟩ := m.cancel_granted hok
    rw [Option.some.inj (hid.symm.trans hother)]
    exact hjob
  cases event with
  | cancel other => exact hcancel other (ManagerOutput.cancelled.inj houtput)
  | cancelActive =>
    have hreply : m.cancelActive.1 = reply := ManagerOutput.cancelled.inj houtput
    show ∃ job, m.cancelActive.2.jobs[runId]? = some job ∧ _
    unfold Manager.cancelActive at hreply ⊢
    cases hactive : m.activeRunId with
    | none =>
      rw [hactive] at hreply
      rw [← hreply] at hok
      cases hok
    | some other =>
      rw [hactive] at hreply
      exact hcancel other hreply
  | work worker answer =>
    have hsome : ((m.work worker answer).1.map (ManagerOutput.called worker)).getD .none =
      .cancelled reply := houtput
    cases hcall : (m.work worker answer).1 <;> rw [hcall] at hsome <;> cases hsome
  | _ => cases houtput

/-- A run is created while no other is active. -/
lemma created_idle (hlength : (managerMachine.step m event).2.jobs.length ≠ m.jobs.length) :
    m.activeRunId = none := by
  rcases change_step m event with
    ⟨hjobs, -, -⟩ | ⟨-, -, -, -, -, hidle, -, -⟩ | ⟨other, -, hjobs, -⟩ |
      ⟨worker, answer, before, -, -, hjobs, -⟩
  · exact absurd (congrArg List.length hjobs) hlength
  · exact hidle
  · rw [hjobs, List.length_modify] at hlength
    exact absurd rfl hlength
  · rw [hjobs, List.length_set] at hlength
    exact absurd rfl hlength

end Guarantees

/-- **The manager runs one action at a time, for every order of its clients and workers.** -/
theorem oneAtATime_run (variants : DanceVariants) (configured : Bool) (events : List ManagerEvent) :
    OneAtATime
      (managerMachine.trace { danceVariants := variants, configured := configured } events)
      (managerMachine.final { danceVariants := variants, configured := configured } events) := by
  have hinv := managerInv_run variants configured
  have hsplit : ∀ {l x r},
      managerMachine.trace { danceVariants := variants, configured := configured } events =
        l ++ x :: r → ∃ es₁ es₂, x.post = managerMachine.final
          { danceVariants := variants, configured := configured } (es₁ ++ [x.event]) ∧
        x = managerMachine.stepAt (managerMachine.final
          { danceVariants := variants, configured := configured } es₁) x.event ∧
        r = managerMachine.trace x.post es₂ ∧ managerMachine.final
          { danceVariants := variants, configured := configured } events =
            managerMachine.final x.post es₂ := by
    intro l x r htr
    obtain ⟨es₁, es₂, rfl, -, hx, hr⟩ := managerMachine.trace_eq_append_cons htr
    have hpost : x.post = managerMachine.final
        { danceVariants := variants, configured := configured } (es₁ ++ [x.event]) := by
      rw [Machine.final_concat]
      exact congrArg Machine.Step.post hx
    refine ⟨es₁, es₂, hpost, hx, hr, ?_⟩
    rw [hpost, ← Machine.final_append, List.append_assoc]
    rfl
  constructor
  · intro i j a b ha hb hafinal hbfinal
    have hactive : ∀ {runId : ℕ} {job : Job}, (managerMachine.final
        { danceVariants := variants, configured := configured } events).jobs[runId]? = some job →
        job.run.state.isFinal = false → (managerMachine.final
          { danceVariants := variants, configured := configured } events).activeRunId =
            some runId := by
      intro runId job hjob hfinal
      refine ((hinv events).active runId job hjob).mp fun hpc => ?_
      rw [((hinv events).known runId job hjob).isFinal_iff.mpr hpc] at hfinal
      cases hfinal
    exact Option.some.inj ((hactive ha hafinal).symm.trans (hactive hb hbfinal))
  · exact (hinv events).distinct
  · rintro x hx name requestId choice hevent hempty ⟨job, hjob, hrequest⟩
    obtain ⟨es₁, -, -, hstep⟩ := managerMachine.mem_trace_stepAt hx
    rw [hevent] at hstep
    rw [hstep] at hjob ⊢
    exact Manager.execute_repeated hempty hjob hrequest choice
  · exact fun runId job hjob => ((hinv events).progress runId job hjob).isPrefix
  · intro x hx hlength job hjob
    obtain ⟨es₁, -, -, hstep⟩ := managerMachine.mem_trace_stepAt hx
    rw [hstep] at hjob hlength
    obtain ⟨runId, hrunId⟩ := List.mem_iff_getElem?.mp hjob
    by_contra hpc
    have hactive := ((hinv es₁).active runId job hrunId).mp hpc
    rw [show _ = none from created_idle hlength] at hactive
    cases hactive
  · intro l x r htr runId job hjob hfinal
    obtain ⟨es₁, es₂, hpost, -, -, hm⟩ := hsplit htr
    have hknown := (hinv (es₁ ++ [x.event])).known runId job (hpost ▸ hjob)
    rw [hm]
    obtain ⟨next, hnext, -, hsnapshot⟩ := finished_run hjob (hknown.isFinal_iff.mp hfinal) es₂
    exact ⟨next, hnext, hsnapshot⟩
  · intro l x r htr reply runId houtput hok hid
    obtain ⟨es₁, es₂, -, hx, hr, -⟩ := hsplit htr
    rw [hx] at houtput
    obtain ⟨job, hjob, hcancel⟩ := cancel_granted houtput hok hid
    refine ⟨job, ?_, ?_⟩
    · rw [hx]
      exact hjob
    · rw [hr]
      refine cancelled_run ?_ hcancel es₂
      rw [hx]
      exact hjob

/-- The promises of the cleanup for a run and its calls: every pose is recovered exactly if all
enters that an exit needs were acknowledged, and a reported stop is true exactly if it was held. -/
structure CleanupPromises (log : List Call) (job : Job) : Prop where
  poses : (∀ p, PoseRecovered p log job.run.state) ↔ (Disarmed log → EntersAcknowledged log)
  stop : job.worker.pc = .finished → (StopTruthful log job.run ↔ StopHeld log)

/-- Every run of a history keeps and breaks the promises of its cleanup by its own calls alone. -/
def PromisesManaged (history : List (Machine.Step Manager ManagerEvent ManagerOutput))
    (m : Manager) : Prop :=
  ∀ runId job, m.jobs[runId]? = some job → CleanupPromises (callsOf runId history) job

/-- **The cleanup keeps and breaks its promises among other runs and clients as it does alone.** -/
theorem managed_promises (variants : DanceVariants) (configured : Bool)
    (events : List ManagerEvent) :
    PromisesManaged
      (managerMachine.trace { danceVariants := variants, configured := configured } events)
      (managerMachine.final { danceVariants := variants, configured := configured } events) := by
  intro runId job hjob
  have h := (managerInv_run variants configured events).known runId job hjob
  exact ⟨⟨h.entersAcknowledged, h.poseRecovered⟩, h.stopTruthful_iff⟩

end UnitreeGo2.SportActions
