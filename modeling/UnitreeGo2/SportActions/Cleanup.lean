import UnitreeGo2.SportActions.Worker

/-!
# The cleanup of a sport action

The poses that a run owes an exit are read off its calls, and compared with the flags of its
worker.  The cleanup then calls exactly the exits that the flags ask for, between its stop and
its disarm.
-/

namespace UnitreeGo2.SportActions

/-! ## What the calls of a run say -/

/-- The poses that a plan enters and has to leave. -/
inductive Pose where
  | handstand
  | crouch
  deriving DecidableEq, Repr

def Pose.enterAction : Pose → ℤ
  | .handstand => 5
  | .crouch => 14

def Pose.exitAction : Pose → ℤ
  | .handstand => 6
  | .crouch => 15

def Pose.enter (p : Pose) : Packet := { operation := sportAction, actionId := p.enterAction }

def Pose.exit (p : Pose) : Packet := { operation := sportAction, actionId := p.exitAction }

def stopPacket : Packet := { operation := stop }

def disarmPacket : Packet := { operation := disarm }

/-- The pose was entered by a packet that went out, and no exit was acknowledged since; the
last call stands first. -/
def Owes (p : Pose) : List Call → Prop
  | [] => False
  | c :: earlier =>
    (c.packet = p.enter ∧ c.outcome.sent = true) ∨
      (Owes p earlier ∧ ¬ (c.packet = p.exit ∧ c.outcome = .acknowledged))

/-- An enter packet went out and was not acknowledged. -/
def Lost (p : Pose) (log : List Call) : Prop :=
  ∃ c ∈ log, c.packet = p.enter ∧ c.outcome.sent = true ∧ c.outcome ≠ .acknowledged

/-- The flag of the worker for a pose. -/
def Worker.flag (w : Worker) : Pose → Bool
  | .handstand => w.handstandEntered
  | .crouch => w.crouched

/-- The calls after the last stop. -/
def sinceStop (log : List Call) : List Call := log.takeWhile fun c => c.packet ≠ stopPacket

/-- The last stop and the calls before it. -/
def uptoStop (log : List Call) : List Call := log.dropWhile fun c => c.packet ≠ stopPacket

section Logs

variable {p : Pose} {log plan cleanup : List Call} {c : Call} {outcome : Outcome}

lemma Pose.exit_ne_enter (p q : Pose) : p.exit ≠ q.enter := by
  cases p <;> cases q <;> decide

lemma Pose.enter_ne_disarm : p.enter ≠ disarmPacket := by
  cases p <;> decide

lemma Pose.exit_ne_stop : p.exit ≠ stopPacket := by
  cases p <;> decide

lemma Pose.exit_ne_disarm : p.exit ≠ disarmPacket := by
  cases p <;> decide

lemma Pose.enter_ne_stop : p.enter ≠ stopPacket := by
  cases p <;> decide

lemma Pose.exit_injective {q : Pose} (h : p.exit = q.exit) : p = q := by
  cases p <;> cases q <;> first | rfl | exact absurd h (by decide)

lemma owes_cons_of_ne (henter : c.packet ≠ p.enter) (hexit : c.packet ≠ p.exit) :
    Owes p (c :: log) ↔ Owes p log := by
  simp only [Owes, henter, hexit, false_and, false_or, not_false_eq_true, and_true]

lemma not_lost_of_acknowledged (h : ∀ c ∈ log, c.outcome = .acknowledged) : ¬ Lost p log := by
  rintro ⟨c, hc, -, -, hnot⟩
  exact hnot (h c hc)

/-- A call that fails leaves a pose owed as it was, or is itself an enter that got lost. -/
lemma owes_cons_of_failed (h : ∀ c ∈ log, c.outcome = .acknowledged)
    (hfail : c.outcome ≠ .acknowledged) :
    Owes p (c :: log) ↔ Owes p log ∨ Lost p (c :: log) := by
  have hlost : Lost p (c :: log) ↔ c.packet = p.enter ∧ c.outcome.sent = true := by
    constructor
    · rintro ⟨d, hd, henter, hsent, hnot⟩
      rcases List.mem_cons.mp hd with rfl | hd
      · exact ⟨henter, hsent⟩
      · exact absurd (h d hd) hnot
    · rintro ⟨henter, hsent⟩
      exact ⟨c, List.mem_cons_self, henter, hsent, hfail⟩
  simp only [Owes, hlost, hfail, and_false, not_false_eq_true, and_true]
  exact or_comm

lemma sinceStop_append (h : ∀ c ∈ cleanup, c.packet ≠ stopPacket) :
    sinceStop (cleanup ++ ⟨stopPacket, outcome⟩ :: plan) = cleanup := by
  rw [sinceStop, List.takeWhile_append_of_pos fun c hc => decide_eq_true (h c hc)]
  rw [List.takeWhile_cons_of_neg (by simp), List.append_nil]

lemma uptoStop_append (h : ∀ c ∈ cleanup, c.packet ≠ stopPacket) :
    uptoStop (cleanup ++ ⟨stopPacket, outcome⟩ :: plan) = ⟨stopPacket, outcome⟩ :: plan := by
  rw [uptoStop, List.dropWhile_append_of_pos fun c hc => decide_eq_true (h c hc)]
  rw [List.dropWhile_cons_of_neg (by simp)]

lemma owes_stop_cons : Owes p (⟨stopPacket, outcome⟩ :: plan) ↔ Owes p plan :=
  owes_cons_of_ne Pose.enter_ne_stop.symm Pose.exit_ne_stop.symm

end Logs

/-! ## The plans -/

/-- The packet of a step. -/
def Step.packet (step : Step) : Packet :=
  { operation := step.operation, actionId := step.actionId, vx := step.vx }

/-- The actions of a step belong to sport actions, and it does not disarm. -/
structure Step.WellFormed (step : Step) : Prop where
  enter : ∀ p : Pose, step.actionId = p.enterAction → step.packet = p.enter
  exit : ∀ p : Pose, step.actionId = p.exitAction → step.packet = p.exit
  disarm : step.packet ≠ disarmPacket

instance (step : Step) : Decidable step.WellFormed :=
  decidable_of_iff ((step.actionId = 5 → step.packet = Pose.handstand.enter) ∧
      (step.actionId = 14 → step.packet = Pose.crouch.enter) ∧
      (step.actionId = 6 → step.packet = Pose.handstand.exit) ∧
      (step.actionId = 15 → step.packet = Pose.crouch.exit) ∧ step.packet ≠ disarmPacket)
    ⟨fun ⟨h5, h14, h6, h15, hdisarm⟩ =>
      ⟨fun p => Pose.casesOn p h5 h14, fun p => Pose.casesOn p h6 h15, hdisarm⟩,
     fun h => ⟨h.enter .handstand, h.enter .crouch, h.exit .handstand, h.exit .crouch, h.disarm⟩⟩

/-- No two of the steps enter the same pose. -/
def EntersOnce (steps : List Step) : Prop :=
  steps.Pairwise fun a b => ∀ p : Pose, a.actionId = p.enterAction → b.actionId ≠ p.enterAction

lemma entersOnce_plans (name : PlanName) : EntersOnce (plans name) := by
  have hposes : ∀ a b : Step,
      (a.actionId = 5 → b.actionId ≠ 5) ∧ (a.actionId = 14 → b.actionId ≠ 14) →
      ∀ p : Pose, a.actionId = p.enterAction → b.actionId ≠ p.enterAction :=
    fun a b h p => Pose.casesOn p h.1 h.2
  refine List.Pairwise.imp (R := fun a b : Step => (a.actionId = 5 → b.actionId ≠ 5) ∧
    (a.actionId = 14 → b.actionId ≠ 14)) (hposes _ _) ?_
  cases name <;> decide

lemma wellFormed_of_mem_plans {name : PlanName} {step : Step} (h : step ∈ plans name) :
    step.WellFormed := by
  have hall : ∀ step ∈ plans name, step.WellFormed := by
    cases name <;> decide
  exact hall step h

/-- The flags after a step are those of the calls after it. -/
lemma flag_note (w : Worker) (step : Step) (p : Pose) :
    (w.note step).flag p = if step.actionId = p.enterAction then true
      else if step.actionId = p.exitAction then false else w.flag p := by
  unfold Worker.note
  by_cases h5 : step.actionId = 5
  · rw [if_pos h5, h5]
    cases p <;> rfl
  by_cases h6 : step.actionId = 6
  · rw [if_neg h5, if_pos h6, h6]
    cases p <;> rfl
  by_cases h14 : step.actionId = 14
  · rw [if_neg h5, if_neg h6, if_pos h14, h14]
    cases p <;> rfl
  by_cases h15 : step.actionId = 15
  · rw [if_neg h5, if_neg h6, if_neg h14, if_pos h15, h15]
    cases p <;> rfl
  · rw [if_neg h5, if_neg h6, if_neg h14, if_neg h15]
    cases p
    · exact ((if_neg h5).trans (if_neg h6)).symm
    · exact ((if_neg h14).trans (if_neg h15)).symm

/-- What an acknowledged step makes of the poses that are owed. -/
lemma Step.WellFormed.owes_cons {step : Step} (h : step.WellFormed) {p : Pose} {log : List Call}
    {flag : Bool} (howes : Owes p log ↔ flag = true) :
    Owes p (⟨step.packet, .acknowledged⟩ :: log) ↔
      (if step.actionId = p.enterAction then true
        else if step.actionId = p.exitAction then false else flag) = true := by
  have henter : step.packet = p.enter ↔ step.actionId = p.enterAction :=
    ⟨congrArg Packet.actionId, h.enter p⟩
  have hexit : step.packet = p.exit ↔ step.actionId = p.exitAction :=
    ⟨congrArg Packet.actionId, h.exit p⟩
  simp only [Owes, henter, hexit, howes, Outcome.sent, and_true]
  split_ifs with henters hexits
  · exact iff_of_true (Or.inl henters) rfl
  · refine iff_of_false (fun howed => ?_) not_false
    rcases howed with h | h
    · exact henters h
    · exact h.2 hexits
  · exact ⟨fun howed => (howed.resolve_left henters).1, fun hflag => Or.inr ⟨hflag, hexits⟩⟩

/-! ## The invariant of the calls -/

/-- The steps that the worker has not dispatched yet. -/
def Pc.ahead : Pc → List Step
  | .checking steps => steps
  | .dispatching step rest => step :: rest
  | .recording _ rest | .holding _ rest | .timing _ rest _ | .watching _ rest _
  | .sleeping _ rest _ | .keepingAlive _ rest _ => rest
  | _ => []

/-- The worker may still enter a pose. -/
def Pc.mayEnter (pc : Pc) (p : Pose) : Prop :=
  match pc with
  | .starting | .connecting | .arming | .running => True
  | pc => ∃ step ∈ pc.ahead, step.actionId = p.enterAction

/-- The steps ahead of the worker enter only poses that are not owed. -/
structure Ahead (log : List Call) (pc : Pc) : Prop where
  wellFormed : ∀ step ∈ pc.ahead, step.WellFormed
  once : EntersOnce pc.ahead
  fresh : ∀ p, pc.mayEnter p → ¬ Owes p log

/-- The flag of a pose, when the flags keep up with the calls. -/
def Worker.pendingFlag (w : Worker) (p : Pose) : Bool :=
  match w.pc with
  | .recording step _ => (w.note step).flag p
  | _ => w.flag p

/-- The worker is inside its plan. -/
structure Planned (log : List Call) (w : Worker) : Prop where
  acknowledged : ∀ c ∈ log, c.outcome = .acknowledged
  noDisarm : ∀ c ∈ log, c.packet ≠ disarmPacket
  owes : ∀ p, Owes p log ↔ w.pendingFlag p = true
  ahead : Ahead log w.pc
  error : w.error = ""
  stopOk : w.stopOk = false
  idle : w.pc = .starting ∨ w.pc = .connecting → log = []

/-- The calls of a plan that was left with these flags. -/
structure Left (log : List Call) (flag : Pose → Bool) : Prop where
  noDisarm : ∀ c ∈ log, c.packet ≠ disarmPacket
  owes : ∀ p, Owes p log ↔ flag p = true ∨ Lost p log
  lost : ∀ p, Lost p log → flag p = false

/-- The error of the worker tells of every call that was not acknowledged. -/
def Honest (log : List Call) (w : Worker) : Prop :=
  w.error = "" → ∀ c ∈ log, c.outcome = .acknowledged

/-- The worker has called the packets `made` since its stop, the last one first. -/
structure Cleaning (made : List Packet) (log : List Call) (w : Worker) : Prop where
  honest : Honest log w
  split : ∃ cleanup outcome plan, log = cleanup ++ ⟨stopPacket, outcome⟩ :: plan ∧
    cleanup.map Call.packet = made ∧ w.stopOk = outcome.error?.isNone ∧ Left plan w.flag

/-- The exit that the cleanup calls for a pose. -/
def Worker.exit (w : Worker) (p : Pose) : List Packet := if w.flag p then [p.exit] else []

/-- The exits of the cleanup, the last one first. -/
def Worker.exits (w : Worker) : List Packet := w.exit .crouch ++ w.exit .handstand

/-- The calls of a run, as its worker knows them. -/
def CallInv (log : List Call) (w : Worker) : Prop :=
  match w.pc with
  | .stopping => Honest log w ∧ Left log w.flag ∧ w.stopOk = false
  | .leavingHandstand => Cleaning [] log w ∧ w.flag .handstand = true
  | .standingUp => Cleaning (w.exit .handstand) log w ∧ w.flag .crouch = true
  | .disarming => Cleaning w.exits log w
  | .closing => Cleaning (disarmPacket :: w.exits) log w
  | .finishing | .finished =>
    (log = [] ∧ w.error ≠ "" ∧ w.stopOk = false) ∨ Cleaning (disarmPacket :: w.exits) log w
  | _ => Planned log w

section Calls

variable {made : List Packet} {log : List Call} {w : Worker} {outcome : Outcome}

lemma CallError.text_ne_empty (error : CallError) : error.text ≠ "" := by
  cases error with
  | osError errno strerror =>
    exact fun h => absurd (String.append_eq_empty_iff.mp h).1
      fun h => absurd (String.append_eq_empty_iff.mp h).2 (by decide)
  | rejected operation code =>
    exact fun h => absurd (String.append_eq_empty_iff.mp h).1
      fun h => absurd (String.append_eq_empty_iff.mp h).2 (by decide)
  | _ => decide

lemma Outcome.error?_eq_none : outcome.error? = none ↔ outcome = .acknowledged := by
  cases outcome <;> simp [Outcome.error?]

lemma Worker.flag_with_pc (pc : Pc) : ({ w with pc := pc } : Worker).flag = w.flag := by
  funext p
  cases p <;> rfl

lemma Worker.exit_congr {v : Worker} (h : v.flag = w.flag) (p : Pose) : v.exit p = w.exit p := by
  rw [Worker.exit, Worker.exit, h]

lemma Worker.exits_congr {v : Worker} (h : v.flag = w.flag) : v.exits = w.exits := by
  rw [Worker.exits, Worker.exits, Worker.exit_congr h, Worker.exit_congr h]

lemma Worker.blame_flag (what : String) (error : Option CallError) :
    (w.blame what error).flag = w.flag := by
  cases error <;> rfl

lemma Worker.blame_stopOk (what : String) (error : Option CallError) :
    (w.blame what error).stopOk = w.stopOk := by
  cases error <;> rfl

lemma Worker.blame_error_eq_empty {what : String} {error : Option CallError}
    (h : (w.blame what error).error = "") : w.error = "" ∧ error = none := by
  cases error with
  | none => exact ⟨h, rfl⟩
  | some error =>
    simp only [Worker.blame] at h
    split at h
    · exact absurd (String.append_eq_empty_iff.mp h).2 error.text_ne_empty
    · exact absurd h ‹_›

lemma Honest.blame (h : Honest log w) (packet : Packet) (what : String) (pc : Pc) :
    Honest (⟨packet, outcome⟩ :: log) { w.blame what outcome.error? with pc := pc } := by
  intro herror c hc
  obtain ⟨hw, hout⟩ := Worker.blame_error_eq_empty herror
  rcases List.mem_cons.mp hc with rfl | hc
  · exact Outcome.error?_eq_none.mp hout
  · exact h hw c hc

/-- One more call of the cleanup. -/
lemma Cleaning.call (h : Cleaning made log w) (packet : Packet) (what : String) (pc : Pc) :
    Cleaning (packet :: made) (⟨packet, outcome⟩ :: log)
      { w.blame what outcome.error? with pc := pc } := by
  obtain ⟨hhonest, cleanup, stopOutcome, plan, rfl, rfl, hstop, hleft⟩ := h
  refine ⟨hhonest.blame packet what pc, ⟨packet, outcome⟩ :: cleanup, stopOutcome, plan, rfl, rfl,
    ?_, ?_⟩
  · exact (Worker.blame_stopOk what _).trans hstop
  · exact (Worker.blame_flag (w := w) what outcome.error?).symm ▸ hleft

lemma Cleaning.congr {v : Worker} (h : Cleaning (disarmPacket :: w.exits) log w)
    (hflag : v.flag = w.flag) (hstop : v.stopOk = w.stopOk) (herror : v.error = "" → w.error = "") :
    Cleaning (disarmPacket :: v.exits) log v := by
  obtain ⟨hhonest, cleanup, outcome, plan, hlog, hmade, hok, hleft⟩ := h
  rw [← Worker.exits_congr hflag] at hmade
  exact ⟨fun hv => hhonest (herror hv), cleanup, outcome, plan, hlog, hmade, hstop.trans hok,
    hflag.symm ▸ hleft⟩

/-- The stop itself. -/
lemma cleaning_stop (hhonest : Honest log w) (hleft : Left log w.flag) (pc : Pc) :
    Cleaning [] (⟨stopPacket, outcome⟩ :: log)
      { { w with stopOk := outcome.error?.isNone }.blame "stop_unconfirmed" outcome.error? with
        pc := pc } := by
  have hflag := Worker.blame_flag (w := { w with stopOk := outcome.error?.isNone })
    "stop_unconfirmed" outcome.error?
  refine ⟨Honest.blame (w := { w with stopOk := outcome.error?.isNone }) hhonest stopPacket _ pc,
    [], outcome, log, rfl, rfl, Worker.blame_stopOk _ _, ?_⟩
  exact hflag.symm ▸ hleft

/-- A call of the plan that fails. -/
lemma Planned.leave (h : Planned log w) {packet : Packet} (hpacket : packet ≠ disarmPacket)
    (hflag : ∀ p, w.pendingFlag p = w.flag p) (henter : ∀ p, packet = p.enter → ¬ Owes p log)
    {error : CallError} (herror : outcome.error? = some error) :
    Left (⟨packet, outcome⟩ :: log) w.flag := by
  have hfail : outcome ≠ .acknowledged := by
    rintro rfl
    cases herror
  refine ⟨?_, fun p => ?_, ?_⟩
  · intro c hc
    rcases List.mem_cons.mp hc with rfl | hc
    · exact hpacket
    · exact h.noDisarm c hc
  · rw [owes_cons_of_failed h.acknowledged hfail, h.owes p, hflag p]
  · rintro p ⟨c, hc, hcenter, -, hnot⟩
    rcases List.mem_cons.mp hc with rfl | hc
    · rw [← hflag p, ← Bool.not_eq_true, ← h.owes p]
      exact henter p hcenter
    · exact absurd (h.acknowledged c hc) hnot

lemma Packet.ne_of_operation {packet : Packet} (h : packet.operation ≠ sportAction) (p : Pose) :
    packet ≠ p.enter ∧ packet ≠ p.exit := by
  refine ⟨?_, ?_⟩ <;> rintro rfl <;> exact h rfl

/-- A call of another packet leaves the steps ahead as they are. -/
lemma Ahead.cons {pc next : Pc} {c : Call} (h : Ahead log pc)
    (hne : ∀ p : Pose, c.packet ≠ p.enter ∧ c.packet ≠ p.exit) (hahead : next.ahead = pc.ahead)
    (hmay : ∀ p, next.mayEnter p → pc.mayEnter p) : Ahead (c :: log) next := by
  refine ⟨hahead ▸ h.wellFormed, hahead ▸ h.once, fun p hp => ?_⟩
  rw [owes_cons_of_ne (hne p).1 (hne p).2]
  exact h.fresh p (hmay p hp)

lemma Ahead.go {pc next : Pc} (h : Ahead log pc) (hahead : next.ahead = pc.ahead)
    (hmay : ∀ p, next.mayEnter p → pc.mayEnter p) : Ahead log next :=
  ⟨hahead ▸ h.wellFormed, hahead ▸ h.once, fun p hp => h.fresh p (hmay p hp)⟩

/-- The dispatch of a step leaves the others ahead. -/
lemma Ahead.dispatched {step : Step} {rest : List Step} (h : Ahead log (.dispatching step rest)) :
    Ahead (⟨step.packet, .acknowledged⟩ :: log) (.recording step rest) := by
  obtain ⟨hfirst, hrest⟩ := List.pairwise_cons.mp h.once
  refine ⟨fun s hs => h.wellFormed s (List.mem_cons_of_mem _ hs), hrest, ?_⟩
  rintro p ⟨s, hs, hp⟩ howes
  have hne : step.actionId ≠ p.enterAction := fun hstep => hfirst s hs p hstep hp
  have hbefore := h.fresh p ⟨s, List.mem_cons_of_mem _ hs, hp⟩
  rcases howes with ⟨henter, -⟩ | ⟨howed, -⟩
  · exact hne (congrArg Packet.actionId henter)
  · exact hbefore howed

/-- An acknowledged call takes the worker further in its plan. -/
lemma Planned.advance (h : Planned log w) (next : Pc) {packet : Packet}
    (hpacket : packet ≠ disarmPacket) (howes : ∀ p, Owes p (⟨packet, .acknowledged⟩ :: log) ↔
      { w with pc := next }.pendingFlag p = true)
    (hahead : Ahead (⟨packet, .acknowledged⟩ :: log) next)
    (hidle : ¬ (next = .starting ∨ next = .connecting)) :
    Planned (⟨packet, .acknowledged⟩ :: log) { w with pc := next } := by
  refine ⟨?_, ?_, howes, hahead, h.error, h.stopOk, fun hpc => absurd hpc hidle⟩
  · intro c hc
    rcases List.mem_cons.mp hc with rfl | hc
    · rfl
    · exact h.acknowledged c hc
  · intro c hc
    rcases List.mem_cons.mp hc with rfl | hc
    · exact hpacket
    · exact h.noDisarm c hc

/-- A call of the plan, whatever becomes of it. -/
lemma Planned.attempt (h : Planned log w) {packet : Packet} (hpacket : packet ≠ disarmPacket)
    (hflag : ∀ p, w.pendingFlag p = w.flag p) (henter : ∀ p, packet = p.enter → ¬ Owes p log)
    {next : Pc} (hnext : outcome = .acknowledged →
      CallInv (⟨packet, .acknowledged⟩ :: log) { w with pc := next }) :
    CallInv (⟨packet, outcome⟩ :: log) (w.attempt outcome next) := by
  unfold Worker.attempt
  cases herror : outcome.error? with
  | none =>
    have hack := Outcome.error?_eq_none.mp herror
    rw [hack]
    exact hnext hack
  | some error =>
    refine ⟨fun hempty => absurd hempty error.text_ne_empty, ?_, h.stopOk⟩
    exact h.leave hpacket hflag henter herror

lemma CallInv.leaveHandstand (h : ∀ pc, Cleaning [] log { w with pc := pc }) :
    CallInv log w.leaveHandstand := by
  unfold Worker.leaveHandstand Worker.standUp
  split_ifs with hhand hcrouch
  · exact ⟨h .leavingHandstand, hhand⟩
  · refine ⟨?_, hcrouch⟩
    have hexit : ({ w with pc := .standingUp } : Worker).exit .handstand = [] := if_neg hhand
    exact hexit.symm ▸ h .standingUp
  · have hexits : ({ w with pc := .disarming } : Worker).exits = [] := by
      rw [Worker.exits, Worker.exit, Worker.exit]
      exact (congrArg₂ (· ++ ·) (if_neg hcrouch) (if_neg hhand))
    show Cleaning ({ w with pc := .disarming } : Worker).exits log { w with pc := .disarming }
    rw [hexits]
    exact h .disarming

lemma CallInv.standUp (h : ∀ pc, Cleaning (w.exit .handstand) log { w with pc := pc }) :
    CallInv log w.standUp := by
  unfold Worker.standUp
  split_ifs with hcrouch
  · exact ⟨h .standingUp, hcrouch⟩
  · have hexits : ({ w with pc := .disarming } : Worker).exits = w.exit .handstand := by
      rw [Worker.exits, Worker.exit]
      exact congrArg (· ++ w.exit .handstand) (if_neg hcrouch)
    show Cleaning ({ w with pc := .disarming } : Worker).exits log { w with pc := .disarming }
    rw [hexits]
    exact h .disarming

/-- **A call of the daemon keeps the invariant.** -/
theorem CallInv.called (h : CallInv log w) {packet : Packet}
    (hpacket : w.pc.packet? = some packet) :
    CallInv (⟨packet, outcome⟩ :: log) (w.called outcome) := by
  unfold CallInv at h
  unfold Worker.called
  split
  · rename_i hpc
    rw [hpc] at h hpacket
    cases hpacket
    have harm : ({ operation := arm } : Packet).operation ≠ sportAction := by decide
    have hne := fun p => Packet.ne_of_operation harm p
    have hflag : ∀ p, w.pendingFlag p = w.flag p := fun p => by rw [Worker.pendingFlag, hpc]
    have hahead := h.ahead
    rw [hpc] at hahead
    refine h.attempt (by decide) hflag (fun p hp => absurd hp (hne p).1) fun _ => ?_
    refine h.advance .running (by decide) (fun p => ?_)
      (hahead.cons (fun p => (hne p)) rfl fun _ => id) (by simp)
    rw [owes_cons_of_ne (hne p).1 (hne p).2, h.owes p, hflag p]
    rfl
  · rename_i step rest hpc
    rw [hpc] at h hpacket
    cases hpacket
    have hflag : ∀ p, w.pendingFlag p = w.flag p := fun p => by rw [Worker.pendingFlag, hpc]
    have hahead := h.ahead
    rw [hpc] at hahead
    have hstep := hahead.wellFormed step List.mem_cons_self
    have henter : ∀ p : Pose, step.packet = p.enter → ¬ Owes p log := fun p hp =>
      hahead.fresh p ⟨step, List.mem_cons_self, congrArg Packet.actionId hp⟩
    refine h.attempt hstep.disarm hflag henter fun _ => ?_
    refine h.advance (.recording step rest) hstep.disarm (fun p => ?_) hahead.dispatched
      (by simp)
    refine (hstep.owes_cons (h.owes p)).trans ?_
    rw [hflag p, ← flag_note]
    show _ ↔ ({ w with pc := .recording step rest }.note step).flag p = true
    rw [flag_note, flag_note, ← Worker.flag_with_pc (w := w) (.recording step rest)]
  · rename_i step rest endS hpc
    rw [hpc] at h hpacket
    have hflag : ∀ p, w.pendingFlag p = w.flag p := fun p => by rw [Worker.pendingFlag, hpc]
    have hoperation : packet.operation = move ∨ packet.operation = ping := by
      simp only [Pc.packet?] at hpacket
      split at hpacket <;> cases hpacket
      · exact Or.inl rfl
      · exact Or.inr rfl
    have hdisarm : packet ≠ disarmPacket := by
      rintro rfl
      revert hoperation
      decide
    have hne := Packet.ne_of_operation (show packet.operation ≠ sportAction by
      rcases hoperation with h | h <;> rw [h] <;> decide)
    have hahead := h.ahead
    rw [hpc] at hahead
    refine h.attempt hdisarm hflag (fun p hp => absurd hp (hne p).1) fun _ => ?_
    refine h.advance (.timing step rest endS) hdisarm (fun p => ?_)
      (hahead.cons hne rfl fun _ => id) (by simp)
    rw [owes_cons_of_ne (hne p).1 (hne p).2, h.owes p, hflag p]
    rfl
  · rename_i hpc
    rw [hpc] at h hpacket
    cases hpacket
    exact CallInv.leaveHandstand fun pc => cleaning_stop h.1 h.2.1 pc
  · rename_i hpc
    rw [hpc] at h hpacket
    cases hpacket
    refine CallInv.standUp fun pc => ?_
    have hexit : (w.blame "handstand_exit_unconfirmed" outcome.error?).exit .handstand =
        [Pose.handstand.exit] := by
      rw [Worker.exit, Worker.blame_flag, h.2]
      rfl
    rw [hexit]
    exact h.1.call Pose.handstand.exit _ pc
  · rename_i hpc
    rw [hpc] at h hpacket
    cases hpacket
    have hexits : ({ w.blame "standup_unconfirmed" outcome.error? with pc := .disarming } :
        Worker).exits = Pose.crouch.exit :: w.exit .handstand := by
      rw [Worker.exits_congr ((Worker.flag_with_pc _).trans (Worker.blame_flag _ _)), Worker.exits]
      exact congrArg (· ++ _) (if_pos h.2)
    show Cleaning _ _ _
    rw [hexits]
    exact h.1.call Pose.crouch.exit _ .disarming
  · rename_i hpc
    rw [hpc] at h hpacket
    cases hpacket
    have hexits : ({ w.blame "disarm_unconfirmed" outcome.error? with pc := .closing } :
        Worker).exits = w.exits :=
      Worker.exits_congr ((Worker.flag_with_pc _).trans (Worker.blame_flag _ _))
    show Cleaning (_ :: _) _ _
    rw [hexits]
    exact h.call disarmPacket _ .closing
  · rename_i h1 h2 h3 h4 h5 h6 h7
    exfalso
    cases hpc : w.pc <;> rw [hpc] at hpacket <;>
      first
      | exact h1 hpc
      | exact h2 _ _ hpc
      | exact h3 _ _ _ hpc
      | exact h4 hpc
      | exact h5 hpc
      | exact h6 hpc
      | exact h7 hpc
      | cases hpacket

lemma Worker.pendingFlag_eq_flag (h : ∀ step rest, w.pc ≠ .recording step rest) (p : Pose) :
    w.pendingFlag p = w.flag p := by
  unfold Worker.pendingFlag
  split
  · exact absurd ‹_› (h _ _)
  · rfl

/-- The worker goes on in its plan without a call. -/
lemma Planned.go (h : Planned log w) (next : Pc) (hpc : ∀ step rest, w.pc ≠ .recording step rest)
    (hnext : ∀ step rest, next ≠ .recording step rest)
    (hahead : Ahead log next) (hidle : next = .starting ∨ next = .connecting → log = []) :
    Planned log { w with pc := next } := by
  refine ⟨h.acknowledged, h.noDisarm, fun p => ?_, hahead, h.error, h.stopOk, hidle⟩
  rw [h.owes p, Worker.pendingFlag_eq_flag hpc, Worker.pendingFlag_eq_flag hnext]
  cases p <;> rfl

/-- The worker leaves its plan without a call. -/
lemma Planned.stop (h : Planned log w) (hpc : ∀ step rest, w.pc ≠ .recording step rest) :
    Honest log w ∧ Left log w.flag ∧ w.stopOk = false := by
  have hlost := fun p : Pose => not_lost_of_acknowledged (p := p) h.acknowledged
  refine ⟨fun _ => h.acknowledged, ⟨h.noDisarm, fun p => ?_, fun p hp => absurd hp (hlost p)⟩,
    h.stopOk⟩
  rw [h.owes p, Worker.pendingFlag_eq_flag hpc]
  exact (or_iff_left (hlost p)).symm

lemma Planned.unlessCancelled {job : Job} (h : Planned log job.worker)
    (hpc : ∀ step rest, job.worker.pc ≠ .recording step rest) {next : Pc}
    (hnext : CallInv log { job.worker with pc := next }) :
    CallInv log (job.unlessCancelled next).worker := by
  unfold Job.unlessCancelled
  split
  · obtain ⟨hhonest, hleft, hstop⟩ := h.stop hpc
    refine ⟨hhonest, ?_, hstop⟩
    have hcancel : job.worker.cancel.flag = job.worker.flag := by
      funext p
      cases p <;> rfl
    rw [hcancel]
    exact hleft
  · exact hnext

/-- The flags catch up with an acknowledged step. -/
lemma Planned.note {step : Step} {rest : List Step} (h : Planned log w)
    (hpc : w.pc = .recording step rest) :
    Planned log { w.note step with pc := .holding step rest } := by
  have hahead := h.ahead
  rw [hpc] at hahead
  have hkeeps : (w.note step).error = w.error ∧ (w.note step).stopOk = w.stopOk := by
    unfold Worker.note
    split_ifs <;> exact ⟨rfl, rfl⟩
  refine ⟨h.acknowledged, h.noDisarm, fun p => ?_, ⟨hahead.wellFormed, hahead.once, hahead.fresh⟩,
    hkeeps.1.trans h.error, hkeeps.2.trans h.stopOk, by simp⟩
  have hpending : w.pendingFlag p = (w.note step).flag p := by
    rw [Worker.pendingFlag, hpc]
  rw [h.owes p, hpending, Worker.pendingFlag_eq_flag (by simp)]
  cases p <;> rfl

/-- **The other steps of the worker keep the invariant.** -/
theorem CallInv.proceed {job : Job} (h : CallInv log job.worker) (answer : Answer) :
    CallInv log (job.proceed answer).worker := by
  have hinv := h
  unfold CallInv at h
  unfold Job.proceed
  split
  · rename_i hpc
    rw [hpc] at h
    exact h.go .connecting (by simp [hpc]) (by simp) ((hpc ▸ h.ahead).go rfl fun _ => id)
      fun _ => h.idle (Or.inl hpc)
  · rename_i hpc
    rw [hpc] at h
    exact h.go .arming (by simp [hpc]) (by simp) ((hpc ▸ h.ahead).go rfl fun _ => id)
      (by simp)
  · rename_i error hpc
    rw [hpc] at h
    refine Or.inl ⟨h.idle (Or.inr hpc), ?_, h.stopOk⟩
    exact fun herror => Option.some_ne_none _ (Worker.blame_error_eq_empty herror).2
  · rename_i hpc
    rw [hpc] at h
    exact h.go (.checking (plans job.run.name)) (by simp [hpc]) (by simp)
      ⟨fun step hs => wellFormed_of_mem_plans hs, entersOnce_plans _,
        fun p _ => (hpc ▸ h.ahead).fresh p trivial⟩ (by simp)
  · rename_i hpc
    rw [hpc] at h
    exact h.stop (by simp [hpc])
  · rename_i step rest hpc
    rw [hpc] at h
    refine h.unlessCancelled (by simp [hpc]) ?_
    exact h.go (.dispatching step rest) (by simp [hpc]) (by simp)
      ((hpc ▸ h.ahead).go rfl fun _ => id) (by simp)
  · rename_i step rest hpc
    rw [hpc] at h
    exact h.note hpc
  · rename_i step rest now hpc
    rw [hpc] at h
    exact h.go (.timing step rest (now + step.durationS)) (by simp [hpc]) (by simp)
      ((hpc ▸ h.ahead).go rfl fun _ => id) (by simp)
  · rename_i step rest endS now hpc
    rw [hpc] at h
    split
    · exact h.go (.watching step rest endS) (by simp [hpc]) (by simp)
        ((hpc ▸ h.ahead).go rfl fun _ => id) (by simp)
    · exact h.go (.checking rest) (by simp [hpc]) (by simp)
        ((hpc ▸ h.ahead).go rfl fun _ => id) (by simp)
  · rename_i step rest endS hpc
    rw [hpc] at h
    refine h.unlessCancelled (by simp [hpc]) ?_
    exact h.go (.sleeping step rest endS) (by simp [hpc]) (by simp)
      ((hpc ▸ h.ahead).go rfl fun _ => id) (by simp)
  · rename_i step rest endS hpc
    rw [hpc] at h
    refine h.unlessCancelled (by simp [hpc]) ?_
    exact h.go (.keepingAlive step rest endS) (by simp [hpc]) (by simp)
      ((hpc ▸ h.ahead).go rfl fun _ => id) (by simp)
  · rename_i error hpc
    rw [hpc] at h
    refine Or.inr (h.congr ?_ (Worker.blame_stopOk _ _) ?_)
    · exact (Worker.flag_with_pc _).trans (Worker.blame_flag _ _)
    · exact fun herror => (Worker.blame_error_eq_empty herror).1
  · rename_i hpc
    rw [hpc] at h
    refine h.imp_right fun h => h.congr ?_ rfl id
    exact Worker.flag_with_pc _
  · exact hinv

end Calls

end UnitreeGo2.SportActions
