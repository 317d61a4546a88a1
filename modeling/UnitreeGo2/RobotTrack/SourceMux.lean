import UnitreeGo2.Lib.ThreadPool
import UnitreeGo2.Lib.ExtendedRat
import Mathlib.Data.List.Infix

/-!
# The command source mux

Navigation and RobotTrack both offer velocity commands.  The mux keeps the latest command of
either source and puts out that of the selected one.  Its methods run on any thread: they read
the monotonic clock first and then take the lock, so that other methods may come in between.
-/

namespace UnitreeGo2.RobotTrack

/-! ## The mux -/

inductive Source where
  | navigation
  | robottrack
  deriving DecidableEq, Repr

/-- The source of a name, if it is one of `VALID_SOURCES`. -/
def Source.ofName? (name : String) : Option Source :=
  if name = "navigation" then some .navigation
  else if name = "robottrack" then some .robottrack
  else none

structure TwistCommand where
  linearX : ExtRat := 0
  linearY : ExtRat := 0
  linearZ : ExtRat := 0
  angularX : ExtRat := 0
  angularY : ExtRat := 0
  angularZ : ExtRat := 0
  deriving DecidableEq

def ZERO_TWIST : TwistCommand := {}

/-- `_finite`. -/
def finite (value : ExtRat) (name : String) : Except String ℚ :=
  match value with
  | .fin x => .ok x
  | _ => .error s!"{name} must be finite"

/-- The command, if all of its components are finite. -/
def TwistCommand.finite (command : TwistCommand) : Except String TwistCommand := do
  let linearX ← RobotTrack.finite command.linearX "twist[0]"
  let linearY ← RobotTrack.finite command.linearY "twist[1]"
  let linearZ ← RobotTrack.finite command.linearZ "twist[2]"
  let angularX ← RobotTrack.finite command.angularX "twist[3]"
  let angularY ← RobotTrack.finite command.angularY "twist[4]"
  let angularZ ← RobotTrack.finite command.angularZ "twist[5]"
  return ⟨.fin linearX, .fin linearY, .fin linearZ, .fin angularX, .fin angularY, .fin angularZ⟩

structure MuxSelection where
  command : TwistCommand
  selectedSource : Source
  reason : String
  ageS : Option ℚ
  version : ℕ
  deriving DecidableEq

/-- What `_latest` holds for a source. -/
structure MuxEntry where
  command : TwistCommand
  received : ℚ
  version : ℕ
  deriving DecidableEq

structure CommandSourceMux where
  selectedSource : Source
  maxAgeS : ℚ
  latest : Source → Option MuxEntry := fun _ => none
  version : ℕ := 0
  /-- The constructor has checked the age. -/
  maxAge_pos : 0 < maxAgeS

namespace CommandSourceMux

/-- The constructor.  `normalize` is `str(source).strip().lower()`. -/
def init (normalize : String → String) (selectedSource : String) (maxAgeS : ExtRat) :
    Except String CommandSourceMux :=
  match Source.ofName? (normalize selectedSource) with
  | none => .error "selected_source must be one of ('navigation', 'robottrack')"
  | some selected =>
    match finite maxAgeS "max_age_s" with
    | .error detail => .error detail
    | .ok maxAge =>
      if h : 0 < maxAge then .ok { selectedSource := selected, maxAgeS := maxAge, maxAge_pos := h }
      else .error "max_age_s must be positive"

/-- `update` before its lock, at the time `monotonic`. -/
def prepareUpdate (normalize : String → String) (source : String) (command : TwistCommand)
    (receivedMonotonic : Option ExtRat) (monotonic : ℚ) :
    Except String (Source × TwistCommand × ℚ) := do
  let name ← (Source.ofName? (normalize source)).elim
    (.error "source must be one of ('navigation', 'robottrack')") .ok
  let received ← match receivedMonotonic with
    | none => .ok monotonic
    | some received => finite received "received_monotonic"
  let checked ← command.finite
  return (name, checked, received)

/-- Whether `update` drops a command, as one that is not newer than the latest. -/
def Outdated (m : CommandSourceMux) (name : Source) (received : ℚ) : Prop :=
  ∃ previous, m.latest name = some previous ∧ received ≤ previous.received

instance (m : CommandSourceMux) (name : Source) (received : ℚ) :
    Decidable (m.Outdated name received) :=
  match h : m.latest name with
  | none => .isFalse fun ⟨_, hprevious, _⟩ => Option.some_ne_none _ (hprevious.symm.trans h)
  | some previous =>
    if hle : received ≤ previous.received then .isTrue ⟨previous, h, hle⟩
    else .isFalse fun ⟨_, hprevious, hle'⟩ =>
      hle (Option.some.inj (hprevious.symm.trans h) ▸ hle')

/-- `update` under its lock, for a command that is not outdated. -/
def store (m : CommandSourceMux) (name : Source) (checked : TwistCommand) (received : ℚ) :
    CommandSourceMux :=
  { m with
    version := m.version + 1
    latest := fun source =>
      if source = name then some ⟨checked, received, m.version + 1⟩ else m.latest source }

/-- `select_source` under its lock, for another source than the selected one. -/
def switch (m : CommandSourceMux) (name : Source) : CommandSourceMux :=
  { m with selectedSource := name, latest := fun _ => none, version := m.version + 1 }

/-- `output`, where `current` was read from the clock. -/
def output (m : CommandSourceMux) (current : ℚ) : MuxSelection :=
  match m.latest m.selectedSource with
  | none => ⟨ZERO_TWIST, m.selectedSource, "selected_source_missing", none, m.version⟩
  | some entry =>
    let age := max 0 (current - entry.received)
    if m.maxAgeS < age then
      ⟨ZERO_TWIST, m.selectedSource, "selected_source_stale", some age, entry.version⟩
    else ⟨entry.command, m.selectedSource, "selected_source_fresh", some age, entry.version⟩

variable {m : CommandSourceMux} {name source : Source} {checked : TwistCommand} {received : ℚ}

@[simp] lemma store_selectedSource :
    (m.store name checked received).selectedSource = m.selectedSource := rfl

@[simp] lemma store_maxAgeS : (m.store name checked received).maxAgeS = m.maxAgeS := rfl

lemma store_latest :
    (m.store name checked received).latest source =
      if source = name then some ⟨checked, received, m.version + 1⟩ else m.latest source := rfl

@[simp] lemma switch_selectedSource : (m.switch name).selectedSource = name := rfl

@[simp] lemma switch_maxAgeS : (m.switch name).maxAgeS = m.maxAgeS := rfl

@[simp] lemma switch_latest : (m.switch name).latest source = none := rfl

/-- An output names the selected source. -/
@[simp] lemma output_selectedSource (m : CommandSourceMux) (current : ℚ) :
    (m.output current).selectedSource = m.selectedSource := by
  unfold output
  split
  · rfl
  · dsimp only
    split <;> rfl

/-- A command that is put out is the latest of the selected source, and young enough. -/
lemma output_command {current : ℚ} (h : (m.output current).command ≠ ZERO_TWIST) :
    ∃ entry, m.latest m.selectedSource = some entry ∧ (m.output current).command = entry.command ∧
      current - entry.received ≤ m.maxAgeS := by
  unfold output at h ⊢
  split at h
  · exact absurd rfl h
  · rename_i entry hentry
    dsimp only at h
    split at h
    · exact absurd rfl h
    · rename_i hage
      refine ⟨entry, hentry, ?_, (le_max_right 0 _).trans (not_lt.mp hage)⟩
      dsimp only
      rw [if_neg hage]

/-- An update without a receipt time takes that of the clock. -/
lemma received_of_prepareUpdate {normalize : String → String} {text : String}
    {command : TwistCommand} {monotonic : ℚ}
    (h : prepareUpdate normalize text command none monotonic = .ok (name, checked, received)) :
    received = monotonic := by
  unfold prepareUpdate at h
  cases hname : Source.ofName? (normalize text) with
  | none =>
    rw [hname] at h
    cases h
  | some found =>
    rw [hname] at h
    cases hchecked : command.finite with
    | error detail =>
      rw [hchecked] at h
      cases h
    | ok finite =>
      rw [hchecked] at h
      cases h
      rfl

lemma latest_of_init {normalize : String → String} {text : String} {maxAge : ExtRat}
    (h : init normalize text maxAge = .ok m) (name : Source) : m.latest name = none := by
  unfold init at h
  split at h
  · cases h
  split at h
  · cases h
  split at h
  · cases h
    rfl
  · cases h

end CommandSourceMux

/-! ## Its methods on threads -/

/-- The calls of the methods of the mux. -/
inductive MuxCall where
  | update (source : String) (command : TwistCommand) (receivedMonotonic : Option ExtRat)
  | selectSource (source : String)
  | output (now : Option ExtRat)

/-- Where a call is. -/
inductive MuxThread where
  | updating (source : String) (command : TwistCommand) (receivedMonotonic : Option ExtRat)
  /-- `update` before its lock. -/
  | storing (name : Source) (checked : TwistCommand) (received : ℚ)
  | selecting (source : String)
  | outputting (now : Option ExtRat)
  /-- `output` before its lock. -/
  | emitting (current : ℚ)
  | returned

inductive MuxReport where
  | silent
  | raised (detail : String)
  /-- The call of a thread has taken the receipt time of a command. -/
  | received (index : ℕ) (name : Source) (checked : TwistCommand) (received : ℚ)
  /-- The command of a thread is now the latest of its source. -/
  | accepted (index : ℕ) (name : Source) (checked : TwistCommand) (received : ℚ)
  | discarded
  /-- The selected source has changed. -/
  | switched (name : Source)
  | selected (current : ℚ) (selection : MuxSelection)
  deriving DecidableEq

def MuxThread.ofCall : MuxCall → MuxThread
  | .update source command receivedMonotonic => .updating source command receivedMonotonic
  | .selectSource source => .selecting source
  | .output now => .outputting now

/-- The segment of a thread at the time `monotonic`.  What stands under the lock is one segment. -/
def MuxThread.act (normalize : String → String) (m : CommandSourceMux) (index : ℕ)
    (monotonic : ℚ) : MuxThread → Option (CommandSourceMux × MuxThread × MuxReport)
  | .updating source command receivedMonotonic =>
    match CommandSourceMux.prepareUpdate normalize source command receivedMonotonic monotonic with
    | .error detail => some (m, .returned, .raised detail)
    | .ok (name, checked, received) =>
      some (m, .storing name checked received, .received index name checked received)
  | .storing name checked received =>
    if m.Outdated name received then some (m, .returned, .discarded)
    else some (m.store name checked received, .returned, .accepted index name checked received)
  | .selecting source =>
    match Source.ofName? (normalize source) with
    | none => some (m, .returned, .raised "source must be one of ('navigation', 'robottrack')")
    | some name =>
      if name = m.selectedSource then some (m, .returned, .silent)
      else some (m.switch name, .returned, .switched name)
  | .outputting none => some (m, .emitting monotonic, .silent)
  | .outputting (some now) =>
    match finite now "now" with
    | .error detail => some (m, .returned, .raised detail)
    | .ok current => some (m, .emitting current, .silent)
  | .emitting current => some (m, .returned, .selected current (m.output current))
  | .returned => none

/-- The mux, and the latest time at which one of its threads ran. -/
structure MuxShared where
  mux : CommandSourceMux
  clock : ℚ

/-- The mux with its threads.  Time does not go back from one segment to the next. -/
def muxProgram (normalize : String → String) :
    Program MuxShared MuxThread ℚ MuxCall MuxReport where
  call s _ request := some (s, .ofCall request)
  act s index t monotonic :=
    if monotonic < s.clock then none
    else (t.act normalize s.mux index monotonic).map fun r =>
      ⟨⟨r.1, monotonic⟩, r.2.1, [], r.2.2⟩

abbrev MuxStep := Machine.Step (Pool MuxShared MuxThread) (PoolEvent ℚ MuxCall) (Option MuxReport)

/-- No thread runs yet. -/
def CommandSourceMux.idle (m : CommandSourceMux) (clock : ℚ) : Pool MuxShared MuxThread :=
  ⟨⟨m, clock⟩, []⟩

/-- The call leaves the receipt time and the time of an output to the clock. -/
def MuxCall.Timed : MuxCall → Prop
  | .update _ _ receivedMonotonic => receivedMonotonic = none
  | .selectSource _ => True
  | .output now => now = none

/-! ## Epochs -/

/-- The selected source changes. -/
def MuxReport.switches : MuxReport → Bool
  | .switched _ => true
  | _ => false

/-- The report stands in the log, and the selected source has not changed since. -/
def SinceSwitch (l : List MuxReport) (x : MuxReport) : Prop :=
  ∃ a b, l = a ++ x :: b ∧ ∀ y ∈ b, y.switches = false

instance (l : List MuxReport) (x : MuxReport) : Decidable (SinceSwitch l x) :=
  decidable_of_iff
    (∃ tail ∈ l.tails, tail.head? = some x ∧ ∀ y ∈ tail.tail, y.switches = false) <| by
      constructor
      · rintro ⟨tail, htail, hx, hy⟩
        obtain ⟨b, rfl⟩ := List.head?_eq_some_iff.mp hx
        obtain ⟨a, ha⟩ := (List.mem_tails _ _).mp htail
        exact ⟨a, b, ha.symm, hy⟩
      · rintro ⟨a, b, rfl, hb⟩
        exact ⟨x :: b, (List.mem_tails _ _).mpr ⟨a, rfl⟩, rfl, hb⟩

/-- The call of a thread has brought the latest command of the selected source, all of it in
the current epoch. -/
structure CurrentCommand (l : List MuxReport) (selected : Source) (maxAgeS current : ℚ)
    (command : TwistCommand) (index : ℕ) (received : ℚ) : Prop where
  accepted : .accepted index selected command received ∈ l
  ofEpoch : SinceSwitch l (.received index selected command received)
  newest : ∀ index' command' received', .accepted index' selected command' received' ∈ l →
    received' ≤ received
  young : current - received ≤ maxAgeS

/-- A switch of the source is an epoch boundary. -/
def EpochBoundary (maxAgeS : ℚ) (tr : List MuxStep) : Prop :=
  ∀ l z r current selection, tr = l ++ z :: r → z.output = some (.selected current selection) →
    selection.command ≠ ZERO_TWIST →
      selection.selectedSource = z.pre.shared.mux.selectedSource ∧
      ∃ index received, CurrentCommand (Program.log l) z.pre.shared.mux.selectedSource maxAgeS
        current selection.command index received

/-- An update that brings a command of the selected source has taken its receipt time since
the source was selected. -/
def Prompt (l : List MuxReport) (p : Pool MuxShared MuxThread) : PoolEvent ℚ MuxCall → Prop
  | .call _ => True
  | .act index _ =>
    match p.threads[index]? with
    | some (.storing name checked received) =>
      name = p.shared.mux.selectedSource → checked ≠ ZERO_TWIST →
        ¬ p.shared.mux.Outdated name received →
        SinceSwitch l (.received index name checked received)
    | _ => True

instance (l : List MuxReport) (p : Pool MuxShared MuxThread) (e : PoolEvent ℚ MuxCall) :
    Decidable (Prompt l p e) := by
  unfold Prompt
  split
  · infer_instance
  · split <;> infer_instance

section Runs

variable {l : List MuxReport} {x y : MuxReport} {s s' : MuxShared} {maxAgeS : ℚ}

lemma sinceSwitch_concat_iff :
    SinceSwitch (l ++ [y]) x ↔ x = y ∨ SinceSwitch l x ∧ y.switches = false := by
  constructor
  · rintro ⟨a, b, hl, hb⟩
    obtain rfl | ⟨b', z, rfl⟩ := b.eq_nil_or_concat'
    · exact .inl (List.singleton_inj.mp (List.append_inj' hl rfl).2.symm)
    · rw [← List.cons_append, ← List.append_assoc] at hl
      obtain ⟨hinit, hlast⟩ := List.append_inj' hl rfl
      obtain rfl : y = z := List.singleton_inj.mp hlast
      exact .inr ⟨⟨a, b', hinit, fun z hz => hb z (by simp [hz])⟩, hb y (by simp)⟩
  · rintro (rfl | ⟨⟨a, b, rfl, hb⟩, hy⟩)
    · exact ⟨l, [], rfl, by simp⟩
    · refine ⟨a, b ++ [y], by simp, fun z hz => ?_⟩
      rcases List.mem_append.mp hz with hz | hz
      · exact hb z hz
      · rw [List.mem_singleton.mp hz]
        exact hy

/-- What the mux holds, as the reports tell it. -/
structure MuxInv (maxAgeS : ℚ) (l : List MuxReport) (s : MuxShared) : Prop where
  maxAge : s.mux.maxAgeS = maxAgeS
  past : ∀ index name checked received, .accepted index name checked received ∈ l →
    received ≤ s.clock
  /-- What was accepted in an earlier epoch was received before all of the current one. -/
  before : ∀ i n c received i' n' c' received', SinceSwitch l (.received i n c received) →
    .accepted i' n' c' received' ∈ l → ¬ SinceSwitch l (.accepted i' n' c' received') →
    received' ≤ received
  since : ∀ index name checked received, SinceSwitch l (.accepted index name checked received) →
    ∃ entry, s.mux.latest name = some entry ∧ received ≤ entry.received
  current : ∀ entry, s.mux.latest s.mux.selectedSource = some entry →
    entry.command ≠ ZERO_TWIST →
    ∃ index, .accepted index s.mux.selectedSource entry.command entry.received ∈ l ∧
      SinceSwitch l (.received index s.mux.selectedSource entry.command entry.received)

/-- A thread that is about to store a command has read the clock. -/
def ThreadInv (s : MuxShared) : MuxThread → Prop
  | .updating _ _ receivedMonotonic => receivedMonotonic = none
  | .storing _ _ received => received ≤ s.clock
  | _ => True

lemma muxInv_idle (m : CommandSourceMux) (hm : ∀ name, m.latest name = none) (clock : ℚ) :
    MuxInv m.maxAgeS [] ⟨m, clock⟩ where
  maxAge := rfl
  past := by simp
  before := by simp
  since := by rintro index name checked received ⟨a, b, h, -⟩; simp at h
  current entry hentry := by rw [hm] at hentry; cases hentry

/-- A segment that neither changes the mux nor takes a receipt time. -/
lemma MuxInv.quiet (h : MuxInv maxAgeS l s) (hmux : s'.mux = s.mux) (hclock : s.clock ≤ s'.clock)
    (hreceived : ∀ i n c r, y ≠ .received i n c r) (haccepted : ∀ i n c r, y ≠ .accepted i n c r)
    (hswitched : y.switches = false) : MuxInv maxAgeS (l ++ [y]) s' := by
  have hmem : ∀ i n c r, .accepted i n c r ∈ l ++ [y] → .accepted i n c r ∈ l := by
    intro i n c r hx
    rcases List.mem_append.mp hx with hx | hx
    · exact hx
    · exact absurd (List.mem_singleton.mp hx).symm (haccepted i n c r)
  refine ⟨hmux ▸ h.maxAge, ?_, ?_, ?_, ?_⟩
  · intro i n c r hx
    exact (h.past i n c r (hmem i n c r hx)).trans hclock
  · intro i n c r i' n' c' r' hx hx' hold
    rcases sinceSwitch_concat_iff.mp hx with hx | ⟨hx, -⟩
    · exact absurd hx.symm (hreceived i n c r)
    · refine h.before i n c r i' n' c' r' hx (hmem i' n' c' r' hx') fun hsince => hold ?_
      exact sinceSwitch_concat_iff.mpr (.inr ⟨hsince, hswitched⟩)
  · intro i n c r hx
    rw [hmux]
    rcases sinceSwitch_concat_iff.mp hx with hx | ⟨hx, -⟩
    · exact absurd hx.symm (haccepted i n c r)
    · exact h.since i n c r hx
  · rw [hmux]
    intro entry hentry hne
    obtain ⟨index, hx, hsince⟩ := h.current entry hentry hne
    exact ⟨index, List.mem_append_left _ hx, sinceSwitch_concat_iff.mpr (.inr ⟨hsince, hswitched⟩)⟩

/-- A thread takes a receipt time: the current one. -/
lemma MuxInv.received (h : MuxInv maxAgeS l s) {index : ℕ} {name : Source}
    {checked : TwistCommand} {monotonic : ℚ} (hclock : s.clock ≤ monotonic) :
    MuxInv maxAgeS (l ++ [.received index name checked monotonic]) ⟨s.mux, monotonic⟩ := by
  have hkeep : ∀ x, SinceSwitch l x →
      SinceSwitch (l ++ [.received index name checked monotonic]) x := fun x hx =>
    sinceSwitch_concat_iff.mpr (.inr ⟨hx, rfl⟩)
  have hmem : ∀ i n c r, .accepted i n c r ∈ l ++ [.received index name checked monotonic] →
      .accepted i n c r ∈ l := by
    intro i n c r hx
    simpa using hx
  refine ⟨h.maxAge, ?_, ?_, ?_, ?_⟩
  · intro i n c r hx
    exact (h.past i n c r (hmem i n c r hx)).trans hclock
  · intro i n c r i' n' c' r' hx hx' hold
    rcases sinceSwitch_concat_iff.mp hx with hx | ⟨hx, -⟩
    · cases hx
      exact (h.past i' n' c' r' (hmem i' n' c' r' hx')).trans hclock
    · exact h.before i n c r i' n' c' r' hx (hmem i' n' c' r' hx') fun hsince =>
        hold (hkeep _ hsince)
  · intro i n c r hx
    rcases sinceSwitch_concat_iff.mp hx with hx | ⟨hx, -⟩
    · cases hx
    · exact h.since i n c r hx
  · intro entry hentry hne
    obtain ⟨i, hx, hsince⟩ := h.current entry hentry hne
    exact ⟨i, List.mem_append_left _ hx, hkeep _ hsince⟩

/-- An update is accepted; one of the selected source is of the current epoch. -/
lemma MuxInv.accepted (h : MuxInv maxAgeS l s) {index : ℕ} {name : Source}
    {checked : TwistCommand} {received monotonic : ℚ} (hclock : s.clock ≤ monotonic)
    (hreceived : received ≤ s.clock) (hnewer : ¬ s.mux.Outdated name received)
    (hprompt : name = s.mux.selectedSource → checked ≠ ZERO_TWIST →
      SinceSwitch l (.received index name checked received)) :
    MuxInv maxAgeS (l ++ [.accepted index name checked received])
      ⟨s.mux.store name checked received, monotonic⟩ := by
  have hkeep : ∀ x, SinceSwitch l x →
      SinceSwitch (l ++ [.accepted index name checked received]) x := fun x hx =>
    sinceSwitch_concat_iff.mpr (.inr ⟨hx, rfl⟩)
  refine ⟨h.maxAge, ?_, ?_, ?_, ?_⟩
  · intro i n c r hx
    rcases List.mem_append.mp hx with hx | hx
    · exact (h.past i n c r hx).trans hclock
    · cases List.mem_singleton.mp hx
      exact hreceived.trans hclock
  · intro i n c r i' n' c' r' hx hx' hold
    rcases sinceSwitch_concat_iff.mp hx with hx | ⟨hx, -⟩
    · cases hx
    rcases List.mem_append.mp hx' with hx' | hx'
    · exact h.before i n c r i' n' c' r' hx hx' fun hsince => hold (hkeep _ hsince)
    · cases List.mem_singleton.mp hx'
      exact absurd (sinceSwitch_concat_iff.mpr (.inl rfl)) hold
  · intro i n c r hx
    show ∃ entry, (s.mux.store name checked received).latest n = some entry ∧ _
    rw [CommandSourceMux.store_latest]
    rcases sinceSwitch_concat_iff.mp hx with hx | ⟨hx, -⟩
    · cases hx
      exact ⟨_, if_pos rfl, le_rfl⟩
    · obtain ⟨entry, hentry, hle⟩ := h.since i n c r hx
      by_cases hn : n = name
      · subst hn
        refine ⟨_, if_pos rfl, hle.trans (le_of_lt (not_le.mp fun hold => hnewer ?_))⟩
        exact ⟨entry, hentry, hold⟩
      · exact ⟨entry, (if_neg hn).trans hentry, hle⟩
  · intro entry hentry hne
    dsimp only at hentry ⊢
    rw [CommandSourceMux.store_selectedSource] at hentry ⊢
    rw [CommandSourceMux.store_latest] at hentry
    split at hentry
    · rename_i hname
      cases hentry
      rw [hname]
      exact ⟨index, by simp, hkeep _ (hprompt hname.symm hne)⟩
    · obtain ⟨i, hx, hsince⟩ := h.current entry hentry hne
      exact ⟨i, List.mem_append_left _ hx, hkeep _ hsince⟩

/-- With a switch a new epoch begins. -/
lemma MuxInv.switched (h : MuxInv maxAgeS l s) {name : Source} {monotonic : ℚ}
    (hclock : s.clock ≤ monotonic) :
    MuxInv maxAgeS (l ++ [.switched name]) ⟨s.mux.switch name, monotonic⟩ := by
  have hnone : ∀ x, SinceSwitch (l ++ [.switched name]) x → x = .switched name := by
    intro x hx
    rcases sinceSwitch_concat_iff.mp hx with hx | ⟨-, hx⟩
    · exact hx
    · cases hx
  refine ⟨h.maxAge, ?_, ?_, ?_, ?_⟩
  · intro i n c r hx
    exact (h.past i n c r (by simpa using hx)).trans hclock
  · intro i n c r i' n' c' r' hx
    cases hnone _ hx
  · intro i n c r hx
    cases hnone _ hx
  · intro entry hentry
    cases hentry

variable {normalize : String → String} {index : ℕ} {monotonic : ℚ} {u : MuxThread}

/-- Time does not go back, so that what a thread has read stays in the past. -/
lemma ThreadInv.mono (h : ThreadInv s u) (hclock : s.clock ≤ s'.clock) : ThreadInv s' u := by
  cases u with
  | storing name checked received => exact le_trans (show received ≤ s.clock from h) hclock
  | _ => exact h

/-- **Every segment keeps the invariants**, if the updates of the selected source are prompt. -/
lemma MuxInv.act (h : MuxInv maxAgeS l s) (hu : ThreadInv s u) {r} (hclock : s.clock ≤ monotonic)
    (hprompt : ∀ name checked received, u = .storing name checked received →
      name = s.mux.selectedSource → checked ≠ ZERO_TWIST → ¬ s.mux.Outdated name received →
      SinceSwitch l (.received index name checked received))
    (hact : u.act normalize s.mux index monotonic = some r) :
    MuxInv maxAgeS (l ++ [r.2.2]) ⟨r.1, monotonic⟩ ∧ ThreadInv ⟨r.1, monotonic⟩ r.2.1 := by
  have hquiet : ∀ y, (∀ i n c t, y ≠ .received i n c t) → (∀ i n c t, y ≠ .accepted i n c t) →
      y.switches = false → MuxInv maxAgeS (l ++ [y]) ⟨s.mux, monotonic⟩ :=
    fun y hreceived haccepted hswitched =>
      h.quiet rfl hclock hreceived haccepted hswitched
  cases u with
  | updating source command receivedMonotonic =>
    obtain rfl : receivedMonotonic = none := hu
    rw [MuxThread.act] at hact
    split at hact
    · cases hact
      exact ⟨hquiet _ (by simp) (by simp) rfl, trivial⟩
    · rename_i name checked received hprepare
      cases hact
      obtain rfl : received = monotonic := CommandSourceMux.received_of_prepareUpdate hprepare
      exact ⟨h.received hclock, le_rfl⟩
  | storing name checked received =>
    rw [MuxThread.act] at hact
    split at hact
    · cases hact
      exact ⟨hquiet _ (by simp) (by simp) rfl, trivial⟩
    · rename_i hnewer
      cases hact
      refine ⟨h.accepted hclock hu hnewer fun hname hne => ?_, trivial⟩
      exact hprompt name checked received rfl hname hne hnewer
  | selecting source =>
    rw [MuxThread.act] at hact
    split at hact
    · cases hact
      exact ⟨hquiet _ (by simp) (by simp) rfl, trivial⟩
    · split at hact
      · cases hact
        exact ⟨hquiet _ (by simp) (by simp) rfl, trivial⟩
      · cases hact
        exact ⟨h.switched hclock, trivial⟩
  | outputting now =>
    cases now with
    | none =>
      cases hact
      exact ⟨hquiet _ (by simp) (by simp) rfl, trivial⟩
    | some now =>
      rw [MuxThread.act] at hact
      split at hact <;> cases hact <;> exact ⟨hquiet _ (by simp) (by simp) rfl, trivial⟩
  | emitting current =>
    cases hact
    exact ⟨hquiet _ (by simp) (by simp) rfl, trivial⟩
  | returned => cases hact

/-- The steps of a run in which calls are timed by the clock and updates are prompt. -/
def MuxCondition (l : List MuxReport) (p : Pool MuxShared MuxThread) (e : PoolEvent ℚ MuxCall) :
    Prop :=
  (∀ request, e = .call request → request.Timed) ∧ Prompt l p e

lemma muxProgram_keeps (normalize : String → String) (maxAgeS : ℚ) :
    (muxProgram normalize).Keeps MuxCondition (MuxInv maxAgeS) fun _ s _ u => ThreadInv s u where
  act {log p index t monotonic seg} ht hact hC hp := by
    change (if monotonic < p.shared.clock then none else _) = some seg at hact
    split at hact
    · cases hact
    rename_i hclock
    rw [not_lt] at hclock
    obtain ⟨r, hr, rfl⟩ := Option.map_eq_some_iff.mp hact
    have hprompt : ∀ name checked received, t = .storing name checked received →
        name = p.shared.mux.selectedSource → checked ≠ ZERO_TWIST →
        ¬ p.shared.mux.Outdated name received →
        SinceSwitch log (.received index name checked received) := by
      rintro name checked received rfl
      have hcondition := hC.2
      simp only [Prompt, ht] at hcondition
      exact hcondition
    obtain ⟨hshared, hthread⟩ := hp.shared.act (hp.thread index t ht) hclock hprompt hr
    refine ⟨hshared, hthread, fun u hu => absurd hu List.not_mem_nil, fun j u _ hu => ?_⟩
    exact (hp.thread j u hu).mono hclock
  call {log p request s t} hcall hC hp := by
    cases hcall
    refine ⟨hp.shared, ?_, hp.thread⟩
    have htimed := hC.1 request rfl
    cases request with
    | update source command receivedMonotonic => exact htimed
    | selectSource source => trivial
    | output now => trivial

/-- A command is put out as the invariant has it. -/
lemma MuxInv.selected (h : MuxInv maxAgeS l s) {current : ℚ}
    (hne : (s.mux.output current).command ≠ ZERO_TWIST) :
    ∃ index received, CurrentCommand l s.mux.selectedSource maxAgeS current
      (s.mux.output current).command index received := by
  obtain ⟨entry, hentry, hcommand, hyoung⟩ := CommandSourceMux.output_command hne
  rw [hcommand] at hne ⊢
  obtain ⟨index, haccepted, hsince⟩ := h.current entry hentry hne
  refine ⟨index, entry.received, haccepted, hsince, fun i c r hx => ?_, h.maxAge ▸ hyoung⟩
  by_cases hepoch : SinceSwitch l (.accepted i s.mux.selectedSource c r)
  · obtain ⟨entry', hentry', hle⟩ := h.since i _ c r hepoch
    rw [hentry] at hentry'
    cases hentry'
    exact hle
  · exact h.before _ _ _ _ _ _ _ _ hsince hx hepoch

lemma selected_of_act {m : CommandSourceMux} {current : ℚ} {selection : MuxSelection} {r}
    (hact : u.act normalize m index monotonic = some r)
    (hr : r.2.2 = .selected current selection) : selection = m.output current := by
  unfold MuxThread.act at hact
  split at hact
  · split at hact <;> cases hact <;> cases hr
  · split at hact <;> cases hact <;> cases hr
  · split at hact
    · cases hact
      cases hr
    · split at hact <;> cases hact <;> cases hr
  · cases hact
    cases hr
  · split at hact <;> cases hact <;> cases hr
  · cases hact
    cases hr
    rfl
  · cases hact

lemma selected_of_step {p : Pool MuxShared MuxThread} {e : PoolEvent ℚ MuxCall} {current : ℚ}
    {selection : MuxSelection}
    (h : ((muxProgram normalize).machine.stepAt p e).output = some (.selected current selection)) :
    selection = p.shared.mux.output current := by
  change ((muxProgram normalize).step p e).1 = _ at h
  rcases (muxProgram normalize).step_cases p e with hstep | ⟨request, s, t, -, -, hstep⟩ |
    ⟨index, monotonic, t, seg, -, ht, hact, hstep⟩
  · rw [hstep] at h
    cases h
  · rw [hstep] at h
    cases h
  · rw [hstep] at h
    change (if monotonic < p.shared.clock then none else _) = some seg at hact
    split at hact
    · cases hact
    obtain ⟨r, hr, rfl⟩ := Option.map_eq_some_iff.mp hact
    exact selected_of_act hr (Option.some.inj h)

/-- **A switch of the source is an epoch boundary** in every run in which no update of the
selected source has taken its receipt time before the switch. -/
theorem epochBoundary_of_prompt (normalize : String → String) {selectedSource : String}
    {maxAge : ExtRat} {m : CommandSourceMux}
    (hm : CommandSourceMux.init normalize selectedSource maxAge = .ok m) (clock : ℚ)
    (es : List (PoolEvent ℚ MuxCall)) (htimed : ∀ request, .call request ∈ es → request.Timed)
    (hprompt : ∀ l z r, (muxProgram normalize).machine.trace (m.idle clock) es = l ++ z :: r →
      Prompt (Program.log l) z.pre z.event) :
    EpochBoundary m.maxAgeS ((muxProgram normalize).machine.trace (m.idle clock) es) := by
  intro l z r current selection htr hz hne
  obtain ⟨es₁, es₂, rfl, rfl, hstep, -⟩ := Machine.trace_eq_append_cons _ htr
  have hstart : Program.Holds (MuxInv m.maxAgeS) (fun _ s _ u => ThreadInv s u) [] (m.idle clock) :=
    ⟨muxInv_idle m (CommandSourceMux.latest_of_init hm) clock, fun _ _ hu => by cases hu⟩
  have hholds := (muxProgram_keeps normalize m.maxAgeS).run hstart es₁ fun a x b hx => ?_
  · have hpre : z.pre = (muxProgram normalize).machine.final (m.idle clock) es₁ := by
      rw [hstep]
      rfl
    obtain rfl := selected_of_step (hstep ▸ hz)
    rw [hpre]
    exact ⟨CommandSourceMux.output_selectedSource _ _, hholds.shared.selected hne⟩
  · obtain ⟨tail, hextend⟩ := Machine.trace_extend _ (z.event :: es₂) hx
    refine ⟨fun request hrequest => htimed request ?_, hprompt _ _ _ hextend⟩
    have hmem : x.event ∈ es₁ := by
      rw [← Machine.map_event_trace (muxProgram normalize).machine (m.idle clock) es₁, hx]
      simp
    rw [← hrequest]
    exact List.mem_append_left _ hmem

end Runs

def navigationMux : CommandSourceMux :=
  { selectedSource := .navigation, maxAgeS := 10, maxAge_pos := by decide +kernel }

lemma navigationMux_init :
    CommandSourceMux.init id "navigation" (.fin 10) = .ok navigationMux := rfl

/-- RobotTrack is selected; then one of its updates comes, and an output. -/
def promptUpdate : List (PoolEvent ℚ MuxCall) :=
  [.call (.selectSource "robottrack"), .act 0 1,
    .call (.update "robottrack" { linearX := .fin (1 / 10) } none), .act 1 2, .act 1 2,
    .call (.output none), .act 2 3, .act 2 3]

theorem epochBoundary_promptUpdate :
    EpochBoundary 10 ((muxProgram id).machine.trace (navigationMux.idle 0) promptUpdate) :=
  epochBoundary_of_prompt id navigationMux_init 0 promptUpdate
    (by simp [promptUpdate, MuxCall.Timed]) (Machine.splits_iff.mpr (by decide +kernel))

/-- An update of RobotTrack reads the clock, RobotTrack is selected, and only then does the
update take the lock. -/
def straddlingUpdate : List (PoolEvent ℚ MuxCall) :=
  [.call (.update "robottrack" { linearX := .fin (1 / 10) } none),
    .call (.selectSource "robottrack"), .call (.output none), .act 0 1, .act 1 2, .act 0 2,
    .act 2 2]

/-- A command that was received before RobotTrack was selected is put out after it. -/
theorem not_epochBoundary_straddlingUpdate :
    CommandSourceMux.init id "navigation" (.fin 10) = .ok navigationMux ∧
    (∀ request, .call request ∈ straddlingUpdate ++ [.act 2 2] → request.Timed) ∧
    ¬ EpochBoundary navigationMux.maxAgeS
      ((muxProgram id).machine.trace (navigationMux.idle 0) (straddlingUpdate ++ [.act 2 2])) := by
  refine ⟨rfl, by simp [straddlingUpdate, MuxCall.Timed], fun h => ?_⟩
  have hlog : Program.log ((muxProgram id).machine.trace (navigationMux.idle 0) straddlingUpdate) =
      [.received 0 .robottrack { linearX := .fin (1 / 10) } 1, .switched .robottrack,
        .accepted 0 .robottrack { linearX := .fin (1 / 10) } 1, .silent] := by
    decide +kernel
  have hemitted : ((muxProgram id).machine.stepAt
      ((muxProgram id).machine.final (navigationMux.idle 0) straddlingUpdate) (.act 2 2)).output =
      some (.selected 2 ⟨{ linearX := .fin (1 / 10) }, .robottrack, "selected_source_fresh",
        some 1, 2⟩) := by
    decide +kernel
  obtain ⟨-, index, received, hcommand⟩ :=
    h _ _ [] _ _ (Machine.trace_concat _ _ _ _) hemitted (by decide +kernel)
  obtain ⟨a, b, hl, hb⟩ := hcommand.ofEpoch
  rw [hlog] at hl
  match a with
  | [] =>
    obtain ⟨-, rfl⟩ := List.cons.inj hl
    exact absurd (hb (.switched .robottrack) (by simp)) (by decide)
  | [_] | [_, _] | [_, _, _] | _ :: _ :: _ :: _ :: _ => simp at hl

end UnitreeGo2.RobotTrack
