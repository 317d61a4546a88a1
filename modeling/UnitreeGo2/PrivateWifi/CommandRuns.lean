import UnitreeGo2.PrivateWifi.Rollback
import UnitreeGo2.Lib.ScriptLog

/-!
# What the commands of the private Wi-Fi tool do

A command leaves the state of the tool alone, and a query changes no link.  Between two commands
a signal may end what is under way, unless signals are deferred.
-/

namespace UnitreeGo2.PrivateWifi

open Script (ask get modify raise tryCatch ensure loop Adds)

/-- The calls that a log is about; to look at the latch is none. -/
def Call.visible : Call → Bool
  | .signals => false
  | _ => true

/-- The part of a log that is about commands and times. -/
def acts (log : List LogStep) : List LogStep := log.filter fun y => y.call.visible

abbrev Does {α : Type} (x : Action α) (Q : Exit Raised α → Workflow → List LogStep → Prop)
    (s : Workflow) : Prop :=
  Adds Call.visible x Q s

/-- The tool is where it was, up to the signals that it has seen. -/
structure Same (s s' : Workflow) : Prop where
  deferDepth : s'.deferDepth = s.deferDepth
  state : s'.state = s.state
  rollbackArmed : s'.rollbackArmed = s.rollbackArmed
  rollbackStarted : s'.rollbackStarted = s.rollbackStarted

lemma Same.refl (s : Workflow) : Same s s := ⟨rfl, rfl, rfl, rfl⟩

lemma Same.trans {s s' s'' : Workflow} (h : Same s s') (h' : Same s' s'') : Same s s'' :=
  ⟨h'.deferDepth.trans h.deferDepth, h'.state.trans h.state,
    h'.rollbackArmed.trans h.rollbackArmed, h'.rollbackStarted.trans h.rollbackStarted⟩

lemma Same.symm {s s' : Workflow} (h : Same s s') : Same s' s :=
  ⟨h.deferDepth.symm, h.state.symm, h.rollbackArmed.symm, h.rollbackStarted.symm⟩

lemma same_capture (signal : Option ℕ) (s : Workflow) : Same s (s.capture signal) :=
  ⟨rfl, rfl, rfl, rfl⟩

/-- A part may end here: the run waits, or a signal ends it that is not deferred. -/
def Stopped {α : Type} (s : Workflow) (exit : Exit Raised α) : Prop :=
  exit = .running ∨ s.deferDepth = 0 ∧ ∃ signum, exit = .raised (.switchInterrupted signum)

/-- How a part ends that has computed a result. -/
def exitOf {α : Type} : Except Raised α → Exit Raised α
  | .ok value => .returned value
  | .error error => .raised error

variable {α β : Type} {s s' : Workflow}

lemma Stopped.running : Stopped s (.running : Exit Raised α) := .inl rfl

lemma Stopped.same {exit : Exit Raised α} (h : Stopped s' exit) (hs : Same s s') :
    Stopped s exit := by
  rcases h with hrunning | ⟨hdepth, hsignal⟩
  · exact Or.inl hrunning
  · exact Or.inr ⟨hs.deferDepth ▸ hdepth, hsignal⟩

lemma not_stopped_returned {value : α} : ¬ Stopped s (.returned value) := by
  rintro (h | ⟨-, signum, h⟩) <;> cases h

/-- What stops one part stops the whole. -/
lemma Stopped.raised {error : Raised} (h : Stopped s (.raised error : Exit Raised α)) :
    Stopped s (.raised error : Exit Raised β) := by
  rcases h with h | ⟨hdepth, signum, h⟩
  · cases h
  · cases h
    exact Or.inr ⟨hdepth, signum, rfl⟩

lemma does_raiseIfPending (s : Workflow) :
    Does raiseIfPending (fun exit s' seg => Same s s' ∧ seg = [] ∧
      (exit = .returned () ∨ Stopped s exit)) s := by
  refine Adds.look_bind rfl ⟨Same.refl s, rfl, Or.inr Stopped.running⟩ fun answer => ?_
  refine Adds.modify_bind (Adds.get_bind ?_)
  have hsame := same_capture answer.signal s
  split
  · rename_i signum hsignum
    split_ifs with hdepth
    · exact Adds.raise ⟨hsame, rfl, Or.inr (Or.inr ⟨hdepth, signum, rfl⟩)⟩
    · exact Adds.pure ⟨hsame, rfl, Or.inl rfl⟩
  · exact Adds.pure ⟨hsame, rfl, Or.inl rfl⟩

/-- A part before which a signal is looked at. -/
lemma Does.afterSignals {f : Unit → Action β} {Q : Exit Raised β → Workflow → List LogStep → Prop}
    (hstopped : ∀ exit s', Same s s' → Stopped s exit → Q exit s' [])
    (h : ∀ s', Same s s' → Does (f ()) Q s') : Does (raiseIfPending >>= f) Q s := by
  refine Adds.bind (does_raiseIfPending s) ?_ ?_ ?_
  · rintro value s' seg ⟨hsame, rfl, -⟩
    exact h s' hsame
  · rintro error s' seg ⟨hsame, rfl, hexit | hstop⟩
    · cases hexit
    · exact hstopped _ _ hsame hstop.raised
  · rintro s' seg ⟨hsame, rfl, -⟩
    exact hstopped _ _ hsame Stopped.running

/-- At most the command was made, and the result is computed from that of the command. -/
def Asked (argv : List String) (timeout : ℚ) (interactive : Bool)
    (judge : CommandResult → Except Raised α) (s : Workflow) (exit : Exit Raised α)
    (s' : Workflow) (seg : List LogStep) : Prop :=
  Same s s' ∧ (seg = [] ∧ Stopped s exit ∨ ∃ y, seg = [y] ∧ Same s y.pre ∧
    y.call = .run argv timeout interactive ∧
    (Stopped s exit ∨ exit = exitOf (judge y.answer.result)))

/-- The script makes one command and computes its result from that of the command. -/
def Asks (argv : List String) (timeout : ℚ) (interactive : Bool)
    (judge : CommandResult → Except Raised α) (x : Action α) : Prop :=
  ∀ s, Does x (Asked argv timeout interactive judge s) s

lemma asks_runnerRun (argv : List String) (timeout : ℚ) (operation : String)
    (interactive : Bool) :
    Asks argv timeout interactive (answered operation)
      (runnerRun argv timeout operation interactive) := by
  intro s
  refine Does.afterSignals (fun exit s' hsame hstop => ⟨hsame, Or.inl ⟨rfl, hstop⟩⟩) ?_
  intro s' hsame
  refine Adds.ask_bind rfl ⟨hsame, Or.inl ⟨rfl, Stopped.running⟩⟩ fun answer => ?_
  have hdone : ∀ exit s'', Same s' s'' →
      (Stopped s exit ∨ exit = exitOf (answered operation answer.result)) →
      Asked argv timeout interactive (answered operation) s exit s''
        [⟨s', .run argv timeout interactive, answer⟩] :=
    fun exit s'' hsame' hexit => ⟨hsame.trans hsame', Or.inr ⟨_, rfl, hsame, rfl, hexit⟩⟩
  generalize hresult : answer.result = result at hdone ⊢
  split
  · exact Adds.raise (hdone _ _ (Same.refl s') (Or.inr rfl))
  · refine Does.afterSignals (fun exit s'' hsame' hstop =>
      hdone exit s'' hsame' (Or.inl (hstop.same hsame))) ?_
    intro s'' hsame'
    split
    · rename_i error herror
      rw [herror] at hdone
      exact Adds.raise (hdone _ _ hsame' (Or.inr rfl))
    · rename_i output houtput
      rw [houtput] at hdone
      exact Adds.pure (hdone _ _ hsame' (Or.inr rfl))

lemma Asked.same {argv : List String} {timeout : ℚ} {interactive : Bool}
    {judge : CommandResult → Except Raised α} {exit : Exit Raised α} {seg : List LogStep}
    {s₀ s' s'' : Workflow} (h : Asked argv timeout interactive judge s exit s' seg)
    (hs : Same s₀ s) (hs' : Same s' s'') :
    Asked argv timeout interactive judge s₀ exit s'' seg := by
  obtain ⟨hsame, ⟨hseg, hstop⟩ | ⟨y, hseg, hy, hcall, hexit⟩⟩ := h
  · exact ⟨(hs.trans hsame).trans hs', Or.inl ⟨hseg, hstop.same hs⟩⟩
  · refine ⟨(hs.trans hsame).trans hs', Or.inr ⟨y, hseg, hs.trans hy, hcall, ?_⟩⟩
    exact hexit.imp_left fun hstop => hstop.same hs

/-- A signal may stop a script that has made its command. -/
lemma Asked.stopped {argv : List String} {timeout : ℚ} {interactive : Bool}
    {judge : CommandResult → Except Raised α} {exit exit' : Exit Raised α} {seg : List LogStep}
    (h : Asked argv timeout interactive judge s exit s' seg) (hstop : Stopped s exit') :
    Asked argv timeout interactive judge s exit' s' seg := by
  obtain ⟨hsame, ⟨hseg, -⟩ | ⟨y, hseg, hy, hcall, -⟩⟩ := h
  · exact ⟨hsame, Or.inl ⟨hseg, hstop⟩⟩
  · exact ⟨hsame, Or.inr ⟨y, hseg, hy, hcall, Or.inl hstop⟩⟩

lemma asks_runCommand (argv : List String) (operation : String) (timeout : ℚ)
    (interactive : Bool) :
    Asks argv timeout interactive (answered operation)
      (runCommand argv operation timeout interactive) := by
  intro s
  refine Does.afterSignals (fun exit s' hsame hstop => ⟨hsame, Or.inl ⟨rfl, hstop⟩⟩) ?_
  intro s' hsame
  -- a signal is looked at once more, however the command ends
  have hlast : ∀ {exit : Exit Raised String} {s'' : Workflow} {seg : List LogStep}
      (last : Action String), Asked argv timeout interactive (answered operation) s' exit s'' seg →
      (∀ t, Does last (fun exit' t' seg' => Same t t' ∧ seg' = [] ∧ exit' = exit) t) →
      Does (raiseIfPending >>= fun _ => last) (fun exit' t seg' =>
        Asked argv timeout interactive (answered operation) s' exit' t (seg ++ seg')) s'' := by
    intro exit s'' seg last hasked hend
    refine Does.afterSignals (fun exit' t ht hstop => ?_) fun t ht => ?_
    · rw [List.append_nil]
      exact (hasked.stopped (hstop.same hasked.1)).same (Same.refl s') ht
    · refine (hend t).mono ?_
      rintro exit' t' seg' ⟨ht', rfl, rfl⟩
      rw [List.append_nil]
      exact hasked.same (Same.refl s') (ht.trans ht')
  have hrun : Does (tryCatch (runnerRun argv timeout operation interactive) fun error => do
      raiseIfPending
      raise error) (Asked argv timeout interactive (answered operation) s') s' := by
    refine Adds.tryCatch (asks_runnerRun argv timeout operation interactive s') ?_ ?_ ?_
    · exact fun value s'' seg hasked => hasked
    · exact fun error s'' seg hasked =>
        hlast _ hasked fun t => Adds.raise ⟨Same.refl t, rfl, rfl⟩
    · exact fun s'' seg hasked => hasked
  refine Adds.mono (Adds.bind hrun ?_ (fun _ _ _ hasked => hasked) fun _ _ hasked => hasked)
    fun exit s'' seg hasked => hasked.same hsame (Same.refl s'')
  exact fun value s'' seg hasked => hlast _ hasked fun t => Adds.pure ⟨Same.refl t, rfl, rfl⟩

/-- What is computed from the result of a script that makes one command. -/
lemma Asks.bind {argv : List String} {timeout : ℚ} {interactive : Bool}
    {judge : CommandResult → Except Raised α} {x : Action α}
    (h : Asks argv timeout interactive judge x) {f : α → Action β} (g : α → Except Raised β)
    (hf : ∀ value s, Does (f value) (fun exit s' seg => s' = s ∧ seg = [] ∧
      exit = exitOf (g value)) s) :
    Asks argv timeout interactive (fun result => judge result >>= g) (x >>= f) := by
  intro s
  refine Adds.bind (h s) ?_ ?_ ?_
  · rintro value s' seg ⟨hsame, ⟨-, hstop⟩ | ⟨y, rfl, hy, hcall, hexit⟩⟩
    · exact absurd hstop not_stopped_returned
    · refine (hf value s').mono ?_
      rintro exit s'' seg' ⟨rfl, rfl, rfl⟩
      refine ⟨hsame, Or.inr ⟨y, rfl, hy, hcall, Or.inr ?_⟩⟩
      rcases hexit with hstop | hexit
      · exact absurd hstop not_stopped_returned
      · cases hjudge : judge y.answer.result with
        | error error =>
          rw [hjudge] at hexit
          cases hexit
        | ok value' =>
          rw [hjudge] at hexit
          cases hexit
          show exitOf (g value) = exitOf (judge y.answer.result >>= g)
          rw [hjudge]
          rfl
  · rintro error s' seg ⟨hsame, ⟨hseg, hstop⟩ | ⟨y, hseg, hy, hcall, hexit⟩⟩
    · exact ⟨hsame, Or.inl ⟨hseg, hstop.raised⟩⟩
    · refine ⟨hsame, Or.inr ⟨y, hseg, hy, hcall, ?_⟩⟩
      rcases hexit with hstop | hexit
      · exact Or.inl hstop.raised
      · cases hjudge : judge y.answer.result with
        | error error' =>
          rw [hjudge] at hexit
          cases hexit
          refine Or.inr ?_
          show _ = exitOf (judge y.answer.result >>= g)
          rw [hjudge]
          rfl
        | ok value =>
          rw [hjudge] at hexit
          cases hexit
  · rintro s' seg ⟨hsame, ⟨hseg, -⟩ | ⟨y, hseg, hy, hcall, -⟩⟩
    · exact ⟨hsame, Or.inl ⟨hseg, Stopped.running⟩⟩
    · exact ⟨hsame, Or.inr ⟨y, hseg, hy, hcall, Or.inl Stopped.running⟩⟩

/-! ## Observations -/

variable (lib : Library)

/-- What `_optional_active_uuid` makes of its output. -/
def readOptionalUuid (operation output : String) : Except Raised (Option String) :=
  let value := lib.strip output
  if value = "" then .ok none
  else if isUuid value then .ok (some value)
  else .error (.switchError (oneConnection operation))

/-- What `_all_ipv4_addresses` makes of its output. -/
def readAddresses (output : String) : Except Raised (List AddressRecord) :=
  (parseAddresses lib output).elim
    (.error (.switchError "could not parse global IPv4 address ownership")) .ok

lemma asks_nmValue (field uuid operation : String) :
    Asks (nmValueArgv field uuid) QUERY_TIMEOUT_S false
      (fun result => answered operation result >>= fun output => .ok (lib.strip output))
      (nmValue lib field uuid operation) :=
  (asks_runCommand _ operation _ false).bind _ fun _ _ => Adds.pure ⟨rfl, rfl, rfl⟩

lemma asks_optionalActiveUuid (interface operation : String) :
    Asks (activeUuidArgv interface) QUERY_TIMEOUT_S false
      (fun result => answered operation result >>= readOptionalUuid lib operation)
      (optionalActiveUuid lib interface operation) := by
  refine (asks_runCommand _ operation _ false).bind _ fun output s => ?_
  rw [readOptionalUuid]
  dsimp only
  split_ifs
  · exact Adds.pure ⟨rfl, rfl, rfl⟩
  · exact Adds.pure ⟨rfl, rfl, rfl⟩
  · exact Adds.raise ⟨rfl, rfl, rfl⟩

lemma asks_activeUuid (interface operation : String) :
    Asks (activeUuidArgv interface) QUERY_TIMEOUT_S false
      (fun result => (answered operation result >>= readOptionalUuid lib operation) >>=
        fun value => value.elim (.error (.switchError (oneConnection operation))) .ok)
      (activeUuid lib interface operation) := by
  refine (asks_optionalActiveUuid lib interface operation).bind _ fun value s => ?_
  cases value with
  | none => exact Adds.raise ⟨rfl, rfl, rfl⟩
  | some value => exact Adds.pure ⟨rfl, rfl, rfl⟩

lemma asks_allIpv4Addresses :
    Asks addressesArgv QUERY_TIMEOUT_S false
      (fun result => answered "read all IPv4 address ownership" result >>= readAddresses lib)
      (allIpv4Addresses lib) := by
  refine (asks_runCommand _ _ _ false).bind _ fun output s => ?_
  rw [readAddresses]
  cases parseAddresses lib output with
  | none => exact Adds.raise ⟨rfl, rfl, rfl⟩
  | some records => exact Adds.pure ⟨rfl, rfl, rfl⟩

/-! ## Queries -/

/-- The command changes a link. -/
def ChangesLinks (argv : List String) : Prop :=
  ∃ uuid, argv = deactivateArgv uuid ∨ ∃ ask interface, argv = activateArgv ask uuid interface

/-- The call requests a change of a link. -/
def Changes (y : LogStep) : Prop :=
  ∃ argv timeout interactive, y.call = .run argv timeout interactive ∧ ChangesLinks argv

/-- The second word of a command that changes a link. -/
lemma second_of_changesLinks {argv : List String} (h : ChangesLinks argv) :
    argv[0]? = some "nmcli" ∧ (argv[1]? = some "--wait" ∨ argv[1]? = some "--ask") := by
  obtain ⟨uuid, rfl | ⟨ask, interface, rfl⟩⟩ := h
  · exact ⟨rfl, Or.inl rfl⟩
  · cases ask
    · exact ⟨rfl, Or.inl rfl⟩
    · exact ⟨rfl, Or.inr rfl⟩

lemma not_changesLinks_nmcli {option : String} {argv : List String} (hwait : option ≠ "--wait")
    (hask : option ≠ "--ask") : ¬ ChangesLinks ("nmcli" :: option :: argv) := by
  intro h
  rcases (second_of_changesLinks h).2 with hsecond | hsecond
  · exact hwait (Option.some.inj hsecond)
  · exact hask (Option.some.inj hsecond)

lemma not_changesLinks {program : String} {argv : List String} (h : program ≠ "nmcli") :
    ¬ ChangesLinks (program :: argv) := by
  intro hchanges
  exact h (Option.some.inj (second_of_changesLinks hchanges).1)

lemma not_changes_of_call {y : LogStep} {argv : List String} {timeout : ℚ} {interactive : Bool}
    (hcall : y.call = .run argv timeout interactive) (h : ¬ ChangesLinks argv) : ¬ Changes y := by
  rintro ⟨argv', timeout', interactive', hcall', hchanges⟩
  cases hcall.symm.trans hcall'
  exact h hchanges

/-- Nothing is changed, neither in the tool nor at a link. -/
def Watches (s : Workflow) (seg : List LogStep) : Prop := ∀ y ∈ seg, Same s y.pre ∧ ¬ Changes y

lemma watches_nil : Watches s [] := fun _ h => by cases h

lemma watches_singleton {y : LogStep} (hy : Same s y.pre) (h : ¬ Changes y) : Watches s [y] := by
  intro z hz
  rw [List.mem_singleton.mp hz]
  exact ⟨hy, h⟩

lemma Watches.same {seg : List LogStep} (h : Watches s' seg) (hs : Same s s') : Watches s seg :=
  fun y hy => ⟨hs.trans (h y hy).1, (h y hy).2⟩

lemma Watches.append {seg seg' : List LogStep} (h : Watches s seg) (h' : Watches s seg') :
    Watches s (seg ++ seg') := by
  intro y hy
  rcases List.mem_append.mp hy with hy | hy
  · exact h y hy
  · exact h' y hy

lemma Watches.cons {y : LogStep} {seg : List LogStep} (hy : Same s y.pre) (h : ¬ Changes y)
    (hseg : Watches s seg) : Watches s (y :: seg) := by
  intro z hz
  rcases List.mem_cons.mp hz with rfl | hz
  · exact ⟨hy, h⟩
  · exact hseg z hz

/-- A part ends early: it is stopped, or an error is raised that is no signal. -/
def Fails (s : Workflow) (exit : Exit Raised α) : Prop :=
  Stopped s exit ∨ ∃ error : Raised, error.isException = true ∧ exit = .raised error

lemma Fails.same {exit : Exit Raised α} (h : Fails s' exit) (hs : Same s s') : Fails s exit :=
  h.imp_left fun hstop => hstop.same hs

lemma Fails.raised {error : Raised} (h : Fails s (.raised error : Exit Raised α)) :
    Fails s (.raised error : Exit Raised β) := by
  rcases h with hstop | ⟨error', hordinary, herror⟩
  · exact Or.inl hstop.raised
  · cases herror
    exact Or.inr ⟨_, hordinary, rfl⟩

/-- No result that is computed from that of a command is a signal. -/
def Ordinary (judge : CommandResult → Except Raised α) : Prop :=
  ∀ result error, judge result = .error error → error.isException = true

lemma ordinary_answered (operation : String) : Ordinary (answered operation) := by
  intro result error h
  cases result with
  | completed returncode stdout =>
    rw [answered] at h
    split_ifs at h
    cases h
    rfl
  | _ =>
    cases h
    rfl

lemma Ordinary.bind {judge : CommandResult → Except Raised α} (h : Ordinary judge)
    {g : α → Except Raised β} (hg : ∀ value error, g value = .error error →
      error.isException = true) : Ordinary (fun result => judge result >>= g) := by
  intro result error herror
  have herror : judge result >>= g = .error error := herror
  cases hjudge : judge result with
  | error error' =>
    rw [hjudge] at herror
    cases herror
    exact h result _ hjudge
  | ok value =>
    rw [hjudge] at herror
    exact hg value error herror

/-- A query, and what follows it. -/
lemma Does.query {argv : List String} {timeout : ℚ} {interactive : Bool}
    {judge : CommandResult → Except Raised α} {x : Action α} {f : α → Action β}
    {Q : Exit Raised β → Workflow → List LogStep → Prop}
    (hx : Asks argv timeout interactive judge x) (hjudge : Ordinary judge)
    (hargv : ¬ ChangesLinks argv)
    (hfails : ∀ exit s' seg, Same s s' → Watches s seg → Fails s exit → Q exit s' seg)
    (h : ∀ value s' y, Same s s' → Same s y.pre → y.call = .run argv timeout interactive →
      judge y.answer.result = .ok value →
      Does (f value) (fun exit s'' seg => Q exit s'' (y :: seg)) s') : Does (x >>= f) Q s := by
  refine Adds.bind (hx s) ?_ ?_ ?_
  · rintro value s' seg ⟨hsame, ⟨-, hstop⟩ | ⟨y, rfl, hy, hcall, hexit⟩⟩
    · exact absurd hstop not_stopped_returned
    · rcases hexit with hstop | hexit
      · exact absurd hstop not_stopped_returned
      · cases hresult : judge y.answer.result with
        | error error =>
          rw [hresult] at hexit
          cases hexit
        | ok value' =>
          rw [hresult] at hexit
          cases hexit
          exact h value s' y hsame hy hcall hresult
  · rintro error s' seg ⟨hsame, ⟨rfl, hstop⟩ | ⟨y, rfl, hy, hcall, hexit⟩⟩
    · exact hfails _ _ _ hsame watches_nil (Or.inl hstop.raised)
    · refine hfails _ _ _ hsame (watches_singleton hy (not_changes_of_call hcall hargv)) ?_
      rcases hexit with hstop | hexit
      · exact Or.inl hstop.raised
      · cases hresult : judge y.answer.result with
        | error error' =>
          rw [hresult] at hexit
          cases hexit
          exact Or.inr ⟨error, hjudge _ _ hresult, rfl⟩
        | ok value =>
          rw [hresult] at hexit
          cases hexit
  · rintro s' seg ⟨hsame, ⟨rfl, -⟩ | ⟨y, rfl, hy, hcall, -⟩⟩
    · exact hfails _ _ _ hsame watches_nil (Or.inl Stopped.running)
    · exact hfails _ _ _ hsame (watches_singleton hy (not_changes_of_call hcall hargv))
        (Or.inl Stopped.running)

/-! ## What a sample shows -/

/-- The query was answered, and its output is as said. -/
def Shows (argv : List String) (P : String → Prop) (y : LogStep) : Prop :=
  y.call = .run argv QUERY_TIMEOUT_S false ∧
    ∃ stdout, y.answer.result = .completed 0 stdout ∧ P stdout

def ActiveIs (interface uuid : String) : LogStep → Prop :=
  Shows (activeUuidArgv interface) fun stdout => lib.strip stdout = uuid

def NotActive (interface uuid : String) : LogStep → Prop :=
  Shows (activeUuidArgv interface) fun stdout =>
    lib.strip stdout = "" ∨ lib.strip stdout ≠ uuid

def HasDefaultRoute : LogStep → Prop := Shows defaultRouteArgv fun stdout => lib.strip stdout ≠ ""

/-- No interface has the address of the host. -/
def NoOwner : LogStep → Prop := Shows addressesArgv fun stdout =>
  ∃ records, parseAddresses lib stdout = some records ∧ hostOwners records = []

/-- The interface alone has the address of the host, and no other address. -/
def SoleOwner (interface : String) : LogStep → Prop := Shows addressesArgv fun stdout =>
  ∃ records, parseAddresses lib stdout = some records ∧
    hostOwners records = [⟨interface, HOST_INTERFACE⟩] ∧
    interfaceAddresses records interface = [HOST_INTERFACE]

/-- A sample in which the campus network and the wired profile are back. -/
def FullyRestored (state : ConnectionState) (seg : List LogStep) : Prop :=
  ∃ y₁ y₂ y₃ y₄, seg = [y₁, y₂, y₃, y₄] ∧ ActiveIs lib WIFI_INTERFACE state.campusUuid y₁ ∧
    HasDefaultRoute lib y₂ ∧ ActiveIs lib WIRED_INTERFACE state.wiredUuid y₃ ∧
    SoleOwner lib WIRED_INTERFACE y₄

/-- A sample in which the wired profile is back, and the private network is left. -/
def WiredUnique (state : ConnectionState) (seg : List LogStep) : Prop :=
  ∃ y₁ y₂ y₃, seg = [y₁, y₂, y₃] ∧ NotActive lib WIFI_INTERFACE state.targetUuid y₁ ∧
    ActiveIs lib WIRED_INTERFACE state.wiredUuid y₂ ∧ SoleOwner lib WIRED_INTERFACE y₃

/-- A sample that ends with no owner of the address of the host. -/
def OwnerFree (seg : List LogStep) : Prop := ∃ seg₀ y, seg = seg₀ ++ [y] ∧ NoOwner lib y

lemma answered_eq_ok {operation output : String} {result : CommandResult}
    (h : answered operation result = .ok output) : result = .completed 0 output := by
  cases result with
  | completed returncode stdout =>
    rw [answered] at h
    split_ifs at h with hzero
    cases h
    rw [not_not.mp hzero]
  | _ => cases h

/-- What an answer shows whose output could be read. -/
lemma shows_of_answered {y : LogStep} {argv : List String} {operation : String}
    {g : String → Except Raised α} {value : α} {P : String → Prop}
    (hcall : y.call = .run argv QUERY_TIMEOUT_S false)
    (h : answered operation y.answer.result >>= g = .ok value)
    (hP : ∀ stdout, g stdout = .ok value → P stdout) : Shows argv P y := by
  cases hanswered : answered operation y.answer.result with
  | error error =>
    rw [hanswered] at h
    cases h
  | ok output =>
    rw [hanswered] at h
    exact ⟨hcall, output, answered_eq_ok hanswered, hP output h⟩

lemma readOptionalUuid_eq_ok {operation output : String} {value : Option String}
    (h : readOptionalUuid lib operation output = .ok value) :
    value = none ∧ lib.strip output = "" ∨ value = some (lib.strip output) := by
  rw [readOptionalUuid] at h
  split_ifs at h with hempty
  · cases h
    exact Or.inl ⟨rfl, hempty⟩
  · cases h
    exact Or.inr rfl

lemma readAddresses_eq_ok {output : String} {records : List AddressRecord}
    (h : readAddresses lib output = .ok records) : parseAddresses lib output = some records := by
  rw [readAddresses] at h
  cases hparse : parseAddresses lib output with
  | none =>
    rw [hparse] at h
    cases h
  | some found =>
    rw [hparse] at h
    cases h
    rfl

lemma ordinary_optionalUuid (operation : String) :
    Ordinary (fun result => answered operation result >>= readOptionalUuid lib operation) := by
  refine (ordinary_answered operation).bind fun output error h => ?_
  rw [readOptionalUuid] at h
  split_ifs at h
  cases h
  rfl

lemma ordinary_uuid (operation : String) :
    Ordinary (fun result => (answered operation result >>= readOptionalUuid lib operation) >>=
      fun value => value.elim (.error (.switchError (oneConnection operation))) .ok) := by
  refine (ordinary_optionalUuid lib operation).bind fun value error h => ?_
  cases value with
  | none =>
    cases h
    rfl
  | some value => cases h

lemma ordinary_addresses : Ordinary (fun result =>
    answered "read all IPv4 address ownership" result >>= readAddresses lib) := by
  refine (ordinary_answered _).bind fun output error h => ?_
  rw [readAddresses] at h
  cases hparse : parseAddresses lib output with
  | none =>
    rw [hparse] at h
    cases h
    rfl
  | some records =>
    rw [hparse] at h
    cases h

lemma not_changes_activeUuidArgv (interface : String) :
    ¬ ChangesLinks (activeUuidArgv interface) :=
  not_changesLinks_nmcli (by decide) (by decide)

lemma not_changes_addressesArgv : ¬ ChangesLinks addressesArgv := not_changesLinks (by decide)

lemma not_changes_defaultRouteArgv : ¬ ChangesLinks defaultRouteArgv :=
  not_changesLinks (by decide)

/-- The active profile of an interface, as it was answered. -/
lemma activeIs_of_judge {y : LogStep} {interface operation value : String}
    (hcall : y.call = .run (activeUuidArgv interface) QUERY_TIMEOUT_S false)
    (h : (answered operation y.answer.result >>= readOptionalUuid lib operation) >>=
      (fun value => value.elim (.error (.switchError (oneConnection operation))) .ok) =
        .ok value) : ActiveIs lib interface value y := by
  cases hanswered : answered operation y.answer.result with
  | error error =>
    rw [hanswered] at h
    cases h
  | ok output =>
    rw [hanswered] at h
    have h : readOptionalUuid lib operation output >>= (fun value =>
      value.elim (.error (.switchError (oneConnection operation))) .ok) = .ok value := h
    cases hread : readOptionalUuid lib operation output with
    | error error =>
      rw [hread] at h
      cases h
    | ok found =>
      rw [hread] at h
      refine ⟨hcall, output, answered_eq_ok hanswered, ?_⟩
      rcases readOptionalUuid_eq_ok lib hread with ⟨rfl, -⟩ | rfl
      · cases h
      · cases h
        rfl

lemma requireExact_eq_ok {records : List AddressRecord} {interface context : String}
    (h : requireExactHostOwner records interface context = .ok ()) :
    hostOwners records = [⟨interface, HOST_INTERFACE⟩] ∧
      interfaceAddresses records interface = [HOST_INTERFACE] := by
  rw [requireExactHostOwner] at h
  split_ifs at h with howners haddresses
  exact ⟨not_not.mp howners, not_not.mp haddresses⟩

/-- What is known of a sample when it ends. -/
def Sampled (s : Workflow) (P : List LogStep → Prop) (exit : Exit Raised Bool) (s' : Workflow)
    (seg : List LogStep) : Prop :=
  Same s s' ∧ Watches s seg ∧ (exit = .returned true → P seg) ∧
    ((∃ value, exit = .returned value) ∨ Fails s exit)

lemma sampled_fails {P : List LogStep → Prop} {exit : Exit Raised Bool} {seg : List LogStep}
    (hsame : Same s s') (hseg : Watches s seg) (h : Fails s exit) : Sampled s P exit s' seg := by
  refine ⟨hsame, hseg, ?_, Or.inr h⟩
  rintro rfl
  rcases h with hstop | ⟨error, -, herror⟩
  · exact absurd hstop not_stopped_returned
  · cases herror

lemma sampled_false {P : List LogStep → Prop} {seg : List LogStep} (hsame : Same s s')
    (hseg : Watches s seg) : Sampled s P (.returned false) s' seg :=
  ⟨hsame, hseg, (fun h => by cases h), Or.inl ⟨false, rfl⟩⟩

end UnitreeGo2.PrivateWifi
