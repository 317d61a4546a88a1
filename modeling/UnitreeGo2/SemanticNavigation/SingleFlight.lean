import UnitreeGo2.SemanticNavigation.Invariants

/-!
# Single flight

At most one semantic run blocks the reservation of another one, and a run stops to block only
with evidence from the provider, as long as no status reply is entered for a run that has no
navigation run yet, and none has a blank state.
-/

namespace UnitreeGo2.SemanticNavigation

abbrev ServiceStep := Machine.Step (Pool Shared Thread) (PoolEvent Input Request) (Option Report)

/-- The step ends a blocking run with evidence. -/
inductive Ended (settings : Settings) (log : List Report) (x : ServiceStep) (id : String)
    (run : Run) : Prop
  /-- The run is removed after a navigation reply that is not accepted. -/
  | rejected (houtput : x.output = some (.rejected id))
  /-- A status reply for the run's own navigation run is entered. -/
  | reported (reply : StatusReply) (hnav : run.navRunId ≠ "")
      (houtput : x.output = some (.statusReply id run.navRunId reply))
      (hknown : reply.known = true) (hstate : reply.normalState settings.toLibrary ∈ terminalStates)
  /-- A cancel worker enters the state of a status reply that it had got before. -/
  | confirmed (index : ℕ) (input : Input) (t : Thread) (outcome : CancelOutcome)
      (reply : StatusReply) (hnav : run.navRunId ≠ "") (hevent : x.event = .act index input)
      (ht : x.pre.threads[index]? = some t)
      (hverdict : t.verdict = some (id, run.navRunId, outcome))
      (hreply : .statusReply id run.navRunId reply ∈ log) (hknown : reply.known = true)
      (hstate : reply.normalState settings.toLibrary = outcome.terminalState)
      (hterminal : outcome.terminalState ∈ terminalStates)

/-- Navigation is single-flight on provider evidence, in a history and the state after it. -/
structure SingleFlight (settings : Settings) (tr : List ServiceStep) (p : Pool Shared Thread) :
    Prop where
  /-- At most one run of the registry is not terminal. -/
  single : (p.shared.runs.runs.filter fun run => run.Blocking).length ≤ 1
  /-- A run stops to block only with evidence. -/
  ended : ∀ l x r, tr = l ++ x :: r → ∀ id run, x.pre.shared.runs.get? id = some run →
    run.Blocking → (∀ run', x.post.shared.runs.get? id = some run' → ¬ run'.Blocking) →
    Ended settings (Program.log l) x id run

/-- A reply to a request for a navigation run is no evidence of an end unless it names its state,
and the request its navigation run. -/
def StatusReply.Sound (lib : Library) (reply : StatusReply) (navRunId : String) : Prop :=
  reply.known = true →
    reply.normalState lib ≠ "" ∧ (navRunId = "" → reply.normalState lib ∉ terminalStates)

instance (lib : Library) (reply : StatusReply) (navRunId : String) :
    Decidable (reply.Sound lib navRunId) :=
  inferInstanceAs (Decidable (_ → _))

/-- No blocking run is ended by a status reply that is known but blank, or that answers a request
without a navigation run. -/
def Evident (settings : Settings) (p : Pool Shared Thread) : PoolEvent Input Request → Prop
  | .act index (.statusReply (.ok reply)) =>
    ∀ t ∈ p.threads[index]?, ∀ q ∈ t.asks, ∀ run ∈ p.shared.runs.get? q.1,
      run.Blocking → reply.Sound settings.toLibrary q.2
  | _ => True

instance (settings : Settings) (p : Pool Shared Thread) (e : PoolEvent Input Request) :
    Decidable (Evident settings p e) := by
  unfold Evident
  split <;> infer_instance

section Steps

variable {settings : Settings} {s s' : Shared} {index : ℕ} {t t' : Thread} {report : Report}
  {spawned : List Spawn} {id : String}

/-- A thread that has asked the provider goes on with the reply that it reports. -/
lemma Thread.input_of_reply {input : Input} {seg : Segment Shared Thread Report}
    {q : String × String} {reply : StatusReply} (hact : t.act settings s index input = some seg)
    (hasks : t.asks = some q) (hreport : seg.report = .statusReply q.1 q.2 reply) :
    input = .statusReply (.ok reply) := by
  cases t with
  | status pc =>
    obtain ⟨part, hpart, rfl⟩ := Option.map_eq_some_iff.mp hact
    cases pc with
    | querying runId navRunId =>
      obtain rfl := Option.some.inj hasks
      cases input with
      | statusReply got =>
        match got with
        | .error (.rpcError code details text) | .error (.other text) =>
          obtain rfl := Option.some.inj hpart
          cases hreport
        | .ok got =>
          simp only [StatusPc.step] at hpart
          split at hpart <;> obtain rfl := Option.some.inj hpart <;>
            obtain ⟨-, -, rfl⟩ := Report.statusReply.inj hreport <;> rfl
      | _ => cases hpart
    | _ => cases hasks
  | monitor runId pc =>
    obtain ⟨part, hpart, rfl⟩ := Option.map_eq_some_iff.mp hact
    cases pc with
    | querying navRunId =>
      obtain rfl := Option.some.inj hasks
      cases input with
      | statusReply got =>
        match got with
        | .error failure =>
          obtain rfl := Option.some.inj hpart
          cases hreport
        | .ok got =>
          simp only [MonitorPc.step] at hpart
          split at hpart <;> obtain rfl := Option.some.inj hpart <;>
            obtain ⟨-, -, rfl⟩ := Report.statusReply.inj hreport <;> rfl
      | _ => cases hpart
    | _ => cases hasks
  | _ => cases hasks

/-- A reply that is sound evidence ends a blocking run only with a terminal state, for the
navigation run that was asked for. -/
lemma Run.entered_blocking {lib : Library} {run : Run} {navRunId : String} {reply : StatusReply}
    (hblocking : run.Blocking) (hsound : reply.Sound lib navRunId) :
    (run.entered lib navRunId reply).Blocking ∨
      (navRunId ≠ "" ∧ reply.known = true ∧ reply.normalState lib ∈ terminalStates) := by
  cases hknown : reply.known with
  | false =>
    left
    rw [Run.entered, StatusReply.remote, if_neg (by rw [hknown]; decide)]
    exact (Run.updateRemote_unknown_blocking _).mpr hblocking
  | true =>
    obtain ⟨hblank, hempty⟩ := hsound hknown
    by_cases hterminal : reply.normalState lib ∈ terminalStates
    · exact Or.inr ⟨fun h => hempty h hterminal, rfl, hterminal⟩
    · left
      have hstate : Run.remoteStateOf lib reply.state = reply.normalState lib := if_neg hblank
      rw [Run.entered, StatusReply.remote, if_pos hknown, Run.updateRemote_blocking, hstate]
      exact ⟨hblocking, hterminal⟩

/-- A run that blocks after a segment has blocked before, or was reserved, or got its navigation
run. -/
lemma RunChange.blocking {before : Option Run} {run' : Run}
    (h : RunChange settings s t report id before (some run')) (hblocking : run'.Blocking) :
    (∃ run, before = some run ∧ run.Blocking) ∨
      ((∀ other ∈ s.runs.runs, ¬ other.Blocking) ∧ ∃ admission, report = .reserved id admission) ∨
      (∃ run, before = some run ∧ t.own = some (id, .calling)) := by
  cases h with
  | same => exact Or.inl ⟨run', rfl, hblocking⟩
  | reserved admission _ _ hidle _ _ _ _ _ _ hreport =>
    exact Or.inr (Or.inl ⟨hidle, admission, hreport⟩)
  | ambiguous run _ hown | attached run _ _ hown => exact Or.inr (Or.inr ⟨run, rfl, hown⟩)
  | entered run | confirmed run =>
    exact Or.inl ⟨run, rfl, ((Run.updateRemote_blocking _ _).mp hblocking).1⟩
  | invalidated run => exact Or.inl ⟨run, rfl, (Run.invalidate_blocking _).mp hblocking⟩
  | claimed run | marked run => exact Or.inl ⟨run, rfl, hblocking⟩

/-- At most one run blocks, and a run without a navigation run blocks. -/
structure OneBlocks (s : Shared) : Prop where
  unique : ∀ id id' run run', s.runs.get? id = some run → run.Blocking →
    s.runs.get? id' = some run' → run'.Blocking → id = id'
  waiting : ∀ id run, s.runs.get? id = some run → run.navRunId = "" → run.Blocking

/-- A thread enters sound replies only. -/
def EntersSound (lib : Library) (s : Shared) (t : Thread) (report : Report) : Prop :=
  ∀ id navRunId reply run, t.asks = some (id, navRunId) →
    report = .statusReply id navRunId reply → s.runs.get? id = some run → run.Blocking →
    reply.Sound lib navRunId

lemma OneBlocks.act {log : List Report} (h : OneBlocks s)
    (ht : Reliable settings log s index t) (hact : Action settings s index t s' report spawned t')
    (hsound : EntersSound settings.toLibrary s t report) : OneBlocks s' := by
  have hback : ∀ id run', s'.runs.get? id = some run' → run'.Blocking →
      (∃ run, s.runs.get? id = some run ∧ run.Blocking) ∨
        ((∀ other ∈ s.runs.runs, ¬ other.Blocking) ∧
          ∃ admission, report = .reserved id admission) := by
    intro id run' hrun' hblocking
    have hchange := hact.runChange id
    rw [hrun'] at hchange
    rcases hchange.blocking hblocking with hbefore | hidle | ⟨run, hrun, hown⟩
    · exact Or.inl hbefore
    · exact Or.inr hidle
    · obtain ⟨waiting, hwaiting, hempty⟩ := ht.calling id hown
      exact Or.inl ⟨waiting, hwaiting, h.waiting id waiting hwaiting hempty⟩
  constructor
  · intro id id' run run' hrun hblocking hrun' hblocking'
    rcases hback id run hrun hblocking with ⟨a, ha, hab⟩ | ⟨hidle, admission, hreport⟩
    · rcases hback id' run' hrun' hblocking' with ⟨b, hb, hbb⟩ | ⟨hidle, -⟩
      · exact h.unique id id' a b ha hab hb hbb
      · exact absurd hab (hidle a (Registry.mem_of_get? ha))
    · rcases hback id' run' hrun' hblocking' with ⟨b, hb, hbb⟩ | ⟨-, admission', hreport'⟩
      · exact absurd hbb (hidle b (Registry.mem_of_get? hb))
      · exact (Report.reserved.inj (hreport.symm.trans hreport')).1
  · intro id run' hrun' hempty
    have hchange := hact.runChange id
    rw [hrun'] at hchange
    generalize hbefore : s.runs.get? id = before at hchange
    cases hchange with
    | same => exact h.waiting id run' hbefore hempty
    | reserved admission target run _ _ _ _ _ hblocking => exact hblocking
    | ambiguous run detail =>
      rw [Run.updateRemote_navRunId] at hempty
      exact (Run.updateRemote_unknown_blocking _).mpr (h.waiting id run hbefore hempty)
    | attached run navRunId detail => exact Run.attach_blocking _ _
    | entered run navRunId reply hasks hreport =>
      rw [Run.entered, Run.updateRemote_navRunId] at hempty
      have hblocking := h.waiting id run hbefore hempty
      rcases Run.entered_blocking hblocking (hsound id navRunId reply run hasks hreport hbefore
        hblocking) with hstays | ⟨hnav, -⟩
      · exact hstays
      · -- a thread that names a navigation run has it from the registry
        obtain ⟨-, found, hfound, hsame⟩ := (ht.asks _ hasks).resolve_left hnav
        rw [hbefore] at hfound
        obtain rfl := Option.some.inj hfound
        exact absurd (hsame.symm.trans hempty) hnav
    | confirmed run navRunId outcome hverdict =>
      rw [Run.updateRemote_navRunId] at hempty
      obtain ⟨hnav, found, hfound, hsame⟩ := ht.claims _ (Thread.claims_of_verdict hverdict)
      rw [hbefore] at hfound
      obtain rfl := Option.some.inj hfound
      exact absurd (hsame.symm.trans hempty) hnav
    | invalidated run =>
      rw [Run.invalidate_navRunId] at hempty
      exact (Run.invalidate_blocking _).mpr (h.waiting id run hbefore hempty)
    | claimed run | marked run => exact h.waiting id run hbefore hempty

/-- A segment that enters sound replies ends a blocking run with evidence only. -/
lemma Reliable.ended {log : List Report} (ht : Reliable settings log s index t)
    (hact : Action settings s index t s' report spawned t')
    (hsound : EntersSound settings.toLibrary s t report) {run : Run}
    (hrun : s.runs.get? id = some run) (hblocking : run.Blocking)
    (hended : ∀ run', s'.runs.get? id = some run' → ¬ run'.Blocking) :
    report = .rejected id ∨
      (run.navRunId ≠ "" ∧ ∃ reply : StatusReply, report = .statusReply id run.navRunId reply ∧
        reply.known = true ∧ reply.normalState settings.toLibrary ∈ terminalStates) ∨
      run.navRunId ≠ "" ∧ ∃ outcome, t.verdict = some (id, run.navRunId, outcome) := by
  have hchange := hact.runChange id
  rw [hrun] at hchange
  generalize hafter : s'.runs.get? id = after at hchange
  cases hchange with
  | same => exact absurd hblocking (hended run hafter)
  | rejected _ _ hreport => exact Or.inl hreport
  | ambiguous =>
    exact absurd ((Run.updateRemote_unknown_blocking _).mpr hblocking) (hended _ hafter)
  | attached => exact absurd (Run.attach_blocking _ _) (hended _ hafter)
  | entered _ navRunId reply hasks hreport =>
    rcases Run.entered_blocking hblocking (hsound id navRunId reply run hasks hreport hrun
      hblocking) with hstays | ⟨hnav, hknown, hstate⟩
    · exact absurd hstays (hended _ hafter)
    · obtain ⟨-, found, hfound, hsame⟩ := (ht.asks _ hasks).resolve_left hnav
      rw [hrun] at hfound
      obtain rfl := Option.some.inj hfound
      obtain rfl : run.navRunId = navRunId := hsame
      exact Or.inr (Or.inl ⟨hnav, reply, hreport, hknown, hstate⟩)
  | confirmed _ navRunId outcome hverdict =>
    obtain ⟨hnav, found, hfound, hsame⟩ := ht.claims _ (Thread.claims_of_verdict hverdict)
    rw [hrun] at hfound
    obtain rfl := Option.some.inj hfound
    obtain rfl : run.navRunId = navRunId := hsame
    exact Or.inr (Or.inr ⟨hnav, outcome, hverdict⟩)
  | invalidated => exact absurd ((Run.invalidate_blocking _).mpr hblocking) (hended _ hafter)
  | claimed | marked => exact (hended _ hafter hblocking).elim

/-- A call leaves the registry alone. -/
lemma Shared.call_runs {request : Request} (h : s.call index request = some (s', t)) :
    s'.runs = s.runs := by
  cases request with
  | navigate runId =>
    simp only [Shared.call] at h
    split at h
    · cases h
    · obtain ⟨rfl, -⟩ := Prod.mk.inj (Option.some.inj h)
      rfl
  | _ =>
    obtain ⟨rfl, -⟩ := Prod.mk.inj (Option.some.inj h)
    rfl

end Steps

/-! ## Runs of the service -/

section Runs

variable {settings : Settings} {es : List (PoolEvent Input Request)}

lemma entersSound_of_evident {p : Pool Shared Thread} {index : ℕ} {input : Input} {t : Thread}
    {seg : Segment Shared Thread Report} (hevident : Evident settings p (.act index input))
    (ht : p.threads[index]? = some t) (hact : t.act settings p.shared index input = some seg) :
    EntersSound settings.toLibrary p.shared t seg.report := by
  intro id navRunId reply run hasks hreport hrun hblocking
  obtain rfl := Thread.input_of_reply hact hasks hreport
  exact hevident t ht (id, navRunId) hasks run hrun hblocking

/-- The state before every step of a run is reliable. -/
lemma reliable_at {l r : List ServiceStep} {x : ServiceStep}
    (h : (service settings).machine.trace idleService es = l ++ x :: r) :
    Program.Holds Consistent (Reliable settings) (Program.log l) x.pre ∧
      x = (service settings).machine.stepAt x.pre x.event := by
  obtain ⟨es₁, es₂, -, rfl, hx, -⟩ := (service settings).machine.trace_eq_append_cons h
  have hpre : x.pre = (service settings).machine.final idleService es₁ := by rw [hx]; rfl
  rw [hpre]
  exact ⟨service_reliable settings es₁, by rw [← hpre] at hx ⊢; exact hx⟩

/-- Every segment that enters sound replies keeps at most one run blocking. -/
lemma oneBlocks_keeps (settings : Settings) :
    (service settings).Keeps
      (fun log p e => Evident settings p e ∧ Program.Holds Consistent (Reliable settings) log p)
      (fun _ => OneBlocks) (fun _ _ _ _ => True) where
  act := by
    intro log p index t input seg ht hact hC hp
    obtain ⟨hevident, hreliable⟩ := hC
    obtain ⟨spawned, -, haction⟩ := Thread.act_action hact
    exact ⟨hp.shared.act (hreliable.thread index t ht) haction
      (entersSound_of_evident hevident ht hact), trivial, fun _ _ _ _ => trivial,
      fun _ _ _ _ => trivial⟩
  call := by
    intro log p request s t hcall _ hp
    refine ⟨?_, trivial, fun _ _ _ => trivial⟩
    have hruns := Shared.call_runs hcall
    exact ⟨by rw [hruns]; exact hp.shared.unique, by rw [hruns]; exact hp.shared.waiting⟩

/-- The registry holds one blocking run at most. -/
lemma OneBlocks.single {s : Shared} (h : OneBlocks s) (hkeyed : s.runs.Keyed) :
    (s.runs.runs.filter fun run => run.Blocking).length ≤ 1 := by
  have hnodup : (s.runs.runs.filter fun run => run.Blocking).Nodup :=
    (List.Nodup.of_map _ hkeyed).filter _
  have hsame : ∀ a ∈ s.runs.runs.filter fun run => run.Blocking,
      ∀ b ∈ s.runs.runs.filter fun run => run.Blocking, a = b := by
    intro a ha b hb
    obtain ⟨hamem, hablock⟩ := List.mem_filter.mp ha
    obtain ⟨hbmem, hbblock⟩ := List.mem_filter.mp hb
    have hid := h.unique _ _ a b (hkeyed.get?_of_mem hamem) (of_decide_eq_true hablock)
      (hkeyed.get?_of_mem hbmem) (of_decide_eq_true hbblock)
    exact List.inj_on_of_nodup_map hkeyed hamem hbmem hid
  generalize s.runs.runs.filter (fun run => run.Blocking) = runs at hnodup hsame ⊢
  match runs with
  | [] => exact Nat.zero_le 1
  | [_] => exact Nat.le_refl 1
  | a :: b :: rest =>
    have hne : a ∉ b :: rest := (List.nodup_cons.mp hnodup).1
    rw [hsame a List.mem_cons_self b (by simp)] at hne
    exact absurd List.mem_cons_self hne

/-- **Navigation is single-flight on provider evidence**, in every run in which no status reply
ends a blocking run while it is blank or answers a request without a navigation run. -/
theorem singleFlight_of_evident (settings : Settings) (es : List (PoolEvent Input Request))
    (h : ∀ x ∈ (service settings).machine.trace idleService es, Evident settings x.pre x.event) :
    SingleFlight settings ((service settings).machine.trace idleService es)
      ((service settings).machine.final idleService es) := by
  have hstart : Program.Holds (fun _ : List Report => OneBlocks) (fun _ _ _ _ => True) []
      idleService :=
    ⟨⟨(fun _ _ _ _ h => by cases h), (fun _ _ h => by cases h)⟩, fun _ _ _ => trivial⟩
  have hone := (oneBlocks_keeps settings).run hstart es fun l z r hz =>
    ⟨h z (by rw [hz]; simp), (reliable_at hz).1⟩
  refine ⟨hone.shared.single (service_reliable settings es).shared.keyed, ?_⟩
  intro l x r hx id run hrun hblocking hended
  obtain ⟨hreliable, hstep⟩ := reliable_at hx
  have hevident := h x (by rw [hx]; simp)
  have hpost : x.post = ((service settings).step x.pre x.event).2 := congrArg (·.post) hstep
  have houtput : x.output = ((service settings).step x.pre x.event).1 := congrArg (·.output) hstep
  rcases (service settings).step_cases x.pre x.event with hidle |
    ⟨request, s, t, -, hcall, hcalled⟩ | ⟨index, input, t, seg, hevent, ht, hact, hacted⟩
  · rw [hpost, hidle] at hended
    exact absurd hblocking (hended run hrun)
  · rw [hpost, hcalled] at hended
    exact absurd hblocking (hended run (by rw [Shared.call_runs hcall]; exact hrun))
  · rw [hpost, hacted] at hended
    rw [hacted] at houtput
    rw [hevent] at hevident
    obtain ⟨spawned, -, haction⟩ := Thread.act_action hact
    have hself := hreliable.thread index t ht
    rcases hself.ended haction (entersSound_of_evident hevident ht hact) hrun hblocking hended with
      hreport | ⟨hnav, reply, hreport, hknown, hstate⟩ | ⟨hnav, outcome, hverdict⟩
    · exact .rejected (by rw [houtput, hreport])
    · exact .reported reply hnav (by rw [houtput, hreport]) hknown hstate
    · obtain ⟨hterminal, reply, hreply, hknown, hstate⟩ := hself.verdict id _ outcome hverdict
      exact .confirmed index input t outcome reply hnav hevent ht hverdict hreply hknown hstate
        hterminal

end Runs

/-! ## A run that is ended before it has its navigation run -/

/-- A library for texts without blanks, in capitals. -/
def capitals : Settings where
  strip text := text
  upper text := text
  repr text := "'" ++ text ++ "'"
  normal _ _ := rfl
  cancelRetryS := "3.0"
  lifecycleWaitS := "10.0"

def localization : MapLifecycleState := ⟨"lab", "localization", 1⟩

/-- The activation of the service, by the threads `0` and `1`. -/
def activation : List (PoolEvent Input Request) :=
  [.call (.activate "lab" 1 "/map/lifecycle"), .act 0 (.provider (.ok ())), .act 0 .go,
    .act 0 (.provider (.ok ())), .act 1 (.observe localization), .act 1 .go, .act 0 .go,
    .act 0 .go, .act 0 (.provider (.ok ())), .act 0 .go]

/-- A navigation call, up to its request to the provider. -/
def navigation (index : ℕ) (runId : String) : List (PoolEvent Input Request) :=
  [.call (.navigate runId), .act index .go, .act index .go, .act index .go,
    .act index (.provider (.ok ())), .act index (.landmark (.ok ⟨"desk", "desk"⟩)), .act index .go,
    .act index .go]

/-- A status call on a run that has no navigation run yet, and the provider's answer. -/
def earlyStatus (index : ℕ) (runId : String) : List (PoolEvent Input Request) :=
  [.call (.status runId), .act index .go, .act index .go,
    .act index (.statusReply (.ok ⟨true, "SUCCEEDED", ""⟩))]

/-- The answer to an early status call makes room for a second run, before the first one gets its
navigation run. -/
theorem not_singleFlight_earlyStatus : ¬ ∀ settings es, SingleFlight settings
    ((service settings).machine.trace idleService es)
    ((service settings).machine.final idleService es) := by
  intro h
  have hsingle := (h capitals (activation ++ navigation 2 "a" ++ earlyStatus 3 "a" ++
    navigation 4 "b" ++ [.act 2 (.navigateReply (.ok ⟨true, "nav-a", ""⟩))])).single
  revert hsingle
  decide +kernel

/-- A run that is polled under its own navigation run makes room for the next one. -/
theorem singleFlight_polled : SingleFlight capitals
    ((service capitals).machine.trace idleService (activation ++ navigation 2 "a" ++
      [.act 2 (.navigateReply (.ok ⟨true, "nav-a", ""⟩))] ++ earlyStatus 3 "a" ++
      navigation 4 "b"))
    ((service capitals).machine.final idleService (activation ++ navigation 2 "a" ++
      [.act 2 (.navigateReply (.ok ⟨true, "nav-a", ""⟩))] ++ earlyStatus 3 "a" ++
      navigation 4 "b")) :=
  singleFlight_of_evident capitals _ (by decide +kernel)

end UnitreeGo2.SemanticNavigation
