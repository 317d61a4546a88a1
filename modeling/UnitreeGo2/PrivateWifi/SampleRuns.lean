import UnitreeGo2.PrivateWifi.CommandRuns

/-!
# What the samples of a rollback show

A sample is one look at the links.  Whether it holds is decided by the answers that are in the
log, so that a run of samples that hold is evidence of a stable network.
-/

namespace UnitreeGo2.PrivateWifi

open Script (ask get modify raise tryCatch ensure loop Adds)

variable {α β : Type} {s s' : Workflow} {state : ConnectionState} (lib : Library)

/-! ## One sample -/

lemma Does.requireState {f : ConnectionState → Action β}
    {Q : Exit Raised β → Workflow → List LogStep → Prop} (hstate : s.state = some state)
    (h : Does (f state) Q s) : Does (requireState >>= f) Q s := by
  intro answers
  have hrun : PrivateWifi.requireState s answers = ⟨.returned state, s, [], answers⟩ := by
    obtain ⟨pending, depth, current, armed, started⟩ := s
    cases hstate
    rfl
  have hall : (PrivateWifi.requireState >>= f) s answers = f state s answers := by
    show (PrivateWifi.requireState s answers).andThen f = f state s answers
    rw [hrun]
    rfl
  rw [hall]
  exact h answers

/-- The two answers of `_campus_active_sample`. -/
def CampusActive (state : ConnectionState) (seg : List LogStep) : Prop :=
  ∃ y₁ y₂, seg = [y₁, y₂] ∧ ActiveIs lib WIFI_INTERFACE state.campusUuid y₁ ∧
    HasDefaultRoute lib y₂

lemma sampled_campusActive (hstate : s.state = some state) :
    Does (campusActiveSample lib) (Sampled s (CampusActive lib state)) s := by
  refine Does.requireState hstate ?_
  refine Does.query (asks_activeUuid lib _ _) (ordinary_uuid lib _)
    (not_changes_activeUuidArgv _) (fun exit s' seg => sampled_fails) ?_
  intro uuid s₁ y₁ hs₁ hy₁ hcall₁ huuid
  have hquiet₁ : ¬ Changes y₁ := not_changes_of_call hcall₁ (not_changes_activeUuidArgv _)
  split_ifs with hother
  · exact Adds.pure (sampled_false hs₁ (watches_singleton hy₁ hquiet₁))
  · have hcampus : ActiveIs lib WIFI_INTERFACE state.campusUuid y₁ :=
      not_not.mp hother ▸ activeIs_of_judge lib hcall₁ huuid
    refine Does.query (asks_runCommand _ _ _ false) (ordinary_answered _)
      not_changes_defaultRouteArgv (fun exit s' seg hs hseg hfails => sampled_fails
        (hs₁.trans hs) (Watches.cons hy₁ hquiet₁ (hseg.same hs₁)) (hfails.same hs₁)) ?_
    intro output s₂ y₂ hs₂ hy₂ hcall₂ houtput
    have hwatch : Watches s [y₁, y₂] := Watches.cons hy₁ hquiet₁ (watches_singleton
      (hs₁.trans hy₂) (not_changes_of_call hcall₂ not_changes_defaultRouteArgv))
    refine Adds.pure ⟨hs₁.trans hs₂, hwatch, fun hroute => ?_, Or.inl ⟨_, rfl⟩⟩
    have hroute : lib.strip output ≠ "" := by simpa using hroute
    exact ⟨y₁, y₂, rfl, hcampus, hcall₂, output, answered_eq_ok houtput, hroute⟩

/-- What follows a sample that holds. -/
lemma Does.sample {P : List LogStep → Prop} {P' : List LogStep → Prop} {x : Action Bool}
    {f : Bool → Action Bool} (hx : Does x (Sampled s P) s)
    (hfalse : ∀ s', Does (f false) (fun exit s'' seg => s'' = s' ∧ seg = [] ∧
      exit = .returned false) s')
    (htrue : ∀ s' seg, Same s s' → Watches s seg → P seg →
      Does (f true) (fun exit s'' seg' => Sampled s P' exit s'' (seg ++ seg')) s') :
    Does (x >>= f) (Sampled s P') s := by
  refine Adds.bind hx ?_ ?_ ?_
  · rintro value s' seg ⟨hsame, hseg, hP, -⟩
    cases value with
    | false =>
      refine (hfalse s').mono ?_
      rintro exit s'' seg' ⟨rfl, rfl, rfl⟩
      rw [List.append_nil]
      exact sampled_false hsame hseg
    | true => exact htrue s' seg hsame hseg (hP rfl)
  · rintro error s' seg ⟨hsame, hseg, -, ⟨value, hvalue⟩ | hfails⟩
    · cases hvalue
    · exact sampled_fails hsame hseg hfails.raised
  · rintro s' seg ⟨hsame, hseg, -⟩
    exact sampled_fails hsame hseg (Or.inl Stopped.running)

/-- A last query, of all addresses, which decides the sample. -/
lemma Does.ownership {P : List LogStep → Prop} {D : List AddressRecord → Prop}
    {f : List AddressRecord → Action Bool} {seg₀ : List LogStep} {s₀ : Workflow}
    (hs : Same s₀ s) (hseg₀ : Watches s₀ seg₀)
    (hf : ∀ records s', Does (f records) (fun exit s'' seg => s'' = s' ∧ seg = [] ∧
      ((∃ value, exit = .returned value ∧ (value = true → D records)) ∨
        ∃ error : Raised, error.isException = true ∧ exit = .raised error)) s')
    (hP : ∀ y, Shows addressesArgv (fun stdout =>
      ∃ records, parseAddresses lib stdout = some records ∧ D records) y → P (seg₀ ++ [y])) :
    Does (allIpv4Addresses lib >>= f)
      (fun exit s' seg => Sampled s₀ P exit s' (seg₀ ++ seg)) s := by
  refine Does.query (asks_allIpv4Addresses lib) (ordinary_addresses lib)
    not_changes_addressesArgv (fun exit s' seg hs' hseg hfails => sampled_fails
      (hs.trans hs') (hseg₀.append (hseg.same hs)) (hfails.same hs)) ?_
  intro records s' y hs' hy hcall hrecords
  refine (hf records s').mono ?_
  rintro exit s'' seg ⟨rfl, rfl, hexit⟩
  have hwatch : Watches s₀ (seg₀ ++ [y]) := hseg₀.append
    (watches_singleton (hs.trans hy) (not_changes_of_call hcall not_changes_addressesArgv))
  rcases hexit with ⟨value, rfl, hvalue⟩ | ⟨error, hordinary, rfl⟩
  · refine ⟨hs.trans hs', hwatch, fun htrue => ?_, Or.inl ⟨value, rfl⟩⟩
    cases htrue
    exact hP y (shows_of_answered hcall hrecords fun _ hread =>
      ⟨records, readAddresses_eq_ok lib hread, hvalue rfl⟩)
  · exact sampled_fails (hs.trans hs') hwatch (Or.inr ⟨error, hordinary, rfl⟩)

lemma sampled_campusWithoutHost (hstate : s.state = some state) :
    Does (campusWithoutHostSample lib) (Sampled s (OwnerFree lib)) s := by
  refine Does.sample (sampled_campusActive lib hstate) (fun s' => Adds.pure ⟨rfl, rfl, rfl⟩) ?_
  intro s' seg hsame hseg _
  refine Does.ownership lib (D := fun records => hostOwners records = []) hsame hseg ?_
    fun y hy => ⟨seg, y, rfl, hy⟩
  intro records s''
  exact Adds.pure ⟨rfl, rfl, Or.inl ⟨_, rfl, of_decide_eq_true⟩⟩

lemma sampled_noHostOwner : Does (noHostOwnerSample lib) (Sampled s (OwnerFree lib)) s := by
  refine Does.ownership lib (D := fun records => hostOwners records = []) (Same.refl s)
    watches_nil ?_ fun y hy => ⟨[], y, rfl, hy⟩
  intro records s'
  exact Adds.pure ⟨rfl, rfl, Or.inl ⟨_, rfl, of_decide_eq_true⟩⟩

lemma succeeds_eq_true {result : Except Raised Unit} (h : succeeds result = true) :
    result = .ok () := by
  cases result with
  | error error => cases h
  | ok value => rfl

lemma sampled_fullyRestored (hstate : s.state = some state) :
    Does (fullyRestoredSample lib) (Sampled s (FullyRestored lib state)) s := by
  refine Does.requireState hstate ?_
  refine Does.sample (sampled_campusActive lib hstate) (fun s' => Adds.pure ⟨rfl, rfl, rfl⟩) ?_
  rintro s₁ seg hs₁ hseg ⟨y₁, y₂, rfl, hcampus, hroute⟩
  rw [if_neg (by decide)]
  refine Does.query (asks_activeUuid lib _ _) (ordinary_uuid lib _)
    (not_changes_activeUuidArgv _) (fun exit s' seg' hs hseg' hfails => sampled_fails
      (hs₁.trans hs) (hseg.append (hseg'.same hs₁)) (hfails.same hs₁)) ?_
  intro uuid s₂ y₃ hs₂ hy₃ hcall huuid
  have hwatch : Watches s ([y₁, y₂] ++ [y₃]) := hseg.append (watches_singleton
    (hs₁.trans hy₃) (not_changes_of_call hcall (not_changes_activeUuidArgv _)))
  split_ifs with hother
  · exact Adds.pure (sampled_false (hs₁.trans hs₂) hwatch)
  · have hwired : ActiveIs lib WIRED_INTERFACE state.wiredUuid y₃ :=
      not_not.mp hother ▸ activeIs_of_judge lib hcall huuid
    refine (Does.ownership lib (P := FullyRestored lib state) (D := fun records =>
      hostOwners records = [⟨WIRED_INTERFACE, HOST_INTERFACE⟩] ∧
        interfaceAddresses records WIRED_INTERFACE = [HOST_INTERFACE]) (hs₁.trans hs₂) hwatch ?_
      fun y hy => ⟨y₁, y₂, y₃, y, rfl, hcampus, hroute, hwired, hy⟩).mono fun exit s' seg' h => h
    intro records s'
    exact Adds.pure ⟨rfl, rfl, Or.inl ⟨_, rfl, fun htrue =>
      requireExact_eq_ok (succeeds_eq_true htrue)⟩⟩

/-- What an answer shows about a profile that is not the active one. -/
lemma notActive_of_judge {y : LogStep} {interface operation uuid : String} {value : Option String}
    (hcall : y.call = .run (activeUuidArgv interface) QUERY_TIMEOUT_S false)
    (h : answered operation y.answer.result >>= readOptionalUuid lib operation = .ok value)
    (hother : value ≠ some uuid) : NotActive lib interface uuid y := by
  refine shows_of_answered hcall h fun stdout hread => ?_
  rcases readOptionalUuid_eq_ok lib hread with ⟨-, hempty⟩ | rfl
  · exact Or.inl hempty
  · exact Or.inr fun heq => hother (congrArg some heq)

lemma sampled_wiredUnique (hstate : s.state = some state) :
    Does (wiredUniqueSample lib) (Sampled s (WiredUnique lib state)) s := by
  refine Does.requireState hstate ?_
  -- what the three queries show; a `SwitchError` among them is a sample that does not hold
  refine Adds.tryCatch (P := Sampled s (WiredUnique lib state)) ?_ (fun _ _ _ h => h) ?_
    fun _ _ h => h
  · refine Does.query (asks_optionalActiveUuid lib _ _) (ordinary_optionalUuid lib _)
      (not_changes_activeUuidArgv _) (fun exit s' seg => sampled_fails) ?_
    intro wifi s₁ y₁ hs₁ hy₁ hcall₁ hwifi
    have hquiet₁ : ¬ Changes y₁ := not_changes_of_call hcall₁ (not_changes_activeUuidArgv _)
    split_ifs with htarget
    · exact Adds.pure (sampled_false hs₁ (watches_singleton hy₁ hquiet₁))
    refine Does.query (asks_activeUuid lib _ _) (ordinary_uuid lib _)
      (not_changes_activeUuidArgv _) (fun exit s' seg hs hseg hfails => sampled_fails
        (hs₁.trans hs) (Watches.cons hy₁ hquiet₁ (hseg.same hs₁)) (hfails.same hs₁)) ?_
    intro wired s₂ y₂ hs₂ hy₂ hcall₂ hwired
    have hwatch : Watches s [y₁, y₂] := Watches.cons hy₁ hquiet₁ (watches_singleton
      (hs₁.trans hy₂) (not_changes_of_call hcall₂ (not_changes_activeUuidArgv _)))
    split_ifs with hother
    · exact Adds.pure (sampled_false (hs₁.trans hs₂) hwatch)
    have hleft : NotActive lib WIFI_INTERFACE state.targetUuid y₁ :=
      notActive_of_judge lib hcall₁ hwifi htarget
    have hback : ActiveIs lib WIRED_INTERFACE state.wiredUuid y₂ :=
      not_not.mp hother ▸ activeIs_of_judge lib hcall₂ hwired
    refine (Does.ownership lib (P := WiredUnique lib state) (D := fun records =>
      hostOwners records = [⟨WIRED_INTERFACE, HOST_INTERFACE⟩] ∧
        interfaceAddresses records WIRED_INTERFACE = [HOST_INTERFACE]) (hs₁.trans hs₂) hwatch ?_
      fun y hy => ⟨y₁, y₂, y, rfl, hleft, hback, hy⟩).mono fun exit s' seg' h => h
    intro records s'
    cases hexact : requireExactHostOwner records WIRED_INTERFACE "fallback rollback" with
    | error error =>
      refine Adds.raise ⟨rfl, rfl, Or.inr ⟨error, ?_, rfl⟩⟩
      rw [requireExactHostOwner] at hexact
      split_ifs at hexact
      all_goals
        cases hexact
        rfl
    | ok value => exact Adds.pure ⟨rfl, rfl, Or.inl ⟨true, rfl, fun _ =>
        requireExact_eq_ok hexact⟩⟩
  · rintro error s' seg ⟨hsame, hseg, -, ⟨value, hvalue⟩ | hfails⟩
    · cases hvalue
    · split_ifs
      · refine Adds.pure ?_
        rw [List.append_nil]
        exact sampled_false hsame hseg
      · refine Adds.raise ?_
        rw [List.append_nil]
        exact sampled_fails hsame hseg hfails

/-! ## Samples that hold in a row -/

/-- The log ends with so many samples as said, one right after another. -/
def Stable (P : List LogStep → Prop) : ℕ → List LogStep → Prop
  | 0, _ => True
  | n + 1, l => ∃ l₀ seg, l = l₀ ++ seg ∧ P seg ∧
    (n = 0 ∨ ∃ l₁ y, l₀ = l₁ ++ [y] ∧ y.call = .sleep STABILITY_INTERVAL_S ∧ Stable P n l₁)

variable {P : List LogStep → Prop}

lemma Stable.after {n : ℕ} {l : List LogStep} (h : Stable P n l) (l' : List LogStep) :
    Stable P n (l' ++ l) := by
  induction n generalizing l with
  | zero => trivial
  | succ n ih =>
    obtain ⟨l₀, seg, rfl, hP, hbefore⟩ := h
    refine ⟨l' ++ l₀, seg, (List.append_assoc _ _ _).symm, hP, ?_⟩
    rcases hbefore with hzero | ⟨l₁, y, rfl, hsleep, hstable⟩
    · exact Or.inl hzero
    · exact Or.inr ⟨l' ++ l₁, y, (List.append_assoc _ _ _).symm, hsleep, ih hstable⟩

/-- What is known when a part ends that catches every error. -/
def Settled (s : Workflow) (P : List LogStep → Prop) (exit : Exit Raised Bool) (s' : Workflow)
    (seg : List LogStep) : Prop :=
  Same s s' ∧ Watches s seg ∧ (exit = .returned true → P seg) ∧
    ((∃ value, exit = .returned value) ∨ Stopped s exit)

lemma isException_of_not_stopped {error : Raised}
    (h : Fails s (.raised error : Exit Raised α)) :
    error.isException = true ∨ Stopped s (.raised error : Exit Raised α) := by
  rcases h with hstop | ⟨error', hordinary, herror⟩
  · exact Or.inr hstop
  · cases herror
    exact Or.inl hordinary

/-- An error of a sample is a sample that does not hold. -/
lemma settled_sample {sample : Action Bool} (h : Does sample (Sampled s P) s) :
    Does (tryCatch sample fun error =>
      if error.isException then return false else raise error) (Settled s P) s := by
  refine Adds.tryCatch h ?_ ?_ ?_
  · rintro value s' seg ⟨hsame, hseg, hP, -⟩
    exact ⟨hsame, hseg, hP, Or.inl ⟨value, rfl⟩⟩
  · rintro error s' seg ⟨hsame, hseg, -, ⟨value, hvalue⟩ | hfails⟩
    · cases hvalue
    · split_ifs with hordinary
      · refine Adds.pure ?_
        rw [List.append_nil]
        exact ⟨hsame, hseg, (fun h => by cases h), Or.inl ⟨false, rfl⟩⟩
      · refine Adds.raise ?_
        rw [List.append_nil]
        refine ⟨hsame, hseg, (fun h => by cases h), Or.inr ?_⟩
        exact (isException_of_not_stopped hfails).resolve_left hordinary
  · rintro s' seg ⟨hsame, hseg, -⟩
    exact ⟨hsame, hseg, (fun h => by cases h), Or.inr Stopped.running⟩

/-- The rounds that are left, after those that are in the log already. -/
lemma settled_waitRounds {sample : Action Bool}
    (hsample : ∀ s', Same s s' → Does sample (Sampled s' P) s') (left : ℕ) :
    ∀ consecutive s' l, Same s s' → Watches s l → consecutive < STABLE_OBSERVATIONS →
      (consecutive = 0 ∨ ∃ l₁ y, l = l₁ ++ [y] ∧ y.call = .sleep STABILITY_INTERVAL_S ∧
        Stable P consecutive l₁) →
      Does (waitRounds sample left consecutive)
        (fun exit s'' seg => Settled s (Stable P STABLE_OBSERVATIONS) exit s'' (l ++ seg)) s' := by
  induction left with
  | zero =>
    intro consecutive s' l hsame hl _ _
    refine Adds.pure ?_
    rw [List.append_nil]
    exact ⟨hsame, hl, (fun h => by cases h), Or.inl ⟨false, rfl⟩⟩
  | succ left ih =>
    intro consecutive s' l hsame hl hfew hrow
    refine Adds.bind (settled_sample (hsample s' hsame)) ?_ ?_ ?_
    · rintro valid s₁ seg ⟨hs₁, hseg, hP, -⟩
      have hsame₁ : Same s s₁ := hsame.trans hs₁
      have hwatch : Watches s (l ++ seg) := hl.append (hseg.same hsame)
      have hcount : (if valid then consecutive + 1 else 0) ≤ STABLE_OBSERVATIONS := by
        split_ifs
        · omega
        · exact Nat.zero_le _
      -- the samples that hold end with this one, if it holds
      have hstable : Stable P (if valid then consecutive + 1 else 0) (l ++ seg) := by
        split_ifs with hvalid
        · subst hvalid
          exact ⟨l, seg, rfl, hP rfl, hrow⟩
        · trivial
      generalize (if valid then consecutive + 1 else 0) = count at hcount hstable ⊢
      dsimp only
      split_ifs with henough
      · refine Adds.pure ?_
        rw [List.append_nil]
        refine ⟨hsame₁, hwatch, fun _ => ?_, Or.inl ⟨true, rfl⟩⟩
        rwa [le_antisymm hcount henough] at hstable
      · refine Adds.pure ?_
        rw [List.append_nil]
        exact ⟨hsame₁, hwatch, (fun h => by cases h), Or.inl ⟨false, rfl⟩⟩
      · refine Adds.ask_bind rfl ?_ fun answer => ?_
        · rw [List.append_nil]
          exact ⟨hsame₁, hwatch, (fun h => by cases h), Or.inr Stopped.running⟩
        · have hslept : Watches s (l ++ seg ++ [⟨s₁, .sleep STABILITY_INTERVAL_S, answer⟩]) := by
            refine hwatch.append (watches_singleton hsame₁ ?_)
            rintro ⟨argv, timeout, interactive, hcall, -⟩
            cases hcall
          refine (ih count s₁ _ hsame₁ hslept (not_le.mp henough) ?_).mono fun exit s'' seg' h => ?_
          · exact Or.inr ⟨l ++ seg, _, rfl, rfl, hstable⟩
          · rwa [List.append_assoc, List.append_assoc] at h
    · rintro error s₁ seg ⟨hs₁, hseg, -, ⟨value, hvalue⟩ | hstop⟩
      · cases hvalue
      · exact ⟨hsame.trans hs₁, hl.append (hseg.same hsame), (fun h => by cases h),
          Or.inr (hstop.same hsame).raised⟩
    · rintro s₁ seg ⟨hs₁, hseg, -⟩
      exact ⟨hsame.trans hs₁, hl.append (hseg.same hsame), (fun h => by cases h),
        Or.inr Stopped.running⟩

/-- `_wait_for_stable` returns `True` only where the log ends with so many samples that hold. -/
lemma settled_waitForStable {sample : Action Bool}
    (hsample : ∀ s', Same s s' → Does sample (Sampled s' P) s') :
    Does (waitForStable sample) (Settled s (Stable P STABLE_OBSERVATIONS)) s :=
  settled_waitRounds hsample STABILITY_SAMPLE_LIMIT 0 s [] (Same.refl s) watches_nil
    (by decide) (Or.inl rfl)

end UnitreeGo2.PrivateWifi
