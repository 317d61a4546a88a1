import UnitreeGo2.PrivateWifi.CommandRuns

/-!
# What the checks leave alone

A check runs commands of some kind only, and whatever it finds, it leaves the state of the tool
as it was.  The checks before and during the private network run queries.
-/

namespace UnitreeGo2.PrivateWifi

open Script (ask get modify raise tryCatch ensure loop Adds)

variable {α β : Type} {s s' : Workflow}

/-! ## Parts that make calls of one kind -/

/-- The call is not of a command, or of one of the kind. -/
def Within (A : List String → Prop) (call : Call) : Prop :=
  ∀ argv timeout interactive, call = .run argv timeout interactive → A argv

/-- The tool is left as it was, and every command is of the kind. -/
def Leaves (A : List String → Prop) (x : Action α) : Prop :=
  ∀ s, Does x (fun _ s' seg => Same s s' ∧ ∀ y ∈ seg, Same s y.pre ∧ Within A y.call) s

variable {A : List String → Prop}

lemma Leaves.pure (value : α) : Leaves A (pure value : Action α) :=
  fun s => Adds.pure ⟨Same.refl s, fun y hy => by cases hy⟩

lemma Leaves.raise (error : Raised) : Leaves A (raise error : Action α) :=
  fun s => Adds.raise ⟨Same.refl s, fun y hy => by cases hy⟩

lemma Leaves.ite {c : Prop} [Decidable c] {x x' : Action α} (hx : Leaves A x)
    (hx' : Leaves A x') : Leaves A (if c then x else x') := by
  split_ifs
  · exact hx
  · exact hx'

lemma Leaves.bind {x : Action α} {f : α → Action β} (hx : Leaves A x)
    (hf : ∀ value, Leaves A (f value)) : Leaves A (x >>= f) := by
  intro s
  refine Adds.bind (hx s) ?_ (fun _ _ _ h => h) fun _ _ h => h
  rintro value s' seg ⟨hsame, hseg⟩
  refine (hf value s').mono ?_
  rintro exit s'' seg' ⟨hsame', hseg'⟩
  refine ⟨hsame.trans hsame', fun y hy => ?_⟩
  rcases List.mem_append.mp hy with hy | hy
  · exact hseg y hy
  · exact ⟨hsame.trans (hseg' y hy).1, (hseg' y hy).2⟩

lemma Leaves.ask_bind {call : Call} {f : Answer → Action β} (hvisible : call.visible = true)
    (hcall : Within A call) (hf : ∀ answer, Leaves A (f answer)) :
    Leaves A (Script.ask call >>= f) := by
  intro s
  refine Adds.ask_bind hvisible ⟨Same.refl s, fun y hy => by cases hy⟩ fun answer => ?_
  refine (hf answer s).mono ?_
  rintro exit s' seg ⟨hsame, hseg⟩
  refine ⟨hsame, fun y hy => ?_⟩
  rcases List.mem_cons.mp hy with rfl | hy
  · exact ⟨Same.refl s, hcall⟩
  · exact hseg y hy

lemma Leaves.signals : Leaves A raiseIfPending := by
  intro s
  refine (does_raiseIfPending s).mono ?_
  rintro exit s' seg ⟨hsame, rfl, -⟩
  exact ⟨hsame, fun y hy => by cases hy⟩

lemma Asks.leaves {argv : List String} {timeout : ℚ} {interactive : Bool}
    {judge : CommandResult → Except Raised α} {x : Action α}
    (h : Asks argv timeout interactive judge x) (hargv : A argv) : Leaves A x := by
  intro s
  refine (h s).mono ?_
  rintro exit s' seg ⟨hsame, ⟨rfl, -⟩ | ⟨y, rfl, hy, hcall, -⟩⟩
  · exact ⟨hsame, fun y hy => by cases hy⟩
  · refine ⟨hsame, fun z hz => ?_⟩
    rw [List.mem_singleton.mp hz]
    refine ⟨hy, fun argv' timeout' interactive' hcall' => ?_⟩
    cases hcall.symm.trans hcall'
    exact hargv

lemma Leaves.mono {A' : List String → Prop} {x : Action α} (h : Leaves A x)
    (hA : ∀ argv, A argv → A' argv) : Leaves A' x := by
  intro s
  refine (h s).mono ?_
  rintro exit s' seg ⟨hsame, hseg⟩
  exact ⟨hsame, fun y hy => ⟨(hseg y hy).1, fun argv timeout interactive hcall =>
    hA argv ((hseg y hy).2 argv timeout interactive hcall)⟩⟩

lemma Leaves.loop {body : α → Action (α ⊕ β)} (h : ∀ value, Leaves A (body value))
    (start : α) : Leaves A (loop body start) := by
  intro s
  let I (s' : Workflow) (seg : List LogStep) : Prop :=
    Same s s' ∧ ∀ y ∈ seg, Same s y.pre ∧ Within A y.call
  refine Adds.loop (fun _ => I) ?_ (fun _ _ _ h => h) ⟨Same.refl s, fun y hy => by cases hy⟩
  rintro value s' seg ⟨hsame, hseg⟩
  refine (h value s').mono ?_
  rintro exit s'' seg' ⟨hsame', hseg'⟩
  have hI : I s'' (seg ++ seg') := by
    refine ⟨hsame.trans hsame', fun y hy => ?_⟩
    rcases List.mem_append.mp hy with hy | hy
    · exact hseg y hy
    · exact ⟨hsame.trans (hseg' y hy).1, (hseg' y hy).2⟩
  exact ⟨fun _ _ => hI, fun _ _ => hI, fun _ _ => hI, fun _ => hI⟩

lemma Leaves.check (result : Except Raised Unit) : Leaves A (check result) := by
  cases result with
  | error error => exact Leaves.raise error
  | ok value => exact Leaves.pure ()

lemma Leaves.requireState : Leaves A requireState := by
  intro s
  refine Adds.get_bind ?_
  cases s.state with
  | none => exact Leaves.raise _ s
  | some state => exact Leaves.pure _ s

/-- The parts that run queries only. -/
abbrev Inspects (x : Action α) : Prop := Leaves (fun argv => ¬ ChangesLinks argv) x

lemma inspects_nmcli {option : String} {argv : List String} (operation : String)
    (hwait : option ≠ "--wait" := by decide) (hask : option ≠ "--ask" := by decide) :
    Inspects (run ("nmcli" :: option :: argv) operation QUERY_TIMEOUT_S) :=
  (asks_runCommand _ operation _ false).leaves (not_changesLinks_nmcli hwait hask)

lemma inspects_program {program : String} {argv : List String} (operation : String) (timeout : ℚ)
    (hprogram : program ≠ "nmcli" := by decide) :
    Inspects (run (program :: argv) operation timeout) :=
  (asks_runCommand _ operation _ false).leaves (not_changesLinks hprogram)

/-! ## Interfaces and profiles -/

variable (lib : Library)

lemma inspects_path {call : Call} {f : Answer → Action β} (hcall : ∀ argv timeout interactive,
    call ≠ .run argv timeout interactive) (hvisible : call.visible = true)
    (hf : ∀ answer, Inspects (f answer)) : Inspects (ask call >>= f) :=
  Leaves.ask_bind hvisible (fun argv timeout interactive h =>
    absurd h (hcall argv timeout interactive)) hf

lemma inspects_interfaceKind (interface : String) : Inspects (interfaceKind interface) := by
  refine inspects_path (fun _ _ _ h => by cases h) rfl fun answer => ?_
  cases answer.resolved with
  | none => exact Leaves.pure _
  | some resolved =>
    refine Leaves.ite (Leaves.pure _) ?_
    exact inspects_path (fun _ _ _ h => by cases h) rfl fun wireless => Leaves.pure _

lemma inspects_interfaceIsLocalBridge (interface : String) :
    Inspects (interfaceIsLocalBridge interface) := by
  refine (inspects_interfaceKind interface).bind fun kind => Leaves.ite ?_ (Leaves.pure _)
  exact inspects_path (fun _ _ _ h => by cases h) rfl fun bridge => Leaves.pure _

lemma inspects_validateInterfaces : Inspects validateInterfaces := by
  refine (inspects_interfaceKind _).bind fun wifiKind => Leaves.ite (Leaves.raise _) ?_
  refine (inspects_interfaceKind _).bind fun wiredKind => ?_
  exact Leaves.ite (Leaves.raise _) (Leaves.pure _)

lemma inspects_nmValue (field uuid operation : String) :
    Inspects (nmValue lib field uuid operation) :=
  (asks_nmValue lib field uuid operation).leaves
    (not_changesLinks_nmcli (by decide) (by decide))

lemma inspects_activeUuid (interface operation : String) :
    Inspects (activeUuid lib interface operation) :=
  (asks_activeUuid lib interface operation).leaves (not_changes_activeUuidArgv interface)

lemma inspects_allIpv4Addresses : Inspects (allIpv4Addresses lib) :=
  (asks_allIpv4Addresses lib).leaves not_changes_addressesArgv

lemma inspects_connectionUuids : Inspects (connectionUuids lib) := by
  refine (inspects_nmcli _).bind fun output => ?_
  exact Leaves.ite (Leaves.raise _) (Leaves.pure _)

lemma inspects_targetMatches (uuids : List String) : Inspects (targetMatches lib uuids) := by
  induction uuids with
  | nil => exact Leaves.pure _
  | cons uuid uuids ih =>
    refine (inspects_nmValue lib _ _ _).bind fun connectionType => ?_
    refine Leaves.ite ih ((inspects_nmValue lib _ _ _).bind fun ssid => ?_)
    exact ih.bind fun found => Leaves.pure _

lemma inspects_findTargetUuid : Inspects (findTargetUuid lib) := by
  refine (inspects_connectionUuids lib).bind fun uuids => ?_
  refine (inspects_targetMatches lib uuids).bind fun found => ?_
  split
  · exact Leaves.pure _
  · exact Leaves.raise _

lemma inspects_requireProfileValues (uuid label : String) (expected : List (String × String)) :
    Inspects (requireProfileValues lib uuid label expected) := by
  induction expected with
  | nil => exact Leaves.pure _
  | cons item expected ih =>
    obtain ⟨field, wanted⟩ := item
    exact (inspects_nmValue lib _ _ _).bind fun actual => Leaves.ite (Leaves.raise _) ih

lemma inspects_validateTargetProfile (uuid : String) :
    Inspects (validateTargetProfile lib uuid) := by
  refine (inspects_requireProfileValues lib _ _ _).bind fun _ => ?_
  refine (inspects_nmValue lib _ _ _).bind fun pskFlags => ?_
  exact Leaves.ite (Leaves.pure _) (Leaves.raise _)

lemma inspects_validateWiredProfile (uuid : String) : Inspects (validateWiredProfile lib uuid) :=
  inspects_requireProfileValues lib _ _ _

/-! ## Routes -/

lemma inspects_allRoutes (family : ℕ) : Inspects (allRoutes lib family) := by
  refine (inspects_program _ _).bind fun output => ?_
  split
  · exact Leaves.raise _
  · exact Leaves.pure _

lemma inspects_validatePolicyRules (family : ℕ) : Inspects (validatePolicyRules lib family) :=
  (inspects_program _ _).bind fun _ => Leaves.check _

lemma inspects_optionalDocker0LinkLocalIp : Inspects (optionalDocker0LinkLocalIp lib) := by
  refine (inspects_interfaceKind _).bind fun kind => Leaves.ite (Leaves.pure _) ?_
  refine (inspects_interfaceIsLocalBridge _).bind fun virtual => ?_
  have hbridge : Inspects (do
      let answer ← ask (.isDir (interfacePath "docker0" ++ "/bridge"))
      return answer.holds) :=
    inspects_path (fun _ _ _ h => by cases h) rfl fun answer => Leaves.pure _
  refine Leaves.ite (hbridge.bind fun bridge => ?_) ((Leaves.pure false).bind fun bridge => ?_)
  all_goals
    refine Leaves.ite (Leaves.raise _) ((inspects_program _ _).bind fun output => ?_)
    split
    · exact Leaves.pure _
    · refine Leaves.ite (Leaves.raise _) ?_
      split
      · exact Leaves.raise _
      · exact Leaves.ite (Leaves.raise _) (Leaves.pure _)
    · exact Leaves.raise _

lemma inspects_allowedIpv6RouteKey (route : RouteRecord) (docker0LinkLocalIp : Option ℕ) :
    Inspects (allowedIpv6RouteKey lib route docker0LinkLocalIp) := by
  refine Leaves.ite (Leaves.pure _) (Leaves.ite (Leaves.pure _) ?_)
  cases docker0LinkLocalIp with
  | none => exact Leaves.pure _
  | some ip =>
    refine Leaves.ite (Leaves.pure _) ((inspects_interfaceIsLocalBridge _).bind fun virtual => ?_)
    refine Leaves.ite (Leaves.pure _) (inspects_path (fun _ _ _ h => by cases h) rfl ?_)
    intro bridge
    refine Leaves.ite (Leaves.pure _) (Leaves.ite (Leaves.pure _) ?_)
    exact Leaves.ite (Leaves.pure _) (Leaves.ite (Leaves.pure _) (Leaves.pure _))

lemma inspects_isolateRoute (docker0LinkLocalIp : Option ℕ) (family : ℕ) (route : RouteRecord)
    (counts : RouteCounts) :
    Inspects (isolateRoute lib docker0LinkLocalIp family route counts) := by
  refine Leaves.ite (Leaves.raise _) (Leaves.ite (Leaves.raise _) ?_)
  refine Leaves.ite (Leaves.raise _) (Leaves.ite ?_ ?_)
  -- a route of IPv6
  · refine (inspects_allowedIpv6RouteKey lib _ _).bind fun key => ?_
    cases key with
    | none => exact Leaves.raise _
    | some key => exact Leaves.ite (Leaves.raise _) (Leaves.pure _)
  refine Leaves.ite (Leaves.raise _) (Leaves.ite (Leaves.raise _) (Leaves.ite ?_ ?_))
  -- a route of the wireless interface
  · refine Leaves.ite (Leaves.pure _) (Leaves.ite (Leaves.pure _) ?_)
    exact Leaves.ite (Leaves.pure _) (Leaves.raise _)
  -- a route of another interface
  refine Leaves.ite (Leaves.raise _) (Leaves.ite (Leaves.ite (Leaves.raise _) ?_) (Leaves.pure _))
  cases route.interface with
  | none => exact Leaves.raise _
  | some interface =>
    refine (inspects_interfaceIsLocalBridge _).bind fun bridge => ?_
    exact Leaves.ite (Leaves.raise _) (Leaves.ite (Leaves.pure _) (Leaves.raise _))

lemma inspects_isolateRoutes (docker0LinkLocalIp : Option ℕ) (family : ℕ)
    (routes : List RouteRecord) (counts : RouteCounts) :
    Inspects (isolateRoutes lib docker0LinkLocalIp family routes counts) := by
  induction routes generalizing counts with
  | nil => exact Leaves.pure _
  | cons route routes ih =>
    exact (inspects_isolateRoute lib _ _ _ _).bind fun counts => ih counts

lemma inspects_validateRouteIsolation : Inspects (validateRouteIsolation lib) := by
  refine (inspects_optionalDocker0LinkLocalIp lib).bind fun docker0LinkLocalIp => ?_
  refine (inspects_validatePolicyRules lib 4).bind fun _ => ?_
  refine (inspects_allRoutes lib 4).bind fun routes4 => ?_
  refine (inspects_isolateRoutes lib _ _ _ _).bind fun counts4 => ?_
  refine (inspects_validatePolicyRules lib 6).bind fun _ => ?_
  refine (inspects_allRoutes lib 6).bind fun routes6 => ?_
  refine (inspects_isolateRoutes lib _ _ _ _).bind fun counts6 => ?_
  refine Leaves.ite (Leaves.raise _) (Leaves.ite (Leaves.raise _) ?_)
  exact Leaves.ite (Leaves.raise _) (Leaves.pure _)

/-! ## The private network -/

lemma inspects_validatePrivateState : Inspects (validatePrivateState lib) := by
  refine Leaves.requireState.bind fun state => ?_
  refine (inspects_activeUuid lib _ _).bind fun uuid => ?_
  refine Leaves.ite (Leaves.raise _) ?_
  refine (inspects_allIpv4Addresses lib).bind fun records => ?_
  refine (Leaves.check _).bind fun _ => ?_
  refine Leaves.ite (Leaves.raise _) ?_
  refine (inspects_validateRouteIsolation lib).bind fun _ => ?_
  refine (inspects_nmcli _).bind fun dns => ?_
  exact Leaves.ite (Leaves.raise _) (Leaves.pure _)

lemma inspects_pingHosts (addresses : List String) : Inspects (pingHosts addresses) := by
  induction addresses with
  | nil => exact Leaves.pure _
  | cons address addresses ih => exact (inspects_program _ _).bind fun _ => ih

lemma inspects_validatePrivateRuntime : Inspects (validatePrivateRuntime lib) :=
  (inspects_validatePrivateState lib).bind fun _ => inspects_pingHosts _

end UnitreeGo2.PrivateWifi
