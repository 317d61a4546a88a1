import UnitreeGo2.Lib.Machine
import Mathlib.Logic.Function.Basic

/-!
# One-time motion permits

A permit is consumed by renaming its file to a name that no other consumption uses.  The check
that the name is free and the rename are two steps on a directory that other consumers and the
issuers share, so that the consumption is one-time exactly as long as nothing appears at either
name in between, and nobody opens what a consumption has left behind.
-/

namespace UnitreeGo2.Chassis

/-! ## The directory and its consumers -/

/-- A permit file: its `permit_id`, and the rest of its JSON object. -/
structure Permit where
  permitId : String
  payload : String
  deriving DecidableEq, Repr

/-- The four functions that consume a permit. -/
inductive ConsumerKind where
  | stagedNav2
  | stagedNav2Goal
  | firstMotion
  | secondMotion
  deriving DecidableEq, Repr

/-- Where a consumer stands, with the permit that it has read. -/
inductive ConsumerStage where
  | reading
  | validating (permit : Permit)
  | checking (permit : Permit)
  | renaming (permit : Permit)
  /-- It returned the consumed name, to which it renamed `file`. -/
  | consumed (permit file : Permit)
  | failed (error : String)
  deriving DecidableEq, Repr

structure Consumer where
  kind : ConsumerKind
  path : String
  stage : ConsumerStage := .reading
  deriving DecidableEq, Repr

/-- `permit_path.with_name(f"{permit_path.name}.consumed-{permit_id}")`. -/
def consumedName (path permitId : String) : String := path ++ ".consumed-" ++ permitId

structure PermitStore where
  directory : String → Option Permit := fun _ => none
  consumers : List Consumer := []
  /-- Every permit that was ever issued. -/
  issued : List Permit := []

inductive PermitEvent where
  /-- An issuer creates a file exclusively, with an identifier that was not used before. -/
  | issue (name : String) (permit : Permit)
  | start (kind : ConsumerKind) (path : String)
  | read (index : ℕ)
  /-- `validate_permit`, and what it raises. -/
  | validate (index : ℕ) (error : Option String)
  | check (index : ℕ)
  | rename (index : ℕ)
  /-- The consumer stops before it has renamed its permit. -/
  | abort (index : ℕ) (error : String)
  deriving DecidableEq, Repr

namespace PermitStore

def advance (s : PermitStore) (index : ℕ) (c : Consumer) (stage : ConsumerStage) : PermitStore :=
  { s with consumers := s.consumers.set index { c with stage := stage } }

def start (s : PermitStore) (kind : ConsumerKind) (path : String) : PermitStore :=
  { s with consumers := s.consumers ++ [{ kind := kind, path := path }] }

/-- `os.rename`, which replaces what stands at the new name. -/
def move (s : PermitStore) (path target : String) (file : Permit) : PermitStore :=
  { s with
    directory := Function.update (Function.update s.directory path none) target (some file) }

def issue (s : PermitStore) (name : String) (permit : Permit) : PermitStore :=
  if s.directory name = none ∧ ∀ other ∈ s.issued, other.permitId ≠ permit.permitId then
    { s with
      directory := Function.update s.directory name (some permit)
      issued := permit :: s.issued }
  else s

/-- The next step of a consumer, as far as it is the one that the event names. -/
def consumerStep (s : PermitStore) (index : ℕ) (c : Consumer) (event : PermitEvent) : PermitStore :=
  match event, c.stage with
  | .read _, .reading =>
    match s.directory c.path with
    | none => s.advance index c (.failed ("required file does not exist: " ++ c.path))
    | some permit => s.advance index c (.validating permit)
  | .validate _ none, .validating permit => s.advance index c (.checking permit)
  | .validate _ (some error), .validating _ => s.advance index c (.failed error)
  | .check _, .checking permit =>
    s.advance index c
      (if s.directory (consumedName c.path permit.permitId) ≠ none then
        .failed "permit was already consumed"
      else .renaming permit)
  | .rename _, .renaming permit =>
    match s.directory c.path with
    | none => s.advance index c (.failed "permit was consumed concurrently")
    | some file =>
      (s.move c.path (consumedName c.path permit.permitId) file).advance index c
        (.consumed permit file)
  | .abort _ error, .reading | .abort _ error, .validating _ | .abort _ error, .checking _
  | .abort _ error, .renaming _ => s.advance index c (.failed error)
  | _, _ => s

end PermitStore

/-- The consumer that an event is a step of. -/
def PermitEvent.index? : PermitEvent → Option ℕ
  | .issue _ _ | .start _ _ => none
  | .read index | .validate index _ | .check index | .rename index | .abort index _ => some index

/-- Issuers and consumers over one directory, in any order. -/
def permitMachine : Machine PermitStore PermitEvent Unit where
  step s event :=
    ((), match event with
      | .issue name permit => s.issue name permit
      | .start kind path => s.start kind path
      | event =>
        match event.index?.bind fun index => s.consumers[index]?.map fun c => (index, c) with
        | none => s
        | some (index, c) => s.consumerStep index c event)

/-! ## One-time consumption -/

/-- The permit that a consumer is about to rename. -/
def ConsumerStage.pending? : ConsumerStage → Option Permit
  | .renaming permit => some permit
  | _ => none

/-- The permit that a consumer has consumed. -/
def ConsumerStage.consumed? : ConsumerStage → Option Permit
  | .consumed permit _ => some permit
  | _ => none

/-- What holds of a history and of the state after it. -/
structure OneTime (tr : List (Machine.Step PermitStore PermitEvent Unit)) (s : PermitStore) :
    Prop where
  /-- A permit authorizes one consumption. -/
  once : ∀ (i j : ℕ) (a b : Consumer), s.consumers[i]? = some a → s.consumers[j]? = some b →
    ∀ P ∈ a.stage.consumed?, ∀ Q ∈ b.stage.consumed?, P.permitId = Q.permitId → i = j
  /-- A consumer has renamed the permit that it validated. -/
  same : ∀ c ∈ s.consumers, ∀ permit file, c.stage = .consumed permit file → file = permit
  /-- No permit is lost. -/
  kept : ∀ permit ∈ s.issued, ∃ name, s.directory name = some permit
  /-- No permit is overwritten. -/
  free : ∀ x ∈ tr, ∀ i c permit, x.event = .rename i → x.pre.consumers[i]? = some c →
    c.stage = .renaming permit → x.pre.directory c.path ≠ none →
    x.pre.directory (consumedName c.path permit.permitId) = none

/-- A step that leaves the names of the consumers alone that are between their check and their
rename, except for another consumption from the same path, and that opens nothing that a
consumption has left behind. -/
def Undisturbed (s : PermitStore) : PermitEvent → Prop
  | .issue name _ => ∀ c ∈ s.consumers, ∀ P ∈ c.stage.pending?,
    name ≠ c.path ∧ name ≠ consumedName c.path P.permitId
  | .read i => ∀ c ∈ s.consumers[i]?, ∀ d ∈ s.consumers, ∀ P ∈ d.stage.consumed?,
    c.path ≠ consumedName d.path P.permitId
  | .rename i => ∀ c ∈ s.consumers[i]?, ∀ P ∈ c.stage.pending?, ∀ d ∈ s.consumers,
    ∀ Q ∈ d.stage.pending?, d.path ≠ c.path →
      consumedName c.path P.permitId ≠ d.path ∧
        consumedName c.path P.permitId ≠ consumedName d.path Q.permitId
  | _ => True

instance (s : PermitStore) (event : PermitEvent) : Decidable (Undisturbed s event) := by
  unfold Undisturbed
  split <;> infer_instance

/-! ## The invariant -/

/-- No consumer has consumed the permit. -/
def PermitStore.Unconsumed (s : PermitStore) (permitId : String) : Prop :=
  ∀ (j : ℕ) (d : Consumer), s.consumers[j]? = some d → ∀ P ∈ d.stage.consumed?,
    P.permitId ≠ permitId

/-- The permit that a consumer has read and not renamed yet. -/
def ConsumerStage.held? : ConsumerStage → Option Permit
  | .validating permit | .checking permit => some permit
  | _ => none

structure PermitInv (s : PermitStore) : Prop where
  unique : ∀ a b P Q, s.directory a = some P → s.directory b = some Q →
    P.permitId = Q.permitId → a = b
  issued : ∀ a P, s.directory a = some P → P ∈ s.issued
  kept : ∀ P ∈ s.issued, ∃ a, s.directory a = some P
  left : ∀ (j : ℕ) (d : Consumer) P f, s.consumers[j]? = some d → d.stage = .consumed P f →
    f = P ∧ s.directory (consumedName d.path P.permitId) = some P
  once : ∀ (i j : ℕ) (a b : Consumer), s.consumers[i]? = some a → s.consumers[j]? = some b →
    ∀ P ∈ a.stage.consumed?, ∀ Q ∈ b.stage.consumed?, P.permitId = Q.permitId → i = j
  /-- What a consumer holds is where it read it, or was consumed from there. -/
  held : ∀ (j : ℕ) (d : Consumer), s.consumers[j]? = some d → ∀ P ∈ d.stage.held?,
    (s.directory d.path = some P ∧ s.Unconsumed P.permitId) ∨
      ∃ (k : ℕ) (e : Consumer), s.consumers[k]? = some e ∧ e.stage = .consumed P P ∧ e.path = d.path
  /-- A consumer that has made its check finds its permit and the free name, or nothing. -/
  armed : ∀ (j : ℕ) (d : Consumer), s.consumers[j]? = some d → ∀ P ∈ d.stage.pending?,
    (s.directory d.path = some P ∧ s.Unconsumed P.permitId ∧
      s.directory (consumedName d.path P.permitId) = none) ∨ s.directory d.path = none

section Invariant

variable {s : PermitStore} {index : ℕ} {c : Consumer} {stage : ConsumerStage}

lemma consumedName_ne (path permitId : String) : consumedName path permitId ≠ path := by
  intro h
  have hlength := congrArg String.length h
  rw [consumedName, String.length_append, String.length_append] at hlength
  have hinfix : ".consumed-".length = 10 := by decide
  omega

/-- The consumers after a step of one of them. -/
lemma getElem?_advance (hc : s.consumers[index]? = some c) {j : ℕ} {d : Consumer}
    (hd : (s.advance index c stage).consumers[j]? = some d) :
    (j = index ∧ d = { c with stage := stage }) ∨ (j ≠ index ∧ s.consumers[j]? = some d) := by
  by_cases hj : j = index
  · subst hj
    have hset : (s.advance j c stage).consumers[j]? = some { c with stage := stage } :=
      List.getElem?_set_self (List.getElem?_eq_some_iff.mp hc).1
    exact Or.inl ⟨rfl, Option.some.inj (hd.symm.trans hset)⟩
  · refine Or.inr ⟨hj, ?_⟩
    rwa [PermitStore.advance, List.getElem?_set_ne (Ne.symm hj)] at hd

lemma getElem?_advance_of_ne {j : ℕ} (hj : j ≠ index) :
    (s.advance index c stage).consumers[j]? = s.consumers[j]? :=
  List.getElem?_set_ne (Ne.symm hj)

lemma ConsumerStage.consumed?_eq_some {P : Permit} (h : P ∈ stage.consumed?) :
    ∃ file, stage = .consumed P file := by
  cases stage with
  | consumed permit file => exact ⟨file, by rw [Option.some.inj h]⟩
  | _ => cases h

/-- A consumer goes on without a consumption. -/
lemma PermitInv.advance (h : PermitInv s) (hc : s.consumers[index]? = some c)
    (hold : c.stage.consumed? = none) (hnew : stage.consumed? = none)
    (hheld : ∀ P ∈ stage.held?, (s.directory c.path = some P ∧ s.Unconsumed P.permitId) ∨
      ∃ (k : ℕ) (e : Consumer),
        s.consumers[k]? = some e ∧ e.stage = .consumed P P ∧ e.path = c.path)
    (harmed : ∀ P ∈ stage.pending?, (s.directory c.path = some P ∧ s.Unconsumed P.permitId ∧
      s.directory (consumedName c.path P.permitId) = none) ∨ s.directory c.path = none) :
    PermitInv (s.advance index c stage) := by
  have hstays : ∀ (k : ℕ) (e : Consumer) (P : Permit), s.consumers[k]? = some e →
      e.stage = .consumed P P → (s.advance index c stage).consumers[k]? = some e := by
    intro k e P he hstage
    rw [getElem?_advance_of_ne, he]
    rintro rfl
    obtain rfl : e = c := Option.some.inj (he.symm.trans hc)
    rw [hstage] at hold
    cases hold
  have hconsumed : ∀ (j : ℕ) (d : Consumer) (P : Permit),
      (s.advance index c stage).consumers[j]? = some d → P ∈ d.stage.consumed? →
      s.consumers[j]? = some d := by
    intro j d P hd hP
    rcases getElem?_advance hc hd with ⟨-, rfl⟩ | ⟨-, hd⟩
    · rw [hnew] at hP
      cases hP
    · exact hd
  have hunconsumed : ∀ permitId, s.Unconsumed permitId →
      (s.advance index c stage).Unconsumed permitId :=
    fun permitId hun j d hd P hP => hun j d (hconsumed j d P hd hP) P hP
  have hlift : ∀ (d : Consumer) (P : Permit), ((s.directory d.path = some P ∧
      s.Unconsumed P.permitId) ∨ ∃ (k : ℕ) (e : Consumer), s.consumers[k]? = some e ∧
        e.stage = .consumed P P ∧ e.path = d.path) →
      (s.directory d.path = some P ∧ (s.advance index c stage).Unconsumed P.permitId) ∨
        ∃ (k : ℕ) (e : Consumer), (s.advance index c stage).consumers[k]? = some e ∧
          e.stage = .consumed P P ∧ e.path = d.path := by
    rintro d P (⟨hdir, hun⟩ | ⟨k, e, he, hstage, hpath⟩)
    · exact Or.inl ⟨hdir, hunconsumed _ hun⟩
    · exact Or.inr ⟨k, e, hstays k e P he hstage, hstage, hpath⟩
  refine ⟨h.unique, h.issued, h.kept, ?_, ?_, ?_, ?_⟩
  · intro j d P f hd hstage
    exact h.left j d P f (hconsumed j d P hd (by rw [hstage]; rfl)) hstage
  · intro i j a b ha hb P hP Q hQ
    exact h.once i j a b (hconsumed i a P ha hP) (hconsumed j b Q hb hQ) P hP Q hQ
  · intro j d hd P hP
    rcases getElem?_advance hc hd with ⟨-, rfl⟩ | ⟨-, hd⟩
    · exact hlift _ P (hheld P hP)
    · exact hlift d P (h.held j d hd P hP)
  · intro j d hd P hP
    rcases getElem?_advance hc hd with ⟨-, rfl⟩ | ⟨-, hd⟩
    · exact (harmed P hP).imp_left fun ⟨hdir, hun, hfree⟩ => ⟨hdir, hunconsumed _ hun, hfree⟩
    · exact (h.armed j d hd P hP).imp_left fun ⟨hdir, hun, hfree⟩ =>
        ⟨hdir, hunconsumed _ hun, hfree⟩

/-- A consumer fails. -/
lemma PermitInv.fail (h : PermitInv s) (hc : s.consumers[index]? = some c)
    (hold : c.stage.consumed? = none) (error : String) :
    PermitInv (s.advance index c (.failed error)) :=
  h.advance hc hold rfl (fun _ hP => by cases hP) fun _ hP => by cases hP

/-- What a consumption has left behind, nobody else has read. -/
lemma PermitInv.unconsumed_of_read (h : PermitInv s) {path : String} {P : Permit}
    (hdir : s.directory path = some P)
    (hpath : ∀ d ∈ s.consumers, ∀ Q ∈ d.stage.consumed?, path ≠ consumedName d.path Q.permitId) :
    s.Unconsumed P.permitId := by
  intro j d hd Q hQ heq
  obtain ⟨file, hstage⟩ := ConsumerStage.consumed?_eq_some hQ
  obtain ⟨-, hleft⟩ := h.left j d Q file hd hstage
  exact hpath d (List.mem_of_getElem? hd) Q hQ (h.unique _ _ P Q hdir hleft heq.symm)

/-- A fresh permit is created at a free name. -/
lemma PermitInv.issue (h : PermitInv s) {name : String} {permit : Permit}
    (hok : Undisturbed s (.issue name permit)) : PermitInv (s.issue name permit) := by
  unfold PermitStore.issue
  split
  swap
  · exact h
  rename_i hissue
  obtain ⟨hfree, hfresh⟩ := hissue
  have hother : ∀ {a P}, s.directory a = some P →
      Function.update s.directory name (some permit) a = some P := by
    intro a P ha
    rw [Function.update_of_ne _ _ _, ha]
    rintro rfl
    rw [hfree] at ha
    cases ha
  have hback : ∀ {a P}, Function.update s.directory name (some permit) a = some P →
      (a = name ∧ P = permit) ∨ s.directory a = some P := by
    intro a P ha
    by_cases hname : a = name
    · subst hname
      rw [Function.update_self] at ha
      exact Or.inl ⟨rfl, (Option.some.inj ha).symm⟩
    · rw [Function.update_of_ne hname] at ha
      exact Or.inr ha
  refine ⟨?_, ?_, ?_, ?_, h.once, ?_, ?_⟩
  · intro a b P Q ha hb hid
    rcases hback ha with ⟨rfl, rfl⟩ | hold <;> rcases hback hb with ⟨rfl, rfl⟩ | hold'
    · rfl
    · exact absurd hid.symm (hfresh Q (h.issued b Q hold'))
    · exact absurd hid (hfresh P (h.issued a P hold))
    · exact h.unique a b P Q hold hold' hid
  · intro a P ha
    rcases hback ha with ⟨-, rfl⟩ | ha
    · exact List.mem_cons_self
    · exact List.mem_cons_of_mem _ (h.issued a P ha)
  · intro P hP
    rcases List.mem_cons.mp hP with rfl | hP
    · exact ⟨name, Function.update_self _ _ _⟩
    · obtain ⟨a, ha⟩ := h.kept P hP
      exact ⟨a, hother ha⟩
  · intro j d P f hd hstage
    obtain ⟨hfile, hleft⟩ := h.left j d P f hd hstage
    exact ⟨hfile, hother hleft⟩
  · intro j d hd P hP
    exact (h.held j d hd P hP).imp_left fun ⟨hdir, hun⟩ => ⟨hother hdir, hun⟩
  · intro j d hd P hP
    obtain ⟨hpath, htarget⟩ := hok d (List.mem_of_getElem? hd) P hP
    rcases h.armed j d hd P hP with ⟨hdir, hun, htargetFree⟩ | hgone
    · exact Or.inl ⟨hother hdir, hun,
        (Function.update_of_ne (Ne.symm htarget) _ _).trans htargetFree⟩
    · exact Or.inr ((Function.update_of_ne (Ne.symm hpath) _ _).trans hgone)

lemma move_directory (s : PermitStore) (path target : String) (file : Permit) (a : String) :
    (s.move path target file).directory a =
      if a = target then some file else if a = path then none else s.directory a := by
  rw [PermitStore.move]
  simp only [Function.update_apply]

/-- A consumer that renames has made its check, and finds what it has read. -/
lemma PermitInv.of_renaming (h : PermitInv s) (hc : s.consumers[index]? = some c)
    {permit file : Permit} (hstage : c.stage = .renaming permit)
    (hfile : s.directory c.path = some file) :
    file = permit ∧ s.Unconsumed permit.permitId ∧
      s.directory (consumedName c.path permit.permitId) = none := by
  rcases h.armed index c hc permit (by rw [hstage]; rfl) with ⟨hdir, hun, hfree⟩ | hgone
  · exact ⟨Option.some.inj (hfile.symm.trans hdir), hun, hfree⟩
  · rw [hgone] at hfile
    cases hfile

/-- An undisturbed consumer renames the permit that it validated to a free name. -/
lemma PermitInv.rename (h : PermitInv s) (hc : s.consumers[index]? = some c) {permit : Permit}
    (hstage : c.stage = .renaming permit) (hdir : s.directory c.path = some permit)
    (hun : s.Unconsumed permit.permitId)
    (hfree : s.directory (consumedName c.path permit.permitId) = none)
    (hok : Undisturbed s (.rename index)) :
    PermitInv ((s.move c.path (consumedName c.path permit.permitId) permit).advance index c
      (.consumed permit permit)) := by
  have hne : consumedName c.path permit.permitId ≠ c.path := consumedName_ne _ _
  generalize htarget : consumedName c.path permit.permitId = target at hfree hne ⊢
  have hmoved : (s.move c.path target permit).directory target = some permit := by
    rw [move_directory, if_pos rfl]
  have hgone : (s.move c.path target permit).directory c.path = none := by
    rw [move_directory, if_neg hne.symm, if_pos rfl]
  have hother : ∀ {a}, a ≠ target → a ≠ c.path →
      (s.move c.path target permit).directory a = s.directory a := by
    intro a hat hap
    rw [move_directory, if_neg hat, if_neg hap]
  have hback : ∀ {a P}, (s.move c.path target permit).directory a = some P →
      (a = target ∧ P = permit) ∨ (a ≠ target ∧ a ≠ c.path ∧ s.directory a = some P) := by
    intro a P ha
    rw [move_directory] at ha
    split at ha
    · exact Or.inl ⟨‹_›, (Option.some.inj ha).symm⟩
    · split at ha
      · cases ha
      · exact Or.inr ⟨‹_›, ‹_›, ha⟩
  -- A permit at any other name is another permit.
  have hdiffers : ∀ {a P}, a ≠ c.path → s.directory a = some P →
      permit.permitId ≠ P.permitId := fun hap ha hid =>
    hap (h.unique _ _ _ _ hdir ha hid).symm
  have hc' : (s.move c.path target permit).consumers[index]? = some c := hc
  have hunconsumed : ∀ {P : Permit}, permit.permitId ≠ P.permitId → s.Unconsumed P.permitId →
      ((s.move c.path target permit).advance index c (.consumed permit permit)).Unconsumed
        P.permitId := by
    intro P hdiff hunP j d hd Q hQ
    rcases getElem?_advance hc' hd with ⟨-, rfl⟩ | ⟨-, hd⟩
    · rw [← Option.some.inj hQ]
      exact hdiff
    · exact hunP j d hd Q hQ
  have hstays : ∀ (k : ℕ) (e : Consumer) (P : Permit), s.consumers[k]? = some e →
      e.stage = .consumed P P → ((s.move c.path target permit).advance index c
        (.consumed permit permit)).consumers[k]? = some e := by
    intro k e P he hconsumed
    rw [getElem?_advance_of_ne]
    · exact he
    · rintro rfl
      obtain rfl : e = c := Option.some.inj (he.symm.trans hc)
      rw [hconsumed] at hstage
      cases hstage
  refine ⟨?_, ?_, ?_, ?_, ?_, ?_, ?_⟩
  · intro a b P Q ha hb hid
    rcases hback ha with ⟨rfl, rfl⟩ | ⟨-, hap, hold⟩ <;>
      rcases hback hb with ⟨rfl, rfl⟩ | ⟨-, hbp, hold'⟩
    · rfl
    · exact absurd hid (hdiffers hbp hold')
    · exact absurd hid.symm (hdiffers hap hold)
    · exact h.unique a b P Q hold hold' hid
  · intro a P ha
    rcases hback ha with ⟨-, rfl⟩ | ⟨-, -, hold⟩
    · exact h.issued _ _ hdir
    · exact h.issued a P hold
  · intro P hP
    obtain ⟨a, ha⟩ := h.kept P hP
    by_cases hap : a = c.path
    · subst hap
      exact ⟨target, hmoved.trans (hdir.symm.trans ha)⟩
    · refine ⟨a, (hother ?_ hap).trans ha⟩
      rintro rfl
      rw [hfree] at ha
      cases ha
  · intro j d P f hd hconsumed
    rcases getElem?_advance hc' hd with ⟨-, rfl⟩ | ⟨-, hd⟩
    · obtain ⟨rfl, rfl⟩ := ConsumerStage.consumed.inj hconsumed
      exact ⟨rfl, by rw [htarget]; exact hmoved⟩
    · obtain ⟨hfile, hleft⟩ := h.left j d P f hd hconsumed
      refine ⟨hfile, (hother ?_ ?_).trans hleft⟩
      · intro heq
        rw [heq, hfree] at hleft
        cases hleft
      · intro heq
        rw [heq, hdir] at hleft
        refine hun j d hd P ?_ (congrArg Permit.permitId (Option.some.inj hleft)).symm
        rw [hconsumed]
        rfl
  · intro i j a b ha hb P hP Q hQ hid
    rcases getElem?_advance hc' ha with ⟨hi, rfl⟩ | ⟨-, hold⟩ <;>
      rcases getElem?_advance hc' hb with ⟨hj, rfl⟩ | ⟨-, hold'⟩
    · exact hi.trans hj.symm
    · rw [← Option.some.inj hP] at hid
      exact absurd hid.symm (hun j b hold' Q hQ)
    · rw [← Option.some.inj hQ] at hid
      exact absurd hid (hun i a hold P hP)
    · exact h.once i j a b hold hold' P hP Q hQ hid
  · intro j d hd P hP
    rcases getElem?_advance hc' hd with ⟨-, rfl⟩ | ⟨-, hd⟩
    · cases hP
    rcases h.held j d hd P hP with ⟨hheld, hunP⟩ | ⟨k, e, he, hconsumed, hpath⟩
    · by_cases hap : d.path = c.path
      · rw [hap, hdir] at hheld
        obtain rfl := Option.some.inj hheld
        refine Or.inr ⟨index, { c with stage := .consumed permit permit }, ?_, rfl, hap.symm⟩
        exact List.getElem?_set_self (List.getElem?_eq_some_iff.mp hc).1
      · refine Or.inl ⟨(hother ?_ hap).trans hheld, hunconsumed (hdiffers hap hheld) hunP⟩
        intro heq
        rw [heq, hfree] at hheld
        cases hheld
    · exact Or.inr ⟨k, e, hstays k e P he hconsumed, hconsumed, hpath⟩
  · intro j d hd P hP
    rcases getElem?_advance hc' hd with ⟨-, rfl⟩ | ⟨-, hd⟩
    · cases hP
    by_cases hap : d.path = c.path
    · rw [hap]
      exact Or.inr hgone
    obtain ⟨htd, htt⟩ := hok c hc permit (by rw [hstage]; rfl) d (List.mem_of_getElem? hd) P hP hap
    rw [htarget] at htd htt
    rcases h.armed j d hd P hP with ⟨hheld, hunP, hfreeP⟩ | hnone
    · refine Or.inl ⟨(hother htd.symm hap).trans hheld, hunconsumed (hdiffers hap hheld) hunP, ?_⟩
      show (s.move c.path target permit).directory _ = none
      rw [move_directory, if_neg htt.symm]
      split
      · rfl
      · exact hfreeP
    · exact Or.inr ((hother htd.symm hap).trans hnone)

lemma PermitInv.start (h : PermitInv s) (kind : ConsumerKind) (path : String) :
    PermitInv (s.start kind path) := by
  have hback : ∀ {j : ℕ} {d : Consumer}, (s.start kind path).consumers[j]? = some d →
      s.consumers[j]? = some d ∨ d.stage = .reading := by
    intro j d hd
    rw [PermitStore.start] at hd
    by_cases hlt : j < s.consumers.length
    · rw [List.getElem?_append_left hlt] at hd
      exact Or.inl hd
    · rw [List.getElem?_append_right (Nat.le_of_not_lt hlt)] at hd
      rw [List.mem_singleton.mp (List.mem_of_getElem? hd)]
      exact Or.inr rfl
  have hconsumed : ∀ {j : ℕ} {d : Consumer} {P : Permit},
      (s.start kind path).consumers[j]? = some d → P ∈ d.stage.consumed? →
      s.consumers[j]? = some d := by
    intro j d P hd hP
    rcases hback hd with hd | hstage
    · exact hd
    · rw [hstage] at hP
      cases hP
  have hunconsumed : ∀ {permitId}, s.Unconsumed permitId →
      (s.start kind path).Unconsumed permitId :=
    fun hun j d hd P hP => hun j d (hconsumed hd hP) P hP
  refine ⟨h.unique, h.issued, h.kept, ?_, ?_, ?_, ?_⟩
  · intro j d P f hd hstage
    exact h.left j d P f (hconsumed (P := P) hd (by rw [hstage]; rfl)) hstage
  · intro i j a b ha hb P hP Q hQ
    exact h.once i j a b (hconsumed ha hP) (hconsumed hb hQ) P hP Q hQ
  · intro j d hd P hP
    rcases hback hd with hold | hstage
    · rcases h.held j d hold P hP with ⟨hdir, hun⟩ | ⟨k, e, he, hstage, hpath⟩
      · exact Or.inl ⟨hdir, hunconsumed hun⟩
      · refine Or.inr ⟨k, e, ?_, hstage, hpath⟩
        rw [PermitStore.start, List.getElem?_append_left (List.getElem?_eq_some_iff.mp he).1, he]
    · rw [hstage] at hP
      cases hP
  · intro j d hd P hP
    rcases hback hd with hold | hstage
    · exact (h.armed j d hold P hP).imp_left fun ⟨hdir, hun, hfree⟩ =>
        ⟨hdir, hunconsumed hun, hfree⟩
    · rw [hstage] at hP
      cases hP

/-- A step of a consumer. -/
lemma PermitInv.consumerStep (h : PermitInv s) (hc : s.consumers[index]? = some c)
    {event : PermitEvent} (hevent : event.index? = some index) (hok : Undisturbed s event) :
    PermitInv (s.consumerStep index c event) := by
  unfold PermitStore.consumerStep
  split
  · rename_i i hstage
    cases hevent
    split
    · exact h.fail hc (by rw [hstage]; rfl) _
    · rename_i permit hdir
      refine h.advance hc (by rw [hstage]; rfl) rfl (fun P hP => ?_) fun _ hP => by cases hP
      rw [← Option.some.inj hP]
      exact Or.inl ⟨hdir, h.unconsumed_of_read hdir (hok c hc)⟩
  · rename_i i permit hstage
    refine h.advance hc (by rw [hstage]; rfl) rfl (fun P hP => ?_) fun _ hP => by cases hP
    rw [← Option.some.inj hP]
    exact h.held index c hc permit (by rw [hstage]; rfl)
  · rename_i hstage
    exact h.fail hc (by rw [hstage]; rfl) _
  · rename_i i permit hstage
    split
    · exact h.fail hc (by rw [hstage]; rfl) _
    · rename_i hfree
      refine h.advance hc (by rw [hstage]; rfl) rfl (fun _ hP => by cases hP) fun P hP => ?_
      rw [← Option.some.inj hP]
      rw [ne_eq, not_not] at hfree
      rcases h.held index c hc permit (by rw [hstage]; rfl) with
        ⟨hdir, hun⟩ | ⟨k, e, he, hconsumed, hpath⟩
      · exact Or.inl ⟨hdir, hun, hfree⟩
      · obtain ⟨-, hleft⟩ := h.left k e permit permit he hconsumed
        rw [hpath, hfree] at hleft
        cases hleft
  · rename_i i permit hstage
    cases hevent
    split
    · exact h.fail hc (by rw [hstage]; rfl) _
    · rename_i file hfile
      obtain ⟨rfl, hun, hfree⟩ := h.of_renaming hc hstage hfile
      exact h.rename hc hstage hfile hun hfree hok
  · rename_i hstage
    exact h.fail hc (by rw [hstage]; rfl) _
  · rename_i hstage
    exact h.fail hc (by rw [hstage]; rfl) _
  · rename_i hstage
    exact h.fail hc (by rw [hstage]; rfl) _
  · rename_i hstage
    exact h.fail hc (by rw [hstage]; rfl) _
  · exact h

/-- **Undisturbed steps keep the invariant.** -/
theorem PermitInv.step (h : PermitInv s) (event : PermitEvent) (hok : Undisturbed s event) :
    PermitInv (permitMachine.step s event).2 := by
  have hconsumer : ∀ event : PermitEvent, Undisturbed s event →
      PermitInv (match event.index?.bind fun index =>
          s.consumers[index]?.map fun c => (index, c) with
        | none => s
        | some (index, c) => s.consumerStep index c event) := by
    intro event hok
    split
    · exact h
    · rename_i index c hfound
      obtain ⟨i, hi, hc⟩ := Option.bind_eq_some_iff.mp hfound
      obtain ⟨c', hc', heq⟩ := Option.map_eq_some_iff.mp hc
      cases heq
      exact h.consumerStep hc' hi hok
  cases event with
  | issue name permit => exact h.issue hok
  | start kind path => exact h.start kind path
  | read index => exact hconsumer (.read index) hok
  | validate index error => exact hconsumer (.validate index error) hok
  | check index => exact hconsumer (.check index) hok
  | rename index => exact hconsumer (.rename index) hok
  | abort index error => exact hconsumer (.abort index error) hok

lemma permitInv_init : PermitInv {} := by
  have hnone : ∀ (j : ℕ) (d : Consumer), ([] : List Consumer)[j]? ≠ some d := by
    intro j d h
    rw [List.getElem?_nil] at h
    cases h
  have hempty : ∀ (a : String) (P : Permit), ({} : PermitStore).directory a ≠ some P := by
    intro a P h
    cases h
  exact ⟨fun a _ P _ h => absurd h (hempty a P), fun a P h => absurd h (hempty a P),
    fun _ h => absurd h List.not_mem_nil, fun j d _ _ h => absurd h (hnone j d),
    fun i _ a _ h => absurd h (hnone i a), fun j d h => absurd h (hnone j d),
    fun j d h => absurd h (hnone j d)⟩

end Invariant

/-- **In every run that nothing disturbs, motion permits are one-time.** -/
theorem oneTime_of_undisturbed (events : List PermitEvent)
    (hok : ∀ x ∈ permitMachine.trace {} events, Undisturbed x.pre x.event) :
    OneTime (permitMachine.trace {} events) (permitMachine.final {} events) := by
  have hinv := permitMachine.guarded_induction (s := {})
    (C := fun _ x => Undisturbed x.pre x.event)
    (motive := fun tr s => PermitInv s ∧ ∀ x ∈ tr, PermitInv x.pre) ⟨permitInv_init, by simp⟩
    (fun tr s event hok h => ⟨h.1.step event hok, fun x hx => by
      rcases List.mem_append.mp hx with hx | hx
      · exact h.2 x hx
      · rw [List.mem_singleton.mp hx]
        exact h.1⟩) events
    fun l x r htr => hok x (by rw [htr]; simp)
  obtain ⟨hfinal, hpre⟩ := hinv
  refine ⟨hfinal.once, ?_, hfinal.kept, ?_⟩
  · intro c hc permit file hstage
    obtain ⟨j, hj⟩ := List.mem_iff_getElem?.mp hc
    exact (hfinal.left j c permit file hj hstage).1
  · intro x hx i c permit _ hc hstage hdir
    obtain ⟨file, hfile⟩ := Option.ne_none_iff_exists'.mp hdir
    exact ((hpre x hx).of_renaming hc hstage hfile).2.2

/-- Two consumers race for one permit, and one of them is late. -/
theorem oneTime_race :
    OneTime
      (permitMachine.trace {} [.issue "permit.json" ⟨"permit-0001", ""⟩,
        .start .stagedNav2 "permit.json", .start .stagedNav2 "permit.json", .read 0, .read 1,
        .validate 0 none, .validate 1 none, .check 0, .check 1, .rename 1, .rename 0])
      (permitMachine.final {} [.issue "permit.json" ⟨"permit-0001", ""⟩,
        .start .stagedNav2 "permit.json", .start .stagedNav2 "permit.json", .read 0, .read 1,
        .validate 0 none, .validate 1 none, .check 0, .check 1, .rename 1, .rename 0]) :=
  oneTime_of_undisturbed _ (by decide +kernel)

/-- The late consumer of a race finds a new permit at its path. -/
def reissueRace : List PermitEvent :=
  [.issue "permit.json" ⟨"permit-0001", ""⟩, .start .stagedNav2 "permit.json",
    .start .stagedNav2 "permit.json", .read 0, .read 1, .validate 0 none, .validate 1 none,
    .check 0, .check 1, .rename 1, .issue "permit.json" ⟨"permit-0002", ""⟩, .rename 0]

/-- It consumes the first permit again, and replaces it by the second. -/
theorem not_oneTime_reissueRace :
    ¬ OneTime (permitMachine.trace {} reissueRace) (permitMachine.final {} reissueRace) := by
  intro h
  have hfirst : (permitMachine.final {} reissueRace).consumers[0]? = some
      ⟨.stagedNav2, "permit.json", .consumed ⟨"permit-0001", ""⟩ ⟨"permit-0002", ""⟩⟩ := by
    decide +kernel
  have hsecond : (permitMachine.final {} reissueRace).consumers[1]? = some
      ⟨.stagedNav2, "permit.json", .consumed ⟨"permit-0001", ""⟩ ⟨"permit-0001", ""⟩⟩ := by
    decide +kernel
  exact absurd (h.once 0 1 _ _ hfirst hsecond _ rfl _ rfl rfl) (by decide)

end UnitreeGo2.Chassis
