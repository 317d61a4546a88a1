import Mathlib.Data.List.Induction
import Mathlib.Data.List.Perm.Basic
import Mathlib.Data.List.TakeWhile
import Mathlib.Tactic.Lemma
import Mathlib.Tactic.Push
import Mathlib.Tactic.SplitIfs

/-!
# The evidence of a remote call

The daemon does not trust the result of the SDK alone.  An observer of its own sees the
request that the SDK puts on the wire and the responses to it, each in a callback, in
whatever order they are scheduled, and a call counts as made only when what was seen between
its beginning and its end agrees with what was expected.
-/

namespace UnitreeGo2.Chassis

structure RpcCallExpectation where
  apiId : Int := 0
  leaseId : Int := 0
  requirePositiveLease : Bool := true
  expectedNoreply : Bool := false
  expectedPriority : Int := 0
  expectedParameter : String := ""

structure RpcRequestEvidence where
  observed : Bool := false
  ambiguous : Bool := false
  identityId : Int := 0
  apiId : Int := 0
  leaseId : Int := 0
  noreply : Bool := false
  priority : Int := 0
  parameter : String := ""
  deriving DecidableEq

structure RpcResponseEvidence where
  observed : Bool := false
  ambiguous : Bool := false
  identityId : Int := 0
  apiId : Int := 0
  statusCode : Int := 0
  deriving DecidableEq

inductive RpcEvidenceCode where
  | ok
  | sdkCallFailed
  | invalidExpectation
  | requestMissing
  | requestIdentityInvalid
  | requestMismatch
  | requestAmbiguous
  | responseMissing
  | responseMismatch
  | responseAmbiguous
  | remoteStatusError
  deriving DecidableEq, Repr

structure RpcEvidenceResult where
  code : RpcEvidenceCode
  sdkResult : Int
  remoteStatusCode : Int
  requestIdentityId : Int
  requestApiId : Int
  requestLeaseId : Int
  requestPriority : Int
  requestObserved : Bool
  requestAmbiguous : Bool
  requestNoreply : Bool
  responseObserved : Bool
  responseAmbiguous : Bool
  responseIdentityId : Int
  responseApiId : Int
  requestParameter : String
  deriving DecidableEq

/-- The code that `ValidateRpcCallEvidence` stores in its result. -/
def evidenceCode (expected : RpcCallExpectation) (request : RpcRequestEvidence)
    (response : RpcResponseEvidence) (sdkResult : Int) : RpcEvidenceCode :=
  if sdkResult ≠ 0 then .sdkCallFailed
  else if expected.apiId ≤ 0 ∨ (expected.requirePositiveLease ∧ expected.leaseId ≤ 0) ∨
      (!expected.requirePositiveLease ∧ expected.leaseId ≠ 0) then .invalidExpectation
  else if !request.observed then .requestMissing
  else if request.ambiguous then .requestAmbiguous
  else if request.identityId ≤ 0 then .requestIdentityInvalid
  else if request.apiId ≠ expected.apiId ∨ request.leaseId ≠ expected.leaseId ∨
      request.noreply ≠ expected.expectedNoreply ∨
      request.priority ≠ expected.expectedPriority ∨
      request.parameter ≠ expected.expectedParameter then .requestMismatch
  else if response.ambiguous then .responseAmbiguous
  else if !response.observed ∧ !expected.expectedNoreply then .responseMissing
  else if response.observed ∧
      (response.identityId ≠ request.identityId ∨ response.apiId ≠ request.apiId) then
    .responseMismatch
  else if response.observed ∧ response.statusCode ≠ 0 then .remoteStatusError
  else .ok

def validateRpcCallEvidence (expected : RpcCallExpectation) (request : RpcRequestEvidence)
    (response : RpcResponseEvidence) (sdkResult : Int) : RpcEvidenceResult where
  code := evidenceCode expected request response sdkResult
  sdkResult := sdkResult
  remoteStatusCode := response.statusCode
  requestIdentityId := request.identityId
  requestApiId := request.apiId
  requestLeaseId := request.leaseId
  requestPriority := request.priority
  requestObserved := request.observed
  requestAmbiguous := request.ambiguous
  requestNoreply := request.noreply
  responseObserved := response.observed
  responseAmbiguous := response.ambiguous
  responseIdentityId := response.identityId
  responseApiId := response.apiId
  requestParameter := request.parameter

/-! ## The observer -/

/-- The fields of a request on the wire that the observer reads. -/
@[ext]
structure Request where
  identityId : Int
  apiId : Int
  leaseId : Int
  noreply : Bool
  priority : Int
  parameter : String
  deriving DecidableEq

/-- The fields of a response on the wire that the observer reads. -/
@[ext]
structure Response where
  identityId : Int
  apiId : Int
  statusCode : Int
  deriving DecidableEq

/-- The candidate of `OnRequest`. -/
def Request.evidence (r : Request) : RpcRequestEvidence where
  observed := true
  identityId := r.identityId
  apiId := r.apiId
  leaseId := r.leaseId
  noreply := r.noreply
  priority := r.priority
  parameter := r.parameter

/-- The candidate of `OnResponse`. -/
def Response.evidence (r : Response) : RpcResponseEvidence where
  observed := true
  identityId := r.identityId
  apiId := r.apiId
  statusCode := r.statusCode

structure UnitreeRpcObserver where
  active : Bool := false
  expected : RpcCallExpectation := {}
  request : RpcRequestEvidence := {}
  response : RpcResponseEvidence := {}
  pendingResponses : List RpcResponseEvidence := []

namespace UnitreeRpcObserver

def begin (expected : RpcCallExpectation) (_ : UnitreeRpcObserver) : UnitreeRpcObserver where
  active := true
  expected := expected

/-- `RecordResponse`, which only touches the evidence of the response. -/
def recordResponse (response candidate : RpcResponseEvidence) : RpcResponseEvidence :=
  if !response.observed then candidate
  else if response.identityId ≠ candidate.identityId ∨ response.apiId ≠ candidate.apiId ∨
      response.statusCode ≠ candidate.statusCode then
    { response with ambiguous := true }
  else response

/-- A response is to a request when both identity fields agree. -/
def answers (request : RpcRequestEvidence) (candidate : RpcResponseEvidence) : Bool :=
  candidate.identityId == request.identityId && candidate.apiId == request.apiId

def matchPendingResponse (o : UnitreeRpcObserver) : UnitreeRpcObserver :=
  let matched := o.pendingResponses.filter (answers o.request)
  { o with response := matched.foldl recordResponse o.response }

/-- `OnRequest`, called with a null pointer or a message. -/
def onRequest (message : Option Request) (o : UnitreeRpcObserver) : UnitreeRpcObserver :=
  match message with
  | none => o
  | some incoming =>
    if !o.active ∨ incoming.apiId ≠ o.expected.apiId then o
    else
      let candidate := incoming.evidence
      if !o.request.observed then matchPendingResponse { o with request := candidate }
      else if o.request.identityId ≠ candidate.identityId ∨ o.request.apiId ≠ candidate.apiId ∨
          o.request.leaseId ≠ candidate.leaseId ∨ o.request.noreply ≠ candidate.noreply ∨
          o.request.priority ≠ candidate.priority ∨
          o.request.parameter ≠ candidate.parameter then
        { o with request := { o.request with ambiguous := true } }
      else o

/-- The responses that are kept for a request that has not been seen. -/
def maxPendingResponses : ℕ := 16

/-- `OnResponse`, called with a null pointer or a message. -/
def onResponse (message : Option Response) (o : UnitreeRpcObserver) : UnitreeRpcObserver :=
  match message with
  | none => o
  | some incoming =>
    if !o.active ∨ incoming.apiId ≠ o.expected.apiId then o
    else
      let candidate := incoming.evidence
      if o.request.observed then
        if answers o.request candidate then
          { o with response := recordResponse o.response candidate }
        else o
      else if o.pendingResponses.length < maxPendingResponses then
        { o with pendingResponses := o.pendingResponses ++ [candidate] }
      else o

/-- The end of `Finish`, after its waits. -/
def finish (sdkResult : Int) (o : UnitreeRpcObserver) : RpcEvidenceResult × UnitreeRpcObserver :=
  (validateRpcCallEvidence o.expected o.request o.response sdkResult, { o with active := false })

/-- A message that the observer is called with. -/
inductive Message where
  | request (message : Option Request)
  | response (message : Option Response)
  deriving DecidableEq

def deliver (o : UnitreeRpcObserver) : Message → UnitreeRpcObserver
  | .request message => o.onRequest message
  | .response message => o.onResponse message

/-- The result of a call during which messages are delivered. -/
def observeCall (expected : RpcCallExpectation) (messages : List Message) (sdkResult : Int)
    (o : UnitreeRpcObserver) : RpcEvidenceResult :=
  ((messages.foldl deliver (o.begin expected)).finish sdkResult).1

end UnitreeRpcObserver

/-! ## What was observed -/

section Observed

open UnitreeRpcObserver

variable (expected : RpcCallExpectation)

/-- The requests among the messages with the expected `api_id`. -/
def requests (messages : List Message) : List Request :=
  messages.filterMap fun message =>
    match message with
    | .request (some r) => if r.apiId = expected.apiId then some r else none
    | _ => none

/-- The responses among the messages with the expected `api_id`. -/
def responses (messages : List Message) : List Response :=
  messages.filterMap fun message =>
    match message with
    | .response (some r) => if r.apiId = expected.apiId then some r else none
    | _ => none

/-- The message is not a request with the expected `api_id`. -/
def precedesRequest (message : Message) : Bool := (requests expected [message]).isEmpty

/-- The responses that came before the first request. -/
def earlyResponses (messages : List Message) : List Response :=
  responses expected (messages.takeWhile (precedesRequest expected))

/-- The responses that came after the first request. -/
def lateResponses (messages : List Message) : List Response :=
  responses expected (messages.dropWhile (precedesRequest expected))

/-- The responses that the observer keeps. -/
def keptResponses (messages : List Message) : List Response :=
  (earlyResponses expected messages).take maxPendingResponses ++ lateResponses expected messages

/-- The expectation itself is one that can be met. -/
structure ValidExpectation : Prop where
  apiId : 0 < expected.apiId
  positiveLease : expected.requirePositiveLease = true → 0 < expected.leaseId
  noLease : expected.requirePositiveLease = false → expected.leaseId = 0

/-- The evidence as a matter of sets: one request, up to repetition, that is the expected one,
and no response to it but good ones. -/
structure GoodEvidence (requests : List Request) (responses : List Response) (request : Request) :
    Prop where
  observed : request ∈ requests
  identical : ∀ r ∈ requests, r = request
  identity : 0 < request.identityId
  lease : request.leaseId = expected.leaseId
  noreply : request.noreply = expected.expectedNoreply
  priority : request.priority = expected.expectedPriority
  parameter : request.parameter = expected.expectedParameter
  accepted : ∀ r ∈ responses, r.identityId = request.identityId → r.statusCode = 0
  answered : expected.expectedNoreply = false →
    ∃ r ∈ responses, r.identityId = request.identityId

end Observed

/-! ## The evidence of a list -/

section Evidence

open UnitreeRpcObserver

/-- Two of the entries differ. -/
def Conflict {α : Type*} (l : List α) : Prop := ∃ a ∈ l, ∃ b ∈ l, a ≠ b

lemma conflict_perm {α : Type*} {l l' : List α} (h : l.Perm l') : Conflict l ↔ Conflict l' := by
  simp only [Conflict, h.mem_iff]

lemma conflict_cons {α : Type*} {a : α} {l : List α} :
    Conflict (a :: l) ↔ ∃ b ∈ l, b ≠ a := by
  constructor
  · rintro ⟨b, hb, c, hc, hne⟩
    by_cases hba : b = a
    · rw [hba] at hne
      rcases List.mem_cons.mp hc with rfl | hc
      · exact absurd rfl hne
      · exact ⟨c, hc, hne.symm⟩
    · exact ⟨b, (List.mem_cons.mp hb).resolve_left hba, hba⟩
  · rintro ⟨b, hb, hne⟩
    exact ⟨b, by simp [hb], a, by simp, hne⟩

/-- Lists without a conflict that are permutations of each other begin with the same entry. -/
lemma head_eq_of_perm {α : Type*} {a b : α} {l l' : List α} (h : (a :: l).Perm (b :: l'))
    (hno : ¬ Conflict (a :: l)) : a = b := by
  by_contra hne
  have hb : b ∈ a :: l := h.mem_iff.mpr (by simp)
  exact hno ⟨a, by simp, b, hb, hne⟩

/-- The evidence after a list of requests. -/
def requestEvidence : List Request → RpcRequestEvidence
  | [] => {}
  | r :: rs => { r.evidence with ambiguous := rs.any (· ≠ r) }

/-- The evidence after a list of responses. -/
def responseEvidence : List Response → RpcResponseEvidence
  | [] => {}
  | r :: rs => { r.evidence with ambiguous := rs.any (· ≠ r) }

lemma recordResponse_responseEvidence (l : List Response) (r : Response) :
    recordResponse (responseEvidence l) r.evidence = responseEvidence (l ++ [r]) := by
  cases l with
  | nil => rfl
  | cons a l =>
    have hsame : (a.identityId ≠ r.identityId ∨ a.apiId ≠ r.apiId ∨ a.statusCode ≠ r.statusCode) ↔
        r ≠ a := by
      rw [ne_eq r a, Response.ext_iff]
      grind
    simp only [recordResponse, responseEvidence, Response.evidence, Bool.not_true,
      Bool.false_eq_true, if_false, hsame, List.cons_append, List.any_append, List.any_cons,
      List.any_nil, Bool.or_false]
    split
    · rename_i h
      simp [h]
    · rename_i h
      simp [h]

lemma foldl_recordResponse (l l' : List Response) :
    (l'.map Response.evidence).foldl recordResponse (responseEvidence l) =
      responseEvidence (l ++ l') := by
  induction l' generalizing l with
  | nil => simp
  | cons r l' ih =>
    rw [List.map_cons, List.foldl_cons, recordResponse_responseEvidence, ih]
    simp

end Evidence

/-! ## What the observer has recorded -/

section Recorded

open UnitreeRpcObserver

variable {expected : RpcCallExpectation} {messages : List Message} {o : UnitreeRpcObserver}

lemma requests_concat (message : Message) :
    requests expected (messages ++ [message]) =
      requests expected messages ++ requests expected [message] := by
  simp [requests]

lemma responses_concat (message : Message) :
    responses expected (messages ++ [message]) =
      responses expected messages ++ responses expected [message] := by
  simp [responses]

lemma apiId_of_mem_requests {r : Request} (h : r ∈ requests expected messages) :
    r.apiId = expected.apiId := by
  simp only [requests, List.mem_filterMap] at h
  obtain ⟨message, -, h⟩ := h
  split at h
  · rw [Option.ite_none_right_eq_some, Option.some.injEq] at h
    exact h.2 ▸ h.1
  · cases h

lemma apiId_of_mem_responses {r : Response} (h : r ∈ responses expected messages) :
    r.apiId = expected.apiId := by
  simp only [responses, List.mem_filterMap] at h
  obtain ⟨message, -, h⟩ := h
  split at h
  · rw [Option.ite_none_right_eq_some, Option.some.injEq] at h
    exact h.2 ▸ h.1
  · cases h

/-- Before the first request all messages precede it. -/
lemma precedes_of_requests_eq_nil (h : requests expected messages = []) :
    ∀ message ∈ messages, precedesRequest expected message = true := by
  intro message hmessage
  rw [precedesRequest, List.isEmpty_iff]
  simp only [requests, List.filterMap_eq_nil_iff] at h ⊢
  simpa using h message hmessage

lemma exists_not_precedes (h : requests expected messages ≠ []) :
    ∃ message ∈ messages, precedesRequest expected message = false := by
  by_contra hno
  push Not at hno
  refine h (List.filterMap_eq_nil_iff.mpr fun message hmessage => ?_)
  have hprecedes := hno message hmessage
  rw [ne_eq, Bool.not_eq_false, precedesRequest, List.isEmpty_iff, requests,
    List.filterMap_eq_nil_iff] at hprecedes
  exact hprecedes message (by simp)

lemma early_late_of_nil (h : requests expected messages = []) :
    earlyResponses expected messages = responses expected messages ∧
      lateResponses expected messages = [] := by
  have hall := precedes_of_requests_eq_nil h
  rw [earlyResponses, lateResponses, List.takeWhile_eq_self_iff.mpr hall,
    List.dropWhile_eq_nil_iff.mpr hall]
  exact ⟨rfl, rfl⟩

/-- Where a list is cut does not depend on what is appended after the cut. -/
lemma takeWhile_dropWhile_concat {α : Type*} {p : α → Bool} {l : List α} (x : α)
    (h : ∃ a ∈ l, p a = false) :
    (l ++ [x]).takeWhile p = l.takeWhile p ∧ (l ++ [x]).dropWhile p = l.dropWhile p ++ [x] := by
  induction l with
  | nil =>
    obtain ⟨a, ha, -⟩ := h
    cases ha
  | cons b l ih =>
    rw [List.cons_append, List.takeWhile_cons, List.takeWhile_cons, List.dropWhile_cons,
      List.dropWhile_cons]
    split
    · rename_i hb
      have hrest : ∃ a ∈ l, p a = false := by
        obtain ⟨a, ha, hfalse⟩ := h
        rcases List.mem_cons.mp ha with rfl | ha
        · rw [hb] at hfalse
          cases hfalse
        · exact ⟨a, ha, hfalse⟩
      exact ⟨congrArg _ (ih hrest).1, (ih hrest).2⟩
    · exact ⟨rfl, rfl⟩

/-- After the first request every message comes late. -/
lemma early_late_concat (h : requests expected messages ≠ []) (message : Message) :
    earlyResponses expected (messages ++ [message]) = earlyResponses expected messages ∧
      lateResponses expected (messages ++ [message]) =
        lateResponses expected messages ++ responses expected [message] := by
  obtain ⟨htake, hdrop⟩ := takeWhile_dropWhile_concat message (exists_not_precedes h)
  rw [earlyResponses, lateResponses, htake, hdrop, responses_concat]
  exact ⟨rfl, rfl⟩

/-- The first request comes after all responses so far. -/
lemma early_late_first (h : requests expected messages = []) {message : Message}
    (hfirst : precedesRequest expected message = false) :
    earlyResponses expected (messages ++ [message]) = responses expected messages ∧
      lateResponses expected (messages ++ [message]) = responses expected [message] := by
  have hall := precedes_of_requests_eq_nil h
  rw [earlyResponses, lateResponses, List.takeWhile_append_of_pos hall,
    List.dropWhile_append_of_pos hall, List.takeWhile_cons_of_neg (by simp [hfirst]),
    List.dropWhile_cons_of_neg (by simp [hfirst]), List.append_nil]
  exact ⟨rfl, rfl⟩

/-- The kept responses to a request. -/
def answersTo (expected : RpcCallExpectation) (messages : List Message) (r : Request) :
    List Response :=
  (keptResponses expected messages).filter fun response => response.identityId == r.identityId

/-- What the observer records of the messages since the call began. -/
structure Recorded (expected : RpcCallExpectation) (messages : List Message)
    (o : UnitreeRpcObserver) : Prop where
  active : o.active = true
  expectation : o.expected = expected
  request : o.request = requestEvidence (requests expected messages)
  pending : requests expected messages = [] →
    o.pendingResponses = ((responses expected messages).take maxPendingResponses).map
      Response.evidence ∧ o.response = responseEvidence []
  response : ∀ r rs, requests expected messages = r :: rs →
    o.response = responseEvidence (answersTo expected messages r)

lemma recorded_begin (o : UnitreeRpcObserver) : Recorded expected [] (o.begin expected) where
  active := rfl
  expectation := rfl
  request := rfl
  pending _ := ⟨rfl, rfl⟩
  response r rs h := by cases h

/-- A message that is not read changes nothing. -/
lemma Recorded.ignore (h : Recorded expected messages o) {message : Message}
    (hrequests : requests expected [message] = [])
    (hresponses : responses expected [message] = []) :
    Recorded expected (messages ++ [message]) o := by
  have hrequests' : requests expected (messages ++ [message]) = requests expected messages := by
    rw [requests_concat, hrequests, List.append_nil]
  have hresponses' : responses expected (messages ++ [message]) = responses expected messages := by
    rw [responses_concat, hresponses, List.append_nil]
  refine ⟨h.active, h.expectation, hrequests' ▸ h.request, ?_, ?_⟩
  · rw [hrequests', hresponses']
    exact h.pending
  · intro r rs hrs
    rw [hrequests'] at hrs
    obtain ⟨hearly, hlate⟩ := early_late_concat (hrs ▸ List.cons_ne_nil r rs) message
    rw [h.response r rs hrs, answersTo, answersTo, keptResponses, keptResponses, hearly, hlate,
      hresponses, List.append_nil]

/-- The responses that are kept for a request, as the observer matches them. -/
lemma filter_answers {r : Request} (hr : r.apiId = expected.apiId) {l : List Response}
    (hl : ∀ response ∈ l, response.apiId = expected.apiId) :
    (l.map Response.evidence).filter (answers r.evidence) =
      (l.filter fun response => response.identityId == r.identityId).map Response.evidence := by
  rw [List.filter_map]
  refine congrArg _ (List.filter_congr fun response hresponse => ?_)
  simp [answers, Response.evidence, Request.evidence, hl response hresponse, hr]

lemma Recorded.request_step (h : Recorded expected messages o) {r : Request}
    (hr : r.apiId = expected.apiId) :
    Recorded expected (messages ++ [.request (some r)]) (o.onRequest (some r)) := by
  have hnew : requests expected [.request (some r)] = [r] := by simp [requests, hr]
  have hnone : responses expected [.request (some r)] = [] := by simp [responses]
  have hrequests : requests expected (messages ++ [.request (some r)]) =
      requests expected messages ++ [r] := by rw [requests_concat, hnew]
  have hguard : ¬ (!o.active ∨ r.apiId ≠ o.expected.apiId) := by
    rw [h.active, h.expectation]
    simp [hr]
  unfold onRequest
  simp only
  rw [if_neg hguard]
  cases hfirst : requests expected messages with
  | nil =>
    have hunseen : o.request = requestEvidence [] := h.request.trans (congrArg _ hfirst)
    obtain ⟨hpending, hresponse⟩ := h.pending hfirst
    rw [if_pos (by rw [hunseen]; rfl)]
    have hprecedes : precedesRequest expected (.request (some r)) = false := by
      rw [precedesRequest, hnew]
      rfl
    obtain ⟨hearly, hlate⟩ := early_late_first hfirst hprecedes
    have hkept : keptResponses expected (messages ++ [.request (some r)]) =
        (responses expected messages).take maxPendingResponses := by
      rw [keptResponses, hearly, hlate, hnone, List.append_nil]
    refine ⟨h.active, h.expectation, ?_, ?_, ?_⟩
    · rw [hrequests, hfirst]
      rfl
    · intro hnil
      rw [hrequests, hfirst] at hnil
      cases hnil
    · intro r' rs hrs
      rw [hrequests, hfirst] at hrs
      obtain ⟨rfl, -⟩ := List.cons.inj hrs
      have hl : ∀ response ∈ (responses expected messages).take maxPendingResponses,
          response.apiId = expected.apiId :=
        fun response hresponse => apiId_of_mem_responses (List.mem_of_mem_take hresponse)
      rw [answersTo, hkept]
      simp only [matchPendingResponse, hpending, hresponse]
      rw [filter_answers hr hl, foldl_recordResponse, List.nil_append]
  | cons r₀ rs₀ =>
    have hseen : o.request = requestEvidence (r₀ :: rs₀) := h.request.trans (congrArg _ hfirst)
    rw [if_neg (by rw [hseen]; simp [requestEvidence, Request.evidence])]
    obtain ⟨hearly, hlate⟩ :=
      early_late_concat (hfirst ▸ List.cons_ne_nil r₀ rs₀) (.request (some r))
    have hanswers : answersTo expected (messages ++ [.request (some r)]) r₀ =
        answersTo expected messages r₀ := by
      rw [answersTo, answersTo, keptResponses, keptResponses, hearly, hlate, hnone,
        List.append_nil]
    have hresponse := h.response r₀ rs₀ hfirst
    have hnotNil : requests expected (messages ++ [.request (some r)]) ≠ [] := by
      rw [hrequests, hfirst]
      simp
    have hlater : ∀ r' rs, requests expected (messages ++ [.request (some r)]) = r' :: rs →
        o.response =
          responseEvidence (answersTo expected (messages ++ [.request (some r)]) r') := by
      intro r' rs hrs
      rw [hrequests, hfirst] at hrs
      obtain ⟨rfl, -⟩ := List.cons.inj hrs
      rw [hanswers]
      exact hresponse
    have hsame : (o.request.identityId ≠ r.evidence.identityId ∨
        o.request.apiId ≠ r.evidence.apiId ∨ o.request.leaseId ≠ r.evidence.leaseId ∨
        o.request.noreply ≠ r.evidence.noreply ∨ o.request.priority ≠ r.evidence.priority ∨
        o.request.parameter ≠ r.evidence.parameter) ↔ r ≠ r₀ := by
      rw [hseen, ne_eq r r₀, Request.ext_iff]
      simp only [requestEvidence, Request.evidence]
      grind
    simp only [hsame]
    split
    · rename_i hdiffer
      refine ⟨h.active, h.expectation, ?_, fun hnil => absurd hnil hnotNil, hlater⟩
      rw [hrequests, hfirst]
      simp [hseen, requestEvidence, Request.evidence, hdiffer]
    · rename_i hequal
      refine ⟨h.active, h.expectation, ?_, fun hnil => absurd hnil hnotNil, hlater⟩
      rw [hrequests, hfirst, hseen]
      simp [requestEvidence, Request.evidence, hequal]

lemma Recorded.response_step (h : Recorded expected messages o) {r : Response}
    (hr : r.apiId = expected.apiId) :
    Recorded expected (messages ++ [.response (some r)]) (o.onResponse (some r)) := by
  have hnew : responses expected [.response (some r)] = [r] := by simp [responses, hr]
  have hnone : requests expected [.response (some r)] = [] := by simp [requests]
  have hrequests : requests expected (messages ++ [.response (some r)]) =
      requests expected messages := by rw [requests_concat, hnone, List.append_nil]
  have hguard : ¬ (!o.active ∨ r.apiId ≠ o.expected.apiId) := by
    rw [h.active, h.expectation]
    simp [hr]
  unfold onResponse
  simp only
  rw [if_neg hguard]
  cases hfirst : requests expected messages with
  | nil =>
    have hunseen : o.request = requestEvidence [] := h.request.trans (congrArg _ hfirst)
    obtain ⟨hpending, hresponse⟩ := h.pending hfirst
    have hempty : ∀ r' rs, requests expected (messages ++ [.response (some r)]) ≠ r' :: rs := by
      rw [hrequests, hfirst]
      exact fun _ _ h => by cases h
    rw [if_neg (by rw [hunseen]; simp [requestEvidence])]
    have hconcat : responses expected (messages ++ [.response (some r)]) =
        responses expected messages ++ [r] := by rw [responses_concat, hnew]
    split
    · rename_i hroom
      refine ⟨h.active, h.expectation, hrequests ▸ h.request, fun _ => ⟨?_, hresponse⟩,
        fun r' rs hrs => absurd hrs (hempty r' rs)⟩
      rw [hpending, List.length_map, List.length_take] at hroom
      have hshort : (responses expected messages).length < maxPendingResponses := by omega
      rw [hconcat, hpending, List.take_of_length_le hshort.le,
        List.take_of_length_le (by rw [List.length_append, List.length_singleton]; omega),
        List.map_append]
      rfl
    · rename_i hfull
      refine ⟨h.active, h.expectation, hrequests ▸ h.request, fun _ => ⟨?_, hresponse⟩,
        fun r' rs hrs => absurd hrs (hempty r' rs)⟩
      rw [hpending, List.length_map, List.length_take] at hfull
      have hlong : maxPendingResponses ≤ (responses expected messages).length := by omega
      rw [hconcat, hpending, List.take_append_of_le_length hlong]
  | cons r₀ rs₀ =>
    have hseen : o.request = requestEvidence (r₀ :: rs₀) := h.request.trans (congrArg _ hfirst)
    have hobserved : o.request.observed = true := by
      rw [hseen]
      rfl
    rw [if_pos hobserved]
    obtain ⟨hearly, hlate⟩ :=
      early_late_concat (hfirst ▸ List.cons_ne_nil r₀ rs₀) (.response (some r))
    have hkept : keptResponses expected (messages ++ [.response (some r)]) =
        keptResponses expected messages ++ [r] := by
      rw [keptResponses, keptResponses, hearly, hlate, hnew, List.append_assoc]
    have hnotNil : requests expected (messages ++ [.response (some r)]) ≠ [] := by
      rw [hrequests, hfirst]
      simp
    have hresponse := h.response r₀ rs₀ hfirst
    have hapi : r₀.apiId = expected.apiId :=
      apiId_of_mem_requests (hfirst ▸ List.mem_cons_self (a := r₀) (l := rs₀))
    have hanswers : answers o.request r.evidence = (r.identityId == r₀.identityId) := by
      rw [hseen]
      simp [answers, requestEvidence, Response.evidence, Request.evidence, hr, hapi]
    rw [hanswers]
    split
    · rename_i hmatch
      refine ⟨h.active, h.expectation, hrequests ▸ h.request, fun hnil => absurd hnil hnotNil, ?_⟩
      intro r' rs hrs
      rw [hrequests, hfirst] at hrs
      obtain ⟨rfl, -⟩ := List.cons.inj hrs
      have hone : [r].filter (fun response => response.identityId == r₀.identityId) = [r] := by
        simpa using hmatch
      rw [answersTo, hkept, List.filter_append, hone]
      show recordResponse o.response r.evidence = _
      rw [hresponse, recordResponse_responseEvidence]
      rfl
    · rename_i hdiffer
      refine ⟨h.active, h.expectation, hrequests ▸ h.request, fun hnil => absurd hnil hnotNil, ?_⟩
      intro r' rs hrs
      rw [hrequests, hfirst] at hrs
      obtain ⟨rfl, -⟩ := List.cons.inj hrs
      have hnone : [r].filter (fun response => response.identityId == r₀.identityId) = [] := by
        simpa using hdiffer
      rw [answersTo, hkept, List.filter_append, hnone, List.append_nil]
      exact hresponse

/-- One message of a call is recorded. -/
lemma Recorded.deliver (h : Recorded expected messages o) (message : Message) :
    Recorded expected (messages ++ [message]) (o.deliver message) := by
  cases message with
  | request message =>
    cases message with
    | none => exact h.ignore (by simp [requests]) (by simp [responses])
    | some r =>
      by_cases hr : r.apiId = expected.apiId
      · exact h.request_step hr
      · have hignored : o.deliver (.request (some r)) = o := by
          simp [UnitreeRpcObserver.deliver, onRequest, h.expectation, hr]
        rw [hignored]
        exact h.ignore (by simp [requests, hr]) (by simp [responses])
  | response message =>
    cases message with
    | none => exact h.ignore (by simp [requests]) (by simp [responses])
    | some r =>
      by_cases hr : r.apiId = expected.apiId
      · exact h.response_step hr
      · have hignored : o.deliver (.response (some r)) = o := by
          simp [UnitreeRpcObserver.deliver, onResponse, h.expectation, hr]
        rw [hignored]
        exact h.ignore (by simp [requests]) (by simp [responses, hr])

/-- **All messages of a call are recorded.** -/
theorem recorded_foldl (expected : RpcCallExpectation) (messages : List Message)
    (o : UnitreeRpcObserver) :
    Recorded expected messages (messages.foldl UnitreeRpcObserver.deliver (o.begin expected)) := by
  induction messages using List.reverseRecOn with
  | nil => exact recorded_begin o
  | append_singleton messages message ih =>
    rw [List.foldl_append, List.foldl_cons, List.foldl_nil]
    exact ih.deliver message

end Recorded

/-! ## The verdict -/

section Verdict

open UnitreeRpcObserver

variable {expected : RpcCallExpectation} {messages messages' : List Message}

/-- The code of a call without an SDK error. -/
def verdict (expected : RpcCallExpectation) (messages : List Message) (o : UnitreeRpcObserver) :
    RpcEvidenceCode :=
  (o.observeCall expected messages 0).code

/-- The responses to the first request, none as long as no request was seen. -/
def firstAnswers (expected : RpcCallExpectation) (messages : List Message) : List Response :=
  match requests expected messages with
  | [] => []
  | r :: _ => answersTo expected messages r

/-- The verdict is that of the summary of what was kept. -/
lemma verdict_eq (expected : RpcCallExpectation) (messages : List Message)
    (o : UnitreeRpcObserver) :
    verdict expected messages o =
      evidenceCode expected (requestEvidence (requests expected messages))
        (responseEvidence (firstAnswers expected messages)) 0 := by
  have h := recorded_foldl expected messages o
  have hresponse : (messages.foldl deliver (o.begin expected)).response =
      responseEvidence (firstAnswers expected messages) := by
    unfold firstAnswers
    split
    · rename_i hnil
      exact (h.pending hnil).2
    · rename_i r rs hcons
      exact h.response r rs hcons
  show evidenceCode (messages.foldl deliver (o.begin expected)).expected _ _ 0 = _
  rw [h.expectation, h.request, hresponse]

lemma ite_eq_ok_code_iff {c : Prop} [Decidable c] {code rest : RpcEvidenceCode}
    (hcode : code ≠ .ok) : (if c then code else rest) = .ok ↔ ¬ c ∧ rest = .ok := by
  split
  · rename_i hc
    exact ⟨fun h => absurd h hcode, fun h => absurd hc h.1⟩
  · rename_i hc
    exact ⟨fun h => ⟨hc, h⟩, fun h => h.2⟩

/-- When the evidence is good. -/
lemma evidenceCode_eq_ok_iff {request : RpcRequestEvidence} {response : RpcResponseEvidence} :
    evidenceCode expected request response 0 = .ok ↔
      ValidExpectation expected ∧ request.observed = true ∧ request.ambiguous = false ∧
        0 < request.identityId ∧ request.apiId = expected.apiId ∧
        request.leaseId = expected.leaseId ∧ request.noreply = expected.expectedNoreply ∧
        request.priority = expected.expectedPriority ∧
        request.parameter = expected.expectedParameter ∧ response.ambiguous = false ∧
        (expected.expectedNoreply = false → response.observed = true) ∧
        (response.observed = true → response.identityId = request.identityId ∧
          response.apiId = request.apiId ∧ response.statusCode = 0) := by
  have hvalid : ¬ (expected.apiId ≤ 0 ∨ (expected.requirePositiveLease ∧ expected.leaseId ≤ 0) ∨
      (!expected.requirePositiveLease ∧ expected.leaseId ≠ 0)) ↔ ValidExpectation expected := by
    constructor
    · intro h
      simp only [not_or, not_and, Int.not_le, Bool.not_eq_true', not_not] at h
      exact ⟨h.1, h.2.1, h.2.2⟩
    · rintro ⟨hapi, hpositive, hzero⟩
      simp only [not_or, not_and, Int.not_le, Bool.not_eq_true', not_not]
      exact ⟨hapi, hpositive, hzero⟩
  unfold evidenceCode
  rw [if_neg (by simp), ite_eq_ok_code_iff (by decide), ite_eq_ok_code_iff (by decide),
    ite_eq_ok_code_iff (by decide), ite_eq_ok_code_iff (by decide),
    ite_eq_ok_code_iff (by decide), ite_eq_ok_code_iff (by decide),
    ite_eq_ok_code_iff (by decide), ite_eq_ok_code_iff (by decide),
    ite_eq_ok_code_iff (by decide), hvalid]
  simp only [Bool.not_eq_true', Bool.not_eq_true, Bool.not_eq_false, Int.not_le, not_or, not_not,
    not_and, ne_eq, and_true]
  grind

lemma conflict_iff_any {α : Type*} [DecidableEq α] {a : α} {l : List α} :
    l.any (fun b => decide (b ≠ a)) = true ↔ Conflict (a :: l) := by
  rw [conflict_cons]
  simp

/-- The answers to the first request are good exactly when the kept responses are. -/
lemma answersTo_good {r : Request} (hr : r.apiId = expected.apiId) :
    ((responseEvidence (answersTo expected messages r)).ambiguous = false ∧
      (expected.expectedNoreply = false →
        (responseEvidence (answersTo expected messages r)).observed = true) ∧
      ((responseEvidence (answersTo expected messages r)).observed = true →
        (responseEvidence (answersTo expected messages r)).identityId = r.identityId ∧
        (responseEvidence (answersTo expected messages r)).apiId = r.apiId ∧
        (responseEvidence (answersTo expected messages r)).statusCode = 0)) ↔
      (∀ s ∈ keptResponses expected messages, s.identityId = r.identityId → s.statusCode = 0) ∧
        (expected.expectedNoreply = false →
          ∃ s ∈ keptResponses expected messages, s.identityId = r.identityId) := by
  have hmem : ∀ s, s ∈ answersTo expected messages r ↔
      s ∈ keptResponses expected messages ∧ s.identityId = r.identityId := by
    intro s
    simp [answersTo]
  have hapi : ∀ s ∈ keptResponses expected messages, s.apiId = expected.apiId := by
    intro s hs
    rcases List.mem_append.mp hs with hs | hs
    · exact apiId_of_mem_responses (List.mem_of_mem_take hs)
    · exact apiId_of_mem_responses hs
  have hall : (∀ s ∈ keptResponses expected messages, s.identityId = r.identityId →
      s.statusCode = 0) ↔ ∀ s ∈ answersTo expected messages r, s.statusCode = 0 := by
    exact ⟨fun h s hs => h s ((hmem s).mp hs).1 ((hmem s).mp hs).2,
      fun h s hs hid => h s ((hmem s).mpr ⟨hs, hid⟩)⟩
  have hsome : (∃ s ∈ keptResponses expected messages, s.identityId = r.identityId) ↔
      answersTo expected messages r ≠ [] := by
    constructor
    · rintro ⟨s, hs⟩ hnil
      exact List.not_mem_nil (hnil ▸ (hmem s).mpr hs)
    · intro hne
      obtain ⟨s, hs⟩ := List.exists_mem_of_ne_nil _ hne
      exact ⟨s, (hmem s).mp hs⟩
  rw [hall, hsome]
  generalize hl : answersTo expected messages r = l at hmem
  cases l with
  | nil =>
    simp [responseEvidence]
  | cons a l =>
    have ha := (hmem a).mp (by simp)
    have hconflict : (l.any fun b => decide (b ≠ a)) = false ↔ ∀ b ∈ l, b = a := by simp
    simp only [responseEvidence, Response.evidence, hconflict, ha.2, hapi a ha.1, hr, true_and,
      forall_const, implies_true, ne_eq, reduceCtorEq, not_false_eq_true, and_true,
      List.forall_mem_cons]
    constructor
    · rintro ⟨hsame, hzero⟩
      exact ⟨hzero, fun b hb => (hsame b hb).symm ▸ hzero⟩
    · rintro ⟨hzero, hrest⟩
      refine ⟨fun b hb => ?_, hzero⟩
      have hb' := (hmem b).mp (by simp [hb])
      rw [Response.ext_iff]
      exact ⟨hb'.2.trans ha.2.symm, (hapi b hb'.1).trans (hapi a ha.1).symm,
        (hrest b hb).trans hzero.symm⟩

/-- **The verdict as a matter of sets**, of all responses that the observer kept. -/
theorem verdict_eq_ok_iff_kept (expected : RpcCallExpectation) (messages : List Message)
    (o : UnitreeRpcObserver) :
    verdict expected messages o = .ok ↔ ValidExpectation expected ∧ ∃ request,
      GoodEvidence expected (requests expected messages) (keptResponses expected messages)
        request := by
  rw [verdict_eq, evidenceCode_eq_ok_iff]
  unfold firstAnswers
  split
  · rename_i hnil
    rw [hnil]
    constructor
    · rintro ⟨-, hobserved, -⟩
      cases hobserved
    · rintro ⟨-, request, hevidence⟩
      cases hevidence.observed
  · rename_i r rs hcons
    have hr : r.apiId = expected.apiId :=
      apiId_of_mem_requests (show r ∈ requests expected messages by rw [hcons]; simp)
    have hany : (rs.any fun b => decide (b ≠ r)) = false ↔ ∀ b ∈ rs, b = r := by simp
    rw [hcons]
    constructor
    · rintro ⟨hvalid, -, hambiguous, hidentity, -, hlease, hnoreply, hpriority, hparameter,
        hresponse⟩
      obtain ⟨haccepted, hanswered⟩ := (answersTo_good hr).mp hresponse
      refine ⟨hvalid, r, by simp, ?_, hidentity, hlease, hnoreply, hpriority, hparameter,
        haccepted, hanswered⟩
      simpa using hany.mp hambiguous
    · rintro ⟨hvalid, request, hobserved, hidentical, hidentity, hlease, hnoreply, hpriority,
        hparameter, haccepted, hanswered⟩
      obtain rfl : r = request := hidentical r (by simp)
      exact ⟨hvalid, rfl, hany.mpr fun b hb => hidentical b (by simp [hb]), hidentity, hr, hlease,
        hnoreply, hpriority, hparameter, (answersTo_good hr).mpr ⟨haccepted, hanswered⟩⟩

/-- As long as few enough responses come early, all are kept. -/
lemma keptResponses_eq
    (h : (earlyResponses expected messages).length ≤ maxPendingResponses) :
    keptResponses expected messages = responses expected messages := by
  rw [keptResponses, List.take_of_length_le h, earlyResponses, lateResponses, responses, responses,
    responses, ← List.filterMap_append, List.takeWhile_append_dropWhile]

lemma requestEvidence_perm {l l' : List Request} (h : l.Perm l') :
    requestEvidence l = requestEvidence l' ∧ l.head? = l'.head? ∨
      ((requestEvidence l).observed = true ∧ (requestEvidence l).ambiguous = true) ∧
        (requestEvidence l').observed = true ∧ (requestEvidence l').ambiguous = true := by
  cases l with
  | nil =>
    rw [h.nil_eq]
    exact Or.inl ⟨rfl, rfl⟩
  | cons a l =>
    cases l' with
    | nil => exact absurd h.eq_nil (List.cons_ne_nil a l)
    | cons b l' =>
      by_cases hconflict : Conflict (a :: l)
      · have hconflict' := (conflict_perm h).mp hconflict
        exact Or.inr ⟨⟨rfl, conflict_iff_any.mpr hconflict⟩, rfl, conflict_iff_any.mpr hconflict'⟩
      · have hconflict' : ¬ Conflict (b :: l') := fun hb => hconflict ((conflict_perm h).mpr hb)
        obtain rfl : a = b := head_eq_of_perm h hconflict
        rw [← conflict_iff_any, Bool.not_eq_true] at hconflict hconflict'
        simp only [requestEvidence, hconflict, hconflict', List.head?_cons, and_self, true_or]

lemma responseEvidence_perm {l l' : List Response} (h : l.Perm l') :
    responseEvidence l = responseEvidence l' ∨
      (responseEvidence l).ambiguous = true ∧ (responseEvidence l').ambiguous = true := by
  cases l with
  | nil =>
    rw [h.nil_eq]
    exact Or.inl rfl
  | cons a l =>
    cases l' with
    | nil => exact absurd h.eq_nil (List.cons_ne_nil a l)
    | cons b l' =>
      by_cases hconflict : Conflict (a :: l)
      · have hconflict' := (conflict_perm h).mp hconflict
        exact Or.inr ⟨conflict_iff_any.mpr hconflict, conflict_iff_any.mpr hconflict'⟩
      · have hconflict' : ¬ Conflict (b :: l') := fun hb => hconflict ((conflict_perm h).mpr hb)
        obtain rfl : a = b := head_eq_of_perm h hconflict
        rw [← conflict_iff_any, Bool.not_eq_true] at hconflict hconflict'
        simp only [responseEvidence, hconflict, hconflict', true_or]

/-- Once the request is ambiguous nothing else about it, and no response, matters. -/
lemma evidenceCode_ambiguous_request {request request' : RpcRequestEvidence}
    {response response' : RpcResponseEvidence}
    (h : request.observed = true ∧ request.ambiguous = true)
    (h' : request'.observed = true ∧ request'.ambiguous = true) :
    evidenceCode expected request response 0 = evidenceCode expected request' response' 0 := by
  simp only [evidenceCode, h.1, h.2, h'.1, h'.2, Bool.not_true, Bool.false_eq_true, if_false,
    if_true]

lemma evidenceCode_ambiguous_response {request : RpcRequestEvidence}
    {response response' : RpcResponseEvidence} (h : response.ambiguous = true)
    (h' : response'.ambiguous = true) :
    evidenceCode expected request response 0 = evidenceCode expected request response' 0 := by
  simp only [evidenceCode, h, h', if_true]

/-- **The verdict does not depend on the order of the messages** as long as none is dropped. -/
theorem verdict_perm (expected : RpcCallExpectation) (o o' : UnitreeRpcObserver)
    (h : messages.Perm messages')
    (hearly : (earlyResponses expected messages).length ≤ maxPendingResponses)
    (hearly' : (earlyResponses expected messages').length ≤ maxPendingResponses) :
    verdict expected messages o = verdict expected messages' o' := by
  rw [verdict_eq, verdict_eq]
  have hrequests : (requests expected messages).Perm (requests expected messages') :=
    h.filterMap _
  have hkept : (keptResponses expected messages).Perm (keptResponses expected messages') := by
    rw [keptResponses_eq hearly, keptResponses_eq hearly']
    exact h.filterMap _
  rcases requestEvidence_perm hrequests with ⟨heq, hhead⟩ | ⟨hambiguous, hambiguous'⟩
  · have hanswers : (firstAnswers expected messages).Perm (firstAnswers expected messages') := by
      unfold firstAnswers
      cases hcons : requests expected messages with
      | nil =>
        rw [hcons, List.head?_nil, eq_comm, List.head?_eq_none_iff] at hhead
        rw [hhead]
      | cons r rs =>
        rw [hcons, List.head?_cons, eq_comm, List.head?_eq_some_iff] at hhead
        obtain ⟨rs', hcons'⟩ := hhead
        rw [hcons']
        exact hkept.filter _
    rw [heq]
    rcases responseEvidence_perm hanswers with hsame | ⟨hconflict, hconflict'⟩
    · rw [hsame]
    · exact evidenceCode_ambiguous_response hconflict hconflict'
  · exact evidenceCode_ambiguous_request hambiguous hambiguous'

/-- What the verdict says of the messages of a call. -/
structure EvidenceVerdict : Prop where
  /-- The verdict is good when the kept responses are. -/
  kept : ∀ expected messages (o : UnitreeRpcObserver),
    (o.observeCall expected messages 0).code = .ok ↔ ValidExpectation expected ∧ ∃ request,
      GoodEvidence expected (requests expected messages) (keptResponses expected messages) request
  /-- With no more early responses than are kept, all responses count. -/
  complete : ∀ expected messages (o : UnitreeRpcObserver),
    (earlyResponses expected messages).length ≤ maxPendingResponses →
    ((o.observeCall expected messages 0).code = .ok ↔ ValidExpectation expected ∧ ∃ request,
      GoodEvidence expected (requests expected messages) (responses expected messages) request)
  /-- The order of the messages does not matter then. -/
  permuted : ∀ expected messages messages' (o o' : UnitreeRpcObserver), messages.Perm messages' →
    (earlyResponses expected messages).length ≤ maxPendingResponses →
    (earlyResponses expected messages').length ≤ maxPendingResponses →
    (o.observeCall expected messages 0).code = (o'.observeCall expected messages' 0).code

/-- **The evidence of a call is a matter of sets** as long as the observer drops no response. -/
theorem evidenceVerdict : EvidenceVerdict where
  kept := verdict_eq_ok_iff_kept
  complete expected messages o h := by
    rw [← keptResponses_eq h]
    exact verdict_eq_ok_iff_kept expected messages o
  permuted expected messages messages' o o' h hearly hearly' :=
    verdict_perm expected o o' h hearly hearly'

/-! ## The bound on the early responses -/

/-- A request to stop, as the daemon makes it. -/
def stopRequest : Request where
  identityId := 7
  apiId := 1003
  leaseId := 5
  noreply := false
  priority := 0
  parameter := "{}"

def stopExpectation : RpcCallExpectation where
  apiId := 1003
  leaseId := 5
  expectedParameter := "{}"

/-- The observer keeps sixteen early responses, and a seventeenth that rejects the request is not
seen. -/
def crowdedMessages : List Message :=
  List.replicate 16 (.response (some ⟨7, 1003, 0⟩)) ++
    [.response (some ⟨7, 1003, -1⟩), .request (some stopRequest)]

/-- A response that rejects the request is hidden by sixteen that came before it, and seen when
it comes after the request. -/
theorem not_evidence_crowded :
    ¬ ∀ expected messages (o : UnitreeRpcObserver),
      (o.observeCall expected messages 0).code = .ok ↔ ∃ request, GoodEvidence expected
        (requests expected messages) (responses expected messages) request := by
  intro h
  obtain ⟨request, hevidence⟩ := (h stopExpectation crowdedMessages {}).mp (by decide +kernel)
  have hrequest : stopRequest = request := hevidence.identical stopRequest (by decide +kernel)
  have hrejected : (⟨7, 1003, -1⟩ : Response) ∈ responses stopExpectation crowdedMessages := by
    decide +kernel
  have hzero := hevidence.accepted _ hrejected (by rw [← hrequest]; rfl)
  exact absurd hzero (by decide)

end Verdict

end UnitreeGo2.Chassis
