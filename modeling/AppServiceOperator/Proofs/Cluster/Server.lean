import AppServiceOperator.Proofs.Cluster.Address
import AppServiceOperator.Simulation.Server
/-!
# A server of objects by their paths

A server keeps one object for each path and answers requests about them (`PathStore.Serves`). It may
refuse any request; a refusal that says whether there is an object, as `ClientError.tells?` reads it,
says so truly. What the client makes of an answer depends on the object that it holds or on the failure
that it reports (`Client.objectOf_of_holds`, `Client.objectOf_of_refuses`), and what a server may answer
to the requests of the operator is `PathStore.serves_post`, `PathStore.serves_get` and
`PathStore.serves_patch`.
-/
namespace AppServiceOperator

open Simulation (Server)

/-! ## Answers -/

namespace Response

/-- The answer is a success, with the object. -/
def Holds (r : Response) (j : Json) : Prop :=
  ∃ status body, r = .answer status body ∧ 200 ≤ status ∧ status < 300 ∧ body.json? = .ok (some j)

/-- The answer is a refusal, and the failure is what it reports. -/
def Refuses (r : Response) (e : ClientError) : Prop :=
  ∃ status body, r = .answer status body ∧ 400 ≤ status ∧ status < 600 ∧ Client.failureOf status body = e

theorem holds_success (j : Json) : (answer 200 (.json j)).Holds j :=
  ⟨200, .json j, rfl, by omega, by omega, rfl⟩

end Response

/-- What a refusal says, by the method of the request, about whether there is an object: a creation
that it is there by code and reason, a look-up that it is not by the reason alone, and a patch that it
is not by the code alone. -/
def ClientError.tells? : Method → ClientError → Option Bool
  | .post, .api f => if f.code = 409 ∧ f.reason = "AlreadyExists" then some true else none
  | .get, .api f => if f.reason = "NotFound" then some false else none
  | .patch, .api f => if f.code = 404 then some false else none
  | _, _ => none

/-- What the refusal of a request with the method says about the object is true. -/
def ClientError.Truthful (e : ClientError) (m : Method) (object : Option Json) : Prop :=
  ∀ there, e.tells? m = some there → object.isSome = there

namespace ClientError.Truthful

variable {e : ClientError} {m : Method} {object : Option Json}

theorem of_silent (h : e.tells? m = none) : e.Truthful m object := by
  intro there htells
  cases h.symm.trans htells

theorem exists_eq_some (h : e.Truthful m object) (htells : e.tells? m = some true) :
    ∃ live, object = some live :=
  Option.isSome_iff_exists.1 (h true htells)

theorem eq_none (h : e.Truthful m object) (htells : e.tells? m = some false) : object = none := by
  have absent := h false htells
  rwa [Option.isSome_eq_false_iff, Option.isNone_iff_eq_none] at absent

end ClientError.Truthful

namespace Client

variable {α : Type} {read : Json → Option α} {response : Response} {j : Json} {a : α} {e : ClientError}

theorem valueOf_of_holds (h : response.Holds j) : valueOf response = .ok j := by
  obtain ⟨status, body, rfl, hlow, hhigh, hbody⟩ := h
  have success : (HttpStatus.isClientError status || HttpStatus.isServerError status) = false := by
    simp only [HttpStatus.isClientError, HttpStatus.isServerError, Bool.or_eq_false_iff,
      Bool.and_eq_false_iff, decide_eq_false_iff_not]
    omega
  simp only [valueOf, success, hbody, Bool.false_eq_true, if_false]

theorem valueOf_of_refuses (h : response.Refuses e) : valueOf response = .error e := by
  obtain ⟨status, body, rfl, hlow, hhigh, hfailure⟩ := h
  have failure : (HttpStatus.isClientError status || HttpStatus.isServerError status) = true := by
    simp only [HttpStatus.isClientError, HttpStatus.isServerError, Bool.or_eq_true, Bool.and_eq_true,
      decide_eq_true_eq]
    omega
  simp only [valueOf, failure, hfailure, if_true]

theorem objectOf_of_holds (h : response.Holds j) (hread : read j = some a) :
    objectOf read response = .ok a := by
  simp only [objectOf, valueOf_of_holds h, Except.bind, hread]

theorem objectOf_of_unreadable (h : response.Holds j) (hread : read j = none) :
    objectOf read response = .error .undecodable := by
  simp only [objectOf, valueOf_of_holds h, Except.bind, hread]

theorem objectOf_of_refuses (h : response.Refuses e) : objectOf read response = .error e := by
  simp only [objectOf, valueOf_of_refuses h, Except.bind]

end Client

namespace ClientError

variable {e : ClientError} {there : Bool}

theorem tells_post (h : e.tells? .post = some there) (kind name : String) :
    there = true ∧ OperatorError.ofClient kind name e = .alreadyExists kind name := by
  cases e with
  | api f =>
    simp only [tells?] at h
    split at h
    · rename_i hf
      cases h
      exact ⟨rfl, by simp only [OperatorError.ofClient, hf.1, hf.2, if_true]⟩
    · cases h
  | _ => cases h

theorem not_taken_of_silent (h : e.tells? .post = none) (kind name k n : String) :
    OperatorError.ofClient kind name e ≠ .alreadyExists k n := by
  cases e with
  | api f =>
    simp only [tells?] at h
    split at h
    · cases h
    · rename_i hf
      unfold OperatorError.ofClient
      by_cases hcode : f.code = 409
      · have hreason : f.reason ≠ "AlreadyExists" := fun hreason => hf ⟨hcode, hreason⟩
        simp [hcode, hreason]
      · simp only [if_neg hcode]
        split
        · nofun
        · split <;> nofun
  | _ => nofun

theorem tells_get {α : Type} (h : e.tells? .get = some there) :
    there = false ∧ Client.unlessMissing (.error e : Except ClientError α) = .ok none := by
  cases e with
  | api f =>
    simp only [tells?] at h
    split at h
    · rename_i hf
      cases h
      exact ⟨rfl, by simp only [Client.unlessMissing, hf, if_true]⟩
    · cases h
  | _ => cases h

theorem unlessMissing_of_silent {α : Type} (h : e.tells? .get = none) :
    Client.unlessMissing (.error e : Except ClientError α) = .error e := by
  cases e with
  | api f =>
    simp only [tells?] at h
    split at h
    · cases h
    · rename_i hf
      simp only [Client.unlessMissing, hf, if_false]
  | _ => rfl

theorem tells_patch (h : e.tells? .patch = some there) (kind name : String) :
    there = false ∧ OperatorError.ofClient kind name e = .notFound kind name := by
  cases e with
  | api f =>
    simp only [tells?] at h
    split at h
    · rename_i hf
      cases h
      exact ⟨rfl, by simp [OperatorError.ofClient, hf]⟩
    · cases h
  | _ => cases h

end ClientError

/-- A refusal with a report. -/
def Response.refusal (status code : Nat) (reason : String) : Response :=
  .answer status (.json (.obj [("code", .int code), ("message", .str ""), ("reason", .str reason),
    ("status", .str "Failure")]))

theorem Response.refuses_refusal {status code : Nat} (reason : String) (low : 400 ≤ status)
    (high : status < 600) (hcode : code ≤ 65535) :
    (refusal status code reason).Refuses (.api ⟨"Failure", "", reason, code.toUInt16⟩) := by
  refine ⟨status, _, rfl, low, high, ?_⟩
  simp [Client.failureOf, Body.text, Body.json?, Client.apiFailure?, Json.fields?, Dictionary.get?_cons,
    Json.nat?, Json.str?, Json.defaulted, Nat.not_lt.2 hcode]

/-! ## The server -/

/-- The path of the object that a request is about. A new object is named by its manifest. -/
def Request.objectPath? (r : Request) : Option String :=
  match r.method with
  | .post => ((r.body.bind (·.get? "metadata")).bind (·.textAt? "name")).map (Server.path r ++ "/" ++ ·)
  | _ => some (Server.path r)

/-- What a server keeps: at most one object for each path. -/
abbrev PathStore := String → Option Json

namespace PathStore

def put (s : PathStore) (p : String) (j : Json) : PathStore := fun q => if q = p then some j else s q

/-- How the server answers, and what it keeps from then on. It may refuse any request, and then nothing
changes; a refusal that says whether there is an object tells the truth. -/
inductive Serves : PathStore → (w : Wire) → w.Answer → PathStore → Prop where
  | created {s : PathStore} {req : Request} {p : String} {j : Json} {response : Response}
      (method : req.method = .post) (about : req.objectPath? = some p) (body : req.body = some j)
      (free : s p = none) (holds : response.Holds j) : Serves s (.send req) response (s.put p j)
  | found {s : PathStore} {req : Request} {p : String} {j : Json} {response : Response}
      (method : req.method = .get) (about : req.objectPath? = some p) (there : s p = some j)
      (holds : response.Holds j) : Serves s (.send req) response s
  | patched {s : PathStore} {req : Request} {p : String} {j patch : Json} {response : Response}
      (method : req.method = .patch) (type : req.contentType = some Client.mergePatchType)
      (about : req.objectPath? = some p) (body : req.body = some patch) (there : s p = some j)
      (holds : response.Holds (j.mergePatch patch)) :
      Serves s (.send req) response (s.put p (j.mergePatch patch))
  | refused {s : PathStore} {req : Request} {p : String} {e : ClientError} {response : Response}
      (about : req.objectPath? = some p) (refuses : response.Refuses e)
      (truthful : e.Truthful req.method (s p)) : Serves s (.send req) response s

end PathStore

/-! ## The requests of the operator -/

namespace ManagedResource.Addressed

variable {r : ManagedResource}

theorem path_of_target {req : Request} {p query : String} (htarget : req.target = p ++ query)
    (hp : ∀ c ∈ p.toList, Text.Url.isPathChar c = true) (hq : query = "" ∨ query = Client.ownedQuery) :
    Server.path req = p := by
  have plain : ∀ c ∈ p.toList, decide (c ≠ '?') = true := by
    intro c hc
    have hpath := hp c hc
    refine decide_eq_true ?_
    rintro rfl
    exact absurd hpath (by decide)
  have hrest : query.toList.takeWhile (fun c => decide (c ≠ '?')) = [] := by
    rcases hq with rfl | rfl <;> rfl
  unfold Server.path
  rw [htarget, String.toList_append, List.takeWhile_append_of_pos plain, hrest, List.append_nil,
    String.ofList_toList]

theorem objectPath?_post (hr : r.Addressed) : r.postRequest.objectPath? = some r.path := by
  obtain ⟨ns, name, -, hname, hr', -, -, -⟩ := hr.exists_eq
  have hpath : Server.path r.postRequest = r.collection :=
    path_of_target rfl hr.isPathChar_collection (.inr rfl)
  have hnamed : r.metadata.toJson.textAt? "name" = some name := by
    have hget : r.metadata.toJson.get? "name" = some (.str name) :=
      Json.get?_putFields_of_mem (by simp) (by simp [hname])
    rw [Json.textAt?, hget]
    rfl
  have hmetadata : r.postRequest.body.bind (·.get? "metadata") = some r.metadata.toJson :=
    r.get?_toJson_metadata
  change ((r.postRequest.body.bind (·.get? "metadata")).bind (·.textAt? "name")).map _ = _
  rw [hmetadata, Option.bind_some, hnamed, hpath, Option.map_some, path, hr']

theorem objectPath?_get (hr : r.Addressed) : r.getRequest.objectPath? = some r.path := by
  have hpath : Server.path r.getRequest = r.path :=
    path_of_target (String.append_empty).symm hr.isPathChar_path (.inl rfl)
  exact congrArg some hpath

theorem objectPath?_patch (hr : r.Addressed) (body : Json) :
    (r.patchRequest body).objectPath? = some r.path := by
  have hpath : Server.path (r.patchRequest body) = r.path :=
    path_of_target rfl hr.isPathChar_path (.inr rfl)
  exact congrArg some hpath

end ManagedResource.Addressed

/-! ## What the server answers to the operator -/

namespace PathStore

variable {r : ManagedResource} {σ σ' : PathStore} {response : Response}

theorem serves_post (hr : r.Addressed) : Serves σ (.send r.postRequest) response σ' ↔
    (σ r.path = none ∧ response.Holds r.toJson ∧ σ' = σ.put r.path r.toJson) ∨
    ∃ e : ClientError, response.Refuses e ∧ e.Truthful .post (σ r.path) ∧ σ' = σ := by
  constructor
  · intro serves
    cases serves with
    | created method about body free holds =>
      cases hr.objectPath?_post.symm.trans about
      cases body
      exact .inl ⟨free, holds, rfl⟩
    | found method => cases method
    | patched method => cases method
    | refused about refuses truthful =>
      cases hr.objectPath?_post.symm.trans about
      exact .inr ⟨_, refuses, truthful, rfl⟩
  · rintro (⟨free, holds, rfl⟩ | ⟨e, refuses, truthful, rfl⟩)
    · exact .created rfl hr.objectPath?_post rfl free holds
    · exact .refused hr.objectPath?_post refuses truthful

theorem serves_get (hr : r.Addressed) : Serves σ (.send r.getRequest) response σ' ↔
    (∃ live, σ r.path = some live ∧ response.Holds live ∧ σ' = σ) ∨
    ∃ e : ClientError, response.Refuses e ∧ e.Truthful .get (σ r.path) ∧ σ' = σ := by
  constructor
  · intro serves
    cases serves with
    | created method => cases method
    | found method about there holds =>
      cases hr.objectPath?_get.symm.trans about
      exact .inl ⟨_, there, holds, rfl⟩
    | patched method => cases method
    | refused about refuses truthful =>
      cases hr.objectPath?_get.symm.trans about
      exact .inr ⟨_, refuses, truthful, rfl⟩
  · rintro (⟨live, there, holds, rfl⟩ | ⟨e, refuses, truthful, rfl⟩)
    · exact .found rfl hr.objectPath?_get there holds
    · exact .refused hr.objectPath?_get refuses truthful

theorem serves_patch (hr : r.Addressed) {body : Json} : Serves σ (.send (r.patchRequest body)) response σ' ↔
    (∃ live, σ r.path = some live ∧ response.Holds (live.mergePatch body) ∧
      σ' = σ.put r.path (live.mergePatch body)) ∨
    ∃ e : ClientError, response.Refuses e ∧ e.Truthful .patch (σ r.path) ∧ σ' = σ := by
  constructor
  · intro serves
    cases serves with
    | created method => cases method
    | found method => cases method
    | patched method type about given there holds =>
      cases (hr.objectPath?_patch body).symm.trans about
      cases given
      exact .inl ⟨_, there, holds, rfl⟩
    | refused about refuses truthful =>
      cases (hr.objectPath?_patch body).symm.trans about
      exact .inr ⟨_, refuses, truthful, rfl⟩
  · rintro (⟨live, there, holds, rfl⟩ | ⟨e, refuses, truthful, rfl⟩)
    · exact .patched rfl rfl (hr.objectPath?_patch body) rfl there holds
    · exact .refused (hr.objectPath?_patch body) refuses truthful

end PathStore

end AppServiceOperator
