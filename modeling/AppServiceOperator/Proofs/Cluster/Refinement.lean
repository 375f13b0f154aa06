import AppServiceOperator.Proofs.Cluster.Server
import AppServiceOperator.Proofs.Reconcile.Course
/-!
# The client as a store of objects

The operator thinks of a store of objects by kind, namespace and name (`ObjectStore.Replies`). Carried
out by the client, every program of creations, look-ups and patches runs against a server of objects by
their paths as it does in the store, and the other way round (`client_refines_store`): each call is one
request, and what the answer comes to is what the store replies.
-/
namespace AppServiceOperator

open Program (Along History Runs along_bind along_done runs_call runs_done)
open Simulation (ObjectKey)

/-! ## The store -/

/-- The failure is one that an answer can report. -/
def ClientError.Reported (e : ClientError) : Prop := ∃ response : Response, response.Refuses e

namespace ObjectStore

open Client (dynamicObject?)

/-- How a store of objects replies to the calls about them, and what it keeps from then on. An object
that cannot be read as one fails the call that it is the answer to. -/
inductive Replies : ObjectStore → (c : Call) → c.Answer → ObjectStore → Prop where
  | created {s : ObjectStore} {r : ManagedResource} (free : s (.ofResource r) = none) :
      Replies s (.create r) (.ok ()) (s.put (.ofResource r) r.toJson)
  | taken {s : ObjectStore} {r : ManagedResource} {live : Json} (there : s (.ofResource r) = some live) :
      Replies s (.create r) (.error (.alreadyExists r.kind.name r.name)) s
  | notCreated {s : ObjectStore} {r : ManagedResource} {e : ClientError} (reported : e.Reported)
      (silent : e.tells? .post = none) : Replies s (.create r) (.error (.ofClient r.kind.name r.name e)) s
  | fetched {s : ObjectStore} {r : ManagedResource} {live object : Json}
      (there : s (.ofResource r) = some live) (read : dynamicObject? live = some object) :
      Replies s (.fetch r) (.ok (some object)) s
  | unreadable {s : ObjectStore} {r : ManagedResource} {live : Json}
      (there : s (.ofResource r) = some live) (read : dynamicObject? live = none) :
      Replies s (.fetch r) (.error (.client .undecodable)) s
  | missing {s : ObjectStore} {r : ManagedResource} (free : s (.ofResource r) = none) :
      Replies s (.fetch r) (.ok none) s
  | notFetched {s : ObjectStore} {r : ManagedResource} {e : ClientError} (reported : e.Reported)
      (silent : e.tells? .get = none) : Replies s (.fetch r) (.error (.ofClient r.kind.name r.name e)) s
  | patched {s : ObjectStore} {r : ManagedResource} {body live object : Json}
      (there : s (.ofResource r) = some live) (read : dynamicObject? (live.mergePatch body) = some object) :
      Replies s (.patch r body) (.ok ()) (s.put (.ofResource r) (live.mergePatch body))
  | patchedUnreadable {s : ObjectStore} {r : ManagedResource} {body live : Json}
      (there : s (.ofResource r) = some live) (read : dynamicObject? (live.mergePatch body) = none) :
      Replies s (.patch r body) (.error (.client .undecodable)) (s.put (.ofResource r) (live.mergePatch body))
  | absent {s : ObjectStore} {r : ManagedResource} {body : Json} (free : s (.ofResource r) = none) :
      Replies s (.patch r body) (.error (.notFound r.kind.name r.name)) s
  | notPatched {s : ObjectStore} {r : ManagedResource} {body : Json} {e : ClientError}
      (reported : e.Reported) (silent : e.tells? .patch = none) :
      Replies s (.patch r body) (.error (.ofClient r.kind.name r.name e)) s

end ObjectStore

/-- The server keeps under the path of every resource what the store has for it. -/
def Represents (σ : PathStore) (s : ObjectStore) : Prop :=
  ∀ r : ManagedResource, r.Addressed → σ r.path = s (.ofResource r)

namespace Represents

variable {σ : PathStore} {s : ObjectStore} {r : ManagedResource}

theorem put (same : Represents σ s) (hr : r.Addressed) (j : Json) :
    Represents (σ.put r.path j) (s.put (.ofResource r) j) := by
  intro q hq
  unfold PathStore.put ObjectStore.put
  by_cases h : q.path = r.path
  · rw [if_pos h, if_pos ((hq.path_eq_iff hr).1 h)]
  · rw [if_neg h, if_neg (mt (hq.path_eq_iff hr).2 h)]
    exact same q hq

end Represents

/-! ## One call -/

namespace ObjectStore

variable {r : ManagedResource} {σ σ' : PathStore} {response : Response} {s s' : ObjectStore} {body : Json}

/-- What the client makes of the answer to a creation or a patch, and of the answer to a look-up. -/
abbrev written (r : ManagedResource) (response : Response) : Except OperatorError Unit :=
  (Client.classified r.kind.name r.name (Client.objectOf Client.dynamicObject? response)).map fun _ => ()

abbrev found (r : ManagedResource) (response : Response) : Except OperatorError (Option Json) :=
  Client.classified r.kind.name r.name
    (Client.unlessMissing (Client.objectOf Client.dynamicObject? response))

theorem written_of_refuses {e : ClientError} (refuses : response.Refuses e) :
    written r response = .error (.ofClient r.kind.name r.name e) := by
  unfold written
  rw [Client.objectOf_of_refuses refuses]
  rfl

/-- The server answers a creation as the store replies to it. -/
theorem replies_create (hr : r.Addressed) (proper : r.Proper) (same : Represents σ s)
    (serves : PathStore.Serves σ (.send r.postRequest) response σ') :
    ∃ s', Replies s (.create r) (written r response) s' ∧ Represents σ' s' := by
  have hkey := same r hr
  rcases (PathStore.serves_post hr).1 serves with ⟨free, holds, rfl⟩ | ⟨e, refuses, truthful, rfl⟩
  · rw [written, Client.objectOf_of_holds holds (Client.dynamicObject?_eq_self proper.canonical)]
    exact ⟨_, .created (hkey.symm.trans free), same.put hr _⟩
  · refine ⟨s, ?_, same⟩
    rw [written_of_refuses refuses]
    cases htells : e.tells? .post with
    | none => exact .notCreated ⟨_, refuses⟩ htells
    | some there =>
      obtain ⟨rfl, htaken⟩ := ClientError.tells_post htells r.kind.name r.name
      obtain ⟨live, there⟩ := truthful.exists_eq_some htells
      rw [htaken]
      exact .taken (hkey.symm.trans there)

theorem replies_fetch (hr : r.Addressed) (same : Represents σ s)
    (serves : PathStore.Serves σ (.send r.getRequest) response σ') :
    ∃ s', Replies s (.fetch r) (found r response) s' ∧ Represents σ' s' := by
  have hkey := same r hr
  rcases (PathStore.serves_get hr).1 serves with ⟨live, there, holds, rfl⟩ | ⟨e, refuses, truthful, rfl⟩
  · refine ⟨s, ?_, same⟩
    rw [hkey] at there
    cases hread : Client.dynamicObject? live with
    | some object =>
      rw [found, Client.objectOf_of_holds holds hread]
      exact .fetched there hread
    | none =>
      rw [found, Client.objectOf_of_unreadable holds hread]
      exact .unreadable there hread
  · refine ⟨s, ?_, same⟩
    rw [found, Client.objectOf_of_refuses refuses]
    cases htells : e.tells? .get with
    | none =>
      rw [ClientError.unlessMissing_of_silent htells]
      exact .notFetched ⟨_, refuses⟩ htells
    | some there =>
      obtain ⟨rfl, hmissing⟩ := ClientError.tells_get (α := Json) htells
      rw [hmissing]
      exact .missing (hkey.symm.trans (truthful.eq_none htells))

theorem replies_patch (hr : r.Addressed) (same : Represents σ s)
    (serves : PathStore.Serves σ (.send (r.patchRequest body)) response σ') :
    ∃ s', Replies s (.patch r body) (written r response) s' ∧ Represents σ' s' := by
  have hkey := same r hr
  rcases (PathStore.serves_patch hr).1 serves with ⟨live, there, holds, rfl⟩ | ⟨e, refuses, truthful, rfl⟩
  · refine ⟨_, ?_, same.put hr _⟩
    rw [hkey] at there
    cases hread : Client.dynamicObject? (live.mergePatch body) with
    | some object =>
      rw [written, Client.objectOf_of_holds holds hread]
      exact .patched there hread
    | none =>
      rw [written, Client.objectOf_of_unreadable holds hread]
      exact .patchedUnreadable there hread
  · refine ⟨s, ?_, same⟩
    rw [written_of_refuses refuses]
    cases htells : e.tells? .patch with
    | none => exact .notPatched ⟨_, refuses⟩ htells
    | some there =>
      obtain ⟨rfl, habsent⟩ := ClientError.tells_patch htells r.kind.name r.name
      rw [habsent]
      exact .absent (hkey.symm.trans (truthful.eq_none htells))

/-- As the store replies to a creation, so the server may answer it. -/
theorem serves_create (hr : r.Addressed) (proper : r.Proper) (same : Represents σ s)
    {a : Except OperatorError Unit} (replies : Replies s (.create r) a s') :
    ∃ response σ', PathStore.Serves σ (.send r.postRequest) response σ' ∧ a = written r response ∧
      Represents σ' s' := by
  have hkey := same r hr
  cases replies with
  | created free =>
    have holds := Response.holds_success r.toJson
    have serves := (PathStore.serves_post hr).2 (.inl ⟨hkey.trans free, holds, rfl⟩)
    refine ⟨_, _, serves, ?_, same.put hr _⟩
    rw [written, Client.objectOf_of_holds holds (Client.dynamicObject?_eq_self proper.canonical)]
    rfl
  | taken there =>
    have refuses : (Response.refusal 409 409 "AlreadyExists").Refuses _ :=
      Response.refuses_refusal _ (by omega) (by omega) (by omega)
    refine ⟨_, _, (PathStore.serves_post hr).2 (.inr ⟨_, refuses, ?_, rfl⟩), ?_, same⟩
    · intro b hb
      obtain ⟨rfl, -⟩ := ClientError.tells_post hb r.kind.name r.name
      rw [hkey, there]
      rfl
    · rw [written_of_refuses refuses]
      rfl
  | notCreated reported silent =>
    obtain ⟨response, refuses⟩ := reported
    have truthful : ClientError.Truthful _ .post (σ r.path) := .of_silent silent
    exact ⟨response, σ, (PathStore.serves_post hr).2 (.inr ⟨_, refuses, truthful, rfl⟩),
      (written_of_refuses refuses).symm, same⟩

theorem serves_fetch (hr : r.Addressed) (same : Represents σ s)
    {a : Except OperatorError (Option Json)} (replies : Replies s (.fetch r) a s') :
    ∃ response σ', PathStore.Serves σ (.send r.getRequest) response σ' ∧ a = found r response ∧
      Represents σ' s' := by
  have hkey := same r hr
  cases replies with
  | fetched there read =>
    rename_i live object
    have holds := Response.holds_success live
    have serves := (PathStore.serves_get hr).2 (.inl ⟨_, hkey.trans there, holds, rfl⟩)
    refine ⟨_, σ, serves, ?_, same⟩
    rw [found, Client.objectOf_of_holds holds read]
    rfl
  | unreadable there read =>
    rename_i live
    have holds := Response.holds_success live
    have serves := (PathStore.serves_get hr).2 (.inl ⟨_, hkey.trans there, holds, rfl⟩)
    refine ⟨_, σ, serves, ?_, same⟩
    rw [found, Client.objectOf_of_unreadable holds read]
    rfl
  | missing free =>
    have refuses : (Response.refusal 404 404 "NotFound").Refuses _ :=
      Response.refuses_refusal _ (by omega) (by omega) (by omega)
    refine ⟨_, σ, (PathStore.serves_get hr).2 (.inr ⟨_, refuses, ?_, rfl⟩), ?_, same⟩
    · intro b hb
      obtain ⟨rfl, -⟩ := ClientError.tells_get (α := Json) hb
      rw [hkey, free]
      rfl
    · rw [found, Client.objectOf_of_refuses refuses]
      rfl
  | notFetched reported silent =>
    obtain ⟨response, refuses⟩ := reported
    have truthful : ClientError.Truthful _ .get (σ r.path) := .of_silent silent
    refine ⟨response, σ, (PathStore.serves_get hr).2 (.inr ⟨_, refuses, truthful, rfl⟩), ?_, same⟩
    · rw [found, Client.objectOf_of_refuses refuses, ClientError.unlessMissing_of_silent silent]
      rfl

theorem serves_patch (hr : r.Addressed) (same : Represents σ s) {a : Except OperatorError Unit}
    (replies : Replies s (.patch r body) a s') :
    ∃ response σ', PathStore.Serves σ (.send (r.patchRequest body)) response σ' ∧ a = written r response ∧
      Represents σ' s' := by
  have hkey := same r hr
  cases replies with
  | patched there read =>
    rename_i live object
    have holds := Response.holds_success (live.mergePatch body)
    have serves := (PathStore.serves_patch hr).2 (.inl ⟨_, hkey.trans there, holds, rfl⟩)
    refine ⟨_, _, serves, ?_, same.put hr _⟩
    rw [written, Client.objectOf_of_holds holds read]
    rfl
  | patchedUnreadable there read =>
    rename_i live
    have holds := Response.holds_success (live.mergePatch body)
    have serves := (PathStore.serves_patch hr).2 (.inl ⟨_, hkey.trans there, holds, rfl⟩)
    refine ⟨_, _, serves, ?_, same.put hr _⟩
    rw [written, Client.objectOf_of_unreadable holds read]
    rfl
  | absent free =>
    have refuses : (Response.refusal 404 404 "NotFound").Refuses _ :=
      Response.refuses_refusal _ (by omega) (by omega) (by omega)
    refine ⟨_, σ, (PathStore.serves_patch hr).2 (.inr ⟨_, refuses, ?_, rfl⟩), ?_, same⟩
    · intro b hb
      obtain ⟨rfl, -⟩ := ClientError.tells_patch hb r.kind.name r.name
      rw [hkey, free]
      rfl
    · rw [written_of_refuses refuses]
      rfl
  | notPatched reported silent =>
    obtain ⟨response, refuses⟩ := reported
    have truthful : ClientError.Truthful _ .patch (σ r.path) := .of_silent silent
    exact ⟨response, σ, (PathStore.serves_patch hr).2 (.inr ⟨_, refuses, truthful, rfl⟩),
      (written_of_refuses refuses).symm, same⟩

end ObjectStore

/-! ## Programs -/

namespace Call

/-- The call creates an object under a path, looks at it or patches it, and its target is not too long. -/
def Stores : Call → Prop
  | .create r => r.Addressed ∧ r.Proper ∧ Text.Url.Fits (r.collection ++ Client.ownedQuery)
  | .fetch r => r.Addressed ∧ Text.Url.Fits r.path
  | .patch r _ => r.Addressed ∧ Text.Url.Fits (r.path ++ Client.ownedQuery)
  | _ => False

/-- What is sent for a call about an object. -/
def requests : Call → List Request
  | .create r => [r.postRequest]
  | .fetch r => [r.getRequest]
  | .patch r body => [r.patchRequest body]
  | _ => []

end Call

section Run

open ObjectStore (Replies)

variable {α : Type} {σ σ' : PathStore} {s s' : ObjectStore} {rec : Recorder}

/-- What is sent when calls about objects are carried out. -/
def wire (calls : List Call) : List Wire := (calls.flatMap Call.requests).map .send

/-- A call about an object is one request, whose answer is read: as the server answers, so the store
replies, and as the store replies, so the server may answer. -/
theorem exists_request {c : Call} (stores : c.Stores) :
    ∃ (req : Request) (read : Response → c.Answer), c.requests = [req] ∧
      (∀ rec, Client.handle c rec = .call (.send req) fun response => .done (read response, rec)) ∧
      ∀ σ s, Represents σ s →
        (∀ response σ', PathStore.Serves σ (.send req) response σ' →
          ∃ s', Replies s c (read response) s' ∧ Represents σ' s') ∧
        ∀ a s', Replies s c a s' →
          ∃ response σ', PathStore.Serves σ (.send req) response σ' ∧ a = read response ∧ Represents σ' s' := by
  cases c with
  | create r =>
    obtain ⟨hr, proper, fits⟩ := stores
    refine ⟨r.postRequest, ObjectStore.written r, rfl, fun rec => ?_, fun σ s same => ⟨?_, ?_⟩⟩
    · exact congrArg (Client.unchanged rec) (hr.create_eq proper fits)
    · exact fun response σ' => ObjectStore.replies_create hr proper same
    · exact fun a s' => ObjectStore.serves_create hr proper same
  | fetch r =>
    obtain ⟨hr, fits⟩ := stores
    refine ⟨r.getRequest, ObjectStore.found r, rfl, fun rec => ?_, fun σ s same => ⟨?_, ?_⟩⟩
    · exact congrArg (Client.unchanged rec) (hr.fetch_eq fits)
    · exact fun response σ' => ObjectStore.replies_fetch hr same
    · exact fun a s' => ObjectStore.serves_fetch hr same
  | patch r body =>
    obtain ⟨hr, fits⟩ := stores
    refine ⟨r.patchRequest body, ObjectStore.written r, rfl, fun rec => ?_, fun σ s same => ⟨?_, ?_⟩⟩
    · exact congrArg (Client.unchanged rec) (hr.patch_eq fits body)
    · exact fun response σ' => ObjectStore.replies_patch hr same
    · exact fun a s' => ObjectStore.serves_patch hr same
  | _ => exact stores.elim

/-- What a program about objects makes of the wire is a run of it in the store. -/
theorem runs_of_carryOut {p : Operation α} {h : History Call.Answer}
    (about : p.Along (fun _ c => c.Stores) (fun _ _ => True) h) (same : Represents σ s)
    {w : History Wire.Answer} {x : α × Recorder} (run : Runs PathStore.Serves (Client.carryOut p rec) σ w x σ') :
    x.2 = rec ∧ ∃ k s', Runs Replies p s k x.1 s' ∧ Represents σ' s' ∧
      w.map (·.call) = wire (k.map (·.call)) := by
  induction p generalizing h σ s w with
  | done a =>
    obtain ⟨rfl, rfl, rfl⟩ := runs_done.1 run
    exact ⟨rfl, [], s, .done a s, same, rfl⟩
  | call c next ih =>
    obtain ⟨stores, rest⟩ := about
    obtain ⟨req, read, hreq, hhandle, refines⟩ := exists_request stores
    rw [Client.carryOut, Program.interpretWith, hhandle, Program.bind_call, runs_call] at run
    obtain ⟨response, σ₁, w', rfl, serves, run⟩ := run
    obtain ⟨s₁, replies, same₁⟩ := (refines σ s same).1 response σ₁ serves
    obtain ⟨hrec, k, s', run, same', hcalls⟩ := ih (read response) (rest (read response)) same₁ run
    refine ⟨hrec, ⟨c, read response⟩ :: k, s', .call replies run, same', ?_⟩
    rw [List.map_cons, List.map_cons, hcalls, wire, wire, List.flatMap_cons, hreq]
    rfl

/-- Every run of a program about objects in the store is one over the wire. -/
theorem carryOut_of_runs {p : Operation α} {h k : History Call.Answer}
    (about : p.Along (fun _ c => c.Stores) (fun _ _ => True) h) (same : Represents σ s) (rec : Recorder)
    {a : α} (run : Runs Replies p s k a s') :
    ∃ w σ', Runs PathStore.Serves (Client.carryOut p rec) σ w (a, rec) σ' ∧ Represents σ' s' ∧
      w.map (·.call) = wire (k.map (·.call)) := by
  induction p generalizing h σ s k with
  | done b =>
    obtain ⟨rfl, rfl, rfl⟩ := runs_done.1 run
    exact ⟨[], σ, .done _ σ, same, rfl⟩
  | call c next ih =>
    obtain ⟨stores, rest⟩ := about
    obtain ⟨req, read, hreq, hhandle, refines⟩ := exists_request stores
    obtain ⟨answer, s₁, k', rfl, replies, run⟩ := runs_call.1 run
    obtain ⟨response, σ₁, serves, rfl, same₁⟩ := (refines σ s same).2 answer s₁ replies
    obtain ⟨w, σ', run, same', hcalls⟩ := ih (read response) (rest (read response)) same₁ run
    refine ⟨⟨.send req, response⟩ :: w, σ', ?_, same', ?_⟩
    · rw [Client.carryOut, Program.interpretWith, hhandle, Program.bind_call]
      exact .call serves run
    · rw [List.map_cons, List.map_cons, hcalls, wire, wire, List.flatMap_cons, hreq]
      rfl

end Run

/-! ## Bringing about an object -/

namespace ManagedResource

open ObjectStore (Replies)
open Client (dynamicObject?)

variable {r : ManagedResource} {s s' : ObjectStore}

/-- What bringing about an object comes to: the calls, the result, and what the store has then. The
object is looked at only where its creation found it there, and patched only where what was read of it
lacks something that the operator owns. -/
inductive Ensured (r : ManagedResource) (s : ObjectStore) :
    List Call → Except OperatorError Convergence → ObjectStore → Prop where
  | created (free : s (.ofResource r) = none) :
      Ensured r s [.create r] (.ok .created) (s.put (.ofResource r) r.toJson)
  | notCreated {e : OperatorError} (replies : Replies s (.create r) (.error e) s)
      (other : ∀ kind name, e ≠ .alreadyExists kind name) : Ensured r s [.create r] (.error e) s
  | unchanged {live object : Json} (there : s (.ofResource r) = some live)
      (read : dynamicObject? live = some object) (met : object.contains r.ownedFields = true) :
      Ensured r s [.create r, .fetch r] (.ok .unchanged) s
  | notFetched {live : Json} {e : OperatorError} (there : s (.ofResource r) = some live)
      (replies : Replies s (.fetch r) (.error e) s) : Ensured r s [.create r, .fetch r] (.error e) s
  | patched {live object merged : Json} (there : s (.ofResource r) = some live)
      (read : dynamicObject? live = some object) (drifted : object.contains r.ownedFields = false)
      (readable : dynamicObject? (live.mergePatch r.ownedFields) = some merged) :
      Ensured r s [.create r, .fetch r, .patch r r.ownedFields] (.ok .patched)
        (s.put (.ofResource r) (live.mergePatch r.ownedFields))
  | notPatched {live object : Json} {e : OperatorError} {s' : ObjectStore}
      (there : s (.ofResource r) = some live) (read : dynamicObject? live = some object)
      (drifted : object.contains r.ownedFields = false)
      (replies : Replies s (.patch r r.ownedFields) (.error e) s') :
      Ensured r s [.create r, .fetch r, .patch r r.ownedFields] (.error e) s'

theorem ensured_of_amend {live object : Json} (there : s (.ofResource r) = some live)
    (read : dynamicObject? live = some object) {h : History Call.Answer}
    {a : Except OperatorError Convergence} (run : Runs Replies (r.amend object) s h a s') :
    r.Ensured s (.create r :: .fetch r :: h.map (·.call)) a s' := by
  unfold amend at run
  split at run
  · rename_i met
    obtain ⟨rfl, rfl, rfl⟩ := runs_done.1 run
    exact .unchanged there read met
  · rename_i drifted
    rw [Bool.not_eq_true] at drifted
    obtain ⟨answer, s₁, h, rfl, replies, rest⟩ := runs_call.1 run
    cases answer with
    | error e =>
      obtain ⟨rfl, rfl, rfl⟩ := runs_done.1 rest
      exact .notPatched there read drifted replies
    | ok u =>
      obtain ⟨rfl, rfl, rfl⟩ := runs_done.1 rest
      cases replies with
      | patched there' readable =>
        cases there.symm.trans there'
        exact .patched there read drifted readable

theorem ensured_of_runs {h : History Call.Answer} {a : Except OperatorError Convergence}
    (run : Runs Replies r.ensure s h a s') : r.Ensured s (h.map (·.call)) a s' := by
  obtain ⟨answer, s₁, h₁, rfl, first, rest⟩ := runs_call.1 run
  cases first with
  | created free =>
    obtain ⟨rfl, rfl, rfl⟩ := runs_done.1 rest
    exact .created free
  | notCreated reported silent =>
    have other := ClientError.not_taken_of_silent silent r.kind.name r.name
    have replies := Replies.notCreated (s := s) (r := r) reported silent
    generalize OperatorError.ofClient r.kind.name r.name _ = error at other replies rest
    cases error with
    | alreadyExists kind name => exact absurd rfl (other kind name)
    | _ =>
      obtain ⟨rfl, rfl, rfl⟩ := runs_done.1 rest
      exact .notCreated replies other
  | taken there =>
    obtain ⟨answer, s₂, h₂, rfl, second, rest⟩ := runs_call.1 rest
    cases second with
    | fetched there' read => exact ensured_of_amend there' read rest
    | missing free => cases there.symm.trans free
    | unreadable there' read =>
      obtain ⟨rfl, rfl, rfl⟩ := runs_done.1 rest
      exact .notFetched there (.unreadable there' read)
    | notFetched reported silent =>
      obtain ⟨rfl, rfl, rfl⟩ := runs_done.1 rest
      exact .notFetched there (.notFetched reported silent)

theorem ensure_stores (hr : r.Addressed) (proper : r.Proper)
    (fits : Text.Url.Fits (r.path ++ Client.ownedQuery)) (h : History Call.Answer) :
    r.ensure.Along (fun _ c => c.Stores) (fun _ _ => True) h := by
  have post : Text.Url.Fits (r.collection ++ Client.ownedQuery) := fits.of_le (by
    simp only [path, String.utf8ByteSize_append]
    omega)
  have get : Text.Url.Fits r.path := fits.of_le (by
    rw [String.utf8ByteSize_append]
    omega)
  exact along_ensure (P := Call.Stores) ⟨hr, proper, post⟩ ⟨hr, get⟩ ⟨hr, fits⟩ h

end ManagedResource

/-! ## The generated resources -/

namespace Desired

theorem proper_resources (ctx : Context) : ∀ r ∈ resources ctx, r.Proper := by
  intro r hr
  exact ⟨(solid_resources ctx r hr).sorted, ObjectMeta.normal_of_rest_eq_nil (rest_of_mem_resources hr)⟩

/-- In a namespace with a name for a path, all generated resources have one. -/
theorem addressed_resources {ctx : Context} (dns : Text.IsDns ctx.ns) :
    ∀ r ∈ resources ctx, r.Addressed := by
  have hnamed : (resources ctx).map (·.metadata.name) = (resources ctx).map (some ·.name) := rfl
  have hdns : ∀ i ∈ (resources ctx).map (fun r => (r.kind, r.name)), Text.IsDns i.2 := by
    rw [map_kind_name_resources]
    decide
  intro r hr
  have hname := List.map_inj_left.1 hnamed r hr
  exact ⟨⟨_, ns_of_mem_resources hr, dns⟩, ⟨_, hname, hdns _ (List.mem_map_of_mem hr)⟩⟩

theorem fits_resources {ctx : Context} (dns : Text.IsDns ctx.ns) (size : ctx.ns.utf8ByteSize ≤ 65000) :
    ∀ r ∈ resources ctx, Text.Url.Fits (r.path ++ Client.ownedQuery) := by
  -- what goes into the target besides the namespace depends on the kind and the name alone
  have hrest : ∀ i ∈ (resources ctx).map (fun r => (r.kind, r.name)),
      i.1.root.utf8ByteSize + i.1.api.plural.utf8ByteSize + i.2.utf8ByteSize + 2 +
        Client.ownedQuery.utf8ByteSize ≤ 200 := by
    rw [map_kind_name_resources]
    decide
  intro r hr
  have hsize := hrest _ (List.mem_map_of_mem hr)
  obtain ⟨ns, name, hns, -, hname, -, -, hpath⟩ := (addressed_resources dns r hr).exists_eq
  have heq : ns = ctx.ns := Option.some.inj (hns.symm.trans (ns_of_mem_resources hr))
  have slash : ("/" : String).utf8ByteSize = 1 := rfl
  simp only [hname] at hsize
  unfold Text.Url.Fits Text.Url.targetLimit
  rw [hpath, heq]
  simp only [String.utf8ByteSize_append, slash]
  omega

theorem ensureAll_stores {rs : List ManagedResource}
    (about : ∀ r ∈ rs, ∀ h, r.ensure.Along (fun _ c => c.Stores) (fun _ _ => True) h)
    (h : History Call.Answer) :
    (rs.mapM ManagedResource.ensure).Along (fun _ c => c.Stores) (fun _ _ => True) h := by
  induction rs generalizing h with
  | nil => exact trivial
  | cons r rs ih =>
    rw [List.mapM_cons, Program.bind_eq, along_bind]
    refine (about r List.mem_cons_self h).imp fun k a _ => ?_
    rw [Program.bind_eq, along_bind]
    refine (ih (fun q hq => about q (List.mem_cons_of_mem r hq)) k).imp fun _ _ _ => ?_
    exact trivial

end Desired

/-! ## The refinement -/

/-- A program is carried out over the wire from `σ` as it runs in the store from `s`: to the same result,
with the requests of its calls in their order. -/
structure CarriedOut {α : Type} (p : Operation α) (σ : PathStore) (s : ObjectStore) : Prop where
  /-- What happens over the wire happens in the store. -/
  sound : ∀ rec w x σ', Runs PathStore.Serves (Client.carryOut p rec) σ w x σ' → x.2 = rec ∧
    ∃ h s', Runs ObjectStore.Replies p s h x.1 s' ∧ Represents σ' s' ∧
      w.map (·.call) = wire (h.map (·.call))
  /-- What happens in the store can happen over the wire. -/
  complete : ∀ rec h a s', Runs ObjectStore.Replies p s h a s' →
    ∃ w σ', Runs PathStore.Serves (Client.carryOut p rec) σ w (a, rec) σ' ∧ Represents σ' s' ∧
      w.map (·.call) = wire (h.map (·.call))

theorem carriedOut_of_stores {α : Type} {p : Operation α} {h : History Call.Answer}
    (about : p.Along (fun _ c => c.Stores) (fun _ _ => True) h) {σ : PathStore} {s : ObjectStore}
    (same : Represents σ s) : CarriedOut p σ s where
  sound _ _ _ _ := runs_of_carryOut about same
  complete rec _ _ _ := carryOut_of_runs about same rec

/-- To bring about all that is generated for an AppService comes to the same over the wire as in the
store, if only its namespace is one for a path. -/
theorem Desired.carriedOut_resources {ctx : Context} (dns : Text.IsDns ctx.ns)
    (size : ctx.ns.utf8ByteSize ≤ 65000) {σ : PathStore} {s : ObjectStore} (same : Represents σ s) :
    CarriedOut ((resources ctx).mapM ManagedResource.ensure) σ s := by
  have about : ∀ r ∈ resources ctx, ∀ h, r.ensure.Along (fun _ c => c.Stores) (fun _ _ => True) h :=
    fun r hr => r.ensure_stores (addressed_resources dns r hr) (proper_resources ctx r hr)
      (fits_resources dns size r hr)
  exact carriedOut_of_stores (ensureAll_stores about []) same

/-- Every program that creates, looks at and patches objects with a path runs over the wire as it does in
a store of objects by kind, namespace and name, for no other object shares the path. An object is read
back as it was posted, and whatever else is stored is read with its metadata in normal form and its other
members as they are. To bring about an object is a creation, then a look-up where that found it there,
and then a patch where it lacks something, with what the operator owns. -/
theorem client_refines_store {α : Type} {p : Operation α}
    (about : p.Along (fun _ c => c.Stores) (fun _ _ => True) []) {σ : PathStore} {s : ObjectStore}
    (same : Represents σ s) :
    CarriedOut p σ s ∧
    (∀ q r : ManagedResource, q.Addressed → r.Addressed →
      (q.path = r.path ↔ ObjectKey.ofResource q = .ofResource r)) ∧
    (∀ r : ManagedResource, r.Proper → Client.dynamicObject? r.toJson = some r.toJson) ∧
    (∀ live object : Json, Client.dynamicObject? live = some object →
      (live.Canonical → object = live) ∧
      ∀ k, k ∉ ["apiVersion", "kind", "metadata"] → object.get? k = live.get? k) ∧
    ∀ r : ManagedResource, r.Addressed → r.Proper → Text.Url.Fits (r.path ++ Client.ownedQuery) →
      ∀ rec w x σ', Runs PathStore.Serves (Client.carryOut r.ensure rec) σ w x σ' →
      ∃ calls s', r.Ensured s calls x.1 s' ∧ Represents σ' s' ∧ w.map (·.call) = wire calls := by
  refine ⟨carriedOut_of_stores about same, fun q r hq hr => hq.path_eq_iff hr,
    fun r proper => Client.dynamicObject?_eq_self proper.canonical, ?_, ?_⟩
  · intro live object read
    refine ⟨fun canonical => ?_, fun k => Client.get?_dynamicObject? read⟩
    rw [Client.dynamicObject?_eq_self canonical] at read
    exact (Option.some.inj read).symm
  · intro r hr proper fits rec w x σ' run
    have carried := carriedOut_of_stores (r.ensure_stores hr proper fits []) same
    obtain ⟨-, h, s', run, same', hcalls⟩ := carried.sound rec w x σ' run
    exact ⟨_, s', r.ensured_of_runs run, same', hcalls⟩

/-- A map of which the server has no data yet: its creation finds it there, and a patch adds the data. -/
theorem refines_for_map :
    let r : ManagedResource := ⟨.configMap, { name := some "db", ns := some "demo" },
      [("data", .ofTexts [("a", "1")])], rfl⟩
    let live : Json := .obj [("apiVersion", .str "v1"), ("kind", .str "ConfigMap"),
      ("metadata", .obj [("name", .str "db"), ("namespace", .str "demo")])]
    let σ := PathStore.put (fun _ => none) "/api/v1/namespaces/demo/configmaps/db" live
    let s := ObjectStore.put (fun _ => none) ⟨"ConfigMap", "demo", "db"⟩ live
    r.ensure.Along (fun _ c => c.Stores) (fun _ _ => True) [] ∧ Represents σ s ∧
    ∃ w σ', Runs PathStore.Serves (Client.carryOut r.ensure {}) σ w (.ok .patched, {}) σ' ∧
      σ' "/api/v1/namespaces/demo/configmaps/db" = some r.toJson ∧
      w.map (·.call) = [.send r.postRequest, .send r.getRequest, .send (r.patchRequest r.ownedFields)] := by
  intro r live σ s
  have hr : r.Addressed := ⟨⟨_, rfl, by decide⟩, ⟨_, rfl, by decide⟩⟩
  have proper : r.Proper :=
    ⟨by simp [r, Dictionary.sorted_iff_ascending], ObjectMeta.normal_of_rest_eq_nil rfl⟩
  have hpath : r.path = "/api/v1/namespaces/demo/configmaps/db" := by decide
  have about := r.ensure_stores hr proper (by decide) []
  have nothing : Represents (fun _ => none) (fun _ => none) := fun _ _ => rfl
  have same : Represents σ s := by
    have hput := nothing.put hr live
    rwa [hpath] at hput
  have there : s (.ofResource r) = some live := rfl
  have read : Client.dynamicObject? live = some live := by rfl
  have drifted : live.contains r.ownedFields = false := by decide
  have merged : live.mergePatch r.ownedFields = r.toJson := by
    simp +decide [live, r, ManagedResource.ownedFields, ManagedResource.ownedMetadata,
      ManagedResource.toJson, ApiResource.manifest, Json.putFields, Json.mergePatch, Json.mergeMembers,
      Json.ofTexts, Dictionary.insert, Dictionary.get?_cons, Json.obj?, ObjectMeta.toJson, Kind.api,
      ApiResource.apiVersion]
  have readable : Client.dynamicObject? (live.mergePatch r.ownedFields) = some r.toJson := by
    rw [merged]
    exact Client.dynamicObject?_eq_self proper.canonical
  have run : Runs ObjectStore.Replies r.ensure s
      [⟨.create r, .error (.alreadyExists "ConfigMap" "db")⟩, ⟨.fetch r, .ok (some live)⟩,
        ⟨.patch r r.ownedFields, .ok ()⟩] (.ok .patched) (s.put (.ofResource r) r.toJson) := by
    have amended : r.amend live = .call (.patch r r.ownedFields) _ := if_neg (drifted ▸ Bool.false_ne_true)
    refine .call (.taken there) (.call (.fetched there read) ?_)
    change Runs ObjectStore.Replies (r.amend live) s _ _ _
    rw [amended, ← merged]
    exact .call (.patched there readable) (.done _ _)
  obtain ⟨w, σ', wired, same', hcalls⟩ := (client_refines_store about same).1.complete {} _ _ _ run
  refine ⟨about, same, w, σ', wired, ?_, hcalls⟩
  rw [← hpath, same' r hr, ObjectStore.put_self]

/-! ## Where the client departs from a store -/

namespace Text

theorem utf8ByteSize_replicate (n : Nat) : (String.ofList (List.replicate n 'a')).utf8ByteSize = n := by
  induction n with
  | zero => rfl
  | succ n ih =>
    have one : (String.singleton 'a').utf8ByteSize = 1 := rfl
    rw [List.replicate_succ, String.ofList_cons, String.utf8ByteSize_append, ih, one]
    omega

/-- A name for a path can be as long as one likes. -/
theorem isDns_replicate {n : Nat} (h : 0 < n) : IsDns (String.ofList (List.replicate n 'a')) := by
  refine ⟨fun heq => ?_, fun c hc => ?_⟩
  · have hsize := utf8ByteSize_replicate n
    have empty : ("" : String).utf8ByteSize = 0 := rfl
    rw [heq, empty] at hsize
    omega
  · rw [String.toList_ofList] at hc
    rw [List.eq_of_mem_replicate hc]
    exact .inl rfl

end Text

namespace PathStore

/-- A server that may say anything in the report of a refusal, if only the status is not one that tells
whether there is an object. -/
inductive ServesLoosely : PathStore → (w : Wire) → w.Answer → PathStore → Prop where
  | kept {s s' : PathStore} {w : Wire} {answer : w.Answer} (serves : Serves s w answer s') :
      ServesLoosely s w answer s'
  | refused {s : PathStore} {req : Request} {status : Nat} {body : Body} (low : 400 ≤ status)
      (high : status < 600) (other : status ∉ [404, 409]) : ServesLoosely s (.send req) (.answer status body) s

end PathStore

section

variable {R : PathStore → (w : Wire) → w.Answer → PathStore → Prop} {r : ManagedResource} {σ σ' : PathStore}
  {response : Response}

theorem exists_fetch (hr : r.Addressed) (fits : Text.Url.Fits r.path) {a : Except OperatorError (Option Json)}
    (answer : R σ (.send r.getRequest) response σ') (result : ObjectStore.found r response = a) :
    ∃ w, Runs R (Client.handle (.fetch r) {}) σ w (a, {}) σ' := by
  have hhandle : Client.handle (.fetch r) {} = _ := congrArg (Client.unchanged {}) (hr.fetch_eq fits)
  rw [hhandle, ← result]
  exact ⟨_, .call answer (.done _ _)⟩

theorem exists_patch (hr : r.Addressed) (fits : Text.Url.Fits (r.path ++ Client.ownedQuery)) {body : Json}
    {a : Except OperatorError Unit} (answer : R σ (.send (r.patchRequest body)) response σ')
    (result : ObjectStore.written r response = a) :
    ∃ w, Runs R (Client.handle (.patch r body) {}) σ w (a, {}) σ' := by
  have hhandle : Client.handle (.patch r body) {} = _ := congrArg (Client.unchanged {}) (hr.patch_eq fits body)
  rw [hhandle, ← result]
  exact ⟨_, .call answer (.done _ _)⟩

theorem exists_create (hr : r.Addressed) (proper : r.Proper)
    (fits : Text.Url.Fits (r.collection ++ Client.ownedQuery)) {a : Except OperatorError Unit}
    (answer : R σ (.send r.postRequest) response σ') (result : ObjectStore.written r response = a) :
    ∃ w, Runs R (Client.handle (.create r) {}) σ w (a, {}) σ' := by
  have hhandle : Client.handle (.create r) {} = _ := congrArg (Client.unchanged {}) (hr.create_eq proper fits)
  rw [hhandle, ← result]
  exact ⟨_, .call answer (.done _ _)⟩

end

/-- What a refusal reports is believed whatever its status: a server that fails otherwise, and reports
so, makes an object vanish or appear. A status without such a report is no word about the object either.
What is read of an object lacks the members that metadata cannot have, and nothing is read of one whose
metadata is no metadata, not even after a patch that took effect. And a name can be too long to ask for. -/
theorem refusals_mislead :
    let r : ManagedResource := ⟨.configMap, { name := some "db", ns := some "demo" }, [], rfl⟩
    let free : PathStore := fun _ => none
    let there (j : Json) : PathStore := free.put r.path j
    let plain : Json := .obj [("apiVersion", .str "v1"), ("kind", .str "ConfigMap"),
      ("metadata", .obj [("name", .str "db"), ("namespace", .str "demo")])]
    let strange : Json := .obj [("apiVersion", .str "v1"), ("kind", .str "ConfigMap"),
      ("metadata", .obj [("clusterName", .str "east"), ("name", .str "db"), ("namespace", .str "demo")])]
    let broken : Json := .obj [("apiVersion", .str "v1"), ("kind", .str "ConfigMap"),
      ("metadata", .obj [("labels", .int 5), ("name", .str "db"), ("namespace", .str "demo")])]
    let long : ManagedResource := ⟨.configMap,
      { name := some (String.ofList (List.replicate 65535 'a')), ns := some "demo" }, [], rfl⟩
    (∃ w, Runs PathStore.ServesLoosely (Client.handle (.fetch r) {}) (there plain) w
      (.ok none, {}) (there plain)) ∧
    (∃ w, Runs PathStore.ServesLoosely (Client.handle (.patch r r.ownedFields) {}) (there plain) w
      (.error (.notFound "ConfigMap" "db"), {}) (there plain)) ∧
    (∃ w, Runs PathStore.ServesLoosely (Client.handle (.create r) {}) free w
      (.error (.alreadyExists "ConfigMap" "db"), {}) free) ∧
    (∃ w, Runs PathStore.Serves (Client.handle (.fetch r) {}) free w
      (.error (.notFound "ConfigMap" "db"), {}) free) ∧
    (∃ w, Runs PathStore.Serves (Client.handle (.fetch r) {}) (there strange) w
      (.ok (some plain), {}) (there strange)) ∧ strange.same plain = false ∧
    (∃ w, Runs PathStore.Serves (Client.handle (.fetch r) {}) (there broken) w
      (.error (.client .undecodable), {}) (there broken)) ∧
    (∃ w, Runs PathStore.Serves (Client.handle (.patch r r.ownedFields) {}) (there broken) w
      (.error (.client .undecodable), {}) ((there broken).put r.path (broken.mergePatch r.ownedFields))) ∧
    Client.handle (.fetch long) {} = .done (.error (.client (.request (.target .tooLong))), {}) := by
  intro r free there plain strange broken long
  have hr : r.Addressed := ⟨⟨_, rfl, by decide⟩, ⟨_, rfl, by decide⟩⟩
  have proper : r.Proper := ⟨.nil, ObjectMeta.normal_of_rest_eq_nil rfl⟩
  have post : Text.Url.Fits (r.collection ++ Client.ownedQuery) := by decide
  have get : Text.Url.Fits r.path := by decide
  have patch : Text.Url.Fits (r.path ++ Client.ownedQuery) := by decide
  have hpath (j : Json) : there j r.path = some j := if_pos rfl
  have loosely (σ : PathStore) (req : Request) (code : Nat) (reason : String) :
      PathStore.ServesLoosely σ (.send req) (.refusal 500 code reason) σ :=
    .refused (by omega) (by omega) (by decide)
  have refuses {status code : Nat} (reason : String) (low : 400 ≤ status) (high : status < 600)
      (hcode : code ≤ 65535) := Response.refuses_refusal reason low high hcode
  have strangely : Client.dynamicObject? strange = some plain := by rfl
  have unreadable : Client.dynamicObject? broken = none := by rfl
  have merged : broken.mergePatch r.ownedFields = broken := by
    simp +decide [broken, r, ManagedResource.ownedFields, ManagedResource.ownedMetadata, Json.putFields,
      Json.mergePatch, Json.mergeMembers, Dictionary.insert, Dictionary.get?_cons, Json.obj?]
  have patched : Client.dynamicObject? (broken.mergePatch r.ownedFields) = none := by
    rw [merged]
    exact unreadable
  refine ⟨?vanished, ?gone, ?taken, ?unexplained, ?strange, by decide, ?broken, ?patched, ?long⟩
  case vanished =>
    have refuses : (Response.refusal 500 500 "NotFound").Refuses _ :=
      refuses "NotFound" (by omega) (by omega) (by omega)
    refine exists_fetch hr get (loosely _ _ 500 "NotFound") ?_
    rw [ObjectStore.found, Client.objectOf_of_refuses refuses]
    rfl
  case gone =>
    refine exists_patch hr patch (loosely _ _ 404 "") ?_
    rw [ObjectStore.written_of_refuses (refuses "" (by omega) (by omega) (by omega))]
    rfl
  case taken =>
    refine exists_create hr proper post (loosely _ _ 409 "AlreadyExists") ?_
    rw [ObjectStore.written_of_refuses (refuses "AlreadyExists" (by omega) (by omega) (by omega))]
    rfl
  case unexplained =>
    have refuses : (Response.refusal 404 404 "").Refuses _ := refuses "" (by omega) (by omega) (by omega)
    refine exists_fetch hr get ((PathStore.serves_get hr).2 (.inr ⟨_, refuses, .of_silent rfl, rfl⟩)) ?_
    rw [ObjectStore.found, Client.objectOf_of_refuses refuses]
    rfl
  case strange =>
    have holds := Response.holds_success strange
    refine exists_fetch hr get ((PathStore.serves_get hr).2 (.inl ⟨_, hpath strange, holds, rfl⟩)) ?_
    rw [ObjectStore.found, Client.objectOf_of_holds holds strangely]
    rfl
  case broken =>
    have holds := Response.holds_success broken
    refine exists_fetch hr get ((PathStore.serves_get hr).2 (.inl ⟨_, hpath broken, holds, rfl⟩)) ?_
    rw [ObjectStore.found, Client.objectOf_of_unreadable holds unreadable]
    rfl
  case patched =>
    have holds := Response.holds_success (broken.mergePatch r.ownedFields)
    refine exists_patch hr patch ((PathStore.serves_patch hr).2 (.inl ⟨_, hpath broken, holds, rfl⟩)) ?_
    rw [ObjectStore.written, Client.objectOf_of_unreadable holds patched]
    rfl
  case long =>
    have named : Text.IsDns (String.ofList (List.replicate 65535 'a')) := Text.isDns_replicate (by omega)
    have hlong : long.Addressed := ⟨⟨_, rfl, by decide⟩, ⟨_, rfl, named⟩⟩
    have tooLong : ¬ Text.Url.Fits long.path := by
      have hname : long.name = String.ofList (List.replicate 65535 'a') := rfl
      unfold Text.Url.Fits Text.Url.targetLimit ManagedResource.path
      rw [String.utf8ByteSize_append, hname, Text.utf8ByteSize_replicate]
      omega
    exact congrArg (Client.unchanged {}) (hlong.fetch_of_not_fits tooLong)

end AppServiceOperator
