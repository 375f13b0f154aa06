import AppServiceOperator.Proofs.Manifest.Ordered
import AppServiceOperator.Proofs.Reconcile.Attempt
import AppServiceOperator.Proofs.Reconcile.Convergence
import AppServiceOperator.Proofs.Reconcile.Failure
/-!
# Bringing an object about while others write

The three calls about an object are not one step: between them others may create, change or delete it as
they like. `AnswersAmid` is a server in such company, and `ensure_amid_others` what can be relied on there:
after the last call of a success the object is there and contains what the operator owns, and the result
says whether it was the operator that wrote. It is said of all resources whose fields are in order, which
all are that are generated or read (`Desired.ordered_resources`, `ManagedResource.ordered_of_ofJson?`).
-/
namespace AppServiceOperator

open Program (Follows History Runs Turn follows_append follows_cons runs_iff)

namespace Program.Turn

/-- The call about an object failed, for whatever reason. -/
def Failed : Turn Call.Answer → Prop
  | ⟨.create _, answer⟩ | ⟨.patch .., answer⟩ => answer ≠ .ok ()
  | ⟨.fetch _, answer⟩ => ∃ e, answer = .error e
  | _ => False

/-- The call put something into the store. -/
def stored : Turn Call.Answer → Bool
  | ⟨.create _, .ok ()⟩ | ⟨.patch .., .ok ()⟩ => true
  | _ => false

end Program.Turn

namespace ObjectStore

/-- What a server does with a call that finds the store as it is: a creation stores the manifest, a fetch
returns the live object, a patch is merged into the live object, and a call that fails changes nothing. -/
inductive Handles : ObjectStore → (c : Call) → c.Answer → ObjectStore → Prop where
  | created {s : ObjectStore} {r : ManagedResource} :
      Handles s (.create r) (.ok ()) (s.put (.ofResource r) r.toJson)
  | fetched {s : ObjectStore} {r : ManagedResource} {live : Option Json} (there : s (.ofResource r) = live) :
      Handles s (.fetch r) (.ok live) s
  | patched {s : ObjectStore} {r : ManagedResource} {body live : Json}
      (there : s (.ofResource r) = some live) :
      Handles s (.patch r body) (.ok ()) (s.put (.ofResource r) (live.mergePatch body))
  | failed {s : ObjectStore} {c : Call} {answer : c.Answer} (failed : Turn.Failed ⟨c, answer⟩) :
      Handles s c answer s

/-- How the server answers among other writers: from one call to the next they make of the store whatever
they like, so that a call finds one that has nothing to do with what the last call left. -/
def AnswersAmid (_left : ObjectStore) (c : Call) (answer : c.Answer) (after : ObjectStore) : Prop :=
  ∃ found : ObjectStore, found.Handles c answer after

variable {s s' : ObjectStore} {h : History Call.Answer} {t : Turn Call.Answer}

/-- What the last call made of what it found. -/
theorem handles_of_follows (follows : Follows AnswersAmid s h s') (last : h.getLast? = some t) :
    ∃ found, Handles found t.call t.answer s' := by
  obtain ⟨before, rfl⟩ := List.getLast?_eq_some_iff.1 last
  obtain ⟨_, -, ending⟩ := follows_append.1 follows
  obtain ⟨_, handled, nothing⟩ := follows_cons.1 ending
  cases nothing
  exact handled

end ObjectStore

namespace Pass

/-- A failure is that of the last call. -/
theorem Shows.last {α : Type} {h before after : History Call.Answer} {t : Turn Call.Answer}
    {a : Except OperatorError α} {e : OperatorError} (shown : Shows h a)
    (heq : h = before ++ t :: after) (fault : t.fault? = some e) : after = [] ∧ a = .error e := by
  have inAll : e ∈ faults h := List.mem_filterMap.2 ⟨t, by simp [heq], fault⟩
  obtain rfl : a = .error e := shown.error inAll
  refine ⟨?_, rfl⟩
  obtain ⟨front, u, rfl, quiet, -⟩ := shown
  rcases cases_of_append heq with ⟨middle, rfl, -⟩ | ⟨later, rfl, hlater⟩
  · have inFront : e ∈ faults (before ++ t :: middle) := List.mem_filterMap.2 ⟨t, by simp, fault⟩
    rw [quiet] at inFront
    cases inFront
  · cases later with
    | nil => exact (List.cons.inj hlater).2.symm
    | cons u' later => cases later <;> cases (List.cons.inj hlater).2

/-- It is a success where no call failed. -/
theorem Shows.ok_iff {α : Type} {h : History Call.Answer} {a : Except OperatorError α} (shown : Shows h a) :
    (∃ v, a = .ok v) ↔ ∀ t ∈ h, t.fault? = none := by
  rw [← List.filterMap_eq_nil_iff]
  cases a with
  | ok v => exact ⟨fun _ => shown, fun _ => ⟨v, rfl⟩⟩
  | error e =>
    obtain ⟨before, t, rfl, quiet, fault⟩ := shown
    simp [fault]

end Pass

namespace ManagedResource

open ObjectStore (AnswersAmid put_self handles_of_follows)

variable {r : ManagedResource} {s s' : ObjectStore} {h : History Call.Answer}
  {a : Except OperatorError Convergence} {c : Convergence}

/-- The object that a success leaves contains what the operator owns of it: it is the manifest, or it was
found to contain that, or the patch made it so, whatever the patch was merged into. -/
theorem Attempt.holds (attempt : r.Attempt h (.ok c)) (hr : r.Regular) (follows : Follows AnswersAmid s h s') :
    s'.Holds r := by
  cases attempt with
  | created =>
    obtain ⟨found, handled⟩ := handles_of_follows follows rfl
    cases handled with
    | created => exact ⟨_, put_self .., contains_ownedFields hr⟩
    | failed failed => exact absurd rfl failed
  | @unchanged _ _ live met =>
    obtain ⟨found, handled⟩ := handles_of_follows follows rfl
    cases handled with
    | fetched there => exact ⟨live, there, met⟩
    | failed failed => exact absurd failed nofun
  | patched drifted =>
    obtain ⟨found, handled⟩ := handles_of_follows follows rfl
    cases handled with
    | patched there =>
      rename_i live
      have established : (live.mergePatch r.ownedFields).contains r.ownedFields = true :=
        Json.contains_mergePatch _ r.nullFree_ownedFields hr.wellFormed_ownedFields live
      exact ⟨_, put_self .., established⟩
    | failed failed => exact absurd rfl failed

/-- The result says whether the operator wrote. -/
theorem Attempt.stored_iff (attempt : r.Attempt h a) :
    (a = .ok .created ∨ a = .ok .patched) ↔ h.countP Turn.stored = 1 := by
  cases attempt <;> simp [Turn.stored]

/-- Others may create, change and delete objects as they like between the calls. Where bringing about an
object succeeds nevertheless, the live object contains what the operator owns of it right after the last
call. What was done is reported as it was: something was created or patched where exactly one write took
effect, and nothing where none did. A call that fails is the last one and its failure the result, and it
is a success where none fails; an object that was gone when it was fetched is a conflict, with nothing
written. -/
theorem ensure_amid_others (hr : r.Regular) (run : Runs AnswersAmid r.ensure s h a s') :
    (∀ c, a = .ok c → s'.Holds r) ∧
    ((a = .ok .created ∨ a = .ok .patched) ↔ h.countP Turn.stored = 1) ∧
    (a = .ok .unchanged → ∀ t ∈ h, t.stored = false) ∧
    (∀ before t after e, h = before ++ t :: after → t.fault? = some e → after = [] ∧ a = .error e) ∧
    (⟨.fetch r, .ok none⟩ ∈ h →
      a = .error (.conflict r.kind.name r.name "deleted while converging") ∧
      ∃ kind name, h = [⟨.create r, .error (.alreadyExists kind name)⟩, ⟨.fetch r, .ok none⟩]) ∧
    ((∃ c, a = .ok c) ↔ ∀ t ∈ h, t.fault? = none) := by
  obtain ⟨path, follows⟩ := runs_iff.1 run
  have attempt : r.Attempt h a := attempt_of_path path
  have shown : Pass.Shows h a := Pass.shows_of_ensure path
  refine ⟨?holds, attempt.stored_iff, ?quiet, ?last, ?vanished, shown.ok_iff⟩
  case holds =>
    rintro c rfl
    exact attempt.holds hr follows
  case quiet =>
    rintro rfl
    cases attempt
    simp [Turn.stored]
  case last =>
    intro before t after e heq fault
    exact shown.last heq fault
  case vanished =>
    intro gone
    have result : a = .error r.vanished := shown.error (List.mem_filterMap.2 ⟨_, gone, rfl⟩)
    cases attempt with
    | vanished => exact ⟨rfl, _, _, rfl⟩
    | _ => simp at gone

/-- A service that was emptied before it was fetched, and made anew before it was patched. -/
theorem patched_amid_others :
    let ctx : Context := ⟨"gramola", "demo", ⟨"v1", "AppService", "gramola", "uid", some true, none⟩, none⟩
    let r : ManagedResource := Desired.service ctx "gateway" [("http", 8080)]
    ∃ s s' h, Runs AnswersAmid r.ensure s h (.ok .patched) s' ∧ s'.Holds r ∧ h.countP Turn.stored = 1 := by
  intro ctx r
  let emptied : ObjectStore := fun _ => some (.obj [])
  let anew : ObjectStore := fun _ => some (.obj [("spec", .obj [("type", .str "NodePort")])])
  have drifted : (Json.obj []).contains r.ownedFields = false := by
    decide +kernel
  have amended : ∃ h s', Runs AnswersAmid (r.amend (.obj [])) emptied h (.ok .patched) s' := by
    unfold amend
    rw [drifted]
    exact ⟨_, _, .call ⟨anew, .patched rfl⟩ (.done _ _)⟩
  obtain ⟨h, s', amended⟩ := amended
  have run : Runs AnswersAmid r.ensure emptied
      (⟨.create r, .error (.alreadyExists "Service" "gateway")⟩ :: ⟨.fetch r, .ok (some (.obj []))⟩ :: h)
      (.ok .patched) s' :=
    .call ⟨emptied, .failed nofun⟩ (.call ⟨emptied, .fetched rfl⟩ amended)
  have relied := ensure_amid_others (Desired.solid_service ctx "gateway" [("http", 8080)]).regular run
  exact ⟨emptied, s', _, run, relied.1 _ rfl, relied.2.1.1 (.inr rfl)⟩

end ManagedResource

end AppServiceOperator
