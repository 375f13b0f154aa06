import AppServiceOperator.Migration.Run
import AppServiceOperator.Proofs.Effect.History
import AppServiceOperator.Reconcile.Ensure
/-!
# Attempts

All that bringing about one object and running the script can be, whatever the answers are. An object is
created; or its creation is refused; or it is there already, and then it is fetched, and patched where it
drifted (`ManagedResource.Attempt`). The script is run in one pod, if one is ready (`Migration.Attempt`).
Nothing is tried twice.
-/
namespace AppServiceOperator

open Program (History Path along_call bind_eq bind_call bind_done)

namespace ManagedResource

/-- The history of bringing about an object, with what it comes to. -/
inductive Attempt (r : ManagedResource) : History Call.Answer → Except OperatorError Convergence → Prop where
  | created : Attempt r [⟨.create r, .ok ()⟩] (.ok .created)
  | uncreated {e : OperatorError} (other : ∀ kind name, e ≠ .alreadyExists kind name) :
      Attempt r [⟨.create r, .error e⟩] (.error e)
  | unfetched {kind name : String} {e : OperatorError} :
      Attempt r [⟨.create r, .error (.alreadyExists kind name)⟩, ⟨.fetch r, .error e⟩] (.error e)
  | vanished {kind name : String} :
      Attempt r [⟨.create r, .error (.alreadyExists kind name)⟩, ⟨.fetch r, .ok none⟩] (.error r.vanished)
  | unchanged {kind name : String} {live : Json} (met : live.contains r.ownedFields = true) :
      Attempt r [⟨.create r, .error (.alreadyExists kind name)⟩, ⟨.fetch r, .ok (some live)⟩] (.ok .unchanged)
  | patched {kind name : String} {live : Json} (drifted : live.contains r.ownedFields = false) :
      Attempt r [⟨.create r, .error (.alreadyExists kind name)⟩, ⟨.fetch r, .ok (some live)⟩,
        ⟨.patch r r.ownedFields, .ok ()⟩] (.ok .patched)
  | unpatched {kind name : String} {live : Json} {e : OperatorError}
      (drifted : live.contains r.ownedFields = false) :
      Attempt r [⟨.create r, .error (.alreadyExists kind name)⟩, ⟨.fetch r, .ok (some live)⟩,
        ⟨.patch r r.ownedFields, .error e⟩] (.error e)

/-- Bringing about an object can be nothing else. -/
theorem attempt_of_path {r : ManagedResource} {h : History Call.Answer} {a : Except OperatorError Convergence}
    (path : Path r.ensure h (.done a)) : r.Attempt h a := by
  suffices along : r.ensure.Along (fun _ _ => True) r.Attempt [] by
    simpa using along.value path
  unfold ensure
  simp only [bind_eq, bind_call, bind_done, along_call]
  refine ⟨trivial, fun created => ?_⟩
  split
  · exact .created
  · refine ⟨trivial, fun fetched => ?_⟩
    dsimp only
    split
    · exact .unfetched
    · exact .vanished
    · rename_i live
      unfold amend
      split
      · rename_i met
        exact .unchanged met
      · rename_i drifted
        refine ⟨trivial, fun patched => ?_⟩
        simp only [bind_done]
        split
        · exact .patched (by simpa using drifted)
        · exact .unpatched (by simpa using drifted)
  · rename_i e other
    exact .uncreated fun kind name he => other kind name (he ▸ rfl)

end ManagedResource

namespace Migration

/-- The history of running the script, with what it comes to. -/
inductive Attempt (ns : String) (s : MigrationSettings) :
    History Call.Answer → Except OperatorError MigrationOutcome → Prop where
  | unlisted {e : OperatorError} : Attempt ns s [⟨.listPods ns Desired.databaseSelector, .error e⟩] (.error e)
  | notReady {pods : List Pod} (none : pods.find? Pod.isReadyDatabase = none) :
      Attempt ns s [⟨.listPods ns Desired.databaseSelector, .ok pods⟩] (.ok .notReady)
  | late {pods : List Pod} {pod : Pod} (first : pods.find? Pod.isReadyDatabase = some pod) :
      Attempt ns s [⟨.listPods ns Desired.databaseSelector, .ok pods⟩,
        ⟨.exec ns pod.metadata.anyName s.command s.timeoutSeconds, none⟩]
        (.error (.execTimeout pod.metadata.anyName s.timeoutSeconds))
  | broken {pods : List Pod} {pod : Pod} {e : OperatorError}
      (first : pods.find? Pod.isReadyDatabase = some pod) :
      Attempt ns s [⟨.listPods ns Desired.databaseSelector, .ok pods⟩,
        ⟨.exec ns pod.metadata.anyName s.command s.timeoutSeconds, some (.error e)⟩] (.error e)
  | ran {pods : List Pod} {pod : Pod} {output : ExecOutput}
      (first : pods.find? Pod.isReadyDatabase = some pod) :
      Attempt ns s [⟨.listPods ns Desired.databaseSelector, .ok pods⟩,
        ⟨.exec ns pod.metadata.anyName s.command s.timeoutSeconds, some (.ok output)⟩]
        (outcome pod.metadata.anyName output)

/-- Running the script can be nothing else. -/
theorem attempt_of_run {ns : String} {s : MigrationSettings} {h : History Call.Answer}
    {a : Except OperatorError MigrationOutcome} (path : Path (run ns s) h (.done a)) : Attempt ns s h a := by
  suffices along : (run ns s).Along (fun _ _ => True) (Attempt ns s) [] by
    simpa using along.value path
  unfold run
  simp only [bind_eq, bind_call, bind_done, along_call]
  refine ⟨trivial, fun listed => ?_⟩
  split
  · exact .unlisted
  · split
    · rename_i none
      exact .notReady none
    · rename_i first
      refine ⟨trivial, fun output => ?_⟩
      rcases output with _ | e | output
      · exact .late first
      · exact .broken first
      · exact .ran first

end Migration

end AppServiceOperator
