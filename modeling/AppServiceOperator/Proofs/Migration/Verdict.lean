import AppServiceOperator.Proofs.Migration.CleanRun
/-!
# What a run of the script comes to

A run asks for two things at most, the pods of the database and one command, and `Replies` says how both
are answered: by any list or an error, and by a session with any bytes and any exit status, an error, or
not in time. That settles which calls are made and what the run comes to (`settled_of_run`). The session
alone settles whether the script succeeded, and what it is blamed on where it did not.
-/
namespace AppServiceOperator

open Program (History Runs runs_call runs_done bind_eq bind_call bind_done)

/-! ## Sessions -/

namespace ExecSession

/-- Nothing but white space on the error stream, and a report of success. -/
def Succeeded (s : ExecSession) : Prop :=
  Text.trim (Text.Utf8.decodeLossy s.stderr) = "" ∧
    ∃ status, s.status = some status ∧ status.status = some "Success"

/-- What the failure of a session is put down to: whatever is on the error stream; else what the exit
status says, its message before its reason; and where nothing is said, that nothing was. -/
inductive BlamedOn (s : ExecSession) : String → Prop where
  | stderr (loud : Text.trim (Text.Utf8.decodeLossy s.stderr) ≠ "") :
      BlamedOn s (Text.trim (Text.Utf8.decodeLossy s.stderr))
  | message {status : ExitStatus} {message : String} (quiet : Text.trim (Text.Utf8.decodeLossy s.stderr) = "")
      (reported : s.status = some status) (failed : status.status ≠ some "Success")
      (told : status.message = some message) : BlamedOn s message
  | reason {status : ExitStatus} {reason : String} (quiet : Text.trim (Text.Utf8.decodeLossy s.stderr) = "")
      (reported : s.status = some status) (failed : status.status ≠ some "Success")
      (untold : status.message = none) (given : status.reason = some reason) : BlamedOn s reason
  | failure {status : ExitStatus} (quiet : Text.trim (Text.Utf8.decodeLossy s.stderr) = "")
      (reported : s.status = some status) (failed : status.status ≠ some "Success")
      (untold : status.message = none) (unreasoned : status.reason = none) :
      BlamedOn s "command exited with a failure status"
  | ending (quiet : Text.trim (Text.Utf8.decodeLossy s.stderr) = "") (unreported : s.status = none) :
      BlamedOn s "exec session ended without an exit status"

theorem succeeded_or_blamed (s : ExecSession) : s.Succeeded ∨ ∃ message, s.BlamedOn message := by
  by_cases quiet : Text.trim (Text.Utf8.decodeLossy s.stderr) = ""
  case neg => exact .inr ⟨_, .stderr quiet⟩
  cases reported : s.status with
  | none => exact .inr ⟨_, .ending quiet reported⟩
  | some status =>
    by_cases success : status.status = some "Success"
    · exact .inl ⟨quiet, status, reported, success⟩
    · cases told : status.message with
      | some message => exact .inr ⟨_, .message quiet reported success told⟩
      | none =>
        cases given : status.reason with
        | some reason => exact .inr ⟨_, .reason quiet reported success told given⟩
        | none => exact .inr ⟨_, .failure quiet reported success told given⟩

end ExecSession

namespace Migration

theorem outcome_of_succeeded {s : ExecSession} (h : s.Succeeded) (pod : String) :
    outcome pod s.output = .ok (.completed pod (Text.Utf8.decodeLossy s.stdout)) :=
  outcome_eq_completed.2 ⟨Text.trim_eq_empty.1 h.1, exitFailure_eq_none.2 h.2, rfl, rfl⟩

/-- Where the error stream is quiet, the exit status has the say. -/
theorem outcome_of_quiet {s : ExecSession} {message : String}
    (quiet : Text.trim (Text.Utf8.decodeLossy s.stderr) = "") (failure : exitFailure s.status = some message)
    (pod : String) : outcome pod s.output = .error (.migration pod message) := by
  simp only [outcome, ExecSession.output, quiet, failure, ne_eq, not_true_eq_false, if_false]

theorem outcome_of_blamed {s : ExecSession} {message : String} (h : s.BlamedOn message) (pod : String) :
    outcome pod s.output = .error (.migration pod message) := by
  cases h with
  | stderr loud => simp only [outcome, ExecSession.output, ne_eq, loud, not_false_eq_true, if_true]
  | message quiet reported failed told =>
    exact outcome_of_quiet quiet (by simp [exitFailure, reported, failed, told]) pod
  | reason quiet reported failed untold given =>
    exact outcome_of_quiet quiet (by simp [exitFailure, reported, failed, untold, given]) pod
  | failure quiet reported failed untold unreasoned =>
    exact outcome_of_quiet quiet (by simp [exitFailure, reported, failed, untold, unreasoned]) pod
  | ending quiet unreported => exact outcome_of_quiet quiet (by simp [exitFailure, unreported]) pod

/-! ## Replies -/

/-- How the calls of a run are answered. -/
structure Replies where
  pods : Except OperatorError (List Pod)
  /-- None where the command does not end in time. -/
  session : Option (Except OperatorError ExecSession)

namespace Replies

/-- The answers to the two calls; a run makes no others. -/
def Gives (w : Replies) : Unit → (c : Call) → c.Answer → Unit → Prop
  | _, .listPods .., answer, _ => answer = w.pods
  | _, .exec .., answer, _ => answer = w.session.map (·.map (·.output))
  | _, _, _, _ => True

/-- Pods are listed, if any, and none of them is ready. -/
def NoneReady (w : Replies) : Prop := ∃ pods, w.pods = .ok pods ∧ ∀ p ∈ pods, ¬ p.Ready

/-- The pod is listed and ready, and none before it is. -/
def FirstReady (w : Replies) (pod : Pod) : Prop :=
  ∃ front back, w.pods = .ok (front ++ pod :: back) ∧ pod.Ready ∧ ∀ p ∈ front, ¬ p.Ready

variable {w : Replies} {pod : Pod}

theorem noneReady_iff : w.NoneReady ↔ ∃ pods, w.pods = .ok pods ∧ pods.find? Pod.isReadyDatabase = none := by
  simp only [NoneReady, List.find?_eq_none, Pod.isReadyDatabase_iff]

theorem firstReady_iff :
    w.FirstReady pod ↔ ∃ pods, w.pods = .ok pods ∧ pods.find? Pod.isReadyDatabase = some pod := by
  simp only [FirstReady, List.find?_eq_some_iff_append, Pod.isReadyDatabase_iff, Bool.not_eq_eq_eq_not,
    Bool.not_true, ← Bool.not_eq_true]
  constructor
  · rintro ⟨front, back, listed, ready, first⟩
    exact ⟨_, listed, ready, front, back, rfl, first⟩
  · rintro ⟨_, listed, ready, front, back, rfl, first⟩
    exact ⟨front, back, listed, ready, first⟩

/-- Where a listed pod is ready, one of them is the first. -/
theorem exists_firstReady {pods : List Pod} (listed : w.pods = .ok pods) (ready : ∃ p ∈ pods, p.Ready) :
    ∃ pod, w.FirstReady pod := by
  cases found : pods.find? Pod.isReadyDatabase with
  | some pod => exact ⟨pod, firstReady_iff.2 ⟨pods, listed, found⟩⟩
  | none =>
    obtain ⟨p, hp, hready⟩ := ready
    exact absurd (Pod.isReadyDatabase_iff.2 hready) (List.find?_eq_none.1 found p hp)

theorem FirstReady.unique {pod' : Pod} (h : w.FirstReady pod) (h' : w.FirstReady pod') : pod = pod' := by
  obtain ⟨pods, listed, found⟩ := firstReady_iff.1 h
  obtain ⟨pods', listed', found'⟩ := firstReady_iff.1 h'
  cases listed.symm.trans listed'
  exact Option.some.inj (found.symm.trans found')

theorem FirstReady.not_noneReady (h : w.FirstReady pod) : ¬ w.NoneReady := by
  rintro ⟨pods, listed, unready⟩
  obtain ⟨front, back, listed', ready, -⟩ := h
  cases listed.symm.trans listed'
  exact unready pod (by simp) ready

theorem cases_pods (w : Replies) : (∃ e, w.pods = .error e) ∨ w.NoneReady ∨ ∃ pod, w.FirstReady pod := by
  cases listed : w.pods with
  | error e => exact .inl ⟨e, rfl⟩
  | ok pods =>
    by_cases ready : ∃ p ∈ pods, p.Ready
    · exact .inr (.inr (exists_firstReady listed ready))
    · exact .inr (.inl ⟨pods, listed, fun p hp hready => ready ⟨p, hp, hready⟩⟩)

end Replies

/-! ## Runs -/

section Runs

variable {ns : String} {settings : MigrationSettings} {w : Replies} {h : History Call.Answer}
  {result : Except OperatorError MigrationOutcome}

/-- What the command in a pod amounts to. -/
def verdict (settings : MigrationSettings) (pod : String) :
    Option (Except OperatorError ExecSession) → Except OperatorError MigrationOutcome
  | none => .error (.execTimeout pod settings.timeoutSeconds)
  | some (.error e) => .error e
  | some (.ok session) => outcome pod session.output

/-- A call that the replies say the answer to is answered so. -/
theorem runs_given {α : Type} {c : Call} {next : c.Answer → Operation α} {answer : c.Answer} {a : α}
    (given : ∀ answer', w.Gives () c answer' () ↔ answer' = answer) :
    Runs w.Gives (.call c next) () h a () ↔
      ∃ h', Runs w.Gives (next answer) () h' a () ∧ h = ⟨c, answer⟩ :: h' := by
  rw [runs_call]
  constructor
  · rintro ⟨answer', _, h', rfl, gives, rest⟩
    cases (given answer').1 gives
    exact ⟨h', rest, rfl⟩
  · rintro ⟨h', rest, rfl⟩
    exact ⟨answer, (), h', rfl, (given answer).2 rfl, rest⟩

/-- The list of pods comes first. -/
theorem runs_run_iff :
    Runs w.Gives (run ns settings) () h result () ↔
      ∃ h', Runs w.Gives (match w.pods with
          | .error e => .done (.error e)
          | .ok pods =>
            match pods.find? Pod.isReadyDatabase with
            | none => .done (.ok .notReady)
            | some pod => runIn ns pod.metadata.anyName settings) () h' result () ∧
        h = ⟨.listPods ns Desired.databaseSelector, w.pods⟩ :: h' :=
  runs_given fun _ => Iff.rfl

/-- Then there may be the command in one of them. -/
theorem runs_runIn_iff {pod : String} :
    Runs w.Gives (runIn ns pod settings) () h result () ↔
      h = [⟨.exec ns pod settings.command settings.timeoutSeconds, w.session.map (·.map (·.output))⟩] ∧
        result = verdict settings pod w.session := by
  unfold runIn
  rw [bind_eq, bind_call, runs_given fun _ => Iff.rfl]
  rcases w.session with _ | e | session
  all_goals simp [runs_done, verdict, Except.map, and_assoc, and_comm]

theorem runs_of_error {e : OperatorError} (listed : w.pods = .error e) :
    Runs w.Gives (run ns settings) () h result () ↔
      h = [⟨.listPods ns Desired.databaseSelector, w.pods⟩] ∧ result = .error e := by
  simp [runs_run_iff, listed, runs_done, and_assoc, and_comm]

theorem runs_of_noneReady (unready : w.NoneReady) :
    Runs w.Gives (run ns settings) () h result () ↔
      h = [⟨.listPods ns Desired.databaseSelector, w.pods⟩] ∧ result = .ok .notReady := by
  obtain ⟨pods, listed, none⟩ := Replies.noneReady_iff.1 unready
  simp [runs_run_iff, listed, none, runs_done, and_assoc, and_comm]

theorem runs_of_firstReady {pod : Pod} (first : w.FirstReady pod) :
    Runs w.Gives (run ns settings) () h result () ↔
      h = [⟨.listPods ns Desired.databaseSelector, w.pods⟩,
        ⟨.exec ns pod.metadata.anyName settings.command settings.timeoutSeconds,
          w.session.map (·.map (·.output))⟩] ∧
      result = verdict settings pod.metadata.anyName w.session := by
  obtain ⟨pods, listed, found⟩ := Replies.firstReady_iff.1 first
  simp [runs_run_iff, listed, found, runs_runIn_iff, and_comm]

end Runs

/-- How the replies settle which calls are made, and what they come to. -/
structure Settled (ns : String) (settings : MigrationSettings) (w : Replies) (calls : List Call)
    (result : Except OperatorError MigrationOutcome) : Prop where
  /-- Without a list nothing else is asked for, and the error is passed on. -/
  unlisted : ∀ e, w.pods = .error e →
    calls = [.listPods ns Desired.databaseSelector] ∧ result = .error e
  /-- That the database is not ready is said exactly where no listed pod is. -/
  notReady : result = .ok .notReady ↔ w.NoneReady
  /-- Then there is no command. -/
  idle : w.NoneReady → calls = [.listPods ns Desired.databaseSelector]
  /-- Otherwise there is one, in the first pod that is ready. -/
  once : ∀ pods, w.pods = .ok pods → (∃ p ∈ pods, p.Ready) → ∃ pod, w.FirstReady pod ∧
    calls = [.listPods ns Desired.databaseSelector,
      .exec ns pod.metadata.anyName settings.command settings.timeoutSeconds]
  /-- A run is completed exactly if the command ended in time with a session that succeeded. -/
  completed : ∀ name stdout, result = .ok (.completed name stdout) ↔
    ∃ pod session, w.FirstReady pod ∧ w.session = some (.ok session) ∧ session.Succeeded ∧
      name = pod.metadata.anyName ∧ stdout = Text.Utf8.decodeLossy session.stdout
  /-- Any other session fails the migration, with what it is blamed on. -/
  failed : ∀ pod session, w.FirstReady pod → w.session = some (.ok session) → ¬ session.Succeeded →
    ∃ message, session.BlamedOn message ∧ result = .error (.migration pod.metadata.anyName message)
  /-- The error of a command is passed on. -/
  broken : ∀ pod e, w.FirstReady pod → w.session = some (.error e) → result = .error e
  late : ∀ pod, w.FirstReady pod → w.session = none →
    result = .error (.execTimeout pod.metadata.anyName settings.timeoutSeconds)

section Settled

variable {ns : String} {settings : MigrationSettings} {w : Replies}

theorem settled_of_error {e : OperatorError} (listed : w.pods = .error e) :
    Settled ns settings w [.listPods ns Desired.databaseSelector] (.error e) := by
  have notOk (pods : List Pod) : w.pods ≠ .ok pods := by simp [listed]
  have unready : ¬ w.NoneReady := fun ⟨pods, listed', _⟩ => notOk pods listed'
  have unfound (pod : Pod) : ¬ w.FirstReady pod := fun ⟨_, _, listed', _⟩ => notOk _ listed'
  exact {
    unlisted e' listed' := by
      cases listed.symm.trans listed'
      exact ⟨rfl, rfl⟩
    notReady := by simp [unready]
    idle _ := rfl
    once pods listed' := absurd listed' (notOk pods)
    completed := by simp [unfound]
    failed pod _ first := absurd first (unfound pod)
    broken pod _ first := absurd first (unfound pod)
    late pod first := absurd first (unfound pod) }

theorem settled_of_noneReady (unready : w.NoneReady) :
    Settled ns settings w [.listPods ns Desired.databaseSelector] (.ok .notReady) := by
  have unfound (pod : Pod) : ¬ w.FirstReady pod := fun first => first.not_noneReady unready
  exact {
    unlisted e listed' := by
      obtain ⟨pods, listed, -⟩ := unready
      cases listed.symm.trans listed'
    notReady := iff_of_true rfl unready
    idle _ := rfl
    once pods listed ready := by
      obtain ⟨pod, first⟩ := Replies.exists_firstReady listed ready
      exact absurd first (unfound pod)
    completed := by simp [unfound]
    failed pod _ first := absurd first (unfound pod)
    broken pod _ first := absurd first (unfound pod)
    late pod first := absurd first (unfound pod) }

theorem settled_of_firstReady {pod : Pod} (first : w.FirstReady pod) :
    Settled ns settings w [.listPods ns Desired.databaseSelector,
      .exec ns pod.metadata.anyName settings.command settings.timeoutSeconds]
      (verdict settings pod.metadata.anyName w.session) where
  unlisted e failed := by
    obtain ⟨front, back, listed, -⟩ := first
    cases failed.symm.trans listed
  notReady := by
    refine iff_of_false ?_ first.not_noneReady
    rcases w.session with _ | e | session
    · simp [verdict]
    · simp [verdict]
    · rcases session.succeeded_or_blamed with succeeded | ⟨message, blamed⟩
      · simp [verdict, outcome_of_succeeded succeeded]
      · simp [verdict, outcome_of_blamed blamed]
  idle unready := absurd unready first.not_noneReady
  once _ _ _ := ⟨pod, first, rfl⟩
  completed name stdout := by
    constructor
    · intro completed
      rcases hsession : w.session with _ | e | session
      · simp [verdict, hsession] at completed
      · simp [verdict, hsession] at completed
      · rw [hsession, verdict] at completed
        rcases session.succeeded_or_blamed with succeeded | ⟨message, blamed⟩
        · rw [outcome_of_succeeded succeeded] at completed
          cases completed
          exact ⟨pod, session, first, rfl, succeeded, rfl, rfl⟩
        · rw [outcome_of_blamed blamed] at completed
          cases completed
    · rintro ⟨pod', session, first', hsession, succeeded, rfl, rfl⟩
      rw [hsession, ← first.unique first', verdict, outcome_of_succeeded succeeded]
  failed pod' session first' hsession unsuccessful := by
    rcases session.succeeded_or_blamed with succeeded | ⟨message, blamed⟩
    · exact absurd succeeded unsuccessful
    · exact ⟨message, blamed, by rw [hsession, ← first.unique first', verdict, outcome_of_blamed blamed]⟩
  broken pod' e first' hsession := by rw [hsession, verdict]
  late pod' first' hsession := by rw [hsession, ← first.unique first', verdict]

end Settled

/-- Whatever the settings and the replies, there is one way for a run to go, to the end, and they settle it. -/
theorem settled_of_run (ns : String) (settings : MigrationSettings) (w : Replies) :
    ∃ h result, (∀ h' result', Runs w.Gives (run ns settings) () h' result' () ↔ h' = h ∧ result' = result) ∧
      Settled ns settings w (h.map (·.call)) result := by
  rcases w.cases_pods with ⟨e, listed⟩ | unready | ⟨pod, first⟩
  · exact ⟨_, _, fun _ _ => runs_of_error listed, settled_of_error listed⟩
  · exact ⟨_, _, fun _ _ => runs_of_noneReady unready, settled_of_noneReady unready⟩
  · exact ⟨_, _, fun _ _ => runs_of_firstReady first, settled_of_firstReady first⟩

end Migration

end AppServiceOperator
