import AppServiceOperator.Proofs.Interleaving.System
import AppServiceOperator.Proofs.Reconcile.Result
/-!
# Passes that nobody disturbs

A pass whose AppService nobody else writes, over a store that accepts a write exactly where it carries
the current version and answers it with the object as it was stored (`AppStore.AnswersAlone`). The
AppService that the pass has in hand is then always the stored one as far as its version goes
(`Undisturbed`), so the pass never meets a conflict, although it writes the status twice where the
script ran.
-/
namespace AppServiceOperator

open Program (History Path Turn Runs Follows follows_nil follows_cons follows_append runs_iff runs_run)

namespace AppStore

/-- How the store answers a pass while nobody else writes the AppService: a write is refused only where
its version is not the current one. The AppService may be unreadable or not be there, and all calls
that are not about it may be answered in any way. -/
inductive AnswersAlone : AppStore → (c : Call) → c.Answer → AppStore → Prop where
  | fetched {s : AppStore} {ns name : String} : AnswersAlone s (.fetchApp ns name) (.ok (some s.current)) s
  | missing {s : AppStore} {ns name : String} : AnswersAlone s (.fetchApp ns name) (.ok none) s
  | notFetched {s : AppStore} {ns name : String} (e : OperatorError) :
      AnswersAlone s (.fetchApp ns name) (.error e) s
  | replaced {s : AppStore} {app : AppService} (version : String) (current : app.version = s.current.version) :
      AnswersAlone s (.replaceApp app)
        (.ok (s.install version app.metadata app.spec s.current.status).current)
        (s.install version app.metadata app.spec s.current.status)
  | notReplaced {s : AppStore} {app : AppService} (e : OperatorError)
      (stale : app.version ≠ s.current.version) : AnswersAlone s (.replaceApp app) (.error e) s
  | written {s : AppStore} {app : AppService} (version : String) (current : app.version = s.current.version) :
      AnswersAlone s (.writeStatus app)
        (.ok (s.install version s.current.metadata s.current.spec app.status).current)
        (s.install version s.current.metadata s.current.spec app.status)
  | notWritten {s : AppStore} {app : AppService} (e : OperatorError)
      (stale : app.version ≠ s.current.version) : AnswersAlone s (.writeStatus app) (.error e) s
  | other {s : AppStore} {c : Call} (other : ¬ c.OnApp) (answer : c.Answer) : AnswersAlone s c answer s

variable {s s' : AppStore} {w : AppService} {c : Call} {h : History Call.Answer}
  {answer : Except OperatorError AppService}

/-- Calls that are not about the AppService leave it alone. -/
theorem AnswersAlone.eq_of_other {answer : c.Answer} (answers : s.AnswersAlone c answer s')
    (other : ¬ c.OnApp) : s' = s := by
  cases answers with
  | other => rfl
  | _ => exact absurd trivial other

theorem eq_of_follows (follows : Follows AnswersAlone s h s') (quiet : ∀ t ∈ h, ¬ t.call.OnApp) :
    s' = s := by
  induction follows with
  | nil s => rfl
  | cons first _ ih =>
    obtain ⟨other, quiet⟩ := List.forall_mem_cons.1 quiet
    rw [ih quiet, first.eq_of_other other]

/-- A mark with the current version is stored, and answered with what was stored. -/
theorem AnswersAlone.mark (answers : s.AnswersAlone (.replaceApp w) answer s')
    (current : w.version = s.current.version) : answer = .ok s'.current := by
  cases answers with
  | replaced => rfl
  | notReplaced e stale => exact absurd current stale
  | other other => exact absurd trivial other

/-- A status with the current version is stored, and answered with what was stored. -/
theorem AnswersAlone.write (answers : s.AnswersAlone (.writeStatus w) answer s')
    (current : w.version = s.current.version) :
    answer = .ok s'.current ∧ s'.current.status = w.status := by
  cases answers with
  | written => exact ⟨rfl, rfl⟩
  | notWritten e stale => exact absurd current stale
  | other other => exact absurd trivial other

end AppStore

namespace Call

theorem OnObjects.not_onApp {c : Call} (h : c.OnObjects) : ¬ c.OnApp := by
  cases c <;> first | exact id | exact h.elim

theorem OnPods.not_onApp {c : Call} (h : c.OnPods) : ¬ c.OnApp := by
  cases c <;> first | exact id | exact h.elim

end Call

/-- Whether the turn is a write of the AppService that was answered with an error. -/
def Program.Turn.rejected : Turn Call.Answer → Bool
  | ⟨.replaceApp _, .error _⟩ | ⟨.writeStatus _, .error _⟩ => true
  | _ => false

namespace Pass

open AppStore (AnswersAlone)

variable {settings : PassSettings} {key app base : AppService} {s s' : AppStore} {h : History Call.Answer}
  {progress : Except OperatorError Progress}

/-- What is true when a pass has brought an AppService about and nobody disturbed it. -/
structure Undisturbed (h : History Call.Answer) (base : AppService)
    (progress : Except OperatorError Progress) (s : AppStore) : Prop where
  accepted : ∀ t ∈ h, t.rejected = false
  /-- The AppService to record the outcome in carries the current version. -/
  version : base.version = s.current.version
  stored : progress ≠ .ok .statusNotWritten
  /-- The script did not run, or its result is the one thing that was written. -/
  result : statusWrites h = [] ∧ (∀ t ∈ h, t.completes = false) ∨
    (∃ w, statusWrites h = [(w, .ok base)] ∧ base.status = w.status) ∧ (∃ t ∈ h, t.completes = true) ∧
      ∃ action requeue, progress = .ok (.converged action requeue)

theorem Converged.not_onApp (converged : Converged settings app h) : ∀ t ∈ h, ¬ t.call.OnApp :=
  fun t ht => (converged.onObjects t ht).not_onApp

theorem not_onApp_of_ran {r : Except OperatorError MigrationOutcome}
    (ran : Path (runMigration settings app) h (.done r)) : ∀ t ∈ h, ¬ t.call.OnApp :=
  fun t ht => (onPods_of_runMigration ran t ht).not_onApp

theorem rejected_eq_false {t : Turn Call.Answer} (other : ¬ t.call.OnApp) : t.rejected = false := by
  obtain ⟨c, answer⟩ := t
  cases c <;> first | rfl | exact absurd trivial other

theorem statusWrites_of_other (quiet : ∀ t ∈ h, ¬ t.call.OnApp) : statusWrites h = [] := by
  refine statusWrites_eq_nil fun t ht => Turn.statusWrite?_of_ne fun w hw => ?_
  have other := quiet t ht
  rw [hw] at other
  exact other trivial

/-- The script runs cleanly only in a migration that is reported as completed. -/
theorem completes_of_run {r : Except OperatorError MigrationOutcome}
    (ran : Path (runMigration settings app) h (.done r)) :
    (∃ t ∈ h, t.completes = true) ↔ Migration.isCompleted r = true := by
  have count : cleanRuns h = (Migration.isCompleted r).toNat := cleanRuns_of_run ran
  rw [← List.countP_pos_iff (p := Turn.completes), ← cleanRuns, count]
  cases Migration.isCompleted r <;> simp

theorem Undisturbed.of_quiet (quiet : ∀ t ∈ h, ¬ t.call.OnApp) (silent : ∀ t ∈ h, t.completes = false)
    (stored : progress ≠ .ok .statusNotWritten) (version : base.version = s.current.version) :
    Undisturbed h base progress s where
  accepted t ht := rejected_eq_false (quiet t ht)
  version := version
  stored := stored
  result := .inl ⟨statusWrites_of_other quiet, silent⟩

theorem Converged.not_completes (converged : Converged settings app h) : ∀ t ∈ h, t.completes = false :=
  fun t ht => (converged.onObjects t ht).aside.completes_eq_false t.answer

theorem not_completes_of_run {r : Except OperatorError MigrationOutcome}
    (ran : Path (runMigration settings app) h (.done r)) (unclean : Migration.isCompleted r = false) :
    ∀ t ∈ h, t.completes = false := by
  intro t ht
  by_contra clean
  rw [Bool.not_eq_false] at clean
  have completed := (completes_of_run ran).1 ⟨t, ht, clean⟩
  rw [unclean] at completed
  cases completed

/-! ## Along a pass -/

/-- A migration that was run over the objects leaves the stored AppService alone. -/
theorem eq_of_migrated {hc hm : History Call.Answer} {r : Except OperatorError MigrationOutcome}
    (converged : Converged settings app hc) (ran : Path (runMigration settings app) hm (.done r))
    (follows : Follows AnswersAlone s (hc ++ hm) s') : s' = s :=
  AppStore.eq_of_follows follows
    (List.forall_mem_append.2 ⟨converged.not_onApp, not_onApp_of_ran ran⟩)

theorem Driven.undisturbed (driven : Driven settings s.current h (base, progress))
    (follows : Follows AnswersAlone s h s') : Undisturbed h base progress s' := by
  cases driven with
  | invalid | noContext =>
    obtain rfl := follows_nil.1 follows
    exact .of_quiet (by simp) (by simp) nofun rfl
  | notMarked =>
    obtain ⟨s₁, refused, -⟩ := follows_cons.1 follows
    cases refused.mark rfl
  | @marked stored =>
    obtain ⟨s₁, marked, published⟩ := follows_cons.1 follows
    obtain rfl := AppStore.eq_of_follows published (by simp [Call.OnApp])
    cases marked.mark rfl
    refine ⟨?_, rfl, nofun, .inl ⟨rfl, ?_⟩⟩
    · simp [Turn.rejected]
    · simp [Turn.completes]
  | stuck valid initialized context objects =>
    have onObjects := (converge_onObjects s.current _ []).turns objects
    have quiet : ∀ t ∈ h, ¬ t.call.OnApp := fun t ht => (onObjects t ht).not_onApp
    obtain rfl := AppStore.eq_of_follows follows quiet
    exact .of_quiet quiet (fun t ht => (onObjects t ht).aside.completes_eq_false t.answer) nofun rfl
  | settled converged =>
    obtain rfl := AppStore.eq_of_follows follows converged.not_onApp
    exact .of_quiet converged.not_onApp converged.not_completes nofun rfl
  | waiting converged due ran =>
    obtain rfl := eq_of_migrated converged ran follows
    refine .of_quiet ?_ ?_ nofun rfl
    · exact List.forall_mem_append.2 ⟨converged.not_onApp, not_onApp_of_ran ran⟩
    · exact List.forall_mem_append.2 ⟨converged.not_completes, not_completes_of_run ran rfl⟩
  | unmigrated converged due ran =>
    obtain ⟨s₁, migrated, published⟩ := follows_append.1 follows
    obtain rfl := eq_of_migrated converged ran migrated
    obtain rfl := AppStore.eq_of_follows published (by simp [Call.OnApp])
    refine .of_quiet ?_ ?_ nofun rfl
    · simp only [List.forall_mem_append]
      exact ⟨⟨converged.not_onApp, not_onApp_of_ran ran⟩, by simp [Call.OnApp]⟩
    · simp only [List.forall_mem_append]
      exact ⟨⟨converged.not_completes, not_completes_of_run ran rfl⟩, by simp [Turn.completes]⟩
  | unstored converged due ran =>
    rw [List.append_assoc] at follows
    obtain ⟨s₁, migrated, written⟩ := follows_append.1 follows
    obtain rfl := eq_of_migrated converged ran migrated
    obtain ⟨s₂, refused, -⟩ := follows_cons.1 written
    cases (refused.write rfl).1
  | @migrated hc hm pod stdout stored converged due ran =>
    rw [List.append_assoc] at follows
    obtain ⟨s₁, migrated, written⟩ := follows_append.1 follows
    obtain rfl := eq_of_migrated converged ran migrated
    obtain ⟨s₂, accepted, published⟩ := follows_cons.1 written
    obtain rfl := AppStore.eq_of_follows published (by simp [Call.OnApp])
    obtain ⟨told, kept⟩ := accepted.write rfl
    cases told
    have quiet : ∀ t ∈ hc ++ hm, ¬ t.call.OnApp :=
      List.forall_mem_append.2 ⟨converged.not_onApp, not_onApp_of_ran ran⟩
    obtain ⟨t, ht, clean⟩ := (completes_of_run ran).2 rfl
    refine ⟨?accepted, rfl, nofun, .inr ⟨⟨_, ?writes, kept⟩, ⟨t, by simp [ht], clean⟩, _, _, rfl⟩⟩
    case accepted =>
      have accepted : ∀ t ∈ hc ++ hm, t.rejected = false := fun t ht => rejected_eq_false (quiet t ht)
      simp only [List.forall_mem_append] at accepted ⊢
      exact ⟨⟨accepted, by simp [Turn.rejected]⟩, by simp [Turn.rejected]⟩
    case writes =>
      rw [statusWrites_append, statusWrites_append, statusWrites_of_other quiet]
      rfl

/-- What a pass writes while nobody disturbs it. -/
structure Unopposed (h : History Call.Answer) : Prop where
  accepted : ∀ t ∈ h, t.rejected = false
  writes : (statusWrites h).length ≤ 1 ∧ (∀ t ∈ h, t.completes = false) ∨
    (∃ t ∈ h, t.completes = true) ∧ ∃ w stored w' answer,
      statusWrites h = [(w, .ok stored), (w', answer)] ∧ stored.status = w.status ∧
        w'.version = stored.version ∧ w'.migration = stored.migration ∧
        w'.currentStatus.migrationRuns = stored.currentStatus.migrationRuns

/-- One more status is written, with the outcome of the pass. -/
theorem Undisturbed.unopposed_of_write {w stored : AppService}
    (undisturbed : Undisturbed h base progress s) (hc : History Call.Answer)
    (quiet : ∀ t ∈ hc, ¬ t.call.OnApp ∧ t.completes = false) (version : w.version = base.version)
    (migration : w.migration = base.migration)
    (runs : w.currentStatus.migrationRuns = base.currentStatus.migrationRuns) :
    Unopposed (h ++ (hc ++ [⟨.writeStatus w, .ok stored⟩])) where
  accepted := by
    simp only [List.forall_mem_append]
    exact ⟨undisturbed.accepted, fun t ht => rejected_eq_false (quiet t ht).1, by simp [Turn.rejected]⟩
  writes := by
    have writes : statusWrites (h ++ (hc ++ [⟨.writeStatus w, .ok stored⟩])) =
        statusWrites h ++ [(w, .ok stored)] := by
      rw [statusWrites_append, statusWrites_append, statusWrites_of_other fun t ht => (quiet t ht).1]
      rfl
    rw [writes]
    rcases undisturbed.result with ⟨none, silent⟩ | ⟨⟨first, one, kept⟩, ⟨t, ht, clean⟩, -⟩
    · refine .inl ⟨by simp [none], ?_⟩
      simp only [List.forall_mem_append]
      exact ⟨silent, fun t ht => (quiet t ht).2, by simp [Turn.completes]⟩
    · exact .inr ⟨⟨t, by simp [ht], clean⟩, first, base, w, _, by rw [one]; rfl, kept, version, migration, runs⟩

theorem Undisturbed.unopposed {hc : History Call.Answer} {outcome : PassOutcome}
    (undisturbed : Undisturbed h base progress s) (committed : Committed (base, progress) hc outcome)
    (follows : Follows AnswersAlone s hc s') : Unopposed (h ++ hc) := by
  have version := undisturbed.version
  cases committed with
  | initialized =>
    rcases undisturbed.result with ⟨none, silent⟩ | ⟨-, -, _, _, converged⟩
    · rw [List.append_nil]
      exact ⟨undisturbed.accepted, .inl ⟨by simp [none], silent⟩⟩
    · cases converged
  | statusNotWritten => exact absurd rfl undisturbed.stored
  | succeeded now =>
    exact undisturbed.unopposed_of_write [⟨.now, now⟩] (by simp [Call.OnApp, Turn.completes]) rfl rfl rfl
  | successRefused now =>
    obtain ⟨s₁, read, rest⟩ := follows_cons.1 follows
    obtain ⟨s₂, refused, -⟩ := follows_cons.1 rest
    obtain rfl := read.eq_of_other id
    cases (refused.write version).1
  | failed now =>
    exact undisturbed.unopposed_of_write [⟨.now, now⟩, ⟨.publish _ _, ()⟩]
      (by simp [Call.OnApp, Turn.completes]) rfl rfl rfl
  | failureRefused now =>
    obtain ⟨s₁, read, rest⟩ := follows_cons.1 follows
    obtain ⟨s₂, published, rest⟩ := follows_cons.1 rest
    obtain ⟨s₃, refused, -⟩ := follows_cons.1 rest
    obtain rfl := read.eq_of_other id
    obtain rfl := published.eq_of_other id
    cases (refused.write version).1

theorem Unopposed.cons {ns : String} {fetched : Except OperatorError (Option AppService)}
    (unopposed : Unopposed h) : Unopposed (⟨.fetchApp ns key.name, fetched⟩ :: h) where
  accepted := List.forall_mem_cons.2 ⟨rfl, unopposed.accepted⟩
  writes := by
    refine unopposed.writes.imp (And.imp_right fun silent => ?_) (And.imp_left fun ⟨t, ht, clean⟩ => ?_)
    · exact List.forall_mem_cons.2 ⟨rfl, silent⟩
    · exact ⟨t, List.mem_cons_of_mem _ ht, clean⟩

theorem Passed.unopposed {r : Except OperatorError Action} (passed : Passed settings key h r)
    (follows : Follows AnswersAlone s h s') : Unopposed h := by
  have idle : Unopposed [] := ⟨by simp, .inl (by simp [statusWrites])⟩
  cases passed with
  | nameless => exact idle
  | notFetched | gone | disabled => exact idle.cons
  | worked inNs enabled driven committed =>
    obtain ⟨s₁, fetched, rest⟩ := follows_cons.1 follows
    obtain ⟨s₂, first, last⟩ := follows_append.1 rest
    cases fetched with
    | fetched =>
      have undisturbed := (driven_of_path driven).undisturbed first
      exact (undisturbed.unopposed committed last).cons
    | other other => exact absurd trivial other

/-- While nobody else writes the AppService, every write of a pass is accepted. The pass writes the status
twice where the script ran cleanly and at most once otherwise; the second time it sends the version that
the store gave the first one, and leaves the migration as it was stored there. -/
theorem never_conflicts_alone {r : Except OperatorError Action}
    (runs : Runs AnswersAlone (reconcile settings key) s h r s') :
    (∀ t ∈ h, t.rejected = false) ∧ (statusWrites h).length ≤ 2 ∧
    ((statusWrites h).length = 2 ↔ ∃ t ∈ h, t.completes = true) ∧
    ∀ w answer w' answer', statusWrites h = [(w, answer), (w', answer')] →
      ∃ stored, answer = .ok stored ∧ stored.status = w.status ∧ w'.version = stored.version ∧
        w'.migration = stored.migration ∧
        w'.currentStatus.migrationRuns = stored.currentStatus.migrationRuns := by
  obtain ⟨path, follows⟩ := runs_iff.1 runs
  have unopposed : Unopposed h := (passed_of_path path).unopposed follows
  refine ⟨unopposed.accepted, ?_⟩
  rcases unopposed.writes with ⟨le, silent⟩ | ⟨clean, w, stored, w', answer, two, carried⟩
  · refine ⟨by omega, ?_, ?_⟩
    · constructor
      · intro two; omega
      · rintro ⟨t, ht, clean⟩
        rw [silent t ht] at clean
        cases clean
    · intro w answer w' answer' two
      rw [two] at le
      simp at le
  · refine ⟨by simp [two], by simp [two, clean], ?_⟩
    intro w₁ answer₁ w₂ answer₂ writes
    rw [two] at writes
    cases writes
    exact ⟨stored, rfl, carried⟩

end Pass

/-! ## A pass that runs the script -/

namespace Smooth

/-- A store that names each version after the one before. -/
def serve : (c : Call) → AppStore → c.Answer × AppStore
  | .fetchApp .., s => (.ok (some s.current), s)
  | .replaceApp w, s =>
    if w.version = s.current.version then
      let s' := s.install (s.current.version.getD "" ++ "+") w.metadata w.spec s.current.status
      (.ok s'.current, s')
    else (.error (.conflict "AppService" w.name "stale"), s)
  | .writeStatus w, s =>
    if w.version = s.current.version then
      let s' := s.install (s.current.version.getD "" ++ "+") s.current.metadata s.current.spec w.status
      (.ok s'.current, s')
    else (.error (.conflict "AppService" w.name "stale"), s)
  | c, s => (answer c, s)

theorem answersAlone_serve (c : Call) (s : AppStore) : s.AnswersAlone c (serve c s).1 (serve c s).2 := by
  cases c with
  | fetchApp ns name => exact .fetched
  | replaceApp w =>
    simp only [serve]
    split
    · rename_i current
      exact .replaced _ current
    · rename_i stale
      exact .notReplaced _ stale
  | writeStatus w =>
    simp only [serve]
    split
    · rename_i current
      exact .written _ current
    · rename_i stale
      exact .notWritten _ stale
  | _ => exact .other id _

end Smooth

namespace Pass

/-- The script runs, and both writes are accepted. -/
theorem two_writes_alone : ∃ h r s', Runs AppStore.AnswersAlone (reconcile {} Smooth.app) ⟨Smooth.app, []⟩ h r s' ∧
    (statusWrites h).length = 2 ∧ ∀ t ∈ h, t.rejected = false := by
  have runs := runs_run Smooth.answersAlone_serve (reconcile {} Smooth.app) ⟨Smooth.app, []⟩
  exact ⟨_, _, _, runs, by decide +kernel, (never_conflicts_alone runs).1⟩

end Pass

end AppServiceOperator
