import AppServiceOperator.Proofs.Reconcile.Convergence
import AppServiceOperator.Proofs.Reconcile.Order
/-!
# The steady state

A cluster in which every call succeeds (`Cluster.Answers`): one AppService, a faithful server for all
other objects, and the pods of the database. Once a pass has stored its success there without running
the script, the cluster is `Settled`: everything the AppService asks for is held, and the stored status
says so. Any further pass then finds nothing to do, and stores the same status with another time of the
last update (`steady_of_success`).
-/
namespace AppServiceOperator

open Program (History Path Turn Runs Follows follows_nil follows_cons follows_append path_done runs_done
  runs_call runs_iff runs_run)

/-! ## Recording a success again -/

/-- Setting a condition again that differs in its time at most changes nothing. -/
theorem Condition.put_put {c d : Condition} (same : d = { c with lastTransition := d.lastTransition })
    (cs : List Condition) : d.put (c.put cs) = c.put cs := by
  have type : d.type = c.type := by rw [same]
  have status : d.status = c.status := by rw [same]
  -- what was set before keeps its time, and has all else in common with what is set now
  have succeeded {e : Condition} (he : e = { c with lastTransition := e.lastTransition }) :
      d.succeed e = e := by
    have status' : e.status = d.status := by rw [he, status]
    rw [Condition.succeed, if_pos status', same, he]
  induction cs with
  | nil =>
    have set : (Condition.put d [c]) = d.succeed c :: [] := if_pos type.symm
    rw [Condition.put, set, succeeded rfl]
  | cons e cs ih =>
    by_cases he : e.type = c.type
    · have next : (c.succeed e).type = d.type := by
        rw [Condition.succeed, type]
        split <;> rfl
      rw [Condition.put, if_pos he, Condition.put, if_pos next, succeeded]
      rw [Condition.succeed]
      split <;> rfl
    · have other : ¬ e.type = d.type := by rwa [type]
      rw [Condition.put, if_neg he, Condition.put, if_neg other, ih]

/-- Another success with the same action changes the time of the last update at most. -/
theorem Status.recordSuccess_recordSuccess (s : Status) (action : LastAction) (now now' : Instant) :
    (s.recordSuccess action now).recordSuccess action now' =
      { s.recordSuccess action now with
        reconcile := some ⟨.converged, (s.recordSuccess action now).updateTime now', "", none⟩ } := by
  have same (t t' : Instant) : successCondition action t' =
      { successCondition action t with lastTransition := (successCondition action t').lastTransition } := by
    cases action <;> rfl
  have conditions := Condition.put_put (same (s.updateTime now)
    ((s.recordSuccess action now).updateTime now')) s.conditions
  simp only [recordSuccess] at conditions ⊢
  rw [conditions]

/-! ## A cluster without failures -/

/-- The stored AppService: with another status, all else as before but for what only the server looks
at. -/
structure AppService.Rewritten (app : AppService) (status : Option Status) (stored : AppService) : Prop where
  name : stored.metadata.name = app.metadata.name
  generateName : stored.metadata.generateName = app.metadata.generateName
  ns : stored.metadata.ns = app.metadata.ns
  uid : stored.metadata.uid = app.metadata.uid
  spec : stored.spec = app.spec
  status : stored.status = status

/-- One AppService with everything that its passes look at. -/
structure Cluster where
  app : AppService
  objects : ObjectStore
  pods : List Pod

namespace Cluster

/-- How a cluster in which every call succeeds answers. The clock may show any time, and a command may
have any output. -/
inductive Answers : Cluster → (c : Call) → c.Answer → Cluster → Prop where
  | fetched {s : Cluster} {ns name : String} : Answers s (.fetchApp ns name) (.ok (some s.app)) s
  | replaced {s : Cluster} {w stored : AppService} (kept : w.Rewritten s.app.status stored) :
      Answers s (.replaceApp w) (.ok stored) { s with app := stored }
  | written {s : Cluster} {w stored : AppService} (kept : s.app.Rewritten w.status stored) :
      Answers s (.writeStatus w) (.ok stored) { s with app := stored }
  | object {s : Cluster} {c : Call} {answer : c.Answer} {objects : ObjectStore}
      (answers : s.objects.Answers c answer objects) : Answers s c answer { s with objects }
  | listed {s : Cluster} {ns selector : String} : Answers s (.listPods ns selector) (.ok s.pods) s
  | executed {s : Cluster} {ns pod : String} {command : List String} {timeout : Nat} (output : ExecOutput) :
      Answers s (.exec ns pod command timeout) (some (.ok output)) s
  | published {s : Cluster} {about : ObjectReference} {notice : Notice} :
      Answers s (.publish about notice) () s
  | read {s : Cluster} (now : Instant) : Answers s .now now s

variable {s s' : Cluster} {h : History Call.Answer}

/-- Calls about objects are answered by the server of the objects, and change nothing else. -/
theorem follows_objects (follows : Follows Answers s h s') (onResources : ∀ t ∈ h, t.call.OnResources) :
    Follows ObjectStore.Answers s.objects h s'.objects ∧ s' = { s with objects := s'.objects } := by
  induction follows with
  | nil s => exact ⟨.nil _, rfl⟩
  | cons first _ ih =>
    obtain ⟨here, later⟩ := List.forall_mem_cons.1 onResources
    obtain ⟨rest, same⟩ := ih later
    cases first with
    | object answers => exact ⟨.cons answers rest, same⟩
    | _ => exact here.elim

theorem Answers.published_eq {about : ObjectReference} {notice : Notice} {answer : Unit}
    (answers : Answers s (.publish about notice) answer s') : s' = s := by
  cases answers with
  | published => rfl
  | object answers => cases answers

theorem Answers.now_eq {now : Instant} (answers : Answers s .now now s') : s' = s := by
  cases answers with
  | read => rfl
  | object answers => cases answers

theorem Answers.write {w : AppService} {answer : Except OperatorError AppService}
    (answers : Answers s (.writeStatus w) answer s') :
    ∃ stored, answer = .ok stored ∧ s.app.Rewritten w.status stored ∧ s' = { s with app := stored } := by
  cases answers with
  | written kept => exact ⟨_, rfl, kept, rfl⟩
  | object answers => cases answers

end Cluster

/-- What a pass does, besides looking at things and writing the status. A creation that is refused does
nothing. -/
def Program.Turn.Acts : Turn Call.Answer → Prop
  | ⟨.create _, answer⟩ => answer = .ok ()
  | ⟨.patch .., _⟩ | ⟨.replaceApp _, _⟩ | ⟨.exec .., _⟩ | ⟨.publish .., _⟩ => True
  | _ => False

theorem Program.Turn.not_acts_of_not_wrote {t : Turn Call.Answer} (onResources : t.call.OnResources)
    (unwritten : ¬ t.Wrote) : ¬ t.Acts := by
  obtain ⟨c, answer⟩ := t
  cases c with
  | create => exact unwritten
  | fetch => exact id
  | patch => exact unwritten
  | _ => exact onResources.elim

theorem ManagedResource.onResources_of_ensure {r : ManagedResource} {h : History Call.Answer}
    {a : Except OperatorError Convergence} (path : Path r.ensure h (.done a)) :
    ∀ t ∈ h, t.call.OnResources := by
  obtain ⟨answer, rest, rfl, amends⟩ := create_of_ensure path
  exact List.forall_mem_cons.2 ⟨trivial, fun t ht => (amends t ht).onResources⟩

namespace Pass

open Cluster (Answers follows_objects)

variable {settings : PassSettings} {key app base : AppService} {s s' : Cluster} {h : History Call.Answer}
  {progress : Except OperatorError Progress} {action : LastAction} {requeue : Option Nat}

/-! ## Objects -/

/-- Objects are brought about on a cluster as they are on their server, and none fails. What is published
tells what was changed. -/
theorem Sequence.ensured {rs : List ManagedResource} {a : Except OperatorError Unit}
    (run : Sequence app rs h a) (follows : Follows Answers s h s') :
    a = .ok () ∧ s' = { s with objects := s'.objects } ∧
    ∃ k as, Runs ObjectStore.Answers (rs.mapM ManagedResource.ensure) s.objects k as s'.objects ∧
      (∀ t ∈ k, t.call.OnResources) ∧ ((∀ b ∈ as, b = .ok .unchanged) → h = k) := by
  induction run generalizing s with
  | nil =>
    obtain rfl := follows_nil.1 follows
    exact ⟨rfl, rfl, [], [], ManagedResource.runs_mapM_nil.2 ⟨rfl, rfl, rfl⟩, by simp, fun _ => rfl⟩
  | fails one =>
    obtain ⟨objects, -⟩ := follows_objects follows (ManagedResource.onResources_of_ensure one)
    obtain ⟨c, hc⟩ := ManagedResource.ok_of_ensure (runs_iff.2 ⟨one, objects⟩)
    cases hc
  | @cons r rs h h' c a one rest ih =>
    obtain ⟨s₁, first, follows⟩ := follows_append.1 follows
    obtain ⟨s₂, announced, later⟩ := follows_append.1 follows
    have onResources := ManagedResource.onResources_of_ensure one
    obtain ⟨objects, same⟩ := follows_objects first onResources
    have quiet : s₂ = s₁ := by
      unfold announcement at announced
      cases hn : convergenceNotice? r c with
      | none =>
        rw [hn] at announced
        exact follows_nil.1 announced
      | some notice =>
        rw [hn] at announced
        obtain ⟨s₃, published, last⟩ := follows_cons.1 announced
        rw [follows_nil.1 last, published.published_eq]
    subst quiet
    obtain ⟨ha, same', k, as, run, onResources', silent⟩ := ih later
    refine ⟨ha, by rw [same', same], h ++ k, .ok c :: as, ?runs, ?calls, ?told⟩
    case runs =>
      exact ManagedResource.runs_mapM_cons.2 ⟨h, k, _, as, _, rfl, rfl, runs_iff.2 ⟨one, objects⟩, run⟩
    case calls => exact List.forall_mem_append.2 ⟨onResources, onResources'⟩
    case told =>
      intro unchanged
      obtain ⟨hc, has⟩ := List.forall_mem_cons.1 unchanged
      cases hc
      rw [silent has]
      rfl

/-- All objects are held once they were brought about. -/
theorem holds_of_converge {ctx : Context} {a : Except OperatorError Unit}
    (path : Path (converge app (Desired.resources ctx)) h (.done a)) (follows : Follows Answers s h s') :
    a = .ok () ∧ s' = { s with objects := s'.objects } ∧
      ∀ r ∈ Desired.resources ctx, s'.objects.Holds r := by
  obtain ⟨ha, same, k, as, run, -, -⟩ := (sequence_of_path path).ensured follows
  exact ⟨ha, same, (Desired.resources_converge ctx run).2.1⟩

/-- Objects that are held are left alone. -/
theorem silent_of_holds {rs : List ManagedResource} {a : Except OperatorError Unit}
    (held : ∀ r ∈ rs, s.objects.Holds r) (path : Path (converge app rs) h (.done a))
    (follows : Follows Answers s h s') : a = .ok () ∧ s' = s ∧ ∀ t ∈ h, ¬ t.Acts := by
  obtain ⟨ha, same, k, as, run, onResources, silent⟩ := (sequence_of_path path).ensured follows
  obtain ⟨rfl, objects, unwritten⟩ := ManagedResource.ensureAll_of_holds held run
  obtain rfl := silent (by simp)
  refine ⟨ha, ?_, fun t ht => Turn.not_acts_of_not_wrote (onResources t ht) (unwritten t ht)⟩
  rw [same, objects]

/-! ## The database -/

/-- A migration waits exactly where no database is ready, and runs nothing then. -/
theorem waits_iff {r : Except OperatorError MigrationOutcome}
    (ran : Path (runMigration settings app) h (.done r)) (follows : Follows Answers s h s') :
    s' = s ∧ (r = .ok .notReady ↔ s.pods.find? Pod.isReadyDatabase = none) ∧
      (r = .ok .notReady → ∀ t ∈ h, ¬ t.Acts) := by
  have run : Runs Answers (runMigration settings app) s h r s' := runs_iff.2 ⟨ran, follows⟩
  obtain ⟨pods, s₁, h₁, rfl, listed, run⟩ := runs_call.1 run
  cases listed with
  | object answers => cases answers
  | listed =>
    rw [Program.bind_done] at run
    cases found : s.pods.find? Pod.isReadyDatabase with
    | none =>
      replace run : Runs Answers (.done (.ok .notReady)) s h₁ r s' := by simpa [found] using run
      obtain ⟨rfl, rfl, rfl⟩ := runs_done.1 run
      exact ⟨rfl, by simp, by simp [Turn.Acts]⟩
    | some pod =>
      replace run : Runs Answers (Migration.runIn (app.ns.getD "") pod.metadata.anyName settings.migration)
          s h₁ r s' := by simpa [found] using run
      obtain ⟨output, s₂, h₂, rfl, executed, run⟩ := runs_call.1 run
      cases executed with
      | object answers => cases answers
      | executed output =>
        obtain ⟨rfl, rfl, rfl⟩ := runs_done.1 run
        have ran : Migration.outcome pod.metadata.anyName output ≠ .ok .notReady := by
          unfold Migration.outcome
          dsimp only
          split
          · nofun
          · split <;> nofun
        exact ⟨rfl, by simp [ran], fun waits => absurd waits ran⟩

/-! ## Settled clusters -/

/-- What is left to do once all objects are held, as the action that is reported and the delay: nothing,
or to wait for the database. -/
inductive Rests (settings : PassSettings) (s : Cluster) : LastAction → Option Nat → Prop where
  | migrated (succeeded : s.app.migration = .succeeded) : Rests settings s .noAction none
  | waiting (due : s.app.migration ≠ .succeeded) (unready : s.pods.find? Pod.isReadyDatabase = none) :
      Rests settings s .requeueEvent (some settings.migrationRequeue)

/-- The AppService is to be worked on. -/
structure Workable (app : AppService) : Prop where
  enabled : app.spec.enabled = true
  valid : app.spec.validate app.name = .ok ()
  initialized : app.spec.initialized = true

/-- Everything that the AppService asks for is held. -/
def Held (settings : PassSettings) (s : Cluster) : Prop :=
  ∃ ctx, Context.ofApp s.app settings.script = .ok ctx ∧ ∀ r ∈ Desired.resources ctx, s.objects.Holds r

/-- The AppService has all that it asks for, and its status says so. -/
structure Settled (settings : PassSettings) (s : Cluster) (action : LastAction) (requeue : Option Nat) :
    Prop where
  workable : Workable s.app
  held : Held settings s
  rests : Rests settings s action requeue
  reported : ∃ before now, s.app.status = some (Status.recordSuccess before action now)

/-- What a pass over a cluster does with a workable AppService. -/
theorem worked_of_runs {ns : String} {r : Except OperatorError Action} (inNs : key.ns = some ns)
    (enabled : s.app.spec.enabled = true) (runs : Runs Answers (reconcile settings key) s h r s') :
    ∃ hd hc base progress outcome s₁, h = ⟨.fetchApp ns key.name, .ok (some s.app)⟩ :: (hd ++ hc) ∧
      r = .ok outcome.action ∧ Driven settings s.app hd (base, progress) ∧ Follows Answers s hd s₁ ∧
      Committed (base, progress) hc outcome ∧ Follows Answers s₁ hc s' := by
  obtain ⟨path, follows⟩ := runs_iff.1 runs
  have passed := passed_of_path path
  have fetched {ns name : String} {fetched : Except OperatorError (Option AppService)} {s₁ : Cluster}
      (answers : Answers s (.fetchApp ns name) fetched s₁) : fetched = .ok (some s.app) ∧ s₁ = s := by
    cases answers with
    | fetched => exact ⟨rfl, rfl⟩
    | object answers => cases answers
  cases passed with
  | nameless noNs => cases noNs.symm.trans inNs
  | notFetched =>
    obtain ⟨s₁, first, -⟩ := follows_cons.1 follows
    cases (fetched first).1
  | gone =>
    obtain ⟨s₁, first, -⟩ := follows_cons.1 follows
    cases (fetched first).1
  | disabled inNs' disabled =>
    obtain ⟨s₁, first, -⟩ := follows_cons.1 follows
    cases (fetched first).1
    cases disabled.symm.trans enabled
  | @worked ns' app hd hc result outcome inNs' _ driven committed =>
    cases inNs.symm.trans inNs'
    obtain ⟨s₁, first, rest⟩ := follows_cons.1 follows
    obtain ⟨happ, rfl⟩ := fetched first
    cases happ
    obtain ⟨s₂, drove, recorded⟩ := follows_append.1 rest
    exact ⟨hd, hc, result.1, result.2, outcome, s₂, rfl, rfl, driven_of_path driven, drove, committed, recorded⟩

/-- A pass that succeeds without running the script leaves all objects held, and nothing else changed. -/
theorem Driven.settles (driven : Driven settings s.app h (base, .ok (.converged action requeue)))
    (follows : Follows Answers s h s') (idle : action ≠ .migrationStarted) :
    base = s.app ∧ s'.app = s.app ∧ Held settings s' ∧ Rests settings s' action requeue := by
  cases driven with
  | settled converged succeeded =>
    obtain ⟨ctx, context, objects⟩ := converged.objects
    obtain ⟨-, same, held⟩ := holds_of_converge objects follows
    have app : s'.app = s.app := by rw [same]
    exact ⟨rfl, app, ⟨ctx, by rwa [app], held⟩, .migrated (by rwa [app])⟩
  | waiting converged due ran =>
    obtain ⟨s₁, first, last⟩ := follows_append.1 follows
    obtain ⟨ctx, context, objects⟩ := converged.objects
    obtain ⟨-, same, held⟩ := holds_of_converge objects first
    obtain ⟨rfl, unready, -⟩ := waits_iff ran last
    have app : s'.app = s.app := by rw [same]
    exact ⟨rfl, app, ⟨ctx, by rwa [app], held⟩, .waiting (by rwa [app]) (unready.1 rfl)⟩
  | migrated => exact absurd rfl idle

/-- On a settled cluster a pass finds nothing to do. -/
theorem Settled.driven (settled : Settled settings s action requeue)
    (driven : Driven settings s.app h (base, progress)) (follows : Follows Answers s h s') :
    base = s.app ∧ progress = .ok (.converged action requeue) ∧ s' = s ∧ ∀ t ∈ h, ¬ t.Acts := by
  obtain ⟨⟨-, valid, initialized⟩, ⟨ctx, context, held⟩, rests, -⟩ := settled
  have converged_silent {hc : History Call.Answer} {s₁ : Cluster} (converged : Converged settings s.app hc)
      (follows : Follows Answers s hc s₁) : s₁ = s ∧ ∀ t ∈ hc, ¬ t.Acts := by
    obtain ⟨ctx', context', objects⟩ := converged.objects
    cases context.symm.trans context'
    exact (silent_of_holds held objects follows).2
  -- where the migration is due the database is not ready, so the script cannot have run
  have waits {hc hm : History Call.Answer} {r : Except OperatorError MigrationOutcome} {s₁ : Cluster}
      (converged : Converged settings s.app hc) (due : s.app.migration ≠ .succeeded)
      (ran : Path (runMigration settings s.app) hm (.done r)) (follows : Follows Answers s (hc ++ hm) s₁) :
      r = .ok .notReady ∧ action = .requeueEvent ∧ requeue = some settings.migrationRequeue ∧ s₁ = s ∧
        ∀ t ∈ hc ++ hm, ¬ t.Acts := by
    obtain ⟨s₂, first, last⟩ := follows_append.1 follows
    obtain ⟨rfl, silent⟩ := converged_silent converged first
    obtain ⟨rfl, unready, quiet⟩ := waits_iff ran last
    cases rests with
    | migrated succeeded => exact absurd succeeded due
    | waiting _ noPod =>
      have waiting := unready.2 noPod
      exact ⟨waiting, rfl, rfl, rfl, List.forall_mem_append.2 ⟨silent, quiet waiting⟩⟩
  cases driven with
  | invalid fault => cases fault.symm.trans valid
  | notMarked valid' unmarked => cases unmarked.symm.trans initialized
  | marked valid' unmarked => cases unmarked.symm.trans initialized
  | noContext valid' initialized' fault => cases fault.symm.trans context
  | stuck valid' initialized' context' objects =>
    cases context.symm.trans context'
    cases (silent_of_holds held objects follows).1
  | settled converged succeeded =>
    obtain ⟨rfl, silent⟩ := converged_silent converged follows
    cases rests with
    | migrated => exact ⟨rfl, rfl, rfl, silent⟩
    | waiting due => exact absurd succeeded due
  | waiting converged due ran =>
    obtain ⟨-, rfl, rfl, rfl, silent⟩ := waits converged due ran follows
    exact ⟨rfl, rfl, rfl, silent⟩
  | unmigrated converged due ran =>
    obtain ⟨s₁, first, -⟩ := follows_append.1 follows
    cases (waits converged due ran first).1
  | unstored converged due ran =>
    rw [List.append_assoc] at follows
    obtain ⟨s₁, first, -⟩ := follows_append.1 follows
    cases (waits converged due ran first).1
  | migrated converged due ran =>
    rw [List.append_assoc] at follows
    obtain ⟨s₁, first, -⟩ := follows_append.1 follows
    cases (waits converged due ran first).1

/-- A success is stored on a cluster, and nothing else happens then. -/
theorem Committed.stores {outcome : PassOutcome}
    (committed : Committed (base, .ok (.converged action requeue)) h outcome)
    (follows : Follows Answers s h s') :
    outcome = afterSuccess requeue ∧ (∀ t ∈ h, ¬ t.Acts) ∧ ∃ now stored, s' = { s with app := stored } ∧
      s.app.Rewritten (some (base.currentStatus.recordSuccess action now)) stored := by
  cases committed with
  | succeeded now =>
    obtain ⟨s₁, read, follows⟩ := follows_cons.1 follows
    obtain ⟨s₂, wrote, last⟩ := follows_cons.1 follows
    obtain rfl := read.now_eq
    obtain ⟨stored, -, kept, rfl⟩ := wrote.write
    exact ⟨rfl, by simp [Turn.Acts], now, stored, follows_nil.1 last, kept⟩
  | successRefused now =>
    obtain ⟨s₁, read, follows⟩ := follows_cons.1 follows
    obtain ⟨s₂, wrote, last⟩ := follows_cons.1 follows
    obtain ⟨stored, refused, -⟩ := wrote.write
    cases refused

/-- A failure is stored on a cluster as one. -/
theorem Committed.reports {e : OperatorError} {outcome : PassOutcome}
    (committed : Committed (base, .error e) h outcome) (follows : Follows Answers s h s') :
    ∃ now, s'.app.status = some (base.currentStatus.recordFailure e.message now) := by
  cases committed with
  | failed now =>
    obtain ⟨s₁, read, follows⟩ := follows_cons.1 follows
    obtain ⟨s₂, published, follows⟩ := follows_cons.1 follows
    obtain ⟨s₃, wrote, last⟩ := follows_cons.1 follows
    obtain ⟨stored, -, kept, rfl⟩ := wrote.write
    obtain rfl := follows_nil.1 last
    exact ⟨now, kept.status⟩
  | failureRefused now =>
    obtain ⟨s₁, read, follows⟩ := follows_cons.1 follows
    obtain ⟨s₂, published, follows⟩ := follows_cons.1 follows
    obtain ⟨s₃, wrote, last⟩ := follows_cons.1 follows
    obtain ⟨stored, refused, -⟩ := wrote.write
    cases refused

end Pass

namespace AppService.Rewritten

variable {app stored : AppService} {status : Option Status}

theorem name_eq (kept : app.Rewritten status stored) : stored.name = app.name := by
  rw [AppService.name, AppService.name, ObjectMeta.anyName, ObjectMeta.anyName, kept.name, kept.generateName]

theorem context_eq (kept : app.Rewritten status stored) (script : Option Script) :
    Context.ofApp stored script = Context.ofApp app script := by
  have ns : stored.ns = app.ns := kept.ns
  have owner : stored.controllerReference? = app.controllerReference? := by
    rw [controllerReference?, controllerReference?, kept.name, kept.uid]
  rw [Context.ofApp, Context.ofApp, ns, owner, kept.name_eq]

theorem workable (kept : app.Rewritten status stored) (workable : Pass.Workable app) :
    Pass.Workable stored where
  enabled := by rw [kept.spec, workable.enabled]
  valid := by rw [kept.spec, kept.name_eq, workable.valid]
  initialized := by rw [kept.spec, workable.initialized]

end AppService.Rewritten

namespace Pass

open Cluster (Answers)

variable {settings : PassSettings} {key key' : AppService} {s s' : Cluster} {h : History Call.Answer}
  {r : Except OperatorError Action} {action : LastAction} {requeue : Option Nat} {ns ns' : String}

/-- With its success stored the cluster is settled. -/
theorem settled_of_stored {stored : AppService} {now : Instant} (workable : Workable s.app)
    (held : Held settings s) (rests : Rests settings s action requeue)
    (kept : s.app.Rewritten (some (s.app.currentStatus.recordSuccess action now)) stored) :
    Settled settings { s with app := stored } action requeue where
  workable := kept.workable workable
  held := by
    obtain ⟨ctx, context, objects⟩ := held
    exact ⟨ctx, (kept.context_eq settings.script).trans context, objects⟩
  rests := by
    have migration : stored.migration = s.app.migration := by
      rw [AppService.migration, AppService.currentStatus, kept.status]
      rfl
    cases rests with
    | migrated succeeded => exact .migrated (migration.trans succeeded)
    | waiting due unready => exact .waiting (by rwa [migration]) unready
  reported := ⟨_, now, kept.status⟩

/-- A pass that stores its success without having run the script settles the cluster. -/
theorem settled_of_success (inNs : key.ns = some ns) (workable : Workable s.app)
    (runs : Runs Answers (reconcile settings key) s h r s')
    (converged : s'.app.currentStatus.reconcile.map (·.status) = some .converged)
    (acted : s'.app.currentStatus.lastAction = some action) (idle : action ≠ .migrationStarted) :
    ∃ requeue, Settled settings s' action requeue ∧ r = .ok (afterSuccess requeue).action := by
  obtain ⟨hd, hc, base, progress, outcome, s₁, -, rfl, driven, drove, committed, recorded⟩ :=
    worked_of_runs inNs workable.enabled runs
  rcases progress with e | _ | ⟨action', requeue⟩ | _
  case error =>
    obtain ⟨now, failed⟩ := committed.reports recorded
    rw [AppService.currentStatus, failed] at converged
    cases converged
  case ok.initialized =>
    cases driven with
    | marked valid unmarked => cases unmarked.symm.trans workable.initialized
  case ok.converged =>
    obtain ⟨rfl, -, now, stored, rfl, kept⟩ := committed.stores recorded
    obtain rfl : action' = action := by
      rw [AppService.currentStatus, kept.status] at acted
      exact Option.some.inj acted
    obtain ⟨rfl, app, held, rests⟩ := driven.settles drove idle
    rw [← app] at workable kept
    exact ⟨requeue, settled_of_stored workable held rests kept, rfl⟩
  case ok.statusNotWritten =>
    cases driven with
    | unstored converged due ran =>
      rw [List.append_assoc] at drove
      obtain ⟨s₂, -, last⟩ := follows_append.1 drove
      obtain ⟨s₃, refused, -⟩ := follows_cons.1 last
      obtain ⟨stored, stored_eq, -⟩ := refused.write
      cases stored_eq

/-- A pass over a settled cluster does nothing, and says again what the last one said. -/
theorem Settled.again (settled : Settled settings s action requeue) (inNs : key.ns = some ns)
    (runs : Runs Answers (reconcile settings key) s h r s') :
    r = .ok (afterSuccess requeue).action ∧ (∀ t ∈ h, ¬ t.Acts) ∧ s'.objects = s.objects ∧
    ∃ previous time, s.app.currentStatus.reconcile = some previous ∧ s'.app.status =
      some { s.app.currentStatus with reconcile := some { previous with lastUpdate := time } } := by
  obtain ⟨hd, hc, base, progress, outcome, s₁, rfl, rfl, driven, drove, committed, recorded⟩ :=
    worked_of_runs inNs settled.workable.enabled runs
  obtain ⟨rfl, rfl, rfl, silent⟩ := settled.driven driven drove
  obtain ⟨rfl, quiet, now, stored, rfl, kept⟩ := committed.stores recorded
  refine ⟨rfl, ?silent, rfl, ?status⟩
  case silent =>
    refine List.forall_mem_cons.2 ⟨id, ?_⟩
    exact List.forall_mem_append.2 ⟨silent, quiet⟩
  case status =>
    obtain ⟨before, earlier, reported⟩ := settled.reported
    have current : s₁.app.currentStatus = before.recordSuccess action earlier := by
      rw [AppService.currentStatus, reported]
      rfl
    rw [current, Status.recordSuccess_recordSuccess] at kept
    rw [current]
    exact ⟨_, _, rfl, kept.status⟩

end Pass

namespace Cluster

/-- A cluster that adds nothing to what it is sent. -/
def serve : (c : Call) → Cluster → c.Answer × Cluster
  | .fetchApp .., s => (.ok (some s.app), s)
  | .replaceApp w, s =>
    let stored := { w with status := s.app.status }
    (.ok stored, { s with app := stored })
  | .writeStatus w, s =>
    let stored := { s.app with status := w.status }
    (.ok stored, { s with app := stored })
  | .create r, s =>
    match s.objects (.ofResource r) with
    | none => (.ok (), { s with objects := s.objects.put (.ofResource r) r.toJson })
    | some _ => (.error (.alreadyExists r.kind.name r.name), s)
  | .fetch r, s => (.ok (s.objects (.ofResource r)), s)
  | .patch r body, s =>
    match s.objects (.ofResource r) with
    | none => (.error (.notFound r.kind.name r.name), s)
    | some live => (.ok (), { s with objects := s.objects.put (.ofResource r) (live.mergePatch body) })
  | .listPods .., s => (.ok s.pods, s)
  | .exec .., s => (some (.ok {}), s)
  | .publish .., s => ((), s)
  | .now, s => (⟨0, 0⟩, s)

theorem answers_serve (c : Call) (s : Cluster) : Answers s c (serve c s).1 (serve c s).2 := by
  cases c with
  | fetchApp => exact .fetched
  | replaceApp w => exact .replaced ⟨rfl, rfl, rfl, rfl, rfl, rfl⟩
  | writeStatus w => exact .written ⟨rfl, rfl, rfl, rfl, rfl, rfl⟩
  | create r =>
    simp only [serve]
    split
    · rename_i free
      exact .object (.created free (.refl _))
    · rename_i live there
      exact .object (.taken there)
  | fetch r => exact .object .fetched
  | patch r body =>
    simp only [serve]
    split
    · rename_i free
      exact .object (.absent free)
    · rename_i live there
      exact .object (.patched there (.refl _))
  | listPods => exact .listed
  | exec => exact .executed _
  | publish => exact .published
  | now => exact .read _

end Cluster

namespace Pass

open Cluster (Answers)

variable {settings : PassSettings} {key key' : AppService} {s s' : Cluster} {h : History Call.Answer}
  {r : Except OperatorError Action} {action : LastAction} {ns ns' : String}

/-- The steady state. Where a pass over a workable AppService stored its success and did not run the
script, another pass can follow, and every one that does ends the same way: it writes no object, runs
nothing, publishes nothing, and leaves a status that differs in the time of the last update at most. -/
theorem steady_of_success (inNs : key.ns = some ns) (inNs' : key'.ns = some ns')
    (workable : Workable s.app) (first : Runs Answers (reconcile settings key) s h r s')
    (converged : s'.app.currentStatus.reconcile.map (·.status) = some .converged)
    (acted : s'.app.currentStatus.lastAction = some action) (idle : action ≠ .migrationStarted) :
    (∃ h' r' s'', Runs Answers (reconcile settings key') s' h' r' s'') ∧
    ∀ h' r' s'', Runs Answers (reconcile settings key') s' h' r' s'' →
      r' = r ∧ (∀ t ∈ h', ¬ t.Acts) ∧ s''.objects = s'.objects ∧
      ∃ previous time, s'.app.currentStatus.reconcile = some previous ∧ s''.app.status =
        some { s'.app.currentStatus with reconcile := some { previous with lastUpdate := time } } := by
  obtain ⟨requeue, settled, rfl⟩ := settled_of_success inNs workable first converged acted idle
  refine ⟨⟨_, _, _, runs_run Cluster.answers_serve (reconcile settings key') s'⟩, ?_⟩
  intro h' r' s'' again
  exact settled.again inNs' again

/-- The database was migrated before, and no object is there yet. -/
theorem steady_of_migrated :
    let app := { Smooth.app with status := some { migration := .succeeded } }
    ∃ h r s', Runs Answers (reconcile {} app) ⟨app, fun _ => none, []⟩ h r s' ∧
      s'.app.currentStatus.lastAction = some .noAction ∧
      ∀ h' r' s'', Runs Answers (reconcile {} app) s' h' r' s'' → r' = r ∧ ∀ t ∈ h', ¬ t.Acts := by
  intro app
  have first := runs_run Cluster.answers_serve (reconcile {} app) ⟨app, fun _ => none, []⟩
  have acted : ((reconcile {} app).run Cluster.serve ⟨app, fun _ => none, []⟩).2.app.currentStatus.lastAction =
      some .noAction := by decide +kernel
  have inNs : app.ns = some "demo" := rfl
  have steady := steady_of_success inNs inNs ⟨rfl, rfl, rfl⟩ first (by decide +kernel) acted nofun
  refine ⟨_, _, _, first, acted, fun h' r' s'' again => ?_⟩
  obtain ⟨same, silent, -⟩ := steady.2 h' r' s'' again
  exact ⟨same, silent⟩

end Pass

end AppServiceOperator
