import AppServiceOperator.Proofs.App.StatusChange
import AppServiceOperator.Proofs.Effect.History
import AppServiceOperator.Reconcile.Pass
/-!
# The course of a pass

All ways in which a pass can go, whatever it is answered: `Driven` lists what can come of bringing
about what an AppService asks for, with everything that happened on the way, and `StatusWrite` the
statuses that the pass sends to the store. That there is no other way is `driven_of_path` and
`statusWrite_of_path`. What such a write makes of the status that was read is `StatusWrite.change`.
-/
namespace AppServiceOperator

open Program (History Path Along path_bind_done path_bind_call along_bind along_call along_of_path
  bind_eq bind_call bind_done)

namespace AppService

/-- The AppService as a pass marks it. -/
def marked (app : AppService) : AppService :=
  { app with spec := { app.spec with initialized := true } }

@[simp] theorem currentStatus_mapStatus (f : Status → Status) (app : AppService) :
    (app.mapStatus f).currentStatus = f app.currentStatus := rfl

theorem currentStatus_congr {app app' : AppService} (h : app.status = app'.status) :
    app.currentStatus = app'.currentStatus := by
  rw [currentStatus, currentStatus, h]

end AppService

namespace Call

/-- The calls about managed objects, and events. -/
def OnObjects : Call → Prop
  | .create _ | .fetch _ | .patch .. | .publish .. => True
  | _ => False

/-- The calls about pods. -/
def OnPods : Call → Prop
  | .listPods .. | .exec .. => True
  | _ => False

end Call

/-! ## Calls of the parts -/

/-- What holds of the three calls about an object holds along bringing it about. -/
theorem ManagedResource.along_ensure {P : Call → Prop} {r : ManagedResource} (created : P (.create r))
    (fetched : P (.fetch r)) (patched : P (.patch r r.ownedFields)) (h : History Call.Answer) :
    r.ensure.Along (fun _ c => P c) (fun _ _ => True) h := by
  unfold ensure
  simp only [bind_eq, bind_call, bind_done, along_call]
  refine ⟨created, fun _ => ?_⟩
  split
  · trivial
  · refine ⟨fetched, fun _ => ?_⟩
    dsimp only
    split
    · trivial
    · trivial
    · unfold amend
      split
      · trivial
      · refine ⟨patched, fun _ => ?_⟩
        simp only [bind_done]
        split <;> trivial
  · trivial

namespace Pass

variable {settings : PassSettings} {app base w : AppService} {h : History Call.Answer}

/-- Publish what was done to an object, if anything. -/
def announce (app : AppService) (r : ManagedResource) (c : Convergence) : Operation Unit :=
  match convergenceNotice? r c with
  | some notice => publish app notice
  | none => .done ()

theorem converge_cons (app : AppService) (r : ManagedResource) (rs : List ManagedResource) :
    converge app (r :: rs) = r.ensure.bind fun
      | .error e => .done (.error e)
      | .ok c => (announce app r c).bind fun _ => converge app rs := by
  rw [converge, bind_eq]
  congr 1
  funext a
  cases a with
  | error e => rfl
  | ok c =>
    dsimp only
    unfold announce
    cases convergenceNotice? r c <;> rfl

theorem announce_onObjects (app : AppService) (r : ManagedResource) (c : Convergence)
    (h : History Call.Answer) : (announce app r c).Along (fun _ c => c.OnObjects) (fun _ _ => True) h := by
  unfold announce
  split
  · exact ⟨trivial, fun _ => trivial⟩
  · trivial

theorem converge_onObjects (app : AppService) (rs : List ManagedResource) (h : History Call.Answer) :
    (converge app rs).Along (fun _ c => c.OnObjects) (fun _ _ => True) h := by
  induction rs generalizing h with
  | nil => trivial
  | cons r rs ih =>
    rw [converge_cons, along_bind]
    -- the answer of `ensure` decides whether the rest of the objects follows
    refine (ManagedResource.along_ensure (P := Call.OnObjects) trivial trivial trivial h).imp fun h₁ a _ => ?_
    cases a with
    | error e => trivial
    | ok c =>
      rw [along_bind]
      exact (announce_onObjects app r c h₁).imp fun h₂ _ _ => ih h₂

theorem migration_onPods (ns : String) (s : MigrationSettings) (h : History Call.Answer) :
    (Migration.run ns s).Along (fun _ c => c.OnPods) (fun _ _ => True) h := by
  unfold Migration.run
  simp only [bind_eq, bind_call, bind_done, along_call]
  refine ⟨trivial, fun pods => ?_⟩
  split
  · trivial
  · split
    · trivial
    · refine ⟨trivial, fun output => ?_⟩
      simp only [bind_done]
      split <;> trivial

/-- Where a convergence succeeds, it brought about every object. -/
theorem ran_of_converge {rs : List ManagedResource} (path : Path (converge app rs) h (.done (.ok ()))) :
    ∀ r ∈ rs, ∃ c, Program.Ran h r.ensure (.ok c) := by
  induction rs generalizing h with
  | nil => simp
  | cons r rs ih =>
    rw [converge_cons, path_bind_done] at path
    obtain ⟨h₁, h₂, a, rfl, one, path⟩ := path
    cases a with
    | error e => cases path
    | ok c =>
      obtain ⟨h₃, h₄, _, rfl, -, rest⟩ := path_bind_done.1 path
      refine List.forall_mem_cons.2 ⟨⟨c, one.ran.append_right _⟩, fun q hq => ?_⟩
      obtain ⟨c', ran⟩ := ih rest q hq
      exact ⟨c', (ran.append_left h₃).append_left h₁⟩

/-! ## What can come of an AppService -/

/-- The AppService is valid and marked, and all its objects were brought about. -/
structure Converged (settings : PassSettings) (app : AppService) (h : History Call.Answer) : Prop where
  valid : app.spec.validate app.name = .ok ()
  initialized : app.spec.initialized = true
  objects : ∃ ctx, Context.ofApp app settings.script = .ok ctx ∧
    Path (converge app (Desired.resources ctx)) h (.done (.ok ()))

/-- The AppService with another attempt at the migration. -/
def attempted (settings : PassSettings) (app : AppService) (outcome : MigrationStatus) : AppService :=
  app.mapStatus (·.recordMigration settings.migration.scriptName outcome)

def runMigration (settings : PassSettings) (app : AppService) :
    Operation (Except OperatorError MigrationOutcome) :=
  Migration.run (app.ns.getD "") settings.migration

/-- What comes of an AppService, and the history of it, which grows call by call. -/
inductive Driven (settings : PassSettings) (app : AppService) :
    History Call.Answer → AppService × Except OperatorError Progress → Prop where
  | invalid {e : OperatorError} (fault : app.spec.validate app.name = .error e) :
      Driven settings app [] (app, .error e)
  | notMarked {e : OperatorError} (valid : app.spec.validate app.name = .ok ())
      (unmarked : app.spec.initialized = false) :
      Driven settings app [⟨.replaceApp app.marked, .error e⟩] (app.marked, .error e)
  | marked {stored : AppService} (valid : app.spec.validate app.name = .ok ())
      (unmarked : app.spec.initialized = false) :
      Driven settings app
        ([⟨.replaceApp app.marked, .ok stored⟩] ++
          [⟨.publish stored.reference ⟨.normal, Reason.initialized, reconcileAction, none⟩, ()⟩])
        (stored, .ok .initialized)
  | noContext {e : OperatorError} (valid : app.spec.validate app.name = .ok ())
      (initialized : app.spec.initialized = true) (fault : Context.ofApp app settings.script = .error e) :
      Driven settings app [] (app, .error e)
  | stuck {ctx : Context} {h : History Call.Answer} {e : OperatorError}
      (valid : app.spec.validate app.name = .ok ()) (initialized : app.spec.initialized = true)
      (context : Context.ofApp app settings.script = .ok ctx)
      (objects : Path (converge app (Desired.resources ctx)) h (.done (.error e))) :
      Driven settings app h (app, .error e)
  | settled {h : History Call.Answer} (converged : Converged settings app h)
      (succeeded : app.migration = .succeeded) :
      Driven settings app h (app, .ok (.converged .noAction none))
  | waiting {h hm : History Call.Answer} (converged : Converged settings app h)
      (due : app.migration ≠ .succeeded)
      (ran : Path (runMigration settings app) hm (.done (.ok .notReady))) :
      Driven settings app (h ++ hm) (app, .ok (.converged .requeueEvent (some settings.migrationRequeue)))
  | unmigrated {h hm : History Call.Answer} {e : OperatorError} (converged : Converged settings app h)
      (due : app.migration ≠ .succeeded) (ran : Path (runMigration settings app) hm (.done (.error e))) :
      Driven settings app
        (h ++ hm ++ [⟨.publish (attempted settings app .failed).reference
          ⟨.warning, Reason.migrationFailed, migrateAction, some e.message⟩, ()⟩])
        (attempted settings app .failed, .error e)
  | unstored {h hm : History Call.Answer} {pod stdout : String} {e : OperatorError}
      (converged : Converged settings app h) (due : app.migration ≠ .succeeded)
      (ran : Path (runMigration settings app) hm (.done (.ok (.completed pod stdout)))) :
      Driven settings app
        (h ++ hm ++ [⟨.writeStatus (attempted settings app .succeeded), .error e⟩] ++
          [⟨.publish (attempted settings app .succeeded).reference
            ⟨.warning, Reason.statusUpdateFailed, reconcileAction, some e.message⟩, ()⟩])
        (attempted settings app .succeeded, .ok .statusNotWritten)
  | migrated {h hm : History Call.Answer} {pod stdout : String} {stored : AppService}
      (converged : Converged settings app h) (due : app.migration ≠ .succeeded)
      (ran : Path (runMigration settings app) hm (.done (.ok (.completed pod stdout)))) :
      Driven settings app
        (h ++ hm ++ [⟨.writeStatus (attempted settings app .succeeded), .ok stored⟩] ++
          [⟨.publish stored.reference ⟨.normal, Reason.migrationSucceeded, migrateAction,
            some (settings.migration.scriptName ++ " ran in " ++ pod)⟩, ()⟩])
        (stored, .ok (.converged .migrationStarted none))

/-- A status that a pass over an AppService sends to the store, and the history up to there. -/
inductive StatusWrite (settings : PassSettings) (app : AppService) :
    History Call.Answer → AppService → Prop where
  /-- The result of a clean run of the script, at once. -/
  | migrated {h hm : History Call.Answer} {pod stdout : String} (converged : Converged settings app h)
      (due : app.migration ≠ .succeeded)
      (ran : Path (runMigration settings app) hm (.done (.ok (.completed pod stdout)))) :
      StatusWrite settings app (h ++ hm) (attempted settings app .succeeded)
  | succeeded {h : History Call.Answer} {base : AppService} {action : LastAction} {requeue : Option Nat}
      (driven : Driven settings app h (base, .ok (.converged action requeue))) (now : Instant) :
      StatusWrite settings app (h ++ [⟨.now, now⟩]) (base.mapStatus (·.recordSuccess action now))
  | failed {h : History Call.Answer} {base : AppService} {e : OperatorError}
      (driven : Driven settings app h (base, .error e)) (now : Instant) :
      StatusWrite settings app
        (h ++ [⟨.now, now⟩] ++ [⟨.publish (base.mapStatus (·.recordFailure e.message now)).reference
          ⟨.warning, Reason.processingError, reconcileAction, some e.message⟩, ()⟩])
        (base.mapStatus (·.recordFailure e.message now))

/-- A call sends no status, or one of those that are listed. -/
def Admits (settings : PassSettings) (app : AppService) (h : History Call.Answer) (c : Call) : Prop :=
  ∀ w, c = .writeStatus w → StatusWrite settings app h w

theorem admits_of_ne {c : Call} (hc : ∀ w, c ≠ .writeStatus w) : Admits settings app h c :=
  fun w hw => absurd hw (hc w)

/-! ## There is no other way -/

theorem along_storeMigration {hc hm : History Call.Answer} {pod stdout : String}
    (converged : Converged settings app hc) (due : app.migration ≠ .succeeded)
    (ran : Path (runMigration settings app) hm (.done (.ok (.completed pod stdout)))) :
    (storeMigration settings app pod).Along (Admits settings app) (Driven settings app) (hc ++ hm) := by
  refine ⟨fun w hw => ?_, fun stored => ?_⟩
  · cases hw
    exact .migrated converged due ran
  · cases stored with
    | error e => exact ⟨admits_of_ne (by simp), fun _ => .unstored converged due ran⟩
    | ok stored => exact ⟨admits_of_ne (by simp), fun _ => .migrated converged due ran⟩

theorem along_migrate {hc : History Call.Answer} (converged : Converged settings app hc)
    (due : app.migration ≠ .succeeded) :
    (migrate settings app).Along (Admits settings app) (Driven settings app) hc := by
  rw [migrate, bind_eq, along_bind]
  refine along_of_path (fun hm c _ path w hw => ?_) fun hm result ran => ?_
  · subst hw
    exact False.elim ((migration_onPods _ _ []).call path)
  · cases result with
    | error e => exact ⟨admits_of_ne (by simp), fun _ => .unmigrated converged due ran⟩
    | ok outcome =>
      cases outcome with
      | notReady => exact .waiting converged due ran
      | completed pod stdout => exact along_storeMigration converged due ran

theorem along_markInitialized (valid : app.spec.validate app.name = .ok ())
    (unmarked : app.spec.initialized = false) :
    (markInitialized app).Along (Admits settings app) (Driven settings app) [] := by
  refine ⟨admits_of_ne (by simp), fun stored => ?_⟩
  cases stored with
  | error e => exact .notMarked valid unmarked
  | ok stored => exact ⟨admits_of_ne (by simp), fun _ => .marked valid unmarked⟩

theorem along_drive (settings : PassSettings) (app : AppService) :
    (drive settings app).Along (Admits settings app) (Driven settings app) [] := by
  unfold drive
  cases valid : app.spec.validate app.name with
  | error e => exact .invalid valid
  | ok =>
    cases initialized : app.spec.initialized with
    | false => exact along_markInitialized valid initialized
    | true =>
      cases context : Context.ofApp app settings.script with
      | error e => exact .noContext valid initialized context
      | ok ctx =>
        simp only [Bool.not_true, Bool.false_eq_true, if_false]
        rw [bind_eq, along_bind]
        refine along_of_path (fun hc c _ path w hw => ?_) fun hc result objects => ?_
        · subst hw
          exact False.elim ((converge_onObjects _ _ []).call path)
        · rw [List.nil_append]
          cases result with
          | error e => exact .stuck valid initialized context objects
          | ok =>
            have converged : Converged settings app hc := ⟨valid, initialized, ctx, context, objects⟩
            dsimp only
            split
            · rename_i succeeded
              exact .settled converged succeeded
            · rename_i due
              exact along_migrate converged due

/-- Nothing else can come of an AppService. -/
theorem driven_of_path {r : AppService × Except OperatorError Progress}
    (path : Path (drive settings app) h (.done r)) : Driven settings app h r := by
  simpa using (along_drive settings app).value path

theorem along_writeStatus (write : StatusWrite settings app h w) :
    (writeStatus w).Along (Admits settings app) (fun _ _ => True) h := by
  refine ⟨fun w' hw => ?_, fun stored => ?_⟩
  · cases hw
    exact write
  · cases stored with
    | error e => exact ⟨admits_of_ne (by simp), fun _ => trivial⟩
    | ok stored => trivial

theorem along_commitSuccess {action : LastAction} {requeue : Option Nat}
    (driven : Driven settings app h (base, .ok (.converged action requeue))) :
    (commitSuccess base action requeue).Along (Admits settings app) (fun _ _ => True) h := by
  unfold commitSuccess
  simp only [bind_eq, bind_call, bind_done, along_call, along_bind]
  refine ⟨admits_of_ne (by simp), fun now => ?_⟩
  refine (along_writeStatus (.succeeded driven now)).imp fun _ written _ => ?_
  split <;> trivial

theorem along_commitFailure {e : OperatorError} (driven : Driven settings app h (base, .error e)) :
    (commitFailure base e).Along (Admits settings app) (fun _ _ => True) h := by
  unfold commitFailure publish
  simp only [bind_eq, bind_call, bind_done, along_call, along_bind]
  refine ⟨admits_of_ne (by simp), fun now => ⟨admits_of_ne (by simp), fun _ => ?_⟩⟩
  refine (along_writeStatus (.failed driven now)).imp fun _ written _ => ?_
  split <;> trivial

theorem along_commit {r : AppService × Except OperatorError Progress} (driven : Driven settings app h r) :
    (commit r).Along (Admits settings app) (fun _ _ => True) h := by
  obtain ⟨base, result⟩ := r
  cases result with
  | error e => exact along_commitFailure driven
  | ok progress =>
    cases progress with
    | initialized => trivial
    | statusNotWritten => trivial
    | converged action requeue => exact along_commitSuccess driven

theorem along_work (settings : PassSettings) (app : AppService) :
    (work settings app).Along (Admits settings app) (fun _ _ => True) [] := by
  unfold work
  split
  · rw [bind_eq, along_bind]
    refine (along_drive settings app).imp fun h r driven => ?_
    rw [bind_eq, along_bind]
    exact (along_commit driven).imp fun _ _ _ => trivial
  · trivial

/-- A pass sends only the listed statuses, made of the AppService that it fetched. -/
theorem statusWrite_of_path {key : AppService} {next : Except OperatorError AppService → Operation _}
    (path : Path (reconcile settings key) h (.call (.writeStatus w) next)) :
    ∃ ns app h', h = ⟨.fetchApp ns key.name, .ok (some app)⟩ :: h' ∧ StatusWrite settings app h' w := by
  unfold reconcile at path
  split at path
  · cases path
  · rename_i ns _
    cases path with
    | step fetched path =>
      rcases fetched with e | _ | app
      · cases path
      · cases path
      · replace path : Path ((work settings app).bind fun action => .done (Except.ok action)) _ _ := path
        rcases path_bind_call path with ⟨next', path⟩ | ⟨_, _, _, -, -, path⟩
        · exact ⟨ns, app, _, rfl, (along_work settings app).call path w rfl⟩
        · cases path

/-! ## What a write makes of the status -/

/-- Where bringing about an AppService failed, it comes back as it was fetched, or with a failed
attempt at the migration. -/
theorem Driven.failed_base {e : OperatorError} (driven : Driven settings app h (base, .error e)) :
    base.metadata = app.metadata ∧
      (base.status = app.status ∨
        app.migration ≠ .succeeded ∧ base.status = (attempted settings app .failed).status) := by
  cases driven with
  | invalid => exact ⟨rfl, .inl rfl⟩
  | notMarked => exact ⟨rfl, .inl rfl⟩
  | noContext => exact ⟨rfl, .inl rfl⟩
  | stuck => exact ⟨rfl, .inl rfl⟩
  | unmigrated converged due ran => exact ⟨rfl, .inr ⟨due, rfl⟩⟩

/-- Where all objects were brought about, the AppService comes back as it was fetched, or as the
store answered the write of the migration. -/
theorem Driven.converged_base {action : LastAction} {requeue : Option Nat}
    (driven : Driven settings app h (base, .ok (.converged action requeue))) :
    base = app ∧ (action ≠ .requeueEvent → app.migration = .succeeded) ∨
      ⟨.writeStatus (attempted settings app .succeeded), .ok base⟩ ∈ h := by
  cases driven with
  | settled converged succeeded => exact .inl ⟨rfl, fun _ => succeeded⟩
  | waiting converged due ran => exact .inl ⟨rfl, fun h => absurd rfl h⟩
  | migrated converged due ran => exact .inr (by simp)

/-- Where the store keeps what it is sent, a status that is written is a change of one that the pass
was told, and carries the version that came with it. -/
theorem StatusWrite.change (write : StatusWrite settings app h w)
    (kept : ∀ sent o, ⟨.writeStatus sent, .ok o⟩ ∈ h → o.status = sent.status) :
    ∃ o, (o = app ∨ ∃ sent, ⟨.writeStatus sent, .ok o⟩ ∈ h) ∧ w.metadata = o.metadata ∧
      o.currentStatus.Change w.currentStatus := by
  cases write with
  | migrated converged due ran => exact ⟨app, .inl rfl, rfl, .migrated _ due⟩
  | @succeeded h base action requeue driven now =>
    rcases driven.converged_base with ⟨rfl, done⟩ | written
    · exact ⟨base, .inl rfl, rfl, .succeeded action now done⟩
    · refine ⟨base, .inr ⟨_, List.mem_append_left _ written⟩, rfl, .succeeded action now fun _ => ?_⟩
      rw [AppService.currentStatus_congr (kept _ _ (List.mem_append_left _ written))]
      simp [attempted, Status.recordMigration]
  | @failed h base e driven now =>
    obtain ⟨hmeta, hstatus⟩ := driven.failed_base
    refine ⟨app, .inl rfl, hmeta, ?_⟩
    rw [AppService.currentStatus_mapStatus]
    rcases hstatus with hstatus | ⟨due, hstatus⟩
    · rw [AppService.currentStatus_congr hstatus]
      exact .failed _ _
    · rw [AppService.currentStatus_congr hstatus]
      exact .unmigrated _ _ _ due

theorem Driven.converged {action : LastAction} {requeue : Option Nat}
    (driven : Driven settings app h (base, .ok (.converged action requeue))) :
    ∃ hc h', h = hc ++ h' ∧ Converged settings app hc := by
  cases driven with
  | settled converged succeeded => exact ⟨h, [], by simp, converged⟩
  | waiting converged due ran => exact ⟨_, _, rfl, converged⟩
  | migrated converged due ran => exact ⟨_, _, by rw [List.append_assoc, List.append_assoc], converged⟩

theorem attempted_migration (settings : PassSettings) (app : AppService) (outcome : MigrationStatus) :
    (attempted settings app outcome).migration = if app.migration = .succeeded then .succeeded else outcome :=
  rfl

/-- A pass writes that the migration succeeded where it had not only after the script ran cleanly. -/
theorem StatusWrite.completed (write : StatusWrite settings app h w) (due : app.migration ≠ .succeeded)
    (succeeded : w.migration = .succeeded) :
    ∃ hc hm after pod stdout, h = hc ++ hm ++ after ∧ Converged settings app hc ∧
      Path (runMigration settings app) hm (.done (.ok (.completed pod stdout))) ∧
      ∀ t ∈ after, ¬ t.call.OnPods := by
  cases write with
  | @migrated hc hm pod stdout converged due ran =>
    exact ⟨hc, hm, [], pod, stdout, by simp, converged, ran, by simp⟩
  | succeeded driven now =>
    cases driven with
    | settled converged done => exact absurd done due
    | waiting converged due ran => exact absurd succeeded due
    | @migrated hc hm pod stdout stored converged due ran =>
      refine ⟨hc, hm, _, pod, stdout, by rw [List.append_assoc, List.append_assoc], converged, ran, ?_⟩
      simp [Call.OnPods]
  | @failed h base e driven now =>
    -- what is recorded of a failure leaves the migration as the pass left it, which is not succeeded
    have hbase : base.migration ≠ .succeeded := by
      rcases driven.failed_base.2 with hstatus | ⟨-, hstatus⟩
      · rw [AppService.migration, AppService.currentStatus_congr hstatus]
        exact due
      · rw [AppService.migration, AppService.currentStatus_congr hstatus]
        change (attempted settings app .failed).migration ≠ .succeeded
        rw [attempted_migration, if_neg due]
        decide
    exact absurd succeeded hbase

/-- A status that reports promotion is only written after all objects were brought about. -/
theorem StatusWrite.converged (write : StatusWrite settings app h w) (single : app.currentStatus.Single)
    (promoted : w.currentStatus.IsPromoted) : ∃ hc h', h = hc ++ h' ∧ Converged settings app hc := by
  cases write with
  | migrated converged due ran => exact ⟨_, _, rfl, converged⟩
  | succeeded driven now =>
    obtain ⟨hc, h', rfl, converged⟩ := driven.converged
    exact ⟨hc, h' ++ [⟨.now, now⟩], by simp, converged⟩
  | @failed h base e driven now =>
    rw [AppService.currentStatus_mapStatus] at promoted
    have hbase : base.currentStatus.Single := by
      rcases driven.failed_base.2 with hstatus | ⟨-, hstatus⟩
      · rw [AppService.currentStatus_congr hstatus]
        exact single
      · rw [AppService.currentStatus_congr hstatus]
        exact single
    exact absurd promoted (Status.not_isPromoted_recordFailure hbase _ now)

end Pass

/-! ## A pass in which all goes well -/

namespace Smooth

def app : AppService where
  metadata := { name := some "gramola", ns := some "demo", uid := some "7", resourceVersion := some "1" }
  spec := { initialized := true }

def pod : Pod where
  metadata := { name := some "events-database-1" }
  status := some { phase := some "Running", containers := some [⟨"postgresql", true, []⟩] }

/-- Every call succeeds: the AppService is the one above, no object is there yet, and the database
is ready. -/
def answer : (c : Call) → c.Answer
  | .fetchApp .. => .ok (some app)
  | .replaceApp app | .writeStatus app => .ok app
  | .create _ | .patch .. => .ok ()
  | .fetch _ => .ok none
  | .listPods .. => .ok [pod]
  | .exec .. => some (.ok {})
  | .publish .. => ()
  | .now => ⟨0, 0⟩

/-- As `answer`, but no command ends in time. -/
def late : (c : Call) → c.Answer
  | .exec .. => none
  | c => answer c

end Smooth

end AppServiceOperator
