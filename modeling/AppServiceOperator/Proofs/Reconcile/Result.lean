import AppServiceOperator.Proofs.Reconcile.Attempt
import AppServiceOperator.Proofs.Reconcile.Outcome
/-!
# The result of the migration

What a pass makes of a clean run of the script. `Timely` says which calls may follow what happened so
far: pods are looked at only while nothing was written, the result of a clean run is written before
anything else is done, and no status is written after one was refused. All calls of a pass are timely
(`timely_of_path`), and no pass ends with a result that it did not write (`written_of_path`).
-/
namespace AppServiceOperator

open Program (History Path Turn along_done along_call along_bind along_of_path bind_eq bind_call bind_done)

namespace Migration

/-- Whether a run of the script is reported as completed. -/
def isCompleted : Except OperatorError MigrationOutcome → Bool
  | .ok (.completed ..) => true
  | .ok .notReady | .error _ => false

end Migration

namespace Program.Turn

/-- Whether the turn is a clean run of the script. -/
def completes : Turn Call.Answer → Bool
  | ⟨.exec _ pod _ _, some (.ok output)⟩ => Migration.isCompleted (Migration.outcome pod output)
  | _ => false

/-- Whether the turn is a status write that was answered with an error. -/
def refused : Turn Call.Answer → Bool
  | ⟨.writeStatus _, .error _⟩ => true
  | _ => false

theorem onPods_of_completes {t : Turn Call.Answer} (h : t.completes = true) : t.call.OnPods := by
  obtain ⟨c, answer⟩ := t
  cases c <;> trivial

theorem refused_eq_false {t : Turn Call.Answer} (h : t.statusWrite? = none) : t.refused = false := by
  obtain ⟨c, answer⟩ := t
  cases c <;> first | rfl | cases h

end Program.Turn

/-- The calls that are neither about pods nor status writes. -/
def Call.Aside : Call → Prop
  | .listPods .. | .exec .. | .writeStatus _ => False
  | _ => True

namespace Call

variable {c : Call}

theorem OnObjects.aside (h : c.OnObjects) : c.Aside := by
  cases c <;> trivial

theorem Aside.not_onPods (h : c.Aside) : ¬ c.OnPods := by
  cases c <;> first | exact id | exact h.elim

theorem Aside.not_writeStatus (h : c.Aside) (w : AppService) : c ≠ .writeStatus w := by
  rintro rfl
  exact h

theorem Aside.completes_eq_false (h : c.Aside) (answer : c.Answer) :
    Turn.completes ⟨c, answer⟩ = false := by
  cases c <;> first | rfl | exact h.elim

theorem Aside.statusWrite?_eq_none (h : c.Aside) (answer : c.Answer) :
    Turn.statusWrite? ⟨c, answer⟩ = none :=
  Turn.statusWrite?_of_ne h.not_writeStatus

end Call

namespace Pass

variable {settings : PassSettings} {key app w : AppService} {h k : History Call.Answer} {t : Turn Call.Answer}
  {c : Call} {α : Type}

/-! ## Clean runs and their results -/

/-- How often the script ran cleanly. -/
def cleanRuns (h : History Call.Answer) : Nat := h.countP Turn.completes

/-- Whether the last thing that happened is a clean run. -/
def awaitsResult (h : History Call.Answer) : Bool := h.getLast?.any Turn.completes

/-- How often a status write that followed on a clean run was answered with an error. -/
def refusedResults : History Call.Answer → Nat
  | t :: u :: h => (t.completes && u.refused).toNat + refusedResults (u :: h)
  | _ => 0

@[simp] theorem cleanRuns_snoc : cleanRuns (h ++ [t]) = cleanRuns h + t.completes.toNat := by
  rw [cleanRuns, List.countP_append, List.countP_singleton]
  cases t.completes <;> rfl

@[simp] theorem awaitsResult_snoc : awaitsResult (h ++ [t]) = t.completes := by
  simp [awaitsResult]

@[simp] theorem refusedResults_snoc :
    refusedResults (h ++ [t]) = refusedResults h + (awaitsResult h && t.refused).toNat := by
  induction h using refusedResults.induct with
  | case1 u v h ih =>
    have hlast : awaitsResult (u :: v :: h) = awaitsResult (v :: h) := by simp [awaitsResult]
    rw [List.cons_append, List.cons_append, refusedResults, ← List.cons_append, ih, refusedResults, hlast]
    omega
  | case2 h short =>
    cases h with
    | nil => rfl
    | cons u h =>
      cases h with
      | nil => simp [refusedResults, awaitsResult]
      | cons v h => exact absurd rfl (short u v h)

/-- A run of the script counts as clean where it is reported as completed. -/
theorem cleanRuns_of_run {ns : String} {s : MigrationSettings} {r : Except OperatorError MigrationOutcome}
    (ran : Path (Migration.run ns s) h (.done r)) : cleanRuns h = (Migration.isCompleted r).toNat := by
  cases Migration.attempt_of_run ran with
  | ran first =>
    change cleanRuns ([_] ++ [_]) = _
    rw [cleanRuns_snoc]
    exact Nat.zero_add _
  | _ => rfl

/-! ## What may follow -/

/-- The call is one that a pass makes after what happened so far. -/
structure Timely (h : History Call.Answer) (c : Call) : Prop where
  /-- Pods are for a migration that had not succeeded when it was read, and nothing was written since. -/
  due : c.OnPods → awaitsResult h = false ∧ statusWrites h = [] ∧
    ∃ ns name app, ⟨.fetchApp ns name, .ok (some app)⟩ ∈ h ∧ app.migration ≠ .succeeded
  /-- After a clean run, the next thing to do is to write that it succeeded. -/
  result : awaitsResult h = true → ∃ w, c = .writeStatus w ∧ w.migration = .succeeded
  /-- A status is only written where none was refused. -/
  last : ∀ w, c = .writeStatus w → ∀ t ∈ h, t.refused = false

/-- Nothing was written yet, and there is nothing to write yet. -/
structure Unwritten (h : History Call.Answer) : Prop where
  awaits : awaitsResult h = false
  writes : statusWrites h = []

/-- Another status may be written, and it is not that of a clean run. -/
structure Writable (h : History Call.Answer) : Prop where
  awaits : awaitsResult h = false
  accepted : ∀ t ∈ h, t.refused = false

theorem refused_of_statusWrites (writes : statusWrites h = []) : ∀ t ∈ h, t.refused = false :=
  fun t ht => Turn.refused_eq_false (List.filterMap_eq_nil_iff.1 writes t ht)

theorem Unwritten.writable (unwritten : Unwritten h) : Writable h :=
  ⟨unwritten.awaits, refused_of_statusWrites unwritten.writes⟩

theorem Unwritten.append (unwritten : Unwritten h) (aside : ∀ t ∈ k, t.call.Aside) : Unwritten (h ++ k) where
  awaits := by
    rcases List.eq_nil_or_concat k with rfl | ⟨front, last, rfl⟩
    · rw [List.append_nil, unwritten.awaits]
    · rw [List.concat_eq_append, ← List.append_assoc, awaitsResult_snoc]
      exact (aside last (by simp)).completes_eq_false _
  writes := by
    rw [statusWrites_append, unwritten.writes,
      statusWrites_eq_nil fun t ht => (aside t ht).statusWrite?_eq_none _]
    rfl

theorem timely_of_aside (awaits : awaitsResult h = false) (aside : c.Aside) : Timely h c where
  due onPods := absurd onPods aside.not_onPods
  result waiting := by simp [awaits] at waiting
  last w hw := absurd hw (aside.not_writeStatus w)

theorem Writable.timely (writable : Writable h) : Timely h (.writeStatus w) where
  due onPods := onPods.elim
  result waiting := by simp [writable.awaits] at waiting
  last _ _ := writable.accepted

theorem Writable.aside (writable : Writable h) (aside : c.Aside) (answer : c.Answer) :
    Writable (h ++ [⟨c, answer⟩]) where
  awaits := by rw [awaitsResult_snoc, aside.completes_eq_false]
  accepted := by
    refine List.forall_mem_append.2 ⟨writable.accepted, ?_⟩
    simpa using Turn.refused_eq_false (aside.statusWrite?_eq_none answer)

/-- A call that is neither about pods nor a status write changes nothing about what may follow. -/
theorem Writable.along_call {Q : History Call.Answer → α → Prop} {next : c.Answer → Operation α}
    (writable : Writable h) (aside : c.Aside)
    (rest : ∀ answer, Writable (h ++ [⟨c, answer⟩]) → (next answer).Along Timely Q (h ++ [⟨c, answer⟩])) :
    (Program.call c next).Along Timely Q h :=
  ⟨timely_of_aside writable.awaits aside, fun answer => rest answer (writable.aside aside answer)⟩

/-! ## All calls of a pass -/

theorem timely_publish (writable : Writable h) (notice : Notice) :
    (publish app notice).Along Timely (fun h _ => Writable h) h :=
  writable.along_call trivial fun _ writable => writable

theorem timely_converge {rs : List ManagedResource} (unwritten : Unwritten h) :
    (converge app rs).Along Timely (fun k _ => Unwritten k ∧ h ⊆ k) h := by
  have kept {during : History Call.Answer} {q : Operation (Except OperatorError Unit)}
      (path : Path (converge app rs) during q) : Unwritten (h ++ during) :=
    unwritten.append fun t ht => ((converge_onObjects app rs []).turns path t ht).aside
  refine along_of_path (fun during c next path => ?_) fun during a path => ?_
  · exact timely_of_aside (kept path).awaits ((converge_onObjects app rs []).call path).aside
  · exact ⟨kept path, List.subset_append_left h during⟩

theorem timely_runMigration {ns name : String} (unwritten : Unwritten h)
    (read : ⟨.fetchApp ns name, .ok (some app)⟩ ∈ h) (due : app.migration ≠ .succeeded) :
    (runMigration settings app).Along Timely
      (fun h r => statusWrites h = [] ∧ awaitsResult h = Migration.isCompleted r) h := by
  have onPods {c : Call} {h : History Call.Answer} (unwritten : Unwritten h)
      (read : ⟨.fetchApp ns name, .ok (some app)⟩ ∈ h) (noWrite : ∀ w, c ≠ .writeStatus w) : Timely h c :=
    ⟨fun _ => ⟨unwritten.awaits, unwritten.writes, ns, name, app, read, due⟩,
      fun waiting => by simp [unwritten.awaits] at waiting, fun w hw => absurd hw (noWrite w)⟩
  unfold runMigration Migration.run
  simp only [bind_eq, bind_call, bind_done, along_call]
  refine ⟨onPods unwritten read (by simp), fun pods => ?_⟩
  have listed : Unwritten (h ++ [⟨.listPods (app.ns.getD "") Desired.databaseSelector, pods⟩]) :=
    ⟨awaitsResult_snoc, by rw [statusWrites_append, unwritten.writes]; rfl⟩
  split
  · exact ⟨listed.writes, listed.awaits⟩
  · split
    · exact ⟨listed.writes, listed.awaits⟩
    · refine ⟨onPods listed (List.mem_append_left _ read) (by simp), fun output => ?_⟩
      rcases output with _ | e | output <;>
        exact ⟨by rw [statusWrites_append, listed.writes]; rfl, awaitsResult_snoc⟩

/-- What is true when it remains to record how bringing the AppService about went. -/
structure Recordable (h : History Call.Answer) (r : AppService × Except OperatorError Progress) : Prop where
  awaits : awaitsResult h = false
  accepted : r.2 ≠ .ok .statusNotWritten → ∀ t ∈ h, t.refused = false

theorem Writable.recordable {r : AppService × Except OperatorError Progress} (writable : Writable h) :
    Recordable h r := ⟨writable.awaits, fun _ => writable.accepted⟩

theorem timely_storeMigration {pod : String} (writes : statusWrites h = [])
    (due : app.migration ≠ .succeeded) :
    (storeMigration settings app pod).Along Timely Recordable h := by
  have accepted := refused_of_statusWrites writes
  have succeeded : (attempted settings app .succeeded).migration = .succeeded :=
    (attempted_migration settings app .succeeded).trans (if_neg due)
  refine ⟨⟨False.elim, fun _ => ⟨_, rfl, succeeded⟩, fun _ _ => accepted⟩, fun stored => ?_⟩
  cases stored with
  | error e => exact ⟨timely_of_aside awaitsResult_snoc trivial, fun _ => ⟨awaitsResult_snoc, absurd rfl⟩⟩
  | ok stored =>
    have writable : Writable (h ++ [⟨.writeStatus (attempted settings app .succeeded), .ok stored⟩]) :=
      ⟨awaitsResult_snoc, List.forall_mem_append.2 ⟨accepted, by simp [Turn.refused]⟩⟩
    exact (timely_publish writable _).imp fun h _ writable => writable.recordable

theorem timely_migrate {ns name : String} (unwritten : Unwritten h)
    (read : ⟨.fetchApp ns name, .ok (some app)⟩ ∈ h) (due : app.migration ≠ .succeeded) :
    (migrate settings app).Along Timely Recordable h := by
  rw [migrate, bind_eq, along_bind]
  refine (timely_runMigration unwritten read due).imp fun h r ran => ?_
  obtain ⟨writes, awaits⟩ := ran
  rcases r with e | _ | ⟨pod, stdout⟩
  · have writable : Writable h := ⟨awaits, refused_of_statusWrites writes⟩
    exact (timely_publish writable _).imp fun h _ writable => writable.recordable
  · exact Writable.recordable ⟨awaits, refused_of_statusWrites writes⟩
  · exact timely_storeMigration writes due

theorem timely_markInitialized (writable : Writable h) : (markInitialized app).Along Timely Recordable h := by
  refine writable.along_call trivial fun stored writable => ?_
  cases stored with
  | error e => exact writable.recordable
  | ok stored => exact (timely_publish writable _).imp fun h _ writable => writable.recordable

theorem timely_drive {ns name : String} (unwritten : Unwritten h)
    (read : ⟨.fetchApp ns name, .ok (some app)⟩ ∈ h) :
    (drive settings app).Along Timely Recordable h := by
  have recordable {r : AppService × Except OperatorError Progress} : Recordable h r :=
    unwritten.writable.recordable
  unfold drive
  split
  · exact recordable
  · split
    · exact timely_markInitialized unwritten.writable
    · split
      · exact recordable
      · rw [bind_eq, along_bind]
        refine (timely_converge unwritten).imp fun h result ⟨unwritten, later⟩ => ?_
        cases result with
        | error e => exact unwritten.writable.recordable
        | ok =>
          dsimp only
          split
          · exact unwritten.writable.recordable
          · rename_i due
            exact timely_migrate unwritten (later read) due

/-- The last write of a pass. -/
theorem timely_writeStatus (writable : Writable h) :
    (writeStatus w).Along Timely (fun h _ => awaitsResult h = false) h := by
  refine ⟨writable.timely, fun stored => ?_⟩
  cases stored with
  | error e => exact ⟨timely_of_aside awaitsResult_snoc trivial, fun _ => awaitsResult_snoc⟩
  | ok stored => exact awaitsResult_snoc

theorem timely_commit {r : AppService × Except OperatorError Progress} (recordable : Recordable h r) :
    (commit r).Along Timely (fun h _ => awaitsResult h = false) h := by
  obtain ⟨base, e | progress⟩ := r
  · have writable : Writable h := ⟨recordable.awaits, recordable.accepted nofun⟩
    refine writable.along_call trivial fun now writable => ?_
    refine writable.along_call trivial fun _ writable => ?_
    rw [along_bind, along_done, bind_eq, along_bind]
    refine (timely_writeStatus writable).imp fun h stored awaits => ?_
    cases stored <;> exact awaits
  · cases progress with
    | initialized => exact recordable.awaits
    | statusNotWritten => exact recordable.awaits
    | converged action requeue =>
      have writable : Writable h := ⟨recordable.awaits, recordable.accepted nofun⟩
      refine writable.along_call trivial fun now writable => ?_
      rw [along_bind, along_done, bind_eq, along_bind]
      refine (timely_writeStatus writable).imp fun h stored awaits => ?_
      cases stored <;> exact awaits

theorem timely_work {ns name : String} (unwritten : Unwritten h)
    (read : ⟨.fetchApp ns name, .ok (some app)⟩ ∈ h) :
    (work settings app).Along Timely (fun h _ => awaitsResult h = false) h := by
  unfold work
  split
  · rw [bind_eq, along_bind]
    refine (timely_drive unwritten read).imp fun h r recordable => ?_
    rw [bind_eq, along_bind]
    exact (timely_commit recordable).imp fun h _ awaits => awaits
  · exact unwritten.awaits

theorem timely_reconcile (settings : PassSettings) (key : AppService) :
    (reconcile settings key).Along Timely (fun h _ => awaitsResult h = false) [] := by
  unfold reconcile
  split
  · rfl
  · refine ⟨timely_of_aside rfl trivial, fun fetched => ?_⟩
    rcases fetched with e | _ | app
    · rfl
    · rfl
    · change ((work settings app).bind fun action => .done (Except.ok action)).Along _ _ _
      rw [along_bind]
      refine (timely_work ⟨rfl, rfl⟩ (List.mem_singleton.2 rfl)).imp fun h action awaits => ?_
      exact awaits

/-- Every call of a pass is timely. -/
theorem timely_of_path {next : c.Answer → Operation (Except OperatorError Action)}
    (path : Path (reconcile settings key) h (.call c next)) : Timely h c := by
  simpa using (timely_reconcile settings key).call path

/-- A pass does not end before the result of a clean run was written. -/
theorem written_of_path {r : Except OperatorError Action} (path : Path (reconcile settings key) h (.done r)) :
    awaitsResult h = false := by
  simpa using (timely_reconcile settings key).value path

/-- The result of a clean run is written at once. -/
theorem result_of_completes {q : Operation (Except OperatorError Action)} {u : Turn Call.Answer}
    (path : Path (reconcile settings key) (h ++ t :: u :: k) q) (completes : t.completes = true) :
    ∃ w, u.call = .writeStatus w ∧ w.migration = .succeeded := by
  rw [List.append_cons] at path
  exact ((timely_reconcile settings key).within path).result (awaitsResult_snoc.trans completes)

/-- Once a status was refused a pass writes no other. -/
theorem statusWrites_of_refused {q : Operation (Except OperatorError Action)} {e : OperatorError}
    (path : Path (reconcile settings key) (h ++ ⟨.writeStatus w, .error e⟩ :: k) q) :
    statusWrites k = [] ∧ ∀ w' next, q ≠ .call (.writeStatus w') next := by
  have refused : ∀ k', ⟨.writeStatus w, .error e⟩ ∈ h ++ ⟨.writeStatus w, .error e⟩ :: k' := by simp
  constructor
  · refine statusWrites_eq_nil fun t ht => ?_
    obtain ⟨before, after, rfl⟩ := List.append_of_mem ht
    rw [List.append_cons, ← List.append_assoc, List.append_assoc h, List.singleton_append] at path
    have timely := (timely_reconcile settings key).within path
    obtain ⟨c, answer⟩ := t
    cases c with
    | writeStatus w' => cases timely.last w' rfl _ (refused before)
    | _ => rfl
  · rintro w' next rfl
    cases (timely_of_path path).last w' rfl _ (refused k)

end Pass

end AppServiceOperator
