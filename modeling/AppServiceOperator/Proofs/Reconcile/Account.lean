import AppServiceOperator.Proofs.Reconcile.Attempt
import AppServiceOperator.Proofs.Reconcile.Failure
import AppServiceOperator.Proofs.Reconcile.Result
/-!
# The events of a pass

The events of a pass are an account of what it did. Those about single calls tell of the calls one by one
(`Told`), each event comes directly after what it tells of (`Prompts`), and the migration and the failure
of the pass are told exactly where they took place. `Chronicle` is how such a history grows; that of every
pass is one, and `events_account` says what this comes to.
-/
namespace AppServiceOperator

open Program (History Path Ran Turn path_take)

/-! ## Events -/

namespace Notice

/-- The event tells of the answer of one call. -/
def aboutCall (n : Notice) : Bool :=
  [Reason.resourceCreated, Reason.resourcePatched, Reason.initialized, Reason.statusUpdateFailed].contains
    n.reason

def migrationSucceeded (settings : PassSettings) (pod : String) : Notice :=
  ⟨.normal, Reason.migrationSucceeded, Pass.migrateAction, some (settings.migration.scriptName ++ " ran in " ++ pod)⟩

def migrationFailed (e : OperatorError) : Notice :=
  ⟨.warning, Reason.migrationFailed, Pass.migrateAction, some e.message⟩

def processingError (e : OperatorError) : Notice :=
  ⟨.warning, Reason.processingError, Pass.reconcileAction, some e.message⟩

end Notice

/-- The pod in which a run of the script completed. -/
def Migration.completedIn? : Except OperatorError MigrationOutcome → Option String
  | .ok (.completed pod _) => some pod
  | .ok .notReady | .error _ => none

namespace Program.Turn

/-- The event that is due for the answer of a call: an object was created or patched, the AppService was
marked, or a status was refused. -/
def tells? : Turn Call.Answer → Option Notice
  | ⟨.create r, .ok ()⟩ =>
    some ⟨.normal, Reason.resourceCreated, Pass.convergeAction, some (r.kind.name ++ " " ++ r.name)⟩
  | ⟨.patch r _, .ok ()⟩ =>
    some ⟨.normal, Reason.resourcePatched, Pass.convergeAction, some (r.kind.name ++ " " ++ r.name)⟩
  | ⟨.replaceApp _, .ok _⟩ => some ⟨.normal, Reason.initialized, Pass.reconcileAction, none⟩
  | ⟨.writeStatus _, .error e⟩ =>
    some ⟨.warning, Reason.statusUpdateFailed, Pass.reconcileAction, some e.message⟩
  | _ => none

variable {t : Turn Call.Answer} {n : Notice}

@[simp] theorem notice?_publish (about : ObjectReference) :
    notice? (⟨.publish about n, ()⟩ : Turn Call.Answer) = some n := rfl

@[simp] theorem tells?_publish (about : ObjectReference) :
    tells? (⟨.publish about n, ()⟩ : Turn Call.Answer) = none := rfl

theorem aboutCall_of_tells (h : t.tells? = some n) : n.aboutCall = true := by
  unfold tells? at h
  split at h <;> cases h <;> rfl

theorem notice?_of_tells (h : t.tells? = some n) : t.notice? = none := by
  unfold tells? at h
  split at h <;> first | rfl | cases h

/-- The event about a refused status is due for nothing else. -/
theorem refused_of_tells (h : t.tells? = some n) (hn : n.reason = Reason.statusUpdateFailed) :
    t.refused = true := by
  unfold tells? at h
  split at h <;> cases h <;> first | rfl | simp +decide at hn

theorem silent_of_onPods (h : t.call.OnPods) : t.notice? = none ∧ t.tells? = none := by
  obtain ⟨c, answer⟩ := t
  cases c <;> first | exact ⟨rfl, rfl⟩ | exact h.elim

/-- The pod in which the script ran cleanly. -/
def completedIn? : Turn Call.Answer → Option String
  | ⟨.exec _ pod _ _, some (.ok output)⟩ => Migration.completedIn? (Migration.outcome pod output)
  | _ => none

theorem completedIn?_eq_none (h : ¬ t.call.OnPods) : t.completedIn? = none := by
  obtain ⟨c, answer⟩ := t
  cases c <;> first | rfl | exact absurd trivial h

end Program.Turn

namespace Pass

variable {settings : PassSettings} {key app base : AppService} {h k k' : History Call.Answer}
  {t : Turn Call.Answer} {n : Notice} {r : ManagedResource} {e : OperatorError} {rs rs' : List String}
  {result : AppService × Except OperatorError Progress} {outcome : PassOutcome}

/-- The events of a history. -/
def notices (h : History Call.Answer) : List Notice := h.filterMap Turn.notice?

@[simp] theorem notices_append (h k : History Call.Answer) : notices (h ++ k) = notices h ++ notices k :=
  List.filterMap_append

theorem exists_of_mem_notices (hn : n ∈ notices h) :
    ∃ before about after, h = before ++ ⟨.publish about n, ()⟩ :: after := by
  obtain ⟨⟨c, answer⟩, ht, hpublished⟩ := List.mem_filterMap.1 hn
  cases c with
  | publish about n' =>
    cases hpublished
    obtain ⟨before, after, rfl⟩ := List.append_of_mem ht
    exact ⟨before, about, after, rfl⟩
  | _ => cases hpublished

/-- The events about single calls are those that are due for the answers, in their order. -/
def Told (h : History Call.Answer) : Prop := (notices h).filter Notice.aboutCall = h.filterMap Turn.tells?

/-- The reasons of the events that are not about single calls. -/
def otherReasons (h : History Call.Answer) : List String :=
  ((notices h).filter fun n => !n.aboutCall).map Notice.reason

/-! ## Chronicles -/

/-- What happened is directly followed by the event. -/
inductive Prompts (settings : PassSettings) (app : AppService) : History Call.Answer → Notice → Prop where
  | told {before : History Call.Answer} {t : Turn Call.Answer} {n : Notice} (tells : t.tells? = some n) :
      Prompts settings app (before ++ [t]) n
  | migrated {before during : History Call.Answer} {pod stdout : String} {stored : AppService}
      (ran : Path (runMigration settings app) during (.done (.ok (.completed pod stdout)))) :
      Prompts settings app
        (before ++ during ++ [⟨.writeStatus (attempted settings app .succeeded), .ok stored⟩])
        (.migrationSucceeded settings pod)
  | unmigrated {before during : History Call.Answer} {e : OperatorError}
      (ran : Path (runMigration settings app) during (.done (.error e))) :
      Prompts settings app (before ++ during) (.migrationFailed e)
  | failed {before : History Call.Answer} {base : AppService} {e : OperatorError} (now : Instant)
      (driven : Path (drive settings app) before (.done (base, .error e))) :
      Prompts settings app (before ++ [⟨.now, now⟩]) (.processingError e)

/-- What comes after a history, turn by turn: a turn for which an event is due is followed by it at once,
and another event comes after what prompts it. The reasons of the other events are counted up. -/
inductive Chronicle (settings : PassSettings) (app : AppService) :
    History Call.Answer → History Call.Answer → List String → Prop where
  | nil {h : History Call.Answer} : Chronicle settings app h [] []
  | silent {h k : History Call.Answer} {rs : List String} {t : Turn Call.Answer}
      (quiet : t.notice? = none ∧ t.tells? = none) (rest : Chronicle settings app (h ++ [t]) k rs) :
      Chronicle settings app h (t :: k) rs
  | told {h k : History Call.Answer} {rs : List String} {t : Turn Call.Answer} {n : Notice}
      {about : ObjectReference} (tells : t.tells? = some n)
      (rest : Chronicle settings app (h ++ [t, ⟨.publish about n, ()⟩]) k rs) :
      Chronicle settings app h (t :: ⟨.publish about n, ()⟩ :: k) rs
  | other {h k : History Call.Answer} {rs : List String} {n : Notice} {about : ObjectReference}
      (prompts : Prompts settings app h n) (other : n.aboutCall = false)
      (rest : Chronicle settings app (h ++ [⟨.publish about n, ()⟩]) k rs) :
      Chronicle settings app h (⟨.publish about n, ()⟩ :: k) (n.reason :: rs)

namespace Chronicle

theorem append (first : Chronicle settings app h k rs) (second : Chronicle settings app (h ++ k) k' rs') :
    Chronicle settings app h (k ++ k') (rs ++ rs') := by
  induction first with
  | nil => simpa using second
  | silent quiet rest ih => exact .silent quiet (ih (by simpa using second))
  | told tells rest ih => exact .told tells (ih (by simpa using second))
  | other prompts other rest ih => exact .other prompts other (ih (by simpa using second))

theorem of_silent (quiet : ∀ t ∈ k, t.notice? = none ∧ t.tells? = none) : Chronicle settings app h k [] := by
  induction k generalizing h with
  | nil => exact .nil
  | cons t k ih =>
    obtain ⟨first, rest⟩ := List.forall_mem_cons.1 quiet
    exact .silent first (ih rest)

theorem told_all (chronicle : Chronicle settings app h k rs) : Told k := by
  unfold Told notices
  induction chronicle with
  | nil => rfl
  | silent quiet rest ih => simpa [List.filterMap_cons, quiet] using ih
  | @told h k rs t n about tells rest ih =>
    have quiet : t.notice? = none := Turn.notice?_of_tells tells
    have about_call : n.aboutCall = true := Turn.aboutCall_of_tells tells
    simpa [List.filterMap_cons, quiet, tells, about_call] using ih
  | other prompts other rest ih => simpa [List.filterMap_cons, other] using ih

theorem otherReasons_eq (chronicle : Chronicle settings app h k rs) : otherReasons k = rs := by
  unfold otherReasons notices
  induction chronicle with
  | nil => rfl
  | silent quiet rest ih => simpa [List.filterMap_cons, quiet] using ih
  | @told h k rs t n about tells rest ih =>
    have quiet : t.notice? = none := Turn.notice?_of_tells tells
    have about_call : n.aboutCall = true := Turn.aboutCall_of_tells tells
    simpa [List.filterMap_cons, quiet, about_call] using ih
  | other prompts other rest ih => simpa [List.filterMap_cons, other] using ih

/-- Every event comes directly after what it tells of: a turn that an event is due for is none itself, so
an event is either the one that is due or one that is prompted. -/
theorem prompts (chronicle : Chronicle settings app h k rs) {before after : History Call.Answer}
    {about : ObjectReference} (heq : k = before ++ ⟨.publish about n, ()⟩ :: after) :
    Prompts settings app (h ++ before) n := by
  induction chronicle generalizing before with
  | nil => cases before <;> cases heq
  | silent quiet rest ih =>
    cases before with
    | nil =>
      cases (List.cons.inj heq).1
      cases quiet.1
    | cons u before =>
      obtain ⟨rfl, hk⟩ := List.cons.inj heq
      simpa using ih hk
  | told tells rest ih =>
    rcases before with _ | ⟨u, _ | ⟨v, before⟩⟩
    · cases (List.cons.inj heq).1
      cases Turn.notice?_of_tells tells
    · obtain ⟨rfl, hk⟩ := List.cons.inj heq
      cases (List.cons.inj hk).1
      exact .told tells
    · obtain ⟨rfl, later⟩ := List.cons.inj heq
      obtain ⟨rfl, hk⟩ := List.cons.inj later
      simpa using ih hk
  | other prompts other rest ih =>
    cases before with
    | nil =>
      cases (List.cons.inj heq).1
      simpa using prompts
    | cons u before =>
      obtain ⟨rfl, hk⟩ := List.cons.inj heq
      simpa using ih hk

end Chronicle

/-! ## The chronicle of a pass -/

theorem chronicle_of_done {c : Convergence} (attempt : r.Attempt k (.ok c)) :
    Chronicle settings app h (k ++ announcement base r c) [] := by
  cases attempt with
  | created => exact .told rfl .nil
  | unchanged => exact .silent ⟨rfl, rfl⟩ (.silent ⟨rfl, rfl⟩ .nil)
  | patched => exact .silent ⟨rfl, rfl⟩ (.silent ⟨rfl, rfl⟩ (.told rfl .nil))

theorem chronicle_of_undone (attempt : r.Attempt k (.error e)) : Chronicle settings app h k [] := by
  refine .of_silent ?_
  cases attempt <;> simp [Turn.notice?, Turn.tells?]

theorem Sequence.chronicle {resources : List ManagedResource} {a : Except OperatorError Unit}
    (run : Sequence base resources k a) : Chronicle settings app h k [] := by
  induction run generalizing h with
  | nil => exact .nil
  | fails one => exact chronicle_of_undone (ManagedResource.attempt_of_path one)
  | cons one rest ih =>
    rw [← List.append_assoc]
    exact (chronicle_of_done (ManagedResource.attempt_of_path one)).append ih

theorem Converged.chronicle (converged : Converged settings app k) : Chronicle settings app h k [] := by
  obtain ⟨ctx, -, objects⟩ := converged.objects
  exact (sequence_of_path objects).chronicle

theorem chronicle_of_runMigration {a : Except OperatorError MigrationOutcome}
    (ran : Path (runMigration settings app) k (.done a)) : Chronicle settings app h k [] :=
  .of_silent fun t ht => Turn.silent_of_onPods (onPods_of_runMigration ran t ht)

theorem Driven.chronicle (driven : Driven settings app k result) :
    ∃ rs ∈ [[], [Reason.migrationSucceeded], [Reason.migrationFailed]], Chronicle settings app [] k rs := by
  cases driven with
  | invalid => exact ⟨[], by simp, .nil⟩
  | noContext => exact ⟨[], by simp, .nil⟩
  | notMarked => exact ⟨[], by simp, .silent ⟨rfl, rfl⟩ .nil⟩
  | marked => exact ⟨[], by simp, .told rfl .nil⟩
  | stuck valid initialized context objects => exact ⟨[], by simp, (sequence_of_path objects).chronicle⟩
  | settled converged => exact ⟨[], by simp, converged.chronicle⟩
  | waiting converged due ran =>
    exact ⟨[], by simp, converged.chronicle.append (chronicle_of_runMigration ran)⟩
  | @unmigrated ho hm e converged due ran =>
    have prompts : Prompts settings app (ho ++ hm) (.migrationFailed e) := .unmigrated ran
    exact ⟨[Reason.migrationFailed], by simp,
      (converged.chronicle.append (chronicle_of_runMigration ran)).append (.other prompts rfl .nil)⟩
  | unstored converged due ran =>
    refine ⟨[], by simp, ?_⟩
    rw [List.append_assoc]
    exact (converged.chronicle.append (chronicle_of_runMigration ran)).append (.told rfl .nil)
  | @migrated ho hm pod stdout stored converged due ran =>
    have prompts : Prompts settings app
        (ho ++ hm ++ [⟨.writeStatus (attempted settings app .succeeded), .ok stored⟩])
        (.migrationSucceeded settings pod) := .migrated ran
    refine ⟨[Reason.migrationSucceeded], by simp, ?_⟩
    rw [List.append_assoc]
    exact (converged.chronicle.append (chronicle_of_runMigration ran)).append
      (.silent ⟨rfl, rfl⟩ (.other prompts rfl .nil))

theorem Committed.chronicle (driven : Path (drive settings app) h (.done result))
    (committed : Committed result k outcome) :
    ∃ rs ∈ [[], [Reason.processingError]], Chronicle settings app h k rs := by
  cases committed with
  | initialized => exact ⟨[], by simp, .nil⟩
  | statusNotWritten => exact ⟨[], by simp, .nil⟩
  | succeeded now => exact ⟨[], by simp, .silent ⟨rfl, rfl⟩ (.silent ⟨rfl, rfl⟩ .nil)⟩
  | successRefused now => exact ⟨[], by simp, .silent ⟨rfl, rfl⟩ (.told rfl .nil)⟩
  | failed now =>
    exact ⟨_, by simp, .silent ⟨rfl, rfl⟩ (.other (.failed now driven) rfl (.silent ⟨rfl, rfl⟩ .nil))⟩
  | failureRefused now =>
    exact ⟨_, by simp, .silent ⟨rfl, rfl⟩ (.other (.failed now driven) rfl (.told rfl .nil))⟩

/-! ## Clean runs -/

/-- The pods in which the script ran cleanly. -/
def completions (h : History Call.Answer) : List String := h.filterMap Turn.completedIn?

@[simp] theorem completions_append (h k : History Call.Answer) :
    completions (h ++ k) = completions h ++ completions k := List.filterMap_append

theorem completions_singleton (t : Turn Call.Answer) : completions [t] = t.completedIn?.toList := by
  cases clean : t.completedIn? <;> simp [completions, clean]

theorem completions_eq_nil (idle : ∀ t ∈ h, ¬ t.call.OnPods) : completions h = [] :=
  List.filterMap_eq_nil_iff.2 fun t ht => Turn.completedIn?_eq_none (idle t ht)

/-- The script runs cleanly in the pod that is reported, and nowhere else. -/
theorem completions_of_run {a : Except OperatorError MigrationOutcome}
    (ran : Path (runMigration settings app) h (.done a)) : completions h = (Migration.completedIn? a).toList := by
  cases Migration.attempt_of_run ran with
  | ran first => exact completions_singleton _
  | _ => rfl

theorem Converged.completions (converged : Converged settings app h) : completions h = [] :=
  completions_eq_nil fun t ht => (converged.onObjects t ht).not_onPods

/-- After a clean run it is told that the migration succeeded, unless that could not be stored. -/
theorem Driven.told_of_completion {pod : String} (driven : Driven settings app h result)
    (clean : pod ∈ completions h) :
    .migrationSucceeded settings pod ∈ notices h ∨
      result.2 = .ok .statusNotWritten ∧ ∀ w stored, ⟨.writeStatus w, .ok stored⟩ ∉ h := by
  cases driven with
  | invalid => cases clean
  | noContext => cases clean
  | notMarked => cases clean
  | marked => cases clean
  | stuck valid initialized context objects =>
    have idle := (converge_onObjects app _ []).turns objects
    rw [completions_eq_nil fun t ht => (idle t ht).not_onPods] at clean
    cases clean
  | settled converged =>
    rw [converged.completions] at clean
    cases clean
  | waiting converged due ran =>
    rw [completions_append, converged.completions, completions_of_run ran] at clean
    cases clean
  | unmigrated converged due ran =>
    rw [completions_append, completions_append, converged.completions, completions_of_run ran] at clean
    cases clean
  | @unstored ho hm pod' stdout e converged due ran =>
    refine .inr ⟨rfl, fun w stored hw => ?_⟩
    simp only [List.mem_append, List.mem_singleton] at hw
    rcases hw with ((hw | hw) | hw) | hw
    · exact converged.onObjects _ hw
    · exact onPods_of_runMigration ran _ hw
    · cases hw
    · cases hw
  | @migrated ho hm pod' stdout stored converged due ran =>
    rw [completions_append, completions_append, completions_append, converged.completions,
      completions_of_run ran] at clean
    obtain rfl : pod = pod' := by simpa [completions, Turn.completedIn?, Migration.completedIn?] using clean
    exact .inl (by simp [notices, Notice.migrationSucceeded])

/-- A run of the script that failed is told of. -/
theorem Driven.told_of_fault (driven : Driven settings app h result) (ht : t ∈ h)
    (onPods : t.call.OnPods) (fault : t.fault? = some e) : .migrationFailed e ∈ notices h := by
  obtain ⟨base, progress⟩ := result
  obtain rfl : progress = .error e := driven.error_of_fault (List.mem_filterMap.2 ⟨t, ht, fault⟩)
  cases driven with
  | invalid => cases ht
  | noContext => cases ht
  | notMarked =>
    obtain rfl := List.mem_singleton.1 ht
    exact onPods.elim
  | stuck valid initialized context objects =>
    exact absurd onPods ((converge_onObjects app _ []).turns objects t ht).not_onPods
  | unmigrated converged due ran => simp [notices, Notice.migrationFailed]

/-! ## The account of a pass -/

/-- The events of a pass over an AppService are an account of what it did after the read. -/
structure Account (settings : PassSettings) (app : AppService) (h : History Call.Answer) : Prop where
  /-- Of the events about calls there is one for each answer that one is due for, in their order. -/
  told : Told h
  /-- Every event comes directly after what it tells of. -/
  prompts : ∀ before about n after, h = before ++ ⟨.publish about n, ()⟩ :: after →
    Prompts settings app before n
  /-- The migration is said to have succeeded where the script ran cleanly and that was stored. -/
  migrated : ∀ n, n ∈ notices h ∧ n.reason = Reason.migrationSucceeded ↔
    ∃ before during after pod stdout stored,
      h = before ++ during ++ ⟨.writeStatus (attempted settings app .succeeded), .ok stored⟩ :: after ∧
      Path (runMigration settings app) during (.done (.ok (.completed pod stdout))) ∧
      n = .migrationSucceeded settings pod
  /-- It is said to have failed where running the script failed. -/
  unmigrated : ∀ n, n ∈ notices h ∧ n.reason = Reason.migrationFailed ↔
    ∃ e, Ran h (runMigration settings app) (.error e) ∧ n = .migrationFailed e
  /-- The pass is said to have failed where bringing about the AppService failed. -/
  failed : ∀ n, n ∈ notices h ∧ n.reason = Reason.processingError ↔
    ∃ e, DriveFailed settings app e h ∧ n = .processingError e
  /-- None of these three is said twice. -/
  once : (otherReasons h).Nodup
  /-- Nothing happens after it was said that a status was refused. -/
  last : ∀ before about n after, h = before ++ ⟨.publish about n, ()⟩ :: after →
    n.reason = Reason.statusUpdateFailed → after = []

/-- In the record of a pass at most one more thing happens after a status was refused. -/
theorem Committed.refused_late (committed : Committed result k outcome) :
    ∃ front tail, k = front ++ tail ∧ tail.length ≤ 2 ∧ ∀ t ∈ front, ¬ t.refused = true := by
  cases committed with
  | initialized => exact ⟨[], [], rfl, Nat.zero_le 2, by simp⟩
  | statusNotWritten => exact ⟨[], [], rfl, Nat.zero_le 2, by simp⟩
  | succeeded now => exact ⟨[], _, rfl, Nat.le_refl 2, by simp⟩
  | successRefused now => exact ⟨[_], [_, _], rfl, Nat.le_refl 2, by simp [Turn.refused]⟩
  | failed now => exact ⟨[_], [_, _], rfl, Nat.le_refl 2, by simp [Turn.refused]⟩
  | failureRefused now => exact ⟨[_, _], [_, _], rfl, Nat.le_refl 2, by simp [Turn.refused]⟩

section Worked

variable {hd hc : History Call.Answer} (driven : Path (drive settings app) hd (.done result))
  (committed : Committed result hc outcome)

include driven committed

/-- At most one more thing happens after a status was refused. -/
theorem refused_late : ∃ front tail, hd ++ hc = front ++ tail ∧ tail.length ≤ 2 ∧
    ∀ t ∈ front, ¬ t.refused = true := by
  have recordable : Recordable ([⟨.fetchApp "" "", .ok (some app)⟩] ++ hd) result :=
    (timely_drive ⟨rfl, rfl⟩ (List.mem_singleton_self _)).value driven
  by_cases unstored : result.2 = .ok .statusNotWritten
  · obtain ⟨base, progress⟩ := result
    obtain rfl : progress = .ok .statusNotWritten := unstored
    -- then the write of the migration was refused, and nothing is recorded any more
    cases committed
    cases driven_of_path driven with
    | @unstored ho hm pod stdout e converged due ran =>
      obtain ⟨ctx, -, objects⟩ := converged.objects
      have writes : statusWrites (ho ++ hm) = [] := statusWrites_of_silent <| List.forall_mem_append.2
        ⟨(sequence_of_path objects).silent, fun t ht => (onPods_of_runMigration ran t ht).silent⟩
      rw [List.append_nil, List.append_assoc]
      exact ⟨ho ++ hm, _, rfl, Nat.le_refl 2, fun t ht => by simp [refused_of_statusWrites writes t ht]⟩
  · obtain ⟨front, tail, rfl, short, accepted⟩ := committed.refused_late
    refine ⟨hd ++ front, tail, (List.append_assoc ..).symm, short, List.forall_mem_append.2 ⟨?_, accepted⟩⟩
    intro t ht
    simp [recordable.accepted unstored t (List.mem_append_right _ ht)]

theorem last_of_refused {before after : History Call.Answer} {u : Turn Call.Answer}
    (refused : t.refused = true) (heq : hd ++ hc = before ++ t :: u :: after) : after = [] := by
  obtain ⟨front, tail, hfront, short, accepted⟩ := refused_late driven committed
  obtain ⟨before', -, rfl⟩ := exists_of_append_right (hfront.symm.trans heq) accepted refused
  rw [← List.length_eq_zero_iff]
  simp only [List.length_append, List.length_cons] at short
  omega

theorem chronicle_of_worked : ∃ rs, rs.Nodup ∧ Chronicle settings app [] (hd ++ hc) rs := by
  obtain ⟨rs, hrs, first⟩ := (driven_of_path driven).chronicle
  obtain ⟨rs', hrs', second⟩ := committed.chronicle driven
  refine ⟨rs ++ rs', ?_, first.append second⟩
  -- what is told of the migration is never what is told of the pass
  clear first second
  revert rs rs'
  decide

theorem prompts_of_worked {before after : History Call.Answer} {about : ObjectReference}
    (heq : hd ++ hc = before ++ ⟨.publish about n, ()⟩ :: after) : Prompts settings app before n := by
  obtain ⟨rs, -, chronicle⟩ := chronicle_of_worked driven committed
  exact chronicle.prompts heq

theorem told_migrated_iff : n ∈ notices (hd ++ hc) ∧ n.reason = Reason.migrationSucceeded ↔
    ∃ before during after pod stdout stored,
      hd ++ hc = before ++ during ++ ⟨.writeStatus (attempted settings app .succeeded), .ok stored⟩ :: after ∧
      Path (runMigration settings app) during (.done (.ok (.completed pod stdout))) ∧
      n = .migrationSucceeded settings pod := by
  constructor
  · rintro ⟨hn, reason⟩
    obtain ⟨before, about, after, heq⟩ := exists_of_mem_notices hn
    cases prompts_of_worked driven committed heq with
    | told tells => exact absurd (Turn.aboutCall_of_tells tells) (by simp +decide [Notice.aboutCall, reason])
    | migrated ran => exact ⟨_, _, _, _, _, _, by rw [heq, List.append_assoc]; rfl, ran, rfl⟩
    | unmigrated ran => simp +decide [Notice.migrationFailed] at reason
    | failed now failed => simp +decide [Notice.processingError] at reason
  · rintro ⟨before, during, after, pod, stdout, stored, heq, ran, rfl⟩
    have clean : pod ∈ completions hd := by
      have all : pod ∈ completions (hd ++ hc) := by
        rw [heq, completions_append, completions_append, completions_of_run ran]
        simp [Migration.completedIn?]
      rwa [completions_append, completions_eq_nil fun t ht => (committed.records t ht).idle.2,
        List.append_nil] at all
    refine ⟨?_, rfl⟩
    rcases (driven_of_path driven).told_of_completion clean with told | ⟨unstored, unaccepted⟩
    · simp [told]
    · -- no status was accepted then, but one is said to have been
      obtain ⟨base, progress⟩ := result
      obtain rfl : progress = .ok .statusNotWritten := unstored
      cases committed
      refine absurd ?_ (unaccepted (attempted settings app .succeeded) stored)
      rw [← List.append_nil hd, heq]
      simp

theorem told_unmigrated_iff : n ∈ notices (hd ++ hc) ∧ n.reason = Reason.migrationFailed ↔
    ∃ e, Ran (hd ++ hc) (runMigration settings app) (.error e) ∧ n = .migrationFailed e := by
  constructor
  · rintro ⟨hn, reason⟩
    obtain ⟨before, about, after, heq⟩ := exists_of_mem_notices hn
    cases prompts_of_worked driven committed heq with
    | told tells => exact absurd (Turn.aboutCall_of_tells tells) (by simp +decide [Notice.aboutCall, reason])
    | migrated ran => simp +decide [Notice.migrationSucceeded] at reason
    | unmigrated ran => exact ⟨_, ⟨_, _, _, heq, ran⟩, rfl⟩
    | failed now failed => simp +decide [Notice.processingError] at reason
  · rintro ⟨e, ⟨before, during, after, heq, ran⟩, rfl⟩
    obtain ⟨front, t, rfl, -, fault⟩ := shows_of_runMigration ran
    have onPods : t.call.OnPods := onPods_of_runMigration ran t (by simp)
    have ht : t ∈ hd := by
      rcases List.mem_append.1 (show t ∈ hd ++ hc by simp [heq]) with ht | ht
      · exact ht
      · exact absurd onPods (committed.records t ht).idle.2
    have told : .migrationFailed e ∈ notices hd := (driven_of_path driven).told_of_fault ht onPods fault
    exact ⟨by simp [told], rfl⟩

theorem told_failed_iff : n ∈ notices (hd ++ hc) ∧ n.reason = Reason.processingError ↔
    ∃ e, DriveFailed settings app e (hd ++ hc) ∧ n = .processingError e := by
  constructor
  · rintro ⟨hn, reason⟩
    obtain ⟨before, about, after, heq⟩ := exists_of_mem_notices hn
    cases prompts_of_worked driven committed heq with
    | told tells => exact absurd (Turn.aboutCall_of_tells tells) (by simp +decide [Notice.aboutCall, reason])
    | migrated ran => simp +decide [Notice.migrationSucceeded] at reason
    | unmigrated ran => simp +decide [Notice.migrationFailed] at reason
    | failed now failed => exact ⟨_, ⟨_, _, _, by rw [heq, List.append_assoc], failed⟩, rfl⟩
  · rintro ⟨e, ⟨hd', hc', base, heq, failed⟩, rfl⟩
    obtain ⟨rfl, rfl, rfl⟩ := driven.unique failed heq
    refine ⟨?_, rfl⟩
    cases committed <;> simp [notices, Notice.processingError]

theorem account_of_worked : Account settings app (hd ++ hc) := by
  obtain ⟨rs, distinct, chronicle⟩ := chronicle_of_worked driven committed
  refine ⟨chronicle.told_all, fun before about n after => chronicle.prompts,
    fun n => told_migrated_iff driven committed, fun n => told_unmigrated_iff driven committed,
    fun n => told_failed_iff driven committed, by rwa [chronicle.otherReasons_eq], ?last⟩
  case last =>
    intro before about n after heq reason
    cases prompts_of_worked driven committed heq with
    | told tells =>
      rw [List.append_assoc] at heq
      exact last_of_refused driven committed (Turn.refused_of_tells tells reason) heq
    | migrated ran => simp +decide [Notice.migrationSucceeded] at reason
    | unmigrated ran => simp +decide [Notice.migrationFailed] at reason
    | failed now failed => simp +decide [Notice.processingError] at reason

end Worked

/-- The events of a pass are an account of what it did, whatever it was answered; a pass that does not
come to work on an AppService does nothing but read, and tells nothing. -/
theorem events_account {r : Except OperatorError Action} (path : Path (reconcile settings key) h (.done r)) :
    (∀ ns app rest, h = ⟨.fetchApp ns key.name, .ok (some app)⟩ :: rest → app.spec.enabled = true →
      Account settings app rest) ∧
    ((¬ ∃ ns app rest, h = ⟨.fetchApp ns key.name, .ok (some app)⟩ :: rest ∧ app.spec.enabled = true) →
      ∀ t ∈ h, ∃ ns name, t.call = .fetchApp ns name) := by
  constructor
  · rintro ns app rest rfl enabled
    obtain ⟨hd, hc, result, outcome, rfl, -, driven, committed⟩ := worked_of_path enabled path
    exact account_of_worked driven committed
  · intro idle
    cases passed_of_path path with
    | nameless => simp
    | notFetched => simp
    | gone => simp
    | disabled => simp
    | worked inNs enabled => exact absurd ⟨_, _, _, rfl, enabled⟩ idle

/-- A pass in which all goes well tells of it. -/
theorem account_of_smooth : ∃ rest,
    Path (reconcile {} Smooth.app) (⟨.fetchApp "demo" "gramola", .ok (some Smooth.app)⟩ :: rest)
      (.done (.ok .awaitChange)) ∧ Account {} Smooth.app rest := by
  have path : Path (reconcile {} Smooth.app) (⟨.fetchApp "demo" "gramola", .ok (some Smooth.app)⟩ ::
      ((reconcile {} Smooth.app).take Smooth.answer 35).1.tail) (.done (.ok .awaitChange)) :=
    path_take Smooth.answer 35 _
  exact ⟨_, path, (events_account path).1 "demo" Smooth.app _ rfl rfl⟩

end Pass

end AppServiceOperator
