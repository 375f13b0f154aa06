import AppServiceOperator.Proofs.Reconcile.Course
/-!
# How a pass ends

All histories of a whole pass with what each comes to: `Committed` lists how the outcome of bringing
an AppService about is recorded, `Passed` what a pass can be, and `passed_of_path` says that there is
no other way. A pass waits for a change exactly when nothing is left to do (`awaits_change_iff`).
-/
namespace AppServiceOperator

open Program (History Path Turn path_done path_bind_done path_take)

namespace Program.Turn

/-- The AppService with the status that the turn wrote, and the answer. -/
def statusWrite? : Turn Call.Answer → Option (AppService × Except OperatorError AppService)
  | ⟨.writeStatus w, answer⟩ => some (w, answer)
  | _ => none

/-- What the turn published. -/
def notice? : Turn Call.Answer → Option Notice
  | ⟨.publish _ notice, _⟩ => some notice
  | _ => none

theorem statusWrite?_of_ne {t : Turn Call.Answer} (other : ∀ w, t.call ≠ .writeStatus w) :
    t.statusWrite? = none := by
  obtain ⟨c, answer⟩ := t
  cases c with
  | writeStatus w => exact absurd rfl (other w)
  | _ => rfl

end Program.Turn

namespace Pass

/-- The statuses that were written in a history, with the answers. -/
def statusWrites (h : History Call.Answer) : List (AppService × Except OperatorError AppService) :=
  h.filterMap Turn.statusWrite?

@[simp] theorem statusWrites_append (h h' : History Call.Answer) :
    statusWrites (h ++ h') = statusWrites h ++ statusWrites h' := List.filterMap_append

theorem statusWrites_eq_nil {h : History Call.Answer} (quiet : ∀ t ∈ h, t.statusWrite? = none) :
    statusWrites h = [] := List.filterMap_eq_nil_iff.2 quiet

variable {settings : PassSettings} {key app : AppService} {h : History Call.Answer}
  {result : AppService × Except OperatorError Progress}

/-! ## The end of a pass -/

/-- What a pass asks for once its success is stored. -/
def afterSuccess : Option Nat → PassOutcome
  | some seconds => .requeue seconds
  | none => .done

/-- How the outcome of bringing an AppService about is recorded, with the history of it. -/
inductive Committed : AppService × Except OperatorError Progress → History Call.Answer → PassOutcome → Prop where
  | initialized {base : AppService} : Committed (base, .ok .initialized) [] .done
  | statusNotWritten {base : AppService} : Committed (base, .ok .statusNotWritten) [] .requeueImmediate
  | succeeded {base : AppService} {action : LastAction} {requeue : Option Nat} {stored : AppService}
      (now : Instant) :
      Committed (base, .ok (.converged action requeue))
        [⟨.now, now⟩, ⟨.writeStatus (base.mapStatus (·.recordSuccess action now)), .ok stored⟩]
        (afterSuccess requeue)
  | successRefused {base : AppService} {action : LastAction} {requeue : Option Nat} {e : OperatorError}
      (now : Instant) :
      Committed (base, .ok (.converged action requeue))
        [⟨.now, now⟩, ⟨.writeStatus (base.mapStatus (·.recordSuccess action now)), .error e⟩,
          ⟨.publish (base.mapStatus (·.recordSuccess action now)).reference
            ⟨.warning, Reason.statusUpdateFailed, reconcileAction, some e.message⟩, ()⟩]
        .requeueImmediate
  | failed {base : AppService} {e : OperatorError} {stored : AppService} (now : Instant) :
      Committed (base, .error e)
        [⟨.now, now⟩, ⟨.publish (base.mapStatus (·.recordFailure e.message now)).reference
            ⟨.warning, Reason.processingError, reconcileAction, some e.message⟩, ()⟩,
          ⟨.writeStatus (base.mapStatus (·.recordFailure e.message now)), .ok stored⟩]
        (.requeue base.currentStatus.nextDelay.toNat)
  | failureRefused {base : AppService} {e e' : OperatorError} (now : Instant) :
      Committed (base, .error e)
        [⟨.now, now⟩, ⟨.publish (base.mapStatus (·.recordFailure e.message now)).reference
            ⟨.warning, Reason.processingError, reconcileAction, some e.message⟩, ()⟩,
          ⟨.writeStatus (base.mapStatus (·.recordFailure e.message now)), .error e'⟩,
          ⟨.publish (base.mapStatus (·.recordFailure e.message now)).reference
            ⟨.warning, Reason.statusUpdateFailed, reconcileAction, some e'.message⟩, ()⟩]
        .requeueImmediate

theorem committed_of_path {outcome : PassOutcome} (path : Path (commit result) h (.done outcome)) :
    Committed result h outcome := by
  suffices along : (commit result).Along (fun _ _ => True) (Committed result) [] by
    simpa using along.value path
  obtain ⟨base, _ | progress⟩ := result
  · rename_i e
    refine ⟨trivial, fun now => ⟨trivial, fun _ => ⟨trivial, fun stored => ?_⟩⟩⟩
    cases stored with
    | error e' => exact ⟨trivial, fun _ => .failureRefused now⟩
    | ok stored => exact .failed now
  · cases progress with
    | initialized => exact .initialized
    | statusNotWritten => exact .statusNotWritten
    | converged action requeue =>
      refine ⟨trivial, fun now => ⟨trivial, fun stored => ?_⟩⟩
      cases stored with
      | error e => exact ⟨trivial, fun _ => .successRefused now⟩
      | ok stored => cases requeue <;> exact .succeeded now

/-- All that a pass can be. -/
inductive Passed (settings : PassSettings) (key : AppService) :
    History Call.Answer → Except OperatorError Action → Prop where
  | nameless (noNs : key.ns = none) : Passed settings key [] (.ok .awaitChange)
  | notFetched {ns : String} {e : OperatorError} (inNs : key.ns = some ns) :
      Passed settings key [⟨.fetchApp ns key.name, .error e⟩] (.error e)
  | gone {ns : String} (inNs : key.ns = some ns) :
      Passed settings key [⟨.fetchApp ns key.name, .ok none⟩] (.ok .awaitChange)
  | disabled {ns : String} {app : AppService} (inNs : key.ns = some ns)
      (disabled : app.spec.enabled = false) :
      Passed settings key [⟨.fetchApp ns key.name, .ok (some app)⟩] (.ok .awaitChange)
  | worked {ns : String} {app : AppService} {hd hc : History Call.Answer}
      {result : AppService × Except OperatorError Progress} {outcome : PassOutcome}
      (inNs : key.ns = some ns) (enabled : app.spec.enabled = true)
      (driven : Path (drive settings app) hd (.done result)) (committed : Committed result hc outcome) :
      Passed settings key (⟨.fetchApp ns key.name, .ok (some app)⟩ :: (hd ++ hc)) (.ok outcome.action)

theorem cases_of_work {action : Action} (path : Path (work settings app) h (.done action)) :
    app.spec.enabled = false ∧ h = [] ∧ action = .awaitChange ∨
    app.spec.enabled = true ∧ ∃ hd hc result outcome, h = hd ++ hc ∧ action = outcome.action ∧
      Path (drive settings app) hd (.done result) ∧ Committed result hc outcome := by
  unfold work at path
  split at path
  · rename_i enabled
    obtain ⟨hd, _, result, rfl, driven, path⟩ := path_bind_done.1 path
    obtain ⟨hc, _, outcome, rfl, committed, last⟩ := path_bind_done.1 path
    obtain ⟨rfl, hr⟩ := path_done.1 last
    cases hr
    exact .inr ⟨enabled, hd, hc, result, outcome, by simp, rfl, driven, committed_of_path committed⟩
  · rename_i disabled
    obtain ⟨rfl, hr⟩ := path_done.1 path
    cases hr
    exact .inl ⟨by simpa using disabled, rfl, rfl⟩

/-- A pass can be nothing else. -/
theorem passed_of_path {r : Except OperatorError Action} (path : Path (reconcile settings key) h (.done r)) :
    Passed settings key h r := by
  unfold reconcile at path
  split at path
  · rename_i noNs
    cases path
    exact .nameless noNs
  · rename_i ns inNs
    cases path with
    | step fetched path =>
      rcases fetched with e | _ | app
      · cases path
        exact .notFetched inNs
      · cases path
        exact .gone inNs
      · replace path : Path ((work settings app).bind fun action => .done (Except.ok action)) _ _ := path
        obtain ⟨h₁, _, action, rfl, worked, last⟩ := path_bind_done.1 path
        obtain ⟨rfl, hr⟩ := path_done.1 last
        cases hr
        rw [List.append_nil]
        rcases cases_of_work worked with ⟨disabled, rfl, rfl⟩ | ⟨enabled, hd, hc, _, _, rfl, rfl, driven, committed⟩
        · exact .disabled inNs disabled
        · exact .worked inNs enabled driven committed

/-! ## Rest -/

theorem Converged.onObjects (converged : Converged settings app h) : ∀ t ∈ h, t.call.OnObjects := by
  obtain ⟨ctx, -, objects⟩ := converged.objects
  exact (converge_onObjects app (Desired.resources ctx) []).turns objects

theorem onPods_of_runMigration {r : Except OperatorError MigrationOutcome}
    (ran : Path (runMigration settings app) h (.done r)) : ∀ t ∈ h, t.call.OnPods :=
  (migration_onPods _ _ []).turns ran

/-- An AppService that was accepted with its mark is one that was seen for the first time. -/
theorem Driven.initialized_of_replaced (driven : Driven settings app h result) {sent stored : AppService}
    (accepted : ⟨.replaceApp sent, .ok stored⟩ ∈ h) : result = (stored, .ok .initialized) := by
  have converged_not {hc : History Call.Answer} (converged : Converged settings app hc) :
      ⟨.replaceApp sent, .ok stored⟩ ∉ hc := fun hmem => converged.onObjects _ hmem
  have ran_not {hm : History Call.Answer} {r : Except OperatorError MigrationOutcome}
      (ran : Path (runMigration settings app) hm (.done r)) : ⟨.replaceApp sent, .ok stored⟩ ∉ hm :=
    fun hmem => onPods_of_runMigration ran _ hmem
  cases driven with
  | invalid => cases accepted
  | notMarked => simp at accepted
  | marked =>
    simp only [List.cons_append, List.nil_append, List.mem_cons, List.not_mem_nil, or_false] at accepted
    rcases accepted with accepted | accepted
    · cases accepted
      rfl
    · cases accepted
  | noContext => cases accepted
  | stuck valid initialized context objects =>
    exact ((converge_onObjects _ _ []).turns objects _ accepted).elim
  | settled converged => exact absurd accepted (converged_not converged)
  | waiting converged due ran => simp [converged_not converged, ran_not ran] at accepted
  | unmigrated converged due ran => simp [converged_not converged, ran_not ran] at accepted
  | unstored converged due ran => simp [converged_not converged, ran_not ran] at accepted
  | migrated converged due ran => simp [converged_not converged, ran_not ran] at accepted

/-- The status reports that all is done: the last pass converged, the AppService is promoted, and its
database is migrated. -/
structure Complete (s : Status) : Prop where
  converged : ∃ r, s.reconcile = some r ∧ r.status = .converged
  promoted : ∃ c, s.condition? Status.promoted = some c ∧ c.status = .isTrue
  migrated : s.migration = .succeeded

/-- Why nothing is left to do after a pass with that history. -/
inductive AtRest (ns : String) (key : AppService) (h : History Call.Answer) : Prop where
  | gone (only : h = [⟨.fetchApp ns key.name, .ok none⟩])
  | disabled (app : AppService) (only : h = [⟨.fetchApp ns key.name, .ok (some app)⟩])
      (disabled : app.spec.enabled = false)
  | marked (sent stored : AppService) (accepted : ⟨.replaceApp sent, .ok stored⟩ ∈ h)
      (initialized : sent.spec.initialized = true)
  | promoted (w stored : AppService) (last : (statusWrites h).getLast? = some (w, .ok stored))
      (complete : Complete w.currentStatus)

/-- A success that asks for no further pass is stored with a status that reports it. -/
theorem Driven.complete {base : AppService} {action : LastAction}
    (driven : Driven settings app h (base, .ok (.converged action none)))
    (kept : ∀ sent o, ⟨.writeStatus sent, .ok o⟩ ∈ h → o.status = sent.status) (now : Instant) :
    Complete (base.currentStatus.recordSuccess action now) := by
  have complete {s : Status} (migrated : s.migration = .succeeded) (hne : action ≠ .requeueEvent) :
      Complete (s.recordSuccess action now) := by
    obtain ⟨t, ht⟩ := s.condition?_recordSuccess hne now
    exact ⟨⟨_, rfl, rfl⟩, ⟨_, ht, rfl⟩, migrated⟩
  cases driven with
  | settled converged succeeded => exact complete succeeded nofun
  | migrated converged due ran =>
    refine complete ?_ nofun
    rw [AppService.currentStatus_congr (kept (attempted settings app .succeeded) base (by simp))]
    simp [attempted, Status.recordMigration]

theorem getLast?_statusWrites {ns : String} {hd hc : History Call.Answer} :
    (statusWrites (⟨.fetchApp ns key.name, .ok (some app)⟩ :: (hd ++ hc))).getLast? =
      (statusWrites hc).getLast?.or (statusWrites hd).getLast? := by
  change (statusWrites (hd ++ hc)).getLast? = _
  rw [statusWrites_append, List.getLast?_append]

theorem atRest_of_done {ns : String} {hd hc : History Call.Answer} (committed : Committed result hc .done)
    (driven : Driven settings app hd result)
    (kept : ∀ sent o, ⟨.writeStatus sent, .ok o⟩ ∈ hd → o.status = sent.status) :
    AtRest ns key (⟨.fetchApp ns key.name, .ok (some app)⟩ :: (hd ++ hc)) := by
  generalize houtcome : PassOutcome.done = outcome at committed
  cases committed with
  | @initialized stored =>
    cases driven with
    | marked valid unmarked => exact .marked app.marked stored (by simp) rfl
  | @succeeded base action requeue stored now =>
    cases requeue with
    | some seconds => cases houtcome
    | none =>
      refine .promoted (base.mapStatus (·.recordSuccess action now)) stored ?_ (driven.complete kept now)
      rw [getLast?_statusWrites]
      rfl
  | _ => cases houtcome

theorem done_of_atRest {ns : String} {hd hc : History Call.Answer} {outcome : PassOutcome}
    (enabled : app.spec.enabled = true) (driven : Driven settings app hd result)
    (committed : Committed result hc outcome)
    (rest : AtRest ns key (⟨.fetchApp ns key.name, .ok (some app)⟩ :: (hd ++ hc))) : outcome = .done := by
  cases rest with
  | gone only => cases (List.cons.inj only).1
  | disabled app' only disabled =>
    cases (List.cons.inj only).1
    cases enabled.symm.trans disabled
  | marked sent stored accepted =>
    have inDrive : ⟨.replaceApp sent, .ok stored⟩ ∈ hd := by
      cases committed <;> simpa using accepted
    obtain rfl := driven.initialized_of_replaced inDrive
    cases committed
    rfl
  | promoted w stored last complete =>
    rw [getLast?_statusWrites] at last
    cases committed with
    | initialized => rfl
    | statusNotWritten =>
      cases driven with
      | unstored converged due ran =>
        simp only [statusWrites_append, List.getLast?_append] at last
        cases last
    | @succeeded base action requeue stored now =>
      cases last
      cases driven with
      | settled converged succeeded => rfl
      | waiting converged due ran => exact absurd complete.migrated due
      | migrated converged due ran => rfl
    | successRefused now => cases last
    | failed now =>
      cases last
      obtain ⟨r, hr, hconverged⟩ := complete.converged
      cases hr
      cases hconverged
    | failureRefused now => cases last

theorem Passed.awaits_iff {ns : String} {r : Except OperatorError Action} (passed : Passed settings key h r)
    (inNs : key.ns = some ns)
    (kept : ∀ sent o, ⟨.writeStatus sent, .ok o⟩ ∈ h → o.status = sent.status) :
    r = .ok .awaitChange ↔ AtRest ns key h := by
  cases passed with
  | nameless noNs => cases noNs.symm.trans inNs
  | @notFetched _ e inNs' =>
    constructor
    · nofun
    · rintro (only | ⟨_, only, -⟩ | ⟨_, _, accepted, -⟩ | ⟨_, _, last, -⟩)
      · cases only
      · cases only
      · simp at accepted
      · cases last
  | gone inNs' =>
    cases inNs.symm.trans inNs'
    exact ⟨fun _ => .gone rfl, fun _ => rfl⟩
  | disabled inNs' disabled =>
    cases inNs.symm.trans inNs'
    exact ⟨fun _ => .disabled _ rfl disabled, fun _ => rfl⟩
  | @worked _ app hd hc result outcome inNs' enabled driven committed =>
    cases inNs.symm.trans inNs'
    have kept' : ∀ sent o, ⟨.writeStatus sent, .ok o⟩ ∈ hd → o.status = sent.status :=
      fun sent o ho => kept sent o (List.mem_cons_of_mem _ (List.mem_append_left _ ho))
    constructor
    · intro hawait
      cases outcome with
      | done => exact atRest_of_done committed (driven_of_path driven) kept'
      | requeue seconds => cases hawait
      | requeueImmediate => cases hawait
    · intro rest
      rw [done_of_atRest enabled (driven_of_path driven) committed rest]
      rfl

/-- A pass waits for a change exactly when nothing is left to do: there is no AppService, it is
disabled, it has just been marked, or the last status that was stored reports that all is done. In all
other cases the pass fails or asks to be run again. -/
theorem awaits_change_iff {ns : String} {r : Except OperatorError Action} (inNs : key.ns = some ns)
    (path : Path (reconcile settings key) h (.done r))
    (kept : ∀ sent o, ⟨.writeStatus sent, .ok o⟩ ∈ h → o.status = sent.status) :
    (r = .ok .awaitChange ↔ AtRest ns key h) ∧
    (¬ AtRest ns key h → (∃ e, r = .error e) ∨ ∃ seconds, r = .ok (.requeue seconds)) := by
  have hiff : r = .ok .awaitChange ↔ AtRest ns key h := (passed_of_path path).awaits_iff inNs kept
  refine ⟨hiff, fun unrest => ?_⟩
  rcases r with e | _ | seconds
  · exact .inl ⟨e, rfl⟩
  · exact absurd (hiff.1 rfl) unrest
  · exact .inr ⟨seconds, rfl⟩

/-- A pass in which all goes well comes to rest with a status that reports it. -/
theorem atRest_of_smooth : ∃ h, Smooth.app.ns = some "demo" ∧
    Path (reconcile {} Smooth.app) h (.done (.ok .awaitChange)) ∧ AtRest "demo" Smooth.app h := by
  have path : Path (reconcile {} Smooth.app) ((reconcile {} Smooth.app).take Smooth.answer 35).1
      (.done (.ok .awaitChange)) := path_take Smooth.answer 35 _
  have kept : ∀ sent o, ⟨.writeStatus sent, .ok o⟩ ∈ ((reconcile {} Smooth.app).take Smooth.answer 35).1 →
      o.status = sent.status := by
    intro sent o ho
    cases Program.answer_of_mem_take ho
    rfl
  exact ⟨_, rfl, path, (awaits_change_iff rfl path kept).1.1 rfl⟩

end Pass

end AppServiceOperator
