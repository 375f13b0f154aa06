import AppServiceOperator.Proofs.Reconcile.Order
/-!
# What becomes of a failure

A pass fails itself only where its read does. Every later failure has one origin: the spec, the context,
or the answer of one call (`Turn.fault?`), which is the last call about an object or a pod. All of
them are recorded in the same way: one event, and one status that carries the message and the delay
that the pass asks for (`Recorded`). `failure_recorded` says so of every pass.
-/
namespace AppServiceOperator

open Program (History Path Turn path_take)

/-! ## Faults -/

namespace Call

/-- The calls that tell of a failed pass. -/
def TellsFailure : Call → Prop
  | .writeStatus _ => True
  | .publish _ notice => notice.reason = Reason.processingError
  | _ => False

theorem OnResources.silent {c : Call} (h : c.OnResources) : ¬ c.TellsFailure := by
  cases c <;> first | exact h.elim | exact id

theorem OnPods.silent {c : Call} (h : c.OnPods) : ¬ c.TellsFailure := by
  cases c <;> first | exact h.elim | exact id

end Call

namespace Program.Turn

/-- The failure that the answer of a call stands for. That an object is already there is none. -/
def fault? : Turn Call.Answer → Option OperatorError
  | ⟨.create _, .error (.alreadyExists ..)⟩ => none
  | ⟨.create _, .error e⟩ | ⟨.patch .., .error e⟩ | ⟨.fetch _, .error e⟩ => some e
  | ⟨.fetch r, .ok none⟩ => some r.vanished
  | ⟨.replaceApp _, .error e⟩ | ⟨.listPods .., .error e⟩ | ⟨.exec .., some (.error e)⟩ => some e
  | ⟨.exec _ pod _ seconds, none⟩ => some (.execTimeout pod seconds)
  | ⟨.exec _ pod _ _, some (.ok output)⟩ =>
    match Migration.outcome pod output with
    | .error e => some e
    | .ok _ => none
  | _ => none

theorem fault?_create {r : ManagedResource} {e : OperatorError}
    (h : ∀ kind name, e ≠ .alreadyExists kind name) : fault? ⟨.create r, .error e⟩ = some e := by
  cases e <;> first | rfl | exact absurd rfl (h _ _)

theorem fault?_of_records {t : Turn Call.Answer} (h : t.call.Records) : t.fault? = none := by
  obtain ⟨c, answer⟩ := t
  cases c <;> first | rfl | exact h.elim

end Program.Turn

namespace Pass

variable {settings : PassSettings} {key app base : AppService} {h k : History Call.Answer} {e : OperatorError}

/-- The failures that were answered in a history. -/
def faults (h : History Call.Answer) : List OperatorError := h.filterMap Turn.fault?

@[simp] theorem faults_append (h k : History Call.Answer) : faults (h ++ k) = faults h ++ faults k :=
  List.filterMap_append

theorem faults_of_records (records : ∀ t ∈ h, t.call.Records) : faults h = [] :=
  List.filterMap_eq_nil_iff.2 fun t ht => Turn.fault?_of_records (records t ht)

/-- Where the result is a failure it is that of the last call, and otherwise no call failed. -/
def Shows {α : Type} (h : History Call.Answer) : Except OperatorError α → Prop
  | .ok _ => faults h = []
  | .error e => ∃ before t, h = before ++ [t] ∧ faults before = [] ∧ t.fault? = some e

theorem Shows.append {α : Type} {a : Except OperatorError α} (last : Shows k a) (quiet : faults h = []) :
    Shows (h ++ k) a := by
  cases a with
  | ok a =>
    change faults (h ++ k) = []
    rw [faults_append, quiet]
    exact last
  | error e =>
    obtain ⟨before, t, rfl, quiet', fault⟩ := last
    refine ⟨h ++ before, t, by simp, ?_, fault⟩
    rw [faults_append, quiet, quiet']
    rfl

theorem Shows.error {α : Type} {a : Except OperatorError α} (shown : Shows h a) (he : e ∈ faults h) :
    a = .error e := by
  cases a with
  | ok a =>
    rw [show faults h = [] from shown] at he
    cases he
  | error e' =>
    obtain ⟨before, t, rfl, quiet, fault⟩ := shown
    rw [faults_append, quiet] at he
    have only : faults [t] = [e'] := by simp [faults, fault]
    rw [only] at he
    rw [List.mem_singleton.1 he]

theorem shows_of_ensure {r : ManagedResource} {a : Except OperatorError Convergence}
    (path : Path r.ensure h (.done a)) : Shows h a := by
  cases ManagedResource.attempt_of_path path with
  | created => rfl
  | uncreated other => exact ⟨[], _, rfl, rfl, Turn.fault?_create other⟩
  | unfetched => exact ⟨[_], _, rfl, rfl, rfl⟩
  | vanished => exact ⟨[_], _, rfl, rfl, rfl⟩
  | unchanged => rfl
  | patched => rfl
  | unpatched => exact ⟨[_, _], _, rfl, rfl, rfl⟩

theorem faults_announcement (app : AppService) (r : ManagedResource) (c : Convergence) :
    faults (announcement app r c) = [] := by
  refine List.filterMap_eq_nil_iff.2 fun t ht => ?_
  obtain ⟨notice, -, rfl⟩ := List.mem_map.1 ht
  rfl

theorem Sequence.shows {rs : List ManagedResource} {a : Except OperatorError Unit}
    (run : Sequence app rs h a) : Shows h a := by
  induction run with
  | nil => rfl
  | fails one => exact shows_of_ensure one
  | @cons r rs h h' c a one rest ih =>
    exact (ih.append (faults_announcement app r c)).append (shows_of_ensure one)

theorem shows_of_runMigration {a : Except OperatorError MigrationOutcome}
    (ran : Path (runMigration settings app) h (.done a)) : Shows h a := by
  cases Migration.attempt_of_run ran with
  | unlisted => exact ⟨[], _, rfl, rfl, rfl⟩
  | notReady => rfl
  | late => exact ⟨[_], _, rfl, rfl, rfl⟩
  | broken => exact ⟨[_], _, rfl, rfl, rfl⟩
  | @ran pods pod output first =>
    cases outcome : Migration.outcome pod.metadata.anyName output with
    | ok done => simp [Shows, faults, Turn.fault?, outcome]
    | error e => exact ⟨[_], _, rfl, rfl, by simp [Turn.fault?, outcome]⟩

/-! ## The origin of a failure -/

theorem Converged.quiet (converged : Converged settings app h) : faults h = [] := by
  obtain ⟨ctx, -, objects⟩ := converged.objects
  exact (sequence_of_path objects).shows

theorem Converged.quiet_of_ran {hm : History Call.Answer} {outcome : MigrationOutcome}
    (converged : Converged settings app h) (ran : Path (runMigration settings app) hm (.done (.ok outcome))) :
    faults (h ++ hm) = [] := by
  rw [faults_append, converged.quiet]
  exact shows_of_runMigration ran

/-- Why nothing more came of an AppService, and what had happened until then. -/
inductive Origin (settings : PassSettings) (app : AppService) (e : OperatorError) :
    History Call.Answer → Prop where
  | invalid (fault : app.spec.validate app.name = .error e) : Origin settings app e []
  | noContext (valid : app.spec.validate app.name = .ok ()) (initialized : app.spec.initialized = true)
      (fault : Context.ofApp app settings.script = .error e) : Origin settings app e []
  | answered {before : History Call.Answer} {t : Turn Call.Answer} (quiet : faults before = [])
      (fault : t.fault? = some e) : Origin settings app e (before ++ [t])

/-- The failure that is to be recorded has an origin, after which nothing is asked for any more. -/
theorem Driven.origin (driven : Driven settings app h (base, .error e)) :
    ∃ upTo after, h = upTo ++ after ∧ Origin settings app e upTo ∧ ∀ t ∈ after, t.call.Records := by
  cases driven with
  | invalid fault => exact ⟨[], [], rfl, .invalid fault, by simp⟩
  | noContext valid initialized fault => exact ⟨[], [], rfl, .noContext valid initialized fault, by simp⟩
  | @notMarked e valid unmarked =>
    exact ⟨[] ++ [⟨.replaceApp app.marked, .error e⟩], [], rfl, .answered rfl rfl, by simp⟩
  | stuck valid initialized context objects =>
    obtain ⟨before, t, rfl, quiet, fault⟩ := (sequence_of_path objects).shows
    exact ⟨before ++ [t], [], by simp, .answered quiet fault, by simp⟩
  | @unmigrated ho hm e converged due ran =>
    obtain ⟨before, t, rfl, quiet, fault⟩ := shows_of_runMigration ran
    have quiet : faults (ho ++ before) = [] := by
      rw [faults_append, converged.quiet, quiet]
      rfl
    refine ⟨ho ++ before ++ [t], [⟨.publish (attempted settings app .failed).reference
      ⟨.warning, Reason.migrationFailed, migrateAction, some e.message⟩, ()⟩], ?_, .answered quiet fault, ?_⟩
    · rw [List.append_assoc ho before [t]]
    · simp [Call.Records]

/-- A call that failed is what bringing about the AppService failed with. -/
theorem Driven.error_of_fault {result : Except OperatorError Progress}
    (driven : Driven settings app h (base, result)) (fault : e ∈ faults h) : result = .error e := by
  cases driven with
  | invalid => cases fault
  | noContext => cases fault
  | @notMarked e' valid unmarked =>
    have only : faults [⟨.replaceApp app.marked, .error e'⟩] = [e'] := rfl
    rw [only] at fault
    rw [List.mem_singleton.1 fault]
  | marked => cases fault
  | stuck valid initialized context objects =>
    cases (sequence_of_path objects).shows.error fault
    rfl
  | settled converged succeeded =>
    rw [converged.quiet] at fault
    cases fault
  | waiting converged due ran =>
    rw [converged.quiet_of_ran ran] at fault
    cases fault
  | unmigrated converged due ran =>
    rw [faults_append, faults_append, converged.quiet] at fault
    rcases List.mem_append.1 fault with fault | fault
    · cases (shows_of_runMigration ran).error fault
      rfl
    · cases fault
  | unstored converged due ran =>
    rw [faults_append, faults_append, converged.quiet_of_ran ran] at fault
    cases fault
  | migrated converged due ran =>
    rw [faults_append, faults_append, converged.quiet_of_ran ran] at fault
    cases fault

/-- Bringing about the AppService failed in the course of a history. -/
def DriveFailed (settings : PassSettings) (app : AppService) (e : OperatorError) (h : History Call.Answer) :
    Prop :=
  ∃ hd hc base, h = hd ++ hc ∧ Path (drive settings app) hd (.done (base, .error e))

/-! ## The record of a failure -/

/-- The events of a history that report a failed pass. -/
def reports (h : History Call.Answer) : List Notice :=
  (h.filterMap Turn.notice?).filter (·.reason = Reason.processingError)

@[simp] theorem reports_append (h k : History Call.Answer) : reports (h ++ k) = reports h ++ reports k := by
  simp [reports]

theorem reports_eq_nil (silent : ∀ t ∈ h, ¬ t.call.TellsFailure) : reports h = [] := by
  refine List.filter_eq_nil_iff.2 fun notice hnotice => ?_
  obtain ⟨⟨c, answer⟩, ht, hpublished⟩ := List.mem_filterMap.1 hnotice
  cases c with
  | publish about notice' =>
    cases hpublished
    simpa [Call.TellsFailure] using silent _ ht
  | _ => cases hpublished

theorem statusWrites_of_silent (silent : ∀ t ∈ h, ¬ t.call.TellsFailure) : statusWrites h = [] := by
  refine statusWrites_eq_nil fun t ht => Turn.statusWrite?_of_ne fun w hw => ?_
  have told := silent t ht
  rw [hw] at told
  exact told trivial

theorem silent_announcement {r : ManagedResource} {c : Convergence} :
    ∀ t ∈ announcement app r c, ¬ t.call.TellsFailure := by
  intro t ht
  obtain ⟨notice, hnotice, rfl⟩ := List.mem_map.1 ht
  cases c with
  | unchanged => cases hnotice
  | created =>
    rw [List.mem_singleton.1 hnotice]
    simp +decide [Call.TellsFailure]
  | patched =>
    rw [List.mem_singleton.1 hnotice]
    simp +decide [Call.TellsFailure]

theorem Sequence.silent {rs : List ManagedResource} {a : Except OperatorError Unit}
    (run : Sequence app rs h a) : ∀ t ∈ h, ¬ t.call.TellsFailure := by
  have silent_one {r : ManagedResource} {h : History Call.Answer} {b : Except OperatorError Convergence}
      (one : Path r.ensure h (.done b)) : ∀ t ∈ h, ¬ t.call.TellsFailure := by
    obtain ⟨answer, rest, rfl, amends⟩ := ManagedResource.create_of_ensure one
    exact List.forall_mem_cons.2 ⟨id, fun t ht => (amends t ht).onResources.silent⟩
  induction run with
  | nil => simp
  | fails one => exact silent_one one
  | cons one rest ih =>
    exact List.forall_mem_append.2 ⟨silent_one one, List.forall_mem_append.2 ⟨silent_announcement, ih⟩⟩

/-- What has come of the AppService by then tells nothing of the failure yet. -/
theorem Driven.silent (driven : Driven settings app h (base, .error e)) : ∀ t ∈ h, ¬ t.call.TellsFailure := by
  cases driven with
  | invalid => simp
  | noContext => simp
  | notMarked => simp [Call.TellsFailure]
  | stuck valid initialized context objects => exact (sequence_of_path objects).silent
  | unmigrated converged due ran =>
    obtain ⟨ctx, -, objects⟩ := converged.objects
    refine List.forall_mem_append.2 ⟨List.forall_mem_append.2 ⟨(sequence_of_path objects).silent, ?_⟩, ?_⟩
    · exact fun t ht => (onPods_of_runMigration ran t ht).silent
    · simp +decide [Call.TellsFailure]

/-- The status reports the failure, and the delay until the next attempt. -/
structure Reported (e : OperatorError) (delay : UInt64) (s : Status) : Prop where
  failed : ∃ time, s.reconcile = some ⟨.failed, time, e.message, some delay⟩
  demoted : ∃ time, s.condition? Status.promoted =
    some ⟨Status.promoted, .isFalse, PromotedReason.failed, e.message, time⟩

theorem reported_recordFailure (e : OperatorError) (s : Status) (now : Instant) :
    Reported e s.nextDelay (s.recordFailure e.message now) :=
  ⟨⟨_, rfl⟩, s.condition?_recordFailure e.message now⟩

/-- A failure of a pass is recorded in its history, and answered for. -/
structure Recorded (settings : PassSettings) (app : AppService) (e : OperatorError) (h : History Call.Answer)
    (r : Except OperatorError Action) : Prop where
  /-- After the origin of the failure no object and no pod is touched. -/
  stops : ∃ upTo after, h = upTo ++ after ∧ Origin settings app e upTo ∧
    ∀ t ∈ after, ¬ t.call.OnResources ∧ ¬ t.call.OnPods
  /-- One event reports the failure. -/
  event : reports h = [⟨.warning, Reason.processingError, reconcileAction, some e.message⟩]
  /-- One status is written and reports it too. The pass asks for the delay that the status carries,
  and if the store refuses the status, it says so and asks to be run at once. -/
  status : ∃ w delay answer, statusWrites h = [(w, answer)] ∧ Reported e delay w.currentStatus ∧
    (∀ stored, answer = .ok stored → r = .ok (.requeue delay.toNat)) ∧
    ∀ e', answer = .error e' → r = .ok (.requeue 1) ∧
      ⟨.warning, Reason.statusUpdateFailed, reconcileAction, some e'.message⟩ ∈ h.filterMap Turn.notice?

theorem recorded_of_driven {hd hc : History Call.Answer} {outcome : PassOutcome}
    (driven : Driven settings app hd (base, .error e)) (committed : Committed (base, .error e) hc outcome) :
    Recorded settings app e (hd ++ hc) (.ok outcome.action) := by
  have quiet : reports hd = [] := reports_eq_nil driven.silent
  have unwritten : statusWrites hd = [] := statusWrites_of_silent driven.silent
  refine ⟨?stops, ?event, ?status⟩
  case stops =>
    obtain ⟨upTo, after, rfl, origin, records⟩ := driven.origin
    refine ⟨upTo, after ++ hc, by simp, origin, fun t ht => Call.Records.idle ?_⟩
    rcases List.mem_append.1 ht with ht | ht
    · exact records t ht
    · exact committed.records t ht
  case event =>
    rw [reports_append, quiet]
    cases committed with
    | failed now => rfl
    | failureRefused now => rfl
  case status =>
    rw [statusWrites_append, unwritten, List.nil_append]
    cases committed with
    | @failed _ _ stored now =>
      refine ⟨base.mapStatus (·.recordFailure e.message now), base.currentStatus.nextDelay, .ok stored, rfl,
        reported_recordFailure e _ now, fun _ _ => rfl, fun e' he => ?_⟩
      cases he
    | @failureRefused _ _ e' now =>
      refine ⟨base.mapStatus (·.recordFailure e.message now), base.currentStatus.nextDelay, .error e', rfl,
        reported_recordFailure e _ now, fun stored hstored => ?_, fun _ he => ?_⟩
      · cases hstored
      · cases he
        exact ⟨rfl, by simp [Turn.notice?]⟩

/-- A pass over an enabled AppService consists of what comes of it and the record. -/
theorem worked_of_path {ns : String} {r : Except OperatorError Action} (enabled : app.spec.enabled = true)
    (path : Path (reconcile settings key) (⟨.fetchApp ns key.name, .ok (some app)⟩ :: h) (.done r)) :
    ∃ hd hc result outcome, h = hd ++ hc ∧ r = .ok outcome.action ∧ Path (drive settings app) hd (.done result) ∧
      Committed result hc outcome := by
  generalize hall : (⟨.fetchApp ns key.name, .ok (some app)⟩ :: h : History Call.Answer) = all at path
  cases passed_of_path path with
  | nameless => cases hall
  | notFetched => cases (List.cons.inj hall).1
  | gone => cases (List.cons.inj hall).1
  | disabled inNs disabled =>
    cases (List.cons.inj hall).1
    cases enabled.symm.trans disabled
  | @worked ns' app' hd hc result outcome inNs enabled' driven committed =>
    obtain ⟨hread, rfl⟩ := List.cons.inj hall
    cases hread
    exact ⟨hd, hc, result, outcome, rfl, rfl, driven, committed⟩

/-- After the read no AppService is read any more. -/
theorem Shape.unread (shape : Shape settings app h) {ns name : String}
    {answer : Except OperatorError (Option AppService)} : ⟨.fetchApp ns name, answer⟩ ∉ h := by
  intro ht
  cases shape with
  | quiet records => exact (records _ ht).elim
  | marking valid unmarked records =>
    rcases List.mem_cons.1 ht with ht | ht
    · cases ht
    · exact (records _ ht).elim
  | working valid initialized context objects rest execOnce =>
    rcases List.mem_append.1 ht with ht | ht
    · exact ((converge_onObjects app _ []).turns objects _ ht).elim
    · exact (rest _ ht).elim (fun records => records.elim) (fun pods => pods.1.elim)

/-- The pass fails where its read failed, and then it did nothing else. -/
theorem Passed.error_iff {ns : String} {r : Except OperatorError Action} (passed : Passed settings key h r)
    (inNs : key.ns = some ns) :
    (r = .error e ↔ ⟨.fetchApp ns key.name, .error e⟩ ∈ h) ∧
      (r = .error e → h = [⟨.fetchApp ns key.name, .error e⟩]) := by
  cases passed with
  | nameless noNs => cases inNs.symm.trans noNs
  | notFetched inNs' =>
    cases inNs.symm.trans inNs'
    refine ⟨⟨?_, ?_⟩, ?_⟩
    · rintro ⟨⟩
      exact List.mem_singleton_self _
    · intro ht
      cases List.mem_singleton.1 ht
      rfl
    · rintro ⟨⟩
      rfl
  | gone => exact ⟨by simp, nofun⟩
  | disabled => exact ⟨by simp, nofun⟩
  | @worked ns' app hd hc result outcome inNs' enabled driven committed =>
    have shape : Shape settings app (hd ++ hc) := (driven_of_path driven).shape committed
    have unread : ⟨.fetchApp ns key.name, .error e⟩ ∉ hd ++ hc := shape.unread
    refine ⟨⟨nofun, fun ht => ?_⟩, nofun⟩
    rcases List.mem_cons.1 ht with ht | ht
    · cases ht
    · exact absurd ht unread

/-- Bringing about an AppService fails exactly where there is an origin for the failure: none is made
up, and none is passed over. -/
theorem driveFailed_iff {hd hc : History Call.Answer} {result : AppService × Except OperatorError Progress}
    {outcome : PassOutcome} (driven : Path (drive settings app) hd (.done result))
    (committed : Committed result hc outcome) :
    DriveFailed settings app e (hd ++ hc) ↔
      ∃ upTo after, hd ++ hc = upTo ++ after ∧ Origin settings app e upTo := by
  constructor
  · rintro ⟨hd', hc', base, heq, failed⟩
    obtain ⟨upTo, after, rfl, origin, -⟩ := (driven_of_path failed).origin
    exact ⟨upTo, after ++ hc', by rw [heq, List.append_assoc], origin⟩
  · rintro ⟨upTo, after, heq, origin⟩
    cases origin with
    | invalid fault =>
      refine ⟨[], _, app, rfl, ?_⟩
      unfold drive
      rw [fault]
      exact .here _
    | noContext valid initialized fault =>
      refine ⟨[], _, app, rfl, ?_⟩
      unfold drive
      rw [valid]
      simp only [initialized, fault, Bool.not_true, Bool.false_eq_true, if_false]
      exact .here _
    | @answered before t quiet fault =>
      have inAll : e ∈ faults (hd ++ hc) := by
        rw [heq]
        exact List.mem_filterMap.2 ⟨t, by simp, fault⟩
      rw [faults_append, faults_of_records committed.records, List.append_nil] at inAll
      obtain ⟨base, result⟩ := result
      cases (driven_of_path driven).error_of_fault inAll
      exact ⟨hd, hc, base, rfl, driven⟩

/-- A pass fails itself exactly where the read failed, and then it does nothing else. Whatever else
fails for an enabled AppService is recorded once and answered with a delay. -/
theorem failure_recorded {ns : String} {r : Except OperatorError Action} (inNs : key.ns = some ns)
    (path : Path (reconcile settings key) h (.done r)) :
    (∀ e, r = .error e ↔ ⟨.fetchApp ns key.name, .error e⟩ ∈ h) ∧
    (∀ e, r = .error e → h = [⟨.fetchApp ns key.name, .error e⟩]) ∧
    ∀ app rest, h = ⟨.fetchApp ns key.name, .ok (some app)⟩ :: rest → app.spec.enabled = true → ∀ e,
      (DriveFailed settings app e rest ↔ ∃ upTo after, rest = upTo ++ after ∧ Origin settings app e upTo) ∧
      (DriveFailed settings app e rest → Recorded settings app e rest r) := by
  have passed : Passed settings key h r := passed_of_path path
  refine ⟨fun e => (passed.error_iff inNs).1, fun e => (passed.error_iff inNs).2, ?_⟩
  rintro app rest rfl enabled e
  obtain ⟨hd, hc, result, outcome, rfl, rfl, driven, committed⟩ := worked_of_path enabled path
  refine ⟨driveFailed_iff driven committed, ?_⟩
  rintro ⟨hd', hc', base, heq, failed⟩
  obtain ⟨rfl, rfl, rfl⟩ := driven.unique failed heq
  exact recorded_of_driven (driven_of_path driven) committed

/-- A script that does not end in time is recorded as the failure of the pass. -/
theorem recorded_of_late : ∃ rest, Smooth.app.ns = some "demo" ∧
    Path (reconcile {} Smooth.app) (⟨.fetchApp "demo" "gramola", .ok (some Smooth.app)⟩ :: rest)
      (.done (.ok (.requeue 1))) ∧
    Recorded {} Smooth.app (.execTimeout "events-database-1" 30) rest (.ok (.requeue 1)) := by
  have path : Path (reconcile {} Smooth.app) (⟨.fetchApp "demo" "gramola", .ok (some Smooth.app)⟩ ::
      ((reconcile {} Smooth.app).take Smooth.late 35).1.tail) (.done (.ok (.requeue 1))) :=
    path_take Smooth.late 35 _
  have failed : DriveFailed {} Smooth.app (.execTimeout "events-database-1" 30)
      ((reconcile {} Smooth.app).take Smooth.late 35).1.tail :=
    ⟨_, _, attempted {} Smooth.app .failed, rfl, path_take Smooth.late 31 (drive {} Smooth.app)⟩
  exact ⟨_, rfl, path, ((failure_recorded rfl path).2.2 Smooth.app _ rfl rfl _).2 failed⟩

end Pass

end AppServiceOperator
