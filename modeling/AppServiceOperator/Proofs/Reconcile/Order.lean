import AppServiceOperator.Proofs.Desired.Generated
import AppServiceOperator.Proofs.Reconcile.Outcome
import AppServiceOperator.Proofs.Reconcile.Sequence
/-!
# The order of what a pass does

Before a pass asks for anything the AppService has to be enabled, valid and marked; then the objects
are brought about one after the other, up to the first failure, and only when all of them stand the
migration is looked after. `Orderly` says so of the history of a pass after its read, `Shape` lists
what such histories look like, and `effects_in_order` holds of every pass, finished or not.
-/
namespace AppServiceOperator

open Program (History Path Turn Ran exists_path_done path_take)

/-! ## Kinds of calls -/

namespace Call

/-- The calls about the objects themselves. -/
def OnResources : Call → Prop
  | .create _ | .fetch _ | .patch .. => True
  | _ => False

/-- The calls that record what happened. -/
def Records : Call → Prop
  | .writeStatus _ | .publish .. | .now => True
  | _ => False

def isExec : Call → Bool
  | .exec .. => true
  | _ => false

theorem Amends.onResources {c : Call} {r : ManagedResource} (h : c.Amends r) : c.OnResources := by
  cases c <;> trivial

theorem Records.idle {c : Call} (h : c.Records) : ¬ c.OnResources ∧ ¬ c.OnPods := by
  cases c <;> first | exact h.elim | exact ⟨id, id⟩

theorem OnPods.not_onResources {c : Call} (h : c.OnPods) : ¬ c.OnResources := by
  cases c <;> first | exact h.elim | exact id

theorem OnObjects.not_onPods {c : Call} (h : c.OnObjects) : ¬ c.OnPods := by
  cases c <;> first | exact h.elim | exact id

theorem isExec_eq_false {c : Call} (h : ¬ c.OnPods) : c.isExec = false := by
  cases c <;> first | rfl | exact absurd trivial h

end Call

theorem Program.Turn.created?_eq_none {t : Turn Call.Answer} (h : ¬ t.call.OnResources) :
    t.created? = none := by
  obtain ⟨c, answer⟩ := t
  cases c <;> first | rfl | exact absurd trivial h

instance : ∀ c : Call, Nonempty c.Answer := fun c => ⟨Smooth.answer c⟩

/-! ## Valid specs -/

/-- Just the two spellings name a flavour. -/
theorem Alias.exists_ofText {text : String} :
    (∃ a, ofText text = .ok a) ↔ text = "Gramola" ∨ text = "Gramophone" := by
  constructor
  · rintro ⟨a, h⟩
    unfold ofText at h
    split at h
    · rename_i a' found
      have named : Enumeration.spelling a' = text := by simpa using List.find?_some found
      cases a' with
      | gramola => exact .inl named.symm
      | gramophone => exact .inr named.symm
    · cases h
  · rintro (rfl | rfl)
    · exact ⟨.gramola, rfl⟩
    · exact ⟨.gramophone, rfl⟩

/-- The aliases that are accepted; none at all and the empty one stand for the same. -/
def Spec.accepted : List (Option String) := [none, some "", some "Gramola", some "Gramophone"]

theorem Spec.validate_eq_ok {s : Spec} {name : String} :
    s.validate name = .ok () ↔ s.flavourText ∈ accepted := by
  have hvalidate : s.validate name = .ok () ↔ ∃ flavour, s.flavour = .ok flavour := by
    unfold validate
    cases s.flavour <;> simp
  rw [hvalidate]
  unfold flavour
  split
  · rename_i htext
    simp [accepted, htext]
  · rename_i htext
    simp [accepted, htext]
  · rename_i text hne htext
    have hmem : s.flavourText ∈ accepted ↔ ∃ a, Alias.ofText text = .ok a := by
      rw [Alias.exists_ofText]
      simp [accepted, htext, show text ≠ "" from hne]
    rw [hmem]
    cases Alias.ofText text <;> simp [Functor.map, Except.map]

namespace Pass

variable {settings : PassSettings} {key app : AppService} {h k : History Call.Answer}

/-! ## Order -/

/-- How often a command was run in a pod. -/
def execs (h : History Call.Answer) : Nat := h.countP (·.call.isExec)

@[simp] theorem execs_append (h k : History Call.Answer) : execs (h ++ k) = execs h + execs k :=
  List.countP_append

/-- What a pass does for the AppService that it read is gated and ordered. -/
structure Orderly (settings : PassSettings) (app : AppService) (h : History Call.Answer) : Prop where
  /-- Objects and pods are for an AppService that is enabled, valid and marked. -/
  gated : ∀ t ∈ h, t.call.OnResources ∨ t.call.OnPods →
    app.spec.enabled = true ∧ app.spec.flavourText ∈ Spec.accepted ∧ app.spec.initialized = true
  /-- The fourteen objects are handed to the store in their order. -/
  inOrder : handed h ≠ [] → ∃ ctx, Context.ofApp app settings.script = .ok ctx ∧
    handed h <+: Desired.resources ctx ∧ (Desired.resources ctx).length = 14
  /-- Each object is handed to the store once. -/
  once : ((handed h).map fun r => (r.kind, r.name)).Nodup
  /-- Nothing is asked about another object than the one that was handed over last. -/
  follows : ∀ before t after r, h = before ++ t :: after → t.call.Amends r →
    (handed before).getLast? = some r
  /-- After the first object that could not be brought about no object or pod is touched. -/
  stops : ∀ before during after r e, h = before ++ (during ++ after) →
    Path (ManagedResource.ensure r) during (.done (.error e)) →
    ∀ t ∈ after, ¬ t.call.OnResources ∧ ¬ t.call.OnPods
  /-- Pods are for a migration that has not succeeded, once all objects were brought about. -/
  migrates : ∀ before t after, h = before ++ t :: after → t.call.OnPods →
    app.migration ≠ .succeeded ∧ ∃ ctx, Context.ofApp app settings.script = .ok ctx ∧
      handed before = Desired.resources ctx ∧
      ∀ r ∈ Desired.resources ctx, ∃ c, Ran before r.ensure (.ok c)
  /-- The script is run at most once. -/
  execOnce : execs h ≤ 1
  /-- An AppService is marked where it is enabled, valid and not marked, and nothing else is done. -/
  marks : ∀ sent answer, ⟨.replaceApp sent, answer⟩ ∈ h →
    app.spec.enabled = true ∧ app.spec.flavourText ∈ Spec.accepted ∧ app.spec.initialized = false ∧
      ∀ t ∈ h, ¬ t.call.OnResources ∧ ¬ t.call.OnPods

/-- What began in an orderly history is orderly. -/
theorem Orderly.of_append (orderly : Orderly settings app (h ++ k)) : Orderly settings app h where
  gated t ht := orderly.gated t (List.mem_append_left k ht)
  inOrder hne := by
    obtain ⟨ctx, context, inOrder, length⟩ := orderly.inOrder (by simp [hne])
    rw [handed_append] at inOrder
    exact ⟨ctx, context, (List.prefix_append _ _).trans inOrder, length⟩
  once := by
    have once := orderly.once
    rw [handed_append, List.map_append] at once
    exact (List.nodup_append.1 once).1
  follows before t after r heq := orderly.follows before t (after ++ k) r (by simp [heq])
  stops before during after r e heq failed t ht :=
    orderly.stops before during (after ++ k) r e (by simp [heq]) failed t (List.mem_append_left k ht)
  migrates before t after heq := orderly.migrates before t (after ++ k) (by simp [heq])
  execOnce := by
    have execOnce := orderly.execOnce
    rw [execs_append] at execOnce
    exact Nat.le_trans (Nat.le_add_right _ _) execOnce
  marks sent answer ht := by
    obtain ⟨enabled, valid, unmarked, idle⟩ := orderly.marks sent answer (List.mem_append_left k ht)
    exact ⟨enabled, valid, unmarked, fun t ht => idle t (List.mem_append_left k ht)⟩

/-! ## Shapes -/

/-- What the history of a pass after its read looks like. -/
inductive Shape (settings : PassSettings) (app : AppService) : History Call.Answer → Prop where
  | quiet {h : History Call.Answer} (records : ∀ t ∈ h, t.call.Records) : Shape settings app h
  | marking {answer : Except OperatorError AppService} {h : History Call.Answer}
      (valid : app.spec.validate app.name = .ok ()) (unmarked : app.spec.initialized = false)
      (records : ∀ t ∈ h, t.call.Records) :
      Shape settings app (⟨.replaceApp app.marked, answer⟩ :: h)
  | working {ctx : Context} {ho hp : History Call.Answer} {a : Except OperatorError Unit}
      (valid : app.spec.validate app.name = .ok ()) (initialized : app.spec.initialized = true)
      (context : Context.ofApp app settings.script = .ok ctx)
      (objects : Path (converge app (Desired.resources ctx)) ho (.done a))
      (rest : ∀ t ∈ hp, t.call.Records ∨ t.call.OnPods ∧ a = .ok () ∧ app.migration ≠ .succeeded)
      (execOnce : execs hp ≤ 1) : Shape settings app (ho ++ hp)

theorem execs_eq_zero (idle : ∀ t ∈ h, ¬ t.call.OnPods) : execs h = 0 :=
  List.countP_eq_zero.2 fun t ht => by simp [Call.isExec_eq_false (idle t ht)]

theorem execs_of_records (records : ∀ t ∈ h, t.call.Records) : execs h = 0 :=
  execs_eq_zero fun t ht => (records t ht).idle.2

/-- The script is run in one pod at most. -/
theorem execs_of_runMigration {r : Except OperatorError MigrationOutcome}
    (ran : Path (runMigration settings app) h (.done r)) : execs h ≤ 1 := by
  cases Migration.attempt_of_run ran <;> simp [execs, Call.isExec]

theorem Committed.records {result : AppService × Except OperatorError Progress} {outcome : PassOutcome}
    (committed : Committed result h outcome) : ∀ t ∈ h, t.call.Records := by
  cases committed <;> simp [Call.Records]

theorem shape_of_converged {hm : History Call.Answer} (converged : Converged settings app h)
    (due : app.migration ≠ .succeeded) {r : Except OperatorError MigrationOutcome}
    (ran : Path (runMigration settings app) hm (.done r)) (records : ∀ t ∈ k, t.call.Records) :
    Shape settings app (h ++ (hm ++ k)) := by
  obtain ⟨ctx, context, objects⟩ := converged.objects
  refine .working converged.valid converged.initialized context objects (fun t ht => ?_) ?_
  · rcases List.mem_append.1 ht with ht | ht
    · exact .inr ⟨onPods_of_runMigration ran t ht, rfl, due⟩
    · exact .inl (records t ht)
  · rw [execs_append, execs_of_records records]
    exact execs_of_runMigration ran

/-- A pass that works on the AppService that it read has one of the shapes. -/
theorem Driven.shape {result : AppService × Except OperatorError Progress} {outcome : PassOutcome}
    (driven : Driven settings app h result) (committed : Committed result k outcome) :
    Shape settings app (h ++ k) := by
  have records := committed.records
  cases driven with
  | invalid => exact .quiet records
  | noContext => exact .quiet records
  | notMarked valid unmarked => exact .marking valid unmarked records
  | marked valid unmarked => exact .marking valid unmarked (List.forall_mem_cons.2 ⟨trivial, records⟩)
  | stuck valid initialized context objects =>
    exact .working valid initialized context objects (fun t ht => .inl (records t ht))
      (by simp [execs_of_records records])
  | settled converged succeeded =>
    obtain ⟨ctx, context, objects⟩ := converged.objects
    exact .working converged.valid converged.initialized context objects (fun t ht => .inl (records t ht))
      (by simp [execs_of_records records])
  | waiting converged due ran =>
    rw [List.append_assoc]
    exact shape_of_converged converged due ran records
  | unmigrated converged due ran =>
    simp only [List.append_assoc]
    exact shape_of_converged converged due ran (List.forall_mem_cons.2 ⟨trivial, records⟩)
  | unstored converged due ran =>
    simp only [List.append_assoc]
    exact shape_of_converged converged due ran
      (List.forall_mem_cons.2 ⟨trivial, List.forall_mem_cons.2 ⟨trivial, records⟩⟩)
  | migrated converged due ran =>
    simp only [List.append_assoc]
    exact shape_of_converged converged due ran
      (List.forall_mem_cons.2 ⟨trivial, List.forall_mem_cons.2 ⟨trivial, records⟩⟩)

/-! ## Every shape is orderly -/

/-- Where no object and no pod is touched, there is nothing to order. -/
theorem orderly_of_idle (idle : ∀ t ∈ h, ¬ t.call.OnResources ∧ ¬ t.call.OnPods)
    (marks : ∀ sent answer, ⟨.replaceApp sent, answer⟩ ∈ h →
      app.spec.enabled = true ∧ app.spec.flavourText ∈ Spec.accepted ∧ app.spec.initialized = false) :
    Orderly settings app h := by
  have nothing : handed h = [] := handed_eq_nil fun t ht => Turn.created?_eq_none (idle t ht).1
  refine ⟨?gated, ?inOrder, ?once, ?follows, ?stops, ?migrates, ?execOnce, ?marks⟩
  case gated => exact fun t ht touched => (touched.elim (idle t ht).1 (idle t ht).2).elim
  case inOrder => exact fun something => absurd nothing something
  case once => simp [nothing]
  case follows =>
    rintro before t after r rfl amends
    exact absurd amends.onResources (idle t (by simp)).1
  case stops =>
    rintro before during after r e rfl failed t ht
    exact idle t (by simp [ht])
  case migrates =>
    rintro before t after rfl onPods
    exact absurd onPods (idle t (by simp)).2
  case execOnce =>
    rw [execs_eq_zero fun t ht => (idle t ht).2]
    exact Nat.zero_le 1
  case marks =>
    intro sent answer ht
    obtain ⟨enabled, valid, unmarked⟩ := marks sent answer ht
    exact ⟨enabled, valid, unmarked, idle⟩

/-- Where the objects are brought about, and then pods are touched if all of them stand. -/
theorem orderly_of_working {ctx : Context} {ho hp : History Call.Answer} {a : Except OperatorError Unit}
    (enabled : app.spec.enabled = true) (valid : app.spec.validate app.name = .ok ())
    (initialized : app.spec.initialized = true) (context : Context.ofApp app settings.script = .ok ctx)
    (objects : Path (converge app (Desired.resources ctx)) ho (.done a))
    (rest : ∀ t ∈ hp, t.call.Records ∨ t.call.OnPods ∧ a = .ok () ∧ app.migration ≠ .succeeded)
    (execOnce : execs hp ≤ 1) : Orderly settings app (ho ++ hp) := by
  have run : Sequence app (Desired.resources ctx) ho a := sequence_of_path objects
  have onObjects : ∀ t ∈ ho, t.call.OnObjects := (converge_onObjects app _ []).turns objects
  have untouched : ∀ t ∈ hp, ¬ t.call.OnResources := by
    intro t ht
    rcases rest t ht with records | ⟨onPods, -⟩
    · exact records.idle.1
    · exact onPods.not_onResources
  have uncreated : ∀ t ∈ hp, t.created? = none := fun t ht => Turn.created?_eq_none (untouched t ht)
  have handed_hp : handed hp = [] := handed_eq_nil uncreated
  refine ⟨?gated, ?inOrder, ?once, ?follows, ?stops, ?migrates, ?execOnce, ?marks⟩
  case gated => exact fun t ht touched => ⟨enabled, Spec.validate_eq_ok.1 valid, initialized⟩
  case inOrder =>
    intro _
    rw [handed_append, handed_hp, List.append_nil]
    exact ⟨ctx, context, run.handed_prefix, rfl⟩
  case once =>
    rw [handed_append, handed_hp, List.append_nil]
    exact (Desired.nodup_identities ctx).sublist (run.handed_prefix.sublist.map _)
  case follows =>
    intro before t after r heq amends
    have notLater : ∀ u ∈ hp, ¬ u.call.Amends r := fun u hu about => untouched u hu about.onResources
    obtain ⟨_, hsplit, -⟩ := exists_of_append_left heq notLater amends
    exact run.follows hsplit amends
  case stops =>
    intro before during after r e heq failed t ht
    obtain ⟨rfl, rfl⟩ := run.stops failed uncreated heq
    refine ⟨untouched t ht, fun onPods => ?_⟩
    rcases rest t ht with records | ⟨-, ha, -⟩
    · exact records.idle.2 onPods
    · cases ha
  case migrates =>
    intro before t after heq onPods
    have notEarlier : ∀ u ∈ ho, ¬ u.call.OnPods := fun u hu onPods => (onObjects u hu).not_onPods onPods
    obtain ⟨earlier, rfl, hsplit⟩ := exists_of_append_right heq notEarlier onPods
    rcases rest t (by simp [hsplit]) with records | ⟨-, rfl, due⟩
    · exact absurd onPods records.idle.2
    · have handed_earlier : handed earlier = [] :=
        handed_eq_nil fun u hu => uncreated u (by simp [hsplit, hu])
      refine ⟨due, ctx, context, ?_, fun r hr => ?_⟩
      · rw [handed_append, handed_earlier, List.append_nil]
        exact run.handed_eq
      · obtain ⟨c, ran⟩ := ran_of_converge objects r hr
        exact ⟨c, ran.append_right earlier⟩
  case execOnce =>
    rw [execs_append, execs_eq_zero fun t ht => (onObjects t ht).not_onPods, Nat.zero_add]
    exact execOnce
  case marks =>
    intro sent answer ht
    rcases List.mem_append.1 ht with ht | ht
    · exact (onObjects _ ht).elim
    · rcases rest _ ht with records | ⟨onPods, -⟩
      · exact records.elim
      · exact onPods.elim

theorem Shape.orderly (shape : Shape settings app h) (enabled : app.spec.enabled = true) :
    Orderly settings app h := by
  cases shape with
  | quiet records =>
    exact orderly_of_idle (fun t ht => (records t ht).idle) fun sent answer ht => (records _ ht).elim
  | marking valid unmarked records =>
    refine orderly_of_idle (List.forall_mem_cons.2 ⟨⟨id, id⟩, fun t ht => (records t ht).idle⟩) ?_
    exact fun sent answer _ => ⟨enabled, Spec.validate_eq_ok.1 valid, unmarked⟩
  | working valid initialized context objects rest execOnce =>
    exact orderly_of_working enabled valid initialized context objects rest execOnce

/-- What a pass may do after its read, by what it read. -/
def Allowed (settings : PassSettings) : Except OperatorError (Option AppService) → History Call.Answer → Prop
  | .ok (some app), h => Orderly settings app h
  | .ok none, h | .error _, h => h = []

theorem Passed.allowed {r : Except OperatorError Action} (passed : Passed settings key h r) :
    h = [] ∨ ∃ ns answer rest, key.ns = some ns ∧ h = ⟨.fetchApp ns key.name, answer⟩ :: rest ∧
      Allowed settings answer rest := by
  cases passed with
  | nameless => exact .inl rfl
  | @notFetched ns e inNs => exact .inr ⟨ns, .error e, [], inNs, rfl, rfl⟩
  | @gone ns inNs => exact .inr ⟨ns, .ok none, [], inNs, rfl, rfl⟩
  | @disabled ns app inNs disabled =>
    exact .inr ⟨ns, .ok (some app), [], inNs, rfl, orderly_of_idle (by simp) (by simp)⟩
  | @worked ns app hd hc result outcome inNs enabled driven committed =>
    have shape : Shape settings app (hd ++ hc) := (driven_of_path driven).shape committed
    exact .inr ⟨ns, .ok (some app), hd ++ hc, inNs, rfl, shape.orderly enabled⟩

theorem Allowed.of_append {answer : Except OperatorError (Option AppService)}
    (allowed : Allowed settings answer (h ++ k)) : Allowed settings answer h := by
  rcases answer with e | _ | app
  · exact (List.append_eq_nil_iff.1 allowed).1
  · exact (List.append_eq_nil_iff.1 allowed).1
  · exact Orderly.of_append allowed

/-- What a pass does, up to any point, begins with the read. Without an AppService that is all, and for
an AppService it is gated and ordered. -/
theorem effects_in_order {q : Operation (Except OperatorError Action)}
    (path : Path (reconcile settings key) h q) :
    h = [] ∨ ∃ ns answer rest, key.ns = some ns ∧ h = ⟨.fetchApp ns key.name, answer⟩ :: rest ∧
      Allowed settings answer rest := by
  -- what is true of a pass that has ended is true of its beginnings
  obtain ⟨later, r, ending⟩ := exists_path_done q
  have passed : Passed settings key (h ++ later) r := passed_of_path (path.trans ending)
  cases h with
  | nil => exact .inl rfl
  | cons t h =>
    rcases passed.allowed with nothing | ⟨ns, answer, rest, inNs, hall, allowed⟩
    · cases nothing
    · obtain ⟨rfl, rfl⟩ := List.cons.inj hall
      exact .inr ⟨ns, answer, h, inNs, rfl, allowed.of_append⟩

/-- A pass in which all goes well hands over all objects and runs the script, in that order. -/
theorem order_of_smooth : ∃ rest,
    Path (reconcile {} Smooth.app) (⟨.fetchApp "demo" "gramola", .ok (some Smooth.app)⟩ :: rest)
      (.done (.ok .awaitChange)) ∧
    (handed rest).length = 14 ∧ execs rest = 1 ∧ Orderly {} Smooth.app rest := by
  have path : Path (reconcile {} Smooth.app)
      (⟨.fetchApp "demo" "gramola", .ok (some Smooth.app)⟩ ::
        ((reconcile {} Smooth.app).take Smooth.answer 35).1.tail) (.done (.ok .awaitChange)) :=
    path_take Smooth.answer 35 _
  rcases effects_in_order path with nothing | ⟨ns, answer, rest, -, hall, allowed⟩
  · cases nothing
  · obtain ⟨hread, rfl⟩ := List.cons.inj hall
    cases hread
    exact ⟨_, path, rfl, rfl, allowed⟩

end Pass

end AppServiceOperator
