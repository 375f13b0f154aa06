import AppServiceOperator.Proofs.Reconcile.Order
/-!
# What the calls of a pass rest on

Whatever a pass asks for after its read belongs to the work on the AppService that it read
(`exists_worked`), and fits it: an AppService is marked as it was read and only where it was not
marked, and objects and pods are touched only where it was (`fits_of_path`).
-/
namespace AppServiceOperator

open Program (History Path exists_path_done)

/-- The call is one that a pass may make for the AppService that it read. -/
structure Call.Fits (c : Call) (app : AppService) : Prop where
  marks : ∀ sent, c = .replaceApp sent → sent = app.marked ∧ app.spec.initialized = false
  touches : c.OnResources ∨ c.OnPods → app.spec.initialized = true

theorem Call.Records.fits {c : Call} (h : c.Records) (app : AppService) : c.Fits app where
  marks := by
    rintro sent rfl
    exact h.elim
  touches touched := (touched.elim h.idle.1 h.idle.2).elim

theorem Call.fits_replaceApp {app : AppService} (unmarked : app.spec.initialized = false) :
    (Call.replaceApp app.marked).Fits app where
  marks := by
    rintro sent ⟨⟩
    exact ⟨rfl, unmarked⟩
  touches touched := (touched.elim id id).elim

theorem Call.fits_of_initialized {c : Call} {app : AppService} (h : app.spec.initialized = true)
    (other : c.OnObjects ∨ c.OnPods) : c.Fits app where
  marks := by
    rintro sent rfl
    exact (other.elim id id).elim
  touches _ := h

namespace Pass

variable {settings : PassSettings} {key app : AppService} {h : History Call.Answer}

theorem Shape.fits (shape : Shape settings app h) : ∀ t ∈ h, t.call.Fits app := by
  cases shape with
  | quiet records => exact fun t ht => (records t ht).fits app
  | marking valid unmarked records =>
    exact List.forall_mem_cons.2 ⟨Call.fits_replaceApp unmarked, fun t ht => (records t ht).fits app⟩
  | working valid initialized context objects rest execOnce =>
    refine List.forall_mem_append.2 ⟨fun t ht => ?_, fun t ht => ?_⟩
    · exact Call.fits_of_initialized initialized (.inl ((converge_onObjects app _ []).turns objects t ht))
    · rcases rest t ht with records | ⟨onPods, -⟩
      · exact records.fits app
      · exact Call.fits_of_initialized initialized (.inr onPods)

/-- Every pass that has come so far can be brought to an end. -/
theorem exists_passed {q : Operation (Except OperatorError Action)}
    (path : Path (reconcile settings key) h q) :
    ∃ later r, Passed settings key (h ++ later) r := by
  obtain ⟨later, r, ending⟩ := exists_path_done q
  exact ⟨later, r, passed_of_path (path.trans ending)⟩

/-- A call that is not the read is part of the work on the AppService that was read. -/
theorem exists_worked {c : Call} {next : c.Answer → Operation (Except OperatorError Action)}
    (path : Path (reconcile settings key) h (.call c next)) (notRead : ∀ ns name, c ≠ .fetchApp ns name)
    (answer : c.Answer) :
    ∃ ns app h' later hd hc result outcome, h = ⟨.fetchApp ns key.name, .ok (some app)⟩ :: h' ∧
      h' ++ ⟨c, answer⟩ :: later = hd ++ hc ∧ Driven settings app hd result ∧
      Committed result hc outcome := by
  obtain ⟨later, r, passed⟩ := exists_passed (path.snoc answer)
  rw [List.append_assoc, List.singleton_append] at passed
  generalize hall : h ++ ⟨c, answer⟩ :: later = all at passed
  -- the call is not the first one, so the pass is one that went on after its read
  have unread {ns : String} {name : String} {found : Except OperatorError (Option AppService)}
      (hall : h ++ ⟨c, answer⟩ :: later = [⟨.fetchApp ns name, found⟩]) : False := by
    cases h with
    | nil =>
      cases (List.cons.inj hall).1
      exact notRead ns name rfl
    | cons t h => simp at hall
  cases passed with
  | nameless => simp at hall
  | notFetched => exact (unread hall).elim
  | gone => exact (unread hall).elim
  | disabled => exact (unread hall).elim
  | @worked ns app hd hc result outcome inNs enabled driven committed =>
    cases h with
    | nil =>
      cases (List.cons.inj hall).1
      exact (notRead ns key.name rfl).elim
    | cons t h =>
      obtain ⟨rfl, hrest⟩ := List.cons.inj hall
      exact ⟨ns, app, h, later, hd, hc, result, outcome, rfl, hrest, driven_of_path driven, committed⟩

/-- A call fits the AppService that the pass read. -/
theorem fits_of_path {c : Call} {next : c.Answer → Operation (Except OperatorError Action)}
    (path : Path (reconcile settings key) h (.call c next)) (notRead : ∀ ns name, c ≠ .fetchApp ns name) :
    ∃ ns app h', h = ⟨.fetchApp ns key.name, .ok (some app)⟩ :: h' ∧ c.Fits app := by
  obtain ⟨answer⟩ : Nonempty c.Answer := inferInstance
  obtain ⟨ns, app, h', later, hd, hc, result, outcome, rfl, hall, driven, committed⟩ :=
    exists_worked path notRead answer
  have fits := (driven.shape committed).fits ⟨c, answer⟩
  rw [← hall] at fits
  exact ⟨ns, app, h', rfl, fits (by simp)⟩

end Pass

end AppServiceOperator
