import AppServiceOperator.Proofs.App.StatusPatch
import AppServiceOperator.Proofs.Interleaving.Journal
import AppServiceOperator.Proofs.Reconcile.Premises
/-!
# The mark of an AppService

However passes are interleaved, as long as users leave the mark alone it is set once: a replacement
only takes effect on the version that the pass read, which was not marked, and then every later
version is. So a pass that touches an object or a pod read the AppService after the mark was stored.
All of it is `marked_once`; the mark that is stored counts the replacements (`Run.mark_eq`).
-/
namespace AppServiceOperator.System

open Program (History Path Turn)

/-! ## Replacements -/

/-- Users may edit anything but the mark. -/
def KeepsMark (σ : System) : Entry → Prop
  | .edited spec => spec.initialized = σ.store.current.spec.initialized
  | _ => True

theorem keepsMark_started (σ : System) : KeepsMark σ .started := trivial

theorem keepsMark_answered {σ : System} {n : Nat} {t : Turn Call.Answer} {stored : Bool} :
    KeepsMark σ (.answered n t stored) := trivial

/-- Whether a pass replaced the stored AppService. -/
def Entry.replaces : Entry → Bool
  | .answered _ ⟨.replaceApp _, _⟩ stored => stored
  | _ => false

/-- How many replacements took effect. -/
def replacements (log : List Entry) : Nat := log.countP Entry.replaces

theorem replacements_snoc (log : List Entry) (e : Entry) :
    replacements (log ++ [e]) = replacements log + e.replaces.toNat := by
  rw [replacements, List.countP_append, List.countP_singleton]
  cases e.replaces <;> rfl

variable {app : AppService} {σ σ' : System} {log : List Entry}

/-- A replacement that carries the current version was made of the current object, which was not
marked. -/
theorem Knows.eq_marked {store : AppStore} {p : RunningPass} (h : Knows store p)
    (versions : (store.objects.map (·.version)).Nodup) {sent : AppService}
    {next : Except OperatorError AppService → Operation (Except OperatorError Action)}
    (waiting : p.rest = .call (.replaceApp sent) next) (current : sent.version = store.current.version) :
    sent = store.current.marked ∧ store.current.spec.initialized = false := by
  have path := h.path
  rw [waiting] at path
  obtain ⟨ns, o, h', hhist, fits⟩ := Pass.fits_of_path path nofun
  obtain ⟨rfl, unmarked⟩ := fits.marks sent rfl
  have stored : o ∈ store.objects :=
    h.told ⟨.fetchApp ns p.key.name, .ok (some o)⟩ (hhist ▸ List.mem_cons_self) o rfl
  have heq : o = store.current := eq_of_version versions stored store.current_mem_objects current
  exact ⟨heq ▸ rfl, heq ▸ unmarked⟩

/-- A step sets the stored mark exactly where a replacement takes effect. -/
theorem Coherent.mark_step {e : Entry} (h : Coherent σ) (ok : KeepsMark σ e) (step : Logs σ e σ') :
    σ.store.current.spec.initialized.toNat + e.replaces.toNat = σ'.store.current.spec.initialized.toNat := by
  cases step with
  | started => rfl
  | edited metadata spec fresh => exact congrArg Bool.toNat (show spec.initialized = _ from ok).symm
  | @answered store store' front back p c answer next waiting answers =>
    cases answers with
    | replaced current fresh told =>
      obtain ⟨rfl, unmarked⟩ : _ = store.current.marked ∧ store.current.spec.initialized = false :=
        (h.knows p (by simp)).eq_marked h.versions waiting current
      simp only [Entry.replaces, AppStore.grew_install]
      rw [unmarked]
      rfl
    | notReplaced => simp [Entry.replaces, AppStore.grew_self]
    | other other =>
      cases c with
      | replaceApp => exact absurd trivial other
      | _ => rfl
    | _ => rfl

/-- The stored AppService is marked if it was in the beginning or by one replacement. -/
theorem Run.mark_eq (run : Run KeepsMark (initially app) log σ) :
    app.spec.initialized.toNat + replacements log = σ.store.current.spec.initialized.toNat := by
  induction run with
  | nil => rfl
  | snoc run ok step ih =>
    rw [replacements_snoc, ← Nat.add_assoc, ih]
    exact run.coherent.mark_step ok step

/-! ## What is read -/

/-- An AppService that is read is the one that is stored. -/
theorem Logs.eq_current {n : Nat} {ns name : String} {o : AppService} {stored : Bool}
    (step : Logs σ (.answered n ⟨.fetchApp ns name, .ok (some o)⟩ stored) σ') : o = σ.store.current := by
  generalize he : Entry.answered n ⟨.fetchApp ns name, .ok (some o)⟩ stored = e at step
  cases step with
  | started => cases he
  | edited => cases he
  | answered waiting answers =>
    cases answers with
    | fetched => cases he; rfl
    | other other => cases he; exact absurd trivial other
    | _ => cases he

/-- A status write leaves the stored spec alone. -/
theorem Logs.spec_of_writeStatus {n : Nat} {sent : AppService} {answer : Except OperatorError AppService}
    {stored : Bool} (step : Logs σ (.answered n ⟨.writeStatus sent, answer⟩ stored) σ') :
    σ'.store.current.spec = σ.store.current.spec := by
  generalize he : Entry.answered n ⟨.writeStatus sent, answer⟩ stored = e at step
  cases step with
  | started => cases he
  | edited => cases he
  | answered waiting answers =>
    cases answers with
    | replaced => cases he
    | _ => rfl

/-- Nor does the patch that is sent for it name the spec. -/
theorem spec_of_statusPatch (sent : AppService) (target : Json) :
    (target.mergePatch (Client.statusPatch sent)).get? "spec" = target.get? "spec" :=
  Json.get?_mergePatch_of_not_mem (by simp)

/-- A marked AppService was read after a replacement, unless it was marked from the beginning. -/
theorem Run.replaced_of_read {earlier later : List Entry} {n : Nat} {ns name : String} {o : AppService}
    {stored : Bool}
    (run : Run KeepsMark (initially app)
      (earlier ++ .answered n ⟨.fetchApp ns name, .ok (some o)⟩ stored :: later) σ)
    (marked : o.spec.initialized = true) :
    app.spec.initialized = true ∨ ∃ e ∈ earlier, e.replaces = true := by
  obtain ⟨σ₁, σ₂, first, -, step, -⟩ := run.split
  have mark := first.mark_eq
  rw [← step.eq_current, marked] at mark
  by_cases initial : app.spec.initialized = true
  · exact .inl initial
  · have positive : 0 < replacements earlier := by
      simp only [initial, Bool.toNat_false, Bool.toNat_true] at mark
      omega
    exact .inr (List.countP_pos_iff.1 positive)

/-! ## The mark -/

/-- As long as users leave the mark alone, at most one replacement takes effect, and none on an
AppService that was marked from the beginning. A pass only ever replaces the AppService by what it
read, with the mark set; a status is written without the spec; and whatever pass touches an object or
a pod read the AppService after it was marked. -/
theorem marked_once (run : Run KeepsMark (initially app) log σ) :
    (replacements log ≤ 1 ∧ (app.spec.initialized = true → replacements log = 0)) ∧
    (∀ before n sent answer stored after,
      log = before ++ .answered n ⟨.replaceApp sent, answer⟩ stored :: after →
      ∃ ns name o rest, turnsOf n before = ⟨.fetchApp ns name, .ok (some o)⟩ :: rest ∧
        sent = { o with spec := { o.spec with initialized := true } }) ∧
    ((∀ σ₁ σ₂ n sent answer stored, Logs σ₁ (.answered n ⟨.writeStatus sent, answer⟩ stored) σ₂ →
        σ₂.store.current.spec = σ₁.store.current.spec) ∧
      ∀ sent target, (Json.mergePatch target (Client.statusPatch sent)).get? "spec" = target.get? "spec") ∧
    ∀ before n t stored after, log = before ++ .answered n t stored :: after →
      t.call.OnResources ∨ t.call.OnPods →
      ∃ earlier between ns name o read,
        before = earlier ++ .answered n ⟨.fetchApp ns name, .ok (some o)⟩ read :: between ∧
        o.spec.initialized = true ∧ (app.spec.initialized = true ∨ ∃ e ∈ earlier, e.replaces = true) := by
  refine ⟨?once, ?body, ⟨fun _ _ _ _ _ _ step => step.spec_of_writeStatus, spec_of_statusPatch⟩, ?touches⟩
  case once =>
    have mark := run.mark_eq
    have bound : σ.store.current.spec.initialized.toNat ≤ 1 := Bool.toNat_le _
    refine ⟨by omega, fun initial => ?_⟩
    rw [initial, Bool.toNat_true] at mark
    omega
  case body =>
    rintro before n sent answer stored after rfl
    obtain ⟨σ₁, σ₂, first, -, step, -⟩ := run.split
    obtain ⟨p, -, next, -, hhist, path⟩ := first.waiting step
    obtain ⟨ns, o, h', hread, fits⟩ := Pass.fits_of_path path nofun
    exact ⟨ns, _, o, h', hhist.symm.trans hread, (fits.marks sent rfl).1⟩
  case touches =>
    rintro before n ⟨c, answer⟩ stored after rfl touched
    obtain ⟨σ₁, σ₂, first, -, step, -⟩ := run.split
    obtain ⟨p, -, next, -, hhist, path⟩ := first.waiting step
    have notRead : ∀ ns name, c ≠ .fetchApp ns name := by
      rintro ns name rfl
      exact touched.elim id id
    obtain ⟨ns, o, h', hread, fits⟩ := Pass.fits_of_path path notRead
    have marked : o.spec.initialized = true := fits.touches touched
    -- the read of the pass is in the journal, and what it read was stored then
    have hmem : ⟨.fetchApp ns p.key.name, .ok (some o)⟩ ∈ turnsOf n before := by
      rw [← hhist, hread]
      exact List.mem_cons_self
    obtain ⟨read, hentry⟩ := mem_turnsOf.1 hmem
    obtain ⟨earlier, between, rfl⟩ := List.append_of_mem hentry
    exact ⟨earlier, between, ns, _, o, read, rfl, marked, first.replaced_of_read marked⟩

/-- Two passes read an AppService that is not marked. The replacement of the first takes effect though
its answer is lost, that of the second is refused, and a third pass creates the first object. -/
theorem marked_once_of_race : ∃ log n r answer σ,
    Run KeepsMark (initially { Smooth.app with spec := {} })
      (log ++ [.answered n ⟨.create r, answer⟩ false]) σ ∧
    replacements log = 1 ∧ ∃ earlier between ns name o read,
      log = earlier ++ .answered n ⟨.fetchApp ns name, .ok (some o)⟩ read :: between ∧
      o.spec.initialized = true ∧ ∃ e ∈ earlier, e.replaces = true := by
  let app : AppService := { Smooth.app with spec := {} }
  let lost : OperatorError := .execTimeout "demo" 1
  have begun : Run KeepsMark (initially app) _ ⟨⟨app, []⟩, [.start {} app, .start {} app]⟩ :=
    (Run.nil.snoc (keepsMark_started _) (.started {} app)).snoc (keepsMark_started _) (.started {} app)
  have read := (begun.snoc keepsMark_answered (@Logs.answered _ _ [_] [] _ _ _ _ rfl .fetched)).snoc
    keepsMark_answered (@Logs.answered _ _ [] [_] _ _ _ _ rfl .fetched)
  have replaced := (read.snoc keepsMark_answered (@Logs.answered _ _ [_] [] _ _ _ _ rfl
      (@AppStore.Answers.replaced _ _ "2" (.error lost) rfl (by decide) (.inr ⟨lost, rfl⟩)))).snoc
    keepsMark_answered (@Logs.answered _ _ [] [_] _ _ _ _ rfl (.notReplaced lost))
  have third := (replaced.snoc (keepsMark_started _) (.started {} app)).snoc keepsMark_answered
    (@Logs.answered _ _ [] [_, _] _ _ _ _ rfl .fetched)
  have created := third.snoc keepsMark_answered
    (@Logs.answered _ _ [] [_, _] _ _ _ _ rfl (.other (by decide) (Smooth.answer _)))
  obtain ⟨-, -, -, touches⟩ := marked_once created
  obtain ⟨earlier, between, ns, name, o, read, hlog, marked, initial | replaced⟩ :=
    touches _ _ _ _ [] rfl (.inl trivial)
  · cases initial
  · exact ⟨_, _, _, _, _, created, rfl, earlier, between, ns, name, o, read, hlog, marked, replaced⟩

end AppServiceOperator.System
