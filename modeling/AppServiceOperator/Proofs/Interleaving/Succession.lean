import AppServiceOperator.Proofs.Interleaving.Journal
import AppServiceOperator.Proofs.Reconcile.Result
/-!
# Passes one after the other

Where a pass is only started once all others have ended, and nobody else writes the status, the script
does not run cleanly more often than once for every result that could not be stored, and once more
(`migrated_in_succession`). The reason is that the stored status stays the one that a pass read until
the pass writes itself (`InSuccession`), so that only a refused result can leave a clean run without a
stored success (`Accounted`).
-/
namespace AppServiceOperator

open Program (History Path Turn path_take)
open Pass (awaitsResult cleanRuns refusedResults statusWrites Timely timely_of_path)

def RunningPass.Ended (p : RunningPass) : Prop := ∃ r, p.rest = .done r

namespace System

/-- A pass is started when all others have ended. -/
def InTurn (σ : System) : Entry → Prop
  | .started => ∀ p ∈ σ.passes, p.Ended
  | .edited _ | .answered .. => True

theorem inTurn_started {σ : System} (ended : ∀ p ∈ σ.passes, p.Ended) : InTurn σ .started := ended

theorem inTurn_answered (σ : System) (n : Nat) (t : Turn Call.Answer) (stored : Bool) :
    InTurn σ (.answered n t stored) := trivial

/-- A count over the histories of passes. -/
def total (count : History Call.Answer → Nat) : List RunningPass → Nat
  | [] => 0
  | p :: passes => count p.history + total count passes

variable {app : AppService} {σ σ₁ σ' : System} {store : AppStore} {front back : List RunningPass}
  {p : RunningPass} {log : List Entry} {e : Entry}

/-! ## What is stored stays -/

/-- A migration that succeeded stays so. -/
theorem Coherent.succeeded_step (coherent : Coherent σ) (step : Logs σ e σ')
    (succeeded : σ.status.migration = .succeeded) : σ'.status.migration = .succeeded := by
  rcases coherent.status_step (step_iff_logs.2 ⟨e, step⟩) with hsame | change
  · rw [hsame, succeeded]
  · exact change.sticky succeeded

theorem Run.succeeded {allowed : System → Entry → Prop} {before after : List Entry}
    (run : Run allowed (initially app) before σ₁) (later : Run allowed σ₁ after σ)
    (succeeded : σ₁.status.migration = .succeeded) : σ.status.migration = .succeeded := by
  induction later with
  | nil => exact succeeded
  | snoc later _ step ih => exact (run_append.2 ⟨_, run, later⟩).coherent.succeeded_step step ih

/-! ## One pass at a time -/

/-- All passes but the last one have ended, and until that one writes a status the stored one is the
one that it read. -/
structure InSuccession (σ : System) : Prop where
  ended : ∀ p ∈ σ.passes.tail, p.Ended
  unwritten : ∀ p ∈ σ.passes.head?, ∀ ns name o, ⟨.fetchApp ns name, .ok (some o)⟩ ∈ p.history →
    statusWrites p.history = [] → σ.store.current.status = o.status

/-- Only the pass that was started last makes calls. -/
theorem InSuccession.front_eq_nil (h : InSuccession ⟨store, front ++ p :: back⟩) {c : Call}
    {next : c.Answer → Operation (Except OperatorError Action)} (waiting : p.rest = .call c next) :
    front = [] := by
  cases front with
  | nil => rfl
  | cons q front =>
    obtain ⟨r, ended⟩ := h.ended p (by simp)
    cases waiting.symm.trans ended

theorem InSuccession.step (h : InSuccession σ) (ok : InTurn σ e) (step : Logs σ e σ') : InSuccession σ' := by
  cases step with
  | started settings key =>
    refine ⟨ok, ?_⟩
    rintro p ⟨⟩ ns name o ⟨⟩
  | edited => exact ⟨h.ended, h.unwritten⟩
  | @answered store store' front back p c answer next waiting answers =>
    obtain rfl := h.front_eq_nil waiting
    refine ⟨h.ended, ?_⟩
    rintro q ⟨⟩ ns name o read writes
    have none : statusWrites p.history = [] ∧ statusWrites [⟨c, answer⟩] = [] := by
      simpa [RunningPass.resume] using writes
    rcases List.mem_append.1 read with read | read
    · have same := h.unwritten p rfl ns name o read none.1
      cases answers with
      | written => cases none.2
      | _ => exact same
    · cases List.mem_singleton.1 read
      cases answers with
      | fetched => rfl
      | other other => exact absurd trivial other

theorem Run.inSuccession (run : Run InTurn (initially app) log σ) : InSuccession σ := by
  induction run with
  | nil => exact ⟨by simp [initially], by simp [initially]⟩
  | snoc _ ok step ih => exact ih.step ok step

/-- Where a pass looks at a pod, no success is stored. -/
theorem InSuccession.due (h : InSuccession σ) (coherent : Coherent σ) {n : Nat} {t : Turn Call.Answer}
    {stored : Bool} (step : Logs σ (.answered n t stored) σ') (onPods : t.call.OnPods) :
    σ.status.migration ≠ .succeeded := by
  generalize he : Entry.answered n t stored = e at step
  cases step with
  | started => cases he
  | edited => cases he
  | @answered store store' front back p c answer next waiting answers =>
    cases he
    obtain rfl := h.front_eq_nil waiting
    have path := (coherent.knows p (by simp)).path
    rw [waiting] at path
    obtain ⟨-, writes, ns, name, o, read, due⟩ := (timely_of_path path).due onPods
    have same : store.current.status = o.status := h.unwritten p rfl ns name o read writes
    change store.current.migration ≠ .succeeded
    rwa [AppService.migration, AppService.currentStatus_congr same]

/-! ## Clean runs -/

/-- There is one clean run more than refused results only if a success is stored, or is what the pass
writes next. -/
def Accounted (σ : System) : Prop :=
  total cleanRuns σ.passes ≤ total refusedResults σ.passes ∨
    total cleanRuns σ.passes ≤ total refusedResults σ.passes + 1 ∧
      (σ.status.migration = .succeeded ∨ ∃ p ∈ σ.passes.head?, awaitsResult p.history = true)

theorem accounted_cons : Accounted ⟨store, p :: back⟩ ↔
    cleanRuns p.history + total cleanRuns back ≤ refusedResults p.history + total refusedResults back ∨
      cleanRuns p.history + total cleanRuns back ≤
          refusedResults p.history + total refusedResults back + 1 ∧
        (store.current.migration = .succeeded ∨ awaitsResult p.history = true) := by
  have running : (∃ q ∈ (p :: back).head?, awaitsResult q.history = true) ↔
      awaitsResult p.history = true := by simp
  rw [Accounted, total, total, running]
  rfl

section

variable {c : Call} {answer : c.Answer} {next : c.Answer → Operation (Except OperatorError Action)}

theorem accounted_resume : Accounted ⟨store, p.resume answer next :: back⟩ ↔
    cleanRuns p.history + (Turn.completes ⟨c, answer⟩).toNat + total cleanRuns back ≤
        refusedResults p.history + (awaitsResult p.history && Turn.refused ⟨c, answer⟩).toNat +
          total refusedResults back ∨
      cleanRuns p.history + (Turn.completes ⟨c, answer⟩).toNat + total cleanRuns back ≤
          refusedResults p.history + (awaitsResult p.history && Turn.refused ⟨c, answer⟩).toNat +
            total refusedResults back + 1 ∧
        (store.current.migration = .succeeded ∨ Turn.completes ⟨c, answer⟩ = true) := by
  rw [accounted_cons, RunningPass.resume, Pass.cleanRuns_snoc, Pass.refusedResults_snoc,
    Pass.awaitsResult_snoc]

/-- All clean runs before this one were refused, or else a success would be stored. -/
theorem Accounted.completed (h : Accounted ⟨store, p :: back⟩) (awaits : awaitsResult p.history = false)
    (due : store.current.migration ≠ .succeeded) (completes : Turn.completes ⟨c, answer⟩ = true) :
    Accounted ⟨store', p.resume answer next :: back⟩ := by
  have le : cleanRuns p.history + total cleanRuns back ≤
      refusedResults p.history + total refusedResults back := by
    rcases accounted_cons.1 h with le | ⟨-, succeeded | waiting⟩
    · exact le
    · exact absurd succeeded due
    · cases awaits.symm.trans waiting
  refine accounted_resume.2 (.inr ⟨?_, .inr completes⟩)
  rw [completes, Bool.toNat_true]
  omega

/-- The result of a clean run is stored, or one more result is refused. -/
theorem Accounted.recorded {w : AppService} {answer : Except OperatorError AppService}
    {next : Except OperatorError AppService → Operation (Except OperatorError Action)}
    (h : Accounted ⟨store, p :: back⟩) (awaits : awaitsResult p.history = true)
    (succeeded : w.migration = .succeeded) (answers : store.Answers (.writeStatus w) answer store') :
    Accounted ⟨store', @RunningPass.resume p (.writeStatus w) answer next :: back⟩ := by
  have le : cleanRuns p.history + total cleanRuns back ≤
      refusedResults p.history + total refusedResults back + 1 :=
    (accounted_cons.1 h).elim Nat.le_succ_of_le And.left
  rw [accounted_resume, awaits, Bool.true_and]
  cases answers with
  | written current fresh told =>
    rcases told with rfl | ⟨e, rfl⟩
    · exact .inr ⟨le, .inl succeeded⟩
    · left
      change _ + 0 + _ ≤ _ + 1 + _
      omega
  | notWritten e =>
    left
    change _ + 0 + _ ≤ _ + 1 + _
    omega
  | other other => exact absurd trivial other

end

theorem Accounted.step (h : Accounted σ) (coherent : Coherent σ) (succession : InSuccession σ)
    (ok : InTurn σ e) (step : Logs σ e σ') : Accounted σ' := by
  have lasting := coherent.succeeded_step step
  have due (n : Nat) (t : Turn Call.Answer) (stored : Bool) (he : e = .answered n t stored) :=
    succession.due coherent (he ▸ step)
  cases step with
  | @started store passes settings key =>
    refine accounted_cons.2 ?_
    simp only [RunningPass.start, cleanRuns, refusedResults, List.countP_nil, Nat.zero_add]
    refine h.imp id (And.imp_right ?_)
    rintro (succeeded | ⟨p, hp, awaits⟩)
    · exact .inl succeeded
    · -- a pass that ended left no result to write
      have hmem : p ∈ passes := List.mem_of_mem_head? hp
      obtain ⟨r, ended⟩ := ok p hmem
      have path := (coherent.knows p hmem).path
      rw [ended] at path
      cases awaits.symm.trans (Pass.written_of_path path)
  | edited => exact h
  | @answered store store' front back p c answer next waiting answers =>
    obtain rfl := succession.front_eq_nil waiting
    have path := (coherent.knows p (by simp)).path
    rw [waiting] at path
    have timely := timely_of_path path
    rw [List.nil_append] at h ⊢
    by_cases completes : Turn.completes ⟨c, answer⟩ = true
    · have onPods : c.OnPods := Turn.onPods_of_completes completes
      exact h.completed (timely.due onPods).1 (due _ _ _ rfl onPods) completes
    · by_cases awaits : awaitsResult p.history = true
      · obtain ⟨w, rfl, succeeded⟩ := timely.result awaits
        exact h.recorded awaits succeeded answers
      · -- neither a clean run nor the write of its result, so all counts stay as they are
        rw [accounted_cons] at h
        rw [accounted_resume, Bool.eq_false_iff.2 completes, Bool.eq_false_iff.2 awaits, Bool.false_and]
        refine h.imp id (And.imp_right ?_)
        rintro (succeeded | waiting)
        · exact .inl (lasting succeeded)
        · exact absurd waiting awaits

theorem Run.accounted (run : Run InTurn (initially app) log σ) : Accounted σ := by
  induction run with
  | nil => exact .inl (Nat.le_refl _)
  | snoc run ok step ih => exact ih.step run.coherent run.inSuccession ok step

/-- Passes run one after the other, whatever fails and however users edit the spec. Once a success is
stored no pass looks at a pod again. The result of a clean run is written at once; the script runs cleanly
at most once more than such a write was answered with an error, and after an error the pass writes no
other status. -/
theorem migrated_in_succession (run : Run InTurn (initially app) log σ) :
    (∀ before after σ₁, log = before ++ after → Run InTurn (initially app) before σ₁ →
      Run InTurn σ₁ after σ → σ₁.status.migration = .succeeded →
      ∀ n t stored, .answered n t stored ∈ after → ¬ t.call.OnPods) ∧
    total cleanRuns σ.passes ≤ 1 + total refusedResults σ.passes ∧
    ∀ p ∈ σ.passes,
      (∀ before t u after, p.history = before ++ t :: u :: after → t.completes = true →
        ∃ w, u.call = .writeStatus w ∧ w.migration = .succeeded) ∧
      ∀ before w e after, p.history = before ++ ⟨.writeStatus w, .error e⟩ :: after →
        statusWrites after = [] ∧ ∀ w' next, p.rest ≠ .call (.writeStatus w') next := by
  refine ⟨?pods, ?runs, fun p hp => ?_⟩
  case pods =>
    intro before after σ₁ hlog first later succeeded n t stored hmem onPods
    obtain ⟨front, back, rfl⟩ := List.append_of_mem hmem
    obtain ⟨σ₂, σ₃, later, -, step, -⟩ := later.split
    have run : Run InTurn (initially app) (before ++ front) σ₂ := run_append.2 ⟨σ₁, first, later⟩
    exact run.inSuccession.due run.coherent step onPods (first.succeeded later succeeded)
  case runs =>
    have accounted := run.accounted
    rcases accounted with le | ⟨le, -⟩ <;> omega
  have path := (run.coherent.knows p hp).path
  refine ⟨?result, ?writes⟩
  case result =>
    intro before t u after hhist completes
    rw [hhist] at path
    exact Pass.result_of_completes path completes
  case writes =>
    intro before w e after hhist
    rw [hhist] at path
    exact Pass.statusWrites_of_refused path

/-- The result of the first pass is refused, so the second one runs the script again. -/
theorem migrated_again : ∃ log σ, Run InTurn (initially Smooth.app) log σ ∧
    σ.status.migration = .succeeded ∧ total cleanRuns σ.passes = 2 ∧ total refusedResults σ.passes = 1 ∧
    total cleanRuns σ.passes ≤ 1 + total refusedResults σ.passes := by
  have started : Run InTurn (initially Smooth.app) _ ⟨⟨Smooth.app, []⟩, [.start {} Smooth.app]⟩ :=
    Run.nil.snoc (inTurn_started (by simp [initially])) (.started {} Smooth.app)
  have fetched := started.snoc (inTurn_answered _ _ _ _) (@Logs.answered _ _ [] [] _ _ _ _ rfl .fetched)
  have completed := fetched.quiet (path_take Smooth.answer 30 _) (by decide) inTurn_answered
  have refused := completed.snoc (inTurn_answered _ _ _ _)
    (@Logs.answered _ _ [] [] _ _ _ _ rfl (.notWritten (.execTimeout "demo" 1)))
  have ended := refused.quiet (path_take Smooth.answer 1 _) (by decide) inTurn_answered
  have started := ended.snoc (inTurn_started (List.forall_mem_singleton.2 ⟨_, rfl⟩)) (.started {} Smooth.app)
  have fetched := started.snoc (inTurn_answered _ _ _ _) (@Logs.answered _ _ [] [_] _ _ _ _ rfl .fetched)
  have completed := fetched.quiet (path_take Smooth.answer 30 _) (by decide) inTurn_answered
  have migrated := completed.snoc (inTurn_answered _ _ _ _) (@Logs.answered _ _ [] [_] _ _ _ _ rfl
    (@AppStore.Answers.written _ _ "2" _ rfl (by decide) (.inl rfl)))
  exact ⟨_, _, migrated, rfl, by decide +kernel, by decide +kernel, (migrated_in_succession migrated).2.1⟩

end System

end AppServiceOperator
