import AppServiceOperator.Proofs.Interleaving.System
import AppServiceOperator.Proofs.Reconcile.Sequence
/-!
# Journals of interleaved passes

A run of the system with everything that happens in it: `Logs` is a step together with its entry in
the journal, and `Run` is any number of them, each of which is allowed where it happens. Passes are
numbered in the order in which they were started, so that what happened to a pass can be found in
the journal (`Run.numbered`): the journal interleaves the histories of the passes.
-/
namespace AppServiceOperator

open Program (History Path Turn)

/-- Whether the later store holds a version that the earlier one did not. -/
def AppStore.grew (earlier later : AppStore) : Bool := earlier.past.length < later.past.length

theorem AppStore.grew_install (s : AppStore) (version : String) (metadata : ObjectMeta) (spec : Spec)
    (status : Option Status) : s.grew (s.install version metadata spec status) = true := by
  simp [grew, install, objects]

theorem AppStore.grew_self (s : AppStore) : s.grew s = false := by simp [grew]

namespace System

/-! ## Entries -/

/-- What happens in a step. -/
inductive Entry where
  | started
  | edited (spec : Spec)
  /-- A call of a pass is answered. The pass is named by the number of those that were started before
  it, and `stored` tells whether the call took effect on the stored AppService. -/
  | answered (pass : Nat) (turn : Turn Call.Answer) (stored : Bool)

/-- A step with its entry. -/
inductive Logs : System → Entry → System → Prop where
  | started {store : AppStore} {passes : List RunningPass} (settings : PassSettings) (key : AppService) :
      Logs ⟨store, passes⟩ .started ⟨store, .start settings key :: passes⟩
  | edited {store : AppStore} {passes : List RunningPass} {version : String} (metadata : ObjectMeta)
      (spec : Spec) (fresh : store.Fresh version) :
      Logs ⟨store, passes⟩ (.edited spec) ⟨store.install version metadata spec store.current.status, passes⟩
  | answered {store store' : AppStore} {front back : List RunningPass} {p : RunningPass} {c : Call}
      {answer : c.Answer} {next : c.Answer → Operation (Except OperatorError Action)}
      (waiting : p.rest = .call c next) (answers : store.Answers c answer store') :
      Logs ⟨store, front ++ p :: back⟩ (.answered back.length ⟨c, answer⟩ (store.grew store'))
        ⟨store', front ++ p.resume answer next :: back⟩

/-- Every step has an entry, and only steps have one. -/
theorem step_iff_logs {σ σ' : System} : Step σ σ' ↔ ∃ e, Logs σ e σ' := by
  constructor
  · rintro (⟨settings, key⟩ | ⟨metadata, spec, fresh⟩ | ⟨waiting, answers⟩)
    · exact ⟨_, .started settings key⟩
    · exact ⟨_, .edited metadata spec fresh⟩
    · exact ⟨_, .answered waiting answers⟩
  · rintro ⟨e, ⟨settings, key⟩ | ⟨metadata, spec, fresh⟩ | ⟨waiting, answers⟩⟩
    · exact .start settings key
    · exact .edit metadata spec fresh
    · exact .call waiting answers

namespace Entry

/-- The turn of the pass with the number. -/
def turn? (pass : Nat) : Entry → Option (Turn Call.Answer)
  | .answered n turn _ => if n = pass then some turn else none
  | _ => none

@[simp] theorem turn?_started (pass : Nat) : started.turn? pass = none := rfl

@[simp] theorem turn?_edited (pass : Nat) (spec : Spec) : (edited spec).turn? pass = none := rfl

@[simp] theorem turn?_answered (pass n : Nat) (turn : Turn Call.Answer) (stored : Bool) :
    (answered n turn stored).turn? pass = if n = pass then some turn else none := rfl

end Entry

/-- What happened to the pass with the number. -/
def turnsOf (pass : Nat) (log : List Entry) : History Call.Answer := log.filterMap (Entry.turn? pass)

theorem turnsOf_snoc (pass : Nat) (log : List Entry) (e : Entry) :
    turnsOf pass (log ++ [e]) = turnsOf pass log ++ (e.turn? pass).toList := by
  rw [turnsOf, List.filterMap_append]
  cases h : e.turn? pass <;> simp [turnsOf, h]

theorem mem_turnsOf {pass : Nat} {log : List Entry} {t : Turn Call.Answer} :
    t ∈ turnsOf pass log ↔ ∃ stored, .answered pass t stored ∈ log := by
  constructor
  · intro ht
    obtain ⟨e, he, hturn⟩ := List.mem_filterMap.1 ht
    unfold Entry.turn? at hturn
    split at hturn
    · rename_i n turn stored
      split at hturn
      · rename_i hn
        cases hturn
        exact ⟨stored, hn ▸ he⟩
      · cases hturn
    · cases hturn
  · rintro ⟨stored, he⟩
    exact List.mem_filterMap.2 ⟨_, he, by simp [Entry.turn?]⟩

/-! ## Runs -/

/-- An AppService without any passes. -/
def initially (app : AppService) : System := ⟨⟨app, []⟩, []⟩

/-- Steps from one state to another, with what is written down about them. -/
inductive Run (allowed : System → Entry → Prop) (σ : System) : List Entry → System → Prop where
  | nil : Run allowed σ [] σ
  | snoc {log : List Entry} {σ₁ σ₂ : System} {e : Entry} (run : Run allowed σ log σ₁) (ok : allowed σ₁ e)
      (step : Logs σ₁ e σ₂) : Run allowed σ (log ++ [e]) σ₂

section

variable {allowed : System → Entry → Prop} {app : AppService} {σ σ' : System} {log log' : List Entry}
  {e : Entry}

theorem run_append : Run allowed σ (log ++ log') σ' ↔
    ∃ σ₁, Run allowed σ log σ₁ ∧ Run allowed σ₁ log' σ' := by
  constructor
  · intro run
    generalize hall : log ++ log' = all at run
    induction run generalizing log' with
    | nil =>
      obtain ⟨rfl, rfl⟩ := List.append_eq_nil_iff.1 hall
      exact ⟨_, .nil, .nil⟩
    | @snoc log₁ σ₁ σ₂ e run ok step ih =>
      rcases List.eq_nil_or_concat log' with rfl | ⟨front, last, rfl⟩
      · rw [List.append_nil] at hall
        subst hall
        exact ⟨σ₂, .snoc run ok step, .nil⟩
      · rw [List.concat_eq_append, ← List.append_assoc] at hall
        obtain ⟨hfront, hlast⟩ := List.append_inj' hall rfl
        cases hlast
        obtain ⟨σ₀, first, rest⟩ := ih hfront
        rw [List.concat_eq_append]
        exact ⟨σ₀, first, rest.snoc ok step⟩
  · rintro ⟨σ₁, first, rest⟩
    induction rest with
    | nil => rwa [List.append_nil]
    | snoc _ ok step ih =>
      rw [← List.append_assoc]
      exact ih.snoc ok step

/-- The state in which something happened. -/
theorem Run.split (run : Run allowed σ (log ++ e :: log') σ') :
    ∃ σ₁ σ₂, Run allowed σ log σ₁ ∧ allowed σ₁ e ∧ Logs σ₁ e σ₂ ∧ Run allowed σ₂ log' σ' := by
  rw [List.append_cons] at run
  obtain ⟨σ₂, first, rest⟩ := run_append.1 run
  generalize hall : log ++ [e] = all at first
  cases first with
  | nil => simp at hall
  | snoc first ok step =>
    obtain ⟨rfl, hlast⟩ := List.append_inj' hall rfl
    cases hlast
    exact ⟨_, σ₂, first, ok, step, rest⟩

theorem Run.coherent (run : Run allowed (initially app) log σ) : Coherent σ := by
  induction run with
  | nil => exact ⟨by simp [initially, AppStore.objects], by simp [initially]⟩
  | snoc _ _ step ih => exact ih.step (step_iff_logs.2 ⟨_, step⟩)

/-! ## The passes in the journal -/

/-- The turns of every pass are in the journal under its number. -/
structure Numbered (log : List Entry) (σ : System) : Prop where
  bound : ∀ n turn stored, .answered n turn stored ∈ log → n < σ.passes.length
  history : ∀ front p back, σ.passes = front ++ p :: back → p.history = turnsOf back.length log

theorem Numbered.turnsOf_next (h : Numbered log σ) : turnsOf σ.passes.length log = [] := by
  refine List.eq_nil_iff_forall_not_mem.2 fun t ht => ?_
  obtain ⟨stored, he⟩ := mem_turnsOf.1 ht
  exact Nat.lt_irrefl _ (h.bound _ t stored he)

theorem Numbered.step (h : Numbered log σ) (step : Logs σ e σ') : Numbered (log ++ [e]) σ' := by
  cases step with
  | @started store passes settings key =>
    refine ⟨fun n turn stored he => ?_, fun front p back hsplit => ?_⟩
    · rcases List.mem_append.1 he with he | he
      · exact Nat.lt_succ_of_lt (h.bound n turn stored he)
      · cases List.mem_singleton.1 he
    · rw [turnsOf_snoc, Entry.turn?_started, Option.toList_none, List.append_nil]
      cases front with
      | nil =>
        obtain ⟨rfl, rfl⟩ := List.cons.inj hsplit
        exact h.turnsOf_next.symm
      | cons first front => exact h.history front p back (List.cons.inj hsplit).2
  | @edited store passes version metadata spec fresh =>
    refine ⟨fun n turn stored he => ?_, fun front p back hsplit => ?_⟩
    · rcases List.mem_append.1 he with he | he
      · exact h.bound n turn stored he
      · cases List.mem_singleton.1 he
    · rw [turnsOf_snoc, Entry.turn?_edited, Option.toList_none, List.append_nil]
      exact h.history front p back hsplit
  | @answered store store' front₀ back₀ q c answer next waiting answers =>
    refine ⟨fun n turn stored he => ?_, fun front p back hsplit => ?_⟩
    · simp only [List.length_append, List.length_cons]
      rcases List.mem_append.1 he with he | he
      · simpa using h.bound n turn stored he
      · cases List.mem_singleton.1 he
        omega
    · -- the pass is one of those started later, or the one that was answered, or an earlier one
      have other (hne : back₀.length ≠ back.length) :
          turnsOf back.length (log ++ [.answered back₀.length ⟨c, answer⟩ (store.grew store')]) =
            turnsOf back.length log := by
        rw [turnsOf_snoc, Entry.turn?_answered, if_neg hne, Option.toList_none, List.append_nil]
      rcases cases_of_append hsplit with ⟨between, rfl, rfl⟩ | ⟨between, rfl, hback⟩
      · rw [other (by simp; omega), h.history front p (between ++ q :: back₀) (by simp)]
        simp
      · cases between with
        | nil =>
          obtain ⟨rfl, rfl⟩ := List.cons.inj hback
          rw [turnsOf_snoc, Entry.turn?_answered, if_pos rfl, Option.toList_some,
            ← h.history front₀ q back₀ rfl]
          rfl
        | cons first between =>
          obtain ⟨-, rfl⟩ := List.cons.inj hback
          rw [other (by simp; omega)]
          exact h.history (front₀ ++ q :: between) p back (by simp)

theorem Run.numbered (run : Run allowed (initially app) log σ) : Numbered log σ := by
  induction run with
  | nil =>
    refine ⟨by simp, fun front p back hsplit => ?_⟩
    cases front <;> cases hsplit
  | snoc _ _ step ih => exact ih.step step

/-- A call in the journal was made by a pass that had come so far, with all that had happened to it
written down before. -/
theorem Run.waiting {n : Nat} {c : Call} {answer : c.Answer} {stored : Bool}
    (run : Run allowed (initially app) log σ) (step : Logs σ (.answered n ⟨c, answer⟩ stored) σ') :
    ∃ p ∈ σ.passes, ∃ next, p.rest = .call c next ∧ p.history = turnsOf n log ∧
      Path (Pass.reconcile p.settings p.key) p.history (.call c next) := by
  have numbered := run.numbered
  have coherent := run.coherent
  generalize he : Entry.answered n ⟨c, answer⟩ stored = entry at step
  cases step with
  | started => cases he
  | edited => cases he
  | @answered store store' front back p c' answer' next waiting answers =>
    cases he
    have path := (coherent.knows p (by simp)).path
    rw [waiting] at path
    exact ⟨p, by simp, next, waiting, numbered.history front p back rfl, path⟩

/-! ## Building runs -/

/-- Calls that are not about the AppService can be answered in any way. -/
theorem Run.quiet {store : AppStore} {settings : PassSettings} {key : AppService}
    {before h : History Call.Answer} {rest rest' : Operation (Except OperatorError Action)}
    {back : List RunningPass} (run : Run allowed σ log ⟨store, ⟨settings, key, before, rest⟩ :: back⟩)
    (path : Path rest h rest') (quiet : ∀ t ∈ h, ¬ t.call.OnApp)
    (ok : ∀ σ n turn stored, allowed σ (.answered n turn stored)) :
    Run allowed σ (log ++ h.map fun t => .answered back.length t false)
      ⟨store, ⟨settings, key, before ++ h, rest'⟩ :: back⟩ := by
  induction path generalizing before log with
  | here => simpa using run
  | @step c next h rest' answer path ih =>
    obtain ⟨hcall, quiet⟩ := List.forall_mem_cons.1 quiet
    have first : Logs ⟨store, [] ++ ⟨settings, key, before, .call c next⟩ :: back⟩
        (.answered back.length ⟨c, answer⟩ (store.grew store))
        ⟨store, [] ++ ⟨settings, key, before ++ [⟨c, answer⟩], next answer⟩ :: back⟩ :=
      .answered rfl (.other hcall answer)
    rw [AppStore.grew_self] at first
    rw [List.map_cons, List.append_cons, List.append_cons before]
    exact ih (run.snoc (ok _ _ _ _) first) quiet

end

end System

end AppServiceOperator
