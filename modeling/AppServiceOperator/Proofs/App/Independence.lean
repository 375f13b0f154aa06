import AppServiceOperator.Proofs.App.Backoff
import AppServiceOperator.Proofs.App.ConditionHistory
/-!
# Records do not get in each other's way

What is recorded about the migration and what is recorded about the outcomes of passes are two parts of a
status that have nothing to do with each other. A record changes one part, by a rule that reads that part
only, and so a history of both kinds of records leaves in each part what the records of one kind leave
there, however they alternate (`records_independent`).
-/
namespace AppServiceOperator.Status

/-! ## The two parts -/

/-- What records of outcomes write. -/
def outcomePart (s : Status) : Option ReconcileStatus × Option LastAction × List Condition :=
  (s.reconcile, s.lastAction, s.conditions)

/-- What records of migrations write. -/
def migrationPart (s : Status) : MigrationStatus × List MigrationRun := (s.migration, s.migrationRuns)

/-- The two parts are all that there is. -/
theorem ext_parts {s t : Status} (outcome : s.outcomePart = t.outcomePart)
    (migration : s.migrationPart = t.migrationPart) : s = t := by
  cases s
  cases t
  simp only [outcomePart, migrationPart, Prod.mk.injEq] at outcome migration
  simp [outcome, migration]

def Entry.isMigration : Entry → Bool
  | .migration .. => true
  | _ => false

/-- The records of migrations, in order. -/
def migrations (entries : List Entry) : List Entry := entries.filter (·.isMigration)

/-- The records of outcomes, in order. -/
def outcomes (entries : List Entry) : List Entry := entries.filter (!·.isMigration)

/-! ## One record -/

section

variable {s t : Status} {e : Entry}

theorem outcomePart_enter_of_isMigration (h : e.isMigration = true) :
    (s.enter e).outcomePart = s.outcomePart := by
  cases e with
  | migration script outcome => rfl
  | _ => cases h

theorem migrationPart_enter_of_not_isMigration (h : e.isMigration = false) :
    (s.enter e).migrationPart = s.migrationPart := by
  cases e with
  | migration script outcome => cases h
  | _ => rfl

/-- What a record makes of the one part is decided by that part. -/
theorem outcomePart_enter_congr (h : s.outcomePart = t.outcomePart) :
    (s.enter e).outcomePart = (t.enter e).outcomePart := by
  cases s
  cases t
  simp only [outcomePart, Prod.mk.injEq] at h
  obtain ⟨rfl, rfl, rfl⟩ := h
  cases e <;> rfl

theorem migrationPart_enter_congr (h : s.migrationPart = t.migrationPart) :
    (s.enter e).migrationPart = (t.enter e).migrationPart := by
  cases s
  cases t
  simp only [migrationPart, Prod.mk.injEq] at h
  obtain ⟨rfl, rfl⟩ := h
  cases e <;> rfl

theorem nextDelay_congr (h : s.outcomePart = t.outcomePart) : s.nextDelay = t.nextDelay :=
  congrArg nextRetryDelay (congrArg (·.1) h)

/-- Nothing changes in the migration or in the conditions but the one about promotion. -/
structure SparesMigration (s s' : Status) : Prop where
  migration : s'.migration = s.migration
  migrationRuns : s'.migrationRuns = s.migrationRuns
  conditions : ∀ (i : Nat) (c : Condition), c.type ≠ promoted →
    (s'.conditions[i]? = some c ↔ s.conditions[i]? = some c)

theorem sparesMigration_recordFailure (s : Status) (reason : String) (now : Instant) :
    s.SparesMigration (s.recordFailure reason now) :=
  ⟨rfl, rfl, fun _ _ other => Condition.getElem?_put_eq_some_iff other⟩

theorem sparesMigration_recordSuccess (s : Status) (action : LastAction) (now : Instant) :
    s.SparesMigration (s.recordSuccess action now) := by
  have type : (successCondition action (s.updateTime now)).type = promoted := by cases action <;> rfl
  exact ⟨rfl, rfl, fun _ _ other => Condition.getElem?_put_eq_some_iff (type ▸ other)⟩

end

/-! ## Any number of records -/

/-- The status with the records, the oldest first. -/
def after (s : Status) (entries : List Entry) : Status := entries.foldl enter s

/-- The delays that the failures among the records ask for. -/
def asked (s : Status) : List Entry → List UInt64
  | [] => []
  | e :: entries => (if e.isFailure then [s.nextDelay] else []) ++ (s.enter e).asked entries

theorem outcomes_cons (e : Entry) (entries : List Entry) : outcomes (e :: entries) =
    if e.isMigration then outcomes entries else e :: outcomes entries := by
  cases h : e.isMigration <;> simp [outcomes, h]

theorem migrations_cons (e : Entry) (entries : List Entry) : migrations (e :: entries) =
    if e.isMigration then e :: migrations entries else migrations entries := by
  cases h : e.isMigration <;> simp [migrations, h]

@[simp] theorem outcomes_migrations (entries : List Entry) : outcomes (migrations entries) = [] := by
  simp [outcomes, migrations]

@[simp] theorem migrations_outcomes (entries : List Entry) : migrations (outcomes entries) = [] := by
  simp [outcomes, migrations]

section

variable {s t : Status}

/-- Outcomes are recorded as if no migration had been. -/
theorem outcomePart_after (entries : List Entry) (h : s.outcomePart = t.outcomePart) :
    (s.after entries).outcomePart = (t.after (outcomes entries)).outcomePart := by
  induction entries generalizing s t with
  | nil => exact h
  | cons e entries ih =>
    rw [outcomes_cons]
    split
    · rename_i migration
      exact ih ((outcomePart_enter_of_isMigration migration).trans h)
    · exact ih (outcomePart_enter_congr h)

/-- Migrations are recorded as if no outcome had been. -/
theorem migrationPart_after (entries : List Entry) (h : s.migrationPart = t.migrationPart) :
    (s.after entries).migrationPart = (t.after (migrations entries)).migrationPart := by
  induction entries generalizing s t with
  | nil => exact h
  | cons e entries ih =>
    rw [migrations_cons]
    split
    · exact ih (migrationPart_enter_congr h)
    · rename_i outcome
      exact ih ((migrationPart_enter_of_not_isMigration (Bool.eq_false_iff.2 outcome)).trans h)

theorem asked_outcomes (entries : List Entry) (h : s.outcomePart = t.outcomePart) :
    s.asked entries = t.asked (outcomes entries) := by
  induction entries generalizing s t with
  | nil => rfl
  | cons e entries ih =>
    rw [outcomes_cons]
    split
    · rename_i migration
      have silent : e.isFailure = false := by
        cases e with
        | migration script outcome => rfl
        | _ => cases migration
      rw [asked, silent]
      exact ih ((outcomePart_enter_of_isMigration migration).trans h)
    · rw [asked, asked, nextDelay_congr h, ih (outcomePart_enter_congr h)]

end

/-- The migrations may as well be recorded first, and the outcomes after them. -/
theorem after_eq (s : Status) (entries : List Entry) :
    s.after entries = (s.after (migrations entries)).after (outcomes entries) := by
  have outcome : s.outcomePart = (s.after (migrations entries)).outcomePart := by
    rw [outcomePart_after (migrations entries) rfl, outcomes_migrations]
    rfl
  have migration : ((s.after (migrations entries)).after (outcomes entries)).migrationPart =
      (s.after (migrations entries)).migrationPart := by
    rw [migrationPart_after (outcomes entries) rfl, migrations_outcomes]
    rfl
  exact ext_parts (outcomePart_after entries outcome) ((migrationPart_after entries rfl).trans migration.symm)

/-- A migration and an outcome may be recorded in either order, with the same delay. An outcome changes
nothing but the last outcome, the last action, which only a success changes, and the condition about
promotion; a migration changes nothing but the migration and its runs. So, however the two kinds of records
alternate, the status in the end and the delays on the way are those of the two sequences. -/
theorem records_independent :
    (∀ (s : Status) (script : String) (outcome : MigrationStatus) (reason : String) (now : Instant),
      (s.recordMigration script outcome).recordFailure reason now =
          (s.recordFailure reason now).recordMigration script outcome ∧
        (s.recordMigration script outcome).nextDelay = s.nextDelay) ∧
    (∀ (s : Status) (script : String) (outcome : MigrationStatus) (action : LastAction) (now : Instant),
      (s.recordMigration script outcome).recordSuccess action now =
        (s.recordSuccess action now).recordMigration script outcome) ∧
    (∀ (s : Status) (reason : String) (now : Instant),
      s.SparesMigration (s.recordFailure reason now) ∧
        (s.recordFailure reason now).lastAction = s.lastAction) ∧
    (∀ (s : Status) (action : LastAction) (now : Instant),
      s.SparesMigration (s.recordSuccess action now)) ∧
    (∀ (s : Status) (script : String) (outcome : MigrationStatus),
      (s.recordMigration script outcome).reconcile = s.reconcile ∧
        (s.recordMigration script outcome).lastAction = s.lastAction ∧
        (s.recordMigration script outcome).conditions = s.conditions) ∧
    ∀ (s : Status) (entries entries' : List Entry), migrations entries = migrations entries' →
      outcomes entries = outcomes entries' →
      s.after entries = s.after entries' ∧ s.asked entries = s.asked entries' := by
  refine ⟨fun s script outcome reason now => ⟨rfl, rfl⟩, fun s script outcome action now => rfl,
    fun s reason now => ⟨s.sparesMigration_recordFailure reason now, rfl⟩, sparesMigration_recordSuccess,
    fun s script outcome => ⟨rfl, rfl, rfl⟩, fun s entries entries' hmigrations houtcomes => ?_⟩
  constructor
  · rw [s.after_eq entries, s.after_eq entries', hmigrations, houtcomes]
  · rw [asked_outcomes entries rfl, asked_outcomes entries' rfl, houtcomes]

/-- Two passes fail while the migration fails and then succeeds. Whether the migration was recorded between
the failures or after them, the second failure asks for twice the delay of the first. -/
theorem records_independent_of_retry :
    let s : Status := { conditions := [⟨"Degraded", .isTrue, "Slow", "", ⟨0, 0⟩⟩] }
    let entries : List Entry := [.migration "update.sql" .failed, .failure "no table" ⟨10, 0⟩,
      .migration "update.sql" .succeeded, .failure "no gateway" ⟨20, 0⟩]
    let entries' : List Entry := [.failure "no table" ⟨10, 0⟩, .failure "no gateway" ⟨20, 0⟩,
      .migration "update.sql" .failed, .migration "update.sql" .succeeded]
    migrations entries = migrations entries' ∧ outcomes entries = outcomes entries' ∧
      s.after entries = s.after entries' ∧ s.asked entries = s.asked entries' ∧ s.asked entries = [1, 2] := by
  intro s entries entries'
  have hmigrations : migrations entries = migrations entries' := by decide
  have houtcomes : outcomes entries = outcomes entries' := by decide
  obtain ⟨-, -, -, -, -, interleaved⟩ := records_independent
  obtain ⟨status, delays⟩ := interleaved s entries entries' hmigrations houtcomes
  exact ⟨hmigrations, houtcomes, status, delays, by decide⟩

end AppServiceOperator.Status
