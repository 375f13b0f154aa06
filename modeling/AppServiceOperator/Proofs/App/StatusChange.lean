import AppServiceOperator.App.Bookkeeping
/-!
# Changes of a status

The four ways in which a pass changes a status (`StatusChange`), and what they keep. A sound status
has the runs of the migration as an audit log, failures first and at most one success at the end,
agrees with it on the migration, and is promoted only after the migration.
-/
namespace AppServiceOperator

namespace Status

/-- What a pass makes of a status. It tries to migrate only where no migration succeeded, and it
only promotes where one did. -/
inductive Change (s : Status) : Status → Prop where
  | migrated (script : String) (due : s.migration ≠ .succeeded) :
      Change s (s.recordMigration script .succeeded)
  | unmigrated (script reason : String) (now : Instant) (due : s.migration ≠ .succeeded) :
      Change s ((s.recordMigration script .failed).recordFailure reason now)
  | failed (reason : String) (now : Instant) : Change s (s.recordFailure reason now)
  | succeeded (action : LastAction) (now : Instant)
      (done : action ≠ .requeueEvent → s.migration = .succeeded) : Change s (s.recordSuccess action now)

/-! ## The audit log -/

/-- The runs are failures, then at most one success, and the migration is what the last one was. -/
def Audited (s : Status) : Prop :=
  ∃ (failures : List MigrationRun) (final : Option MigrationRun),
    s.migrationRuns = failures ++ final.toList ∧ (∀ r ∈ failures, r.status = .failed) ∧
    (∀ r ∈ final, r.status = .succeeded) ∧
    s.migration = (s.migrationRuns.getLast?.map (·.status)).getD .unknown

theorem audited_empty : Audited {} := ⟨[], none, rfl, by simp, by simp, rfl⟩

/-- As long as no migration succeeded, all runs are failures. -/
theorem Audited.all_failed {s : Status} (h : s.Audited) (due : s.migration ≠ .succeeded) :
    ∀ r ∈ s.migrationRuns, r.status = .failed := by
  obtain ⟨failures, final, hruns, hfailed, hfinal, hlast⟩ := h
  cases final with
  | none => rw [hruns]; simpa using hfailed
  | some r =>
    have hr : r.status = .succeeded := hfinal r rfl
    rw [hruns] at hlast
    simp only [Option.toList_some, List.getLast?_append, List.getLast?_singleton, Option.some_or,
      Option.map_some, Option.getD_some] at hlast
    exact absurd (hlast.trans hr) due

theorem Audited.recordMigration {s : Status} (h : s.Audited) (due : s.migration ≠ .succeeded)
    (script : String) {outcome : MigrationStatus} (ho : outcome = .succeeded ∨ outcome = .failed) :
    (s.recordMigration script outcome).Audited := by
  have hfailed := h.all_failed due
  rcases ho with rfl | rfl
  · refine ⟨s.migrationRuns, some ⟨script, .succeeded⟩, rfl, hfailed, by simp, ?_⟩
    simp [Status.recordMigration, due]
  · refine ⟨s.migrationRuns ++ [⟨script, .failed⟩], none, by simp [Status.recordMigration], ?_, by simp, ?_⟩
    · intro r hr
      rcases List.mem_append.1 hr with hr | hr
      · exact hfailed r hr
      · rw [List.mem_singleton.1 hr]
    · simp [Status.recordMigration, due]

theorem Change.audited {s s' : Status} (h : Change s s') (hs : s.Audited) : s'.Audited := by
  cases h with
  | migrated script due => exact hs.recordMigration due script (.inl rfl)
  | unmigrated script reason now due => exact hs.recordMigration due script (.inr rfl)
  | failed reason now => exact hs
  | succeeded action now done => exact hs

/-- No run is lost, and at most one is added. -/
theorem Change.runs {s s' : Status} (h : Change s s') :
    s.migrationRuns <+: s'.migrationRuns ∧ s'.migrationRuns.length ≤ s.migrationRuns.length + 1 := by
  cases h with
  | migrated script due => exact ⟨List.prefix_append _ _, by simp [recordMigration]⟩
  | unmigrated script reason now due =>
    exact ⟨List.prefix_append _ _, by simp [recordMigration, recordFailure]⟩
  | failed reason now => exact ⟨List.prefix_rfl, Nat.le_succ _⟩
  | succeeded action now done => exact ⟨List.prefix_rfl, Nat.le_succ _⟩

theorem Change.sticky {s s' : Status} (h : Change s s') (hs : s.migration = .succeeded) :
    s'.migration = .succeeded := by
  cases h with
  | migrated script due => exact absurd hs due
  | unmigrated script reason now due => exact absurd hs due
  | failed reason now => exact hs
  | succeeded action now done => exact hs

/-! ## Promotion -/

/-- The status says that everything converged. -/
def IsPromoted (s : Status) : Prop := ∃ c ∈ s.conditions, c.type = promoted ∧ c.status = .isTrue

/-- The condition of a type, the first one where there are several. -/
def condition? (s : Status) (type : String) : Option Condition := s.conditions.find? (·.type = type)

theorem find?_put (c : Condition) (cs : List Condition) :
    ∃ t, (c.put cs).find? (·.type = c.type) = some { c with lastTransition := t } := by
  induction cs with
  | nil => exact ⟨c.lastTransition, by simp [Condition.put]⟩
  | cons e cs ih =>
    by_cases he : e.type = c.type
    · rw [Condition.put, if_pos he, Condition.succeed]
      split
      · exact ⟨e.lastTransition, by simp⟩
      · exact ⟨c.lastTransition, by simp⟩
    · rw [Condition.put, if_neg he]
      simpa [he] using ih

theorem condition?_recordFailure (s : Status) (reason : String) (now : Instant) :
    ∃ t, (s.recordFailure reason now).condition? promoted =
      some ⟨promoted, .isFalse, PromotedReason.failed, reason, t⟩ :=
  find?_put ⟨promoted, .isFalse, PromotedReason.failed, reason, s.updateTime now⟩ s.conditions

theorem condition?_recordSuccess (s : Status) {action : LastAction} (h : action ≠ .requeueEvent)
    (now : Instant) :
    ∃ t, (s.recordSuccess action now).condition? promoted =
      some ⟨promoted, .isTrue, PromotedReason.succeeded, "", t⟩ := by
  cases action with
  | requeueEvent => exact absurd rfl h
  | _ => exact find?_put ⟨promoted, .isTrue, PromotedReason.succeeded, "", s.updateTime now⟩ s.conditions

/-- There is no other condition than the one about promotion. -/
def Single (s : Status) : Prop := s.conditions = [] ∨ ∃ c, s.conditions = [c] ∧ c.type = promoted

theorem put_of_single {s : Status} (h : s.Single) {c : Condition} (hc : c.type = promoted) :
    ∃ t, c.put s.conditions = [{ c with lastTransition := t }] := by
  rcases h with h | ⟨e, h, he⟩
  · exact ⟨c.lastTransition, by rw [h]; rfl⟩
  · rw [h, Condition.put, if_pos (he.trans hc.symm), Condition.succeed]
    split
    · exact ⟨e.lastTransition, rfl⟩
    · exact ⟨c.lastTransition, rfl⟩

theorem recordFailure_conditions {s : Status} (h : s.Single) (reason : String) (now : Instant) :
    ∃ c, (s.recordFailure reason now).conditions = [c] ∧ c.type = promoted ∧ c.status = .isFalse := by
  obtain ⟨t, ht⟩ := put_of_single h
    (c := ⟨promoted, .isFalse, PromotedReason.failed, reason, s.updateTime now⟩) rfl
  exact ⟨_, ht, rfl, rfl⟩

theorem recordSuccess_conditions {s : Status} (h : s.Single) (action : LastAction) (now : Instant) :
    ∃ c, (s.recordSuccess action now).conditions = [c] ∧ c.type = promoted ∧
      (c.status = .isTrue → action ≠ .requeueEvent) := by
  have htype : (successCondition action (s.updateTime now)).type = promoted := by cases action <;> rfl
  obtain ⟨t, ht⟩ := put_of_single h htype
  refine ⟨_, ht, htype, ?_⟩
  rintro htrue rfl
  cases htrue

/-- What holds of every status in the store. -/
structure Sound (s : Status) : Prop where
  audited : s.Audited
  single : s.Single
  migrated : s.IsPromoted → s.migration = .succeeded

theorem sound_empty : Sound {} where
  audited := audited_empty
  single := .inl rfl
  migrated := by simp [IsPromoted]

theorem not_isPromoted_recordFailure {s : Status} (h : s.Single) (reason : String) (now : Instant) :
    ¬ (s.recordFailure reason now).IsPromoted := by
  obtain ⟨c, hc, -, hfalse⟩ := recordFailure_conditions h reason now
  simp [IsPromoted, hc, hfalse]

theorem Change.sound {s s' : Status} (h : Change s s') (hs : s.Sound) : s'.Sound := by
  refine ⟨h.audited hs.audited, ?single, ?migrated⟩
  case single =>
    cases h with
    | migrated script due => exact hs.single
    | unmigrated script reason now due =>
      have single : (s.recordMigration script .failed).Single := hs.single
      obtain ⟨c, hc, htype, -⟩ := recordFailure_conditions single reason now
      exact .inr ⟨c, hc, htype⟩
    | failed reason now =>
      obtain ⟨c, hc, htype, -⟩ := recordFailure_conditions hs.single reason now
      exact .inr ⟨c, hc, htype⟩
    | succeeded action now done =>
      obtain ⟨c, hc, htype, -⟩ := recordSuccess_conditions hs.single action now
      exact .inr ⟨c, hc, htype⟩
  case migrated =>
    cases h with
    | migrated script due => intro; simp [recordMigration]
    | unmigrated script reason now due =>
      have single : (s.recordMigration script .failed).Single := hs.single
      exact fun h => absurd h (not_isPromoted_recordFailure single reason now)
    | failed reason now => exact fun h => absurd h (not_isPromoted_recordFailure hs.single reason now)
    | succeeded action now done =>
      rintro ⟨c', hc', -, htrue⟩
      obtain ⟨c, hc, -, haction⟩ := recordSuccess_conditions hs.single action now
      rw [hc, List.mem_singleton] at hc'
      subst hc'
      exact done (haction htrue)

end Status

end AppServiceOperator
