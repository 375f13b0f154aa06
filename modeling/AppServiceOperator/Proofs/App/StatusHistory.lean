import AppServiceOperator.Proofs.App.StatusChange
import Mathlib.Logic.Relation
/-!
# Statuses over time

Whatever outcomes and attempts are recorded one after the other, with clocks that may go backwards,
the fields of a status keep agreeing with each other (`Consistent`): the one condition says the same
as the last outcome, the delay after a failure is within its bounds, and nothing is dated later than
the last update. No record moves a time backwards (`Advances`). All of it is
`consistent_of_booked`.
-/
namespace AppServiceOperator

open Relation (ReflTransGen)

/-! ## Delays -/

/-- Doubling stops at the largest number. -/
theorem toNat_saturatingDouble (n : UInt64) :
    (saturatingDouble n).toNat = min (2 * n.toNat) 18446744073709551615 := by
  have hn : n.toNat < 18446744073709551616 := n.toNat_lt
  unfold saturatingDouble
  split
  · rename_i small
    have hsmall : n.toNat < 9223372036854775808 := UInt64.lt_iff_toNat_lt.1 small
    rw [UInt64.toNat_mul, Nat.mod_eq_of_lt (by simp; omega)]
    simp
    omega
  · rename_i large
    have hlarge : 9223372036854775808 ≤ n.toNat :=
      Nat.le_of_not_lt fun h => large (UInt64.lt_iff_toNat_lt.2 h)
    simp
    omega

/-- A delay is at least a second and at most six hours. -/
def InBounds (delay : UInt64) : Prop := 1 ≤ delay ∧ delay ≤ 21600

theorem inBounds_initialRetryDelay : InBounds initialRetryDelay := by
  unfold InBounds
  decide

theorem inBounds_min_saturatingDouble {delay : UInt64} (h : 1 ≤ delay) :
    InBounds (min (saturatingDouble delay) maxRetryDelay) := by
  have hdelay : 1 ≤ delay.toNat := UInt64.le_iff_toNat_le.1 h
  have hdouble : 1 ≤ saturatingDouble delay := by
    rw [UInt64.le_iff_toNat_le, toNat_saturatingDouble]
    have hone : (1 : UInt64).toNat = 1 := rfl
    omega
  exact ⟨Std.le_min_iff.2 ⟨hdouble, by decide⟩, Std.min_le_right⟩

namespace Status

/-! ## Records of a pass -/

/-- One record that passes make in a status. -/
inductive Booked (s : Status) : Status → Prop where
  | failure (reason : String) (now : Instant) : Booked s (s.recordFailure reason now)
  | success (action : LastAction) (now : Instant) : Booked s (s.recordSuccess action now)
  | migration (script : String) (outcome : MigrationStatus) : Booked s (s.recordMigration script outcome)

/-- The condition says the same as the outcome, of which it is a summary for others. -/
inductive Reflects (lastAction : Option LastAction) (r : ReconcileStatus) (c : Condition) : Prop where
  | failed (delay : UInt64) (outcome : r.status = .failed) (delayed : r.retryAfterSeconds = some delay)
      (bounds : InBounds delay) (status : c.status = .isFalse) (reason : c.reason = PromotedReason.failed)
      (message : c.message = r.reason)
  | waiting (outcome : r.status = .converged) (unexplained : r.reason = "")
      (undelayed : r.retryAfterSeconds = none) (action : lastAction = some .requeueEvent)
      (status : c.status = .unknown) (reason : c.reason = PromotedReason.waiting)
  | succeeded (action : LastAction) (outcome : r.status = .converged) (unexplained : r.reason = "")
      (undelayed : r.retryAfterSeconds = none) (acted : lastAction = some action)
      (ready : action ≠ .requeueEvent) (status : c.status = .isTrue)
      (reason : c.reason = PromotedReason.succeeded)

/-- The fields of the status agree with each other. -/
structure Consistent (s : Status) : Prop where
  /-- Without an outcome there is no condition. -/
  unset : s.reconcile = none → s.conditions = []
  /-- With one there is just the one about promotion, which changed at the last update or before. -/
  set : ∀ r, s.reconcile = some r → ∃ c, s.conditions = [c] ∧ c.type = promoted ∧
    Reflects s.lastAction r c ∧ c.lastTransition ≤ r.lastUpdate

theorem consistent_empty : Consistent {} := ⟨fun _ => rfl, nofun⟩

/-- Of the two times in a status, none is earlier in the later one. -/
structure Advances (s s' : Status) : Prop where
  update : ∀ r, s.reconcile = some r → ∃ r', s'.reconcile = some r' ∧ r.lastUpdate ≤ r'.lastUpdate
  transition : ∀ c, s.condition? promoted = some c →
    ∃ c', s'.condition? promoted = some c' ∧ c.lastTransition ≤ c'.lastTransition

/-! ## One record -/

section

variable {s s' : Status}

theorem lastUpdate_le_updateTime {r : ReconcileStatus} (h : s.reconcile = some r) (now : Instant) :
    r.lastUpdate ≤ s.updateTime now := by
  unfold updateTime
  rw [h]
  exact Instant.le_latest_left _ _

theorem Consistent.inBounds_nextDelay (h : s.Consistent) : InBounds s.nextDelay := by
  unfold nextDelay nextRetryDelay
  split
  · rename_i r delay _ _ hr
    obtain ⟨c, -, -, reflects, -⟩ := h.set _ hr
    cases reflects with
    | failed delay' outcome delayed bounds =>
      cases delayed
      exact inBounds_min_saturatingDouble bounds.1
    | waiting outcome => cases outcome
    | succeeded action outcome => cases outcome
  · exact inBounds_initialRetryDelay

/-- Where a condition about promotion is set at the time of an update, it is the only one, dated at
that time or, if it says the same as before, at the earlier one. -/
theorem Consistent.put_conditions (h : s.Consistent) {c : Condition} {now : Instant}
    (htype : c.type = promoted) (htime : c.lastTransition = s.updateTime now) :
    ∃ t, c.put s.conditions = [{ c with lastTransition := t }] ∧ t ≤ s.updateTime now ∧
      ∀ e ∈ s.conditions, e.lastTransition ≤ t := by
  cases hr : s.reconcile with
  | none =>
    rw [h.unset hr]
    exact ⟨c.lastTransition, rfl, htime ▸ Instant.le_refl _, by simp⟩
  | some r =>
    obtain ⟨e, hconditions, he, -, dated⟩ := h.set r hr
    have earlier : e.lastTransition ≤ s.updateTime now :=
      Instant.le_trans dated (lastUpdate_le_updateTime hr now)
    rw [hconditions, Condition.put, if_pos (he.trans htype.symm), Condition.succeed]
    split
    · exact ⟨e.lastTransition, rfl, earlier, by simp [Instant.le_refl]⟩
    · exact ⟨c.lastTransition, rfl, htime ▸ Instant.le_refl _, by simpa [htime] using earlier⟩

/-- An outcome that is recorded with a condition that reflects it leaves a consistent status, in which
no time is earlier. -/
theorem Consistent.record (h : s.Consistent) {r : ReconcileStatus} {c : Condition} {now : Instant}
    (htype : c.type = promoted) (htime : c.lastTransition = s.updateTime now)
    (reconcile : s'.reconcile = some r) (hupdate : r.lastUpdate = s.updateTime now)
    (conditions : s'.conditions = c.put s.conditions)
    (reflects : ∀ t, Reflects s'.lastAction r { c with lastTransition := t }) :
    s'.Consistent ∧ s.Advances s' := by
  obtain ⟨t, hput, dated, later⟩ := h.put_conditions htype htime
  rw [hput] at conditions
  refine ⟨⟨fun unset => ?_, fun r' set => ?_⟩, ⟨fun r' set => ?_, fun e he => ?_⟩⟩
  · rw [reconcile] at unset
    cases unset
  · rw [reconcile] at set
    cases set
    exact ⟨_, conditions, htype, reflects t, hupdate ▸ dated⟩
  · exact ⟨r, reconcile, hupdate ▸ lastUpdate_le_updateTime set now⟩
  · refine ⟨{ c with lastTransition := t }, ?_, later e (List.mem_of_find?_eq_some he)⟩
    rw [condition?, conditions, List.find?_cons_of_pos (by simpa using htype)]

/-- Every record leaves a consistent status consistent, and moves no time backwards. -/
theorem Consistent.booked (h : s.Consistent) (booked : Booked s s') : s'.Consistent ∧ s.Advances s' := by
  cases booked with
  | failure reason now =>
    refine h.record (c := ⟨promoted, .isFalse, PromotedReason.failed, reason, s.updateTime now⟩)
      rfl rfl rfl rfl rfl fun t => ?_
    exact .failed s.nextDelay rfl rfl h.inBounds_nextDelay rfl rfl rfl
  | success action now =>
    -- the condition depends on whether the pass waits for the database
    refine h.record (c := successCondition action (s.updateTime now)) ?_ ?_ rfl rfl rfl fun t => ?_
    · cases action <;> rfl
    · cases action <;> rfl
    · cases action with
      | requeueEvent => exact .waiting rfl rfl rfl rfl rfl rfl
      | migrationStarted => exact .succeeded .migrationStarted rfl rfl rfl rfl nofun rfl rfl
      | noAction => exact .succeeded .noAction rfl rfl rfl rfl nofun rfl rfl
  | migration script outcome =>
    refine ⟨⟨h.unset, h.set⟩, ⟨fun r hr => ⟨r, hr, Instant.le_refl _⟩, fun c hc => ?_⟩⟩
    exact ⟨c, hc, Instant.le_refl _⟩

/-! ## Any number of records -/

/-- Whatever is recorded from the empty status on, the fields agree with each other, and with every
further record no time moves backwards. -/
theorem consistent_of_booked (h : ReflTransGen Booked {} s) :
    s.Consistent ∧ ∀ s', Booked s s' → s.Advances s' := by
  have consistent : s.Consistent := by
    induction h with
    | refl => exact consistent_empty
    | tail _ booked ih => exact (ih.booked booked).1
  exact ⟨consistent, fun s' booked => (consistent.booked booked).2⟩

end

/-- Two failures, the second by a clock that went back: the delay has doubled, and both times are those
of the first. A success by a clock that is behind as well moves neither of them back. -/
theorem consistent_of_two_failures :
    let s : Status := ((({} : Status).recordFailure "no database" ⟨60, 0⟩).recordMigration "update.sql" .failed)
      |>.recordFailure "no gateway" ⟨0, 0⟩
    s.Consistent ∧
      s.reconcile = some ⟨.failed, ⟨60, 0⟩, "no gateway", some 2⟩ ∧
      s.conditions = [⟨promoted, .isFalse, PromotedReason.failed, "no gateway", ⟨60, 0⟩⟩] ∧
      s.Advances (s.recordSuccess .requeueEvent ⟨0, 0⟩) := by
  intro s
  have booked : ReflTransGen Booked {} s :=
    .tail (.tail (.single (.failure _ _)) (.migration _ _)) (.failure _ _)
  obtain ⟨consistent, advances⟩ := consistent_of_booked booked
  exact ⟨consistent, by decide, by decide, advances _ (.success _ _)⟩

end Status

end AppServiceOperator
