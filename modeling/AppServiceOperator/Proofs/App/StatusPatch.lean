import AppServiceOperator.App.Bookkeeping
import AppServiceOperator.Cluster.Client
import AppServiceOperator.Proofs.Json.Record
import Mathlib.Logic.Relation
/-!
# Statuses on the wire

A status is written as a merge patch, and a patch cannot take a member away that it does not name.
That nothing goes stale all the same is `status_write_lossless`: a field that is not written is
empty, whatever is recorded in a status leaves a field filled that was filled before (`Grows`), so
what is stored for a field that is not written reads as empty. The one member that goes back to
empty, the delay of the last outcome, is written as a null.
-/
namespace AppServiceOperator

open Relation (TransGen)

/-! ## Parts of a status -/

instance : LawfulEnumeration ReconcileState := ⟨fun s => by cases s <;> rfl⟩

instance : LawfulEnumeration MigrationStatus := ⟨fun s => by cases s <;> rfl⟩

instance : LawfulEnumeration LastAction := ⟨fun s => by cases s <;> rfl⟩

instance : LawfulEnumeration ConditionStatus := ⟨fun s => by cases s <;> rfl⟩

/-- The instant is read again from its timestamp. -/
def Instant.Readable (t : Instant) : Prop := Timestamp.read? (Timestamp.write t) = some t

theorem Instant.Readable.ofJson?_toJson {t : Instant} (h : t.Readable) :
    Timestamp.ofJson? (Timestamp.toJson t) = some t := h

theorem Condition.ofJson?_toJson {c : Condition} (h : c.lastTransition.Readable) :
    Condition.ofJson? c.toJson = some c := by
  simp [Condition.ofJson?, Condition.toJson, Json.fields?, Dictionary.get?_cons, Json.str?,
    h.ofJson?_toJson]

theorem MigrationRun.ofJson?_toJson (r : MigrationRun) : MigrationRun.ofJson? r.toJson = some r := by
  simp [MigrationRun.ofJson?, MigrationRun.toJson, Json.fields?, Dictionary.get?_cons, Json.str?]

namespace ReconcileStatus

/-- What an outcome is written as. -/
def members (r : ReconcileStatus) : Members :=
  [("lastUpdate", Timestamp.toJson r.lastUpdate), ("reason", .str r.reason),
    ("retryAfterSeconds", .ofOption (r.retryAfterSeconds.map fun n => .int n.toNat)),
    ("status", Enumeration.toJson r.status)]

theorem toJson_eq (r : ReconcileStatus) : r.toJson = .obj r.members := rfl

theorem sorted_members (r : ReconcileStatus) : Dictionary.Sorted r.members := by
  simp +decide [Dictionary.sorted_iff_ascending, members]

/-- The delay is read as it was written; where there is none, what was stored is taken away. -/
theorem delay_mergePatch (r : ReconcileStatus) (target : Json) :
    Json.optional Json.word? ((target.mergePatch r.toJson).get? "retryAfterSeconds") =
      some r.retryAfterSeconds := by
  cases hd : r.retryAfterSeconds with
  | none =>
    have hmem : ("retryAfterSeconds", Json.null) ∈ r.members := by simp [members, hd, Json.ofOption]
    rw [toJson_eq, Json.get?_mergePatch_of_null r.sorted_members hmem]
    rfl
  | some n =>
    have hmem : ("retryAfterSeconds", Json.int n.toNat) ∈ r.members := by
      simp [members, hd, Json.ofOption]
    rw [toJson_eq, Json.get?_mergePatch_of_mem r.sorted_members hmem (by simp), Json.mergePatch_int]
    simp [Json.optional, Json.word?_ofNat]

/-- An outcome is read as it was written, whatever it was merged into. -/
theorem ofJson?_mergePatch {r : ReconcileStatus} (h : r.lastUpdate.Readable) (target : Json) :
    ofJson? (target.mergePatch r.toJson) = some r := by
  have hupdate : (target.mergePatch r.toJson).get? "lastUpdate" = some (Timestamp.toJson r.lastUpdate) :=
    Json.get?_mergePatch_of_text r.sorted_members (by simp [Timestamp.toJson])
  have hreason : (target.mergePatch r.toJson).get? "reason" = some (.str r.reason) :=
    Json.get?_mergePatch_of_text r.sorted_members (by simp)
  have hstatus : (target.mergePatch r.toJson).get? "status" = some (Enumeration.toJson r.status) :=
    Json.get?_mergePatch_of_text r.sorted_members (by simp [Enumeration.toJson])
  have hfields := Json.fields?_mergePatch_obj target r.members
  rw [← toJson_eq] at hfields
  simp [ofJson?, hfields, hupdate, hreason, hstatus, delay_mergePatch, h.ofJson?_toJson, Json.defaulted,
    Json.str?]

end ReconcileStatus

namespace Status

/-! ## What is stored for a status -/

/-- What is found under the names of the fields is read as the status. -/
structure Found (found : String → Option Json) (s : Status) : Prop where
  reconcile : Json.optional ReconcileStatus.ofJson? (found "reconcileStatus") = some s.reconcile
  migration : Json.defaulted .unknown Enumeration.ofJson? (found "migrationStatus") = some s.migration
  migrationRuns :
    Json.defaulted [] (Json.list? MigrationRun.ofJson?) (found "migrationRuns") = some s.migrationRuns
  lastAction : Json.optional Enumeration.ofJson? (found "lastAction") = some s.lastAction
  conditions : Json.defaulted [] (Json.list? Condition.ofJson?) (found "conditions") = some s.conditions

theorem ofJson?_eq_some {j : Json} {found : String → Option Json} {s : Status}
    (hfields : ∀ names, j.fields? names = some (names.map found)) :
    ofJson? j = some s ↔ Found found s := by
  obtain ⟨reconcile, migration, migrationRuns, lastAction, conditions⟩ := s
  simp only [ofJson?, hfields, List.map_cons, List.map_nil, Option.bind_eq_bind, Option.bind_some,
    Option.bind_eq_some_iff, Option.pure_def, Option.some.injEq, Status.mk.injEq]
  constructor
  · rintro ⟨_, h₁, _, h₂, _, h₃, _, h₄, _, h₅, rfl, rfl, rfl, rfl, rfl⟩
    exact ⟨h₁, h₂, h₃, h₄, h₅⟩
  · rintro ⟨h₁, h₂, h₃, h₄, h₅⟩
    exact ⟨_, h₁, _, h₂, _, h₃, _, h₄, _, h₅, rfl, rfl, rfl, rfl, rfl⟩

/-- What is stored for a status is read as it, or there are no members at all. -/
theorem found_of_stored {stored : Option Json} {s : Option Status}
    (h : Json.optional ofJson? stored = some s) :
    Found (stored.getD .null).get? (s.getD {}) ∨ ∀ k, (stored.getD .null).get? k = none := by
  rcases stored with _ | j
  · exact .inr fun k => rfl
  · cases j with
    | obj ms =>
      obtain ⟨s, hs, rfl⟩ := Option.map_eq_some_iff.1 h
      exact .inl ((ofJson?_eq_some fun names => rfl).1 hs)
    | _ => exact .inr fun k => rfl

/-! ## What a status is written as -/

/-- The fields of a status as they are written, if at all. -/
def fields (s : Status) : List (String × Option Json) :=
  [("conditions", unlessEmpty (s.conditions.map (·.toJson))),
    ("lastAction", s.lastAction.map Enumeration.toJson),
    ("migrationRuns", unlessEmpty (s.migrationRuns.map (·.toJson))),
    ("migrationStatus", some (Enumeration.toJson s.migration)),
    ("reconcileStatus", s.reconcile.map (·.toJson))]

theorem toJson_eq (s : Status) : s.toJson = .ofOptional s.fields := rfl

theorem nodup_fields (s : Status) : (s.fields.map (·.1)).Nodup := by
  simp only [fields, List.map_cons, List.map_nil]
  decide

section Patch

variable {s s' : Status} {target v : Json} {k : String}

theorem get?_of_unwritten (h : (k, none) ∈ s.fields) :
    (target.mergePatch s.toJson).get? k = target.get? k :=
  Json.get?_mergePatch_ofOptional s.nodup_fields h (by simp)

theorem get?_of_written (h : (k, some v) ∈ s.fields) (hv : v ≠ .null) :
    (target.mergePatch s.toJson).get? k = some (((target.get? k).getD .null).mergePatch v) :=
  Json.get?_mergePatch_ofOptional s.nodup_fields h (by simpa using hv)

theorem get?_of_choice {α : Type} [Enumeration α] {a : α}
    (h : (k, some (Enumeration.toJson a)) ∈ s.fields) :
    (target.mergePatch s.toJson).get? k = some (Enumeration.toJson a) := by
  rw [get?_of_written h (by simp [Enumeration.toJson]), Enumeration.toJson, Json.mergePatch_str]

theorem get?_of_items {l : List Json} (h : (k, some (.arr l)) ∈ s.fields) :
    (target.mergePatch s.toJson).get? k = some (.arr l) := by
  rw [get?_of_written h (by simp), Json.mergePatch_arr]

/-- All instants in the status are read again from their timestamps. -/
structure Readable (s : Status) : Prop where
  lastUpdate : ∀ r ∈ s.reconcile, r.lastUpdate.Readable
  lastTransition : ∀ c ∈ s.conditions, c.lastTransition.Readable

/-- Fields that are not written for the later status are empty in the earlier one. -/
structure Grows (s s' : Status) : Prop where
  reconcile : s'.reconcile = none → s.reconcile = none
  migrationRuns : s'.migrationRuns = [] → s.migrationRuns = []
  lastAction : s'.lastAction = none → s.lastAction = none
  conditions : s'.conditions = [] → s.conditions = []

/-- Merged into what is stored for an earlier status, a status is read as it was written: a field
that is not written was empty before. -/
theorem found_mergePatch (grows : Grows s s') (readable : s'.Readable)
    (stored : Found target.get? s ∨ ∀ k, target.get? k = none) :
    Found (target.mergePatch s'.toJson).get? s' where
  reconcile := by
    cases hr : s'.reconcile with
    | none =>
      rw [get?_of_unwritten (by simp [fields, hr])]
      rcases stored with stored | nothing
      · exact stored.reconcile.trans (congrArg some (grows.reconcile hr))
      · rw [nothing]; rfl
    | some r =>
      rw [get?_of_written (v := r.toJson) (by simp [fields, hr]) (by simp [ReconcileStatus.toJson_eq])]
      exact Json.optional_eq_some (Json.mergePatch_obj_ne_null _ r.members)
        (ReconcileStatus.ofJson?_mergePatch (readable.lastUpdate r hr) _)
  migration := by
    rw [get?_of_choice (a := s'.migration) (by simp [fields])]
    exact Enumeration.ofJson?_toJson s'.migration
  migrationRuns := by
    cases hr : s'.migrationRuns with
    | nil =>
      rw [get?_of_unwritten (by simp [fields, hr, unlessEmpty])]
      rcases stored with stored | nothing
      · exact stored.migrationRuns.trans (congrArg some (grows.migrationRuns hr))
      · rw [nothing]; rfl
    | cons r runs =>
      rw [get?_of_items (l := (r :: runs).map (·.toJson)) (by simp [fields, hr, unlessEmpty])]
      exact Json.list?_map fun r _ => r.ofJson?_toJson
  lastAction := by
    cases ha : s'.lastAction with
    | none =>
      rw [get?_of_unwritten (by simp [fields, ha])]
      rcases stored with stored | nothing
      · exact stored.lastAction.trans (congrArg some (grows.lastAction ha))
      · rw [nothing]; rfl
    | some a =>
      rw [get?_of_choice (a := a) (by simp [fields, ha])]
      exact Json.optional_eq_some (by simp [Enumeration.toJson]) (Enumeration.ofJson?_toJson a)
  conditions := by
    cases hc : s'.conditions with
    | nil =>
      rw [get?_of_unwritten (by simp [fields, hc, unlessEmpty])]
      rcases stored with stored | nothing
      · exact stored.conditions.trans (congrArg some (grows.conditions hc))
      · rw [nothing]; rfl
    | cons c cs =>
      rw [get?_of_items (l := (c :: cs).map (·.toJson)) (by simp [fields, hc, unlessEmpty])]
      exact Json.list?_map fun d hd => Condition.ofJson?_toJson (readable.lastTransition d (hc ▸ hd))

end Patch

/-! ## Records -/

/-- One record in a status. -/
inductive Record (s : Status) : Status → Prop where
  | failure (reason : String) (now : Instant) : Record s (s.recordFailure reason now)
  | success (action : LastAction) (now : Instant) : Record s (s.recordSuccess action now)
  | migration (script : String) (outcome : MigrationStatus) : Record s (s.recordMigration script outcome)
  | condition (c : Condition) : Record s (s.setCondition c)

end Status

theorem Condition.put_ne_nil (c : Condition) (cs : List Condition) : c.put cs ≠ [] := by
  cases cs with
  | nil => simp [put]
  | cons e cs => rw [put]; split <;> simp

namespace Status

theorem Grows.trans {s₁ s₂ s₃ : Status} (h : Grows s₁ s₂) (h' : Grows s₂ s₃) : Grows s₁ s₃ where
  reconcile := h.reconcile ∘ h'.reconcile
  migrationRuns := h.migrationRuns ∘ h'.migrationRuns
  lastAction := h.lastAction ∘ h'.lastAction
  conditions := h.conditions ∘ h'.conditions

/-- No record empties a field that was filled. -/
theorem Record.grows {s s' : Status} (h : Record s s') : Grows s s' := by
  cases h with
  | failure reason now => exact ⟨nofun, id, id, fun h => absurd h (Condition.put_ne_nil _ _)⟩
  | success action now => exact ⟨nofun, id, nofun, fun h => absurd h (Condition.put_ne_nil _ _)⟩
  | migration script outcome => exact ⟨id, fun h => absurd h (by simp [recordMigration]), id, id⟩
  | condition c => exact ⟨id, id, id, fun h => absurd h (Condition.put_ne_nil _ _)⟩

theorem grows_of_records {s s' : Status} (h : TransGen Record s s') : Grows s s' := by
  induction h with
  | single record => exact record.grows
  | tail _ record ih => exact ih.trans record.grows

/-- A status is stored in any form that reads as what the AppService has, with members that nobody
reads, or not at all. Whatever is recorded in it, the status part of the patch that the operator
sends turns what is stored into a value that reads as exactly the status that was recorded. -/
theorem status_write_lossless {app : AppService} {stored : Option Json} {s' : Status}
    (decodes : Json.optional ofJson? stored = some app.status)
    (records : TransGen Record app.currentStatus s') (readable : s'.Readable) :
    ∃ patch, (Client.statusPatch { app with status := some s' }).get? "status" = some patch ∧
      ofJson? ((stored.getD .null).mergePatch patch) = some s' := by
  refine ⟨s'.toJson, rfl, ?_⟩
  refine (ofJson?_eq_some fun names => Json.fields?_mergePatch_ofOptional _ s'.fields names).2 ?_
  exact found_mergePatch (grows_of_records records) readable (found_of_stored decodes)

/-- A success is recorded over a failure that was stored with members that nobody reads: the delay
that was asked for is gone. -/
theorem status_write_clears_delay :
    let s : Status := { reconcile := some ⟨.failed, ⟨0, 0⟩, "no database", some 4⟩ }
    let s' := (s.recordMigration "update.sql" .succeeded).recordSuccess .migrationStarted ⟨60, 0⟩
    let app : AppService := { metadata := {}, spec := {}, status := some s }
    let stored : Json := .obj [("observedGeneration", .int 7),
      ("reconcileStatus", .obj [("attempt", .int 3), ("lastUpdate", .str "1970-01-01T00:00:00Z"),
        ("reason", .str "no database"), ("retryAfterSeconds", .int 4), ("status", .str "Failed")])]
    Json.optional ofJson? (some stored) = some app.status ∧ s'.Readable ∧
      ∃ patch, (Client.statusPatch { app with status := some s' }).get? "status" = some patch ∧
        ofJson? (stored.mergePatch patch) = some s' := by
  intro s s' app stored
  have decodes : Json.optional ofJson? (some stored) = some app.status := by decide +kernel
  have records : TransGen Record app.currentStatus s' :=
    .tail (.single (.migration _ _)) (.success _ _)
  have later : Timestamp.read? (Timestamp.write ⟨60, 0⟩) = some ⟨60, 0⟩ := by decide +kernel
  have readable : s'.Readable := by
    constructor
    · rintro r ⟨⟩
      exact later
    · intro c hc
      rw [List.mem_singleton.1 hc]
      exact later
  exact ⟨decodes, readable, status_write_lossless decodes records readable⟩

end Status

end AppServiceOperator
