import AppServiceOperator.Proofs.Migration.CleanRun
import AppServiceOperator.Proofs.Text.Encoding
import AppServiceOperator.Reconcile.Trigger
/-!
# Readiness keys

Events that leave the readiness key of a pod as it is are dropped. A key has no lengths in it, only ends of
texts, and still it can be read in one way only (`readinessKey?_inj`): pods with one key have one phase and the
same containers ready. So no event is dropped by which the database becomes ready, and that event passes the
test of the phase (`readiness_told`).
-/
namespace AppServiceOperator.Pod

/-- The names of the containers, and which of them are ready. -/
def readiness (p : Pod) : List (String × Bool) := p.containers.map fun c => (c.name, c.ready)

/-! ## Keys that can be read -/

/-- Texts that are ended by a byte they do not have. -/
theorem append_end_inj {a b r s : List UInt8} {last : UInt8} (ha : last ∉ a) (hb : last ∉ b)
    (h : a ++ last :: r = b ++ last :: s) : a = b ∧ r = s := by
  induction a generalizing b with
  | nil =>
    cases b with
    | nil => exact ⟨rfl, (List.cons.inj h).2⟩
    | cons y b =>
      obtain ⟨rfl, -⟩ := List.cons.inj h
      exact absurd List.mem_cons_self hb
  | cons x a ih =>
    cases b with
    | nil =>
      obtain ⟨rfl, -⟩ := List.cons.inj h
      exact absurd List.mem_cons_self ha
    | cons y b =>
      obtain ⟨rfl, hrest⟩ := List.cons.inj h
      obtain ⟨rfl, rest⟩ := ih (List.not_mem_of_not_mem_cons ha) (List.not_mem_of_not_mem_cons hb) hrest
      exact ⟨rfl, rest⟩

theorem keyOfText_append_inj {s t : String} {a b : List UInt8} (h : keyOfText s ++ a = keyOfText t ++ b) :
    s = t ∧ a = b := by
  simp only [keyOfText, List.append_assoc, List.singleton_append] at h
  obtain ⟨texts, rest⟩ := append_end_inj (Text.Utf8.ff_not_mem_encode s) (Text.Utf8.ff_not_mem_encode t) h
  exact ⟨Text.Utf8.encode_inj texts, rest⟩

theorem keyOfPhase_append_inj {p q : Option String} {a b : List UInt8}
    (h : keyOfPhase p ++ a = keyOfPhase q ++ b) : p = q ∧ a = b := by
  have other {s : List UInt8} : keyOfChoice 0 ++ a ≠ keyOfChoice 1 ++ s := by simp [keyOfChoice]
  have other' {s : List UInt8} : keyOfChoice 1 ++ s ≠ keyOfChoice 0 ++ b := by simp [keyOfChoice]
  cases p <;> cases q <;> simp only [keyOfPhase, List.append_assoc] at h
  case none.none => exact ⟨rfl, List.append_cancel_left h⟩
  case none.some => exact absurd h other
  case some.none => exact absurd h other'
  case some.some =>
    obtain ⟨rfl, rest⟩ := keyOfText_append_inj (List.append_cancel_left h)
    exact ⟨rfl, rest⟩

theorem keyOfContainer_append_inj {c d : ContainerStatus} {a b : List UInt8}
    (h : keyOfContainer c ++ a = keyOfContainer d ++ b) : (c.name = d.name ∧ c.ready = d.ready) ∧ a = b := by
  simp only [keyOfContainer, List.append_assoc, List.singleton_append] at h
  obtain ⟨name, h⟩ := keyOfText_append_inj h
  obtain ⟨flag, rest⟩ := List.cons.inj h
  have ready : c.ready = d.ready := by
    revert flag
    cases c.ready <;> cases d.ready <;> decide
  exact ⟨⟨name, ready⟩, rest⟩

theorem keyOfContainer_append_ne_nil (c : ContainerStatus) (a : List UInt8) : keyOfContainer c ++ a ≠ [] := by
  simp [keyOfContainer]

theorem flatMap_keyOfContainer_inj {cs ds : List ContainerStatus}
    (h : cs.flatMap keyOfContainer = ds.flatMap keyOfContainer) :
    cs.map (fun c => (c.name, c.ready)) = ds.map fun c => (c.name, c.ready) := by
  induction cs generalizing ds with
  | nil =>
    cases ds with
    | nil => rfl
    | cons d ds => exact absurd h.symm (keyOfContainer_append_ne_nil d _)
  | cons c cs ih =>
    cases ds with
    | nil => exact absurd h (keyOfContainer_append_ne_nil c _)
    | cons d ds =>
      rw [List.flatMap_cons, List.flatMap_cons] at h
      obtain ⟨⟨name, ready⟩, rest⟩ := keyOfContainer_append_inj h
      rw [List.map_cons, List.map_cons, ih rest, name, ready]

/-- The key of the containers is a function of their readiness. -/
theorem flatMap_keyOfContainer (p : Pod) : p.containers.flatMap keyOfContainer =
    p.readiness.flatMap fun c => keyOfText c.1 ++ [if c.2 then 1 else 0] := by
  rw [readiness, List.flatMap_map]
  rfl

/-! ## Keys of pods -/

variable {p q : Pod} {a b : List UInt8}

theorem readinessKey?_eq_none : p.readinessKey? = none ↔ p.status = none := Option.map_eq_none_iff

theorem eq_of_readinessKey? (h : p.readinessKey? = some a) :
    a = keyOfPhase p.phase? ++ p.containers.flatMap keyOfContainer := by
  obtain ⟨s, hs, rfl⟩ := Option.map_eq_some_iff.1 h
  rw [phase?, containers, hs]
  rfl

theorem readinessKey?_inj (hp : p.readinessKey? = some a) (hq : q.readinessKey? = some b) :
    a = b ↔ p.phase? = q.phase? ∧ p.readiness = q.readiness := by
  rw [eq_of_readinessKey? hp, eq_of_readinessKey? hq]
  constructor
  · intro h
    obtain ⟨phase, rest⟩ := keyOfPhase_append_inj h
    exact ⟨phase, flatMap_keyOfContainer_inj rest⟩
  · rintro ⟨phase, ready⟩
    rw [flatMap_keyOfContainer, flatMap_keyOfContainer, phase, ready]

theorem isReadyDatabase_iff_readiness : p.isReadyDatabase = true ↔
    p.phase? = some "Running" ∧ (Desired.databaseContainer, true) ∈ p.readiness := by
  rw [isReadyDatabase_iff, Ready, readiness, List.mem_map]
  simp only [Prod.mk.injEq]
  rfl

theorem phase?_of_status (h : p.status = none) : p.phase? = none := by
  rw [phase?, h]
  rfl

/-- Whether the database is ready can be told from the key. -/
theorem isReadyDatabase_congr (h : p.readinessKey? = q.readinessKey?) :
    p.isReadyDatabase = q.isReadyDatabase := by
  rw [Bool.eq_iff_iff, isReadyDatabase_iff_readiness, isReadyDatabase_iff_readiness]
  cases hp : p.readinessKey? with
  | none =>
    rw [phase?_of_status (readinessKey?_eq_none.1 hp), phase?_of_status (readinessKey?_eq_none.1 (h ▸ hp))]
    simp
  | some key =>
    obtain ⟨phase, ready⟩ := (readinessKey?_inj hp (h ▸ hp)).1 rfl
    rw [phase, ready]

/-- Of a pod whose database is ready only the name decides whether it wakes an AppService. -/
theorem triggersMigration_iff (ready : q.isReadyDatabase = true) :
    q.triggersMigration = true ↔ Desired.eventsDatabase.toList <:+: q.metadata.anyName.toList := by
  obtain ⟨running, -⟩ := isReadyDatabase_iff.1 ready
  simp [triggersMigration, running, Text.hasPart_iff]

/-- A pod has a key where it has a status, and the keys of two pods are the same exactly where their phases and
the names and readiness of their containers are. Pods with one key have the database ready both or neither. When
the database of a pod becomes ready, the key changes, and the phase is one that may make a migration possible. -/
theorem readiness_told (p q : Pod) :
    (p.readinessKey? = none ↔ p.status = none) ∧
    (∀ a b, p.readinessKey? = some a → q.readinessKey? = some b →
      (a = b ↔ p.phase? = q.phase? ∧ p.readiness = q.readiness)) ∧
    (p.readinessKey? = q.readinessKey? → p.isReadyDatabase = q.isReadyDatabase) ∧
    (p.isReadyDatabase = false → q.isReadyDatabase = true →
      p.readinessKey? ≠ q.readinessKey? ∧ (q.phase? = some "Running" ∨ q.phase? = some "Succeeded") ∧
      (q.triggersMigration = true ↔ Desired.eventsDatabase.toList <:+: q.metadata.anyName.toList)) := by
  refine ⟨readinessKey?_eq_none, fun _ _ => readinessKey?_inj, isReadyDatabase_congr, fun before after => ?_⟩
  refine ⟨fun same => ?_, .inl (isReadyDatabase_iff.1 after).1, triggersMigration_iff after⟩
  rw [isReadyDatabase_congr same, after] at before
  exact absurd before (by decide)

/-- A pod whose container becomes ready while its phase stays the same. -/
theorem readiness_told_of_flip : ∃ p q : Pod, p.phase? = q.phase? ∧ p.isReadyDatabase = false ∧
    q.isReadyDatabase = true ∧ p.readinessKey? ≠ q.readinessKey? ∧ q.triggersMigration = true := by
  let pod (ready : Bool) : Pod := {
    metadata := { name := some "events-database-5c6b-q2w3e" }
    status := some { phase := some "Running", containers := some [⟨"postgresql", ready, []⟩] } }
  obtain ⟨-, -, -, told⟩ := readiness_told (pod false) (pod true)
  obtain ⟨changed, -, wakes⟩ := told rfl rfl
  exact ⟨pod false, pod true, rfl, rfl, rfl, changed, wakes.2 (Text.hasPart_iff.1 (by decide))⟩

end AppServiceOperator.Pod
