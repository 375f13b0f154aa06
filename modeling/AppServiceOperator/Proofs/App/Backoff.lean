import AppServiceOperator.Proofs.App.StatusHistory
import Mathlib.Algebra.Group.Nat.Defs
import Mathlib.Data.List.Induction
import Mathlib.Logic.Function.Iterate
/-!
# The backoff

How long the operator waits after failures. The delay is kept in the status, so that it is a function of
what was recorded: one second after the first failure in a row and twice as long after each further one,
up to six hours, whatever else is recorded in between (`delay_of_entries`). A status may come with a delay
that the operator never wrote. From any delay but zero the waits rise to the longest one by the sixteenth
failure at the latest; from a recorded delay of zero every wait is zero (`backsOff_iff`).
-/
namespace AppServiceOperator

/-! ## One delay after the other -/

/-- The delay of a failure that comes right after one with the given delay. -/
def laterDelay (delay : UInt64) : UInt64 := min (saturatingDouble delay) maxRetryDelay

/-- Doubling does not wrap around: where it saturates, the bound is far below. -/
theorem toNat_laterDelay (delay : UInt64) : (laterDelay delay).toNat = min (2 * delay.toNat) 21600 := by
  have hmax : maxRetryDelay.toNat = 21600 := rfl
  have hdouble := toNat_saturatingDouble delay
  change (if saturatingDouble delay ≤ maxRetryDelay then saturatingDouble delay else maxRetryDelay).toNat = _
  split
  · rename_i within
    have hwithin := UInt64.le_iff_toNat_le.1 within
    omega
  · rename_i beyond
    have hbeyond := mt UInt64.le_iff_toNat_le.2 beyond
    omega

/-- Failures in a row double the delay each time. -/
theorem toNat_iterate_laterDelay {delay : UInt64} (h : delay.toNat ≤ 21600) (n : Nat) :
    (laterDelay^[n] delay).toNat = min (2 ^ n * delay.toNat) 21600 := by
  induction n with
  | zero =>
    rw [Function.iterate_zero_apply]
    omega
  | succ n ih =>
    have hpow : 2 ^ (n + 1) * delay.toNat = 2 * (2 ^ n * delay.toNat) := by
      rw [Nat.pow_succ, Nat.mul_comm (2 ^ n) 2, Nat.mul_assoc]
    rw [Function.iterate_succ_apply', toNat_laterDelay, ih, hpow]
    omega

namespace Status

@[simp] theorem nextDelay_empty : ({} : Status).nextDelay = initialRetryDelay := rfl

@[simp] theorem nextDelay_recordFailure (s : Status) (reason : String) (now : Instant) :
    (s.recordFailure reason now).nextDelay = laterDelay s.nextDelay := rfl

@[simp] theorem nextDelay_recordSuccess (s : Status) (action : LastAction) (now : Instant) :
    (s.recordSuccess action now).nextDelay = initialRetryDelay := rfl

@[simp] theorem nextDelay_recordMigration (s : Status) (script : String) (outcome : MigrationStatus) :
    (s.recordMigration script outcome).nextDelay = s.nextDelay := rfl

/-! ## Failures in a row -/

/-- A record of a pass, with all that it is made of. -/
inductive Entry where
  | failure (reason : String) (now : Instant)
  | success (action : LastAction) (now : Instant)
  | migration (script : String) (outcome : MigrationStatus)
  deriving DecidableEq, Repr

def Entry.isFailure : Entry → Bool
  | .failure .. => true
  | _ => false

def Entry.isSuccess : Entry → Bool
  | .success .. => true
  | _ => false

/-- The status with one more record. -/
def enter (s : Status) : Entry → Status
  | .failure reason now => s.recordFailure reason now
  | .success action now => s.recordSuccess action now
  | .migration script outcome => s.recordMigration script outcome

/-- The empty status with the records, the oldest first. -/
def ofEntries (entries : List Entry) : Status := entries.foldl enter {}

/-- How many failures were recorded since the last success, or since the beginning. -/
def failuresInRow (entries : List Entry) : Nat :=
  (entries.reverse.takeWhile fun e => !e.isSuccess).countP (·.isFailure)

theorem ofEntries_snoc (entries : List Entry) (e : Entry) :
    ofEntries (entries ++ [e]) = (ofEntries entries).enter e := by
  simp [ofEntries]

theorem failuresInRow_snoc (entries : List Entry) (e : Entry) :
    failuresInRow (entries ++ [e]) = match e with
      | .failure .. => failuresInRow entries + 1
      | .success .. => 0
      | .migration .. => failuresInRow entries := by
  cases e <;> simp [failuresInRow, Entry.isSuccess, Entry.isFailure]

/-- The delay that the next failure asks for is decided by the number of failures before it. -/
theorem toNat_nextDelay_ofEntries (entries : List Entry) :
    (ofEntries entries).nextDelay.toNat = min (2 ^ failuresInRow entries) 21600 := by
  induction entries using List.reverseRecOn with
  | nil => rfl
  | append_singleton entries e ih =>
    rw [ofEntries_snoc, failuresInRow_snoc]
    cases e with
    | failure reason now =>
      rw [enter, nextDelay_recordFailure, toNat_laterDelay, ih, Nat.pow_succ]
      omega
    | success action now => rfl
    | migration script outcome => exact ih

/-- Whatever was recorded, the n-th failure since the last success asks for a delay of 2 ^ (n - 1) seconds,
but for six hours at most, and that is the delay that is stored. After a stored failure with any delay the
next one is twice as long, within the same bound. -/
theorem delay_of_entries :
    (∀ (entries : List Entry) (reason : String) (now : Instant),
      let n := failuresInRow (entries ++ [.failure reason now])
      let s := ofEntries entries
      1 ≤ n ∧ s.nextDelay.toNat = min (2 ^ (n - 1)) 21600 ∧
        (s.recordFailure reason now).reconcile.bind (·.retryAfterSeconds) = some s.nextDelay) ∧
    ∀ (lastUpdate : Instant) (reason : String) (delay : UInt64),
      (nextRetryDelay (some ⟨.failed, lastUpdate, reason, some delay⟩)).toNat =
        min (2 * delay.toNat) 21600 := by
  refine ⟨fun entries reason now => ?_, fun lastUpdate reason delay => toNat_laterDelay delay⟩
  have count : failuresInRow (entries ++ [.failure reason now]) = failuresInRow entries + 1 :=
    failuresInRow_snoc entries _
  simp only [count, Nat.add_sub_cancel]
  exact ⟨Nat.le_add_left _ _, toNat_nextDelay_ofEntries entries, rfl⟩

/-- A migration between two failures does not interrupt the row; a success does. -/
example : failuresInRow [.failure "no database" ⟨0, 0⟩, .success .noAction ⟨9, 0⟩, .failure "no gateway" ⟨3, 0⟩,
    .migration "update.sql" .failed, .failure "no gateway" ⟨4, 0⟩] = 2 := by
  decide

/-! ## From any stored status -/

/-- The delays that failures one after the other ask for, each with its reason and its time. -/
def delays (s : Status) : List (String × Instant) → List UInt64
  | [] => []
  | (reason, now) :: failures => s.nextDelay :: (s.recordFailure reason now).delays failures

@[simp] theorem length_delays (s : Status) (failures : List (String × Instant)) :
    (s.delays failures).length = failures.length := by
  induction failures generalizing s with
  | nil => rfl
  | cons f failures ih =>
    rw [delays, List.length_cons, List.length_cons, ih]

theorem getElem_delays (s : Status) (failures : List (String × Instant)) (i : Nat)
    (h : i < (s.delays failures).length) : (s.delays failures)[i] = laterDelay^[i] s.nextDelay := by
  induction failures generalizing s i with
  | nil => cases h
  | cons f failures ih =>
    cases i with
    | zero => rfl
    | succ i =>
      have rest := ih (s.recordFailure f.1 f.2) i (by simpa [delays] using h)
      simpa [delays] using rest

/-- Delays that rise from the first to the longest one: none of them is shorter than the first one after a
success or longer than the longest one, none is shorter than one before it, and from the sixteenth on they
are as long as possible. -/
structure BacksOff (delays : List UInt64) : Prop where
  bounds : ∀ d ∈ delays, initialRetryDelay ≤ d ∧ d ≤ maxRetryDelay
  rising : delays.Pairwise (· ≤ ·)
  capped : ∀ d ∈ delays.drop 15, d = maxRetryDelay

/-- The stored outcome is a failure after which the operator did not have to wait. -/
def WaitedZero (s : Status) : Prop :=
  ∃ lastUpdate reason, s.reconcile = some ⟨.failed, lastUpdate, reason, some 0⟩

/-- The next delay is the initial one, or it follows the delay of a stored failure. -/
theorem nextDelay_cases (s : Status) : s.nextDelay = initialRetryDelay ∨
    ∃ lastUpdate reason delay, s.reconcile = some ⟨.failed, lastUpdate, reason, some delay⟩ ∧
      s.nextDelay = laterDelay delay := by
  unfold nextDelay nextRetryDelay
  split
  · rename_i lastUpdate reason delay stored
    exact .inr ⟨_, _, _, stored, rfl⟩
  · exact .inl rfl

theorem toNat_nextDelay_le (s : Status) : s.nextDelay.toNat ≤ 21600 := by
  rcases s.nextDelay_cases with first | ⟨_, _, delay, -, later⟩
  · rw [first]
    decide
  · rw [later, toNat_laterDelay]
    omega

theorem nextDelay_eq_zero_iff {s : Status} : s.nextDelay = 0 ↔ s.WaitedZero := by
  constructor
  · intro zero
    rcases s.nextDelay_cases with first | ⟨lastUpdate, reason, delay, stored, later⟩
    · rw [first] at zero
      cases zero
    · have double : min (2 * delay.toNat) 21600 = 0 := by
        rw [← toNat_laterDelay, ← later, zero]
        rfl
      have none : delay = 0 := UInt64.toNat_inj.1 (by simp; omega)
      exact ⟨lastUpdate, reason, none ▸ stored⟩
  · rintro ⟨lastUpdate, reason, stored⟩
    rw [nextDelay, stored]
    rfl

theorem laterDelay_zero (n : Nat) : laterDelay^[n] 0 = 0 := Function.iterate_fixed rfl n

/-- From any delay but zero the delays rise to the longest one. -/
theorem backsOff_delays {s : Status} (h : s.nextDelay ≠ 0) (failures : List (String × Instant)) :
    BacksOff (s.delays failures) := by
  have one : 1 ≤ s.nextDelay.toNat := Nat.one_le_iff_ne_zero.2 fun zero => h (UInt64.toNat_inj.1 zero)
  have closed (i : Nat) (hi : i < (s.delays failures).length) :
      (s.delays failures)[i].toNat = min (2 ^ i * s.nextDelay.toNat) 21600 := by
    rw [getElem_delays, toNat_iterate_laterDelay s.toNat_nextDelay_le]
  have power (i : Nat) : 2 ^ i ≤ 2 ^ i * s.nextDelay.toNat := Nat.le_mul_of_pos_right _ one
  refine ⟨fun d hd => ?bounds, List.pairwise_iff_getElem.2 fun i j hi hj hij => ?rising, fun d hd => ?capped⟩
  case bounds =>
    obtain ⟨i, hi, rfl⟩ := List.mem_iff_getElem.1 hd
    have hpos : 1 ≤ 2 ^ i := Nat.one_le_two_pow
    have hi' := closed i hi
    have hpower := power i
    constructor
    · exact UInt64.le_iff_toNat_le.2 (by simp [initialRetryDelay]; omega)
    · exact UInt64.le_iff_toNat_le.2 (by simp [maxRetryDelay]; omega)
  case rising =>
    have grows : 2 ^ i * s.nextDelay.toNat ≤ 2 ^ j * s.nextDelay.toNat :=
      Nat.mul_le_mul_right _ (Nat.pow_le_pow_right (by decide) (Nat.le_of_lt hij))
    refine UInt64.le_iff_toNat_le.2 ?_
    rw [closed i hi, closed j hj]
    omega
  case capped =>
    obtain ⟨i, hi, rfl⟩ := List.mem_iff_getElem.1 hd
    rw [List.getElem_drop]
    have late : 2 ^ 15 ≤ 2 ^ (15 + i) := Nat.pow_le_pow_right (by decide) (Nat.le_add_right _ _)
    have hpower := power (15 + i)
    refine UInt64.toNat_inj.1 ?_
    rw [closed]
    change _ = 21600
    omega

/-- Failures back off from every stored status but one: a recorded delay of zero. After that one no failure
ever waits. -/
theorem backsOff_iff (s : Status) :
    ((∀ failures, BacksOff (s.delays failures)) ↔ ¬ s.WaitedZero) ∧
      (s.WaitedZero → ∀ failures, s.delays failures = List.replicate failures.length 0) := by
  have stuck (zero : s.WaitedZero) (failures : List (String × Instant)) :
      s.delays failures = List.replicate failures.length 0 := by
    refine List.ext_getElem (by simp) fun i hi hi' => ?_
    rw [getElem_delays, nextDelay_eq_zero_iff.2 zero, laterDelay_zero, List.getElem_replicate]
  refine ⟨⟨fun backs zero => ?_, fun positive failures => ?_⟩, stuck⟩
  · have once := (backs [("", ⟨0, 0⟩)]).bounds 0 (by simp [stuck zero])
    exact absurd once.1 (by decide)
  · exact backsOff_delays (mt nextDelay_eq_zero_iff.1 positive) failures

/-- A status that nothing keeps out of the store: a failure was recorded, with a delay of zero. -/
def failedWithoutDelay : Json :=
  .obj [("reconcileStatus", .obj [("lastUpdate", .str "1970-01-01T00:00:00Z"), ("reason", .str "no database"),
    ("retryAfterSeconds", .int 0), ("status", .str "Failed")])]

/-- After it the operator fails in a loop that never waits. -/
theorem hot_loop_without_delay : ∃ s, ofJson? failedWithoutDelay = some s ∧
    s.delays (List.replicate 16 ("no database", ⟨0, 0⟩)) = List.replicate 16 0 ∧
    ¬ BacksOff (s.delays (List.replicate 16 ("no database", ⟨0, 0⟩))) := by
  refine ⟨{ reconcile := some ⟨.failed, ⟨0, 0⟩, "no database", some 0⟩ }, by decide, by decide, fun backs => ?_⟩
  exact absurd (backs.bounds 0 (by decide)).1 (by decide)

end Status

end AppServiceOperator
