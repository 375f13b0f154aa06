import AppServiceOperator.Json.Settable
import AppServiceOperator.Text.Base64
import AppServiceOperator.Time.Rfc3339
/-!
# Shapes of manifests

A shape says which JSON values a part of a manifest may hold. `Shape.read` brings a value into the
normal form of its shape: a record keeps the fields it declares and drops all others, an optional
field that is absent or null stays absent, and a required one gets the default of its shape. A
value of the wrong kind has no normal form.
-/
namespace AppServiceOperator

/-- Whether a field of a record may be absent from its normal form. -/
inductive Presence where
  | optional | required
  deriving DecidableEq, Repr

inductive Shape where
  | text
  | flag
  | int32
  | int64
  /-- Bytes as padded Base64. -/
  | base64
  /-- A whole number of 32 bits, or a text. -/
  | intOrText
  | timestamp
  | anything
  | list (item : Shape)
  | map (value : Shape)
  /-- The fields of a record, in ascending order of their names. -/
  | record (fields : List (String × Presence × Shape))

namespace Shape

def fitsInt32 (n : Int) : Bool := -0x80000000 ≤ n && n < 0x80000000

def fitsInt64 (n : Int) : Bool := -0x8000000000000000 ≤ n && n < 0x8000000000000000

mutual
/-- What a required field holds when nothing is given. -/
def default : Shape → Json
  | .text | .base64 => .str ""
  | .flag => .bool false
  | .int32 | .int64 | .intOrText => .int 0
  | .timestamp => .str "1970-01-01T00:00:00Z"
  | .anything => .null
  | .list _ => .arr []
  | .map _ => .obj []
  | .record fields => .obj (defaults fields)

/-- The required fields of a record with their defaults. -/
def defaults : List (String × Presence × Shape) → List (String × Json)
  | [] => []
  | (name, .required, s) :: fs => (name, default s) :: defaults fs
  | (_, .optional, _) :: fs => defaults fs
end

mutual
/-- The normal form of a value. -/
def read : Shape → Json → Option Json
  | .text, .str s => some (.str s)
  | .flag, .bool b => some (.bool b)
  | .int32, .int n => if fitsInt32 n then some (.int n) else none
  | .int64, .int n => if fitsInt64 n then some (.int n) else none
  | .base64, .str s => if Text.Base64.isValid s then some (.str s) else none
  | .intOrText, .int n => if fitsInt32 n then some (.int n) else none
  | .intOrText, .str s => some (.str s)
  | .timestamp, .str s => (Timestamp.read? s).map fun t => .str (Timestamp.write t)
  | .anything, j => some j
  | .list s, .arr items => (items.mapM fun j => read s j).map .arr
  | .map s, .obj members => (members.mapM fun m => (read s m.2).map fun v => (m.1, v)).map .obj
  | .record fields, .obj members => (readFields fields members).map .obj
  | _, _ => none

/-- The declared fields of a record, each read from the member of its name. -/
def readFields : List (String × Presence × Shape) → Members → Option (List (String × Json))
  | [], _ => some []
  | (name, presence, s) :: fs, members =>
    match members.get? name with
    | none | some .null =>
      match presence with
      | .required => (readFields fs members).map fun rest => (name, default s) :: rest
      | .optional => readFields fs members
    | some j => (read s j).bind fun v => (readFields fs members).map fun rest => (name, v) :: rest
end

/-! ## Normal forms as patches -/

mutual
/-- Nothing outside of lists is left open, so no member reached through objects can be null. -/
def settled : Shape → Bool
  | .anything => false
  | .map s => settled s
  | .record fields => settledFields fields
  | _ => true

def settledFields : List (String × Presence × Shape) → Bool
  | [] => true
  | (_, _, s) :: fs => settled s && settledFields fs
end

mutual
theorem settable_default : (s : Shape) → s.settled = true → s.default.Settable
  | .text, _ | .flag, _ | .int32, _ | .int64, _ | .base64, _ | .intOrText, _ | .timestamp, _
  | .list _, _ | .map _, _ => by simp [Json.Settable, default, Json.nullFree, Json.nullFreeMembers]
  | .anything, h => by simp [settled] at h
  | .record fields, h => by
    refine ⟨by simp [default], ?_⟩
    simpa [default, Json.nullFree] using nullFree_defaults fields (by simpa [settled] using h)

theorem nullFree_defaults : (fs : List (String × Presence × Shape)) → settledFields fs = true →
    Json.nullFreeMembers (defaults fs) = true
  | [], _ => rfl
  | (name, presence, s) :: fs, h => by
    obtain ⟨hs, hfs⟩ : s.settled = true ∧ settledFields fs = true := by
      simpa [settledFields] using h
    cases presence with
    | optional => simpa [defaults] using nullFree_defaults fs hfs
    | required =>
      have ⟨h₁, h₂⟩ := settable_default s hs
      exact Json.nullFreeMembers_cons.2 ⟨h₁, h₂, nullFree_defaults fs hfs⟩
end

theorem mem_mapM {α β : Type} {f : α → Option β} {xs : List α} {ys : List β} (h : xs.mapM f = some ys) :
    ∀ y ∈ ys, ∃ x ∈ xs, f x = some y := by
  induction xs generalizing ys with
  | nil => simp_all
  | cons x xs ih =>
    simp only [List.mapM_cons, Option.pure_def, Option.bind_eq_bind, Option.bind_eq_some_iff,
      Option.some.injEq] at h
    obtain ⟨y, hy, ys', hys, rfl⟩ := h
    intro z hz
    rcases List.mem_cons.1 hz with rfl | hz
    · exact ⟨x, List.mem_cons_self, hy⟩
    · obtain ⟨w, hw, e⟩ := ih hys z hz
      exact ⟨w, List.mem_cons_of_mem _ hw, e⟩

mutual
/-- A normal form of a settled shape can be set by a merge patch. -/
theorem settable_of_read : (s : Shape) → s.settled = true → (j v : Json) → s.read j = some v → v.Settable
  | .anything, hs, _, _, _ => by simp [settled] at hs
  | .text, _, j, v, h | .flag, _, j, v, h | .int32, _, j, v, h | .int64, _, j, v, h
  | .base64, _, j, v, h | .intOrText, _, j, v, h => by
    cases j <;> simp [read] at h <;> first
      | (subst h; simp [Json.Settable, Json.nullFree])
      | (obtain ⟨_, rfl⟩ := h; simp [Json.Settable, Json.nullFree])
  | .timestamp, _, j, v, h => by
    cases j <;> simp [read] at h
    obtain ⟨_, _, rfl⟩ := h; simp [Json.Settable, Json.nullFree]
  | .list s, _, j, v, h => by
    cases j <;> simp [read] at h
    obtain ⟨_, _, rfl⟩ := h; simp [Json.Settable, Json.nullFree]
  | .map s, hs, j, v, h => by
    cases j with
    | obj members =>
      simp only [read, Option.map_eq_some_iff] at h
      obtain ⟨vs, hvs, rfl⟩ := h
      refine ⟨by simp, ?_⟩
      simp only [Json.nullFree, Json.nullFreeMembers_iff]
      intro m hm
      obtain ⟨m₀, _, e⟩ := mem_mapM hvs m hm
      simp only [Option.map_eq_some_iff] at e
      obtain ⟨w, hw, rfl⟩ := e
      exact settable_of_read s (by simpa [settled] using hs) _ _ hw
    | _ => simp [read] at h
  | .record fields, hs, j, v, h => by
    cases j with
    | obj members =>
      simp only [read, Option.map_eq_some_iff] at h
      obtain ⟨vs, hvs, rfl⟩ := h
      exact ⟨by simp, by
        simpa [Json.nullFree] using nullFree_of_readFields fields (by simpa [settled] using hs) _ _ hvs⟩
    | _ => simp [read] at h

theorem nullFree_of_readFields : (fs : List (String × Presence × Shape)) → settledFields fs = true →
    (members : Members) → (vs : List (String × Json)) → readFields fs members = some vs →
    Json.nullFreeMembers vs = true
  | [], _, _, vs, h => by simp [readFields] at h; subst h; rfl
  | (name, presence, s) :: fs, hs, members, vs, h => by
    obtain ⟨ht, hfs⟩ : s.settled = true ∧ settledFields fs = true := by
      simpa [settledFields] using hs
    unfold readFields at h
    split at h
    case h_3 =>
      simp only [Option.bind_eq_some_iff, Option.map_eq_some_iff] at h
      obtain ⟨v, hv, rest, hrest, rfl⟩ := h
      have ⟨h₁, h₂⟩ := settable_of_read s ht _ _ hv
      exact Json.nullFreeMembers_cons.2 ⟨h₁, h₂, nullFree_of_readFields fs hfs _ _ hrest⟩
    all_goals
      cases presence with
      | optional => exact nullFree_of_readFields fs hfs _ _ h
      | required =>
        simp only [Option.map_eq_some_iff] at h
        obtain ⟨rest, hrest, rfl⟩ := h
        have ⟨h₁, h₂⟩ := settable_default s ht
        exact Json.nullFreeMembers_cons.2 ⟨h₁, h₂, nullFree_of_readFields fs hfs _ _ hrest⟩
end

end Shape

end AppServiceOperator
