import AppServiceOperator.Proofs.Json.Record
/-!
# Paths into values, and what a merge patch does at them

A path is a list of keys, the outermost first, and leads through objects only (`Json.at?`). A merge patch
leaves every path alone that departs from it, one that it follows up to an object without the next key
(`at?_mergePatch_of_departs`); the paths to which no leaf of the patch has to do are such (`departs_of_clear`).
What the patch has at a path it establishes there, if it removes nothing (`exists_at?_mergePatch`).
-/
namespace AppServiceOperator.Json

/-- The value at a path; none where a key is missing or the way does not lead through an object. -/
def at? (j : Json) : List String → Option Json
  | [] => some j
  | k :: path => (j.get? k).bind (·.at? path)

@[simp] theorem at?_nil (j : Json) : j.at? [] = some j := rfl

@[simp] theorem at?_cons (j : Json) (k : String) (path : List String) :
    j.at? (k :: path) = (j.get? k).bind (·.at? path) := rfl

/-- The path follows the value, through at least one object, up to one that lacks the next key. -/
def Departs (j : Json) : List String → Prop
  | [] => False
  | k :: path => ∃ ms, j = .obj ms ∧ ∀ v, Dictionary.get? ms k = some v → v.Departs path

/-! ## Leaves -/

/-- Anything but an object that has members. -/
def isLeaf : Json → Bool
  | .obj (_ :: _) => false
  | _ => true

/-- The path leads to a leaf of the value. -/
def LeafAt (j : Json) (path : List String) : Prop := ∃ v, j.at? path = some v ∧ v.isLeaf = true

/-- No leaf of the value is on the path or beyond its end. -/
def Clear (j : Json) (path : List String) : Prop := ∀ leaf, j.LeafAt leaf → ¬ leaf <+: path ∧ ¬ path <+: leaf

theorem LeafAt.cons {ms : Members} {k : String} {v : Json} {path : List String} (h : v.LeafAt path)
    (hv : ms.get? k = some v) : (Json.obj ms).LeafAt (k :: path) := by
  obtain ⟨w, hw, leaf⟩ := h
  refine ⟨w, ?_, leaf⟩
  rw [at?_cons, get?, hv]
  exact hw

/-- Down its first members every value has a leaf. -/
theorem exists_leafAt : (j : Json) → ∃ path, j.LeafAt path
  | .obj ((k, v) :: ms) =>
    have ⟨path, h⟩ := exists_leafAt v
    ⟨k :: path, h.cons (by simp [Dictionary.get?_cons])⟩
  | .obj [] | .null | .bool _ | .int _ | .double _ | .str _ | .arr _ => ⟨[], _, rfl, rfl⟩

/-- A path that has to do with no leaf departs from the value. -/
theorem departs_of_clear {j : Json} {path : List String} (h : j.Clear path) : j.Departs path := by
  induction path generalizing j with
  | nil =>
    obtain ⟨leaf, hleaf⟩ := exists_leafAt j
    exact (h leaf hleaf).2 List.nil_prefix
  | cons k path ih =>
    cases hj : j.isLeaf with
    | true => exact absurd List.nil_prefix (h [] ⟨j, rfl, hj⟩).1
    | false =>
      cases j with
      | obj ms =>
        refine ⟨ms, rfl, fun v hv => ih fun leaf hleaf => ?_⟩
        have outer := h (k :: leaf) (hleaf.cons hv)
        rw [List.cons_prefix_cons, List.cons_prefix_cons] at outer
        exact ⟨fun before => outer.1 ⟨rfl, before⟩, fun beyond => outer.2 ⟨rfl, beyond⟩⟩
      | _ => cases hj

/-! ## Patches -/

/-- What departs from a patch is left as it was, whether the target leads there or not. -/
theorem at?_mergePatch_of_departs {patch : Json} {path : List String} (inOrder : patch.WellFormed)
    (h : patch.Departs path) (target : Json) : (target.mergePatch patch).at? path = target.at? path := by
  induction path generalizing patch target with
  | nil => exact h.elim
  | cons k path ih =>
    obtain ⟨ps, rfl, below⟩ := h
    rw [at?_cons, at?_cons]
    cases hk : Dictionary.get? ps k with
    | none =>
      have other : k ∉ ps.map (·.1) := by
        intro hmem
        obtain ⟨⟨l, v⟩, hv, rfl⟩ := List.mem_map.1 hmem
        rw [Dictionary.get?_of_mem inOrder.1 hv] at hk
        cases hk
      rw [get?_mergePatch_of_not_mem other]
    | some v =>
      have departs := below v hk
      -- what comes after `k` departs from an object, so that there is a key after it
      cases path with
      | nil => exact departs.elim
      | cons l path =>
        have isObj : v ≠ .null := by
          obtain ⟨ms, rfl, -⟩ := departs
          nofun
        rw [get?_mergePatch_of_mem inOrder.1 (Dictionary.mem_of_get? hk) isObj, Option.bind_some,
          ih (wellFormed_of_get? inOrder.2 hk) departs]
        cases target.get? k <;> rfl

/-- What a patch without removals has at a path is contained in what is there after it. -/
theorem exists_at?_mergePatch {patch v : Json} {path : List String} (inOrder : patch.WellFormed)
    (adds : patch.nullFree = true) (h : patch.at? path = some v) (target : Json) :
    ∃ w, (target.mergePatch patch).at? path = some w ∧ w.contains v = true := by
  induction path generalizing patch target with
  | nil =>
    cases h
    exact ⟨_, rfl, contains_mergePatch _ adds inOrder target⟩
  | cons k path ih =>
    obtain ⟨u, hu, hv⟩ := Option.bind_eq_some_iff.1 h
    cases patch with
    | obj ps =>
      have hmem : (k, u) ∈ ps := Dictionary.mem_of_get? hu
      obtain ⟨notNull, nullFree⟩ := nullFreeMembers_iff.1 adds (k, u) hmem
      rw [at?_cons, get?_mergePatch_of_mem inOrder.1 hmem notNull, Option.bind_some]
      exact ih (wellFormed_of_get? inOrder.2 hu) nullFree hv _
    | _ => cases hu

end AppServiceOperator.Json
