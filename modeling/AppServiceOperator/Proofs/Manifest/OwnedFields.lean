import AppServiceOperator.Manifest.ManagedResource
import AppServiceOperator.Proofs.Json.Record
/-!
# What the operator owns of a manifest

A manifest contains what is owned of it (`contains_ownedFields`), so that an object that was just
created needs no patch. `Solid` values are those that a merge patch sets and that stay contained
while a server adds members: in order, and without empty maps. What is owned of a resource is
solid when its parts are (`solid_ownedFields`).
-/
namespace AppServiceOperator

namespace Json

/-! ## Solid values -/

/-- In order, and without empty maps. -/
def Solid (j : Json) : Prop := j.WellFormed ∧ j.noEmptyMaps = true

@[simp] theorem solid_str {s : String} : Solid (.str s) := ⟨trivial, rfl⟩

@[simp] theorem solid_int {n : Int} : Solid (.int n) := ⟨trivial, rfl⟩

@[simp] theorem solid_bool {b : Bool} : Solid (.bool b) := ⟨trivial, rfl⟩

@[simp] theorem solid_arr {xs : List Json} : Solid (.arr xs) ↔ ∀ x ∈ xs, Solid x := by
  simp only [Solid, WellFormed, noEmptyMaps, wellFormedItems_iff, noEmptyMapsItems_iff,
    ← forall_and]

@[simp] theorem solid_obj {ms : Members} :
    Solid (.obj ms) ↔ ms ≠ [] ∧ Dictionary.Sorted ms ∧ ∀ m ∈ ms, Solid m.2 := by
  simp only [Solid, WellFormed, noEmptyMaps, wellFormedMembers_iff, noEmptyMapsMembers_iff,
    Bool.and_eq_true, Bool.not_eq_true', List.isEmpty_eq_false_iff]
  constructor
  · rintro ⟨⟨hs, hw⟩, hne, he⟩; exact ⟨hne, hs, fun m hm => ⟨hw m hm, he m hm⟩⟩
  · rintro ⟨hne, hs, h⟩; exact ⟨⟨hs, fun m hm => (h m hm).1⟩, hne, fun m hm => (h m hm).2⟩

theorem solid_ofTexts {texts : Dictionary String} (hs : Dictionary.Sorted texts) (hne : texts ≠ []) :
    Solid (.ofTexts texts) := by
  refine solid_obj.2 ⟨by simpa using hne, List.pairwise_map.2 hs, fun m hm => ?_⟩
  obtain ⟨t, _, rfl⟩ := List.mem_map.1 hm
  exact solid_str

theorem solid_ofOptional {ms : List (String × Option Json)} {k : String} {j : Json}
    (hk : (k, some j) ∈ ms) (h : ∀ m ∈ ms, ∀ v, m.2 = some v → Solid v) : Solid (.ofOptional ms) := by
  have hg : (k, j) ∈ ms.filterMap fun m => m.2.map (m.1, ·) :=
    List.mem_filterMap.2 ⟨_, hk, rfl⟩
  refine solid_obj.2 ⟨Dictionary.ofList_ne_nil (List.ne_nil_of_mem hg), Dictionary.sorted_ofList _,
    fun m hm => ?_⟩
  obtain ⟨f, hf, e⟩ := List.mem_filterMap.1 (Dictionary.mem_ofList hm)
  obtain ⟨v, hv, rfl⟩ := Option.map_eq_some_iff.1 e
  exact h f hf v hv

theorem solid_putFields {fields : List (String × Option Json)} {k : String} {j : Json}
    (hk : (putFields fields []).get? k = some j)
    (h : ∀ f ∈ fields, ∀ v, f.2 = some v → Solid v) : Solid (.obj (putFields fields [])) := by
  refine solid_obj.2 ⟨List.ne_nil_of_mem (Dictionary.mem_of_get? hk),
    sorted_putFields List.Pairwise.nil, fun m hm => ?_⟩
  exact h _ (mem_putFields_nil hm) _ rfl

/-- An object contains any part of it. -/
theorem contains_filter {ms : Members} (hw : (Json.obj ms).WellFormed) (p : String × Json → Bool) :
    (Json.obj ms).contains (.obj (ms.filter p)) = true := by
  refine contains_obj.2 ⟨ms, rfl, fun m hm => ?_⟩
  have hmem := (List.mem_filter.1 hm).1
  simpa [meets, Dictionary.get?_of_mem hw.1 hmem] using
    contains_refl m.2 (wellFormedMembers_iff.1 hw.2 m hmem)

end Json

namespace ManagedResource

open Json (mem_putFields_nil meets contains_obj contains_refl contains_filter)
open Dictionary (mem_of_get?)

theorem ownedSpec_eq_filter (kind : Kind) (spec : Members) :
    ∃ p, ownedSpec kind spec = spec.filter p := by
  unfold ownedSpec
  split
  · exact ⟨_, rfl⟩
  · exact ⟨_, rfl⟩

/-- Every dictionary in the part that is owned is in order. -/
structure Regular (r : ManagedResource) : Prop where
  body : (Json.obj r.body).WellFormed
  labels : ∀ ts, r.metadata.labels = some ts → Dictionary.Sorted ts
  annotations : ∀ ts, r.metadata.annotations = some ts → Dictionary.Sorted ts

theorem get?_toJson_of_body {r : ManagedResource} {k : String}
    (h : k ∉ ["apiVersion", "kind", "metadata"]) : r.toJson.get? k = r.body.get? k :=
  Json.get?_putFields_of_not_mem h

theorem get?_toJson_metadata (r : ManagedResource) :
    r.toJson.get? "metadata" = some r.metadata.toJson :=
  Json.get?_putFields_of_mem (by simp) (by simp)

theorem wellFormed_ofTexts {ts : Dictionary String} (h : Dictionary.Sorted ts) :
    (Json.ofTexts ts).WellFormed := by
  refine ⟨List.pairwise_map.2 h, Json.wellFormedMembers_iff.2 fun m hm => ?_⟩
  obtain ⟨t, _, rfl⟩ := List.mem_map.1 hm
  trivial

theorem contains_ownedMetadata {r : ManagedResource} (hr : r.Regular) :
    r.metadata.toJson.contains (.obj (ownedMetadata r.metadata)) = true := by
  refine contains_obj.2 ⟨_, rfl, fun ⟨k, v⟩ hm => ?_⟩
  have hmem := mem_putFields_nil hm
  simp only [List.mem_cons, Prod.mk.injEq, List.not_mem_nil, or_false] at hmem
  rcases hmem with ⟨rfl, hv⟩ | ⟨rfl, hv⟩ <;> obtain ⟨ts, hts, rfl⟩ := Option.map_eq_some_iff.1 hv.symm
  · rw [Json.get?_putFields_of_mem (v := .ofTexts ts) (by simp) (by simp [hts])]
    exact contains_refl _ (wellFormed_ofTexts (hr.annotations ts hts))
  · rw [Json.get?_putFields_of_mem (v := .ofTexts ts) (by simp) (by simp [hts])]
    exact contains_refl _ (wellFormed_ofTexts (hr.labels ts hts))

/-- A manifest contains what the operator owns of it. -/
theorem contains_ownedFields {r : ManagedResource} (hr : r.Regular) :
    r.toJson.contains r.ownedFields = true := by
  refine contains_obj.2 ⟨_, rfl, fun ⟨k, v⟩ hm => ?_⟩
  have hmem := mem_putFields_nil hm
  have hvalue := Json.wellFormedMembers_iff.1 hr.body.2
  simp only [List.mem_cons, Prod.mk.injEq, List.not_mem_nil, or_false] at hmem
  change meets (r.toJson.get? k) v = true
  rcases hmem with ⟨rfl, hv⟩ | ⟨rfl, hv⟩ | ⟨rfl, hv⟩
  · rw [get?_toJson_of_body (by simp), ← hv]
    exact contains_refl _ (hvalue _ (mem_of_get? hv.symm))
  · cases hv
    rw [get?_toJson_metadata]
    exact contains_ownedMetadata hr
  · obtain ⟨spec, hspec, rfl⟩ := Option.map_eq_some_iff.1 hv.symm
    obtain ⟨j, hj, hobj⟩ := Option.bind_eq_some_iff.1 hspec
    have hw := hvalue _ (mem_of_get? hj)
    obtain ⟨p, hp⟩ := ownedSpec_eq_filter r.kind spec
    rw [get?_toJson_of_body (by simp), hj, hp]
    cases j with
    | obj ms => cases hobj; exact contains_filter hw p
    | _ => cases hobj

/-! ## Solid resources -/

/-- What is owned of the resource is solid, and there is something of its labels and its spec. -/
structure Solid (r : ManagedResource) : Prop where
  sorted : Dictionary.Sorted r.body
  values : ∀ m ∈ r.body, Json.Solid m.2
  labels : ∃ ts, r.metadata.labels = some ts ∧ Dictionary.Sorted ts ∧ ts ≠ []
  annotations : ∀ ts, r.metadata.annotations = some ts → Dictionary.Sorted ts ∧ ts ≠ []
  spec : ∀ spec, r.body.get? "spec" = some (.obj spec) → ownedSpec r.kind spec ≠ []

theorem Solid.regular {r : ManagedResource} (hr : r.Solid) : r.Regular where
  body := ⟨hr.sorted, Json.wellFormedMembers_iff.2 fun m hm => (hr.values m hm).1⟩
  labels ts hts := by
    obtain ⟨ts', hts', hs, _⟩ := hr.labels
    cases hts.symm.trans hts'
    exact hs
  annotations ts hts := (hr.annotations ts hts).1

theorem solid_ownedMetadata {r : ManagedResource} (hr : r.Solid) :
    Json.Solid (.obj (ownedMetadata r.metadata)) := by
  obtain ⟨ts, hts, hs, hne⟩ := hr.labels
  refine Json.solid_putFields (k := "labels") (j := .ofTexts ts) ?_ ?_
  · exact Json.get?_putFields_of_mem (by simp) (by simp [hts])
  · intro f hf v hv
    simp only [List.mem_cons, List.not_mem_nil, or_false] at hf
    rcases hf with rfl | rfl <;> obtain ⟨us, hus, rfl⟩ := Option.map_eq_some_iff.1 hv
    · exact Json.solid_ofTexts (hr.annotations us hus).1 (hr.annotations us hus).2
    · cases hts.symm.trans hus
      exact Json.solid_ofTexts hs hne

theorem solid_ownedSpec {r : ManagedResource} (hr : r.Solid) {spec : Members}
    (h : r.body.get? "spec" = some (.obj spec)) : Json.Solid (.obj (ownedSpec r.kind spec)) := by
  obtain ⟨_, hs, hv⟩ := Json.solid_obj.1 (hr.values _ (mem_of_get? h))
  have hne := hr.spec spec h
  obtain ⟨p, hp⟩ := ownedSpec_eq_filter r.kind spec
  rw [hp] at hne ⊢
  exact Json.solid_obj.2 ⟨hne, List.Pairwise.filter _ hs, fun m hm => hv m (List.mem_filter.1 hm).1⟩

/-- What is owned of a solid resource is solid. -/
theorem solid_ownedFields {r : ManagedResource} (hr : r.Solid) : Json.Solid r.ownedFields := by
  refine Json.solid_putFields (k := "metadata") (j := .obj (ownedMetadata r.metadata)) ?_ ?_
  · exact Json.get?_putFields_of_mem (by simp) (by simp)
  · intro f hf v hv
    simp only [List.mem_cons, List.not_mem_nil, or_false] at hf
    rcases hf with rfl | rfl | rfl
    · exact hr.values _ (mem_of_get? hv)
    · cases hv
      exact solid_ownedMetadata hr
    · obtain ⟨spec, hspec, rfl⟩ := Option.map_eq_some_iff.1 hv
      obtain ⟨j, hj, hobj⟩ := Option.bind_eq_some_iff.1 hspec
      cases j with
      | obj ms => cases hobj; exact solid_ownedSpec hr hj
      | _ => cases hobj

end ManagedResource

end AppServiceOperator
