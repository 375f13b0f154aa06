import AppServiceOperator.Json.MergePatch
import AppServiceOperator.Json.Record
/-!
# Patches without removals

A null in a merge patch removes a member. A value without a null that is reached through objects
only removes nothing, and a value of which this holds and that is not null itself can be set by a
merge patch. Building objects of such values keeps them so.
-/
namespace AppServiceOperator.Json

mutual
/-- No member reached through objects is null, so the value as a patch removes nothing. -/
def nullFree : Json → Bool
  | .obj members => nullFreeMembers members
  | _ => true

def nullFreeMembers : List (String × Json) → Bool
  | [] => true
  | (_, .null) :: _ => false
  | (_, v) :: ms => nullFree v && nullFreeMembers ms
end

theorem nullFreeMembers_cons {k : String} {v : Json} {ms : List (String × Json)} :
    nullFreeMembers ((k, v) :: ms) = true ↔ v ≠ .null ∧ nullFree v = true ∧ nullFreeMembers ms = true := by
  cases v <;> simp [nullFreeMembers]

theorem nullFreeMembers_iff {ms : List (String × Json)} :
    nullFreeMembers ms = true ↔ ∀ m ∈ ms, m.2 ≠ .null ∧ nullFree m.2 = true := by
  induction ms with
  | nil => simp [nullFreeMembers]
  | cons m ms ih =>
    obtain ⟨k, v⟩ := m
    simp [nullFreeMembers_cons, ih, and_assoc]

theorem nullFreeMembers_insert {k : String} {v : Json} {ms : Members} (hv : v ≠ .null)
    (hf : nullFree v = true) (h : nullFreeMembers ms = true) :
    nullFreeMembers (Dictionary.insert k v ms) = true := by
  induction ms with
  | nil => simpa [Dictionary.insert, nullFreeMembers_iff] using ⟨hv, hf⟩
  | cons m ms ih =>
    obtain ⟨k₁, v₁⟩ := m
    obtain ⟨h₁, h₂, h₃⟩ := nullFreeMembers_cons.1 h
    unfold Dictionary.insert
    split
    · exact nullFreeMembers_cons.2 ⟨hv, hf, h⟩
    · split
      · exact nullFreeMembers_cons.2 ⟨hv, hf, h₃⟩
      · exact nullFreeMembers_cons.2 ⟨h₁, h₂, ih h₃⟩

theorem nullFreeMembers_filter {ms : Members} {p : String × Json → Bool}
    (h : nullFreeMembers ms = true) : nullFreeMembers (ms.filter p) = true := by
  rw [nullFreeMembers_iff] at h ⊢
  exact fun m hm => h m (List.mem_filter.1 hm).1

/-- What holds of a value that a merge patch can set. -/
def Settable (j : Json) : Prop := j ≠ .null ∧ j.nullFree = true

theorem settable_ofTexts (texts : Dictionary String) : Settable (.ofTexts texts) := by
  refine ⟨by simp [ofTexts], ?_⟩
  simp only [ofTexts, nullFree, nullFreeMembers_iff, List.mem_map]
  rintro m ⟨t, _, rfl⟩
  simp [nullFree]

theorem nullFreeMembers_putFields {fields : List (String × Option Json)} {others : Members}
    (hf : ∀ field ∈ fields, ∀ v, field.2 = some v → Settable v)
    (ho : nullFreeMembers others = true) :
    nullFreeMembers (putFields fields others) = true := by
  induction fields generalizing others with
  | nil => exact ho
  | cons field fields ih =>
    have h := hf field List.mem_cons_self
    have hfs := fun f hm => hf f (List.mem_cons_of_mem _ hm)
    obtain ⟨k, v | v⟩ := field
    · exact ih hfs ho
    · exact ih hfs (nullFreeMembers_insert (h v rfl).1 (h v rfl).2 ho)

theorem nullFreeMembers_ofList {ms : List (String × Json)} (h : nullFreeMembers ms = true) :
    nullFreeMembers (Dictionary.ofList ms) = true := by
  have insertAll (acc : Members) (hacc : nullFreeMembers acc = true) :
      nullFreeMembers (ms.foldl (fun acc m => Dictionary.insert m.1 m.2 acc) acc) = true := by
    induction ms generalizing acc with
    | nil => exact hacc
    | cons m ms ih =>
      obtain ⟨h₁, h₂, h₃⟩ := nullFreeMembers_cons.1 h
      exact ih h₃ _ (nullFreeMembers_insert h₁ h₂ hacc)
  exact insertAll [] rfl

theorem settable_ofOptional {ms : List (String × Option Json)}
    (h : ∀ m ∈ ms, ∀ v, m.2 = some v → Settable v) : Settable (.ofOptional ms) := by
  refine ⟨by simp [ofOptional, ofMembers], nullFreeMembers_ofList (nullFreeMembers_iff.2 ?_)⟩
  intro m hm
  obtain ⟨⟨k, v⟩, hkv, hv⟩ := List.mem_filterMap.1 hm
  obtain ⟨v, rfl, rfl⟩ := Option.map_eq_some_iff.1 hv
  exact h _ hkv v rfl

theorem settable_get? {ms : Members} {k : String} {v : Json} (h : nullFreeMembers ms = true)
    (hv : ms.get? k = some v) : Settable v := by
  induction ms with
  | nil => simp at hv
  | cons m ms ih =>
    obtain ⟨k₁, v₁⟩ := m
    obtain ⟨h₁, h₂, h₃⟩ := nullFreeMembers_cons.1 h
    rw [Dictionary.get?_cons] at hv
    split at hv
    · cases hv; exact ⟨h₁, h₂⟩
    · exact ih h₃ hv

end AppServiceOperator.Json
