/-!
# Dictionaries

A dictionary lists its entries in ascending order of their keys, each key once. `Dictionary.insert`
and `Dictionary.ofList` are the ways to build one; `Dictionary.Sorted` states the order, and
insertion and erasure keep it. Looking a key up after an insertion or an erasure is
`get?_insert` and `get?_erase`.
-/
namespace AppServiceOperator

/-- Entries by ascending key. -/
abbrev Dictionary (α : Type) := List (String × α)

namespace Dictionary

variable {α : Type}

/-- Put a member at its place in the key order, replacing one of the same key. -/
def insert (k : String) (v : α) : Dictionary α → Dictionary α
  | [] => [(k, v)]
  | (k₁, v₁) :: ms =>
    if k < k₁ then (k, v) :: (k₁, v₁) :: ms
    else if k = k₁ then (k, v) :: ms
    else (k₁, v₁) :: insert k v ms

def erase (k : String) (ms : Dictionary α) : Dictionary α := ms.filter (·.1 ≠ k)

def get? (ms : Dictionary α) (k : String) : Option α := ms.lookup k

/-- Order members by key; of two with one key the later wins. -/
def ofList (ms : List (String × α)) : Dictionary α :=
  ms.foldl (fun acc m => acc.insert m.1 m.2) []

/-- Ascending keys, each once. -/
def Sorted (ms : Dictionary α) : Prop := ms.Pairwise (·.1 < ·.1)

@[simp] theorem get?_nil (k : String) : get? ([] : Dictionary α) k = none := rfl

theorem get?_cons (k k₁ : String) (v₁ : α) (ms : Dictionary α) :
    get? ((k₁, v₁) :: ms) k = if k = k₁ then some v₁ else get? ms k := by
  unfold get?
  rw [List.lookup_cons]
  by_cases h : k = k₁
  · simp [h]
  · simp [h, beq_eq_false_iff_ne.2 h]

theorem get?_insert (k k₁ : String) (v : α) (ms : Dictionary α) :
    get? (insert k v ms) k₁ = if k₁ = k then some v else get? ms k₁ := by
  induction ms with
  | nil => simp [insert, get?_cons]
  | cons m ms ih =>
    obtain ⟨k₂, v₂⟩ := m
    unfold insert
    split
    · simp [get?_cons]
    · split
      · rename_i h; subst h
        by_cases h : k₁ = k <;> simp [get?_cons, h]
      · rename_i hne
        rw [get?_cons, get?_cons, ih]
        by_cases h : k₁ = k₂
        · have hk : ¬ k₂ = k := fun e => hne e.symm
          simp [h, hk]
        · simp [h]

theorem get?_erase (k k₁ : String) (ms : Dictionary α) :
    get? (erase k ms) k₁ = if k₁ = k then none else get? ms k₁ := by
  induction ms with
  | nil => simp [erase, get?]
  | cons m ms ih =>
    obtain ⟨k₂, v₂⟩ := m
    unfold erase at ih ⊢
    by_cases h : k₂ = k
    · subst h
      simp only [List.filter, ne_eq, not_true, decide_false, ih, get?_cons]
      split <;> rfl
    · simp only [List.filter, ne_eq, h, not_false_iff, decide_true, get?_cons, ih]
      by_cases h₁ : k₁ = k₂
      · subst h₁; simp [h]
      · simp [h₁]

theorem mem_keys_insert {k k₁ : String} {v : α} {ms : Dictionary α} :
    k₁ ∈ (insert k v ms).map (·.1) → k₁ = k ∨ k₁ ∈ ms.map (·.1) := by
  induction ms with
  | nil => simp [insert]
  | cons m ms ih =>
    obtain ⟨k₂, v₂⟩ := m
    unfold insert
    split
    · simp
    · split
      · rename_i h; subst h; simp
      · intro h
        simp only [List.map_cons, List.mem_cons] at h ⊢
        rcases h with h | h
        · exact .inr (.inl h)
        · exact (ih h).imp id .inr

theorem sorted_insert (k : String) (v : α) {ms : Dictionary α} (h : Sorted ms) :
    Sorted (insert k v ms) := by
  induction ms with
  | nil => simp [insert, Sorted]
  | cons m ms ih =>
    obtain ⟨k₁, v₁⟩ := m
    have ⟨hlt, hms⟩ := List.pairwise_cons.1 h
    unfold insert
    split
    · rename_i hk
      refine List.pairwise_cons.2 ⟨?_, h⟩
      intro p hp
      rcases List.mem_cons.1 hp with rfl | hp
      · exact hk
      · exact String.lt_trans hk (hlt p hp)
    · split
      · rename_i hk; subst hk; exact List.pairwise_cons.2 ⟨hlt, hms⟩
      · rename_i hk hne
        refine List.pairwise_cons.2 ⟨?_, ih hms⟩
        intro p hp
        rcases mem_keys_insert (List.mem_map_of_mem hp) with e | e
        · have : k₁ < k := Decidable.byContradiction fun hge =>
            hne (String.le_antisymm (String.not_lt.1 hge) (String.not_lt.1 hk))
          exact e ▸ this
        · obtain ⟨q, hq, e⟩ := List.mem_map.1 e
          exact e ▸ hlt q hq

theorem sorted_erase (k : String) {ms : Dictionary α} (h : Sorted ms) : Sorted (erase k ms) :=
  List.Pairwise.filter _ h

theorem sorted_ofList (ms : List (String × α)) : Sorted (ofList ms) := by
  suffices ∀ acc : Dictionary α, Sorted acc → Sorted (ms.foldl (fun acc m => acc.insert m.1 m.2) acc) from
    this [] List.Pairwise.nil
  induction ms with
  | nil => exact fun _ h => h
  | cons m ms ih => exact fun acc h => ih _ (sorted_insert _ _ h)

end Dictionary

end AppServiceOperator
