import AppServiceOperator.Json.Record
import AppServiceOperator.Proofs.Json.Containment
/-!
# Records and patches of records

What is found in a record by the names of its fields (`get?_putFields`), and in what a merge patch
that is a record makes of any target (`get?_mergePatch_ofOptional`): a field that the patch does not
write stays as it was. A value that is written for a field is read again (`LawfulEnumeration`,
`list?_map`).
-/
namespace AppServiceOperator

namespace Dictionary

variable {α : Type}

theorem mem_insert {k : String} {v : α} {ms : Dictionary α} {m : String × α} (h : m ∈ insert k v ms) :
    m = (k, v) ∨ m ∈ ms := by
  induction ms with
  | nil => simpa [insert] using h
  | cons m₁ ms ih =>
    obtain ⟨k₁, v₁⟩ := m₁
    unfold insert at h
    split at h
    · exact List.mem_cons.1 h
    · split at h
      · exact (List.mem_cons.1 h).imp id (List.mem_cons_of_mem _)
      · rcases List.mem_cons.1 h with rfl | h
        · exact .inr List.mem_cons_self
        · exact (ih h).imp id (List.mem_cons_of_mem _)

theorem insert_ne_nil {k : String} {v : α} {ms : Dictionary α} : insert k v ms ≠ [] := by
  cases ms with
  | nil => simp [insert]
  | cons m ms => unfold insert; split <;> (try split) <;> simp

theorem mem_ofList {ms : List (String × α)} {m : String × α} (h : m ∈ ofList ms) : m ∈ ms := by
  have insertAll (ms : List (String × α)) (acc : Dictionary α)
      (h : m ∈ ms.foldl (fun acc m => acc.insert m.1 m.2) acc) : m ∈ acc ∨ m ∈ ms := by
    induction ms generalizing acc with
    | nil => exact .inl h
    | cons m₁ ms ih =>
      rcases ih _ h with h | h
      · rcases mem_insert h with rfl | h
        · exact .inr List.mem_cons_self
        · exact .inl h
      · exact .inr (List.mem_cons_of_mem _ h)
  simpa using insertAll ms [] h

theorem ofList_ne_nil {ms : List (String × α)} (h : ms ≠ []) : ofList ms ≠ [] := by
  have insertAll (ms : List (String × α)) (acc : Dictionary α) (h : acc ≠ []) :
      ms.foldl (fun acc m => acc.insert m.1 m.2) acc ≠ [] := by
    induction ms generalizing acc with
    | nil => exact h
    | cons m ms ih => exact ih _ insert_ne_nil
  cases ms with
  | nil => exact absurd rfl h
  | cons m ms => exact insertAll ms _ insert_ne_nil

/-- Whether each text is before the next one. -/
def ascending : List String → Bool
  | k :: l :: ks => decide (k < l) && ascending (l :: ks)
  | _ => true

@[simp] theorem ascending_singleton (k : String) : ascending [k] = true := rfl

/-- The order of the keys can be computed. -/
theorem sorted_iff_ascending {ms : Dictionary α} : Sorted ms ↔ ascending (ms.map (·.1)) = true := by
  induction ms with
  | nil => simp [Sorted, ascending]
  | cons m ms ih =>
    cases ms with
    | nil => simp [Sorted]
    | cons m₁ ms =>
      simp only [List.map_cons, ascending, Bool.and_eq_true, decide_eq_true_eq] at ih ⊢
      rw [← ih]
      constructor
      · intro h
        obtain ⟨hm, hms⟩ := List.pairwise_cons.1 h
        exact ⟨hm _ List.mem_cons_self, hms⟩
      · rintro ⟨hm, hms⟩
        refine List.pairwise_cons.2 ⟨fun n hn => ?_, hms⟩
        rcases List.mem_cons.1 hn with rfl | hn
        · exact hm
        · exact String.lt_trans hm ((List.pairwise_cons.1 hms).1 n hn)

end Dictionary

namespace Json

/-! ## Fields -/

theorem mem_putFields {fields : List (String × Option Json)} {others : Members} {m : String × Json}
    (h : m ∈ putFields fields others) : (m.1, some m.2) ∈ fields ∨ m ∈ others := by
  induction fields generalizing others with
  | nil => exact .inr h
  | cons f fields ih =>
    obtain ⟨k, v | v⟩ := f
    · exact (ih h).imp (List.mem_cons_of_mem _) id
    · rcases ih h with h | h
      · exact .inl (List.mem_cons_of_mem _ h)
      · rcases Dictionary.mem_insert h with rfl | h
        · exact .inl List.mem_cons_self
        · exact .inr h

theorem sorted_putFields {fields : List (String × Option Json)} {others : Members}
    (h : Dictionary.Sorted others) : Dictionary.Sorted (putFields fields others) := by
  induction fields generalizing others with
  | nil => exact h
  | cons f fields ih =>
    obtain ⟨k, v | v⟩ := f
    · exact ih h
    · exact ih (Dictionary.sorted_insert _ _ h)

theorem get?_putFields_of_not_mem {k : String} {fields : List (String × Option Json)} {others : Members}
    (h : k ∉ fields.map (·.1)) : (putFields fields others).get? k = others.get? k := by
  induction fields generalizing others with
  | nil => rfl
  | cons f fields ih =>
    obtain ⟨l, v | v⟩ := f <;> simp only [List.map_cons, List.mem_cons, not_or] at h
    · exact ih h.2
    · exact (ih h.2).trans (by rw [Dictionary.get?_insert, if_neg h.1])

theorem get?_putFields_of_mem {k : String} {v : Json} {fields : List (String × Option Json)}
    {others : Members} (hn : (fields.map (·.1)).Nodup) (h : (k, some v) ∈ fields) :
    (putFields fields others).get? k = some v := by
  induction fields generalizing others with
  | nil => cases h
  | cons f fields ih =>
    have ⟨hf, hfs⟩ := List.nodup_cons.1 hn
    rcases List.mem_cons.1 h with rfl | hm
    · exact (get?_putFields_of_not_mem hf).trans (by simp [Dictionary.get?_insert])
    · obtain ⟨l, w | w⟩ := f <;> exact ih hfs hm

/-- The members that a record consists of, where there are no others. -/
theorem mem_putFields_nil {fields : List (String × Option Json)} {m : String × Json}
    (h : m ∈ putFields fields []) : (m.1, some m.2) ∈ fields := by
  simpa using mem_putFields h

/-- A field holds what is put there, and what was there before where nothing is put. -/
theorem get?_putFields {k : String} {v : Option Json} {fields : List (String × Option Json)}
    {others : Members} (hn : (fields.map (·.1)).Nodup) (h : (k, v) ∈ fields) :
    (putFields fields others).get? k = v.or (others.get? k) := by
  cases v with
  | some v => simpa using get?_putFields_of_mem hn h
  | none =>
    induction fields generalizing others with
    | nil => cases h
    | cons f fields ih =>
      have ⟨hf, hfs⟩ := List.nodup_cons.1 hn
      rcases List.mem_cons.1 h with rfl | hm
      · change (putFields fields others).get? k = others.get? k
        exact get?_putFields_of_not_mem hf
      · obtain ⟨l, w | w⟩ := f
        · exact ih hfs hm
        · have hk : k ∈ fields.map (·.1) := List.mem_map.2 ⟨_, hm, rfl⟩
          have hne : k ≠ l := by
            rintro rfl
            exact hf hk
          exact (ih hfs hm).trans (by simp [Dictionary.get?_insert, hne])

theorem ofOptional_eq_putFields (fields : List (String × Option Json)) :
    ofOptional fields = .obj (putFields fields []) := by
  rw [ofOptional, ofMembers, Dictionary.ofList, List.foldl_filterMap, putFields]
  congr 2
  funext ms field
  obtain ⟨k, v | v⟩ := field <;> rfl

/-! ## After a patch -/

@[simp] theorem mergePatch_str (target : Json) (s : String) : target.mergePatch (.str s) = .str s := by
  simp [mergePatch]

@[simp] theorem mergePatch_int (target : Json) (n : Int) : target.mergePatch (.int n) = .int n := by
  simp [mergePatch]

@[simp] theorem mergePatch_arr (target : Json) (items : List Json) :
    target.mergePatch (.arr items) = .arr items := by
  simp [mergePatch]

theorem mergePatch_obj_ne_null (target : Json) (ps : Members) : target.mergePatch (.obj ps) ≠ .null := by
  simp [mergePatch]

theorem get?_obj?_getD (j : Json) (k : String) : Dictionary.get? (j.obj?.getD []) k = j.get? k := by
  cases j <;> rfl

theorem get?_mergePatch_of_mem {target v : Json} {ps : Members} {k : String} (hs : Dictionary.Sorted ps)
    (h : (k, v) ∈ ps) (hv : v ≠ .null) :
    (target.mergePatch (.obj ps)).get? k = some (((target.get? k).getD .null).mergePatch v) := by
  rw [mergePatch, get?, get?_mergeMembers_of_mem hs h hv, get?_obj?_getD]

theorem get?_mergePatch_of_text {target : Json} {ps : Members} {k s : String} (hs : Dictionary.Sorted ps)
    (h : (k, .str s) ∈ ps) : (target.mergePatch (.obj ps)).get? k = some (.str s) := by
  rw [get?_mergePatch_of_mem hs h (by simp), mergePatch_str]

theorem get?_mergePatch_of_null {target : Json} {ps : Members} {k : String} (hs : Dictionary.Sorted ps)
    (h : (k, .null) ∈ ps) : (target.mergePatch (.obj ps)).get? k = none := by
  rw [mergePatch, get?, get?_mergeMembers_of_null hs h]

theorem get?_mergePatch_of_not_mem {target : Json} {ps : Members} {k : String} (h : k ∉ ps.map (·.1)) :
    (target.mergePatch (.obj ps)).get? k = target.get? k := by
  rw [mergePatch, get?, get?_mergeMembers_of_not_mem h, get?_obj?_getD]

/-- A record as a patch: a field that is written is merged, any other stays. -/
theorem get?_mergePatch_ofOptional {target : Json} {fields : List (String × Option Json)} {k : String}
    {v : Option Json} (hn : (fields.map (·.1)).Nodup) (h : (k, v) ∈ fields) (hv : v ≠ some .null) :
    (target.mergePatch (.ofOptional fields)).get? k =
      (v.map ((target.get? k).getD .null).mergePatch).or (target.get? k) := by
  rw [ofOptional_eq_putFields]
  have hk : (putFields fields []).get? k = v := (get?_putFields hn h).trans (by simp)
  cases v with
  | some v =>
    refine get?_mergePatch_of_mem (sorted_putFields List.Pairwise.nil) (Dictionary.mem_of_get? hk) ?_
    exact fun e => hv (congrArg some e)
  | none =>
    refine get?_mergePatch_of_not_mem fun hmem => ?_
    obtain ⟨⟨l, w⟩, hlw, rfl⟩ := List.mem_map.1 hmem
    rw [Dictionary.get?_of_mem (sorted_putFields List.Pairwise.nil) hlw] at hk
    cases hk

/-! ## Reading -/

theorem fields?_mergePatch_obj (target : Json) (ps : Members) (names : List String) :
    (target.mergePatch (.obj ps)).fields? names =
      some (names.map (target.mergePatch (.obj ps)).get?) := by
  rw [mergePatch]
  rfl

theorem fields?_mergePatch_ofOptional (target : Json) (fields : List (String × Option Json))
    (names : List String) :
    (target.mergePatch (.ofOptional fields)).fields? names =
      some (names.map (target.mergePatch (.ofOptional fields)).get?) := by
  rw [ofOptional_eq_putFields, fields?_mergePatch_obj]

theorem optional_eq_some {α : Type} {read : Json → Option α} {j : Json} {a : α} (hj : j ≠ .null)
    (h : read j = some a) : optional read (some j) = some (some a) := by
  cases j with
  | null => exact absurd rfl hj
  | _ => rw [optional, h]; rfl; simp

/-- Items that are read as they were written make up a list that is. -/
theorem list?_map {α : Type} {read : Json → Option α} {write : α → Json} {xs : List α}
    (h : ∀ x ∈ xs, read (write x) = some x) : list? read (.arr (xs.map write)) = some xs := by
  rw [list?]
  induction xs with
  | nil => rfl
  | cons x xs ih =>
    obtain ⟨hx, hxs⟩ := List.forall_mem_cons.1 h
    simp [hx, ih hxs]

theorem word?_ofNat (n : UInt64) : word? (.int n.toNat) = some n := by
  change (if n.toNat < 0x10000000000000000 then some n.toNat.toUInt64 else none) = some n
  rw [if_pos n.toNat_lt]
  simp

end Json

/-- No two values have the same name. -/
class LawfulEnumeration (α : Type) [Enumeration α] : Prop where
  ofSpelling?_spelling : ∀ a : α, Enumeration.ofSpelling? (Enumeration.spelling a) = some a

@[simp] theorem Enumeration.ofJson?_toJson {α : Type} [Enumeration α] [LawfulEnumeration α] (a : α) :
    Enumeration.ofJson? (Enumeration.toJson a) = some a :=
  LawfulEnumeration.ofSpelling?_spelling a

end AppServiceOperator
