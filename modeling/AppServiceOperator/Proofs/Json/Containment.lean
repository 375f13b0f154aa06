import AppServiceOperator.Json.Contains
import AppServiceOperator.Json.Settable
/-!
# Containment after a patch, and while a server adds members

A patch without removals establishes itself: `contains_mergePatch`. A server may add members to
objects at keys that they lack (`Gains`, `Grown`). An empty map in the desired value is met by an
absent member, so that an addition there can undo containment; where the desired value has no
empty map (`noEmptyMaps`), containment lasts: `contains_of_grown`.
-/
namespace AppServiceOperator

/-! ## Looking up in sorted members -/

namespace Dictionary

variable {α : Type}

theorem mem_of_get? {ms : Dictionary α} {k : String} {v : α} (h : get? ms k = some v) : (k, v) ∈ ms := by
  induction ms with
  | nil => simp at h
  | cons m ms ih =>
    obtain ⟨k₁, v₁⟩ := m
    rw [get?_cons] at h
    split at h
    · rename_i e; cases h; subst e; exact List.mem_cons_self
    · exact List.mem_cons_of_mem _ (ih h)

theorem get?_of_mem {ms : Dictionary α} {k : String} {v : α} (hs : Sorted ms) (h : (k, v) ∈ ms) :
    get? ms k = some v := by
  induction ms with
  | nil => cases h
  | cons m ms ih =>
    obtain ⟨k₁, v₁⟩ := m
    have ⟨hlt, hms⟩ := List.pairwise_cons.1 hs
    rw [get?_cons]
    rcases List.mem_cons.1 h with e | hm
    · cases e; simp
    · have hne : ¬ k = k₁ := by
        rintro rfl
        exact absurd (hlt _ hm) (String.lt_irrefl _)
      rw [if_neg hne, ih hms hm]

theorem not_mem_keys_of_sorted {k : String} {v : α} {ms : Dictionary α} (hs : Sorted ((k, v) :: ms)) :
    k ∉ ms.map (·.1) := by
  intro h
  obtain ⟨m, hm, rfl⟩ := List.mem_map.1 h
  exact String.lt_irrefl _ ((List.pairwise_cons.1 hs).1 m hm)

/-- Of two dictionaries that differ in one entry, a look-up finds the same in both, or that entry. -/
theorem get?_replace {front back : Dictionary α} {k l : String} {v w x : α}
    (h : get? (front ++ (k, v) :: back) l = some x) :
    get? (front ++ (k, w) :: back) l = some x ∨
      (x = v ∧ get? (front ++ (k, w) :: back) l = some w) := by
  induction front with
  | nil =>
    simp only [List.nil_append, get?_cons] at h ⊢
    split at h
    · rename_i e; cases h; exact .inr ⟨rfl, by simp [e]⟩
    · rename_i e; exact .inl (by simp [e, h])
  | cons m front ih =>
    obtain ⟨k₁, v₁⟩ := m
    simp only [List.cons_append, get?_cons] at h ⊢
    split at h
    · rename_i e; exact .inl (by simp [e, h])
    · rename_i e; simpa [e] using ih h

end Dictionary

namespace Json

open Dictionary (get?_cons get?_insert get?_erase get?_of_mem mem_of_get? get?_replace)

theorem wellFormedMembers_iff {ms : List (String × Json)} :
    WellFormedMembers ms ↔ ∀ m ∈ ms, m.2.WellFormed := by
  induction ms with
  | nil => simp [WellFormedMembers]
  | cons m ms ih =>
    obtain ⟨k, v⟩ := m
    simp [WellFormedMembers, ih]

theorem wellFormedItems_iff {xs : List Json} : WellFormedItems xs ↔ ∀ x ∈ xs, x.WellFormed := by
  induction xs with
  | nil => simp [WellFormedItems]
  | cons x xs ih => simp [WellFormedItems, ih]

theorem wellFormed_of_get? {ms : Members} {k : String} {v : Json} (h : WellFormedMembers ms)
    (hv : ms.get? k = some v) : v.WellFormed :=
  wellFormedMembers_iff.1 h _ (mem_of_get? hv)

theorem wellFormedMembers_filter {ms : Members} {p : String × Json → Bool} (h : WellFormedMembers ms) :
    WellFormedMembers (ms.filter p) :=
  wellFormedMembers_iff.2 fun m hm => wellFormedMembers_iff.1 h m (List.mem_filter.1 hm).1

/-! ## Containment -/

/-- Whether a desired member is met by what the current object has at its key. -/
def meets (current : Option Json) (desired : Json) : Bool :=
  match current with
  | some c => c.contains desired
  | none => desired.isEmptyObj

theorem containsMembers_iff {cs : Members} {ds : List (String × Json)} :
    containsMembers cs ds = true ↔ ∀ m ∈ ds, meets (cs.get? m.1) m.2 = true := by
  induction ds with
  | nil => simp [containsMembers]
  | cons m ds ih =>
    obtain ⟨k, d⟩ := m
    simp only [containsMembers, Bool.and_eq_true, ih, List.forall_mem_cons]
    exact Iff.rfl

/-- What an object contains, each of its members contains where it is there. -/
theorem contains_obj {c : Json} {ds : List (String × Json)} :
    c.contains (.obj ds) = true ↔
      ∃ cs, c = .obj cs ∧ ∀ m ∈ ds, meets (Dictionary.get? cs m.1) m.2 = true := by
  cases c with
  | obj cs => simp [contains, containsMembers_iff]
  | _ => simp [contains]

mutual
theorem contains_refl : (j : Json) → j.WellFormed → j.contains j = true
  | .null, _ | .bool _, _ | .int _, _ | .double _, _ | .str _, _ => by simp [contains, same_refl]
  | .arr xs, h => by simpa [contains] using containsItems_refl xs h
  | .obj ms, h => by
    refine contains_obj.2 ⟨ms, rfl, fun m hm => ?_⟩
    simpa [meets, get?_of_mem h.1 hm] using contains_refl_of_mem ms h.2 m hm

theorem containsItems_refl : (xs : List Json) → WellFormedItems xs → containsItems xs xs = true
  | [], _ => rfl
  | x :: xs, h => by simp [containsItems, contains_refl x h.1, containsItems_refl xs h.2]

theorem contains_refl_of_mem : (ms : List (String × Json)) → WellFormedMembers ms →
    ∀ m ∈ ms, m.2.contains m.2 = true
  | (k, v) :: ms, h, m, hm => by
    rcases List.mem_cons.1 hm with rfl | hm
    · exact contains_refl v h.1
    · exact contains_refl_of_mem ms h.2 m hm
end

/-! ## After a patch -/

theorem get?_mergeMembers_of_not_mem {k : String} {ps : List (String × Json)} {target : Members}
    (h : k ∉ ps.map (·.1)) : (mergeMembers target ps).get? k = target.get? k := by
  induction ps generalizing target with
  | nil => rfl
  | cons p ps ih =>
    obtain ⟨l, v⟩ := p
    simp only [List.map_cons, List.mem_cons, not_or] at h
    cases v with
    | null => rw [mergeMembers, ih h.2, get?_erase, if_neg h.1]
    | _ =>
      rw [mergeMembers, ih h.2, get?_insert, if_neg h.1]
      simp

/-- What a patch makes of a member that it sets. -/
theorem get?_mergeMembers_of_mem {k : String} {v : Json} {ps : List (String × Json)} {target : Members}
    (hs : Dictionary.Sorted ps) (h : (k, v) ∈ ps) (hv : v ≠ .null) :
    (mergeMembers target ps).get? k = some (mergePatch ((target.get? k).getD .null) v) := by
  induction ps generalizing target with
  | nil => cases h
  | cons p ps ih =>
    obtain ⟨l, w⟩ := p
    have hl := Dictionary.not_mem_keys_of_sorted hs
    have hps := (List.pairwise_cons.1 hs).2
    rcases List.mem_cons.1 h with e | hm
    · cases e
      cases v with
      | null => exact absurd rfl hv
      | _ => rw [mergeMembers, get?_mergeMembers_of_not_mem hl, get?_insert, if_pos rfl]; simp
    · have hne : k ≠ l := by
        rintro rfl
        exact hl (List.mem_map_of_mem hm)
      cases w with
      | null => rw [mergeMembers, ih hps hm, get?_erase, if_neg hne]
      | _ => rw [mergeMembers, ih hps hm, get?_insert, if_neg hne]; simp

/-- A null in a patch removes the member. -/
theorem get?_mergeMembers_of_null {k : String} {ps : List (String × Json)} {target : Members}
    (hs : Dictionary.Sorted ps) (h : (k, .null) ∈ ps) : (mergeMembers target ps).get? k = none := by
  induction ps generalizing target with
  | nil => cases h
  | cons p ps ih =>
    obtain ⟨l, w⟩ := p
    rcases List.mem_cons.1 h with e | hm
    · cases e
      rw [mergeMembers, get?_mergeMembers_of_not_mem (Dictionary.not_mem_keys_of_sorted hs), get?_erase,
        if_pos rfl]
    · have hps := (List.pairwise_cons.1 hs).2
      cases w with
      | null => rw [mergeMembers, ih hps hm]
      | _ => rw [mergeMembers, ih hps hm]; simp

mutual
/-- A patch that removes nothing is contained in what it makes of any target. -/
theorem contains_mergePatch : (p : Json) → p.nullFree = true → p.WellFormed → (target : Json) →
    (mergePatch target p).contains p = true
  | .null, _, _, _ | .bool _, _, _, _ | .int _, _, _, _ | .double _, _, _, _ | .str _, _, _, _ => by
    simp [mergePatch, contains, same_refl]
  | .arr xs, _, hw, _ => by simpa [mergePatch] using contains_refl (.arr xs) hw
  | .obj ps, hn, hw, target => by
    rw [mergePatch]
    refine contains_obj.2 ⟨_, rfl, fun m hm => ?_⟩
    rw [get?_mergeMembers_of_mem hw.1 hm (nullFreeMembers_iff.1 hn m hm).1]
    exact contains_mergePatch_of_mem ps hn hw.2 m hm _

theorem contains_mergePatch_of_mem : (ps : List (String × Json)) → nullFreeMembers ps = true →
    WellFormedMembers ps → ∀ m ∈ ps, ∀ target, (mergePatch target m.2).contains m.2 = true
  | (k, v) :: ps, hn, hw, m, hm, target => by
    obtain ⟨_, hv, hps⟩ := nullFreeMembers_cons.1 hn
    rcases List.mem_cons.1 hm with rfl | hm
    · exact contains_mergePatch v hv hw.1 target
    · exact contains_mergePatch_of_mem ps hps hw.2 m hm target
end

/-! ## While members are added -/

/-- One member more, at a key that an object inside the value lacks. -/
inductive Gains : Json → Json → Prop where
  | here {ms : Members} {k : String} (v : Json) (h : ms.get? k = none) :
      Gains (.obj ms) (.obj (Dictionary.insert k v ms))
  | member {v w : Json} (front : Members) (k : String) (back : Members) (h : Gains v w) :
      Gains (.obj (front ++ (k, v) :: back)) (.obj (front ++ (k, w) :: back))
  | item {v w : Json} (front back : List Json) (h : Gains v w) :
      Gains (.arr (front ++ v :: back)) (.arr (front ++ w :: back))

/-- Any number of members more, at any depth. -/
inductive Grown : Json → Json → Prop where
  | same (j : Json) : Grown j j
  | more {a b c : Json} (h : Grown a b) (g : Gains b c) : Grown a c

mutual
/-- No object inside the value is empty. -/
def noEmptyMaps : Json → Bool
  | .arr items => noEmptyMapsItems items
  | .obj members => !members.isEmpty && noEmptyMapsMembers members
  | _ => true

def noEmptyMapsItems : List Json → Bool
  | [] => true
  | x :: xs => noEmptyMaps x && noEmptyMapsItems xs

def noEmptyMapsMembers : List (String × Json) → Bool
  | [] => true
  | (_, v) :: ms => noEmptyMaps v && noEmptyMapsMembers ms
end

theorem noEmptyMapsMembers_iff {ms : List (String × Json)} :
    noEmptyMapsMembers ms = true ↔ ∀ m ∈ ms, m.2.noEmptyMaps = true := by
  induction ms with
  | nil => simp [noEmptyMapsMembers]
  | cons m ms ih =>
    obtain ⟨k, v⟩ := m
    simp [noEmptyMapsMembers, ih]

theorem noEmptyMapsItems_iff {xs : List Json} :
    noEmptyMapsItems xs = true ↔ ∀ x ∈ xs, x.noEmptyMaps = true := by
  induction xs with
  | nil => simp [noEmptyMapsItems]
  | cons x xs ih => simp [noEmptyMapsItems, ih]

theorem isEmptyObj_eq_false {d : Json} (h : d.noEmptyMaps = true) : d.isEmptyObj = false := by
  cases d with
  | obj ms => cases ms <;> simp_all [noEmptyMaps, isEmptyObj]
  | _ => rfl

/-- Of two arrays that differ in one item, the second contains what the first does. -/
theorem containsItems_replace {v w : Json} {back ds : List Json} :
    ∀ {front : List Json}, (∀ d ∈ ds, v.contains d = true → w.contains d = true) →
      containsItems (front ++ v :: back) ds = true → containsItems (front ++ w :: back) ds = true := by
  induction ds with
  | nil => intro front _ h; cases front <;> simp [containsItems] at h
  | cons d ds ih =>
    intro front hvw h
    have htail := fun d' hd' => hvw d' (List.mem_cons_of_mem _ hd')
    cases front with
    | nil =>
      simp only [List.nil_append, containsItems, Bool.and_eq_true] at h ⊢
      exact ⟨hvw d List.mem_cons_self h.1, h.2⟩
    | cons c front =>
      simp only [List.cons_append, containsItems, Bool.and_eq_true] at h ⊢
      exact ⟨h.1, ih htail h.2⟩

theorem contains_of_gains {c c' : Json} (g : Gains c c') :
    ∀ {d : Json}, d.noEmptyMaps = true → c.contains d = true → c'.contains d = true := by
  induction g with
  | @here ms k v h =>
    intro d hd hc
    cases d with
    | obj ds =>
      obtain ⟨_, e, hm⟩ := contains_obj.1 hc
      cases e
      refine contains_obj.2 ⟨_, rfl, fun m hmem => ?_⟩
      -- the added key is one that no desired member asks for, since none of them is an empty map
      have hk : m.1 ≠ k := by
        rintro rfl
        have hmet := hm m hmem
        have hfull := noEmptyMapsMembers_iff.1 (Bool.and_eq_true_iff.1 hd).2 m hmem
        rw [h] at hmet
        simp [meets, isEmptyObj_eq_false hfull] at hmet
      rw [get?_insert, if_neg hk]
      exact hm m hmem
    | _ => simp [contains, same] at hc
  | @member v w front k back _ ih =>
    intro d hd hc
    cases d with
    | obj ds =>
      obtain ⟨_, e, hm⟩ := contains_obj.1 hc
      cases e
      refine contains_obj.2 ⟨_, rfl, fun m hmem => ?_⟩
      have hmet := hm m hmem
      have hfull := noEmptyMapsMembers_iff.1 (Bool.and_eq_true_iff.1 hd).2 m hmem
      cases hg : Dictionary.get? (front ++ (k, v) :: back) m.1 with
      | none => rw [hg] at hmet; simp [meets, isEmptyObj_eq_false hfull] at hmet
      | some x =>
        rw [hg] at hmet
        rcases get?_replace (w := w) hg with hg' | ⟨rfl, hg'⟩
        · rw [hg']; exact hmet
        · rw [hg']; exact ih hfull hmet
    | _ => simp [contains, same] at hc
  | item front back _ ih =>
    intro d hd hc
    cases d with
    | arr ds =>
      have hfull := noEmptyMapsItems_iff.1 hd
      exact containsItems_replace (fun d hmem => ih (hfull d hmem)) hc
    | _ => simp [contains, same] at hc

/-- Containment of a value without empty maps lasts while members are added. -/
theorem contains_of_grown {c c' d : Json} (hd : d.noEmptyMaps = true) (hc : c.contains d = true)
    (g : Grown c c') : c'.contains d = true := by
  induction g with
  | same => exact hc
  | more _ g ih => exact contains_of_gains g hd ih

end Json

end AppServiceOperator
