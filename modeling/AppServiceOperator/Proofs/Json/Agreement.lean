import AppServiceOperator.Proofs.Json.Record
/-!
# The drift test and the patch

Containment is what a patch is sent for, and a patch is what brings it about. The two fit each other:
a patch without removals is contained in what it makes of any value, so that a patch is only missing
where it would change something, and where nothing is missing it changes nothing but empty maps
(`mergePatch_agrees`). Values are compared as numbers are, by `Json.same`; it keeps containment
(`contains_of_same`).
-/
namespace AppServiceOperator

/-- Two doubles that equal a third one equal each other. -/
theorem Binary64.same_of_same {a b c : Binary64} (hb : a.same b = true) (hc : a.same c = true) :
    b.same c = true := by
  have bits {x y : Binary64} (h : x.bits = y.bits) : x.unsignedBits = y.unsignedBits := by
    unfold unsignedBits
    rw [h]
  simp only [same, Bool.or_eq_true, Bool.and_eq_true, beq_iff_eq] at hb hc ⊢
  rcases hb with hb | ⟨ha, hb⟩ <;> rcases hc with hc | ⟨ha', hc⟩
  · exact .inl (hb.symm.trans hc)
  · exact .inr ⟨(bits hb).symm.trans ha', hc⟩
  · exact .inr ⟨hb, (bits hc).symm.trans ha⟩
  · exact .inr ⟨hb, hc⟩

namespace Json

open Dictionary (get?_cons Sorted)

/-! ## Equal values -/

mutual
/-- Two values that equal a third one equal each other. -/
theorem same_of_same : (a : Json) → ∀ {b c : Json}, a.same b = true → a.same c = true → b.same c = true
  | .null, b, c, hb, hc | .bool _, b, c, hb, hc | .int _, b, c, hb, hc | .str _, b, c, hb, hc => by
    cases b <;> simp only [same, Bool.false_eq_true] at hb
    cases c <;> simp_all [same]
  | .double x, b, c, hb, hc => by
    cases b <;> simp only [same, Bool.false_eq_true] at hb
    cases c <;> simp only [same, Bool.false_eq_true] at hc
    exact Binary64.same_of_same hb hc
  | .arr as, b, c, hb, hc => by
    cases b <;> simp only [same, Bool.false_eq_true] at hb
    cases c <;> simp only [same, Bool.false_eq_true] at hc
    exact sameItems_of_sameItems as hb hc
  | .obj as, b, c, hb, hc => by
    cases b <;> simp only [same, Bool.false_eq_true] at hb
    cases c <;> simp only [same, Bool.false_eq_true] at hc
    exact sameMembers_of_sameMembers as hb hc

theorem sameItems_of_sameItems : (as : List Json) → ∀ {bs cs : List Json}, sameItems as bs = true →
    sameItems as cs = true → sameItems bs cs = true
  | [], bs, cs, hb, hc => by
    cases bs <;> simp only [sameItems, Bool.false_eq_true] at hb
    exact hc
  | a :: as, bs, cs, hb, hc => by
    cases bs <;> simp only [sameItems, Bool.false_eq_true, Bool.and_eq_true] at hb
    cases cs <;> simp only [sameItems, Bool.false_eq_true, Bool.and_eq_true] at hc ⊢
    exact ⟨same_of_same a hb.1 hc.1, sameItems_of_sameItems as hb.2 hc.2⟩

theorem sameMembers_of_sameMembers : (as : List (String × Json)) → ∀ {bs cs : List (String × Json)},
    sameMembers as bs = true → sameMembers as cs = true → sameMembers bs cs = true
  | [], bs, cs, hb, hc => by
    cases bs <;> simp only [sameMembers, Bool.false_eq_true] at hb
    exact hc
  | (k, a) :: as, bs, cs, hb, hc => by
    cases bs <;> simp only [sameMembers, Bool.false_eq_true, Bool.and_eq_true, beq_iff_eq] at hb
    cases cs <;> simp only [sameMembers, Bool.false_eq_true, Bool.and_eq_true, beq_iff_eq] at hc ⊢
    obtain ⟨⟨hk, ha⟩, has⟩ := hb
    obtain ⟨⟨hk', ha'⟩, has'⟩ := hc
    exact ⟨⟨hk.symm.trans hk', same_of_same a ha ha'⟩, sameMembers_of_sameMembers as has has'⟩
end

/-- Equal objects have equal members at every key. -/
theorem get?_of_sameMembers {as bs : Members} (h : sameMembers as bs = true) (k : String) :
    (as.get? k = none ∧ bs.get? k = none) ∨
      ∃ a b, as.get? k = some a ∧ bs.get? k = some b ∧ a.same b = true := by
  induction as generalizing bs with
  | nil =>
    cases bs with
    | nil => exact .inl ⟨rfl, rfl⟩
    | cons b bs => simp [sameMembers] at h
  | cons a as ih =>
    obtain ⟨l, a⟩ := a
    cases bs with
    | nil => simp [sameMembers] at h
    | cons b bs =>
      obtain ⟨l', b⟩ := b
      simp only [sameMembers, Bool.and_eq_true, beq_iff_eq] at h
      obtain ⟨⟨rfl, hab⟩, hrest⟩ := h
      simp only [get?_cons]
      by_cases hk : k = l
      · exact .inr ⟨a, b, if_pos hk, if_pos hk, hab⟩
      · simpa only [if_neg hk] using ih hrest

mutual
/-- A value contains what an equal one does. -/
theorem contains_of_same : (d : Json) → ∀ {a b : Json}, a.same b = true → a.contains d = true →
    b.contains d = true
  | .null, a, b, h, hc | .bool _, a, b, h, hc | .int _, a, b, h, hc | .double _, a, b, h, hc
  | .str _, a, b, h, hc => by
    simp only [contains] at hc ⊢
    exact same_of_same a h hc
  | .arr ds, a, b, h, hc => by
    cases a <;> simp only [contains, Bool.false_eq_true] at hc
    cases b <;> simp only [same, Bool.false_eq_true] at h
    exact containsItems_of_sameItems ds h hc
  | .obj ds, a, b, h, hc => by
    obtain ⟨as, rfl, met⟩ := contains_obj.1 hc
    cases b <;> simp only [same, Bool.false_eq_true] at h
    exact contains_obj.2 ⟨_, rfl, fun m hm => meets_of_sameMembers ds h m hm (met m hm)⟩

theorem containsItems_of_sameItems : (ds : List Json) → ∀ {as bs : List Json}, sameItems as bs = true →
    containsItems as ds = true → containsItems bs ds = true
  | [], as, bs, h, hc => by
    cases as <;> simp only [containsItems, List.isEmpty_cons, Bool.false_eq_true] at hc
    cases bs <;> simp_all [sameItems, containsItems]
  | d :: ds, as, bs, h, hc => by
    cases as <;> simp only [containsItems, Bool.false_eq_true, Bool.and_eq_true] at hc
    cases bs <;> simp only [sameItems, Bool.false_eq_true, Bool.and_eq_true] at h
    simp only [containsItems, Bool.and_eq_true]
    exact ⟨contains_of_same d h.1 hc.1, containsItems_of_sameItems ds h.2 hc.2⟩

theorem meets_of_sameMembers : (ds : List (String × Json)) → ∀ {as bs : Members},
    sameMembers as bs = true → ∀ m ∈ ds, meets (as.get? m.1) m.2 = true → meets (bs.get? m.1) m.2 = true
  | (k, d) :: ds, as, bs, h, m, hm, met => by
    rcases List.mem_cons.1 hm with rfl | hm
    · rcases get?_of_sameMembers h k with ⟨none, none'⟩ | ⟨a, b, some, some', hab⟩
      · rw [none] at met
        rw [none']
        exact met
      · rw [some] at met
        rw [some']
        exact contains_of_same d hab met
    · exact meets_of_sameMembers ds h m hm met
end

/-! ## A patch keeps the order -/

theorem wellFormedMembers_insert {k : String} {v : Json} {ms : Members} (hv : v.WellFormed)
    (h : WellFormedMembers ms) : WellFormedMembers (Dictionary.insert k v ms) := by
  induction ms with
  | nil => exact ⟨hv, trivial⟩
  | cons m ms ih =>
    obtain ⟨l, w⟩ := m
    unfold Dictionary.insert
    split
    · exact ⟨hv, h⟩
    · split
      · exact ⟨hv, h.2⟩
      · exact ⟨h.1, ih h.2⟩

theorem wellFormed_getD {ms : Members} {k : String} (h : WellFormedMembers ms) :
    ((ms.get? k).getD .null).WellFormed := by
  cases hget : ms.get? k with
  | none => trivial
  | some v => exact wellFormed_of_get? h hget

mutual
/-- What a patch in order makes of a value in order is in order. -/
theorem wellFormed_mergePatch : (p : Json) → p.WellFormed → ∀ {target : Json}, target.WellFormed →
    (target.mergePatch p).WellFormed
  | .null, _, _, _ | .bool _, _, _, _ | .int _, _, _, _ | .double _, _, _, _ | .str _, _, _, _ => by
    simp [mergePatch, WellFormed]
  | .arr xs, hp, _, _ => by simpa [mergePatch] using hp
  | .obj ps, hp, target, ht => by
    have members : Sorted (target.obj?.getD []) ∧ WellFormedMembers (target.obj?.getD []) := by
      cases target with
      | obj ms => exact ht
      | _ => exact ⟨List.Pairwise.nil, trivial⟩
    simp only [mergePatch]
    exact wellFormed_mergeMembers ps hp.2 members.1 members.2

theorem wellFormed_mergeMembers : (ps : List (String × Json)) → WellFormedMembers ps →
    ∀ {ms : Members}, Sorted ms → WellFormedMembers ms →
    Sorted (mergeMembers ms ps) ∧ WellFormedMembers (mergeMembers ms ps)
  | [], _, _, hs, hw => ⟨hs, hw⟩
  | (k, v) :: ps, hp, ms, hs, hw => by
    have merged : (mergePatch ((ms.get? k).getD .null) v).WellFormed :=
      wellFormed_mergePatch v hp.1 (wellFormed_getD hw)
    cases v with
    | null =>
      exact wellFormed_mergeMembers ps hp.2 (Dictionary.sorted_erase k hs) (wellFormedMembers_filter hw)
    | _ =>
      exact wellFormed_mergeMembers ps hp.2 (Dictionary.sorted_insert k _ hs)
        (wellFormedMembers_insert merged hw)
end

/-! ## Empty maps that a patch adds -/

/-- The second value equals the first one, but for empty maps at keys that the first one, or an object
inside of it, lacks. -/
inductive Filled : Json → Json → Prop where
  | same {a b : Json} (h : a.same b = true) : Filled a b
  | obj {as bs : Members} (there : ∀ k v, as.get? k = some v → ∃ w, bs.get? k = some w)
      (kept : ∀ k v w, as.get? k = some v → bs.get? k = some w → Filled v w)
      (added : ∀ k w, as.get? k = none → bs.get? k = some w → w = .obj []) : Filled (.obj as) (.obj bs)

theorem Filled.refl (j : Json) : Filled j j := .same (same_refl j)

def isScalar : Json → Bool
  | .arr _ | .obj _ => false
  | _ => true

mutual
/-- The arrays that are reached through objects hold scalars only. -/
def scalarArrays : Json → Bool
  | .arr items => items.all isScalar
  | .obj members => scalarArraysMembers members
  | _ => true

def scalarArraysMembers : List (String × Json) → Bool
  | [] => true
  | (_, v) :: ms => scalarArrays v && scalarArraysMembers ms
end

theorem contains_eq_same {c d : Json} (hd : d.isScalar = true) : c.contains d = c.same d := by
  cases d with
  | arr | obj => cases hd
  | _ => simp only [contains]

/-- An array of scalars is contained only in an equal one. -/
theorem sameItems_of_containsItems {cs ds : List Json} (hd : ds.all isScalar = true)
    (h : containsItems cs ds = true) : sameItems cs ds = true := by
  induction ds generalizing cs with
  | nil =>
    cases cs with
    | nil => rfl
    | cons c cs => simp [containsItems] at h
  | cons d ds ih =>
    obtain ⟨scalar, scalars⟩ := Bool.and_eq_true_iff.1 hd
    cases cs with
    | nil => simp [containsItems] at h
    | cons c cs =>
      simp only [containsItems, Bool.and_eq_true, contains_eq_same scalar] at h
      simp only [sameItems, Bool.and_eq_true]
      exact ⟨h.1, ih scalars h.2⟩

theorem eq_of_isEmptyObj {d : Json} (h : d.isEmptyObj = true) : d = .obj [] := by
  cases d with
  | obj ms => cases ms <;> simp_all [isEmptyObj]
  | _ => cases h

mutual
/-- Where a patch without removals is contained already, it adds nothing but empty maps. -/
theorem filled_mergePatch : (d : Json) → d.nullFree = true → d.WellFormed → d.scalarArrays = true →
    ∀ {c : Json}, c.contains d = true → Filled c (c.mergePatch d)
  | .null, _, _, _, c, hc | .bool _, _, _, _, c, hc | .int _, _, _, _, c, hc | .double _, _, _, _, c, hc
  | .str _, _, _, _, c, hc => by
    simp only [contains] at hc
    simp only [mergePatch]
    exact .same hc
  | .arr ds, _, _, ha, c, hc => by
    cases c <;> simp only [contains, Bool.false_eq_true] at hc
    simp only [mergePatch]
    refine .same ?_
    simp only [same]
    exact sameItems_of_containsItems (by simpa only [scalarArrays] using ha) hc
  | .obj ds, hn, hw, ha, c, hc => by
    obtain ⟨cs, rfl, met⟩ := contains_obj.1 hc
    have merged (k : String) (d : Json) (hm : (k, d) ∈ ds) :
        (mergeMembers cs ds).get? k = some (((Dictionary.get? cs k).getD .null).mergePatch d) :=
      get?_mergeMembers_of_mem hw.1 hm (nullFreeMembers_iff.1 hn _ hm).1
    simp only [mergePatch, obj?, Option.getD_some]
    -- a key is one that the patch names, or it is left as it is
    have cases_key (k : String) :
        (∃ d, (k, d) ∈ ds) ∨ (mergeMembers cs ds).get? k = Dictionary.get? cs k := by
      by_cases hk : k ∈ ds.map (·.1)
      · obtain ⟨⟨l, d⟩, hm, rfl⟩ := List.mem_map.1 hk
        exact .inl ⟨d, hm⟩
      · exact .inr (get?_mergeMembers_of_not_mem hk)
    refine .obj (fun k v hv => ?there) (fun k v w hv hw' => ?kept) fun k w hnone hw' => ?added
    case there =>
      rcases cases_key k with ⟨d, hm⟩ | untouched
      · exact ⟨_, merged k d hm⟩
      · exact ⟨v, untouched.trans hv⟩
    case kept =>
      rcases cases_key k with ⟨d, hm⟩ | untouched
      · have hmet := met _ hm
        rw [merged k d hm, hv] at hw'
        rw [hv] at hmet
        cases hw'
        exact filled_mergePatch_of_mem ds hn hw.2 ha (k, d) hm hmet
      · rw [untouched, hv] at hw'
        cases hw'
        exact .refl v
    case added =>
      rcases cases_key k with ⟨d, hm⟩ | untouched
      · have hmet := met _ hm
        rw [merged k d hm, hnone] at hw'
        rw [hnone] at hmet
        have hempty : d = .obj [] := eq_of_isEmptyObj hmet
        subst hempty
        cases hw'
        rfl
      · rw [untouched, hnone] at hw'
        cases hw'

theorem filled_mergePatch_of_mem : (ds : List (String × Json)) → nullFreeMembers ds = true →
    WellFormedMembers ds → scalarArraysMembers ds = true →
    ∀ m ∈ ds, ∀ {c : Json}, c.contains m.2 = true → Filled c (c.mergePatch m.2)
  | (k, d) :: ds, hn, hw, ha, m, hm, c, hc => by
    obtain ⟨_, hd, hds⟩ := nullFreeMembers_cons.1 hn
    obtain ⟨scalar, scalars⟩ := Bool.and_eq_true_iff.1 ha
    rcases List.mem_cons.1 hm with rfl | hm
    · exact filled_mergePatch d hd hw.1 scalar hc
    · exact filled_mergePatch_of_mem ds hds hw.2 scalars m hm hc
end

/-- A desired value that removes nothing is contained in what it makes, as a patch, of any current one. So
it is missing only where the patch changes the value. Where it is contained and its arrays hold scalars
only, the patch adds empty maps at keys that are lacking and changes nothing else. -/
theorem mergePatch_agrees {current desired : Json} (inOrder : desired.WellFormed)
    (removesNothing : desired.nullFree = true) :
    (current.mergePatch desired).contains desired = true ∧
    (current.contains desired = false → (current.mergePatch desired).same current = false) ∧
    (current.contains desired = true → desired.scalarArrays = true →
      Filled current (current.mergePatch desired)) ∧
    (current.WellFormed → (current.mergePatch desired).WellFormed) := by
  have established : (current.mergePatch desired).contains desired = true :=
    contains_mergePatch desired removesNothing inOrder current
  refine ⟨established, fun missing => ?_, fun contained arrays => ?_, wellFormed_mergePatch desired inOrder⟩
  · rw [Bool.eq_false_iff]
    intro unchanged
    rw [contains_of_same desired unchanged established] at missing
    cases missing
  · exact filled_mergePatch desired removesNothing inOrder arrays contained

/-- A current object that lacks only an empty map gains it by the patch, and keeps what else it has. -/
theorem filled_of_lacking_map :
    let current : Json := .obj [("data", .obj [("script", .arr [.str "init.sql"])]), ("kind", .str "ConfigMap")]
    let desired : Json := .obj [("data", .obj [("script", .arr [.str "init.sql"])]), ("labels", .obj [])]
    current.contains desired = true ∧ Filled current (current.mergePatch desired) := by
  intro current desired
  have inOrder : desired.WellFormed := by
    simp +decide [desired, WellFormed, WellFormedMembers, WellFormedItems, Dictionary.sorted_iff_ascending]
  have contained : current.contains desired = true := by
    decide +kernel
  exact ⟨contained, (mergePatch_agrees inOrder rfl).2.2.1 contained rfl⟩

end Json

end AppServiceOperator
