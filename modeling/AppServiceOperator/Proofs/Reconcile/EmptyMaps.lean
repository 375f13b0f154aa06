import AppServiceOperator.Proofs.Json.Agreement
import AppServiceOperator.Proofs.Manifest.Ordered
import AppServiceOperator.Reconcile.Ensure
/-!
# Servers that drop empty maps

A server that stores no empty maps drops the members that are empty objects, and those that become empty
by that (`Json.prune`). The drift test excuses the absence of a member only where an empty object is
desired for it. So the absence of one that became empty looks like drift (`not_contains_prune`), and all
goes well exactly where nothing of that kind is desired (`Json.noHollowMaps`). Such is all that is owned of
a generated resource: what a server keeps of it is never patched again (`unpatched_once_pruned`).
-/
namespace AppServiceOperator

open Dictionary (Sorted get?_cons get?_of_mem)

namespace Json

/-! ## Pruning -/

mutual
/-- The value without the members, at any depth, that are empty objects or become so. -/
def prune : Json → Json
  | .arr items => .arr (pruneItems items)
  | .obj members => .obj (pruneMembers members)
  | j => j

def pruneItems : List Json → List Json
  | [] => []
  | x :: xs => prune x :: pruneItems xs

def pruneMembers : List (String × Json) → List (String × Json)
  | [] => []
  | (k, v) :: ms => if (prune v).isEmptyObj then pruneMembers ms else (k, prune v) :: pruneMembers ms
end

/-- What pruning leaves of a member, if anything. -/
def kept? (v : Json) : Option Json := if v.prune.isEmptyObj then none else some v.prune

theorem get?_pruneMembers {ms : Members} (hs : Sorted ms) (k : String) :
    Dictionary.get? (pruneMembers ms) k = (ms.get? k).bind kept? := by
  induction ms with
  | nil => rfl
  | cons m ms ih =>
    obtain ⟨l, v⟩ := m
    have once : Dictionary.get? ms l = none := by
      cases hget : Dictionary.get? ms l with
      | none => rfl
      | some w =>
        have again : l ∈ ms.map (·.1) := List.mem_map_of_mem (Dictionary.mem_of_get? hget)
        exact absurd again (Dictionary.not_mem_keys_of_sorted hs)
    have rest := ih hs.of_cons
    rw [pruneMembers, get?_cons]
    by_cases hk : k = l
    · subst hk
      rw [once] at rest
      rw [if_pos rfl, Option.bind_some, kept?]
      split
      · exact rest
      · rw [get?_cons, if_pos rfl]
    · rw [if_neg hk]
      split
      · exact rest
      · rw [get?_cons, if_neg hk, rest]

theorem meets_kept? (c d : Json) :
    meets c.kept? d = if c.prune.isEmptyObj then d.isEmptyObj else c.prune.contains d := by
  unfold kept?
  split <;> rfl

/-! ## Hollow maps -/

/-- An object that has members, all of them empty objects. -/
def isHollow : Json → Bool
  | .obj members => !members.isEmpty && members.all (·.2.isEmptyObj)
  | _ => false

mutual
/-- No member of an object inside the value is hollow. -/
def noHollowMaps : Json → Bool
  | .arr items => noHollowMapsItems items
  | .obj members => noHollowMapsMembers members
  | _ => true

def noHollowMapsItems : List Json → Bool
  | [] => true
  | x :: xs => noHollowMaps x && noHollowMapsItems xs

def noHollowMapsMembers : List (String × Json) → Bool
  | [] => true
  | (_, v) :: ms => !isHollow v && noHollowMaps v && noHollowMapsMembers ms
end

theorem noHollowMapsMembers_cons {k : String} {v : Json} {ms : List (String × Json)} :
    noHollowMapsMembers ((k, v) :: ms) = true ↔
      (v.isHollow = false ∧ v.noHollowMaps = true) ∧ noHollowMapsMembers ms = true := by
  simp [noHollowMapsMembers]

/-- An empty object contains only what is empty or hollow. -/
theorem isEmptyObj_of_contains {d : Json} (h : (Json.obj []).contains d = true) (hd : d.isHollow = false) :
    d.isEmptyObj = true := by
  cases d with
  | obj ds =>
    obtain ⟨cs, hcs, met⟩ := contains_obj.1 h
    cases hcs
    cases ds with
    | nil => rfl
    | cons m ds =>
      have all : ((m :: ds).all (·.2.isEmptyObj)) = true := List.all_eq_true.2 met
      rw [isHollow, all] at hd
      cases hd
  | _ => cases h

/-- Nothing is left of the members of a hollow object. -/
theorem isEmptyObj_prune_of_isHollow {d : Json} (h : d.isHollow = true) : d.prune.isEmptyObj = true := by
  cases d with
  | obj ds =>
    obtain ⟨-, all⟩ := Bool.and_eq_true_iff.1 h
    suffices nothing : pruneMembers ds = [] by
      rw [prune, nothing]
      rfl
    clear h
    induction ds with
    | nil => rfl
    | cons m ds ih =>
      obtain ⟨k, v⟩ := m
      obtain ⟨hv, hds⟩ := Bool.and_eq_true_iff.1 all
      cases eq_of_isEmptyObj hv
      exact ih hds
  | _ => cases h

/-! ## Containment in what is left -/

mutual
/-- What is left of a value still contains what the value did, if nothing hollow was. -/
theorem contains_prune : (d : Json) → d.noHollowMaps = true → ∀ {c : Json}, c.WellFormed →
    c.contains d = true → c.prune.contains d = true
  | .null, _, c, _, hc | .bool _, _, c, _, hc | .int _, _, c, _, hc | .double _, _, c, _, hc
  | .str _, _, c, _, hc => by
    simp only [contains] at hc
    cases c <;> simp only [same, Bool.false_eq_true] at hc
    all_goals simp_all only [prune, contains, same]
  | .arr ds, hd, c, hw, hc => by
    cases c <;> simp only [contains, Bool.false_eq_true] at hc
    simp only [prune, contains]
    exact containsItems_prune ds hd hw hc
  | .obj ds, hd, c, hw, hc => by
    obtain ⟨cs, rfl, met⟩ := contains_obj.1 hc
    exact contains_obj.2 ⟨_, rfl, fun m hm => meets_prune ds hd hw m hm (met m hm)⟩

theorem containsItems_prune : (ds : List Json) → noHollowMapsItems ds = true → ∀ {cs : List Json},
    WellFormedItems cs → containsItems cs ds = true → containsItems (pruneItems cs) ds = true
  | [], _, cs, _, hc => by
    cases cs <;> simp_all [containsItems, pruneItems]
  | d :: ds, hd, cs, hw, hc => by
    obtain ⟨hd, hds⟩ := Bool.and_eq_true_iff.1 hd
    cases cs <;> simp only [containsItems, Bool.false_eq_true, Bool.and_eq_true] at hc
    simp only [pruneItems, containsItems, Bool.and_eq_true]
    exact ⟨contains_prune d hd hw.1 hc.1, containsItems_prune ds hds hw.2 hc.2⟩

theorem meets_prune : (ds : List (String × Json)) → noHollowMapsMembers ds = true → ∀ {cs : Members},
    (Json.obj cs).WellFormed → ∀ m ∈ ds, meets (cs.get? m.1) m.2 = true →
      meets (Dictionary.get? (pruneMembers cs) m.1) m.2 = true
  | (k, d) :: ds, hd, cs, hw, m, hm, met => by
    obtain ⟨⟨solid, hd⟩, hds⟩ := noHollowMapsMembers_cons.1 hd
    rcases List.mem_cons.1 hm with rfl | hm
    · rw [get?_pruneMembers hw.1]
      cases hget : cs.get? k with
      | none =>
        rw [hget] at met
        exact met
      | some c =>
        rw [hget] at met
        have left : c.prune.contains d = true := contains_prune d hd (wellFormed_of_get? hw.2 hget) met
        rw [Option.bind_some, meets_kept?]
        split
        · -- nothing is left of the member, which excuses nothing but an empty object
          rename_i hempty
          rw [eq_of_isEmptyObj hempty] at left
          exact isEmptyObj_of_contains left solid
        · exact left
    · exact meets_prune ds hds hw m hm met
end

mutual
/-- What is left of a value contains the value only if there is nothing hollow in it. -/
theorem noHollowMaps_of_contains_prune : (d : Json) → d.WellFormed → d.prune.contains d = true →
    d.noHollowMaps = true
  | .null, _, _ | .bool _, _, _ | .int _, _, _ | .double _, _, _ | .str _, _, _ => rfl
  | .arr ds, hw, hc => by
    simp only [prune, contains] at hc
    exact noHollowMapsItems_of_contains_prune ds hw hc
  | .obj ds, hw, hc => by
    simp only [prune] at hc
    obtain ⟨_, hcs, met⟩ := contains_obj.1 hc
    cases hcs
    refine noHollowMapsMembers_of_meets ds hw.2 fun m hm => ?_
    have hmet := met m hm
    rwa [get?_pruneMembers hw.1, get?_of_mem hw.1 hm, Option.bind_some] at hmet

theorem noHollowMapsItems_of_contains_prune : (ds : List Json) → WellFormedItems ds →
    containsItems (pruneItems ds) ds = true → noHollowMapsItems ds = true
  | [], _, _ => rfl
  | d :: ds, hw, hc => by
    simp only [pruneItems, containsItems, Bool.and_eq_true] at hc
    exact Bool.and_eq_true_iff.2 ⟨noHollowMaps_of_contains_prune d hw.1 hc.1,
      noHollowMapsItems_of_contains_prune ds hw.2 hc.2⟩

theorem noHollowMapsMembers_of_meets : (ds : List (String × Json)) → WellFormedMembers ds →
    (∀ m ∈ ds, meets m.2.kept? m.2 = true) → noHollowMapsMembers ds = true
  | [], _, _ => rfl
  | (k, d) :: ds, hw, met => by
    obtain ⟨hd, hds⟩ := List.forall_mem_cons.1 met
    refine noHollowMapsMembers_cons.2 ⟨?_, noHollowMapsMembers_of_meets ds hw.2 hds⟩
    rw [meets_kept?] at hd
    split at hd
    · obtain rfl : d = .obj [] := eq_of_isEmptyObj hd
      exact ⟨rfl, rfl⟩
    · rename_i hsome
      refine ⟨?_, noHollowMaps_of_contains_prune d hw.1 hd⟩
      rw [Bool.eq_false_iff]
      exact fun hollow => hsome (isEmptyObj_prune_of_isHollow hollow)
end

theorem isHollow_eq_false {d : Json} (h : d.noEmptyMaps = true) : d.isHollow = false := by
  cases d with
  | obj ds =>
    cases ds with
    | nil => rfl
    | cons m ds =>
      rw [noEmptyMaps, Bool.and_eq_true] at h
      obtain ⟨-, full⟩ := h
      have hm : m.2.noEmptyMaps = true := noEmptyMapsMembers_iff.1 full m List.mem_cons_self
      simp [isHollow, isEmptyObj_eq_false hm]
  | _ => rfl

mutual
/-- Where no object is empty, none is hollow. -/
theorem noHollowMaps_of_noEmptyMaps : (d : Json) → d.noEmptyMaps = true → d.noHollowMaps = true
  | .null, _ | .bool _, _ | .int _, _ | .double _, _ | .str _, _ => rfl
  | .arr ds, h => noHollowMapsItems_of_noEmptyMaps ds h
  | .obj ds, h => noHollowMapsMembers_of_noEmptyMaps ds (Bool.and_eq_true_iff.1 h).2

theorem noHollowMapsItems_of_noEmptyMaps : (ds : List Json) → noEmptyMapsItems ds = true →
    noHollowMapsItems ds = true
  | [], _ => rfl
  | d :: ds, h => by
    obtain ⟨hd, hds⟩ := Bool.and_eq_true_iff.1 h
    exact Bool.and_eq_true_iff.2 ⟨noHollowMaps_of_noEmptyMaps d hd, noHollowMapsItems_of_noEmptyMaps ds hds⟩

theorem noHollowMapsMembers_of_noEmptyMaps : (ds : List (String × Json)) → noEmptyMapsMembers ds = true →
    noHollowMapsMembers ds = true
  | [], _ => rfl
  | (_, d) :: ds, h => by
    obtain ⟨hd, hds⟩ := Bool.and_eq_true_iff.1 h
    exact noHollowMapsMembers_cons.2 ⟨⟨isHollow_eq_false hd, noHollowMaps_of_noEmptyMaps d hd⟩,
      noHollowMapsMembers_of_noEmptyMaps ds hds⟩
end

/-- Whatever contains the value still does once it was pruned, exactly if there is nothing hollow in it. -/
theorem contains_prune_iff {d : Json} (hd : d.WellFormed) :
    (∀ c : Json, c.WellFormed → c.contains d = true → c.prune.contains d = true) ↔ d.noHollowMaps = true :=
  ⟨fun kept => noHollowMaps_of_contains_prune d hd (kept d hd (contains_refl d hd)),
    fun solid _ hc => contains_prune d solid hc⟩

/-- An empty object in a member that has nothing else is missed once a server has dropped both. -/
theorem not_contains_prune :
    let d : Json := .obj [("a", .obj [("b", .obj [])])]
    d.contains d = true ∧ d.prune.contains d = false := by
  decide +kernel

end Json

/-! ## Resources -/

namespace ManagedResource

theorem amend_of_contains {r : ManagedResource} {live : Json} (h : live.contains r.ownedFields = true) :
    r.amend live = .done (.ok .unchanged) := by
  unfold amend
  rw [if_pos h]
  rfl

end ManagedResource

/-- Pruning a value makes drift of nothing exactly where no hollow map is desired. Then what is left of an
object that was stored from the manifest, or after the patch, is not patched again. It is so for all that
is generated. -/
theorem unpatched_once_pruned :
    (∀ desired : Json, desired.WellFormed →
      ((∀ current : Json, current.WellFormed → current.contains desired = true →
        current.prune.contains desired = true) ↔ desired.noHollowMaps = true)) ∧
    (∀ r : ManagedResource, r.Ordered → r.ownedFields.noHollowMaps = true →
      r.amend r.toJson.prune = .done (.ok .unchanged) ∧
      ∀ live : Json, live.WellFormed → r.amend (live.mergePatch r.ownedFields).prune = .done (.ok .unchanged)) ∧
    ∀ ctx, ∀ r ∈ Desired.resources ctx, r.Ordered ∧ r.ownedFields.noHollowMaps = true := by
  refine ⟨fun desired => Json.contains_prune_iff, fun r hr solid => ⟨?created, fun live hlive => ?patched⟩,
    fun ctx r hr => ⟨Desired.ordered_resources ctx r hr, ?generated⟩⟩
  case created =>
    exact ManagedResource.amend_of_contains (Json.contains_prune _ solid hr.wellFormed_toJson
      (ManagedResource.contains_ownedFields hr.regular))
  case patched =>
    have inOrder : r.ownedFields.WellFormed := hr.regular.wellFormed_ownedFields
    exact ManagedResource.amend_of_contains (Json.contains_prune _ solid
      (Json.wellFormed_mergePatch _ inOrder hlive)
      (Json.contains_mergePatch _ r.nullFree_ownedFields inOrder live))
  case generated =>
    exact Json.noHollowMaps_of_noEmptyMaps _
      (ManagedResource.solid_ownedFields (Desired.solid_resources ctx r hr)).2

/-- Nothing but its name is kept of a config map without data, and yet it is not patched. -/
theorem unpatched_without_data :
    let r : ManagedResource := ⟨.configMap, { name := some "scripts" }, [("data", .obj [])], rfl⟩
    r.toJson.prune.get? "data" = none ∧ r.amend r.toJson.prune = .done (.ok .unchanged) := by
  intro r
  have inOrder : r.Ordered :=
    ⟨⟨List.pairwise_singleton _ _, ⟨.nil, trivial⟩, trivial⟩, nofun, nofun, .nil, trivial⟩
  exact ⟨by decide +kernel, (unpatched_once_pruned.2.1 r inOrder (by decide +kernel)).1⟩

end AppServiceOperator
