import AppServiceOperator.Proofs.Desired.Topology
import Mathlib.Data.List.Induction
/-!
# Labels and the pods they select

Labels are built by adding one after another to the well-known ones. Whatever is added, and in whichever
order, the well-known keys keep their values, and every other key has the value that was added last. So a
selector, which has well-known keys only, finds the pods of the component that it is made for, and no others:
a deployment finds its own pods, and a service those of the deployment of its name. All of it is
`selected_by_name`.
-/
namespace AppServiceOperator

open Dictionary (Sorted)

/-! ## The last entry of a key -/

namespace Dictionary

variable {α : Type} {entries : List (String × α)} {key : String} {value : α}

/-- Of the entries for the key, the last one has the value. -/
def LastEntry (entries : List (String × α)) (key : String) (value : α) : Prop :=
  ∃ before after, entries = before ++ (key, value) :: after ∧ ∀ e ∈ after, e.1 ≠ key

theorem not_lastEntry_nil : ¬ LastEntry ([] : List (String × α)) key value := by
  rintro ⟨before, after, split, -⟩
  simp at split

theorem lastEntry_concat {k : String} {v : α} :
    LastEntry (entries ++ [(k, v)]) key value ↔ if key = k then v = value else LastEntry entries key value := by
  constructor
  · rintro ⟨before, after, split, other⟩
    rcases List.eq_nil_or_concat' after with rfl | ⟨after, e, rfl⟩
    · obtain ⟨-, last⟩ := List.append_inj' split rfl
      cases last
      rw [if_pos rfl]
    · rw [← List.cons_append, ← List.append_assoc] at split
      obtain ⟨rfl, last⟩ := List.append_inj' split rfl
      cases last
      have different : key ≠ k := fun same => other (k, v) (by simp) same.symm
      rw [if_neg different]
      exact ⟨before, after, rfl, fun e he => other e (List.mem_append_left _ he)⟩
  · intro h
    split at h
    case isTrue same =>
      subst same h
      exact ⟨entries, [], rfl, nofun⟩
    case isFalse different =>
      obtain ⟨before, after, rfl, other⟩ := h
      refine ⟨before, after ++ [(k, v)], by simp, fun e he => ?_⟩
      rcases List.mem_append.1 he with he | he
      · exact other e he
      · rw [List.mem_singleton.1 he]
        exact Ne.symm different

theorem get?_ofList (entries : List (String × α)) (key : String) (value : α) :
    (ofList entries).get? key = some value ↔ LastEntry entries key value := by
  induction entries using List.reverseRecOn with
  | nil => exact iff_of_false nofun not_lastEntry_nil
  | append_singleton entries e ih =>
    obtain ⟨k, v⟩ := e
    have last : ofList (entries ++ [(k, v)]) = (ofList entries).insert k v := by
      rw [ofList, List.foldl_append]
      rfl
    rw [last, get?_insert, lastEntry_concat]
    split
    · exact Option.some_inj
    · exact ih

theorem mem_iff_get? {ms : Dictionary α} (h : Sorted ms) : (key, value) ∈ ms ↔ ms.get? key = some value :=
  ⟨get?_of_mem h, mem_of_get?⟩

theorem get?_eq_none {ms : Dictionary α} : ms.get? key = none ↔ key ∉ ms.map (·.1) := by
  induction ms with
  | nil => simp
  | cons m ms ih =>
    rw [get?_cons, List.map_cons, List.mem_cons, not_or, ← ih]
    by_cases h : key = m.1 <;> simp [h]

end Dictionary

/-! ## Labels with others added -/

namespace Labels

variable {component instanceName key value : String} {calls : List (String × String)}

/-- The labels of a component with others added, one after another. -/
def ofCalls (component instanceName : String) (calls : List (String × String)) : Labels :=
  calls.foldl (fun l call => l.add call.1 call.2) { component, instanceName }

theorem ofCalls_eq (component instanceName : String) (calls : List (String × String)) :
    ofCalls component instanceName calls = { component, instanceName, extra := .ofList calls } := by
  suffices ∀ l : Labels, calls.foldl (fun l call => l.add call.1 call.2) l =
      { l with extra := calls.foldl (fun ms call => ms.insert call.1 call.2) l.extra } from this _
  induction calls with
  | nil => exact fun _ => rfl
  | cons call calls ih => exact fun l => ih (l.add call.1 call.2)

theorem sorted_toMap_ofCalls (component instanceName : String) (calls : List (String × String)) :
    Sorted (ofCalls component instanceName calls).toMap := by
  rw [ofCalls_eq]
  exact sorted_toMap (Dictionary.sorted_ofList calls)

theorem mem_toMap_ofCalls : (key, value) ∈ (ofCalls component instanceName calls).toMap ↔
    (key, value) ∈ wellKnown component instanceName ∨
      key ∉ (wellKnown component instanceName).map (·.1) ∧ Dictionary.LastEntry calls key value := by
  rw [Dictionary.mem_iff_get? (sorted_toMap_ofCalls component instanceName calls), get?_toMap, ofCalls_eq,
    Option.or_eq_some_iff, ← Dictionary.mem_iff_get? (sorted_wellKnown component instanceName),
    Dictionary.get?_eq_none, Dictionary.get?_ofList]

theorem selector_ofCalls (component instanceName : String) (calls : List (String × String)) :
    (ofCalls component instanceName calls).selector = (ofCalls component instanceName []).selector := by
  rw [ofCalls_eq]
  rfl

theorem selector_subset (l : Labels) : l.selector ⊆ l.toMap :=
  fun m hm => Dictionary.mem_of_get? (Desired.matches_selector l m hm)

end Labels

/-! ## Selected pods -/

/-- The deployment finds its own pods: they have all the labels that its selector asks for, and it asks for
nothing else. -/
def FindsItsPods (d : ManagedResource) : Prop :=
  ∃ selector labels, d.content.along? ["spec", "selector"] = some (.obj [("matchLabels", .ofTexts selector)]) ∧
    d.podLabels? = some labels ∧ Matches selector labels

namespace Desired

theorem findsItsPods_deployment {ctx : Context} {name : String} {labels : Labels}
    {annotations : Dictionary String} {strategy : String} {containers : List Json}
    {volumes : Option (List Json)} :
    FindsItsPods (deployment ctx name labels annotations strategy containers volumes) :=
  ⟨_, _, rfl, podLabels?_deployment, matches_selector labels⟩

/-- The labels of an object have the fixed values at the well-known keys, at every other key the value that was
added last, and nothing else; its selector is a part of them that does not depend on what was added. So a
service selects the pods of a deployment, in whichever context the two are made, exactly if they have the same
name, and a deployment selects its own. -/
theorem selected_by_name :
    (∀ (component instanceName : String) (calls : List (String × String)),
      let labels := Labels.ofCalls component instanceName calls
      Sorted labels.toMap ∧
      (∀ key value, (key, value) ∈ labels.toMap ↔
        (key, value) ∈ Labels.wellKnown component instanceName ∨
          key ∉ (Labels.wellKnown component instanceName).map (·.1) ∧ Dictionary.LastEntry calls key value) ∧
      labels.selector = (Labels.ofCalls component instanceName []).selector ∧
      labels.selector ⊆ labels.toMap) ∧
    (∀ (ctx ctx' : Context) (name : String) (ports : List (String × Int)),
      (∀ w, Serves (service ctx name ports) (webDeployment ctx' w) ↔ name = w.name) ∧
      ∀ database needs, Serves (service ctx name ports) (databaseDeployment ctx' database needs) ↔
        name = database) ∧
    ∀ ctx : Context, (∀ w, FindsItsPods (webDeployment ctx w)) ∧
      ∀ database needs, FindsItsPods (databaseDeployment ctx database needs) := by
  refine ⟨fun component instanceName calls => ?_, fun ctx ctx' name ports => ⟨fun w => ?_, fun _ _ => ?_⟩,
    fun ctx => ⟨fun w => findsItsPods_deployment, fun _ _ => findsItsPods_deployment⟩⟩
  · exact ⟨Labels.sorted_toMap_ofCalls _ _ _, fun _ _ => Labels.mem_toMap_ofCalls,
      Labels.selector_ofCalls _ _ _, Labels.selector_subset _⟩
  · exact serves_iff_component podLabels?_deployment
  · exact serves_iff_component podLabels?_deployment

end Desired

end AppServiceOperator
