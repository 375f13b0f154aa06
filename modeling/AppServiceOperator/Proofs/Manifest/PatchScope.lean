import AppServiceOperator.Proofs.Json.Paths
import AppServiceOperator.Proofs.Manifest.Ordered
/-!
# What a patch of a resource changes

A live object is patched with what the operator owns of a resource. At every path to which no leaf of that
has to do it stays as it was, and so do its identity, its owners, its status and whatever labels and
annotations it has besides those of the resource, its selector, and of a claim all of the spec but the
resources. What the operator owns is there after the patch, as the manifest says it (`changes_only_owned`).
Nothing is assumed of the live object.
-/
namespace AppServiceOperator

namespace Dictionary

variable {α : Type}

/-- What is left at a key where entries are chosen by their keys. -/
theorem get?_filter_keys (p : String → Bool) (ms : Dictionary α) (k : String) :
    get? (ms.filter fun m => p m.1) k = if p k then get? ms k else none := by
  induction ms with
  | nil => simp
  | cons m ms ih =>
    obtain ⟨l, v⟩ := m
    rw [List.filter_cons, get?_cons]
    by_cases hk : k = l
    · subst hk
      by_cases hl : p k = true <;> simp [hl, get?_cons, ih]
    · by_cases hl : p l = true <;> simp [hl, hk, get?_cons, ih]

end Dictionary

/-- A record without other members holds at a field what is given for it. -/
theorem Json.get?_putFields_nil {k : String} {v : Option Json} {fields : List (String × Option Json)}
    (hn : (fields.map (·.1)).Nodup) (h : (k, v) ∈ fields) : (putFields fields []).get? k = v := by
  rw [get?_putFields hn h, Dictionary.get?_nil, Option.or_none]

namespace ObjectMeta

/-- The typed fields are not among the others. -/
def Apart (m : ObjectMeta) : Prop := ∀ k ∈ typedFields, m.rest.get? k = none

theorem apart_of_rest_eq_nil {m : ObjectMeta} (h : m.rest = []) : m.Apart := by
  intro k _
  rw [h]
  rfl

theorem apart_ofNormal (j : Json) : (ofNormal j).Apart := by
  intro k hk
  change Dictionary.get? ((j.obj?.getD []).filter fun m => !typedFields.contains m.1) k = none
  rw [Dictionary.get?_filter_keys fun k => !typedFields.contains k, if_neg (by simpa using hk)]

theorem apart_of_ofJson? {j : Json} {m : ObjectMeta} (h : ofJson? j = some m) : m.Apart := by
  obtain ⟨v, -, rfl⟩ := Option.map_eq_some_iff.1 h
  exact apart_ofNormal v

theorem apart_of_ofField? {j : Option Json} {m : ObjectMeta} (h : ofField? j = some m) : m.Apart := by
  unfold ofField? at h
  split at h
  · cases h
    exact apart_of_rest_eq_nil rfl
  · cases h
    exact apart_of_rest_eq_nil rfl
  · exact apart_of_ofJson? h

variable {m : ObjectMeta}

theorem Apart.get?_labels (h : m.Apart) : m.toJson.get? "labels" = m.labels.map .ofTexts := by
  have put : m.toJson.get? "labels" = (m.labels.map .ofTexts).or (m.rest.get? "labels") :=
    Json.get?_putFields (by simp) (by simp)
  rw [put, h "labels" (by simp [typedFields]), Option.or_none]

theorem Apart.get?_annotations (h : m.Apart) :
    m.toJson.get? "annotations" = m.annotations.map .ofTexts := by
  have put : m.toJson.get? "annotations" = (m.annotations.map .ofTexts).or (m.rest.get? "annotations") :=
    Json.get?_putFields (by simp) (by simp)
  rw [put, h "annotations" (by simp [typedFields]), Option.or_none]

end ObjectMeta

namespace ManagedResource

variable {r : ManagedResource} {path : List String}

/-- In order, with every typed field of the metadata in its own place. -/
structure Tidy (r : ManagedResource) : Prop where
  ordered : r.Ordered
  apart : r.metadata.Apart

theorem metadata_of_ofBody? {kind : Kind} {metadata : ObjectMeta} {members : Members}
    (h : ofBody? kind metadata members = some r) : r.metadata = metadata := by
  unfold ofBody? at h
  split at h
  · cases h
    rfl
  · cases h

/-- Whatever is read from a manifest in order is tidy. -/
theorem tidy_of_ofJson? {kind : Kind} {j : Json} (h : ofJson? kind j = some r) (hj : j.WellFormed) :
    r.Tidy := by
  refine ⟨ordered_of_ofJson? h hj, ?_⟩
  unfold ofJson? at h
  split at h
  · simp only [Option.bind_eq_bind, Option.bind_eq_some_iff] at h
    obtain ⟨given, -, h⟩ := h
    split at h
    · simp only [Option.pure_def, Option.bind_eq_some_iff, Option.some.injEq] at h
      obtain ⟨_, ⟨m, -, hmeta⟩, _, -, rfl⟩ := h
      exact ObjectMeta.apart_of_ofJson? hmeta
    · cases h
  · obtain ⟨⟨metadata, members⟩, hread, hbody⟩ := Option.bind_eq_some_iff.1 h
    rw [metadata_of_ofBody? hbody]
    unfold ApiResource.manifest? at hread
    split at hread
    · split at hread
      · obtain ⟨m, hm, heq⟩ := Option.map_eq_some_iff.1 hread
        cases heq
        exact ObjectMeta.apart_of_ofField? hm
      · cases hread
    · cases hread

/-! ## What the patch has -/

theorem get?_ownedFields_data (r : ManagedResource) : r.ownedFields.get? "data" = r.body.get? "data" :=
  Json.get?_putFields_nil (by simp) (by simp)

theorem get?_ownedFields_metadata (r : ManagedResource) :
    r.ownedFields.get? "metadata" = some (.obj (ownedMetadata r.metadata)) :=
  Json.get?_putFields_of_mem (by simp) (by simp)

theorem get?_ownedFields_spec (r : ManagedResource) : r.ownedFields.get? "spec" =
    ((r.body.get? "spec").bind Json.obj?).map fun spec => .obj (ownedSpec r.kind spec) :=
  Json.get?_putFields_nil (by simp) (by simp)

theorem get?_ownedMetadata_labels (m : ObjectMeta) :
    Dictionary.get? (ownedMetadata m) "labels" = m.labels.map .ofTexts :=
  Json.get?_putFields_nil (by simp) (by simp)

theorem get?_ownedMetadata_annotations (m : ObjectMeta) :
    Dictionary.get? (ownedMetadata m) "annotations" = m.annotations.map .ofTexts :=
  Json.get?_putFields_nil (by simp) (by simp)

/-- A member of the spec that can change after creation. -/
def Changeable (kind : Kind) (k : String) : Prop := if kind = .claim then k = "resources" else k ≠ "selector"

instance (kind : Kind) (k : String) : Decidable (Changeable kind k) :=
  inferInstanceAs (Decidable (if kind = .claim then k = "resources" else k ≠ "selector"))

theorem get?_ownedSpec (kind : Kind) (spec : Members) (k : String) :
    Dictionary.get? (ownedSpec kind spec) k = if Changeable kind k then spec.get? k else none := by
  unfold ownedSpec Changeable
  split
  · exact (Dictionary.get?_filter_keys (fun k => k = "resources") spec k).trans (by simp)
  · rw [Dictionary.get?_erase]
    split <;> simp_all

/-! ## What it leaves alone -/

/-- The paths that belong to others: all members of the manifest that are not patched, all metadata but
labels and annotations, those of which the resource has none, and what cannot change of the spec. -/
inductive Disowns (r : ManagedResource) : List String → Prop where
  | member (k : String) (path : List String) (other : k ∉ ["data", "metadata", "spec"]) : Disowns r (k :: path)
  | metadata (k : String) (path : List String) (other : k ∉ ["annotations", "labels"]) :
      Disowns r ("metadata" :: k :: path)
  | label (k : String) (path : List String) (unset : r.toJson.at? ["metadata", "labels", k] = none) :
      Disowns r ("metadata" :: "labels" :: k :: path)
  | annotation (k : String) (path : List String) (unset : r.toJson.at? ["metadata", "annotations", k] = none) :
      Disowns r ("metadata" :: "annotations" :: k :: path)
  | spec (k : String) (path : List String) (fixed : ¬ Changeable r.kind k) : Disowns r ("spec" :: k :: path)

theorem departs_metadata (h : (Json.obj (ownedMetadata r.metadata)).Departs path) :
    r.ownedFields.Departs ("metadata" :: path) := by
  refine ⟨_, rfl, fun v hv => ?_⟩
  cases r.get?_ownedFields_metadata.symm.trans hv
  exact h

/-- A path to a label or an annotation that the manifest lacks departs from the patch. -/
theorem departs_of_unset {field k : String} {texts : Option (Dictionary String)}
    (owned : Dictionary.get? (ownedMetadata r.metadata) field = texts.map .ofTexts)
    (written : ∀ ts, texts = some ts → r.metadata.toJson.get? field = some (.ofTexts ts))
    (unset : r.toJson.at? ["metadata", field, k] = none) :
    r.ownedFields.Departs ("metadata" :: field :: k :: path) := by
  refine departs_metadata ⟨_, rfl, fun v hv => ?_⟩
  obtain ⟨ts, hts, rfl⟩ := Option.map_eq_some_iff.1 (owned.symm.trans hv)
  simp only [Json.at?_cons, get?_toJson_metadata, written ts hts, Option.bind_some, Json.at?_nil,
    Option.bind_eq_none_iff] at unset
  exact ⟨_, rfl, fun w hw => absurd (unset w hw) (by simp)⟩

theorem departs_of_disowns (h : r.Disowns path) : r.ownedFields.Departs path := by
  cases h with
  | member k path other =>
    refine ⟨_, rfl, fun v hv => ?_⟩
    rw [Json.get?_putFields_of_not_mem other] at hv
    cases hv
  | metadata k path other =>
    refine departs_metadata ⟨_, rfl, fun v hv => ?_⟩
    rw [ownedMetadata, Json.get?_putFields_of_not_mem other] at hv
    cases hv
  | label k path unset =>
    refine departs_of_unset (get?_ownedMetadata_labels _) (fun ts hts => ?_) unset
    exact Json.get?_putFields_of_mem (by simp) (by simp [hts])
  | annotation k path unset =>
    refine departs_of_unset (get?_ownedMetadata_annotations _) (fun ts hts => ?_) unset
    exact Json.get?_putFields_of_mem (by simp) (by simp [hts])
  | spec k path fixed =>
    refine ⟨_, rfl, fun v hv => ?_⟩
    obtain ⟨spec, -, rfl⟩ := Option.map_eq_some_iff.1 (r.get?_ownedFields_spec.symm.trans hv)
    refine ⟨_, rfl, fun w hw => ?_⟩
    rw [get?_ownedSpec, if_neg fixed] at hw
    cases hw

/-! ## What it establishes -/

/-- The paths at which the manifest is to be met: labels, annotations, data and what can change of the spec. -/
inductive Owns (kind : Kind) : List String → Prop where
  | label (k : String) : Owns kind ["metadata", "labels", k]
  | annotation (k : String) : Owns kind ["metadata", "annotations", k]
  | data (k : String) : Owns kind ["data", k]
  | spec (k : String) (changeable : Changeable kind k) : Owns kind ["spec", k]

/-- There the patch is the manifest. -/
theorem at?_ownedFields (hr : r.Tidy) (h : Owns r.kind path) : r.ownedFields.at? path = r.toJson.at? path := by
  have metadata (field k : String)
      (same : Dictionary.get? (ownedMetadata r.metadata) field = r.metadata.toJson.get? field) :
      r.ownedFields.at? ["metadata", field, k] = r.toJson.at? ["metadata", field, k] := by
    simp only [Json.at?_cons, get?_ownedFields_metadata, get?_toJson_metadata, Option.bind_some]
    rw [← same, Json.get?]
  cases h with
  | label k => exact metadata _ k ((get?_ownedMetadata_labels _).trans hr.apart.get?_labels.symm)
  | annotation k => exact metadata _ k ((get?_ownedMetadata_annotations _).trans hr.apart.get?_annotations.symm)
  | data k => rw [Json.at?_cons, Json.at?_cons, get?_ownedFields_data, get?_toJson_of_body (by simp)]
  | spec k changeable =>
    rw [Json.at?_cons, Json.at?_cons, get?_ownedFields_spec, get?_toJson_of_body (by simp)]
    cases r.body.get? "spec" with
    | none => rfl
    | some spec =>
      cases spec with
      | obj members =>
        change (Dictionary.get? (ownedSpec r.kind members) k).bind _ = (Dictionary.get? members k).bind _
        rw [get?_ownedSpec, if_pos changeable]
      | _ => rfl

/-! ## The patch -/

/-- A live object, before and after a patch that is to bring about what the operator owns of a resource. -/
structure ChangesOwned (r : ManagedResource) (live patched : Json) : Prop where
  /-- Where no leaf of the patch is on the way or beyond, nothing changes. -/
  clear : ∀ path, r.ownedFields.Clear path → patched.at? path = live.at? path
  /-- What belongs to others stays as it is. -/
  disowned : ∀ path, r.Disowns path → patched.at? path = live.at? path
  /-- What is owned ends up as the manifest has it. -/
  owned : ∀ path v, Owns r.kind path → r.toJson.at? path = some v →
    ∃ w, patched.at? path = some w ∧ w.contains v = true

/-- A patch of any live object changes what is owned of the resource and nothing else, if only the resource
is tidy; and so is every resource that is read from a manifest or generated. -/
theorem changes_only_owned :
    (∀ r : ManagedResource, r.Tidy → ∀ live, ChangesOwned r live (live.mergePatch r.ownedFields)) ∧
    (∀ kind j r, j.WellFormed → ofJson? kind j = some r → r.Tidy) ∧
    ∀ ctx, ∀ r ∈ Desired.resources ctx, r.Tidy := by
  refine ⟨fun r hr live => ?scope, fun kind j r hj read => tidy_of_ofJson? read hj, fun ctx r hr => ?generated⟩
  case scope =>
    have inOrder : r.ownedFields.WellFormed := hr.ordered.regular.wellFormed_ownedFields
    exact {
      clear := fun path h => Json.at?_mergePatch_of_departs inOrder (Json.departs_of_clear h) live
      disowned := fun path h => Json.at?_mergePatch_of_departs inOrder (departs_of_disowns h) live
      owned := fun path v h written =>
        Json.exists_at?_mergePatch inOrder r.nullFree_ownedFields ((at?_ownedFields hr h).trans written) live }
  case generated =>
    exact ⟨Desired.ordered_resources ctx r hr, ObjectMeta.apart_of_rest_eq_nil (Desired.rest_of_mem_resources hr)⟩

/-- A claim for more storage than there is leaves what a user put on the volume claim, and its class. -/
theorem storage_grown :
    let r : ManagedResource := ⟨.claim, { name := some "events-database", labels := some [("app", "gramola")] },
      [("spec", .obj [("accessModes", .arr [.str "ReadWriteOnce"]),
        ("resources", .obj [("requests", .obj [("storage", .str "1Gi")])])])], rfl⟩
    let live : Json := .obj [
      ("metadata", .obj [("labels", .obj [("team", .str "music")]), ("name", .str "events-database")]),
      ("spec", .obj [("accessModes", .arr [.str "ReadWriteMany"]),
        ("resources", .obj [("requests", .obj [("storage", .str "512Mi")])]),
        ("storageClassName", .str "fast")])]
    let patched := live.mergePatch r.ownedFields
    r.Tidy ∧ patched.at? ["metadata", "name"] = some (.str "events-database") ∧
      patched.at? ["metadata", "labels", "team"] = some (.str "music") ∧
      patched.at? ["spec", "accessModes"] = some (.arr [.str "ReadWriteMany"]) ∧
      patched.at? ["spec", "storageClassName"] = some (.str "fast") ∧
      ∃ w, patched.at? ["spec", "resources"] = some w ∧
        w.contains (.obj [("requests", .obj [("storage", .str "1Gi")])]) = true := by
  intro r live patched
  have tidy : r.Tidy := by
    refine ⟨⟨⟨List.pairwise_singleton _ _, ⟨?spec, ⟨trivial, trivial⟩, ?resources, trivial⟩, trivial⟩, ?labels,
      nofun, .nil, trivial⟩, ObjectMeta.apart_of_rest_eq_nil rfl⟩
    case spec => simp +decide [Dictionary.sorted_iff_ascending]
    case resources => exact ⟨List.pairwise_singleton _ _, ⟨List.pairwise_singleton _ _, trivial, trivial⟩, trivial⟩
    case labels =>
      rintro _ ⟨⟩
      exact List.pairwise_singleton _ _
  have scope : r.ChangesOwned live patched := changes_only_owned.1 r tidy live
  have written : r.toJson.at? ["spec", "resources"] =
      some (.obj [("requests", .obj [("storage", .str "1Gi")])]) := by
    rw [Json.at?_cons, get?_toJson_of_body (by simp)]
    rfl
  exact ⟨tidy, scope.disowned _ (.metadata "name" [] (by decide)),
    scope.disowned _ (.label "team" [] (by decide)), scope.disowned _ (.spec "accessModes" [] (by decide)),
    scope.disowned _ (.spec "storageClassName" [] (by decide)),
    scope.owned _ _ (.spec "resources" (by decide)) written⟩

end ManagedResource

end AppServiceOperator
