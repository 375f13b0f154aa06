import AppServiceOperator.Cluster.Client
import AppServiceOperator.Proofs.Json.Record
/-!
# Normal forms, and objects that are read as they are written

A record whose members are declared, each in the normal form of its own shape, is its own normal form
(`Shape.readFields_eq_self`), and stays one when a declared member is put into it. So the metadata of a
resource is read as it is written, and with it the whole manifest, where it goes through an object of
any kind (`ManagedResource.Proper.dynamicManifest`).
-/
namespace AppServiceOperator

namespace Dictionary

variable {α : Type} {ms : Dictionary α} {k : String} {v : α}

theorem insert_of_lt (h : ∀ m ∈ ms, k < m.1) : insert k v ms = (k, v) :: ms := by
  cases ms with
  | nil => rfl
  | cons m ms =>
    have hk : k < m.1 := h m List.mem_cons_self
    unfold insert
    rw [if_pos hk]

/-- What is there already is put where it was. -/
theorem insert_eq_self (hs : Sorted ms) (h : get? ms k = some v) : insert k v ms = ms := by
  induction ms with
  | nil => cases h
  | cons m ms ih =>
    obtain ⟨k₁, v₁⟩ := m
    obtain ⟨hlt, hms⟩ := List.pairwise_cons.1 hs
    rw [get?_cons] at h
    unfold insert
    by_cases hk : k = k₁
    · rw [if_pos hk] at h
      cases h
      rw [if_neg (hk ▸ String.lt_irrefl k), if_pos hk, hk]
    · rw [if_neg hk] at h
      have later : k₁ < k := hlt _ (mem_of_get? h)
      rw [if_neg (String.lt_asymm later), if_neg hk, ih hms h]

theorem insert_of_gt (h : ∀ m ∈ ms, m.1 < k) : insert k v ms = ms ++ [(k, v)] := by
  induction ms with
  | nil => rfl
  | cons m ms ih =>
    obtain ⟨hm, hms⟩ := List.forall_mem_cons.1 h
    have hne : k ≠ m.1 := fun heq => String.lt_irrefl k (heq ▸ hm)
    unfold insert
    rw [if_neg (String.lt_asymm hm), if_neg hne, ih hms]
    rfl

/-- What is in order already is taken as it is. -/
theorem ofList_eq_self (h : Sorted ms) : ofList ms = ms := by
  -- entry by entry, behind those that are in order before it
  suffices behind : ∀ acc : Dictionary α, Sorted (acc ++ ms) →
      ms.foldl (fun acc m => acc.insert m.1 m.2) acc = acc ++ ms from behind [] h
  clear h
  induction ms with
  | nil => simp
  | cons m ms ih =>
    intro acc h
    have before : ∀ a ∈ acc, a.1 < m.1 := fun a ha =>
      (List.pairwise_append.1 h).2.2 a ha m List.mem_cons_self
    rw [List.append_cons] at h ⊢
    rw [List.foldl_cons, insert_of_gt before]
    exact ih _ h

end Dictionary

open Dictionary (Sorted)

namespace Shape

/-- The fields of a record, by their names. -/
abbrev Fields := List (String × Presence × Shape)

variable {fields : Fields} {ms : Members}

/-- The field is declared, and the value is in the normal form of its shape. -/
def Declares (fields : Fields) (name : String) (v : Json) : Prop :=
  v ≠ .null ∧ ∃ p s, (name, p, s) ∈ fields ∧ s.read v = some v

/-- The members of a normal form: declared, in the order of the fields, each in the normal form of its
own shape. Only an optional field may be left out. -/
inductive Normal : Fields → Members → Prop where
  | nil : Normal [] []
  | skip {name : String} {s : Shape} {fields : Fields} {ms : Members} (rest : Normal fields ms) :
      Normal ((name, .optional, s) :: fields) ms
  | keep {name : String} {p : Presence} {s : Shape} {v : Json} {fields : Fields} {ms : Members}
      (given : v ≠ .null) (normal : s.read v = some v) (rest : Normal fields ms) :
      Normal ((name, p, s) :: fields) ((name, v) :: ms)

namespace Normal

theorem keys_sublist (h : Normal fields ms) : (ms.map (·.1)).Sublist (fields.map (·.1)) := by
  induction h with
  | nil => exact .slnil
  | skip _ ih => exact ih.cons _
  | keep _ _ _ ih => exact ih.cons_cons _

theorem sorted (h : Normal fields ms) (hs : Sorted fields) : Sorted ms := by
  have names : (fields.map (·.1)).Pairwise (· < ·) := List.pairwise_map.2 hs
  exact List.pairwise_map.1 (names.sublist h.keys_sublist)

/-- A field before all declared ones is before all members. -/
theorem lt_of_sorted {name : String} {d : Presence × Shape} (h : Normal fields ms)
    (hs : Sorted ((name, d) :: fields)) : ∀ m ∈ ms, name < m.1 := by
  intro m hm
  obtain ⟨f, hf, heq⟩ := List.mem_map.1 (h.keys_sublist.subset (List.mem_map_of_mem hm))
  have before : name < f.1 := (List.pairwise_cons.1 hs).1 f hf
  exact heq ▸ before

/-- A declared member in normal form can be put into a normal form. -/
theorem insert (h : Normal fields ms) (hs : Sorted fields) {name : String} {v : Json}
    (declares : Declares fields name v) : Normal fields (Dictionary.insert name v ms) := by
  obtain ⟨given, p, s, declared, normal⟩ := declares
  induction h with
  | nil => cases declared
  | @skip l t fields ms rest ih =>
    rcases List.mem_cons.1 declared with heq | later
    · cases heq
      rw [Dictionary.insert_of_lt (rest.lt_of_sorted hs)]
      exact .keep given normal rest
    · exact .skip (ih hs.of_cons later)
  | @keep l q t w fields ms given' normal' rest ih =>
    unfold Dictionary.insert
    rcases List.mem_cons.1 declared with heq | later
    · cases heq
      rw [if_neg (String.lt_irrefl name), if_pos rfl]
      exact .keep given normal rest
    · have hlt : l < name := (List.pairwise_cons.1 hs).1 _ later
      have hne : name ≠ l := fun heq => String.lt_irrefl l (heq ▸ hlt)
      rw [if_neg (String.lt_asymm hlt), if_neg hne]
      exact .keep given' normal' (ih hs.of_cons later)

theorem putFields {others : Members} (h : Normal fields others) (hs : Sorted fields)
    {written : List (String × Option Json)}
    (declares : ∀ w ∈ written, ∀ v, w.2 = some v → Declares fields w.1 v) :
    Normal fields (Json.putFields written others) := by
  induction written generalizing others with
  | nil => exact h
  | cons w written ih =>
    obtain ⟨first, rest⟩ := List.forall_mem_cons.1 declares
    obtain ⟨name, v | v⟩ := w
    · exact ih h rest
    · exact ih (h.insert hs (first v rfl)) rest

end Normal

/-- Only what stands at the names of the fields is read. -/
theorem readFields_cons_of_not_mem {name : String} {v : Json} (h : name ∉ fields.map (·.1)) :
    readFields fields ((name, v) :: ms) = readFields fields ms := by
  induction fields with
  | nil => simp only [readFields]
  | cons f fields ih =>
    obtain ⟨l, p, s⟩ := f
    simp only [List.map_cons, List.mem_cons, not_or] at h
    have hl : Dictionary.get? ((name, v) :: ms) l = Dictionary.get? ms l := by
      rw [Dictionary.get?_cons, if_neg (Ne.symm h.1)]
    simp only [readFields, hl, ih h.2]

/-- A normal form is its own normal form. -/
theorem readFields_eq_self (h : Normal fields ms) (hs : Sorted fields) : readFields fields ms = some ms := by
  induction h with
  | nil => simp only [readFields]
  | @skip name s fields ms rest ih =>
    have hnone : Dictionary.get? ms name = none := by
      cases hget : Dictionary.get? ms name with
      | none => rfl
      | some v => exact absurd (rest.lt_of_sorted hs _ (Dictionary.mem_of_get? hget)) (String.lt_irrefl name)
    simp only [readFields, hnone, ih hs.of_cons]
  | @keep name p s v fields ms given normal rest ih =>
    have hname : name ∉ fields.map (·.1) := Dictionary.not_mem_keys_of_sorted hs
    have hget : Dictionary.get? ((name, v) :: ms) name = some v := by
      rw [Dictionary.get?_cons, if_pos rfl]
    have hrest : readFields fields ((name, v) :: ms) = some ms :=
      (readFields_cons_of_not_mem hname).trans (ih hs.of_cons)
    cases v with
    | null => exact absurd rfl given
    | _ => simp only [readFields, hget, normal, hrest, Option.bind_some, Option.map_some]

theorem read_record_eq_self (h : Normal fields ms) (hs : Sorted fields) :
    (record fields).read (.obj ms) = some (.obj ms) := by
  rw [read, readFields_eq_self h hs]
  rfl

theorem mapM_eq_self {α : Type} {f : α → Option α} {xs : List α} (h : ∀ x ∈ xs, f x = some x) :
    xs.mapM f = some xs := by
  induction xs with
  | nil => rfl
  | cons x xs ih =>
    obtain ⟨hx, hxs⟩ := List.forall_mem_cons.1 h
    simp [hx, ih hxs]

theorem read_list_eq_self {s : Shape} {items : List Json} (h : ∀ j ∈ items, s.read j = some j) :
    (list s).read (.arr items) = some (.arr items) := by
  rw [read, mapM_eq_self h]
  rfl

theorem read_map_ofTexts (texts : Dictionary String) :
    (map .text).read (.ofTexts texts) = some (.ofTexts texts) := by
  have each : ∀ m ∈ texts.map fun t => (t.1, Json.str t.2),
      (read .text m.2).map (fun v => (m.1, v)) = some m := by
    intro m hm
    obtain ⟨t, -, rfl⟩ := List.mem_map.1 hm
    rfl
  rw [Json.ofTexts, read, mapM_eq_self each]
  rfl

end Shape

/-! ## Metadata -/

theorem OwnerReference.read_toJson (o : OwnerReference) :
    Shape.ownerReference.read o.toJson = some o.toJson := by
  have fieldsSorted : Sorted (Kind.bodyFields.fieldsOf Shape.ownerReference) := by
    rw [Dictionary.sorted_iff_ascending]
    decide
  obtain ⟨apiVersion, kind, name, uid, controller, blockOwnerDeletion⟩ := o
  have rest : Shape.Normal [Shape.required "kind" .text, Shape.required "name" .text,
      Shape.required "uid" .text] [("kind", .str kind), ("name", .str name), ("uid", .str uid)] :=
    .keep nofun rfl (.keep nofun rfl (.keep nofun rfl .nil))
  unfold toJson Json.ofOptional Json.ofMembers
  rw [Dictionary.ofList_eq_self]
  · refine Shape.read_record_eq_self ?_ fieldsSorted
    cases blockOwnerDeletion <;> cases controller
    · exact .keep nofun rfl (.skip (.skip rest))
    · exact .keep nofun rfl (.skip (.keep nofun rfl rest))
    · exact .keep nofun rfl (.keep nofun rfl (.skip rest))
    · exact .keep nofun rfl (.keep nofun rfl (.keep nofun rfl rest))
  · cases blockOwnerDeletion <;> cases controller <;>
      simp +decide [Dictionary.sorted_iff_ascending, Dictionary.ascending]

namespace ObjectMeta

/-- The fields of the metadata of an object. -/
def fields : Shape.Fields := Kind.bodyFields.fieldsOf Shape.objectMeta

theorem sorted_fields : Sorted fields := by
  rw [Dictionary.sorted_iff_ascending]
  decide

/-- What is carried along in the metadata is in normal form. -/
def Normal (m : ObjectMeta) : Prop := Shape.Normal fields m.rest

/-- Metadata that carries nothing along. -/
theorem normal_of_rest_eq_nil {m : ObjectMeta} (h : m.rest = []) : m.Normal := by
  unfold Normal
  rw [h]
  repeat' first | exact .nil | apply Shape.Normal.skip

theorem declares_text {name : String} (h : Dictionary.get? fields name = some (.optional, .text))
    (s : String) : Shape.Declares fields name (.str s) :=
  ⟨nofun, _, _, Dictionary.mem_of_get? h, rfl⟩

theorem declares_texts {name : String} (h : Dictionary.get? fields name = some (.optional, .map .text))
    (texts : Dictionary String) : Shape.Declares fields name (.ofTexts texts) :=
  ⟨nofun, _, _, Dictionary.mem_of_get? h, Shape.read_map_ofTexts texts⟩

theorem declares_owners (owners : List OwnerReference) :
    Shape.Declares fields "ownerReferences" (.arr (owners.map (·.toJson))) := by
  refine ⟨nofun, .optional, .list Shape.ownerReference, Dictionary.mem_of_get? rfl, ?_⟩
  refine Shape.read_list_eq_self fun j hj => ?_
  obtain ⟨o, -, rfl⟩ := List.mem_map.1 hj
  exact o.read_toJson

/-- The metadata is written in normal form. -/
theorem Normal.exists_toJson {m : ObjectMeta} (h : m.Normal) :
    ∃ members, m.toJson = .obj members ∧ Shape.Normal fields members := by
  refine ⟨_, rfl, h.putFields sorted_fields fun w hw v hv => ?_⟩
  simp only [List.mem_cons, List.not_mem_nil, or_false] at hw
  rcases hw with rfl | rfl | rfl | rfl | rfl | rfl | rfl | rfl <;>
    obtain ⟨x, -, rfl⟩ := Option.map_eq_some_iff.1 hv
  · exact declares_texts rfl x
  · exact declares_text rfl x
  · exact declares_texts rfl x
  · exact declares_text rfl x
  · exact declares_text rfl x
  · exact declares_owners x
  · exact declares_text rfl x
  · exact declares_text rfl x

end ObjectMeta

/-! ## Objects -/

/-- The value names its kind, and its metadata is in normal form. -/
def Json.Canonical (j : Json) : Prop :=
  ∃ (members metadata : Members) (apiVersion kind : String), j = .obj members ∧ Sorted members ∧
    members.get? "apiVersion" = some (.str apiVersion) ∧ members.get? "kind" = some (.str kind) ∧
    members.get? "metadata" = some (.obj metadata) ∧ Shape.Normal ObjectMeta.fields metadata

namespace Client

/-- An object of any kind is read as it is, where it names its kind and its metadata is in normal form. -/
theorem dynamicObject?_eq_self {j : Json} (h : j.Canonical) : dynamicObject? j = some j := by
  obtain ⟨members, metadata, apiVersion, kind, rfl, sorted, hversion, hkind, hmeta, normal⟩ := h
  have hread : Shape.objectMeta.read (.obj metadata) = some (.obj metadata) :=
    Shape.read_record_eq_self normal ObjectMeta.sorted_fields
  have hnamed : kindMembers members = members := by
    simp only [kindMembers, Members, hversion, hkind]
  simp only [dynamicObject?, hmeta, hread, hnamed, Option.map_some]
  rw [Dictionary.insert_eq_self sorted hmeta]

/-- Whatever else an object has is read as it is. -/
theorem get?_dynamicObject? {j object : Json} (h : dynamicObject? j = some object) {k : String}
    (hk : k ∉ ["apiVersion", "kind", "metadata"]) : object.get? k = j.get? k := by
  simp only [List.mem_cons, List.not_mem_nil, or_false, not_or] at hk
  obtain ⟨notVersion, notKind, notMetadata⟩ := hk
  cases j with
  | obj members =>
    obtain ⟨metadata, -, rfl⟩ := Option.map_eq_some_iff.1 h
    have hkept : Dictionary.get? (kindMembers members) k = Dictionary.get? members k := by
      unfold kindMembers
      split <;> simp only [Dictionary.get?_erase, notVersion, notKind, if_false]
    change Dictionary.get? (Dictionary.insert "metadata" metadata (kindMembers members)) k = _
    rw [Dictionary.get?_insert, if_neg notMetadata, hkept]
    rfl
  | _ => cases h

end Client

namespace ManagedResource

/-- The parts of the resource are in order, and its metadata is in normal form. -/
structure Proper (r : ManagedResource) : Prop where
  sorted : Sorted r.body
  normal : r.metadata.Normal

theorem Proper.canonical {r : ManagedResource} (hr : r.Proper) : r.toJson.Canonical := by
  obtain ⟨metadata, hwritten, normal⟩ := hr.normal.exists_toJson
  refine ⟨_, metadata, r.kind.api.apiVersion, r.kind.api.kind, rfl, Json.sorted_putFields hr.sorted,
    Json.get?_putFields_of_mem (by simp) (by simp), Json.get?_putFields_of_mem (by simp) (by simp),
    Json.get?_putFields_of_mem (by simp) (by simp [hwritten]), normal⟩

/-- The manifest goes through an object of any kind without a change. -/
theorem Proper.dynamicManifest {r : ManagedResource} (hr : r.Proper) :
    Client.dynamicManifest r = .ok r.toJson := by
  unfold Client.dynamicManifest
  rw [Client.dynamicObject?_eq_self hr.canonical]

end ManagedResource

end AppServiceOperator
