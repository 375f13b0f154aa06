import AppServiceOperator.Proofs.Desired.Generated
import AppServiceOperator.Proofs.Manifest.OwnedFields
/-!
# Resources in order

The members of every object inside a resource are in ascending order of their keys. Whatever is read from
a manifest in order is such a resource (`ManagedResource.ordered_of_ofJson?`), since the shapes list their
fields in that order, and so is everything that is generated (`Desired.ordered_resources`). Its manifest
and what is owned of it are in order then.
-/
namespace AppServiceOperator

open Dictionary (Sorted sorted_iff_ascending)

namespace Dictionary

/-- A part of the keys in their order is in order. -/
theorem sorted_of_keys_sublist {α β : Type} {ms : Dictionary α} {ns : Dictionary β}
    (h : (ms.map (·.1)).Sublist (ns.map (·.1))) (hs : Sorted ns) : Sorted ms := by
  have keys : (ns.map (·.1)).Pairwise (· < ·) := List.pairwise_map.2 hs
  exact List.pairwise_map.1 (keys.sublist h)

/-- Reading the values leaves the keys as they are. -/
theorem keys_of_mapM {α β : Type} {f : α → Option β} {ms : Dictionary α} {ns : Dictionary β}
    (h : (ms.mapM fun m => (f m.2).map fun v => (m.1, v)) = some ns) : ns.map (·.1) = ms.map (·.1) := by
  induction ms generalizing ns with
  | nil =>
    cases h
    rfl
  | cons m ms ih =>
    simp only [List.mapM_cons, Option.pure_def, Option.bind_eq_bind, Option.bind_eq_some_iff,
      Option.map_eq_some_iff, Option.some.injEq] at h
    obtain ⟨_, ⟨v, -, rfl⟩, rest, hrest, rfl⟩ := h
    rw [List.map_cons, List.map_cons, ih hrest]

end Dictionary

namespace Json

theorem wellFormed_putFields {fields : List (String × Option Json)} {others : Members}
    (hf : ∀ f ∈ fields, ∀ v, f.2 = some v → v.WellFormed) (ho : (Json.obj others).WellFormed) :
    (Json.obj (putFields fields others)).WellFormed := by
  refine ⟨sorted_putFields ho.1, wellFormedMembers_iff.2 fun m hm => ?_⟩
  rcases mem_putFields hm with put | other
  · exact hf _ put _ rfl
  · exact wellFormedMembers_iff.1 ho.2 m other

theorem wellFormed_ofOptional {fields : List (String × Option Json)}
    (hf : ∀ f ∈ fields, ∀ v, f.2 = some v → v.WellFormed) : (ofOptional fields).WellFormed := by
  rw [ofOptional_eq_putFields]
  exact wellFormed_putFields hf ⟨.nil, trivial⟩

theorem wellFormed_filter {ms : Members} (h : (Json.obj ms).WellFormed) (p : String × Json → Bool) :
    (Json.obj (ms.filter p)).WellFormed :=
  ⟨h.1.filter p, wellFormedMembers_filter h.2⟩

theorem wellFormed_of_fields? {names : List String} {j : Json} {given : List (Option Json)}
    (h : j.fields? names = some given) (hj : j.WellFormed) : ∀ v, some v ∈ given → v.WellFormed := by
  intro v hv
  cases j with
  | obj ms =>
    cases h
    obtain ⟨name, -, hget⟩ := List.mem_map.1 hv
    exact wellFormed_of_get? hj.2 hget
  | arr items =>
    simp only [fields?, Option.ite_none_right_eq_some, Option.some.injEq] at h
    obtain ⟨-, rfl⟩ := h
    rcases List.mem_append.1 hv with item | absent
    · obtain ⟨_, hitem, heq⟩ := List.mem_map.1 item
      cases heq
      exact wellFormedItems_iff.1 hj v hitem
    · cases (List.mem_replicate.1 absent).2
  | _ => cases h

theorem sorted_of_texts? {j : Json} {texts : Dictionary String} (hj : j.WellFormed)
    (h : j.texts? = some texts) : Sorted texts := by
  cases j with
  | obj ms =>
    have keys : texts.map (·.1) = ms.map (·.1) := Dictionary.keys_of_mapM h
    exact Dictionary.sorted_of_keys_sublist (keys ▸ .refl _) hj.1
  | _ => cases h

end Json

/-! ## Reading by a shape -/

namespace Shape

open Json (wellFormedMembers_iff wellFormedItems_iff)

mutual
/-- Every record inside the shape lists its fields in ascending order. -/
def ordered : Shape → Bool
  | .list s | .map s => ordered s
  | .record fields => Dictionary.ascending (fields.map (·.1)) && orderedFields fields
  | _ => true

def orderedFields : List (String × Presence × Shape) → Bool
  | [] => true
  | (_, _, s) :: fs => ordered s && orderedFields fs
end

theorem ordered_record {fields : List (String × Presence × Shape)} :
    (record fields).ordered = true ↔ Sorted fields ∧ orderedFields fields = true := by
  rw [ordered, Bool.and_eq_true, sorted_iff_ascending]

theorem keys_defaults (fs : List (String × Presence × Shape)) :
    ((defaults fs).map (·.1)).Sublist (fs.map (·.1)) := by
  induction fs with
  | nil => exact .slnil
  | cons f fs ih =>
    obtain ⟨name, _ | _, s⟩ := f
    · exact ih.cons _
    · exact ih.cons_cons _

theorem keys_readFields {fs : List (String × Presence × Shape)} {members vs : Members}
    (h : readFields fs members = some vs) : (vs.map (·.1)).Sublist (fs.map (·.1)) := by
  induction fs generalizing vs with
  | nil =>
    cases h
    exact .slnil
  | cons f fs ih =>
    obtain ⟨name, presence, s⟩ := f
    unfold readFields at h
    split at h
    case h_3 =>
      simp only [Option.bind_eq_some_iff, Option.map_eq_some_iff] at h
      obtain ⟨v, -, rest, hrest, rfl⟩ := h
      exact (ih hrest).cons_cons _
    all_goals
      cases presence with
      | optional => exact (ih h).cons _
      | required =>
        obtain ⟨rest, hrest, rfl⟩ := Option.map_eq_some_iff.1 h
        exact (ih hrest).cons_cons _

mutual
theorem wellFormed_default : (s : Shape) → s.ordered = true → s.default.WellFormed
  | .text, _ | .base64, _ | .flag, _ | .int32, _ | .int64, _ | .intOrText, _ | .timestamp, _
  | .anything, _ => by simp only [default, Json.WellFormed]
  | .list _, _ => by simp only [default, Json.WellFormed, Json.WellFormedItems]
  | .map _, _ => ⟨.nil, trivial⟩
  | .record fields, h => by
    obtain ⟨hs, hf⟩ := ordered_record.1 h
    exact ⟨Dictionary.sorted_of_keys_sublist (keys_defaults fields) hs, wellFormed_defaults fields hf⟩

theorem wellFormed_defaults : (fs : List (String × Presence × Shape)) → orderedFields fs = true →
    Json.WellFormedMembers (defaults fs)
  | [], _ => trivial
  | (_, presence, s) :: fs, h => by
    obtain ⟨hs, hfs⟩ := Bool.and_eq_true_iff.1 h
    cases presence with
    | optional => exact wellFormed_defaults fs hfs
    | required => exact ⟨wellFormed_default s hs, wellFormed_defaults fs hfs⟩
end

mutual
/-- The normal form of a value in order is in order. -/
theorem wellFormed_of_read : (s : Shape) → s.ordered = true → ∀ {j v : Json}, j.WellFormed →
    s.read j = some v → v.WellFormed
  | .anything, _, j, v, hj, h => by
    cases h
    exact hj
  | .text, _, j, v, _, h | .flag, _, j, v, _, h | .int32, _, j, v, _, h | .int64, _, j, v, _, h
  | .base64, _, j, v, _, h | .intOrText, _, j, v, _, h | .timestamp, _, j, v, _, h => by
    cases j <;> simp [read] at h <;> first
      | (subst h; trivial)
      | (obtain ⟨_, rfl⟩ := h; trivial)
      | (obtain ⟨_, _, rfl⟩ := h; trivial)
  | .list s, hs, j, v, hj, h => by
    cases j with
    | arr items =>
      obtain ⟨vs, hvs, rfl⟩ := Option.map_eq_some_iff.1 h
      refine wellFormedItems_iff.2 fun v hv => ?_
      obtain ⟨item, hitem, hread⟩ := mem_mapM hvs v hv
      exact wellFormed_of_read s (by simpa [ordered] using hs) (wellFormedItems_iff.1 hj item hitem) hread
    | _ => simp [read] at h
  | .map s, hs, j, v, hj, h => by
    cases j with
    | obj members =>
      obtain ⟨vs, hvs, rfl⟩ := Option.map_eq_some_iff.1 h
      have keys : vs.map (·.1) = members.map (·.1) := Dictionary.keys_of_mapM hvs
      refine ⟨Dictionary.sorted_of_keys_sublist (keys ▸ .refl _) hj.1,
        wellFormedMembers_iff.2 fun m hm => ?_⟩
      obtain ⟨m₀, hm₀, hread⟩ := mem_mapM hvs m hm
      obtain ⟨w, hw, rfl⟩ := Option.map_eq_some_iff.1 hread
      exact wellFormed_of_read s (by simpa [ordered] using hs) (wellFormedMembers_iff.1 hj.2 m₀ hm₀) hw
    | _ => simp [read] at h
  | .record fields, hs, j, v, hj, h => by
    cases j with
    | obj members =>
      obtain ⟨vs, hvs, rfl⟩ := Option.map_eq_some_iff.1 h
      obtain ⟨hsorted, hf⟩ := ordered_record.1 hs
      exact ⟨Dictionary.sorted_of_keys_sublist (keys_readFields hvs) hsorted,
        wellFormed_of_readFields fields hf hj.2 hvs⟩
    | _ => simp [read] at h

theorem wellFormed_of_readFields : (fs : List (String × Presence × Shape)) → orderedFields fs = true →
    ∀ {members vs : Members}, Json.WellFormedMembers members → readFields fs members = some vs →
      Json.WellFormedMembers vs
  | [], _, members, vs, _, h => by
    cases h
    trivial
  | (name, presence, s) :: fs, hs, members, vs, hm, h => by
    obtain ⟨ht, hfs⟩ := Bool.and_eq_true_iff.1 hs
    unfold readFields at h
    split at h
    case h_3 hget =>
      simp only [Option.bind_eq_some_iff, Option.map_eq_some_iff] at h
      obtain ⟨v, hv, rest, hrest, rfl⟩ := h
      exact ⟨wellFormed_of_read s ht (Json.wellFormed_of_get? hm hget) hv,
        wellFormed_of_readFields fs hfs hm hrest⟩
    all_goals
      cases presence with
      | optional => exact wellFormed_of_readFields fs hfs hm h
      | required =>
        obtain ⟨rest, hrest, rfl⟩ := Option.map_eq_some_iff.1 h
        exact ⟨wellFormed_default s ht, wellFormed_of_readFields fs hfs hm hrest⟩
end

end Shape

/-! ## Metadata -/

namespace OwnerReference

theorem wellFormed_toJson (o : OwnerReference) : o.toJson.WellFormed := by
  refine Json.wellFormed_ofOptional fun f hf v hv => ?_
  simp only [List.mem_cons, List.not_mem_nil, or_false] at hf
  rcases hf with rfl | rfl | rfl | rfl | rfl | rfl <;>
    first
      | (cases hv; trivial)
      | (obtain ⟨_, -, rfl⟩ := Option.map_eq_some_iff.1 hv; trivial)

end OwnerReference

namespace ObjectMeta

/-- Labels, annotations and all that is carried along are in order. -/
structure Ordered (m : ObjectMeta) : Prop where
  labels : ∀ ts, m.labels = some ts → Sorted ts
  annotations : ∀ ts, m.annotations = some ts → Sorted ts
  rest : (Json.obj m.rest).WellFormed

theorem Ordered.wellFormed_toJson {m : ObjectMeta} (hm : m.Ordered) : m.toJson.WellFormed := by
  refine Json.wellFormed_putFields (fun f hf v hv => ?_) hm.rest
  simp only [List.mem_cons, List.not_mem_nil, or_false] at hf
  rcases hf with rfl | rfl | rfl | rfl | rfl | rfl | rfl | rfl <;>
    obtain ⟨x, hx, rfl⟩ := Option.map_eq_some_iff.1 hv
  case inr.inr.inr.inr.inr.inl =>
    refine Json.wellFormedItems_iff.2 fun j hj => ?_
    obtain ⟨o, -, rfl⟩ := List.mem_map.1 hj
    exact o.wellFormed_toJson
  case inl => exact ManagedResource.wellFormed_ofTexts (hm.annotations x hx)
  case inr.inr.inl => exact ManagedResource.wellFormed_ofTexts (hm.labels x hx)
  all_goals trivial

theorem ordered_ofNormal {j : Json} (hj : j.WellFormed) : (ofNormal j).Ordered := by
  have texts {k : String} {ts : Dictionary String} (h : (j.get? k).bind (·.texts?) = some ts) :
      Sorted ts := by
    obtain ⟨v, hv, hts⟩ := Option.bind_eq_some_iff.1 h
    cases j with
    | obj ms => exact Json.sorted_of_texts? (Json.wellFormed_of_get? hj.2 hv) hts
    | _ => cases hv
  refine ⟨fun ts h => texts h, fun ts h => texts h, ?_⟩
  cases j with
  | obj ms => exact Json.wellFormed_filter hj _
  | _ => exact ⟨.nil, trivial⟩

theorem ordered_of_ofJson? {j : Json} {m : ObjectMeta} (h : ofJson? j = some m) (hj : j.WellFormed) :
    m.Ordered := by
  obtain ⟨v, hv, rfl⟩ := Option.map_eq_some_iff.1 h
  exact ordered_ofNormal (Shape.wellFormed_of_read _ (by decide +kernel) hj hv)

theorem ordered_of_ofField? {j : Option Json} {m : ObjectMeta} (h : ofField? j = some m)
    (hj : ∀ v, j = some v → v.WellFormed) : m.Ordered := by
  have empty : ({} : ObjectMeta).Ordered := ⟨nofun, nofun, .nil, trivial⟩
  rcases j with _ | v
  · cases h
    exact empty
  · cases v with
    | null =>
      cases h
      exact empty
    | _ => exact ordered_of_ofJson? h (hj _ rfl)

end ObjectMeta

/-! ## Resources -/

theorem RouteSpec.wellFormed_toJson (spec : RouteSpec) : spec.toJson.WellFormed := by
  have port (p : PortReference) : p.toJson.WellFormed := by
    cases p <;> trivial
  refine Json.wellFormed_ofOptional fun f hf v hv => ?_
  simp only [List.mem_cons, List.not_mem_nil, or_false] at hf
  rcases hf with rfl | rfl | rfl
  · obtain ⟨_, -, rfl⟩ := Option.map_eq_some_iff.1 hv
    trivial
  · obtain ⟨p, -, rfl⟩ := Option.map_eq_some_iff.1 hv
    exact ⟨List.pairwise_singleton _ _, port p, trivial⟩
  · cases hv
    exact ⟨by simp +decide [sorted_iff_ascending], trivial, trivial, trivial⟩

theorem Kind.ordered_bodyFields (k : Kind) : Shape.ordered (.record k.bodyFields) = true := by
  cases k <;> decide +kernel

namespace ManagedResource

variable {r : ManagedResource}

/-- Every object inside the resource is in order. -/
structure Ordered (r : ManagedResource) : Prop where
  body : (Json.obj r.body).WellFormed
  metadata : r.metadata.Ordered

theorem Ordered.regular (hr : r.Ordered) : r.Regular :=
  ⟨hr.body, hr.metadata.labels, hr.metadata.annotations⟩

/-- The manifest of a resource in order is in order. -/
theorem Ordered.wellFormed_toJson (hr : r.Ordered) : r.toJson.WellFormed := by
  refine Json.wellFormed_putFields (fun f hf v hv => ?_) hr.body
  simp only [List.mem_cons, List.not_mem_nil, or_false] at hf
  rcases hf with rfl | rfl | rfl <;> cases hv
  · trivial
  · trivial
  · exact hr.metadata.wellFormed_toJson

/-- What is owned of a resource is in order. -/
theorem Regular.wellFormed_ownedFields (hr : r.Regular) : r.ownedFields.WellFormed := by
  refine Json.wellFormed_putFields (fun f hf v hv => ?_) ⟨.nil, trivial⟩
  simp only [List.mem_cons, List.not_mem_nil, or_false] at hf
  rcases hf with rfl | rfl | rfl
  · exact Json.wellFormed_of_get? hr.body.2 hv
  · cases hv
    refine Json.wellFormed_putFields (fun f hf v hv => ?_) ⟨.nil, trivial⟩
    simp only [List.mem_cons, List.not_mem_nil, or_false] at hf
    rcases hf with rfl | rfl <;> obtain ⟨ts, hts, rfl⟩ := Option.map_eq_some_iff.1 hv
    · exact wellFormed_ofTexts (hr.annotations ts hts)
    · exact wellFormed_ofTexts (hr.labels ts hts)
  · obtain ⟨spec, hspec, rfl⟩ := Option.map_eq_some_iff.1 hv
    obtain ⟨j, hj, hobj⟩ := Option.bind_eq_some_iff.1 hspec
    obtain ⟨p, hp⟩ := ownedSpec_eq_filter r.kind spec
    rw [hp]
    cases j with
    | obj ms =>
      cases hobj
      exact Json.wellFormed_filter (Json.wellFormed_of_get? hr.body.2 hj) p
    | _ => cases hobj

theorem ordered_ofRoute {metadata : ObjectMeta} (spec : RouteSpec) (h : metadata.Ordered) :
    (ofRoute metadata spec).Ordered :=
  ⟨⟨List.pairwise_singleton _ _, spec.wellFormed_toJson, trivial⟩, h⟩

theorem ordered_of_ofBody? {kind : Kind} {metadata : ObjectMeta} {members : Members}
    (h : ofBody? kind metadata members = some r) (hm : metadata.Ordered)
    (hmembers : Json.WellFormedMembers members) : r.Ordered := by
  unfold ofBody? at h
  split at h
  · rename_i body hbody
    cases h
    obtain ⟨hs, hf⟩ := Shape.ordered_record.1 kind.ordered_bodyFields
    exact ⟨⟨Dictionary.sorted_of_keys_sublist (Shape.keys_readFields hbody) hs,
      Shape.wellFormed_of_readFields _ hf hmembers hbody⟩, hm⟩
  · cases h

/-- A resource that was read from a manifest in order is in order. -/
theorem ordered_of_ofJson? {kind : Kind} {j : Json} (h : ofJson? kind j = some r) (hj : j.WellFormed) :
    r.Ordered := by
  unfold ofJson? at h
  split at h
  · simp only [Option.bind_eq_bind, Option.bind_eq_some_iff] at h
    obtain ⟨given, hgiven, h⟩ := h
    split at h
    · rename_i metadata spec
      simp only [Option.pure_def, Option.bind_eq_some_iff, Option.some.injEq] at h
      obtain ⟨_, ⟨m, rfl, hmeta⟩, read, -, rfl⟩ := h
      have inOrder : m.WellFormed := Json.wellFormed_of_fields? hgiven hj m (by simp)
      exact ordered_ofRoute read (ObjectMeta.ordered_of_ofJson? hmeta inOrder)
    · cases h
  · obtain ⟨⟨metadata, members⟩, hread, hbody⟩ := Option.bind_eq_some_iff.1 h
    cases j with
    | obj ms =>
      unfold ApiResource.manifest? at hread
      dsimp only at hread
      split at hread
      · obtain ⟨m, hm, heq⟩ := Option.map_eq_some_iff.1 hread
        cases heq
        exact ordered_of_ofBody? hbody
          (ObjectMeta.ordered_of_ofField? hm fun v hv => Json.wellFormed_of_get? hj.2 hv) hj.2
      · cases hread
    | _ => cases hread

end ManagedResource

/-- Every generated resource is in order. -/
theorem Desired.ordered_resources (ctx : Context) : ∀ r ∈ resources ctx, r.Ordered := by
  intro r hr
  have regular : r.Regular := (solid_resources ctx r hr).regular
  refine ⟨regular.body, regular.labels, regular.annotations, ?_⟩
  rw [rest_of_mem_resources hr]
  exact ⟨.nil, trivial⟩

end AppServiceOperator
