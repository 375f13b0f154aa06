import AppServiceOperator.Proofs.Desired.Generated
import AppServiceOperator.Proofs.Effect.History
import AppServiceOperator.Reconcile.Ensure
import AppServiceOperator.Simulation.World
/-!
# Convergence

A server without faults holds one object for each kind, namespace and name, applies patches as
merge patches, and may add members to any object behind every write (`ObjectStore.Answers`). There,
bringing about the generated resources once makes every one of them contain what the operator owns
of it, and bringing them about again finds nothing to do (`resources_converge`).
-/
namespace AppServiceOperator

open Program (Runs Turn runs_done runs_call runs_bind)
open Simulation (ObjectKey)

/-- What a server holds for each kind, namespace and name. -/
abbrev ObjectStore := ObjectKey → Option Json

namespace ObjectStore

def put (s : ObjectStore) (k : ObjectKey) (j : Json) : ObjectStore := fun l => if l = k then some j else s l

/-- The same objects, each with any number of members more. -/
def Grown (s s' : ObjectStore) : Prop := ∀ k, Option.Rel Json.Grown (s k) (s' k)

/-- How a server without faults answers, and what it holds from then on. -/
inductive Answers : ObjectStore → (c : Call) → c.Answer → ObjectStore → Prop where
  | created {s s' : ObjectStore} {r : ManagedResource} (free : s (.ofResource r) = none)
      (grown : Grown (s.put (.ofResource r) r.toJson) s') : Answers s (.create r) (.ok ()) s'
  | taken {s : ObjectStore} {r : ManagedResource} {live : Json} (there : s (.ofResource r) = some live) :
      Answers s (.create r) (.error (.alreadyExists r.kind.name r.name)) s
  | fetched {s : ObjectStore} {r : ManagedResource} : Answers s (.fetch r) (.ok (s (.ofResource r))) s
  | patched {s s' : ObjectStore} {r : ManagedResource} {body live : Json}
      (there : s (.ofResource r) = some live)
      (grown : Grown (s.put (.ofResource r) (live.mergePatch body)) s') :
      Answers s (.patch r body) (.ok ()) s'
  | absent {s : ObjectStore} {r : ManagedResource} {body : Json} (free : s (.ofResource r) = none) :
      Answers s (.patch r body) (.error (.notFound r.kind.name r.name)) s

/-- The object of the resource is there and contains what the operator owns of it. -/
def Holds (s : ObjectStore) (r : ManagedResource) : Prop :=
  ∃ live, s (.ofResource r) = some live ∧ live.contains r.ownedFields = true

@[simp] theorem put_self (s : ObjectStore) (k : ObjectKey) (j : Json) : s.put k j k = some j :=
  if_pos rfl

theorem put_of_ne {s : ObjectStore} {k l : ObjectKey} {j : Json} (h : l ≠ k) : s.put k j l = s l :=
  if_neg h

theorem Grown.refl (s : ObjectStore) : s.Grown s := fun k => by
  cases s k with
  | none => exact .none
  | some j => exact .some (.same j)

/-- What a store holds of a solid resource, it holds while members are added. -/
theorem Holds.grown {s s' : ObjectStore} {r : ManagedResource} (held : s.Holds r) (hr : r.Solid)
    (hg : Option.Rel Json.Grown (s (.ofResource r)) (s' (.ofResource r))) : s'.Holds r := by
  obtain ⟨j, hj, hc⟩ := held
  rw [hj] at hg
  cases hs' : s' (.ofResource r) with
  | none => rw [hs'] at hg; cases hg
  | some j' =>
    rw [hs'] at hg
    cases hg with
    | some g => exact ⟨j', hs', Json.contains_of_grown (ManagedResource.solid_ownedFields hr).2 hc g⟩

end ObjectStore

/-- A call that may have changed what the server holds: all that writes, but for a creation that
was refused. -/
def Program.Turn.Wrote : Turn Call.Answer → Prop
  | ⟨.create _, answer⟩ => answer = .ok ()
  | ⟨.patch .., _⟩ | ⟨.replaceApp _, _⟩ | ⟨.writeStatus _, _⟩ => True
  | _ => False

theorem Kind.name_injective {k l : Kind} (h : k.name = l.name) : k = l := by
  revert h
  cases k <;> cases l <;> decide

namespace ManagedResource

open ObjectStore

variable {r : ManagedResource} {s s' : ObjectStore} {h : Program.History Call.Answer}
  {a : Except OperatorError Convergence}

/-! ## One resource -/

/-- All that bringing about one resource can come to. -/
theorem ensure_cases (run : Runs Answers r.ensure s h a s') :
    (s (.ofResource r) = none ∧ a = .ok .created ∧ (s.put (.ofResource r) r.toJson).Grown s') ∨
    (∃ live, s (.ofResource r) = some live ∧ live.contains r.ownedFields = true ∧ a = .ok .unchanged ∧
      s' = s ∧ h = [⟨.create r, .error (.alreadyExists r.kind.name r.name)⟩, ⟨.fetch r, .ok (some live)⟩]) ∨
    (∃ live, s (.ofResource r) = some live ∧ live.contains r.ownedFields = false ∧ a = .ok .patched ∧
      (s.put (.ofResource r) (live.mergePatch r.ownedFields)).Grown s') := by
  obtain ⟨_, s₁, h₁, rfl, first, rest⟩ := runs_call.1 run
  cases first with
  | created free grown =>
    obtain ⟨-, rfl, rfl⟩ := runs_done.1 rest
    exact .inl ⟨free, rfl, grown⟩
  | @taken _ live there =>
    obtain ⟨_, s₂, h₂, rfl, second, rest⟩ := runs_call.1 rest
    cases second
    rw [there] at rest ⊢
    replace rest : Runs Answers (r.amend live) s h₂ a s' := rest
    unfold amend at rest
    split at rest
    · rename_i met
      obtain ⟨rfl, rfl, rfl⟩ := runs_done.1 rest
      exact .inr (.inl ⟨live, rfl, met, rfl, rfl, rfl⟩)
    · rename_i drifted
      obtain ⟨_, s₃, h₃, rfl, third, rest⟩ := runs_call.1 rest
      cases third with
      | patched there' grown =>
        cases there.symm.trans there'
        obtain ⟨-, rfl, rfl⟩ := runs_done.1 rest
        exact .inr (.inr ⟨live, rfl, by simpa using drifted, rfl, grown⟩)
      | absent free => cases there.symm.trans free

theorem ok_of_ensure (run : Runs Answers r.ensure s h a s') : ∃ c, a = .ok c := by
  rcases ensure_cases run with ⟨-, rfl, -⟩ | ⟨_, -, -, rfl, -, -⟩ | ⟨_, -, -, rfl, -⟩ <;> exact ⟨_, rfl⟩

theorem holds_of_ensure (hr : r.Solid) (run : Runs Answers r.ensure s h a s') : s'.Holds r := by
  rcases ensure_cases run with ⟨-, -, grown⟩ | ⟨live, there, met, -, rfl, -⟩ | ⟨live, -, -, -, grown⟩
  · have stored : (s.put (.ofResource r) r.toJson).Holds r :=
      ⟨_, put_self .., contains_ownedFields hr.regular⟩
    exact stored.grown hr (grown _)
  · exact ⟨live, there, met⟩
  · have merged := Json.contains_mergePatch _ r.nullFree_ownedFields (solid_ownedFields hr).1 live
    have stored : (s.put (.ofResource r) (live.mergePatch r.ownedFields)).Holds r :=
      ⟨_, put_self .., merged⟩
    exact stored.grown hr (grown _)

/-- The objects of other resources only gain members. -/
theorem grown_of_ensure (run : Runs Answers r.ensure s h a s') {k : ObjectKey} (hk : k ≠ .ofResource r) :
    Option.Rel Json.Grown (s k) (s' k) := by
  rcases ensure_cases run with ⟨-, -, grown⟩ | ⟨_, -, -, -, rfl, -⟩ | ⟨_, -, -, -, grown⟩
  · simpa only [put_of_ne hk] using grown k
  · exact Grown.refl s' k
  · simpa only [put_of_ne hk] using grown k

theorem holds_after_other {q : ManagedResource} (hq : q.Solid)
    (hne : ObjectKey.ofResource q ≠ .ofResource r) (held : s.Holds q)
    (run : Runs Answers r.ensure s h a s') : s'.Holds q :=
  held.grown hq (grown_of_ensure run hne)

theorem ensure_of_holds (held : s.Holds r) (run : Runs Answers r.ensure s h a s') :
    a = .ok .unchanged ∧ s' = s ∧ ∀ t ∈ h, ¬ t.Wrote := by
  obtain ⟨live, there, met⟩ := held
  rcases ensure_cases run with ⟨free, -, -⟩ | ⟨_, -, -, rfl, rfl, rfl⟩ | ⟨live', there', drifted, -, -⟩
  · cases there.symm.trans free
  · exact ⟨rfl, rfl, by simp [Turn.Wrote]⟩
  · cases there.symm.trans there'
    cases met.symm.trans drifted

/-- Bringing about a resource always comes to an end. -/
theorem exists_ensure (r : ManagedResource) (s : ObjectStore) : ∃ h a s', Runs Answers r.ensure s h a s' := by
  cases there : s (.ofResource r) with
  | none => exact ⟨_, _, _, .call (.created there (Grown.refl _)) (.done _ _)⟩
  | some live =>
    have fetched : Answers s (.fetch r) (.ok (some live)) s := there ▸ .fetched
    suffices amended : ∃ h a s', Runs Answers (r.amend live) s h a s' by
      obtain ⟨h, a, s', run⟩ := amended
      exact ⟨_, a, s', .call (.taken there) (.call fetched run)⟩
    unfold amend
    split
    · exact ⟨_, _, _, .done _ _⟩
    · exact ⟨_, _, _, .call (.patched there (Grown.refl _)) (.done _ _)⟩

/-! ## A sequence of resources -/

variable {rs : List ManagedResource} {as : List (Except OperatorError Convergence)}

theorem runs_mapM_cons {q : ManagedResource} :
    Runs Answers ((q :: rs).mapM ensure) s h as s' ↔
      ∃ h₁ h₂ b bs s₁, h = h₁ ++ h₂ ∧ as = b :: bs ∧ Runs Answers q.ensure s h₁ b s₁ ∧
        Runs Answers (rs.mapM ensure) s₁ h₂ bs s' := by
  rw [List.mapM_cons, Program.bind_eq, runs_bind]
  constructor
  · rintro ⟨h₁, h₂, b, s₁, rfl, one, rest⟩
    rw [Program.bind_eq, runs_bind] at rest
    obtain ⟨h₃, h₄, bs, s₂, rfl, rest, last⟩ := rest
    obtain ⟨rfl, rfl, rfl⟩ := runs_done.1 last
    exact ⟨h₁, h₃, b, bs, s₁, by simp, rfl, one, rest⟩
  · rintro ⟨h₁, h₂, b, bs, s₁, rfl, rfl, one, rest⟩
    refine ⟨h₁, h₂, b, s₁, rfl, one, ?_⟩
    rw [Program.bind_eq, runs_bind]
    exact ⟨h₂, [], bs, s', by simp, rest, .done _ _⟩

theorem runs_mapM_nil : Runs Answers ([].mapM ensure) s h as s' ↔ h = [] ∧ as = [] ∧ s' = s :=
  runs_done

theorem exists_ensureAll (rs : List ManagedResource) (s : ObjectStore) :
    ∃ h as s', Runs Answers (rs.mapM ensure) s h as s' := by
  induction rs generalizing s with
  | nil => exact ⟨_, _, _, runs_mapM_nil.2 ⟨rfl, rfl, rfl⟩⟩
  | cons q rs ih =>
    obtain ⟨h₁, b, s₁, one⟩ := exists_ensure q s
    obtain ⟨h₂, bs, s₂, rest⟩ := ih s₁
    exact ⟨_, _, _, runs_mapM_cons.2 ⟨h₁, h₂, b, bs, s₁, rfl, rfl, one, rest⟩⟩

theorem ok_of_ensureAll (run : Runs Answers (rs.mapM ensure) s h as s') :
    ∃ cs : List Convergence, as = cs.map .ok := by
  induction rs generalizing s h as with
  | nil =>
    obtain ⟨-, rfl, -⟩ := runs_mapM_nil.1 run
    exact ⟨[], rfl⟩
  | cons r rs ih =>
    obtain ⟨h₁, h₂, b, bs, s₁, rfl, rfl, one, rest⟩ := runs_mapM_cons.1 run
    obtain ⟨c, rfl⟩ := ok_of_ensure one
    obtain ⟨cs, rfl⟩ := ih rest
    exact ⟨c :: cs, rfl⟩

/-- What holds of a resource still holds after all others were brought about. -/
theorem holds_after_others {q : ManagedResource} (hq : q.Solid)
    (hne : ObjectKey.ofResource q ∉ rs.map ObjectKey.ofResource) (held : s.Holds q)
    (run : Runs Answers (rs.mapM ensure) s h as s') : s'.Holds q := by
  induction rs generalizing s h as with
  | nil =>
    obtain ⟨-, -, rfl⟩ := runs_mapM_nil.1 run
    exact held
  | cons r rs ih =>
    obtain ⟨h₁, h₂, b, bs, s₁, rfl, rfl, one, rest⟩ := runs_mapM_cons.1 run
    rw [List.map_cons, List.mem_cons, not_or] at hne
    exact ih hne.2 (holds_after_other hq hne.1 held one) rest

theorem holds_of_ensureAll (hs : ∀ r ∈ rs, r.Solid) (hn : (rs.map ObjectKey.ofResource).Nodup)
    (run : Runs Answers (rs.mapM ensure) s h as s') : ∀ r ∈ rs, s'.Holds r := by
  induction rs generalizing s h as with
  | nil => simp
  | cons r rs ih =>
    obtain ⟨h₁, h₂, b, bs, s₁, rfl, rfl, one, rest⟩ := runs_mapM_cons.1 run
    obtain ⟨hr, hrs⟩ := List.forall_mem_cons.1 hs
    obtain ⟨hne, hn⟩ := List.nodup_cons.1 hn
    -- the first is held at once, and the others are stored under other keys
    have held := holds_after_others hr hne (holds_of_ensure hr one) rest
    exact List.forall_mem_cons.2 ⟨held, ih hrs hn rest⟩

/-- What holds already is found unchanged, and nothing is written. -/
theorem ensureAll_of_holds (held : ∀ r ∈ rs, s.Holds r) (run : Runs Answers (rs.mapM ensure) s h as s') :
    as = rs.map (fun _ => .ok .unchanged) ∧ s' = s ∧ ∀ t ∈ h, ¬ t.Wrote := by
  induction rs generalizing s h as with
  | nil =>
    obtain ⟨rfl, rfl, rfl⟩ := runs_mapM_nil.1 run
    exact ⟨rfl, rfl, by simp⟩
  | cons r rs ih =>
    obtain ⟨h₁, h₂, b, bs, s₁, rfl, rfl, one, rest⟩ := runs_mapM_cons.1 run
    obtain ⟨hr, hrs⟩ := List.forall_mem_cons.1 held
    obtain ⟨rfl, rfl, quiet⟩ := ensure_of_holds hr one
    obtain ⟨rfl, rfl, quiet'⟩ := ih hrs rest
    exact ⟨rfl, rfl, List.forall_mem_append.2 ⟨quiet, quiet'⟩⟩

end ManagedResource

/-! ## The generated resources -/

namespace Desired

open ObjectStore

/-- The generated resources are stored under different keys. -/
theorem nodup_keys (ctx : Context) : ((resources ctx).map ObjectKey.ofResource).Nodup := by
  have hkeys : (resources ctx).map ObjectKey.ofResource =
      ((resources ctx).map fun r => (r.kind, r.name)).map fun i => ⟨i.1.name, ctx.ns, i.2⟩ := by
    rw [List.map_map]
    refine List.map_congr_left fun r hr => ?_
    simp [ObjectKey.ofResource, ns_of_mem_resources hr]
  rw [hkeys]
  refine List.Pairwise.map _ (fun i j hij heq => hij ?_) (nodup_identities ctx)
  simp only [ObjectKey.mk.injEq, true_and] at heq
  exact Prod.ext (Kind.name_injective heq.1) heq.2

/-- Whatever a server held before, bringing about the generated resources in order fails at none,
and each of them is there then and contains what the operator owns of it. To bring them about again
is possible, finds every one of them unchanged, and writes nothing. -/
theorem resources_converge (ctx : Context) {s s' : ObjectStore} {h : Program.History Call.Answer}
    {as : List (Except OperatorError Convergence)}
    (first : Runs Answers ((resources ctx).mapM ManagedResource.ensure) s h as s') :
    (∃ cs : List Convergence, as = cs.map .ok) ∧ (∀ r ∈ resources ctx, s'.Holds r) ∧
    (∃ again bs s'', Runs Answers ((resources ctx).mapM ManagedResource.ensure) s' again bs s'') ∧
    ∀ again bs s'', Runs Answers ((resources ctx).mapM ManagedResource.ensure) s' again bs s'' →
      bs = (resources ctx).map (fun _ => .ok .unchanged) ∧ s'' = s' ∧ ∀ t ∈ again, ¬ t.Wrote := by
  have held := ManagedResource.holds_of_ensureAll (solid_resources ctx) (nodup_keys ctx) first
  exact ⟨ManagedResource.ok_of_ensureAll first, held, ManagedResource.exists_ensureAll _ s',
    fun _ _ _ => ManagedResource.ensureAll_of_holds held⟩

/-- A context, and a server on which the deployments have drifted and all else is missing. -/
theorem resources_converge_of_drift :
    let ctx : Context := ⟨"gramola", "demo", ⟨"v1", "AppService", "gramola", "uid", some true, none⟩, none⟩
    let s : ObjectStore := fun k =>
      if k.kind = "Deployment" then some (.obj [("spec", .obj [("replicas", .int 3)])]) else none
    ∃ h as s', Runs Answers ((resources ctx).mapM ManagedResource.ensure) s h as s' ∧
      (∀ r ∈ resources ctx, s'.Holds r) ∧
      ∀ again bs s'', Runs Answers ((resources ctx).mapM ManagedResource.ensure) s' again bs s'' →
        bs = (resources ctx).map (fun _ => .ok .unchanged) ∧ s'' = s' ∧ ∀ t ∈ again, ¬ t.Wrote := by
  intro ctx s
  obtain ⟨h, as, s', first⟩ := ManagedResource.exists_ensureAll (resources ctx) s
  have converged := resources_converge ctx first
  exact ⟨h, as, s', first, converged.2.1, converged.2.2.2⟩

end Desired

end AppServiceOperator
