import AppServiceOperator.Proofs.Desired.Topology
import AppServiceOperator.Proofs.Interleaving.System
import AppServiceOperator.Proofs.Reconcile.Convergence
import AppServiceOperator.Proofs.Reconcile.Premises
import Mathlib.Logic.Relation
/-!
# Two AppServices over one store

The objects of an AppService have fixed names in its namespace, and a patch leaves the owners of an
object as they are. So two AppServices of one namespace share all their objects, and the one that comes
second patches what the first one controls (`shared_in_namespace`). AppServices of different namespaces
share nothing: however their passes interleave, call by call (`Neighbours.Step`), neither patches an
object that the other controls (`isolated_by_namespace`).
-/
namespace AppServiceOperator

open Program (History Path Turn along_bind along_call bind_eq bind_call bind_done)
open Relation (ReflTransGen)
open Simulation (ObjectKey)

/-! ## Controllers -/

namespace Json

/-- The uids of the owners that control the object of a manifest. -/
def controllers (j : Json) : List String :=
  let owners := (((j.get? "metadata").bind (·.get? "ownerReferences")).bind arr?).getD []
  (owners.filter fun o => o.flagAt? "controller" = some true).filterMap (·.textAt? "uid")

/-- The AppService controls the object of the manifest. -/
def ControlledBy (j : Json) (app : AppService) : Prop :=
  ∃ uid ∈ j.controllers, app.metadata.uid = some uid

end Json

theorem OwnerReference.textAt?_uid (o : OwnerReference) : o.toJson.textAt? "uid" = some o.uid := by
  have found : o.toJson.get? "uid" = some (.str o.uid) := by
    rw [toJson, Json.ofOptional_eq_putFields]
    exact Json.get?_putFields_of_mem (by simp) (by simp)
  rw [Json.textAt?, found]
  rfl

namespace ManagedResource

/-- Nobody else than its one owner controls what is created. -/
theorem controllers_toJson {r : ManagedResource} {o : OwnerReference}
    (owned : r.metadata.ownerReferences = some [o]) {uid : String} (control : uid ∈ r.toJson.controllers) :
    uid = o.uid := by
  have owners : r.metadata.toJson.get? "ownerReferences" = some (.arr [o.toJson]) := by
    refine Json.get?_putFields_of_mem ?_ ?_
    · simp
    · simp [owned]
  rw [Json.controllers, get?_toJson_metadata] at control
  simp only [Option.bind_some, owners, Json.arr?, Option.getD_some] at control
  obtain ⟨j, hj, huid⟩ := List.mem_filterMap.1 control
  obtain rfl := List.mem_singleton.1 (List.mem_filter.1 hj).1
  rw [o.textAt?_uid] at huid
  exact (Option.some.inj huid).symm

/-- A patch leaves the owners as they are. -/
theorem controllers_mergePatch (r : ManagedResource) (live : Json) :
    (live.mergePatch r.ownedFields).controllers = live.controllers := by
  have metadata : (live.mergePatch r.ownedFields).get? "metadata" =
      some (((live.get? "metadata").getD .null).mergePatch (.obj (ownedMetadata r.metadata))) := by
    refine Json.get?_mergePatch_of_mem (Json.sorted_putFields List.Pairwise.nil) ?_ (by simp)
    exact Dictionary.mem_of_get? (Json.get?_putFields_of_mem (by simp) (by simp))
  have unowned : "ownerReferences" ∉ (ownedMetadata r.metadata).map (·.1) := by
    intro hmem
    obtain ⟨⟨k, v⟩, hm, rfl⟩ := List.mem_map.1 hmem
    have field := Json.mem_putFields_nil hm
    simp at field
  have same : (((live.get? "metadata").getD .null).get? "ownerReferences") =
      (live.get? "metadata").bind (·.get? "ownerReferences") := by
    cases live.get? "metadata" <;> rfl
  rw [Json.controllers, metadata, Option.bind_some, Json.get?_mergePatch_of_not_mem unowned, same,
    ← Json.controllers]

end ManagedResource

theorem Context.of_ofApp {app : AppService} {script : Option Script} {ctx : Context}
    (context : ofApp app script = .ok ctx) :
    app.ns = some ctx.ns ∧ app.metadata.uid = some ctx.owner.uid ∧ ctx.owner.controller = some true := by
  unfold ofApp at context
  split at context
  · cases context
  · rename_i ns inNs
    split at context
    · cases context
    · rename_i owner howner
      cases context
      unfold AppService.controllerReference? at howner
      split at howner
      · rename_i name uid hname huid
        cases howner
        exact ⟨inNs, huid, rfl⟩
      · cases howner

/-! ## What a pass asks of the store -/

/-- The call is one of those that bring about the resource. -/
def Call.Concerns (r : ManagedResource) : Call → Prop
  | .create q | .fetch q => q = r
  | .patch q body => q = r ∧ body = r.ownedFields
  | _ => False

theorem ManagedResource.ensure_concerns (r : ManagedResource) (h : History Call.Answer) :
    r.ensure.Along (fun _ c => c.Concerns r) (fun _ _ => True) h :=
  along_ensure (P := fun c => c.Concerns r) rfl rfl ⟨rfl, rfl⟩ h

namespace Pass

variable {settings : PassSettings} {key app : AppService} {h : History Call.Answer} {c : Call}

/-- What a pass asks about objects while it brings them about is about one of them. -/
theorem Sequence.concerns {rs : List ManagedResource} {a : Except OperatorError Unit}
    (run : Sequence app rs h a) : ∀ t ∈ h, t.call.OnResources → ∃ r ∈ rs, t.call.Concerns r := by
  induction run with
  | nil => simp
  | @fails r rs h e one =>
    intro t ht _
    exact ⟨r, List.mem_cons_self, (r.ensure_concerns []).turns one t ht⟩
  | @cons r rs h h' done a one _ ih =>
    intro t ht onResources
    rcases List.mem_append.1 ht with ht | ht
    · exact ⟨r, List.mem_cons_self, (r.ensure_concerns []).turns one t ht⟩
    rcases List.mem_append.1 ht with ht | ht
    · obtain ⟨notice, -, rfl⟩ := List.mem_map.1 ht
      exact onResources.elim
    · obtain ⟨q, hq, concerns⟩ := ih t ht onResources
      exact ⟨q, List.mem_cons_of_mem _ hq, concerns⟩

/-- Whatever a pass asks about objects is about those of the AppService that it read. -/
theorem concerns_of_path {next : c.Answer → Operation (Except OperatorError Action)}
    (path : Path (reconcile settings key) h (.call c next)) (onResources : c.OnResources) :
    ∃ ns app ctx, ⟨.fetchApp ns key.name, .ok (some app)⟩ ∈ h ∧
      Context.ofApp app settings.script = .ok ctx ∧ ∃ r ∈ Desired.resources ctx, c.Concerns r := by
  have notRead : ∀ ns name, c ≠ .fetchApp ns name := by
    rintro ns name rfl
    exact onResources
  obtain ⟨answer⟩ : Nonempty c.Answer := inferInstance
  obtain ⟨ns, app, h', later, hd, hc, result, outcome, rfl, hall, driven, committed⟩ :=
    exists_worked path notRead answer
  have here : ⟨c, answer⟩ ∈ hd ++ hc := hall ▸ by simp
  have shape : Shape settings app (hd ++ hc) := driven.shape committed
  generalize hd ++ hc = all at here shape
  cases shape with
  | quiet records => exact absurd onResources (records _ here).idle.1
  | marking valid unmarked records =>
    rcases List.mem_cons.1 here with here | here
    · cases here
      exact onResources.elim
    · exact absurd onResources (records _ here).idle.1
  | @working ctx ho hp a valid initialized context objects rest execOnce =>
    rcases List.mem_append.1 here with here | here
    · obtain ⟨r, hr, concerns⟩ := (sequence_of_path objects).concerns _ here onResources
      exact ⟨ns, app, ctx, List.mem_cons_self, context, r, hr, concerns⟩
    · rcases rest _ here with records | ⟨onPods, -⟩
      · exact absurd onResources records.idle.1
      · exact absurd onResources onPods.not_onResources

end Pass

/-! ## Passes of two AppServices -/

/-- What a call can do to the objects, whatever it is answered: a creation takes effect where there is no
object, a patch where there is one. -/
inductive ObjectStore.Effect : ObjectStore → Call → ObjectStore → Prop where
  | nothing {s : ObjectStore} {c : Call} : Effect s c s
  | created {s : ObjectStore} {r : ManagedResource} (free : s (.ofResource r) = none) :
      Effect s (.create r) (s.put (.ofResource r) r.toJson)
  | patched {s : ObjectStore} {r : ManagedResource} {body live : Json}
      (there : s (.ofResource r) = some live) :
      Effect s (.patch r body) (s.put (.ofResource r) (live.mergePatch body))

/-- The two are versions of the same AppService. -/
structure AppService.Same (app app' : AppService) : Prop where
  name : app.metadata.name = app'.metadata.name
  ns : app.metadata.ns = app'.metadata.ns
  uid : app.metadata.uid = app'.metadata.uid

/-- The object that the pass is about to patch. -/
def RunningPass.patches? (p : RunningPass) : Option ObjectKey :=
  match p.rest with
  | .call (.patch r _) _ => some (.ofResource r)
  | _ => none

theorem RunningPass.patches?_eq_some {p : RunningPass} {k : ObjectKey} :
    p.patches? = some k ↔ ∃ r body next, p.rest = .call (.patch r body) next ∧ ObjectKey.ofResource r = k := by
  unfold patches?
  split
  · rename_i r body next waiting
    simp [waiting]
  · rename_i notPatch
    constructor
    · intro none_eq
      cases none_eq
    · rintro ⟨r, body, next, waiting, -⟩
      exact absurd waiting (notPatch r body next)

/-- A store of objects with passes over it. -/
structure Neighbours where
  objects : ObjectStore
  passes : List RunningPass

namespace Neighbours

/-- One step of passes of the two AppServices: any number of each may be under way. A pass is told of no
other AppService than its own. -/
inductive Step (a b : AppService) : Neighbours → Neighbours → Prop where
  | start {objects : ObjectStore} {passes : List RunningPass} {key : AppService} (settings : PassSettings)
      (whose : key = a ∨ key = b) : Step a b ⟨objects, passes⟩ ⟨objects, .start settings key :: passes⟩
  | call {objects objects' : ObjectStore} {front back : List RunningPass} {p : RunningPass} {c : Call}
      {answer : c.Answer} {next : c.Answer → Operation (Except OperatorError Action)}
      (waiting : p.rest = .call c next) (told : ∀ o, Turn.tells ⟨c, answer⟩ = some o → o.Same p.key)
      (effect : objects.Effect c objects') :
      Step a b ⟨objects, front ++ p :: back⟩ ⟨objects', front ++ p.resume answer next :: back⟩
  /-- Others change, add and remove objects, but make nothing the controller of an object. -/
  | others {objects objects' : ObjectStore} {passes : List RunningPass}
      (kept : ∀ k live, objects' k = some live →
        ∀ uid ∈ live.controllers, ∃ before, objects k = some before ∧ uid ∈ before.controllers) :
      Step a b ⟨objects, passes⟩ ⟨objects', passes⟩

/-- No object in the namespace of the one AppService is controlled by the other. -/
def Foreign (app other : AppService) (s : ObjectStore) : Prop :=
  ∀ k live, s k = some live → app.ns = some k.ns → ¬ live.ControlledBy other

/-- The pass is on its path, and was told of no AppService but its own. -/
structure Faithful (p : RunningPass) : Prop where
  path : Path (Pass.reconcile p.settings p.key) p.history p.rest
  told : ∀ t ∈ p.history, ∀ o, t.tells = some o → o.Same p.key

theorem Faithful.resume {p : RunningPass} (faithful : Faithful p) {c : Call} {answer : c.Answer}
    {next : c.Answer → Operation (Except OperatorError Action)} (waiting : p.rest = .call c next)
    (told : ∀ o, Turn.tells ⟨c, answer⟩ = some o → o.Same p.key) : Faithful (p.resume answer next) where
  path := by
    have path := faithful.path
    rw [waiting] at path
    exact path.snoc answer
  told := List.forall_mem_append.2 ⟨faithful.told, List.forall_mem_singleton.2 told⟩

/-- What a pass asks about objects is about one in the namespace of its AppService, of which that is the
only owner. -/
theorem Faithful.concerns {p : RunningPass} (faithful : Faithful p) {c : Call}
    {next : c.Answer → Operation (Except OperatorError Action)} (waiting : p.rest = .call c next)
    (onResources : c.OnResources) :
    ∃ r, c.Concerns r ∧ p.key.ns = some (ObjectKey.ofResource r).ns ∧
      ∀ uid ∈ r.toJson.controllers, p.key.metadata.uid = some uid := by
  have path := faithful.path
  rw [waiting] at path
  obtain ⟨ns, app, ctx, read, context, r, hr, concerns⟩ := Pass.concerns_of_path path onResources
  have same : app.Same p.key := faithful.told _ read app rfl
  obtain ⟨inNs, uid, -⟩ := Context.of_ofApp context
  refine ⟨r, concerns, ?_, fun uid' control => ?_⟩
  · have key : (ObjectKey.ofResource r).ns = ctx.ns := by
      rw [ObjectKey.ofResource, Desired.ns_of_mem_resources hr]
      rfl
    rw [key, ← inNs]
    exact same.ns.symm
  · rw [ManagedResource.controllers_toJson (Desired.owners_of_mem_resources hr) control, ← uid]
    exact same.uid.symm

/-- An object that comes in leaves all as it was, if it is not one of the other in the namespace. -/
theorem Foreign.put {app other : AppService} {s : ObjectStore} {k : ObjectKey} {j : Json}
    (foreign : Foreign app other s) (new : app.ns = some k.ns → ¬ j.ControlledBy other) :
    Foreign app other (s.put k j) := by
  intro l live there
  by_cases hl : l = k
  · subst hl
    rw [ObjectStore.put_self] at there
    cases there
    exact new
  · rw [ObjectStore.put_of_ne hl] at there
    exact foreign l live there

/-- The AppServices are different ones, of different namespaces. -/
structure Apart (app other : AppService) : Prop where
  ns : app.ns ≠ other.ns
  uid : app.metadata.uid ≠ other.metadata.uid

theorem Apart.symm {app other : AppService} (apart : Apart app other) : Apart other app :=
  ⟨apart.ns.symm, apart.uid.symm⟩

/-- No call of either AppService's passes makes the other one control an object in the namespace. -/
theorem Foreign.effect {app other : AppService} {s s' : ObjectStore} {p : RunningPass} {c : Call}
    {next : c.Answer → Operation (Except OperatorError Action)} (foreign : Foreign app other s)
    (apart : Apart app other) (whose : p.key = app ∨ p.key = other) (faithful : Faithful p)
    (waiting : p.rest = .call c next) (effect : s.Effect c s') : Foreign app other s' := by
  cases effect with
  | nothing => exact foreign
  | @created r free =>
    obtain ⟨q, rfl, inNs, owners⟩ := faithful.concerns waiting trivial
    refine foreign.put fun here => ?_
    rintro ⟨uid, control, known⟩
    have owner := owners uid control
    rcases whose with hkey | hkey
    · rw [hkey] at owner
      exact apart.uid (owner.trans known.symm)
    · rw [hkey] at inNs
      exact apart.ns (here.trans inNs.symm)
  | @patched r body live there =>
    obtain ⟨q, ⟨rfl, rfl⟩, -, -⟩ := faithful.concerns waiting trivial
    refine foreign.put fun here => ?_
    rw [Json.ControlledBy, ManagedResource.controllers_mergePatch]
    exact foreign _ live there here

theorem Foreign.others {app other : AppService} {s s' : ObjectStore} (foreign : Foreign app other s)
    (kept : ∀ k live, s' k = some live →
      ∀ uid ∈ live.controllers, ∃ before, s k = some before ∧ uid ∈ before.controllers) :
    Foreign app other s' := by
  rintro k live there here ⟨uid, control, known⟩
  obtain ⟨before, hbefore, control⟩ := kept k live there uid control
  exact foreign k before hbefore here ⟨uid, control, known⟩

/-- What is true of two AppServices of different namespaces while their passes go on. -/
structure Separate (a b : AppService) (σ : Neighbours) : Prop where
  left : Foreign a b σ.objects
  right : Foreign b a σ.objects
  whose : ∀ p ∈ σ.passes, p.key = a ∨ p.key = b
  faithful : ∀ p ∈ σ.passes, Faithful p

variable {a b : AppService} {σ σ' : Neighbours}

theorem Separate.step (separate : Separate a b σ) (apart : Apart a b) (step : Step a b σ σ') :
    Separate a b σ' := by
  obtain ⟨left, right, whose, faithful⟩ := separate
  cases step with
  | start settings hkey =>
    refine ⟨left, right, List.forall_mem_cons.2 ⟨hkey, whose⟩, List.forall_mem_cons.2 ⟨?_, faithful⟩⟩
    exact ⟨.here _, by simp [RunningPass.start]⟩
  | @call objects objects' front back p c answer next waiting told effect =>
    have hp : p ∈ front ++ p :: back := by simp
    refine ⟨?left, ?right, ?whose, ?faithful⟩
    case left => exact left.effect apart (whose p hp) (faithful p hp) waiting effect
    case right => exact right.effect apart.symm (whose p hp).symm (faithful p hp) waiting effect
    case whose =>
      obtain ⟨hfront, hback⟩ := List.forall_mem_append.1 whose
      obtain ⟨hp, hback⟩ := List.forall_mem_cons.1 hback
      exact List.forall_mem_append.2 ⟨hfront, List.forall_mem_cons.2 ⟨hp, hback⟩⟩
    case faithful =>
      obtain ⟨hfront, hback⟩ := List.forall_mem_append.1 faithful
      obtain ⟨hp, hback⟩ := List.forall_mem_cons.1 hback
      exact List.forall_mem_append.2 ⟨hfront, List.forall_mem_cons.2 ⟨hp.resume waiting told, hback⟩⟩
  | others kept => exact ⟨left.others kept, right.others kept, whose, faithful⟩

theorem Separate.steps {σ₀ : Neighbours} (separate : Separate a b σ₀) (apart : Apart a b)
    (steps : ReflTransGen (Step a b) σ₀ σ) : Separate a b σ := by
  induction steps with
  | refl => exact separate
  | tail _ step ih => exact ih.step apart step

/-- The first of the objects of every AppService is its secret. -/
theorem exists_secret (ctx : Context) : ∃ r ∈ Desired.resources ctx,
    ObjectKey.ofResource r = ⟨Kind.secret.name, ctx.ns, Desired.eventsDatabase⟩ :=
  ⟨_, List.mem_cons_self, rfl⟩

/-- Two AppServices have objects of the same kind, namespace and name exactly where they are of the same
namespace. Where they are not, neither patches an object that the other controls, in whatever order the
calls of their passes come. -/
theorem isolated_by_namespace {ns ns' : String} (inNs : a.ns = some ns) (inNs' : b.ns = some ns')
    (uids : a.metadata.uid ≠ b.metadata.uid) :
    (∀ script script' ctx ctx', Context.ofApp a script = .ok ctx → Context.ofApp b script' = .ok ctx' →
      ((∃ r ∈ Desired.resources ctx, ∃ r' ∈ Desired.resources ctx',
        ObjectKey.ofResource r = ObjectKey.ofResource r') ↔ ns = ns')) ∧
    (ns ≠ ns' → ∀ objects, Foreign a b objects → Foreign b a objects →
      ∀ σ, ReflTransGen (Step a b) ⟨objects, []⟩ σ → ∀ p ∈ σ.passes, ∀ k live,
        p.patches? = some k → σ.objects k = some live →
        p.key = a ∧ ¬ live.ControlledBy b ∨ p.key = b ∧ ¬ live.ControlledBy a) := by
  refine ⟨fun script script' ctx ctx' context context' => ?shared, fun other => ?isolated⟩
  case shared =>
    have hns : ns = ctx.ns := Option.some.inj (inNs.symm.trans (Context.of_ofApp context).1)
    have hns' : ns' = ctx'.ns := Option.some.inj (inNs'.symm.trans (Context.of_ofApp context').1)
    constructor
    · rintro ⟨r, hr, r', hr', hkey⟩
      have key := congrArg ObjectKey.ns hkey
      simp only [ObjectKey.ofResource, Desired.ns_of_mem_resources hr, Desired.ns_of_mem_resources hr',
        Option.getD_some] at key
      rw [hns, hns', key]
    · intro same
      obtain ⟨r, hr, hkey⟩ := exists_secret ctx
      obtain ⟨r', hr', hkey'⟩ := exists_secret ctx'
      exact ⟨r, hr, r', hr', by rw [hkey, hkey', ← hns, ← hns', same]⟩
  case isolated =>
    intro objects left right σ steps p hp k live patches there
    obtain ⟨r, body, next, waiting, rfl⟩ := RunningPass.patches?_eq_some.1 patches
    have apart : Apart a b := by
      refine ⟨?_, uids⟩
      rw [inNs, inNs']
      simpa using other
    have initially : Separate a b ⟨objects, []⟩ := ⟨left, right, by simp, by simp⟩
    obtain ⟨left, right, whose, faithful⟩ := initially.steps apart steps
    obtain ⟨q, ⟨rfl, -⟩, here, -⟩ := (faithful p hp).concerns waiting trivial
    rcases whose p hp with hkey | hkey
    · rw [hkey] at here
      exact .inl ⟨hkey, left _ live there here⟩
    · rw [hkey] at here
      exact .inr ⟨hkey, right _ live there here⟩

/-- From an empty store on, AppServices of two namespaces never meet. -/
theorem isolated_from_empty :
    let b := { Smooth.app with metadata := { Smooth.app.metadata with ns := some "stage", uid := some "8" } }
    ∀ σ, ReflTransGen (Step Smooth.app b) ⟨fun _ => none, []⟩ σ → ∀ p ∈ σ.passes, ∀ k live,
      p.patches? = some k → σ.objects k = some live →
      p.key = Smooth.app ∧ ¬ live.ControlledBy b ∨ p.key = b ∧ ¬ live.ControlledBy Smooth.app := by
  intro b
  have inNs : Smooth.app.ns = some "demo" := rfl
  have inNs' : b.ns = some "stage" := rfl
  have isolated := isolated_by_namespace inNs inNs' (by decide)
  exact isolated.2 (by decide) _ nofun nofun

/-- The pass that was started last reads its AppService. -/
theorem Step.read {objects : ObjectStore} {back : List RunningPass} {p : RunningPass} {ns name : String}
    {next : Except OperatorError (Option AppService) → Operation (Except OperatorError Action)}
    (waiting : p.rest = .call (.fetchApp ns name) next) :
    Step a b ⟨objects, p :: back⟩ ⟨objects, @RunningPass.resume p (.fetchApp ns name) (.ok (some p.key)) next :: back⟩ := by
  refine @Step.call a b objects objects [] back p (.fetchApp ns name) (.ok (some p.key)) next waiting
    (fun o ho => ?_) .nothing
  cases ho
  exact ⟨rfl, rfl, rfl⟩

/-- A call of that pass that is not about the AppService. -/
theorem Step.other {objects objects' : ObjectStore} {back : List RunningPass} {p : RunningPass} {c : Call}
    {next : c.Answer → Operation (Except OperatorError Action)} (waiting : p.rest = .call c next)
    (answer : c.Answer) (other : ¬ c.OnApp) (effect : objects.Effect c objects') :
    Step a b ⟨objects, p :: back⟩ ⟨objects', p.resume answer next :: back⟩ := by
  refine @Step.call a b objects objects' [] back p c answer next waiting (fun o ho => ?_) effect
  cases c <;> first | cases ho | exact absurd trivial other

/-- In one namespace a second AppService patches what the first one controls. -/
theorem shared_in_namespace : ∃ a b : AppService,
    a.ns = some "demo" ∧ b.ns = some "demo" ∧ a.name ≠ b.name ∧ a.metadata.uid ≠ b.metadata.uid ∧
    (∃ ctx ctx', Context.ofApp a none = .ok ctx ∧ Context.ofApp b none = .ok ctx' ∧
      ∃ r ∈ Desired.resources ctx, ∃ r' ∈ Desired.resources ctx',
        ObjectKey.ofResource r = ObjectKey.ofResource r') ∧
    ∃ σ, ReflTransGen (Step a b) ⟨fun _ => none, []⟩ σ ∧ ∃ p ∈ σ.passes, ∃ k live,
      p.patches? = some k ∧ σ.objects k = some live ∧ p.key = b ∧ live.ControlledBy a := by
  let a := Smooth.app
  let b := { Smooth.app with metadata := { Smooth.app.metadata with name := some "jukebox", uid := some "8" } }
  refine ⟨a, b, rfl, rfl, by decide, by decide, ⟨_, _, rfl, rfl, _, List.mem_cons_self, _,
    List.mem_cons_self, rfl⟩, ?_⟩
  let ctx : Context := ⟨"gramola", "demo",
    ⟨"gramola.redhat.com/v1alpha1", "AppService", "gramola", "7", some true, none⟩, none⟩
  let live := (Desired.secret ctx Desired.eventsDatabase {}).toJson
  -- the first pass creates its secret
  have started : ReflTransGen (Step a b) ⟨fun _ => none, []⟩ _ := .single (.start {} (.inl rfl))
  have read := started.tail (.read rfl)
  have created := read.tail (.other rfl (by exact .ok ()) id (.created rfl))
  -- the second one finds it, and it is not labelled as its own
  have started := created.tail (.start {} (.inr rfl))
  have read := started.tail (.read rfl)
  have refused := read.tail
    (.other rfl (by exact .error (.alreadyExists "Secret" "events-database")) id .nothing)
  have found := refused.tail (.other rfl (by exact .ok (some live)) id .nothing)
  have control : live.ControlledBy a := ⟨"7", by decide +kernel, rfl⟩
  exact ⟨_, found, _, List.mem_cons_self, ⟨"Secret", "demo", "events-database"⟩, live,
    by decide +kernel, rfl, rfl, control⟩

end Neighbours

end AppServiceOperator
