import AppServiceOperator.Proofs.Reconcile.Course
import Mathlib.Data.List.Nodup
/-!
# Passes over one stored AppService

Any number of passes of one AppService, interleaved call by call, while users edit it
(`System.Step`). The store gives every version of the object a new name, and a write takes effect
only where it carries the current one; the answer to any call may be lost, before or after it took
effect (`AppStore.Answers`). `Coherent` is the invariant: each pass is on a path of its program, it
only knows versions that were stored, and no two versions have the same name.
-/
namespace AppServiceOperator

open Program (History Path Turn)

def AppService.version (app : AppService) : Option String := app.metadata.resourceVersion

/-- The calls about the AppService itself. -/
def Call.OnApp : Call → Prop
  | .fetchApp .. | .replaceApp _ | .writeStatus _ => True
  | _ => False

instance : DecidablePred Call.OnApp
  | .fetchApp .. | .replaceApp _ | .writeStatus _ => .isTrue trivial
  | .create _ | .fetch _ | .patch .. | .listPods .. | .exec .. | .publish .. | .now => .isFalse id

/-! ## The store -/

/-- The stored AppService, and all its earlier versions. -/
structure AppStore where
  current : AppService
  past : List AppService := []

namespace AppStore

def objects (s : AppStore) : List AppService := s.current :: s.past

/-- No object was ever stored under the version. -/
def Fresh (s : AppStore) (version : String) : Prop := ∀ o ∈ s.objects, o.version ≠ some version

instance (s : AppStore) (version : String) : Decidable (s.Fresh version) :=
  inferInstanceAs (Decidable (∀ o ∈ s.objects, o.version ≠ some version))

/-- Store the next version of the object. -/
def install (s : AppStore) (version : String) (metadata : ObjectMeta) (spec : Spec)
    (status : Option Status) : AppStore :=
  ⟨⟨{ metadata with resourceVersion := some version }, spec, status⟩, s.objects⟩

/-- What the sender of a write is told that took effect: the object as it was stored, or an error. -/
def Tells (s : AppStore) (answer : Except OperatorError AppService) : Prop :=
  answer = .ok s.current ∨ ∃ e, answer = .error e

/-- How the store answers a call, and what it holds from then on. Calls that are not about the
AppService may be answered in any way. -/
inductive Answers : AppStore → (c : Call) → c.Answer → AppStore → Prop where
  | fetched {s : AppStore} {ns name : String} : Answers s (.fetchApp ns name) (.ok (some s.current)) s
  | notFetched {s : AppStore} {ns name : String} (e : OperatorError) :
      Answers s (.fetchApp ns name) (.error e) s
  | replaced {s : AppStore} {app : AppService} {version : String}
      {answer : Except OperatorError AppService} (current : app.version = s.current.version)
      (fresh : s.Fresh version)
      (told : (s.install version app.metadata app.spec s.current.status).Tells answer) :
      Answers s (.replaceApp app) answer (s.install version app.metadata app.spec s.current.status)
  | notReplaced {s : AppStore} {app : AppService} (e : OperatorError) :
      Answers s (.replaceApp app) (.error e) s
  | written {s : AppStore} {app : AppService} {version : String}
      {answer : Except OperatorError AppService} (current : app.version = s.current.version)
      (fresh : s.Fresh version)
      (told : (s.install version s.current.metadata s.current.spec app.status).Tells answer) :
      Answers s (.writeStatus app) answer (s.install version s.current.metadata s.current.spec app.status)
  | notWritten {s : AppStore} {app : AppService} (e : OperatorError) :
      Answers s (.writeStatus app) (.error e) s
  | other {s : AppStore} {c : Call} (other : ¬ c.OnApp) (answer : c.Answer) :
      Answers s c answer s

@[simp] theorem objects_install (s : AppStore) (version : String) (metadata : ObjectMeta) (spec : Spec)
    (status : Option Status) :
    (s.install version metadata spec status).objects =
      ⟨{ metadata with resourceVersion := some version }, spec, status⟩ :: s.objects := rfl

theorem current_mem_objects (s : AppStore) : s.current ∈ s.objects := List.mem_cons_self

/-- Nothing that was stored is forgotten. -/
theorem Answers.objects_subset {s s' : AppStore} {c : Call} {answer : c.Answer}
    (h : Answers s c answer s') : s.objects ⊆ s'.objects := by
  cases h with
  | replaced => exact List.subset_cons_self _ _
  | written => exact List.subset_cons_self _ _
  | _ => exact List.Subset.refl _

theorem nodup_versions_install {s : AppStore} (h : (s.objects.map (·.version)).Nodup) {version : String}
    (fresh : s.Fresh version) (metadata : ObjectMeta) (spec : Spec) (status : Option Status) :
    ((s.install version metadata spec status).objects.map (·.version)).Nodup := by
  rw [objects_install, List.map_cons, List.nodup_cons]
  refine ⟨fun hmem => ?_, h⟩
  obtain ⟨o, ho, hv⟩ := List.mem_map.1 hmem
  exact fresh o ho hv

theorem Answers.nodup_versions {s s' : AppStore} {c : Call} {answer : c.Answer}
    (h : Answers s c answer s') (hs : (s.objects.map (·.version)).Nodup) :
    (s'.objects.map (·.version)).Nodup := by
  cases h with
  | replaced current fresh told => exact nodup_versions_install hs fresh _ _ _
  | written current fresh told => exact nodup_versions_install hs fresh _ _ _
  | _ => exact hs

end AppStore

/-- The AppService that the answer to a call tells. -/
def Program.Turn.tells : Turn Call.Answer → Option AppService
  | ⟨.fetchApp .., .ok app⟩ => app
  | ⟨.replaceApp _, .ok app⟩ | ⟨.writeStatus _, .ok app⟩ => some app
  | _ => none

/-- What a pass is told was stored. -/
theorem AppStore.Answers.tells_mem {s s' : AppStore} {c : Call} {answer : c.Answer} {o : AppService}
    (h : Answers s c answer s') (ht : Turn.tells ⟨c, answer⟩ = some o) : o ∈ s'.objects := by
  cases h with
  | fetched => cases ht; exact s.current_mem_objects
  | notFetched => cases ht
  | replaced current fresh told =>
    rcases told with rfl | ⟨e, rfl⟩
    · cases ht; exact current_mem_objects _
    · cases ht
  | notReplaced => cases ht
  | written current fresh told =>
    rcases told with rfl | ⟨e, rfl⟩
    · cases ht; exact current_mem_objects _
    · cases ht
  | notWritten => cases ht
  | other other answer =>
    cases c with
    | fetchApp | replaceApp | writeStatus => exact absurd trivial other
    | _ => cases ht

/-! ## Passes -/

/-- A pass in progress. -/
structure RunningPass where
  settings : PassSettings
  /-- The AppService that the pass was started with. -/
  key : AppService
  history : History Call.Answer
  rest : Operation (Except OperatorError Action)

namespace RunningPass

def start (settings : PassSettings) (key : AppService) : RunningPass :=
  ⟨settings, key, [], Pass.reconcile settings key⟩

/-- The pass after one more answer. -/
def resume (p : RunningPass) {c : Call} (answer : c.Answer)
    (next : c.Answer → Operation (Except OperatorError Action)) : RunningPass :=
  { p with history := p.history ++ [⟨c, answer⟩], rest := next answer }

end RunningPass

/-- An AppService with all its passes. -/
structure System where
  store : AppStore
  passes : List RunningPass

namespace System

/-- The status of the stored AppService. -/
def status (σ : System) : Status := σ.store.current.currentStatus

inductive Step : System → System → Prop where
  | start {store : AppStore} {passes : List RunningPass} (settings : PassSettings) (key : AppService) :
      Step ⟨store, passes⟩ ⟨store, .start settings key :: passes⟩
  /-- A user edits the AppService. -/
  | edit {store : AppStore} {passes : List RunningPass} {version : String} (metadata : ObjectMeta)
      (spec : Spec) (fresh : store.Fresh version) :
      Step ⟨store, passes⟩ ⟨store.install version metadata spec store.current.status, passes⟩
  /-- One call of one pass. -/
  | call {store store' : AppStore} {front back : List RunningPass} {p : RunningPass} {c : Call}
      {answer : c.Answer} {next : c.Answer → Operation (Except OperatorError Action)}
      (waiting : p.rest = .call c next) (answers : store.Answers c answer store') :
      Step ⟨store, front ++ p :: back⟩ ⟨store', front ++ p.resume answer next :: back⟩

/-- Any number of steps. -/
inductive Steps : System → System → Prop where
  | refl (σ : System) : Steps σ σ
  | snoc {σ₁ σ₂ σ₃ : System} (steps : Steps σ₁ σ₂) (step : Step σ₂ σ₃) : Steps σ₁ σ₃

/-- What can come of an AppService without a status. -/
def Reachable (σ : System) : Prop := ∃ app : AppService, app.status = none ∧ Steps ⟨⟨app, []⟩, []⟩ σ

theorem Reachable.steps {σ σ' : System} (h : Reachable σ) (hs : Steps σ σ') : Reachable σ' := by
  obtain ⟨app, hnone, h⟩ := h
  refine ⟨app, hnone, ?_⟩
  induction hs with
  | refl => exact h
  | snoc _ step ih => exact ih.snoc step

/-- What holds at the beginning and is kept by every step, holds of all that is reachable. -/
theorem Reachable.invariant {P : System → Prop} {σ : System} (h : Reachable σ)
    (initially : ∀ app : AppService, app.status = none → P ⟨⟨app, []⟩, []⟩)
    (kept : ∀ σ σ', P σ → Step σ σ' → P σ') : P σ := by
  obtain ⟨app, hnone, steps⟩ := h
  have start := initially app hnone
  clear hnone
  induction steps with
  | refl => exact start
  | snoc _ step ih => exact kept _ _ ih step

/-! ## The invariant -/

/-- What a pass knows is true of the store. -/
structure Knows (store : AppStore) (p : RunningPass) : Prop where
  path : Path (Pass.reconcile p.settings p.key) p.history p.rest
  told : ∀ t ∈ p.history, ∀ o, t.tells = some o → o ∈ store.objects
  kept : ∀ sent o, ⟨.writeStatus sent, .ok o⟩ ∈ p.history → o.status = sent.status

/-- Every pass knows only what is true, and no two versions of the object have the same name. -/
structure Coherent (σ : System) : Prop where
  versions : (σ.store.objects.map (·.version)).Nodup
  knows : ∀ p ∈ σ.passes, Knows σ.store p

theorem Knows.mono {store store' : AppStore} {p : RunningPass} (h : Knows store p)
    (hsub : store.objects ⊆ store'.objects) : Knows store' p :=
  ⟨h.path, fun t ht o ho => hsub (h.told t ht o ho), h.kept⟩

theorem Knows.start (store : AppStore) (settings : PassSettings) (key : AppService) :
    Knows store (.start settings key) :=
  ⟨.here _, by simp [RunningPass.start], by simp [RunningPass.start]⟩

theorem Knows.resume {store store' : AppStore} {p : RunningPass} (h : Knows store p) {c : Call}
    {answer : c.Answer} {next : c.Answer → Operation (Except OperatorError Action)}
    (waiting : p.rest = .call c next) (answers : store.Answers c answer store') :
    Knows store' (p.resume answer next) where
  path := by
    have path := h.path
    rw [waiting] at path
    exact path.snoc answer
  told t ht o ho := by
    rcases List.mem_append.1 ht with ht | ht
    · exact answers.objects_subset (h.told t ht o ho)
    · rw [List.mem_singleton.1 ht] at ho
      exact answers.tells_mem ho
  kept sent o ho := by
    rcases List.mem_append.1 ho with ho | ho
    · exact h.kept sent o ho
    · cases List.mem_singleton.1 ho
      cases answers with
      | written current fresh told =>
        rcases told with told | ⟨e, told⟩
        · cases told
          rfl
        · cases told
      | other other => exact absurd trivial other

theorem Coherent.step {σ σ' : System} (h : Coherent σ) (step : Step σ σ') : Coherent σ' := by
  obtain ⟨versions, knows⟩ := h
  cases step with
  | start settings key => exact ⟨versions, List.forall_mem_cons.2 ⟨.start _ settings key, knows⟩⟩
  | edit metadata spec fresh =>
    refine ⟨AppStore.nodup_versions_install versions fresh _ _ _, fun p hp => ?_⟩
    exact (knows p hp).mono (List.subset_cons_self _ _)
  | @call store store' front back p c answer next waiting answers =>
    refine ⟨answers.nodup_versions versions, fun q hq => ?_⟩
    rcases List.mem_append.1 hq with hq | hq
    · exact (knows q (List.mem_append_left _ hq)).mono answers.objects_subset
    · rcases List.mem_cons.1 hq with rfl | hq
      · exact (knows p (by simp)).resume waiting answers
      · exact (knows q (by simp [hq])).mono answers.objects_subset

theorem Reachable.coherent {σ : System} (h : Reachable σ) : Coherent σ :=
  h.invariant (fun _ _ => ⟨by simp [AppStore.objects], by simp⟩) fun _ _ h step => h.step step

/-! ## Effects of the status writes -/

/-- A pass that is about to write a status made it of a version that was stored. -/
theorem Knows.change {store : AppStore} {p : RunningPass} (h : Knows store p) {w : AppService}
    {next : Except OperatorError AppService → Operation (Except OperatorError Action)}
    (waiting : p.rest = .call (.writeStatus w) next) :
    ∃ o ∈ store.objects, w.version = o.version ∧ o.currentStatus.Change w.currentStatus := by
  have path := h.path
  rw [waiting] at path
  obtain ⟨ns, app, h', hhist, write⟩ := Pass.statusWrite_of_path path
  have htail : ∀ t ∈ h', t ∈ p.history := fun t ht => hhist ▸ List.mem_cons_of_mem _ ht
  obtain ⟨o, ho, hmeta, change⟩ := write.change fun sent o ho => h.kept sent o (htail _ ho)
  refine ⟨o, ?_, congrArg (·.resourceVersion) hmeta, change⟩
  rcases ho with rfl | ⟨sent, ho⟩
  · exact h.told ⟨.fetchApp ns p.key.name, .ok (some o)⟩ (hhist ▸ List.mem_cons_self) o rfl
  · exact h.told _ (htail _ ho) o rfl

theorem eq_of_version {store : AppStore} (h : (store.objects.map (·.version)).Nodup) {o o' : AppService}
    (ho : o ∈ store.objects) (ho' : o' ∈ store.objects) (hv : o.version = o'.version) : o = o' :=
  List.inj_on_of_nodup_map h ho ho' hv

/-- A step leaves the stored status alone, or changes it in one of the ways of a pass. -/
theorem Coherent.status_step {σ σ' : System} (h : Coherent σ) (step : Step σ σ') :
    σ'.status = σ.status ∨ σ.status.Change σ'.status := by
  cases step with
  | start => exact .inl rfl
  | edit => exact .inl rfl
  | @call store store' front back p c answer next waiting answers =>
    cases answers with
    | written current fresh told =>
      obtain ⟨o, ho, hversion, change⟩ := (h.knows p (by simp)).change waiting
      -- the write carries the current version, so the pass made it of the current object
      have heq := eq_of_version h.versions ho store.current_mem_objects (hversion.symm.trans current)
      rw [heq] at change
      exact .inr change
    | _ => exact .inl rfl

end System

end AppServiceOperator
