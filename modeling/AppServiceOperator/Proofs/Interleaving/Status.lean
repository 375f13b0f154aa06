import AppServiceOperator.Proofs.Interleaving.System
/-!
# The status while passes are interleaved

However many passes there are and however their calls are interleaved, the runs of the migration are
an audit log from which nothing is lost (`audit_log`), and the AppService is promoted only after its
migration, by passes that brought about all its objects (`promoted_after_migration`).
-/
namespace AppServiceOperator.System

open Program (Path Ran path_take)

/-! ## Every version of the AppService -/

theorem Step.mem_objects {σ σ' : System} (step : Step σ σ') {o : AppService} (ho : o ∈ σ'.store.objects) :
    o = σ'.store.current ∨ o ∈ σ.store.objects := by
  rcases List.mem_cons.1 ho with rfl | ho
  · exact .inl rfl
  · refine .inr ?_
    cases step with
    | start => exact List.mem_cons_of_mem _ ho
    | edit => exact ho
    | call waiting answers =>
      cases answers with
      | replaced => exact ho
      | written => exact ho
      | _ => exact List.mem_cons_of_mem _ ho

/-- Every version that was ever stored has a sound status. -/
theorem Reachable.sound {σ : System} (h : Reachable σ) : ∀ o ∈ σ.store.objects, o.currentStatus.Sound := by
  obtain ⟨app, hnone, steps⟩ := h
  induction steps with
  | refl => simp [AppStore.objects, AppService.currentStatus, hnone, Status.sound_empty]
  | @snoc σ₁ σ₂ steps step ih =>
    intro o ho
    rcases step.mem_objects ho with rfl | ho
    · have coherent : Coherent σ₁ := Reachable.coherent ⟨app, hnone, steps⟩
      have sound : σ₁.status.Sound := ih _ σ₁.store.current_mem_objects
      rcases coherent.status_step step with hsame | change
      · exact (hsame ▸ sound : σ₂.status.Sound)
      · exact change.sound sound
    · exact ih o ho

/-! ## A pass on its own -/

section Alone

variable {store store' : AppStore} {p : RunningPass} {settings : PassSettings} {key : AppService}

theorem Step.alone {c : Call} {answer : c.Answer} {next : c.Answer → Operation (Except OperatorError Action)}
    (waiting : p.rest = .call c next) (answers : store.Answers c answer store') :
    Step ⟨store, [p]⟩ ⟨store', [p.resume answer next]⟩ :=
  @Step.call store store' [] [] p c answer next waiting answers

/-- Calls that are not about the AppService can be answered in any way. -/
theorem Steps.quiet {σ : System} {before h : Program.History Call.Answer}
    {rest rest' : Operation (Except OperatorError Action)}
    (steps : Steps σ ⟨store, [⟨settings, key, before, rest⟩]⟩) (path : Path rest h rest')
    (quiet : ∀ t ∈ h, ¬ t.call.OnApp) : Steps σ ⟨store, [⟨settings, key, before ++ h, rest'⟩]⟩ := by
  induction path generalizing before with
  | here => rwa [List.append_nil]
  | step answer path ih =>
    obtain ⟨hcall, quiet⟩ := List.forall_mem_cons.1 quiet
    rw [List.append_cons]
    exact ih (steps.snoc (.alone rfl (.other hcall answer))) quiet

end Alone

/-- A pass in which all goes well leads to an AppService that is migrated and promoted. -/
theorem exists_promoted : ∃ σ, Reachable σ ∧ σ.status.migrationRuns = [⟨Script.fileName, .succeeded⟩] ∧
    σ.status.IsPromoted := by
  have started : Steps ⟨⟨Smooth.app, []⟩, []⟩ ⟨⟨Smooth.app, []⟩, [.start {} Smooth.app]⟩ :=
    (Steps.refl _).snoc (.start {} Smooth.app)
  have fetched := started.snoc (.alone rfl .fetched)
  have completed := fetched.quiet (path_take Smooth.answer 30 _) (by decide)
  have migrated := completed.snoc
    (.alone rfl (@AppStore.Answers.written _ _ "2" _ rfl (by decide) (.inl rfl)))
  have announced := migrated.quiet (path_take Smooth.answer 2 _) (by decide)
  have committed := announced.snoc
    (.alone rfl (@AppStore.Answers.written _ _ "3" _ rfl (by decide) (.inl rfl)))
  exact ⟨_, ⟨_, rfl, committed⟩, rfl, _, List.mem_cons_self, rfl, rfl⟩

/-! ## The audit log -/

theorem Reachable.runs_step {σ σ' : System} (h : Reachable σ) (step : Step σ σ') :
    σ.status.migrationRuns <+: σ'.status.migrationRuns ∧
      σ'.status.migrationRuns.length ≤ σ.status.migrationRuns.length + 1 ∧
      (σ.status.migration = .succeeded → σ'.status.migration = .succeeded) := by
  rcases h.coherent.status_step step with hsame | change
  · rw [hsame]
    exact ⟨List.prefix_rfl, Nat.le_succ _, id⟩
  · exact ⟨change.runs.1, change.runs.2, change.sticky⟩

theorem Reachable.runs_steps {σ σ' : System} (h : Reachable σ) (steps : Steps σ σ') :
    σ.status.migrationRuns <+: σ'.status.migrationRuns ∧
      (σ.status.migration = .succeeded → σ'.status.migration = .succeeded) := by
  induction steps with
  | refl => exact ⟨List.prefix_rfl, id⟩
  | snoc steps step ih =>
    obtain ⟨hruns, -, hsticky⟩ := (h.steps steps).runs_step step
    exact ⟨ih.1.trans hruns, fun hs => hsticky (ih.2 hs)⟩

/-- In every reachable state the runs are failures with at most one success at the end, and the
migration is what the last one was. A step keeps all runs and adds at most one, so none is ever lost,
and a migration that succeeded stays so. -/
theorem audit_log {σ : System} (h : Reachable σ) :
    σ.status.Audited ∧
    (∀ σ', Step σ σ' → σ.status.migrationRuns <+: σ'.status.migrationRuns ∧
      σ'.status.migrationRuns.length ≤ σ.status.migrationRuns.length + 1) ∧
    ∀ σ', Steps σ σ' → σ.status.migrationRuns <+: σ'.status.migrationRuns ∧
      (σ.status.migration = .succeeded → σ'.status.migration = .succeeded) := by
  refine ⟨(h.sound _ σ.store.current_mem_objects).audited, fun σ' step => ?_, fun σ' => h.runs_steps⟩
  obtain ⟨hruns, hlength, -⟩ := h.runs_step step
  exact ⟨hruns, hlength⟩

theorem audit_log_of_promoted : ∃ σ, Reachable σ ∧
    σ.status.migrationRuns = [⟨Script.fileName, .succeeded⟩] ∧ σ.status.Audited ∧
    ∀ σ', Steps σ σ' → σ.status.migrationRuns <+: σ'.status.migrationRuns := by
  obtain ⟨σ, reachable, hruns, -⟩ := exists_promoted
  obtain ⟨audited, -, lasting⟩ := audit_log reachable
  exact ⟨σ, reachable, hruns, audited, fun σ' steps => (lasting σ' steps).1⟩

/-! ## Promotion -/

/-- A promoted AppService was migrated, and a pass that is about to write that it is promoted brought
about every one of its objects before. -/
theorem promoted_after_migration {σ : System} (h : Reachable σ) :
    (σ.status.IsPromoted → σ.status.migration = .succeeded) ∧
    ∀ p ∈ σ.passes, ∀ w next, p.rest = .call (.writeStatus w) next → w.currentStatus.IsPromoted →
      ∃ ns app ctx, ⟨.fetchApp ns p.key.name, .ok (some app)⟩ ∈ p.history ∧
        Context.ofApp app p.settings.script = .ok ctx ∧
        ∀ r ∈ Desired.resources ctx, ∃ c, Ran p.history r.ensure (.ok c) := by
  refine ⟨(h.sound _ σ.store.current_mem_objects).migrated, fun p hp w next waiting promoted => ?_⟩
  have knows := h.coherent.knows p hp
  have path := knows.path
  rw [waiting] at path
  obtain ⟨ns, app, h', hhist, write⟩ := Pass.statusWrite_of_path path
  have hfetch : ⟨.fetchApp ns p.key.name, .ok (some app)⟩ ∈ p.history := hhist ▸ List.mem_cons_self
  have single := (h.sound app (knows.told _ hfetch app rfl)).single
  obtain ⟨hc, h'', rfl, converged⟩ := write.converged single promoted
  obtain ⟨ctx, context, objects⟩ := converged.objects
  refine ⟨ns, app, ctx, hfetch, context, fun r hr => ?_⟩
  obtain ⟨c, ran⟩ := Pass.ran_of_converge objects r hr
  rw [hhist]
  exact ⟨c, (ran.append_right h'').append_left [_]⟩

theorem migrated_of_promoted : ∃ σ, Reachable σ ∧ σ.status.IsPromoted ∧ σ.status.migration = .succeeded := by
  obtain ⟨σ, reachable, -, promoted⟩ := exists_promoted
  exact ⟨σ, reachable, promoted, (promoted_after_migration reachable).1 promoted⟩

end AppServiceOperator.System
