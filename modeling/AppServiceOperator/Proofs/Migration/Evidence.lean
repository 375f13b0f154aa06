import AppServiceOperator.Proofs.Migration.CleanRun
import AppServiceOperator.Proofs.Reconcile.Course
/-!
# What a succeeded migration rests on

A pass that finds an AppService without a succeeded migration writes that the migration succeeded
only after it brought about every object and then saw the script run cleanly (`RanCleanly`), and a
command that went any other way keeps it from doing so: `clean_run_of_succeeded`.
-/
namespace AppServiceOperator

open Program (History Path Ran path_take)

/-- The history of a pass over an AppService in which all objects were brought about and then the
script, in the first ready pod of those that were listed, ran to a clean end. No other command was
run, and whatever exchange with the server the answer to the command came from was clean. -/
inductive RanCleanly (settings : PassSettings) (app : AppService) : History Call.Answer → Prop where
  | intro {ctx : Context} {before after : History Call.Answer} {front back : List Pod} {pod : Pod}
      {output : ExecOutput} (context : Context.ofApp app settings.script = .ok ctx)
      (objects : ∀ r ∈ Desired.resources ctx, ∃ c, Ran before r.ensure (.ok c))
      (ready : pod.Ready) (first : ∀ p ∈ front, ¬ p.Ready)
      (once : ∀ t ∈ before ++ after, ¬ t.call.OnPods)
      (blank : Text.isAllBlank output.stderr = true) (success : output.failure = none)
      (clean : ∀ wire, Path (Client.exec (app.ns.getD "") pod.metadata.anyName settings.migration.command
          settings.migration.timeoutSeconds) wire (.done (some (.ok output))) → CleanExchange wire) :
      RanCleanly settings app
        (before ++ [⟨.listPods (app.ns.getD "") Desired.databaseSelector, .ok (front ++ pod :: back)⟩,
          ⟨.exec (app.ns.getD "") pod.metadata.anyName settings.migration.command
            settings.migration.timeoutSeconds, some (.ok output)⟩] ++ after)

namespace RanCleanly

variable {settings : PassSettings} {app : AppService} {h : History Call.Answer}

/-- There was no command but the one that ended cleanly. -/
theorem clean_of_mem (ran : RanCleanly settings app h) {ns pod : String} {command : List String}
    {seconds : Nat} {answer : Option (Except OperatorError ExecOutput)}
    (hmem : ⟨.exec ns pod command seconds, answer⟩ ∈ h) {wire : History Wire.Answer}
    (path : Path (Client.exec ns pod command seconds) wire (.done answer)) : CleanExchange wire := by
  obtain ⟨context, objects, ready, first, once, blank, success, clean⟩ := ran
  rw [List.append_assoc, List.mem_append, List.mem_append] at hmem
  rcases hmem with hmem | hmem | hmem
  · exact absurd trivial (once _ (List.mem_append_left _ hmem))
  · rcases List.mem_cons.1 hmem with hlist | hmem
    · cases hlist
    · cases List.mem_singleton.1 hmem
      exact clean wire path
  · exact absurd trivial (once _ (List.mem_append_right _ hmem))

end RanCleanly

namespace Pass

variable {settings : PassSettings} {key app w : AppService} {h : History Call.Answer}

theorem StatusWrite.ranCleanly (write : StatusWrite settings app h w) (due : app.migration ≠ .succeeded)
    (succeeded : w.migration = .succeeded) : RanCleanly settings app h := by
  obtain ⟨hc, hm, after, pod, stdout, rfl, converged, ran, quiet⟩ := write.completed due succeeded
  obtain ⟨ctx, context, objects⟩ := converged.objects
  obtain ⟨front, back, target, output, rfl, ready, first, blank, success⟩ := Migration.completed_of_run ran
  have onObjects := (converge_onObjects app (Desired.resources ctx) []).turns objects
  refine .intro context (ran_of_converge objects) ready first ?_ blank success fun wire path =>
    Client.clean_of_exec path blank success
  intro t ht
  rcases List.mem_append.1 ht with ht | ht
  · have hcall := onObjects t ht
    cases hc : t.call <;> simp_all [Call.OnObjects, Call.OnPods]
  · exact quiet t ht

/-- A pass that is about to write a status fetched an AppService. If no migration of that had
succeeded, the pass writes that one did only after a clean run of the script, and so never after a
command whose session ended in any other way, broke off, or did not end in time. -/
theorem clean_run_of_succeeded
    {next : Except OperatorError AppService → Operation (Except OperatorError Action)}
    (path : Path (reconcile settings key) h (.call (.writeStatus w) next)) :
    ∃ ns app h', h = ⟨.fetchApp ns key.name, .ok (some app)⟩ :: h' ∧
      (app.migration ≠ .succeeded → w.migration = .succeeded → RanCleanly settings app h') ∧
      (app.migration ≠ .succeeded → ∀ ns pod command seconds answer wire,
        ⟨.exec ns pod command seconds, answer⟩ ∈ h' →
        Path (Client.exec ns pod command seconds) wire (.done answer) → ¬ CleanExchange wire →
        w.migration ≠ .succeeded) := by
  obtain ⟨ns, app, h', rfl, write⟩ := statusWrite_of_path path
  refine ⟨ns, app, h', rfl, write.ranCleanly, ?_⟩
  intro due ns pod command seconds answer wire hmem exchange unclean succeeded
  exact unclean ((write.ranCleanly due succeeded).clean_of_mem hmem exchange)

theorem ranCleanly_of_smooth : ∃ h next,
    Path (reconcile {} Smooth.app) h (.call (.writeStatus (attempted {} Smooth.app .succeeded)) next) ∧
      ∃ ns h', h = ⟨.fetchApp ns Smooth.app.name, .ok (some Smooth.app)⟩ :: h' ∧
        RanCleanly {} Smooth.app h' := by
  have path : Path (reconcile {} Smooth.app) ((reconcile {} Smooth.app).take Smooth.answer 31).1
      (.call (.writeStatus (attempted {} Smooth.app .succeeded)) _) := path_take Smooth.answer 31 _
  obtain ⟨ns, app, h', hhist, ran, -⟩ := clean_run_of_succeeded path
  cases (List.cons.inj hhist).1
  exact ⟨_, _, path, _, h', hhist, ran (by decide) rfl⟩

end Pass

end AppServiceOperator
