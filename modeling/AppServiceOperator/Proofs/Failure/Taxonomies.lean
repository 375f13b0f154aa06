import AppServiceOperator.Failure.OperatorError
/-!
# Two taxonomies of failures

A failure has a class, and it is retryable or not. The two agree on every failure that has a name of its
own. They part on one kind: a refusal with a client error code that got no closer name is of the class of
those that clear up, but is not retryable. `agrees_iff` tells these failures from all others, and
`taxonomies_agree_iff` does so for whatever leaves the client.
-/
namespace AppServiceOperator

/-- The server refused the request with a client error code. -/
def ClientError.Refuses (e : ClientError) (f : ApiFailure) : Prop :=
  e = .api f ∧ HttpStatus.isClientError f.code.toNat = true

namespace OperatorError

/-- The failure is not retryable exactly if its class is one that takes an edit of the spec. -/
def Agrees (e : OperatorError) : Prop :=
  e.isRetryable = false ↔ e.failureClass = .validation ∨ e.failureClass = .permanentSpec

instance (e : OperatorError) : Decidable e.Agrees := inferInstanceAs (Decidable (_ ↔ _))

/-- Of the failures without a closer name, the refusals are on their own. -/
theorem agrees_client_iff (source : ClientError) : (client source).Agrees ↔ ¬ ∃ f, source.Refuses f := by
  cases source <;> simp [Agrees, isRetryable, failureClass, ClientError.Refuses]

theorem agrees_iff (e : OperatorError) : e.Agrees ↔ ¬ ∃ source f, e = .client source ∧ source.Refuses f := by
  cases e with
  | client source =>
    rw [agrees_client_iff]
    simp
  | _ => simp [Agrees, isRetryable, failureClass]

/-- Where the two do not say the same, the failure is transient by its class, but not retryable. -/
theorem transient_of_not_agrees {e : OperatorError} (h : ¬ e.Agrees) :
    e.failureClass = .transientStore ∧ e.isRetryable = false := by
  rw [agrees_iff, Classical.not_not] at h
  obtain ⟨source, f, rfl, rfl, refused⟩ := h
  exact ⟨rfl, by simp [isRetryable, refused]⟩

/-- The codes of refusals that get a closer name. -/
def namedCodes : List UInt16 := [400, 404, 409, 422]

/-- A closer name settles the matter, whatever it is. -/
theorem agrees_ofClient_of_named {kind name : String} {f : ApiFailure} (h : f.code ∈ namedCodes) :
    (ofClient kind name (.api f)).Agrees := by
  simp only [namedCodes, List.mem_cons, List.not_mem_nil, or_false] at h
  rcases h with code | code | code | code
  · simp [ofClient, code, Agrees, isRetryable, failureClass]
  · simp [ofClient, code, Agrees, isRetryable, failureClass]
  · -- the one code where the reason decides on the name
    by_cases present : f.reason = "AlreadyExists" <;>
      simp [ofClient, code, present, Agrees, isRetryable, failureClass]
  · simp [ofClient, code, Agrees, isRetryable, failureClass]

theorem ofClient_of_unnamed {kind name : String} {f : ApiFailure} (h : f.code ∉ namedCodes) :
    ofClient kind name (.api f) = .client (.api f) := by
  simp only [namedCodes, List.mem_cons, List.not_mem_nil, or_false, not_or] at h
  obtain ⟨malformed, missing, conflict, invalid⟩ := h
  simp [ofClient, malformed, missing, conflict, invalid]

theorem agrees_ofClient_iff (kind name : String) (source : ClientError) :
    (ofClient kind name source).Agrees ↔ ¬ ∃ f, source.Refuses f ∧ f.code ∉ namedCodes := by
  cases source with
  | api f =>
    by_cases named : f.code ∈ namedCodes
    · refine iff_of_true (agrees_ofClient_of_named named) ?_
      rintro ⟨_, ⟨⟨⟩, -⟩, unnamed⟩
      exact unnamed named
    · rw [ofClient_of_unnamed named, agrees_client_iff]
      refine not_congr (exists_congr fun g => ⟨fun refuses => ⟨refuses, ?_⟩, And.left⟩)
      obtain ⟨⟨⟩, -⟩ := refuses
      exact named
  | _ => simp [ofClient, agrees_client_iff, ClientError.Refuses]

/-- The taxonomies agree on all failures but the refusals with a client error code and no closer name, and
on whatever leaves the client unless it is a refusal whose code is none of the four that have a name. All
failures that they disagree on are transient by their class. -/
theorem taxonomies_agree_iff (e : OperatorError) (kind name : String) (source : ClientError) :
    (e.Agrees ↔ ¬ ∃ source f, e = .client source ∧ source.Refuses f) ∧
      (e.Agrees ∨ e.failureClass = .transientStore ∧ e.isRetryable = false) ∧
      ((ofClient kind name source).Agrees ↔ ¬ ∃ f, source.Refuses f ∧ f.code ∉ namedCodes) :=
  ⟨e.agrees_iff, (Decidable.em e.Agrees).imp_right transient_of_not_agrees,
    agrees_ofClient_iff kind name source⟩

/-- A server that asks for patience: by its class the failure is expected to clear up, by the other taxonomy
it takes an edit of the spec. -/
theorem throttled_not_retryable :
    let e := ofClient "Secret" "events-database" (.api ⟨"Failure", "slow down", "TooManyRequests", 429⟩)
    e.failureClass = .transientStore ∧ e.isRetryable = false ∧ ¬ e.Agrees := by
  decide

end OperatorError

end AppServiceOperator
