import AppServiceOperator.Proofs.Reconcile.Attempt
import AppServiceOperator.Proofs.Reconcile.Course
/-!
# Objects one after the other

The history of bringing about a list of objects (`Sequence`): each is handed to the store once, its
creation comes first, whatever else is asked is about the object handed last, what was done is
announced, and the first failure ends it all. No part of such a history looks like a run that failed
unless it is the last one (`Sequence.stops`).
-/
namespace AppServiceOperator

open Program (History Path Turn path_done path_bind_done)

/-! ## Where a part of a list lies -/

section Split

variable {τ : Type} {xs ys zs ws : List τ} {t : τ} {P : τ → Prop}

/-- An element of a list in two parts is in one of them. -/
theorem cases_of_append (h : xs ++ ys = zs ++ t :: ws) :
    (∃ ws', xs = zs ++ t :: ws' ∧ ws = ws' ++ ys) ∨ ∃ zs', zs = xs ++ zs' ∧ ys = zs' ++ t :: ws := by
  rcases List.append_eq_append_iff.1 h with ⟨zs', hzs, hys⟩ | ⟨bs, hxs, hws⟩
  · exact .inr ⟨zs', hzs, hys⟩
  · cases bs with
    | nil => exact .inr ⟨[], by simpa using hxs.symm, by simpa using hws.symm⟩
    | cons b bs =>
      obtain ⟨rfl, hrest⟩ := List.cons.inj hws
      exact .inl ⟨bs, hxs, hrest⟩

/-- An element that the first part has none like is in the second. -/
theorem exists_of_append_right (h : xs ++ ys = zs ++ t :: ws) (hx : ∀ x ∈ xs, ¬ P x) (ht : P t) :
    ∃ zs', zs = xs ++ zs' ∧ ys = zs' ++ t :: ws := by
  rcases cases_of_append h with ⟨ws', rfl, -⟩ | later
  · exact absurd ht (hx t (by simp))
  · exact later

/-- An element that the second part has none like is in the first. -/
theorem exists_of_append_left (h : xs ++ ys = zs ++ t :: ws) (hy : ∀ y ∈ ys, ¬ P y) (ht : P t) :
    ∃ ws', xs = zs ++ t :: ws' ∧ ws = ws' ++ ys := by
  rcases cases_of_append h with first | ⟨zs', -, rfl⟩
  · exact first
  · exact absurd ht (hy t (by simp))

end Split

/-! ## One object -/

namespace Call

/-- The call looks at the live object of the resource, or patches it. -/
def Amends (r : ManagedResource) : Call → Prop
  | .fetch q | .patch q _ => q = r
  | _ => False

theorem eq_of_amends {c : Call} {q r : ManagedResource} (hq : c.Amends q) (hr : c.Amends r) : q = r := by
  cases c <;> first | exact hq.symm.trans hr | exact hq.elim

end Call

namespace Program.Turn

/-- The resource that is handed to the store to be created. -/
def created? : Turn Call.Answer → Option ManagedResource
  | ⟨.create r, _⟩ => some r
  | _ => none

theorem created?_of_amends {t : Turn Call.Answer} {r : ManagedResource} (h : t.call.Amends r) :
    t.created? = none := by
  obtain ⟨c, answer⟩ := t
  cases c <;> first | rfl | exact h.elim

end Program.Turn

/-- The resources that were handed to the store, in order. -/
def handed (h : History Call.Answer) : List ManagedResource := h.filterMap Turn.created?

@[simp] theorem handed_append (h h' : History Call.Answer) : handed (h ++ h') = handed h ++ handed h' :=
  List.filterMap_append

@[simp] theorem handed_cons_create (r : ManagedResource) (answer : Except OperatorError Unit)
    (h : History Call.Answer) : handed (⟨.create r, answer⟩ :: h) = r :: handed h := rfl

theorem handed_eq_nil {h : History Call.Answer} (quiet : ∀ t ∈ h, t.created? = none) : handed h = [] :=
  List.filterMap_eq_nil_iff.2 quiet

namespace ManagedResource

/-- To bring about an object begins with its creation, and goes on about its live object. -/
theorem create_of_ensure {r : ManagedResource} {h : History Call.Answer}
    {a : Except OperatorError Convergence} (path : Path r.ensure h (.done a)) :
    ∃ answer rest, h = ⟨.create r, answer⟩ :: rest ∧ ∀ t ∈ rest, t.call.Amends r := by
  cases attempt_of_path path <;> exact ⟨_, _, rfl, by simp [Call.Amends]⟩

/-- Where an object was brought about, another was either at the same time, and then it is the same, or
afterwards. -/
theorem same_or_later {q r : ManagedResource} {h k before during after : History Call.Answer}
    {a b : Except OperatorError Convergence} (one : Path r.ensure h (.done a))
    (other : Path q.ensure during (.done b)) (heq : h ++ k = before ++ (during ++ after)) :
    (before = [] ∧ k = after ∧ a = b) ∨ ∃ later, before = h ++ later ∧ k = later ++ (during ++ after) := by
  obtain ⟨answer, rest, rfl, amends⟩ := create_of_ensure one
  obtain ⟨answer', rest', rfl, -⟩ := create_of_ensure other
  cases before with
  | nil =>
    cases (List.cons.inj heq).1
    obtain ⟨-, hk, hab⟩ := one.unique other heq
    exact .inl ⟨rfl, hk, hab⟩
  | cons t before =>
    obtain ⟨rfl, hrest⟩ := List.cons.inj heq
    have quiet : ∀ u ∈ rest, ¬ u.created? = some q := by
      intro u hu
      rw [Turn.created?_of_amends (amends u hu)]
      exact nofun
    obtain ⟨later, rfl, hk⟩ := exists_of_append_right hrest quiet rfl
    exact .inr ⟨later, rfl, hk⟩

end ManagedResource

/-! ## One after the other -/

namespace Pass

variable {app : AppService} {r : ManagedResource} {rs : List ManagedResource} {h : History Call.Answer}
  {a : Except OperatorError Unit}

/-- What is published about what was done to an object. -/
def announcement (app : AppService) (r : ManagedResource) (c : Convergence) : History Call.Answer :=
  (convergenceNotice? r c).toList.map fun notice => ⟨.publish app.reference notice, ()⟩

/-- The history of bringing about objects, up to the first failure. -/
inductive Sequence (app : AppService) :
    List ManagedResource → History Call.Answer → Except OperatorError Unit → Prop where
  | nil : Sequence app [] [] (.ok ())
  | fails {r : ManagedResource} {rs : List ManagedResource} {h : History Call.Answer} {e : OperatorError}
      (one : Path r.ensure h (.done (.error e))) : Sequence app (r :: rs) h (.error e)
  | cons {r : ManagedResource} {rs : List ManagedResource} {h h' : History Call.Answer} {c : Convergence}
      {a : Except OperatorError Unit} (one : Path r.ensure h (.done (.ok c))) (rest : Sequence app rs h' a) :
      Sequence app (r :: rs) (h ++ (announcement app r c ++ h')) a

theorem history_of_announce {u : Unit} {c : Convergence} (path : Path (announce app r c) h (.done u)) :
    h = announcement app r c := by
  unfold announce at path
  unfold announcement
  cases hn : convergenceNotice? r c with
  | none =>
    rw [hn] at path
    exact (path_done.1 path).1
  | some notice =>
    rw [hn] at path
    cases path with
    | step answer path =>
      obtain ⟨rfl, -⟩ := path_done.1 path
      rfl

theorem sequence_of_path (path : Path (converge app rs) h (.done a)) : Sequence app rs h a := by
  induction rs generalizing h with
  | nil =>
    obtain ⟨rfl, ha⟩ := path_done.1 path
    cases ha
    exact .nil
  | cons r rs ih =>
    rw [converge_cons, path_bind_done] at path
    obtain ⟨h₁, h₂, b, rfl, one, path⟩ := path
    cases b with
    | error e =>
      obtain ⟨rfl, ha⟩ := path_done.1 path
      cases ha
      rw [List.append_nil]
      exact .fails one
    | ok c =>
      obtain ⟨h₃, h₄, _, rfl, announced, rest⟩ := path_bind_done.1 path
      rw [history_of_announce announced]
      exact .cons one (ih rest)

namespace Sequence

theorem created?_of_announcement {c : Convergence} {t : Turn Call.Answer}
    (ht : t ∈ announcement app r c) : t.created? = none := by
  obtain ⟨notice, -, rfl⟩ := List.mem_map.1 ht
  rfl

/-- The first of the objects is handed over first, and then nothing else is while it is brought about. -/
theorem handed_one {b : Except OperatorError Convergence} (one : Path r.ensure h (.done b)) :
    handed h = [r] := by
  obtain ⟨answer, rest, rfl, amends⟩ := ManagedResource.create_of_ensure one
  have hrest : handed rest = [] := handed_eq_nil fun t ht => Turn.created?_of_amends (amends t ht)
  rw [handed_cons_create, hrest]

theorem handed_announcement (app : AppService) (r : ManagedResource) (c : Convergence) :
    handed (announcement app r c) = [] :=
  handed_eq_nil fun _ ht => created?_of_announcement ht

/-- The objects are handed over in their order, each once. -/
theorem handed_prefix (run : Sequence app rs h a) : handed h <+: rs := by
  induction run with
  | nil => exact List.nil_prefix
  | fails one =>
    rw [handed_one one]
    exact ⟨_, rfl⟩
  | cons one _ ih =>
    rw [handed_append, handed_append, handed_one one, handed_announcement]
    exact (List.prefix_append_right_inj _).2 ih

/-- Without a failure they are all handed over. -/
theorem handed_eq (run : Sequence app rs h (.ok ())) : handed h = rs := by
  generalize ha : (Except.ok () : Except OperatorError Unit) = a at run
  induction run with
  | nil => rfl
  | fails => cases ha
  | cons one _ ih => rw [handed_append, handed_append, handed_one one, handed_announcement, ih ha]; rfl

/-- Whatever is asked about a live object comes after its creation was tried, and before any other. -/
theorem follows (run : Sequence app rs h a) {before after : History Call.Answer} {t : Turn Call.Answer}
    {q : ManagedResource} (heq : h = before ++ t :: after) (amends : t.call.Amends q) :
    (handed before).getLast? = some q := by
  have one_follows {r : ManagedResource} {h before after : History Call.Answer}
      {b : Except OperatorError Convergence} (one : Path r.ensure h (.done b))
      (heq : h = before ++ t :: after) : (handed before).getLast? = some q := by
    obtain ⟨answer, rest, rfl, rest_amends⟩ := ManagedResource.create_of_ensure one
    cases before with
    | nil =>
      cases (List.cons.inj heq).1
      exact amends.elim
    | cons first before =>
      obtain ⟨rfl, rfl⟩ := List.cons.inj heq
      have hbefore : handed before = [] :=
        handed_eq_nil fun u hu => Turn.created?_of_amends (rest_amends u (by simp [hu]))
      have hq : r = q := Call.eq_of_amends (rest_amends t (by simp)) amends
      rw [handed_cons_create, hbefore, hq]
      rfl
  induction run generalizing before with
  | nil => cases before <;> cases heq
  | fails one => exact one_follows one heq
  | @cons r rs h h' c a one rest ih =>
    rcases cases_of_append heq with ⟨_, first, -⟩ | ⟨later, rfl, hlater⟩
    · exact one_follows one first
    · -- nothing is asked about an object while it is announced what was done
      have quiet : ∀ u ∈ announcement app r c, ¬ u.call.Amends q := by
        intro u hu
        obtain ⟨notice, -, rfl⟩ := List.mem_map.1 hu
        exact id
      obtain ⟨last, rfl, hlast⟩ := exists_of_append_right hlater quiet amends
      rw [handed_append, handed_append, handed_announcement, List.nil_append, List.getLast?_append, ih hlast]
      rfl

/-- Where bringing about an object failed, that was the last thing before what came after all. -/
theorem stops (run : Sequence app rs h a) {before during after tail : History Call.Answer}
    {q : ManagedResource} {e : OperatorError} (failed : Path q.ensure during (.done (.error e)))
    (quiet : ∀ t ∈ tail, t.created? = none) (heq : h ++ tail = before ++ (during ++ after)) :
    a = .error e ∧ after = tail := by
  induction run generalizing before with
  | nil =>
    obtain ⟨answer, rest, rfl, -⟩ := ManagedResource.create_of_ensure failed
    have hmem : ⟨.create q, answer⟩ ∈ tail := by
      rw [List.nil_append] at heq
      simp [heq]
    cases quiet _ hmem
  | fails one =>
    rcases ManagedResource.same_or_later one failed heq with ⟨-, htail, ha⟩ | ⟨later, rfl, htail⟩
    · cases ha
      exact ⟨rfl, htail.symm⟩
    · obtain ⟨answer, rest, rfl, -⟩ := ManagedResource.create_of_ensure failed
      cases quiet ⟨.create q, answer⟩ (by simp [htail])
  | @cons r rs h h' c a one rest ih =>
    rw [List.append_assoc] at heq
    rcases ManagedResource.same_or_later one failed heq with ⟨-, -, ha⟩ | ⟨later, rfl, hlater⟩
    · cases ha
    · obtain ⟨answer, during, rfl, -⟩ := ManagedResource.create_of_ensure failed
      have announced : ∀ u ∈ announcement app r c, ¬ u.created? = some q := by
        intro u hu
        rw [created?_of_announcement hu]
        exact nofun
      rw [List.append_assoc] at hlater
      obtain ⟨last, -, hlast⟩ := exists_of_append_right hlater announced rfl
      exact ih hlast

end Sequence

end Pass

end AppServiceOperator
