import AppServiceOperator.App.Condition
import Mathlib.Data.List.Induction
import Mathlib.Data.List.Infix
/-!
# Conditions over time

What a list of conditions says after any number of them were set in it, starting from none. There is one
entry for each type, in the order in which the types first came up. It repeats the last call for its type,
but is dated at the first of the calls that have said the same status since (`FinalRun`): calls of other
types that come in between do not count. All of it is `entries_of_calls`.
-/
namespace AppServiceOperator.Condition

/-- The conditions after the calls, the first of which finds none. -/
def ofCalls (calls : List Condition) : List Condition := calls.foldl (fun cs c => c.put cs) []

/-- The calls for a type, in order. -/
def callsFor (type : String) (calls : List Condition) : List Condition := calls.filter (·.type = type)

/-- All calls say the same status. -/
def Uniform (calls : List Condition) : Prop := ∀ c ∈ calls, ∀ d ∈ calls, c.status = d.status

/-- The longest run of calls at the end that say the same status. -/
structure FinalRun (run calls : List Condition) : Prop where
  suffix : run <:+ calls
  uniform : Uniform run
  longest : ∀ other, other <:+ calls → Uniform other → other.length ≤ run.length

/-- The entry repeats the last call, dated at the first one of the final run. -/
def SumsUp (calls : List Condition) (e : Condition) : Prop :=
  ∃ last run first, calls.getLast? = some last ∧ FinalRun run calls ∧ run.head? = some first ∧
    e = { last with lastTransition := first.lastTransition }

/-! ## One call -/

section

variable {c e : Condition} {cs : List Condition}

@[simp] theorem type_succeed (c e : Condition) : (c.succeed e).type = c.type := by
  unfold succeed
  split <;> rfl

/-- A call changes the first entry of its type; where there is none, it adds one. -/
theorem put_eq_set (c : Condition) (cs : List Condition) :
    c.put cs = match cs[cs.findIdx (·.type = c.type)]? with
      | some e => cs.set (cs.findIdx (·.type = c.type)) (c.succeed e)
      | none => cs ++ [c] := by
  induction cs with
  | nil => rfl
  | cons e cs ih =>
    by_cases h : e.type = c.type
    · simp [put, h, List.findIdx_cons]
    · rw [put, if_neg h, ih]
      simp only [List.findIdx_cons, h, decide_false, cond_false, List.getElem?_cons_succ]
      split <;> simp

/-- All other entries stay as they are, and where they are. -/
theorem getElem?_put {i : Nat} (inside : i < cs.length) (other : i ≠ cs.findIdx (·.type = c.type)) :
    (c.put cs)[i]? = cs[i]? := by
  rw [put_eq_set]
  split
  · exact List.getElem?_set_ne other.symm
  · exact List.getElem?_append_left inside

/-- Entries of other types do not come, go or move. -/
theorem getElem?_put_eq_some_iff {i : Nat} (other : e.type ≠ c.type) :
    (c.put cs)[i]? = some e ↔ cs[i]? = some e := by
  induction cs generalizing i with
  | nil =>
    have ne : c ≠ e := fun same => other (same ▸ rfl)
    cases i <;> simp [put, ne]
  | cons d cs ih =>
    by_cases hd : d.type = c.type
    · have ne : d ≠ e := fun same => other (same ▸ hd)
      have ne' : c.succeed d ≠ e := fun same => other (same ▸ type_succeed c d)
      rw [put, if_pos hd]
      cases i <;> simp [ne, ne']
    · rw [put, if_neg hd]
      cases i with
      | zero => rfl
      | succ i => exact ih

theorem types_put (c : Condition) (cs : List Condition) : (c.put cs).map (·.type) =
    if c.type ∈ cs.map (·.type) then cs.map (·.type) else cs.map (·.type) ++ [c.type] := by
  induction cs with
  | nil => simp [put]
  | cons e cs ih =>
    by_cases h : e.type = c.type
    · simp [put, h]
    · rw [put, if_neg h, List.map_cons, ih]
      simp only [List.map_cons, List.mem_cons, Ne.symm h, false_or]
      split <;> rfl

theorem nodup_types_put (h : (cs.map (·.type)).Nodup) : ((c.put cs).map (·.type)).Nodup := by
  rw [types_put]
  split
  · exact h
  · rename_i new
    refine List.nodup_append.2 ⟨h, List.pairwise_singleton _ _, fun a ha b hb => ?_⟩
    rw [List.mem_singleton.1 hb]
    exact fun same => new (same ▸ ha)

/-- Where no type has two entries, an entry after a call is of another type and was there before, or it is
of the call. -/
theorem mem_put (h : (cs.map (·.type)).Nodup) (he : e ∈ c.put cs) :
    e.type ≠ c.type ∧ e ∈ cs ∨ (∃ d ∈ cs, d.type = c.type ∧ e = c.succeed d) ∨
      c.type ∉ cs.map (·.type) ∧ e = c := by
  induction cs with
  | nil => exact .inr (.inr ⟨by simp, List.mem_singleton.1 he⟩)
  | cons d cs ih =>
    obtain ⟨fresh, rest⟩ := List.nodup_cons.1 h
    by_cases hd : d.type = c.type
    · rw [put, if_pos hd] at he
      rcases List.mem_cons.1 he with rfl | he
      · exact .inr (.inl ⟨d, List.mem_cons_self, hd, rfl⟩)
      · refine .inl ⟨fun same => fresh ?_, List.mem_cons_of_mem _ he⟩
        exact List.mem_map.2 ⟨e, he, same.trans hd.symm⟩
    · rw [put, if_neg hd] at he
      rcases List.mem_cons.1 he with rfl | he
      · exact .inl ⟨hd, List.mem_cons_self⟩
      · rcases ih rest he with ⟨other, he⟩ | ⟨d', hd', same, rfl⟩ | ⟨new, rfl⟩
        · exact .inl ⟨other, List.mem_cons_of_mem _ he⟩
        · exact .inr (.inl ⟨d', List.mem_cons_of_mem _ hd', same, rfl⟩)
        · exact .inr (.inr ⟨by simp [Ne.symm hd, new], rfl⟩)

end

/-! ## The calls for one type -/

section

variable {c e last : Condition} {run calls : List Condition}

theorem uniform_singleton (c : Condition) : Uniform [c] := by
  intro a ha b hb
  rw [List.mem_singleton.1 ha, List.mem_singleton.1 hb]

theorem finalRun_singleton (c : Condition) : FinalRun [c] [c] where
  suffix := List.suffix_rfl
  uniform := uniform_singleton c
  longest _ suffix _ := suffix.length_le

/-- A call that says the same as the one before it goes on with the final run. -/
theorem FinalRun.snoc_same (h : FinalRun run calls) (hlast : run.getLast? = some last)
    (same : last.status = c.status) : FinalRun (run ++ [c]) (calls ++ [c]) where
  suffix := by
    obtain ⟨front, rfl⟩ := h.suffix
    exact ⟨front, by simp⟩
  uniform := by
    have status : ∀ d ∈ run ++ [c], d.status = c.status := by
      intro d hd
      rcases List.mem_append.1 hd with hd | hd
      · exact (h.uniform d hd last (List.mem_of_getLast? hlast)).trans same
      · rw [List.mem_singleton.1 hd]
    exact fun a ha b hb => (status a ha).trans (status b hb).symm
  longest := by
    intro other suffix uniform
    rcases List.suffix_concat_iff.1 suffix with rfl | ⟨front, rfl, hfront⟩
    · exact Nat.zero_le _
    · have := h.longest front hfront fun a ha b hb => uniform a (by simp [ha]) b (by simp [hb])
      simpa using this

/-- A call that says something else begins a final run of its own. -/
theorem finalRun_snoc_other (hlast : calls.getLast? = some last) (other : last.status ≠ c.status) :
    FinalRun [c] (calls ++ [c]) where
  suffix := List.suffix_append _ _
  uniform := uniform_singleton c
  longest := by
    intro part suffix uniform
    rcases List.suffix_concat_iff.1 suffix with rfl | ⟨front, rfl, hfront⟩
    · exact Nat.zero_le _
    · -- a longer one would hold the call before
      rcases List.eq_nil_or_concat front with rfl | ⟨front, d, rfl⟩
      · exact Nat.le_refl _
      · obtain ⟨earlier, rfl⟩ := hfront
        have : d = last := by simpa using hlast
        exact absurd (uniform d (by simp) c (by simp)) (this ▸ other)

theorem FinalRun.getLast? (h : FinalRun run calls) (hne : run ≠ []) : run.getLast? = calls.getLast? := by
  obtain ⟨front, rfl⟩ := h.suffix
  rw [List.getLast?_append_of_ne_nil _ hne]

theorem sumsUp_singleton (c : Condition) : SumsUp [c] c := ⟨c, [c], c, rfl, finalRun_singleton c, rfl, rfl⟩

/-- What the next call makes of the entry sums up the calls with that one. -/
theorem SumsUp.snoc (h : SumsUp calls e) : SumsUp (calls ++ [c]) (c.succeed e) := by
  obtain ⟨last, run, first, hlast, final, hfirst, rfl⟩ := h
  have hne : run ≠ [] := by
    rintro rfl
    cases hfirst
  have hrun : run.getLast? = some last := (final.getLast? hne).trans hlast
  by_cases same : last.status = c.status
  · refine ⟨c, run ++ [c], first, by simp, final.snoc_same hrun same, ?_, by simp [succeed, same]⟩
    rw [List.head?_append, hfirst, Option.some_or]
  · exact ⟨c, [c], c, by simp, finalRun_snoc_other hlast same, rfl, by simp [succeed, same]⟩

end

/-! ## Any number of calls -/

theorem ofCalls_snoc (calls : List Condition) (c : Condition) : ofCalls (calls ++ [c]) = c.put (ofCalls calls) := by
  simp [ofCalls]

theorem callsFor_snoc (type : String) (calls : List Condition) (c : Condition) :
    callsFor type (calls ++ [c]) =
      if c.type = type then callsFor type calls ++ [c] else callsFor type calls := by
  by_cases h : c.type = type <;> simp [callsFor, h]

theorem types_ofCalls (calls : List Condition) :
    (ofCalls calls).map (·.type) = (calls.map (·.type)).eraseDups := by
  induction calls using List.reverseRecOn with
  | nil => rfl
  | append_singleton calls c ih =>
    rw [ofCalls_snoc, types_put, ih, List.map_append, List.eraseDups_append]
    by_cases old : c.type ∈ calls.map (·.type) <;> simp_all [List.removeAll, List.eraseDups_cons]

theorem nodup_types_ofCalls (calls : List Condition) : ((ofCalls calls).map (·.type)).Nodup := by
  induction calls using List.reverseRecOn with
  | nil => exact List.nodup_nil
  | append_singleton calls c ih =>
    rw [ofCalls_snoc]
    exact nodup_types_put ih

theorem sumsUp_of_mem_ofCalls {calls : List Condition} {e : Condition} (h : e ∈ ofCalls calls) :
    SumsUp (callsFor e.type calls) e := by
  induction calls using List.reverseRecOn generalizing e with
  | nil => cases h
  | append_singleton calls c ih =>
    rw [ofCalls_snoc] at h
    rw [callsFor_snoc]
    rcases mem_put (nodup_types_ofCalls calls) h with ⟨other, he⟩ | ⟨d, hd, same, rfl⟩ | ⟨new, rfl⟩
    · rw [if_neg (Ne.symm other)]
      exact ih he
    · rw [type_succeed, if_pos rfl]
      have := ih hd
      rw [same] at this
      exact this.snoc
    · have none : callsFor e.type calls = [] := by
        rw [types_ofCalls, List.mem_eraseDups] at new
        refine List.filter_eq_nil_iff.2 fun d hd => ?_
        simpa using fun same => new (List.mem_map.2 ⟨d, hd, same⟩)
      rw [if_pos rfl, none]
      exact sumsUp_singleton e

/-- However calls of different types alternate, there is one entry for each type, in the order in which the
types first came up, and it sums up the calls for its type. In any list, with several entries of one type as
well, a call leaves all entries but the first one of its type unchanged and in place. -/
theorem entries_of_calls :
    (∀ calls, (ofCalls calls).map (·.type) = (calls.map (·.type)).eraseDups ∧
      ∀ e ∈ ofCalls calls, SumsUp (callsFor e.type calls) e) ∧
    ∀ (c : Condition) (cs : List Condition) (i : Nat), i < cs.length →
      i ≠ cs.findIdx (·.type = c.type) → (c.put cs)[i]? = cs[i]? :=
  ⟨fun calls => ⟨types_ofCalls calls, fun _ => sumsUp_of_mem_ofCalls⟩,
    fun _ _ _ inside other => getElem?_put inside other⟩

/-- A call for another type between two that say the same does not count. And where two entries are of one
type, a call for it leaves the second alone. -/
theorem entries_of_alternating :
    let calls : List Condition := [⟨"Promoted", .isFalse, "Failed", "no database", ⟨10, 0⟩⟩,
      ⟨"Degraded", .isTrue, "Slow", "", ⟨20, 0⟩⟩, ⟨"Promoted", .isFalse, "Failed", "no gateway", ⟨30, 0⟩⟩]
    let e : Condition := ⟨"Promoted", .isFalse, "Failed", "no gateway", ⟨10, 0⟩⟩
    let c : Condition := ⟨"Promoted", .isTrue, "Succeeded", "", ⟨40, 0⟩⟩
    (ofCalls calls).map (·.type) = ["Promoted", "Degraded"] ∧ e ∈ ofCalls calls ∧
      SumsUp (callsFor "Promoted" calls) e ∧ (c.put [e, e])[1]? = some e := by
  intro calls e c
  obtain ⟨history, frame⟩ := entries_of_calls
  have member : e ∈ ofCalls calls := by decide
  exact ⟨(history calls).1, member, (history calls).2 e member, frame c [e, e] 1 (by decide) (by decide)⟩

end AppServiceOperator.Condition
