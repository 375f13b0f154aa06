import AppServiceOperator.Text.Occurrence
/-!
# Cutting a text at a part

What the pieces of a text are is said without the search that finds them (`CutAt`): the text is cut at the
first occurrence of the part, and what follows is cut in the same way. The search finds exactly these
pieces (`cutAt_iff`). Joined by the part they are the text again, and none of them has the part in it. Joined
by a text that the part cannot reach into or over, they do not have the part in them either
(`not_infix_intercalate`).
-/
namespace AppServiceOperator.Text

variable {part text front rest : List Char} {ps : List (List Char)}

/-- The first occurrence of the part comes right behind `front`. -/
structure FirstBehind (part front text : List Char) : Prop where
  occurs : front ++ part <+: text
  first : ∀ other, other ++ part <+: text → front.length ≤ other.length

/-- The pieces of a text between the occurrences of a part, of which each is the first one behind the end of
the one before it. -/
inductive CutAt (part : List Char) : List Char → List (List Char) → Prop where
  | whole {text : List Char} (absent : ¬ part <:+: text) : CutAt part text [text]
  | cut {front rest : List Char} {ps : List (List Char)}
      (first : FirstBehind part front (front ++ part ++ rest)) (more : CutAt part rest ps) :
      CutAt part (front ++ part ++ rest) (front :: ps)

/-! ## First occurrences -/

theorem exists_firstBehind (h : part <:+: text) :
    ∃ front rest, text = front ++ part ++ rest ∧ FirstBehind part front text := by
  induction text with
  | nil =>
    obtain rfl := List.infix_nil.1 h
    exact ⟨[], [], rfl, List.nil_prefix, fun _ _ => Nat.zero_le _⟩
  | cons c cs ih =>
    by_cases here : part <+: c :: cs
    · obtain ⟨rest, hrest⟩ := here
      exact ⟨[], rest, hrest.symm, ⟨rest, hrest⟩, fun _ _ => Nat.zero_le _⟩
    · obtain ⟨front, rest, rfl, first⟩ := ih ((List.infix_cons_iff.1 h).resolve_left here)
      refine ⟨c :: front, rest, rfl, List.cons_prefix_cons.2 ⟨rfl, first.occurs⟩, fun other occurs => ?_⟩
      cases other with
      | nil => exact absurd occurs here
      | cons d other => exact Nat.succ_le_succ (first.first other (List.cons_prefix_cons.1 occurs).2)

theorem FirstBehind.tail {c : Char} (h : FirstBehind part (c :: front) (c :: text)) :
    FirstBehind part front text where
  occurs := (List.cons_prefix_cons.1 h.occurs).2
  first other occurs := Nat.le_of_succ_le_succ (h.first (c :: other) (List.cons_prefix_cons.2 ⟨rfl, occurs⟩))

/-- An occurrence in what comes before the first one would be an earlier one. -/
theorem FirstBehind.not_infix (ne : part ≠ []) (h : FirstBehind part front (front ++ part ++ rest)) :
    ¬ part <:+: front := by
  rintro ⟨before, after, rfl⟩
  have occurs : before ++ part <+: before ++ part ++ after ++ part ++ rest :=
    ⟨after ++ part ++ rest, by simp only [List.append_assoc]⟩
  have earliest := h.first before occurs
  have pos : 0 < part.length := List.length_pos_iff.2 ne
  simp only [List.length_append] at earliest
  omega

/-! ## The search -/

theorem piecesFrom_skip (read cs : List Char) (skip : Nat) :
    piecesFrom part read skip cs = piecesFrom part read 0 (cs.drop skip) := by
  induction cs generalizing skip with
  | nil => rw [List.drop_nil, piecesFrom, piecesFrom]
  | cons c cs ih =>
    cases skip with
    | zero => rfl
    | succ skip => rw [piecesFrom, ih, List.drop_succ_cons]

theorem piecesFrom_of_not_infix {read cs : List Char} (absent : ¬ part <:+: cs) :
    piecesFrom part read 0 cs = [read.reverse ++ cs] := by
  induction cs generalizing read with
  | nil => rw [piecesFrom, List.append_nil]
  | cons c cs ih =>
    rw [List.infix_cons_iff, not_or] at absent
    rw [piecesFrom, if_neg (mt List.isPrefixOf_iff_prefix.1 absent.1), ih absent.2, List.reverse_cons,
      List.append_assoc, List.singleton_append]

theorem piecesFrom_of_firstBehind {read : List Char} (ne : part ≠ [])
    (first : FirstBehind part front (front ++ part ++ rest)) :
    piecesFrom part read 0 (front ++ part ++ rest) = (read.reverse ++ front) :: pieces part rest := by
  induction front generalizing read with
  | nil =>
    obtain ⟨p, part, rfl⟩ := List.exists_cons_of_ne_nil ne
    have here : (p :: part).isPrefixOf (p :: (part ++ rest)) = true :=
      List.isPrefixOf_iff_prefix.2 (List.prefix_append (p :: part) rest)
    rw [List.nil_append, List.cons_append, piecesFrom, if_pos here, piecesFrom_skip, List.length_cons,
      Nat.add_sub_cancel, List.drop_left, List.append_nil, pieces]
  | cons c front ih =>
    have later : ¬ part <+: c :: (front ++ part ++ rest) := fun here =>
      absurd (first.first [] here) (Nat.not_succ_le_zero _)
    rw [List.cons_append, List.cons_append, piecesFrom, if_neg (mt List.isPrefixOf_iff_prefix.1 later),
      ih first.tail, List.reverse_cons, List.append_assoc, List.singleton_append]

theorem cutAt_pieces (ne : part ≠ []) (text : List Char) : CutAt part text (pieces part text) := by
  by_cases occurs : part <:+: text
  · obtain ⟨front, rest, rfl, first⟩ := exists_firstBehind occurs
    have shorter : rest.length < (front ++ part ++ rest).length := by
      have pos : 0 < part.length := List.length_pos_iff.2 ne
      simp only [List.length_append]
      omega
    rw [pieces, piecesFrom_of_firstBehind ne first]
    exact .cut first (cutAt_pieces ne rest)
  · rw [pieces, piecesFrom_of_not_infix occurs]
    exact .whole occurs
termination_by text.length

/-- The search finds the pieces, and there are no others. -/
theorem cutAt_iff (ne : part ≠ []) : CutAt part text ps ↔ ps = pieces part text := by
  constructor
  · intro h
    induction h with
    | whole absent => rw [pieces, piecesFrom_of_not_infix absent, List.reverse_nil, List.nil_append]
    | cut first _ ih =>
      rw [pieces, piecesFrom_of_firstBehind ne first, List.reverse_nil, List.nil_append, ih]
  · rintro rfl
    exact cutAt_pieces ne text

/-! ## The pieces -/

theorem CutAt.ne_nil (h : CutAt part text ps) : ps ≠ [] := by
  cases h <;> exact List.cons_ne_nil _ _

/-- Nothing of the text is lost but the part. -/
theorem CutAt.intercalate_eq (h : CutAt part text ps) : part.intercalate ps = text := by
  induction h with
  | whole => exact List.intercalate_singleton
  | cut _ more ih => rw [List.intercalate_cons_of_ne_nil more.ne_nil, ih]

theorem CutAt.not_infix (ne : part ≠ []) (h : CutAt part text ps) : ∀ p ∈ ps, ¬ part <:+: p := by
  induction h with
  | whole absent => simpa using absent
  | cut first _ ih => exact List.forall_mem_cons.2 ⟨first.not_infix ne, ih⟩

/-! ## Other texts between the pieces -/

/-- A character that the part does not have divides what may be an occurrence. -/
theorem infix_of_append_cons {a b : List Char} {c : Char} (foreign : c ∉ part) (h : part <:+: a ++ c :: b) :
    part <:+: a ∨ part <:+: b := by
  have begins {l : List Char} (hl : l ⊆ part) (h : l <+: c :: b) : l = [] := by
    rcases List.prefix_cons_iff.1 h with hnil | ⟨t, rfl, -⟩
    · exact hnil
    · exact absurd (hl List.mem_cons_self) foreign
  rcases List.infix_append_iff.1 h with h | h | ⟨l, r, rfl, hl, hr⟩
  · exact .inl h
  · rcases List.infix_cons_iff.1 h with h | h
    · rw [begins (List.Subset.refl _) h]
      exact .inl List.nil_infix
    · exact .inr h
  · rw [begins (List.subset_append_right l r) hr, List.append_nil]
    exact .inl hl.isInfix

/-- An occurrence does not begin in a text without the first character of the part. -/
theorem infix_of_append_left {u a : List Char} (head : ∃ c ∈ part.head?, c ∉ u) (h : part <:+: u ++ a) :
    part <:+: a := by
  obtain ⟨c, hc, other⟩ := head
  obtain ⟨tail, rfl⟩ := List.head?_eq_some_iff.1 hc
  rcases List.infix_append_iff.1 h with h | h | ⟨l, r, split, hl, hr⟩
  · exact absurd (h.subset List.mem_cons_self) other
  · exact h
  · cases l with
    | nil =>
      rw [split]
      exact hr.isInfix
    | cons d l =>
      obtain ⟨rfl, -⟩ := List.cons.inj split
      exact absurd (hl.subset List.mem_cons_self) other

theorem infix_of_append_right {u a : List Char} (last : ∃ c ∈ part.getLast?, c ∉ u) (h : part <:+: a ++ u) :
    part <:+: a := by
  rw [← List.reverse_infix, List.reverse_append] at h
  rw [← List.reverse_infix]
  refine infix_of_append_left ?_ h
  simpa only [List.head?_reverse, List.mem_reverse] using last

/-- No occurrence of the part can begin or end in the text, nor hold the whole of it. -/
structure Separates (part u : List Char) : Prop where
  head : ∃ c ∈ part.head?, c ∉ u
  last : ∃ c ∈ part.getLast?, c ∉ u
  other : ∃ c ∈ u, c ∉ part

/-- An occurrence could only lie in one of the pieces. -/
theorem not_infix_intercalate {u : List Char} (separates : Separates part u) (ne : ps ≠ [])
    (h : ∀ p ∈ ps, ¬ part <:+: p) : ¬ part <:+: u.intercalate ps := by
  induction ps with
  | nil => exact absurd rfl ne
  | cons p ps ih =>
    rw [List.forall_mem_cons] at h
    by_cases alone : ps = []
    · rw [alone, List.intercalate_singleton]
      exact h.1
    · intro occurs
      obtain ⟨⟨first, hfirst, noFirst⟩, ⟨last, hlast, noLast⟩, c, hc, other⟩ := separates
      obtain ⟨u₁, u₂, hu⟩ := List.append_of_mem hc
      -- no occurrence holds `c`, so it lies before or behind it, and there reaches over no end of `u`
      have around : p ++ u ++ u.intercalate ps = (p ++ u₁) ++ c :: (u₂ ++ u.intercalate ps) := by
        rw [hu]
        simp only [List.append_assoc, List.cons_append]
      rw [List.intercalate_cons_of_ne_nil alone, around] at occurs
      rcases infix_of_append_cons other occurs with occurs | occurs
      · have absent : last ∉ u₁ := fun h => noLast (hu ▸ List.mem_append_left _ h)
        exact h.1 (infix_of_append_right ⟨last, hlast, absent⟩ occurs)
      · have absent : first ∉ u₂ := fun h => noFirst (hu ▸ List.mem_append_right _ (List.mem_cons_of_mem c h))
        exact ih alone h.2 (infix_of_append_left ⟨first, hfirst, absent⟩ occurs)

end AppServiceOperator.Text
