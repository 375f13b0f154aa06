import AppServiceOperator.Effect.Program
/-!
# Histories of programs

A history lists the calls that a program has made, each with its answer. `Path p h q` says that
`q` is what is left of `p` after the history `h`; nothing is said about who answers, so a statement
about all paths is one about all environments. `Along P Q` says that every call satisfies `P` and
the value satisfies `Q`, both of the history so far: `along_bind` takes it apart along the program,
`Along.call` and `Along.value` bring it back to paths. `Runs R` is a whole run in a world that
answers as `R` says: a path along which the world goes from state to state (`runs_iff`).
-/
namespace AppServiceOperator.Program

variable {C : Type} {Answer : C → Type} {α β σ : Type}

/-- A call with its answer. -/
structure Turn (Answer : C → Type) where
  call : C
  answer : Answer call

/-- What happened to a program, the first call first. -/
abbrev History (Answer : C → Type) := List (Turn Answer)

/-! ## Paths -/

/-- What is left of a program after a history. -/
inductive Path : Program Answer α → History Answer → Program Answer α → Prop where
  | here (p : Program Answer α) : Path p [] p
  | step {c : C} {next : Answer c → Program Answer α} {h : History Answer} {q : Program Answer α}
      (answer : Answer c) (rest : Path (next answer) h q) : Path (.call c next) (⟨c, answer⟩ :: h) q

theorem path_done {a : α} {h : History Answer} {q : Program Answer α} :
    Path (.done a) h q ↔ h = [] ∧ q = .done a := by
  constructor
  · rintro ⟨⟩; exact ⟨rfl, rfl⟩
  · rintro ⟨rfl, rfl⟩; exact .here _

theorem Path.trans {p q r : Program Answer α} {h h' : History Answer} (hp : Path p h q)
    (hq : Path q h' r) : Path p (h ++ h') r := by
  induction hp with
  | here => exact hq
  | step answer _ ih => exact .step answer (ih hq)

/-- One more call at the end. -/
theorem Path.snoc {p : Program Answer α} {h : History Answer} {c : C}
    {next : Answer c → Program Answer α} (hp : Path p h (.call c next)) (answer : Answer c) :
    Path p (h ++ [⟨c, answer⟩]) (next answer) :=
  hp.trans (.step answer (.here _))

theorem path_bind_done {p : Program Answer β} {f : β → Program Answer α} {h : History Answer} {a : α} :
    Path (p.bind f) h (.done a) ↔
      ∃ h₁ h₂ b, h = h₁ ++ h₂ ∧ Path p h₁ (.done b) ∧ Path (f b) h₂ (.done a) := by
  induction p generalizing h with
  | done b =>
    constructor
    · intro path; exact ⟨[], h, b, rfl, .here _, path⟩
    · rintro ⟨h₁, h₂, b', rfl, first, rest⟩
      obtain ⟨rfl, hb⟩ := path_done.1 first
      cases hb
      exact rest
  | call c next ih =>
    constructor
    · intro path
      cases path with
      | step answer path =>
        obtain ⟨h₁, h₂, b, rfl, first, rest⟩ := (ih answer).1 path
        exact ⟨⟨c, answer⟩ :: h₁, h₂, b, rfl, .step answer first, rest⟩
    · rintro ⟨h₁, h₂, b, rfl, first, rest⟩
      cases first with
      | step answer first => exact .step answer ((ih answer).2 ⟨_, h₂, b, rfl, first, rest⟩)

/-- A call of a sequence is one of the first program, or one of the second after the first ended. -/
theorem path_bind_call {p : Program Answer β} {f : β → Program Answer α} {h : History Answer} {c : C}
    {next : Answer c → Program Answer α} (path : Path (p.bind f) h (.call c next)) :
    (∃ next', Path p h (.call c next')) ∨
      ∃ h₁ h₂ b, h = h₁ ++ h₂ ∧ Path p h₁ (.done b) ∧ Path (f b) h₂ (.call c next) := by
  induction p generalizing h with
  | done b => exact .inr ⟨[], h, b, rfl, .here _, path⟩
  | call c' next' ih =>
    cases path with
    | here => exact .inl ⟨next', .here _⟩
    | step answer path =>
      rcases ih answer path with ⟨next'', first⟩ | ⟨h₁, h₂, b, rfl, first, rest⟩
      · exact .inl ⟨next'', .step answer first⟩
      · exact .inr ⟨⟨c', answer⟩ :: h₁, h₂, b, rfl, .step answer first, rest⟩

/-- The answers decide how a program runs: of two histories in which it ended, with whatever came
after, neither can be longer. -/
theorem Path.unique {p : Program Answer α} {h h' k k' : History Answer} {a b : α}
    (hp : Path p h (.done a)) (hp' : Path p h' (.done b)) (heq : h ++ k = h' ++ k') :
    h = h' ∧ k = k' ∧ a = b := by
  induction p generalizing h h' with
  | done c =>
    obtain ⟨rfl, ha⟩ := path_done.1 hp
    obtain ⟨rfl, hb⟩ := path_done.1 hp'
    cases ha
    cases hb
    exact ⟨rfl, heq, rfl⟩
  | call c next ih =>
    cases hp with
    | step answer hp =>
      cases hp' with
      | step answer' hp' =>
        obtain ⟨hturn, hrest⟩ := List.cons.inj heq
        cases hturn
        obtain ⟨rfl, rfl, rfl⟩ := ih answer hp hp' hrest
        exact ⟨rfl, rfl, rfl⟩

/-- A program that is answered ends. -/
theorem exists_path_done [∀ c, Nonempty (Answer c)] (p : Program Answer α) :
    ∃ h a, Path p h (.done a) := by
  induction p with
  | done a => exact ⟨[], a, .here _⟩
  | call c next ih =>
    obtain ⟨answer⟩ : Nonempty (Answer c) := inferInstance
    obtain ⟨h, a, path⟩ := ih answer
    exact ⟨_, a, .step answer path⟩

/-- The first turns of a program that is answered by a function. -/
def take (answer : (c : C) → Answer c) : Nat → Program Answer α → History Answer × Program Answer α
  | 0, p => ([], p)
  | _ + 1, .done a => ([], .done a)
  | n + 1, .call c next =>
    let rest := (next (answer c)).take answer n
    (⟨c, answer c⟩ :: rest.1, rest.2)

theorem path_take (answer : (c : C) → Answer c) (n : Nat) (p : Program Answer α) :
    Path p (p.take answer n).1 (p.take answer n).2 := by
  induction n generalizing p with
  | zero => exact .here p
  | succ n ih =>
    cases p with
    | done a => exact .here _
    | call c next => exact .step (answer c) (ih _)

theorem answer_of_mem_take {answer : (c : C) → Answer c} {n : Nat} {p : Program Answer α}
    {t : Turn Answer} (h : t ∈ (p.take answer n).1) : t.answer = answer t.call := by
  induction n generalizing p with
  | zero => cases h
  | succ n ih =>
    cases p with
    | done a => cases h
    | call c next =>
      rcases List.mem_cons.1 h with rfl | h
      · rfl
      · exact ih h

/-- A part of the history in which a program ran from its beginning to its end. -/
def Ran (h : History Answer) (p : Program Answer α) (a : α) : Prop :=
  ∃ before during after, h = before ++ during ++ after ∧ Path p during (.done a)

theorem Path.ran {p : Program Answer α} {h : History Answer} {a : α} (hp : Path p h (.done a)) :
    Ran h p a :=
  ⟨[], h, [], by simp, hp⟩

theorem Ran.append {p : Program Answer α} {h : History Answer} {a : α} (hr : Ran h p a)
    (h₁ h₂ : History Answer) : Ran (h₁ ++ h ++ h₂) p a := by
  obtain ⟨before, during, after, rfl, hp⟩ := hr
  exact ⟨h₁ ++ before, during, after ++ h₂, by simp, hp⟩

theorem Ran.append_left {p : Program Answer α} {h : History Answer} {a : α} (hr : Ran h p a)
    (h₁ : History Answer) : Ran (h₁ ++ h) p a := by
  simpa using hr.append h₁ []

theorem Ran.append_right {p : Program Answer α} {h : History Answer} {a : α} (hr : Ran h p a)
    (h₂ : History Answer) : Ran (h ++ h₂) p a := by
  simpa using hr.append [] h₂

/-! ## What holds along a program -/

/-- Whatever the answers, every call satisfies `P` of the history before it, and the value
satisfies `Q` of the history at the end. -/
def Along (P : History Answer → C → Prop) (Q : History Answer → α → Prop) :
    Program Answer α → History Answer → Prop
  | .done a, h => Q h a
  | .call c next, h => P h c ∧ ∀ answer, (next answer).Along P Q (h ++ [⟨c, answer⟩])

section Along

variable {P : History Answer → C → Prop} {Q Q' : History Answer → α → Prop}

@[simp] theorem along_done {a : α} {h : History Answer} :
    (done a : Program Answer α).Along P Q h ↔ Q h a := Iff.rfl

@[simp] theorem along_call {c : C} {next : Answer c → Program Answer α} {h : History Answer} :
    (call c next).Along P Q h ↔ P h c ∧ ∀ answer, (next answer).Along P Q (h ++ [⟨c, answer⟩]) :=
  Iff.rfl

theorem along_bind {p : Program Answer β} {f : β → Program Answer α} {h : History Answer} :
    (p.bind f).Along P Q h ↔ p.Along P (fun h' b => (f b).Along P Q h') h := by
  induction p generalizing h with
  | done => rfl
  | call c next ih => simp only [bind_call, along_call, ih]

theorem Along.imp {p : Program Answer α} {h : History Answer} (hp : p.Along P Q h)
    (hQ : ∀ h a, Q h a → Q' h a) : p.Along P Q' h := by
  induction p generalizing h with
  | done => exact hQ _ _ hp
  | call c next ih => exact ⟨hp.1, fun answer => ih answer (hp.2 answer)⟩

theorem Along.call {p : Program Answer α} {h during : History Answer} {c : C}
    {next : Answer c → Program Answer α} (hp : p.Along P Q h) (path : Path p during (.call c next)) :
    P (h ++ during) c := by
  induction p generalizing h during with
  | done => cases path
  | call c' next' ih =>
    cases path with
    | here => simpa using hp.1
    | step answer rest => simpa using ih answer (hp.2 answer) rest

theorem Along.value {p : Program Answer α} {h during : History Answer} {a : α} (hp : p.Along P Q h)
    (path : Path p during (.done a)) : Q (h ++ during) a := by
  induction p generalizing h during with
  | done => cases path; simpa using hp
  | call c' next' ih =>
    cases path with
    | step answer rest => simpa using ih answer (hp.2 answer) rest

/-- What holds of every call of a program holds of all turns on its paths. -/
theorem Along.turns {P : C → Prop} {p q : Program Answer α} {h during : History Answer}
    (hp : p.Along (fun _ c => P c) Q h) (path : Path p during q) : ∀ t ∈ during, P t.call := by
  induction path generalizing h with
  | here => simp
  | step answer _ ih => exact List.forall_mem_cons.2 ⟨hp.1, ih (hp.2 answer)⟩

/-- What holds of every call, given all that came before it, holds wherever the call is in a path. -/
theorem Along.within {p q : Program Answer α} {h before after : History Answer} {t : Turn Answer}
    (hp : p.Along P Q h) (path : Path p (before ++ t :: after) q) : P (h ++ before) t.call := by
  induction before generalizing p h with
  | nil =>
    cases path with
    | step answer rest => simpa using hp.1
  | cons u before ih =>
    cases path with
    | step answer rest => simpa using ih (hp.2 answer) rest

theorem along_of_path {p : Program Answer α} {h : History Answer}
    (hc : ∀ during c next, Path p during (.call c next) → P (h ++ during) c)
    (hv : ∀ during a, Path p during (.done a) → Q (h ++ during) a) : p.Along P Q h := by
  induction p generalizing h with
  | done a => simpa using hv [] a (.here _)
  | call c next ih =>
    refine ⟨by simpa using hc [] c next (.here _), fun answer => ih answer ?_ ?_⟩
    · intro during c' next' path
      simpa using hc _ _ _ (path.step answer)
    · intro during a path
      simpa using hv _ _ (path.step answer)

end Along

/-! ## Runs in a world -/

/-- A run from one state of the world to another, where the world answers as `R` says. -/
inductive Runs (R : σ → (c : C) → Answer c → σ → Prop) :
    Program Answer α → σ → History Answer → α → σ → Prop where
  | done (a : α) (s : σ) : Runs R (.done a) s [] a s
  | call {c : C} {next : Answer c → Program Answer α} {s s₁ s₂ : σ} {h : History Answer} {a : α}
      {answer : Answer c} (first : R s c answer s₁) (rest : Runs R (next answer) s₁ h a s₂) :
      Runs R (.call c next) s (⟨c, answer⟩ :: h) a s₂

section Runs

variable {R : σ → (c : C) → Answer c → σ → Prop}

theorem runs_done {a b : α} {s s' : σ} {h : History Answer} :
    Runs R (.done a) s h b s' ↔ h = [] ∧ b = a ∧ s' = s := by
  constructor
  · rintro ⟨⟩; exact ⟨rfl, rfl, rfl⟩
  · rintro ⟨rfl, rfl, rfl⟩; exact .done _ _

theorem runs_call {c : C} {next : Answer c → Program Answer α} {s s' : σ} {h : History Answer} {a : α} :
    Runs R (.call c next) s h a s' ↔
      ∃ answer s₁ h', h = ⟨c, answer⟩ :: h' ∧ R s c answer s₁ ∧ Runs R (next answer) s₁ h' a s' := by
  constructor
  · intro hr
    cases hr with
    | call first rest => exact ⟨_, _, _, rfl, first, rest⟩
  · rintro ⟨answer, s₁, h', rfl, first, rest⟩
    exact .call first rest

theorem runs_bind {p : Program Answer β} {f : β → Program Answer α} {s s' : σ} {h : History Answer}
    {a : α} :
    Runs R (p.bind f) s h a s' ↔
      ∃ h₁ h₂ b s₁, h = h₁ ++ h₂ ∧ Runs R p s h₁ b s₁ ∧ Runs R (f b) s₁ h₂ a s' := by
  induction p generalizing s h with
  | done b =>
    constructor
    · intro hr; exact ⟨[], h, b, s, rfl, .done b s, hr⟩
    · rintro ⟨h₁, h₂, b', s₁, rfl, hb, hr⟩
      obtain ⟨rfl, rfl, rfl⟩ := runs_done.1 hb
      exact hr
  | call c next ih =>
    rw [bind_call, runs_call]
    constructor
    · rintro ⟨answer, s₁, h', rfl, first, rest⟩
      obtain ⟨h₁, h₂, b, s₂, rfl, hb, hr⟩ := (ih answer).1 rest
      exact ⟨⟨c, answer⟩ :: h₁, h₂, b, s₂, rfl, .call first hb, hr⟩
    · rintro ⟨h₁, h₂, b, s₂, rfl, hb, hr⟩
      obtain ⟨answer, s₁, h', rfl, first, rest⟩ := runs_call.1 hb
      exact ⟨answer, s₁, h' ++ h₂, rfl, first, (ih answer).2 ⟨h', h₂, b, s₂, rfl, rest, hr⟩⟩

/-- The states of the world along a history. -/
inductive Follows (R : σ → (c : C) → Answer c → σ → Prop) : σ → History Answer → σ → Prop where
  | nil (s : σ) : Follows R s [] s
  | cons {c : C} {answer : Answer c} {s s₁ s₂ : σ} {h : History Answer} (first : R s c answer s₁)
      (rest : Follows R s₁ h s₂) : Follows R s (⟨c, answer⟩ :: h) s₂

theorem follows_nil {s s' : σ} : Follows R s [] s' ↔ s' = s := by
  constructor
  · rintro ⟨⟩; rfl
  · rintro rfl; exact .nil _

theorem follows_cons {t : Turn Answer} {s s' : σ} {h : History Answer} :
    Follows R s (t :: h) s' ↔ ∃ s₁, R s t.call t.answer s₁ ∧ Follows R s₁ h s' := by
  constructor
  · intro follows
    cases follows with
    | cons first rest => exact ⟨_, first, rest⟩
  · rintro ⟨s₁, first, rest⟩
    exact .cons first rest

theorem follows_append {s s' : σ} {h h' : History Answer} :
    Follows R s (h ++ h') s' ↔ ∃ s₁, Follows R s h s₁ ∧ Follows R s₁ h' s' := by
  induction h generalizing s with
  | nil => simp [follows_nil]
  | cons t h ih =>
    rw [List.cons_append, follows_cons]
    constructor
    · rintro ⟨s₁, first, rest⟩
      obtain ⟨s₂, rest, last⟩ := ih.1 rest
      exact ⟨s₂, follows_cons.2 ⟨s₁, first, rest⟩, last⟩
    · rintro ⟨s₂, rest, last⟩
      obtain ⟨s₁, first, rest⟩ := follows_cons.1 rest
      exact ⟨s₁, first, ih.2 ⟨s₂, rest, last⟩⟩

/-- A run is a path along which the world answers. -/
theorem runs_iff {p : Program Answer α} {s s' : σ} {h : History Answer} {a : α} :
    Runs R p s h a s' ↔ Path p h (.done a) ∧ Follows R s h s' := by
  constructor
  · intro runs
    induction runs with
    | done a s => exact ⟨.here _, .nil s⟩
    | call first _ ih => exact ⟨.step _ ih.1, .cons first ih.2⟩
  · rintro ⟨path, follows⟩
    induction p generalizing s h with
    | done b =>
      obtain ⟨rfl, ha⟩ := path_done.1 path
      cases ha
      exact runs_done.2 ⟨rfl, rfl, follows_nil.1 follows⟩
    | call c next ih =>
      cases path with
      | step answer path =>
        obtain ⟨s₁, first, rest⟩ := follows_cons.1 follows
        exact .call first (ih answer path rest)

/-- What happens to a program whose calls are answered by a handler. -/
def transcript (handler : (c : C) → σ → Answer c × σ) : Program Answer α → σ → History Answer
  | .done _, _ => []
  | .call c next, s => ⟨c, (handler c s).1⟩ :: (next (handler c s).1).transcript handler (handler c s).2

/-- In a world that answers as a handler does, every program runs as it does with the handler. -/
theorem runs_run {handler : (c : C) → σ → Answer c × σ}
    (answers : ∀ c s, R s c (handler c s).1 (handler c s).2) (p : Program Answer α) (s : σ) :
    Runs R p s (p.transcript handler s) (p.run handler s).1 (p.run handler s).2 := by
  induction p generalizing s with
  | done a => exact .done a s
  | call c next ih => exact .call (answers c s) (ih _ _)

end Runs

end AppServiceOperator.Program
