import WorkflowGraph.Run

/-!
# Runs that only a stop can end

Most operations of the library cannot fail: they poll, they write messages, and they come to an
answer that depends on neither.  `Run.Computes` says this of a run.  Whatever the session, the
run ends with the one answer or is cancelled, and it is never cancelled without a limit on its
patience.

The rules below follow the way runs are written: `pure`, `bind`, polls, messages and `fold`.  An
operation is treated once, by these rules, and everything said afterwards is about its answer
alone.

Of a run that can also fail, `Run.Ensures` says what holds of its answer where it has one.
-/

namespace WorkflowGraph.Run

variable {α β : Type}

/-- The run ends with the answer `a`, unless it is told to stop. -/
structure Computes (run : Run α) (a : α) : Prop where
  /-- The answer, or the end by a stop that somebody has asked for. -/
  answer : ∀ session, (run session).1 = .ok a ∨
    session.patience ≠ none ∧ (run session).1 = .error .cancelled
  /-- A session without a limit stays without one. -/
  unlimited : ∀ session, session.patience = none → (run session).2.patience = none

/-- A run that nobody stops ends with its answer. -/
theorem Computes.outcome_eq {run : Run α} {a : α} (h : run.Computes a) :
    run.outcome = .ok a := by
  rcases h.answer {} with hok | ⟨hlimit, _⟩
  · exact hok
  · exact absurd rfl hlimit

/-- A run has no other answer than the one it computes. -/
theorem Computes.eq_of_outcome {run : Run α} {a found : α} (h : run.Computes a)
    (hfound : run.outcome = .ok found) : found = a :=
  Except.ok.inj (hfound.symm.trans h.outcome_eq)

theorem computes_pure (a : α) : (pure a : Run α).Computes a where
  answer _ := Or.inl rfl
  unlimited _ h := h

/-- What a bind does with a session. -/
theorem bind_apply (run : Run α) (next : α → Run β) (session : Session) :
    (run >>= next) session =
      match run session with
      | (.ok a, after) => next a after
      | (.error failure, after) => (.error failure, after) := rfl

/-- A bind computes what its second part computes from the answer of the first. -/
theorem Computes.bind {run : Run α} {next : α → Run β} {a : α} {b : β}
    (hrun : run.Computes a) (hnext : (next a).Computes b) :
    (run >>= next).Computes b where
  answer session := by
    rw [bind_apply]
    have hanswer := hrun.answer session
    have hkeep := hrun.unlimited session
    rcases hresult : run session with ⟨failure | found, after⟩
    · rw [hresult] at hanswer
      rcases hanswer with hok | ⟨hlimit, hstop⟩
      · exact absurd hok (by simp)
      · obtain rfl : failure = .cancelled := Except.error.inj hstop
        exact Or.inr ⟨hlimit, rfl⟩
    · rw [hresult] at hanswer hkeep
      rcases hanswer with hok | ⟨_, hstop⟩
      · obtain rfl : found = a := Except.ok.inj hok
        rcases hnext.answer after with hdone | ⟨hlimit, hstop⟩
        · exact Or.inl hdone
        · exact Or.inr ⟨fun hnone => hlimit (hkeep hnone), hstop⟩
      · exact absurd hstop (by simp)
  unlimited session hnone := by
    rw [bind_apply]
    have hanswer := hrun.answer session
    have hkeep := hrun.unlimited session hnone
    rcases hresult : run session with ⟨_ | found, after⟩
    · rw [hresult] at hkeep
      exact hkeep
    · rw [hresult] at hanswer hkeep
      rcases hanswer with hok | ⟨hlimit, _⟩
      · obtain rfl : found = a := Except.ok.inj hok
        exact hnext.unlimited after hkeep
      · exact absurd hnone hlimit

/-- A question that is answered with "go on" computes nothing; any other is a stop. -/
theorem computes_poll : poll.Computes () where
  answer session := by
    rcases session with ⟨_ | _ | left, said⟩
    · exact Or.inl rfl
    · exact Or.inr ⟨by simp, rfl⟩
    · exact Or.inl rfl
  unlimited session hnone := by
    rcases session with ⟨_ | _, said⟩
    · rfl
    · exact absurd hnone (by simp)

theorem computes_say (level : Level) (text : String) : (say level text).Computes () where
  answer _ := Or.inl rfl
  unlimited _ h := h

/-- A message before a run does not change what the run computes. -/
theorem Computes.after_say {run : Run α} {a : α} {level : Level} {text : String}
    (h : run.Computes a) : (say level text >>= fun _ => run).Computes a :=
  (computes_say level text).bind h

/-- A poll before a run does not change what the run computes. -/
theorem Computes.after_poll {run : Run α} {a : α} (h : run.Computes a) :
    (poll >>= fun _ => run).Computes a :=
  computes_poll.bind h

/-- One round of a fold, and then the rest of it. -/
theorem Computes.fold_cons {item : α} {others : List α} {start next result : β}
    {step : β → α → Run β} (hstep : (step start item).Computes next)
    (hrest : (fold others next step).Computes result) :
    (fold (item :: others) start step).Computes result :=
  hstep.bind hrest

/-- A fold whose steps compute a function computes the fold of that function. -/
theorem computes_fold {step : β → α → Run β} {next : β → α → β}
    (hstep : ∀ b a, (step b a).Computes (next b a)) (items : List α) (start : β) :
    (fold items start step).Computes (items.foldl next start) := by
  induction items generalizing start with
  | nil => exact computes_pure start
  | cons item others ih => exact (hstep start item).fold_cons (ih (next start item))

/-- Rounds that each add what they find to a list collect all of it. -/
theorem computes_collect {step : List β → α → Run (List β)} {found : α → List β}
    (hstep : ∀ collected item, (step collected item).Computes (collected ++ found item))
    (items : List α) (start : List β) :
    (fold items start step).Computes (start ++ items.flatMap found) := by
  induction items generalizing start with
  | nil =>
      rw [List.flatMap_nil, List.append_nil]
      exact computes_pure start
  | cons item others ih =>
      rw [List.flatMap_cons, ← List.append_assoc]
      exact (hstep start item).fold_cons (ih (start ++ found item))

/-! ## What holds of an answer -/

/-- Every answer that the run can end with meets the condition. -/
def Ensures (run : Run α) (condition : α → Prop) : Prop :=
  ∀ session a, (run session).1 = .ok a → condition a

theorem ensures_pure {condition : α → Prop} {a : α} (h : condition a) :
    (pure a : Run α).Ensures condition := by
  intro session found hfound
  obtain rfl := Except.ok.inj hfound
  exact h

theorem ensures_ofExcept (result : Except Failure α) :
    (ofExcept result).Ensures fun a => result = .ok a :=
  fun _ _ h => h

/-- A bind ensures what its second part ensures of every answer that the first can give. -/
theorem Ensures.bind {run : Run α} {next : α → Run β} {middle : α → Prop} {condition : β → Prop}
    (hrun : run.Ensures middle) (hnext : ∀ a, middle a → (next a).Ensures condition) :
    (run >>= next).Ensures condition := by
  intro session b hb
  rw [bind_apply] at hb
  have hmiddle := hrun session
  rcases hresult : run session with ⟨failure | a, after⟩
  · rw [hresult] at hb
    cases hb
  · rw [hresult] at hb hmiddle
    exact hnext a (hmiddle a rfl) after b hb

/-- As `Ensures.bind`, where nothing is asked of the first part. -/
theorem ensures_bind {run : Run α} {next : α → Run β} {condition : β → Prop}
    (hnext : ∀ a, (next a).Ensures condition) : (run >>= next).Ensures condition := by
  have hrun : run.Ensures fun _ => True := fun _ _ _ => trivial
  exact hrun.bind fun a _ => hnext a

theorem Computes.ensures {run : Run α} {a : α} (h : run.Computes a) : run.Ensures (· = a) := by
  intro session found hfound
  rcases h.answer session with hok | ⟨_, hstop⟩
  · exact Except.ok.inj (hfound.symm.trans hok)
  · rw [hstop] at hfound
    cases hfound

/-- What every step of a fold keeps holds at the end. -/
theorem ensures_fold {step : β → α → Run β} {condition : β → Prop} {items : List α}
    (hstep : ∀ b, ∀ a ∈ items, condition b → (step b a).Ensures condition) {start : β}
    (hstart : condition start) : (fold items start step).Ensures condition := by
  induction items generalizing start with
  | nil => exact ensures_pure hstart
  | cons item others ih =>
      have hfirst := hstep start item List.mem_cons_self hstart
      exact hfirst.bind fun next hnext =>
        ih (fun b a ha => hstep b a (List.mem_cons_of_mem _ ha)) hnext

end WorkflowGraph.Run
