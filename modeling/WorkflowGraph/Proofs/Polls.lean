import WorkflowGraph.Proofs.Visits

/-!
# How often a run asks

A run that is told to stop notices it at its next question and not before.  So the moment of the
order matters only by the number of questions that come before it, and a run that does not look
at its session in any other way has a fixed number of them: with `Run.Asks` the run asks `polls`
questions and then ends with `result`.  A patience that lasts for all of them is used up by
exactly that number, and a shorter one ends the run with `cancelled` and nothing else.

Numbers of questions add up along a bind (`Asks.bind`), and a failure of the first part is the
end of the whole (`Asks.bind_error`).  Most operations cannot fail: `Run.Answers` says that a run
asks some number of questions and then has an answer.  Its rules follow the way runs are written,
so that an operation is treated without a word about what it computes.

`AllOrNothing` is what comes out of it (`Asks.allOrNothing`): whenever the order to stop is
given, the run has the choice of two ends, and an order before the start cancels every run that
has anything to do.
-/

namespace WorkflowGraph.Run

variable {α β : Type}

/-- The run asks `polls` questions, and ends with `result` if all of them are answered with "go
on". -/
structure Asks (run : Run α) (polls : Nat) (result : Except Failure α) : Prop where
  /-- Without a limit all questions are answered with "go on". -/
  unlimited : ∀ session, session.patience = none →
    (run session).1 = result ∧ (run session).2.patience = none
  /-- A patience that lasts is used up by the questions. -/
  enough : ∀ session left, session.patience = some (polls + left) →
    (run session).1 = result ∧ (run session).2.patience = some left
  /-- A shorter one ends the run at one of its questions. -/
  short : ∀ session patience, session.patience = some patience → patience < polls →
    (run session).1 = .error .cancelled

/-- After an answer a bind goes on with its second part. -/
theorem bind_of_ok {run : Run α} {a : α} {session : Session} (h : (run session).1 = .ok a)
    (next : α → Run β) : (run >>= next) session = next a (run session).2 := by
  rw [bind_apply]
  rcases hresult : run session with ⟨failure | found, after⟩
  · rw [hresult] at h
    cases h
  · rw [hresult] at h
    obtain rfl : found = a := Except.ok.inj h
    rfl

/-- After a failure a bind does nothing more. -/
theorem bind_of_error {run : Run α} {failure : Failure} {session : Session}
    (h : (run session).1 = .error failure) (next : α → Run β) :
    (run >>= next) session = (.error failure, (run session).2) := by
  rw [bind_apply]
  rcases hresult : run session with ⟨found | a, after⟩
  · rw [hresult] at h
    obtain rfl : found = failure := Except.error.inj h
    rfl
  · rw [hresult] at h
    cases h

theorem asks_ofExcept (result : Except Failure α) : (ofExcept result).Asks 0 result where
  unlimited _ hnone := ⟨rfl, hnone⟩
  enough session left hleft := ⟨rfl, by rw [Nat.zero_add] at hleft; exact hleft⟩
  short _ patience _ hlt := absurd hlt (Nat.not_lt_zero patience)

theorem asks_pure (a : α) : (pure a : Run α).Asks 0 (.ok a) := asks_ofExcept (.ok a)

theorem asks_poll : poll.Asks 1 (.ok ()) where
  unlimited session hnone := by
    rcases session with ⟨_ | _, said⟩
    · exact ⟨rfl, rfl⟩
    · cases hnone
  enough session left hleft := by
    rcases session with ⟨patience, said⟩
    obtain rfl : patience = some (left + 1) := by rw [Nat.add_comm left 1]; exact hleft
    exact ⟨rfl, rfl⟩
  short session patience hpatience hlt := by
    rcases session with ⟨_, said⟩
    obtain rfl : patience = 0 := by omega
    cases hpatience
    rfl

theorem asks_say (level : Level) (text : String) : (say level text).Asks 0 (.ok ()) where
  unlimited _ hnone := ⟨rfl, hnone⟩
  enough session left hleft := ⟨rfl, by rw [Nat.zero_add] at hleft; exact hleft⟩
  short _ patience _ hlt := absurd hlt (Nat.not_lt_zero patience)

/-- **Questions add up.**  The patience that the first part leaves is what the second part has. -/
theorem Asks.bind {run : Run α} {next : α → Run β} {first second : Nat} {a : α}
    {result : Except Failure β} (hrun : run.Asks first (.ok a))
    (hnext : (next a).Asks second result) : (run >>= next).Asks (first + second) result where
  unlimited session hnone := by
    obtain ⟨hok, hafter⟩ := hrun.unlimited session hnone
    rw [bind_of_ok hok]
    exact hnext.unlimited _ hafter
  enough session left hleft := by
    rw [Nat.add_assoc] at hleft
    obtain ⟨hok, hafter⟩ := hrun.enough session (second + left) hleft
    rw [bind_of_ok hok]
    exact hnext.enough _ left hafter
  short session patience hpatience hlt := by
    by_cases hfirst : patience < first
    · rw [bind_of_error (hrun.short session patience hpatience hfirst)]
    · obtain ⟨left, rfl⟩ : ∃ left, patience = first + left := ⟨patience - first, by omega⟩
      obtain ⟨hok, hafter⟩ := hrun.enough session left hpatience
      rw [bind_of_ok hok]
      exact hnext.short _ left hafter (by omega)

/-- A failure of the first part is the end of the whole. -/
theorem Asks.bind_error {run : Run α} {polls : Nat} {failure : Failure}
    (hrun : run.Asks polls (.error failure)) (next : α → Run β) :
    (run >>= next).Asks polls (.error failure) where
  unlimited session hnone := by
    obtain ⟨herror, hafter⟩ := hrun.unlimited session hnone
    rw [bind_of_error herror]
    exact ⟨rfl, hafter⟩
  enough session left hleft := by
    obtain ⟨herror, hafter⟩ := hrun.enough session left hleft
    rw [bind_of_error herror]
    exact ⟨rfl, hafter⟩
  short session patience hpatience hlt := by
    rw [bind_of_error (hrun.short session patience hpatience hlt)]

/-- What a run ends with that nobody stops. -/
theorem Asks.outcome_eq {run : Run α} {polls : Nat} {result : Except Failure α}
    (h : run.Asks polls result) : run.outcome = result :=
  (h.unlimited {} rfl).1

/-! ## Runs that have an answer -/

/-- The run asks some number of questions and then has an answer. -/
def Answers (run : Run α) : Prop := ∃ polls a, run.Asks polls (.ok a)

theorem answers_pure (a : α) : (pure a : Run α).Answers := ⟨0, a, asks_pure a⟩

theorem answers_poll : poll.Answers := ⟨1, (), asks_poll⟩

theorem answers_say (level : Level) (text : String) : (say level text).Answers :=
  ⟨0, (), asks_say level text⟩

theorem Answers.bind {run : Run α} {next : α → Run β} (hrun : run.Answers)
    (hnext : ∀ a, (next a).Answers) : (run >>= next).Answers := by
  obtain ⟨first, a, hfirst⟩ := hrun
  obtain ⟨second, b, hsecond⟩ := hnext a
  exact ⟨first + second, b, hfirst.bind hsecond⟩

/-- A poll before a run does not take its answer away. -/
theorem Answers.after_poll {run : Run α} (h : run.Answers) : (poll >>= fun _ => run).Answers :=
  answers_poll.bind fun _ => h

/-- Nor does a message. -/
theorem Answers.after_say {run : Run α} {level : Level} {text : String} (h : run.Answers) :
    (say level text >>= fun _ => run).Answers :=
  (answers_say level text).bind fun _ => h

theorem answers_ite {condition : Prop} [Decidable condition] {yes no : Run α} (hyes : yes.Answers)
    (hno : no.Answers) : (if condition then yes else no).Answers := by
  split
  · exact hyes
  · exact hno

/-- A fold has an answer if every step has. -/
theorem answers_fold {step : β → α → Run β} (hstep : ∀ b a, (step b a).Answers) (items : List α)
    (start : β) : (fold items start step).Answers := by
  induction items generalizing start with
  | nil => exact answers_pure start
  | cons item others ih => exact (hstep start item).bind fun next => ih next

theorem answers_each {action : α → Run Unit} (haction : ∀ a, (action a).Answers)
    (items : List α) : (each items action).Answers := by
  induction items with
  | nil => exact answers_pure ()
  | cons item others ih => exact (haction item).bind fun _ => ih

/-- So has a visit. -/
theorem answers_visitCalls {σ : Type} {step : σ → Go.PlacedCall → Run σ}
    (hstep : ∀ gathered placed, (step gathered placed).Answers) (root : Go.Node)
    (scope : Option Go.Node) (start : σ) : (root.visitCalls scope start step).Answers := by
  rw [Go.Node.visitCalls_eq_fold]
  refine answers_fold (fun gathered place => ?_) (root.placed scope) start
  exact Answers.after_poll (answers_ite (hstep gathered _) (answers_pure gathered))

/-- What comes after a run that is not stopped goes on from its answer as if nothing had been
before. -/
theorem Answers.outcome_bind {run : Run α} {next : α → Run β} {a : α} (hrun : run.Answers)
    (ha : run.outcome = .ok a) (hnext : (next a).Answers) :
    (run >>= next).outcome = (next a).outcome := by
  obtain ⟨first, found, hfirst⟩ := hrun
  obtain rfl : found = a := Except.ok.inj (hfirst.outcome_eq.symm.trans ha)
  obtain ⟨second, b, hsecond⟩ := hnext
  rw [(hfirst.bind hsecond).outcome_eq, hsecond.outcome_eq]

/-- A run that answers and can only have one answer ends with it. -/
theorem Answers.outcome_of_ensures {run : Run α} {a : α} (hrun : run.Answers)
    (ha : run.Ensures (· = a)) : run.outcome = .ok a := by
  obtain ⟨_, found, hasks⟩ := hrun
  rw [hasks.outcome_eq, ha {} found hasks.outcome_eq]

/-! ## The two ends of a run that is told to stop -/

/-- The run asks before it can end: an order that was given before its start cancels it. -/
def AsksFirst (run : Run α) : Prop :=
  ∀ session, session.patience = some 0 → (run session).1 = .error .cancelled

theorem asksFirst_poll : poll.AsksFirst :=
  fun session hzero => asks_poll.short session 0 hzero Nat.zero_lt_one

theorem AsksFirst.bind {run : Run α} (h : run.AsksFirst) (next : α → Run β) :
    (run >>= next).AsksFirst := by
  intro session hzero
  rw [bind_of_error (h session hzero)]

theorem AsksFirst.after_say {run : Run α} {level : Level} {text : String} (h : run.AsksFirst) :
    (say level text >>= fun _ => run).AsksFirst :=
  fun session hzero => h { session with said := ⟨level, text⟩ :: session.said } hzero

theorem asksFirst_fold {step : β → α → Run β} (hstep : ∀ b a, (step b a).AsksFirst)
    {items : List α} (hitems : items ≠ []) (start : β) : (fold items start step).AsksFirst := by
  cases items with
  | nil => exact absurd rfl hitems
  | cons item others => exact (hstep start item).bind _

/-- The order to stop leaves a run the choice of two ends: to be cancelled, or to end as if nobody
had given it.  `busy` says when the run has anything to do. -/
structure AllOrNothing (run : Run α) (busy : Prop) : Prop where
  /-- The run is cancelled if the order comes before the last of its questions, and any later
  order does not touch it. -/
  stopped : ∃ polls, ∀ session patience, session.patience = some patience →
    (run session).1 = if patience < polls then .error .cancelled else run.outcome
  /-- Without an order the run is not cancelled, whatever was said before. -/
  unstopped : ∀ session, session.patience = none →
    (run session).1 = run.outcome ∧ run.outcome ≠ .error .cancelled
  /-- An order that was given before the start cancels the run if it has anything to do. -/
  atOnce : ∀ session, session.patience = some 0 →
    ((run session).1 = .error .cancelled ↔ busy)

/-- A run with a fixed number of questions is all or nothing. -/
theorem Asks.allOrNothing {run : Run α} {polls : Nat} {result : Except Failure α} {busy : Prop}
    (h : run.Asks polls result) (hresult : result ≠ .error .cancelled)
    (hbusy : busy → run.AsksFirst) (hidle : ¬busy → ¬run.AsksFirst) : run.AllOrNothing busy where
  stopped := by
    refine ⟨polls, fun session patience hpatience => ?_⟩
    by_cases hlt : patience < polls
    · rw [if_pos hlt]
      exact h.short session patience hpatience hlt
    · obtain ⟨left, rfl⟩ : ∃ left, patience = polls + left := ⟨patience - polls, by omega⟩
      rw [if_neg hlt, h.outcome_eq]
      exact (h.enough session left hpatience).1
  unstopped session hnone := by
    rw [h.outcome_eq]
    exact ⟨(h.unlimited session hnone).1, hresult⟩
  atOnce session hzero := by
    refine ⟨fun hcancelled => Classical.byContradiction fun hnot => hidle hnot ?_,
      fun hdoes => hbusy hdoes session hzero⟩
    -- one session in which the run was cancelled at once shows that it asks at all
    have hasks : 0 < polls := by
      refine Nat.pos_of_ne_zero fun hnone => hresult ?_
      subst hnone
      rw [← hcancelled]
      exact (h.enough session 0 hzero).1.symm
    exact fun other hother => h.short other 0 hother hasks

/-- A run that has an answer is all or nothing. -/
theorem Answers.allOrNothing {run : Run α} {busy : Prop} (h : run.Answers)
    (hbusy : busy → run.AsksFirst) (hidle : ¬busy → ¬run.AsksFirst) : run.AllOrNothing busy := by
  obtain ⟨polls, a, hasks⟩ := h
  exact hasks.allOrNothing (fun hcancelled => by cases hcancelled) hbusy hidle

/-- What asks nothing does not ask first. -/
theorem Asks.not_asksFirst {run : Run α} {result : Except Failure α} (h : run.Asks 0 result)
    (hresult : result ≠ .error .cancelled) : ¬run.AsksFirst := by
  intro hfirst
  have hcancelled := hfirst ⟨some 0, []⟩ rfl
  rw [(h.enough ⟨some 0, []⟩ 0 rfl).1] at hcancelled
  exact hresult hcancelled

/-- The run has an answer without a question. -/
def Immediate (run : Run α) : Prop := ∃ a, run.Asks 0 (.ok a)

theorem immediate_pure (a : α) : (pure a : Run α).Immediate := ⟨a, asks_pure a⟩

theorem Immediate.bind {run : Run α} {next : α → Run β} (hrun : run.Immediate)
    (hnext : ∀ a, (next a).Immediate) : (run >>= next).Immediate := by
  obtain ⟨a, ha⟩ := hrun
  obtain ⟨b, hb⟩ := hnext a
  exact ⟨b, ha.bind hb⟩

theorem Immediate.after_say {run : Run α} {level : Level} {text : String} (h : run.Immediate) :
    (say level text >>= fun _ => run).Immediate :=
  Immediate.bind ⟨(), asks_say level text⟩ fun _ => h

theorem Immediate.not_asksFirst {run : Run α} (h : run.Immediate) : ¬run.AsksFirst := by
  obtain ⟨a, ha⟩ := h
  exact ha.not_asksFirst fun hcancelled => by cases hcancelled

end WorkflowGraph.Run
