import Mathlib.Logic.Function.Iterate
import SpotqPayment.Library.Engine
import SpotqPayment.Library.Pool

/-! Transactions at the isolation level READ COMMITTED, one statement at a time.
A statement sees the committed state and the writes of its own transaction. The
rows it writes are locked until the transaction ends, and a statement that would
write a row locked by another transaction waits. At the commit all writes of the
transaction take effect together. -/
namespace ReadCommitted

open Process Engine

/-- A client of the database. Inside a transaction it has a body to finish and
remembers the writes made so far and the program that waits for the answer. -/
inductive Session (Error Write Value : Type) {Op Statement : Type} (Answer : Op → Type)
    (Result : Statement → Type) where
  | outside (program : Process Error Answer Value)
  | inside {op : Op} (body : Process Error Result (Answer op)) (writes : List Write)
      (next : Except Error (Answer op) → Process Error Answer Value)
  | crashed

/-- What the scheduler does with a session: its next step, an end of the running
transaction by the database, a commit whose answer is lost on the way to the client, or
the death of the client. -/
inductive Event (Choice Error : Type) where
  | proceed (choice : Choice)
  | abort (error : Error)
  | unanswered (error : Error)
  | crash

/-- The events in which a transaction can be committed. -/
def Event.Commits {Choice Error : Type} : Event Choice Error → Prop
  | .proceed _ => True
  | .unanswered _ => True
  | _ => False

/-- How statements and writes work, and what an operation of a program comes to:
it is either carried out at once or stands for a transaction. A write leaves the
rows behind other locks alone. -/
structure Store (Choice Error State Write Lock : Type) {Op Statement : Type} (Answer : Op → Type)
    (Result : Statement → Type) where
  eval : Choice → (statement : Statement) → State → Except Error (Result statement × List Write)
  apply : State → Write → Option State
  refused : Error
  lock : Write → Lock
  row : State → Lock → Option Write
  frame : ∀ {state after : State} {write : Write}, apply state write = some after →
    ∀ other, other ≠ lock write → row after other = row state other
  carry : Choice → (op : Op) → State → (Except Error (Answer op) × State) ⊕ Process Error Result (Answer op)

variable {Choice Error State Write Lock Value : Type} {Op Statement : Type}
variable {Answer : Op → Type} {Result : Statement → Type}

namespace Session

/-- The writes that wait for the commit. -/
def writes : Session Error Write Value Answer Result → List Write
  | .outside _ => []
  | .inside _ writes _ => writes
  | .crashed => []

/-- The writes that the next step commits. -/
def committing : Session Error Write Value Answer Result → Option (List Write)
  | .inside (.ret _) writes _ => some writes
  | _ => none

/-- The operation that the program awaits and that has not begun yet. -/
def awaited : Session Error Write Value Answer Result → Option Op
  | .outside program => program.awaited
  | _ => none

/-- The value with which the program has ended. -/
def returned : Session Error Write Value Answer Result → Option Value
  | .outside (.ret value) => some value
  | _ => none

/-- The error with which the program has ended. -/
def failed : Session Error Write Value Answer Result → Option Error
  | .outside (.fail error) => some error
  | _ => none

theorem failed_eq_some {session : Session Error Write Value Answer Result} {error : Error} :
    session.failed = some error ↔ session = .outside (.fail error) := by
  constructor
  · intro h
    unfold failed at h
    split at h
    · cases h
      rfl
    · cases h
  · rintro rfl
    rfl

/-- The call has come to its end, in one way or another. -/
def Ended : Session Error Write Value Answer Result → Prop
  | .outside (.ret _) => True
  | .outside (.fail _) => True
  | .crashed => True
  | _ => False

end Session

namespace Store

variable [DecidableEq Lock] (store : Store Choice Error State Write Lock Answer Result)

def locks (writes : List Write) : List Lock := writes.map store.lock

/-- Another session holds the lock of one of the writes. -/
def Blocked (others : List (Session Error Write Value Answer Result)) (writes : List Write) : Prop :=
  ∃ other ∈ others, ∃ write ∈ writes, store.lock write ∈ store.locks other.writes

instance (others : List (Session Error Write Value Answer Result)) (writes : List Write) :
    Decidable (store.Blocked others writes) :=
  inferInstanceAs (Decidable (∃ other ∈ others, ∃ write ∈ writes, store.lock write ∈ store.locks other.writes))

/-- A statement of a transaction, on the state that the transaction sees. -/
def execute {op : Op} (choice : Choice) (others : List (Session Error Write Value Answer Result))
    (statement : Statement) (rest : Except Error (Result statement) → Process Error Result (Answer op))
    (writes : List Write) (next : Except Error (Answer op) → Process Error Answer Value) (view : State) :
    Session Error Write Value Answer Result :=
  match store.eval choice statement view with
  | .error error => .inside (rest (.error error)) writes next
  | .ok (result, new) =>
      if store.Blocked others new then .inside (.await statement rest) writes next
      else if (applyAll store.apply view new).isSome then .inside (rest (.ok result)) (writes ++ new) next
      else .inside (rest (.error store.refused)) writes next

/-- The next step of a session. -/
def proceed (choice : Choice) (others : List (Session Error Write Value Answer Result)) :
    Session Error Write Value Answer Result → State → State × Session Error Write Value Answer Result
  | .crashed, state => (state, .crashed)
  | .outside (.ret value), state => (state, .outside (.ret value))
  | .outside (.fail error), state => (state, .outside (.fail error))
  | .outside (.await op next), state =>
      match store.carry choice op state with
      | .inl (answer, after) => (after, .outside (next answer))
      | .inr body => (state, .inside body [] next)
  | .inside (.ret value) writes next, state =>
      match applyAll store.apply state writes with
      | some committed => (committed, .outside (next (.ok value)))
      | none => (state, .outside (next (.error store.refused)))
  | .inside (.fail error) _ next, state => (state, .outside (next (.error error)))
  | .inside (.await statement rest) writes next, state =>
      match applyAll store.apply state writes with
      | some view => (state, store.execute choice others statement rest writes next view)
      | none => (state, .outside (next (.error store.refused)))

/-- A transaction that is aborted, and the death of a client, leave no writes. A commit
without an answer leaves them, and the client goes on with an error. -/
def step (event : Event Choice Error) (others : List (Session Error Write Value Answer Result))
    (session : Session Error Write Value Answer Result) (state : State) :
    State × Session Error Write Value Answer Result :=
  match event, session with
  | .proceed choice, session => store.proceed choice others session state
  | .abort error, .inside _ _ next => (state, .outside (next (.error error)))
  | .unanswered error, .inside (.ret _) writes next =>
      ((applyAll store.apply state writes).getD state, .outside (next (.error error)))
  | .crash, .inside _ _ _ => (state, .crashed)
  | .crash, .outside (.await _ _) => (state, .crashed)
  | _, session => (state, session)

/-- All that a step can do to the state: nothing, one operation at once, or the
commit of a transaction. -/
theorem step_cases (event : Event Choice Error) (others : List (Session Error Write Value Answer Result))
    (session : Session Error Write Value Answer Result) (state : State) :
    (store.step event others session state).1 = state ∨
      (∃ choice op answer after, event = .proceed choice ∧ session.awaited = some op ∧
        store.carry choice op state = .inl (answer, after) ∧
          (store.step event others session state).1 = after) ∨
      ∃ writes committed, session.committing = some writes ∧
        applyAll store.apply state writes = some committed ∧
          (store.step event others session state).1 = committed := by
  cases event with
  | abort error => cases session <;> exact Or.inl rfl
  | unanswered error =>
      cases session with
      | crashed => exact Or.inl rfl
      | outside program => exact Or.inl rfl
      | inside body writes next =>
          cases body with
          | fail failure => exact Or.inl rfl
          | await statement rest => exact Or.inl rfl
          | ret value =>
              simp only [step]
              cases hApply : applyAll store.apply state writes with
              | none => exact Or.inl rfl
              | some committed => exact Or.inr (Or.inr ⟨writes, committed, rfl, hApply, rfl⟩)
  | crash =>
      cases session with
      | outside program => cases program <;> exact Or.inl rfl
      | inside body writes next => exact Or.inl rfl
      | crashed => exact Or.inl rfl
  | proceed choice =>
      cases session with
      | crashed => exact Or.inl rfl
      | outside program =>
          cases program with
          | ret value => exact Or.inl rfl
          | fail error => exact Or.inl rfl
          | await op next =>
              simp only [step, proceed]
              cases hCarry : store.carry choice op state with
              | inl outcome => exact Or.inr (Or.inl ⟨choice, op, outcome.1, outcome.2, rfl, rfl, hCarry, rfl⟩)
              | inr body => exact Or.inl rfl
      | inside body writes next =>
          cases body with
          | fail error => exact Or.inl rfl
          | await statement rest =>
              simp only [step, proceed]
              cases applyAll store.apply state writes <;> exact Or.inl rfl
          | ret value =>
              simp only [step, proceed]
              cases hApply : applyAll store.apply state writes with
              | none => exact Or.inl rfl
              | some committed => exact Or.inr (Or.inr ⟨writes, committed, rfl, hApply, rfl⟩)

section Frame

variable {store}

omit [DecidableEq Lock] in
/-- Rows without a write keep their version. -/
theorem row_applyAll {state after : State} {writes : List Write}
    (h : applyAll store.apply state writes = some after) {lock : Lock} (hLock : lock ∉ store.locks writes) :
    store.row after lock = store.row state lock := by
  induction writes generalizing state with
  | nil =>
      cases h
      rfl
  | cons write writes ih =>
      obtain ⟨middle, hWrite, hRest⟩ := Option.bind_eq_some_iff.mp h
      rw [locks, List.map_cons, List.mem_cons, not_or] at hLock
      rw [ih hRest hLock.2, store.frame hWrite lock hLock.1]

end Frame

/-! A transaction that runs alone has the effect of its body on the engine. -/
section Alone

/-- The engine behind the statements. -/
def engine (choice : Choice) : Engine Error Result State Write where
  eval := store.eval choice
  apply := store.apply
  refused := store.refused

/-- Steps of one session, with no other session around. -/
def alone (choice : Choice) (current : State × Session Error Write Value Answer Result) :
    State × Session Error Write Value Answer Result :=
  store.proceed choice [] current.2 current.1

theorem exists_alone_body {op : Op} (choice : Choice) (body : Process Error Result (Answer op))
    (next : Except Error (Answer op) → Process Error Answer Value) {state view : State} {writes : List Write}
    (hView : applyAll store.apply state writes = some view) :
    ∃ steps, (store.alone choice)^[steps] (state, .inside body writes next) =
      match exec (store.engine choice).perform body view with
      | (.ok value, final) => (final, .outside (next (.ok value)))
      | (.error error, _) => (state, .outside (next (.error error))) := by
  induction body generalizing view writes with
  | ret value =>
      refine ⟨1, ?_⟩
      simp only [Function.iterate_one, alone, proceed, hView, exec_ret]
  | fail error => exact ⟨1, rfl⟩
  | await statement rest ih =>
      have hNone : ∀ new, ¬ store.Blocked ([] : List (Session Error Write Value Answer Result)) new := by
        rintro new ⟨other, hOther, _⟩
        cases hOther
      have hStep : ∃ result view' writes', applyAll store.apply state writes' = some view' ∧
          (store.engine choice).perform statement view = (result, view') ∧
          store.alone choice (state, .inside (.await statement rest) writes next) =
            (state, .inside (rest result) writes' next) := by
        simp only [alone, proceed, hView, execute]
        cases hEval : store.eval choice statement view with
        | error error => exact ⟨_, _, _, hView, Engine.perform_of_error hEval, rfl⟩
        | ok outcome =>
            obtain ⟨result, new⟩ := outcome
            simp only [if_neg (hNone new)]
            cases hNew : applyAll store.apply view new with
            | none => exact ⟨_, _, _, hView, Engine.perform_of_refused hEval hNew, rfl⟩
            | some after =>
                refine ⟨_, after, writes ++ new, ?_, Engine.perform_of_ok hEval hNew, rfl⟩
                rw [applyAll_append, hView]
                exact hNew
      obtain ⟨result, view', writes', hView', hPerform, hAlone⟩ := hStep
      obtain ⟨steps, hSteps⟩ := ih result hView'
      refine ⟨steps + 1, ?_⟩
      rw [Function.iterate_succ_apply, hAlone, hSteps, exec_await, hPerform]

/-- So it commits as a whole or not at all. -/
theorem exists_alone {op : Op} {choice : Choice} {state : State} {body : Process Error Result (Answer op)}
    (hCarry : store.carry choice op state = .inr body)
    (next : Except Error (Answer op) → Process Error Answer Value) :
    ∃ steps, (store.alone choice)^[steps] (state, .outside (.await op next)) =
      ((atomically (store.engine choice).perform body state).2,
        .outside (next (atomically (store.engine choice).perform body state).1)) := by
  obtain ⟨steps, hSteps⟩ := store.exists_alone_body choice body next (applyAll_nil store.apply state)
  refine ⟨steps + 1, ?_⟩
  have hBegin : store.alone choice (state, .outside (.await op next)) = (state, .inside body [] next) := by
    simp only [alone, proceed, hCarry]
  rw [Function.iterate_succ_apply, hBegin, hSteps]
  unfold atomically
  rcases exec (store.engine choice).perform body state with ⟨answer | answer, final⟩ <;> rfl

end Alone

end Store
end ReadCommitted
