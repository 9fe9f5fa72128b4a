import SpotqPayment.Library.Process

/-! A database engine seen from its statements: each of them reads the state,
answers, and writes rows. A transaction is a process over the statements. The
rules say what a transaction writes when it runs alone, so that its effect is
one list of writes that either all happen or none. -/

/-- How statements `Op` are evaluated and how their writes are applied. A write
that breaks a constraint is refused, with the error `refused`. -/
structure Engine (Error : Type) {Op : Type} (Answer : Op → Type) (State Write : Type) where
  eval : (op : Op) → State → Except Error (Answer op × List Write)
  apply : State → Write → Option State
  refused : Error

namespace Engine

open Process

variable {Error Op State Write Value Result : Type} {Answer : Op → Type}

/-- Apply writes one after another, up to the first that is refused. -/
def applyAll (apply : State → Write → Option State) (state : State) (writes : List Write) :
    Option State :=
  writes.foldlM apply state

@[simp] theorem applyAll_nil (apply : State → Write → Option State) (state : State) :
    applyAll apply state [] = some state := rfl

@[simp] theorem applyAll_cons (apply : State → Write → Option State) (state : State)
    (write : Write) (writes : List Write) :
    applyAll apply state (write :: writes) =
      (apply state write).bind fun next => applyAll apply next writes := rfl

theorem applyAll_singleton (apply : State → Write → Option State) (state : State) (write : Write) :
    applyAll apply state [write] = apply state write :=
  Option.bind_fun_some (apply state write)

theorem applyAll_append (apply : State → Write → Option State) (state : State)
    (first second : List Write) :
    applyAll apply state (first ++ second) =
      (applyAll apply state first).bind fun next => applyAll apply next second := by
  unfold applyAll
  rw [List.foldlM_append]
  rfl

/-- One statement executed alone: its writes take effect together, or it fails. -/
def perform (engine : Engine Error Answer State Write) (op : Op) (state : State) :
    Except Error (Answer op) × State :=
  match engine.eval op state with
  | .error error => (.error error, state)
  | .ok (answer, writes) =>
      match applyAll engine.apply state writes with
      | some written => (.ok answer, written)
      | none => (.error engine.refused, state)

/-- The transaction, executed alone from the state, answers with the value and
has written the given rows, unless one of them is refused. -/
def Writes (engine : Engine Error Answer State Write) (body : Process Error Answer Value)
    (state : State) (value : Value) (writes : List Write) : Prop :=
  match applyAll engine.apply state writes with
  | some written => exec engine.perform body state = (.ok value, written)
  | none => (exec engine.perform body state).1 = .error engine.refused

/-- The transaction, executed alone from the state, ends with the error. -/
def Fails (engine : Engine Error Answer State Write) (body : Process Error Answer Value)
    (state : State) (error : Error) : Prop :=
  (exec engine.perform body state).1 = .error error

variable {engine : Engine Error Answer State Write} {op : Op} {state : State}

theorem perform_of_ok {answer : Answer op} {writes : List Write}
    (hEval : engine.eval op state = .ok (answer, writes)) {written : State}
    (hApply : applyAll engine.apply state writes = some written) :
    engine.perform op state = (.ok answer, written) := by
  simp only [perform, hEval, hApply]

theorem perform_of_refused {answer : Answer op} {writes : List Write}
    (hEval : engine.eval op state = .ok (answer, writes))
    (hApply : applyAll engine.apply state writes = none) :
    engine.perform op state = (.error engine.refused, state) := by
  simp only [perform, hEval, hApply]

theorem perform_of_error {error : Error} (hEval : engine.eval op state = .error error) :
    engine.perform op state = (.error error, state) := by
  simp only [perform, hEval]

theorem Writes.ret (value : Value) : engine.Writes (.ret value) state value [] := rfl

theorem Fails.fail (error : Error) :
    engine.Fails (.fail error : Process Error Answer Value) state error := rfl

/-- A statement that only reads leaves the state to the rest. -/
theorem exec_read {answer : Answer op} (hEval : engine.eval op state = .ok (answer, []))
    (next : Answer op → Process Error Answer Value) :
    exec engine.perform (call op >>= next) state = exec engine.perform (next answer) state := by
  rw [exec_call_bind, perform_of_ok hEval (applyAll_nil engine.apply state)]

theorem Writes.read {answer : Answer op} (hEval : engine.eval op state = .ok (answer, []))
    {next : Answer op → Process Error Answer Value} {value : Value} {writes : List Write}
    (hNext : engine.Writes (next answer) state value writes) :
    engine.Writes (call op >>= next) state value writes := by
  unfold Writes at hNext ⊢
  rw [exec_read hEval next]
  exact hNext

theorem Fails.read {answer : Answer op} (hEval : engine.eval op state = .ok (answer, []))
    {next : Answer op → Process Error Answer Value} {error : Error}
    (hNext : engine.Fails (next answer) state error) :
    engine.Fails (call op >>= next) state error := by
  unfold Fails at hNext ⊢
  rw [exec_read hEval next]
  exact hNext

/-- In a sequence the writes of the second part follow, from the written state. -/
theorem Writes.bind {first : Process Error Answer Value} {next : Value → Process Error Answer Result}
    {value : Value} {result : Result} {before after : List Write}
    (hFirst : engine.Writes first state value before)
    (hNext : ∀ written, applyAll engine.apply state before = some written →
      engine.Writes (next value) written result after) :
    engine.Writes (first >>= next) state result (before ++ after) := by
  unfold Writes at hFirst ⊢
  rw [applyAll_append, exec_bind]
  cases hApply : applyAll engine.apply state before with
  | none =>
      rw [hApply] at hFirst
      rcases hExec : exec engine.perform first state with ⟨error | value, final⟩
      · rw [hExec] at hFirst
        cases hFirst
        rfl
      · rw [hExec] at hFirst
        cases hFirst
  | some written =>
      rw [hApply] at hFirst
      rw [hFirst]
      exact hNext written hApply

/-- A statement that ends the transaction. -/
theorem Writes.last {answer : Answer op} {writes : List Write}
    (hEval : engine.eval op state = .ok (answer, writes)) :
    engine.Writes (call op) state answer writes := by
  unfold Writes
  rw [exec_call]
  cases hApply : applyAll engine.apply state writes with
  | none => rw [perform_of_refused hEval hApply]
  | some written => rw [perform_of_ok hEval hApply]

/-- A statement with writes comes before the rest. -/
theorem Writes.write {answer : Answer op} {before after : List Write}
    (hEval : engine.eval op state = .ok (answer, before))
    {next : Answer op → Process Error Answer Value} {value : Value}
    (hNext : ∀ written, applyAll engine.apply state before = some written →
      engine.Writes (next answer) written value after) :
    engine.Writes (call op >>= next) state value (before ++ after) :=
  (Writes.last hEval).bind hNext

/-- A last statement whose answer is dropped. -/
theorem Writes.write_ret {answer : Answer op} {writes : List Write}
    (hEval : engine.eval op state = .ok (answer, writes)) (value : Value) :
    engine.Writes (call op >>= fun _ => .ret value) state value writes := by
  rw [← List.append_nil writes]
  exact Writes.write hEval fun _ _ => Writes.ret value

theorem Fails.last {error : Error} (hEval : engine.eval op state = .error error) :
    engine.Fails (call op) state error := by
  unfold Fails
  rw [exec_call, perform_of_error hEval]

/-- A transaction that fails in its continuation has no effect at all. -/
theorem Fails.atomically {body : Process Error Answer Value} {error : Error}
    (h : engine.Fails body state error) :
    atomically engine.perform body state = (.error error, state) :=
  atomically_of_error h

/-- A transaction writes all of its rows or leaves the state alone. -/
theorem Writes.atomically {body : Process Error Answer Value} {value : Value} {writes : List Write}
    (h : engine.Writes body state value writes) :
    atomically engine.perform body state =
      match applyAll engine.apply state writes with
      | some written => (.ok value, written)
      | none => (.error engine.refused, state) := by
  unfold Writes at h
  cases hApply : applyAll engine.apply state writes with
  | none =>
      rw [hApply] at h
      exact Fails.atomically h
  | some written =>
      rw [hApply] at h
      unfold Process.atomically
      rw [h]

end Engine
