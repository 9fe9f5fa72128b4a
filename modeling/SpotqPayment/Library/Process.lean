import Mathlib.Data.List.Infix

/-! Programs that await the operations of an environment. A process is the tree
of its awaited operations: after each one it continues with the answer or with
the error that the operation raised. The environment stays a parameter, so one
process has a sequential meaning (`exec`) and can be interleaved with others. -/

/-- A process that awaits operations `Op`, each with its own type of answers,
and that ends with a value or an error. -/
inductive Process (Error : Type) {Op : Type} (Answer : Op → Type) (Value : Type) : Type where
  | ret (value : Value)
  | fail (error : Error)
  | await (op : Op) (next : Except Error (Answer op) → Process Error Answer Value)

namespace Process

variable {Error Op State Value Result : Type} {Answer : Op → Type}

/-- Sequencing; an error of the first process ends the whole. -/
def bind (first : Process Error Answer Value) (next : Value → Process Error Answer Result) :
    Process Error Answer Result :=
  match first with
  | .ret value => next value
  | .fail error => .fail error
  | .await op rest => .await op (fun answer => (rest answer).bind next)

instance : Monad (Process Error Answer) where
  pure := .ret
  bind := bind

/-- The handler takes over at an error, wherever the process raised it. -/
def handle (body : Process Error Answer Value) (handler : Error → Process Error Answer Value) :
    Process Error Answer Value :=
  match body with
  | .ret value => .ret value
  | .fail error => handler error
  | .await op rest => .await op (fun answer => (rest answer).handle handler)

instance : MonadExceptOf Error (Process Error Answer) where
  throw := .fail
  tryCatch := handle

/-- The result of a process as a value, so that the rest goes on after an error too. -/
def outcome (body : Process Error Answer Value) : Process Error Answer (Except Error Value) :=
  handle (body.bind fun value => .ret (.ok value)) fun error => .ret (.error error)

/-- Continue with the answer, or end with the error of the operation. -/
def call (op : Op) : Process Error Answer (Answer op) :=
  .await op fun
    | .ok answer => .ret answer
    | .error error => .fail error

/-- Await an operation and go on with its error as a value, as `try` does. -/
def attempt (op : Op) : Process Error Answer (Except Error (Answer op)) :=
  .await op .ret

/-- A computation without awaits that may end with an error. -/
def check (result : Except Error Value) : Process Error Answer Value :=
  match result with
  | .ok value => .ret value
  | .error error => .fail error

/-- `try { body } finally { finalizer }`. -/
def tryFinally (body : Process Error Answer Value) (finalizer : Process Error Answer Unit) :
    Process Error Answer Value :=
  body.outcome.bind fun result => finalizer.bind fun _ => check result

@[simp] theorem ret_bind (value : Value) (next : Value → Process Error Answer Result) :
    (.ret value : Process Error Answer Value) >>= next = next value := rfl

@[simp] theorem fail_bind (error : Error) (next : Value → Process Error Answer Result) :
    (.fail error : Process Error Answer Value) >>= next = .fail error := rfl

@[simp] theorem await_bind (op : Op) (rest : Except Error (Answer op) → Process Error Answer Value)
    (next : Value → Process Error Answer Result) :
    (.await op rest : Process Error Answer Value) >>= next = .await op (fun answer => rest answer >>= next) :=
  rfl

@[simp] theorem map_eq (f : Value → Result) (p : Process Error Answer Value) :
    f <$> p = p >>= fun value => .ret (f value) := rfl

theorem bind_assoc {Final : Type} (first : Process Error Answer Value)
    (next : Value → Process Error Answer Result) (last : Result → Process Error Answer Final) :
    first >>= next >>= last = first >>= fun value => next value >>= last := by
  induction first with
  | ret value => rfl
  | fail error => rfl
  | await op rest ih =>
      simp only [await_bind]
      congr 1
      funext answer
      exact ih answer

theorem bind_ret (p : Process Error Answer Value) : p >>= Process.ret = p := by
  induction p with
  | ret value => rfl
  | fail error => rfl
  | await op rest ih =>
      simp only [await_bind]
      congr 1
      funext answer
      exact ih answer

@[simp] theorem check_ok (value : Value) :
    (check (.ok value) : Process Error Answer Value) = .ret value := rfl

@[simp] theorem check_error (error : Error) :
    (check (.error error : Except Error Value) : Process Error Answer Value) = .fail error := rfl

/-- Run the process to its end with nothing in between, each operation answered
by the environment `perform`. -/
def exec (perform : (op : Op) → State → Except Error (Answer op) × State) :
    Process Error Answer Value → State → Except Error Value × State
  | .ret value, state => (.ok value, state)
  | .fail error, state => (.error error, state)
  | .await op next, state => exec perform (next (perform op state).1) (perform op state).2

variable {perform : (op : Op) → State → Except Error (Answer op) × State}

@[simp] theorem exec_ret (value : Value) (state : State) :
    exec perform (.ret value) state = (.ok value, state) := rfl

@[simp] theorem exec_fail (error : Error) (state : State) :
    exec perform (.fail error : Process Error Answer Value) state = (.error error, state) := rfl

theorem exec_await (op : Op) (next : Except Error (Answer op) → Process Error Answer Value)
    (state : State) :
    exec perform (.await op next) state = exec perform (next (perform op state).1) (perform op state).2 :=
  rfl

/-- A sequence runs its second part from the state the first part left. -/
theorem exec_bind (first : Process Error Answer Value) (next : Value → Process Error Answer Result)
    (state : State) :
    exec perform (first >>= next) state =
      match exec perform first state with
      | (.ok value, middle) => exec perform (next value) middle
      | (.error error, middle) => (.error error, middle) := by
  induction first generalizing state with
  | ret value => rfl
  | fail error => rfl
  | await op rest ih => exact ih (perform op state).1 (perform op state).2

theorem exec_handle (body : Process Error Answer Value) (handler : Error → Process Error Answer Value)
    (state : State) :
    exec perform (tryCatch body handler) state =
      match exec perform body state with
      | (.ok value, middle) => (.ok value, middle)
      | (.error error, middle) => exec perform (handler error) middle := by
  induction body generalizing state with
  | ret value => rfl
  | fail error => rfl
  | await op rest ih => exact ih (perform op state).1 (perform op state).2

theorem exec_tryFinally (body : Process Error Answer Value) (finalizer : Process Error Answer Unit)
    (state : State) :
    exec perform (tryFinally body finalizer) state =
      match exec perform body state with
      | (result, middle) =>
        match exec perform finalizer middle with
        | (.ok _, final) => (result, final)
        | (.error error, final) => (.error error, final) := by
  have hOutcome : ∀ state, exec perform body.outcome state =
      (.ok (exec perform body state).1, (exec perform body state).2) := by
    intro state
    induction body generalizing state with
    | ret value => rfl
    | fail error => rfl
    | await op rest ih => exact ih (perform op state).1 (perform op state).2
  have hSequence : tryFinally body finalizer =
      body.outcome >>= fun result => finalizer >>= fun _ => check result := rfl
  rw [hSequence, exec_bind, hOutcome]
  simp only [exec_bind]
  rcases exec perform finalizer (exec perform body state).2 with ⟨_ | _, final⟩
  · rfl
  · cases (exec perform body state).1 <;> rfl

theorem exec_call_bind (op : Op) (next : Answer op → Process Error Answer Result) (state : State) :
    exec perform (call op >>= next) state =
      match perform op state with
      | (.ok answer, middle) => exec perform (next answer) middle
      | (.error error, middle) => (.error error, middle) := by
  simp only [call, await_bind, exec_await]
  rcases perform op state with ⟨answer | answer, middle⟩ <;> rfl

theorem exec_call_bind_of_answer {op : Op} {answer : Answer op} {state middle : State}
    (h : perform op state = (.ok answer, middle)) (next : Answer op → Process Error Answer Result) :
    exec perform (call op >>= next) state = exec perform (next answer) middle := by
  rw [exec_call_bind, h]

theorem exec_call (op : Op) (state : State) : exec perform (call op) state = perform op state := by
  simp only [call, exec_await]
  rcases perform op state with ⟨answer | answer, middle⟩ <;> rfl

theorem exec_attempt_bind (op : Op)
    (next : Except Error (Answer op) → Process Error Answer Result) (state : State) :
    exec perform (attempt op >>= next) state =
      exec perform (next (perform op state).1) (perform op state).2 := rfl

theorem exec_check_bind (result : Except Error Value) (next : Value → Process Error Answer Result)
    (state : State) :
    exec perform (check result >>= next) state =
      match result with
      | .ok value => exec perform (next value) state
      | .error error => (.error error, state) := by
  cases result <;> rfl

/-- A sequence that returns has got an answer for its first call. -/
theorem exec_call_bind_ok {op : Op} {next : Answer op → Process Error Answer Result} {state : State} {result : Result}
    (h : (exec perform (call op >>= next) state).1 = .ok result) :
    ∃ answer, (perform op state).1 = .ok answer ∧
      (exec perform (next answer) (perform op state).2).1 = .ok result := by
  rw [exec_call_bind] at h
  generalize perform op state = performed at h ⊢
  obtain ⟨error | answer, middle⟩ := performed
  · cases h
  · exact ⟨answer, rfl, h⟩

theorem exec_check_bind_ok {checked : Except Error Value} {next : Value → Process Error Answer Result} {state : State}
    {result : Result} (h : (exec perform (check checked >>= next) state).1 = .ok result) :
    ∃ value, checked = .ok value ∧ (exec perform (next value) state).1 = .ok result := by
  cases checked with
  | error error => cases h
  | ok value => exact ⟨value, rfl, h⟩

/-- What is made of the returned value does not change the final state. -/
theorem exec_bind_ret_state (p : Process Error Answer Value) (f : Value → Result) (state : State) :
    (exec perform (p >>= fun value => .ret (f value)) state).2 = (exec perform p state).2 := by
  rw [exec_bind]
  rcases exec perform p state with ⟨error | value, final⟩ <;> rfl

theorem exec_map_state (f : Value → Result) (p : Process Error Answer Value) (state : State) :
    (exec perform (f <$> p) state).2 = (exec perform p state).2 :=
  exec_bind_ret_state p f state

/-- A process that ends with one call leaves the state of that call. -/
theorem exec_call_ret_state (op : Op) (f : Answer op → Result) (state : State) :
    (exec perform (call op >>= fun answer => .ret (f answer)) state).2 = (perform op state).2 := by
  rw [exec_bind_ret_state, exec_call]

theorem exec_bind_ret_ok_iff {p : Process Error Answer Value} {f : Value → Result} {state : State} :
    (∃ result, (exec perform (p >>= fun value => .ret (f value)) state).1 = .ok result) ↔
      ∃ value, (exec perform p state).1 = .ok value := by
  rw [exec_bind]
  rcases exec perform p state with ⟨error | value, final⟩
  · exact ⟨(fun ⟨_, h⟩ => by cases h), fun ⟨_, h⟩ => by cases h⟩
  · exact ⟨fun _ => ⟨value, rfl⟩, fun _ => ⟨f value, rfl⟩⟩

/-- A process that ends with one call returns exactly when that call does. -/
theorem exec_call_ret_ok_iff {op : Op} {f : Answer op → Result} {state : State} :
    (∃ result, (exec perform (call op >>= fun answer => .ret (f answer)) state).1 = .ok result) ↔
      ∃ answer, (perform op state).1 = .ok answer := by
  rw [exec_bind_ret_ok_iff, exec_call]

/-- All-or-nothing execution: an error leaves the state as it was. -/
def atomically (perform : (op : Op) → State → Except Error (Answer op) × State)
    (p : Process Error Answer Value) (state : State) : Except Error Value × State :=
  match exec perform p state with
  | (.ok value, final) => (.ok value, final)
  | (.error error, _) => (.error error, state)

theorem atomically_of_error {p : Process Error Answer Value} {state : State} {error : Error}
    (h : (exec perform p state).1 = .error error) : atomically perform p state = (.error error, state) := by
  unfold atomically
  rcases hExec : exec perform p state with ⟨value | value, final⟩
  · rw [hExec] at h
    rw [← h]
  · rw [hExec] at h
    cases h

/-- An environment with a fault: after `n` more operations the next one fails,
whichever it is. -/
def failingAt (error : Error) (perform : (op : Op) → State → Except Error (Answer op) × State) (op : Op) :
    Nat × State → Except Error (Answer op) × (Nat × State)
  | (0, state) => (.error error, (0, state))
  | (n + 1, state) => ((perform op state).1, (n, (perform op state).2))

theorem exec_failingAt_zero (error : Error) (op : Op) (next : Answer op → Process Error Answer Value)
    (state : State) :
    (exec (failingAt error perform) (call op >>= next) (0, state)).1 = .error error := by
  rw [exec_call_bind]
  rfl

/-- An operation before the fault is performed. -/
theorem exec_failingAt_succ {op : Op} {state final : State} {answer : Answer op}
    (h : perform op state = (.ok answer, final)) (error : Error) (n : Nat)
    (next : Answer op → Process Error Answer Value) :
    exec (failingAt error perform) (call op >>= next) (n + 1, state) =
      exec (failingAt error perform) (next answer) (n, final) := by
  rw [exec_call_bind]
  simp only [failingAt, h]

/-- Execute the operation that the process awaits. A process that has ended stays. -/
def advance (perform : (op : Op) → State → Except Error (Answer op) × State)
    (p : Process Error Answer Value) (state : State) : State × Process Error Answer Value :=
  match p with
  | .ret value => (state, .ret value)
  | .fail error => (state, .fail error)
  | .await op next => ((perform op state).2, next (perform op state).1)

/-- The state that a process leaves when it stops for good after so many awaits. -/
def stopAfter (perform : (op : Op) → State → Except Error (Answer op) × State) :
    Nat → Process Error Answer Value → State → State
  | 0, _, state => state
  | awaits + 1, p, state =>
      stopAfter perform awaits (advance perform p state).2 (advance perform p state).1

/-- The property holds in every state that the process passes through on its way. -/
def Passes (perform : (op : Op) → State → Except Error (Answer op) × State) (P : State → Prop) :
    Process Error Answer Value → State → Prop
  | .ret _, state => P state
  | .fail _, state => P state
  | .await op next, state => P state ∧ Passes perform P (next (perform op state).1) (perform op state).2

theorem Passes.start {P : State → Prop} {p : Process Error Answer Value} {state : State}
    (h : Passes perform P p state) : P state := by
  cases p with
  | ret value => exact h
  | fail error => exact h
  | await op next => exact h.1

/-- A process that stops leaves one of the states it passes through. -/
theorem Passes.stopAfter {P : State → Prop} (awaits : Nat) {p : Process Error Answer Value} {state : State}
    (h : Passes perform P p state) : P (stopAfter perform awaits p state) := by
  induction awaits generalizing p state with
  | zero => exact h.start
  | succ awaits ih =>
      cases p with
      | ret value => exact ih h
      | fail error => exact ih h
      | await op next => exact ih h.2

theorem Passes.map {P : State → Prop} {p : Process Error Answer Value} {state : State}
    (h : Passes perform P p state) (f : Value → Result) : Passes perform P (f <$> p) state := by
  induction p generalizing state with
  | ret value => exact h
  | fail error => exact h
  | await op next ih => exact ⟨h.1, ih (perform op state).1 h.2⟩

theorem Passes.call_bind {P : State → Prop} {op : Op} {next : Answer op → Process Error Answer Result}
    {state : State} (hState : P state)
    (hNext : match perform op state with
      | (.ok answer, middle) => Passes perform P (next answer) middle
      | (.error _, middle) => P middle) : Passes perform P (call op >>= next) state := by
  refine ⟨hState, ?_⟩
  revert hNext
  rcases perform op state with ⟨error | answer, middle⟩ <;> exact id

/-- A process that ends with one call passes through the state before and after it. -/
theorem Passes.call_ret {P : State → Prop} {op : Op} {f : Answer op → Result} {state : State}
    (hState : P state) (hAfter : P (perform op state).2) :
    Passes perform P (call op >>= fun answer => .ret (f answer)) state := by
  refine Passes.call_bind hState ?_
  revert hAfter
  rcases perform op state with ⟨error | answer, middle⟩ <;> exact id

/-- The operation that the process awaits. -/
def awaited : Process Error Answer Value → Option Op
  | .ret _ => none
  | .fail _ => none
  | .await op _ => some op

/-- All operations that the process awaits are allowed, as long as the answers it
gets are ones it can expect. -/
def Respects (allowed : Op → Prop) (expected : (op : Op) → Except Error (Answer op) → Prop) :
    Process Error Answer Value → Prop
  | .ret _ => True
  | .fail _ => True
  | .await op next => allowed op ∧ ∀ answer, expected op answer → Respects allowed expected (next answer)

namespace Respects

variable {allowed : Op → Prop} {expected : (op : Op) → Except Error (Answer op) → Prop}

theorem mono {weaker : Op → Prop} {p : Process Error Answer Value} (h : Respects allowed expected p)
    (hWeaker : ∀ op, allowed op → weaker op) : Respects weaker expected p := by
  induction p with
  | ret value => trivial
  | fail error => trivial
  | await op next ih => exact ⟨hWeaker op h.1, fun answer hAnswer => ih answer (h.2 answer hAnswer)⟩

theorem bind {first : Process Error Answer Value} {next : Value → Process Error Answer Result}
    (hFirst : Respects allowed expected first) (hNext : ∀ value, Respects allowed expected (next value)) :
    Respects allowed expected (first >>= next) := by
  induction first with
  | ret value => exact hNext value
  | fail error => trivial
  | await op rest ih => exact ⟨hFirst.1, fun answer hAnswer => ih answer (hFirst.2 answer hAnswer)⟩

theorem map {p : Process Error Answer Value} (hProcess : Respects allowed expected p) (f : Value → Result) :
    Respects allowed expected (f <$> p) :=
  hProcess.bind fun _ => trivial

theorem call_bind {op : Op} {next : Answer op → Process Error Answer Result} (hOp : allowed op)
    (hNext : ∀ answer, expected op (.ok answer) → Respects allowed expected (next answer)) :
    Respects allowed expected (call op >>= next) := by
  refine ⟨hOp, fun answer hAnswer => ?_⟩
  cases answer with
  | ok answer => exact hNext answer hAnswer
  | error error => trivial

theorem call {op : Op} (hOp : allowed op) :
    Respects allowed expected (call op : Process Error Answer (Answer op)) := by
  refine ⟨hOp, fun answer _ => ?_⟩
  cases answer <;> trivial

theorem attempt_bind {op : Op} {next : Except Error (Answer op) → Process Error Answer Result}
    (hOp : allowed op) (hNext : ∀ answer, expected op answer → Respects allowed expected (next answer)) :
    Respects allowed expected (attempt op >>= next) :=
  ⟨hOp, hNext⟩

theorem check_bind {result : Except Error Value} {next : Value → Process Error Answer Result}
    (hNext : ∀ value, result = .ok value → Respects allowed expected (next value)) :
    Respects allowed expected (check result >>= next) := by
  cases result with
  | ok value => exact hNext value rfl
  | error error => trivial

theorem allowed_of_awaited {p : Process Error Answer Value} (h : Respects allowed expected p) {op : Op}
    (hOp : p.awaited = some op) : allowed op := by
  cases p with
  | ret value => cases hOp
  | fail error => cases hOp
  | await awaited next =>
      cases hOp
      exact h.1

/-- Environments that answer related states alike, and leave them related, cannot be
told apart by a process that awaits their operations only. -/
theorem exec_related {Other : Type} {perform : (op : Op) → State → Except Error (Answer op) × State}
    {perform' : (op : Op) → Other → Except Error (Answer op) × Other} {R : State → Other → Prop}
    (hStep : ∀ op, allowed op → ∀ state other, R state other →
      (perform op state).1 = (perform' op other).1 ∧ R (perform op state).2 (perform' op other).2)
    {p : Process Error Answer Value} (hProcess : Respects allowed (fun _ _ => True) p) {state : State} {other : Other}
    (h : R state other) :
    (exec perform p state).1 = (exec perform' p other).1 ∧ R (exec perform p state).2 (exec perform' p other).2 := by
  induction p generalizing state other with
  | ret value => exact ⟨rfl, h⟩
  | fail error => exact ⟨rfl, h⟩
  | await op next ih =>
      obtain ⟨hSame, hRelated⟩ := hStep op hProcess.1 state other h
      rw [exec_await, exec_await, ← hSame]
      exact ih _ (hProcess.2 _ trivial) hRelated

end Respects
end Process
