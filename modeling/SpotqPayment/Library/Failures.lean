import SpotqPayment.Library.ReadCommitted

/-! Which errors a program ends with, and what it has done before them. The errors of
its operations are given, and so is which operations change nothing. A program that
raises an error early has changed nothing by then, however it is interleaved. -/
namespace Process

variable {Error Op Value Result : Type} {Answer : Op → Type}

/-- All errors that the process ends with are raised, as long as its operations fail
only with errors of theirs. -/
def Raises (failures : Op → Error → Prop) (raised : Error → Prop) : Process Error Answer Value → Prop
  | .ret _ => True
  | .fail error => raised error
  | .await op next => (∀ value, Raises failures raised (next (.ok value))) ∧
      ∀ error, failures op error → Raises failures raised (next (.error error))

/-- Once an operation that is not harmless has succeeded, only late errors remain, and
if it fails its error is the end. -/
def RaisesEarly (failures : Op → Error → Prop) (harmless : Op → Prop) (late : Error → Prop) :
    Process Error Answer Value → Prop
  | .ret _ => True
  | .fail _ => True
  | .await op next => (∀ error, failures op error → RaisesEarly failures harmless late (next (.error error))) ∧
      (∀ value, RaisesEarly failures harmless late (next (.ok value)) ∧
        (harmless op ∨ Raises failures late (next (.ok value)))) ∧
          (harmless op ∨ ∀ error, next (.error error) = .fail error)

variable {failures : Op → Error → Prop} {harmless : Op → Prop} {raised late : Error → Prop}

namespace Raises

theorem bind {first : Process Error Answer Value} {next : Value → Process Error Answer Result}
    (hFirst : first.Raises failures raised) (hNext : ∀ value, (next value).Raises failures raised) :
    (first >>= next).Raises failures raised := by
  induction first with
  | ret value => exact hNext value
  | fail error => exact hFirst
  | await op rest ih => exact ⟨fun value => ih _ (hFirst.1 value), fun error hError => ih _ (hFirst.2 error hError)⟩

theorem call_bind {op : Op} {next : Answer op → Process Error Answer Result}
    (hOp : ∀ error, failures op error → raised error) (hNext : ∀ answer, (next answer).Raises failures raised) :
    (call op >>= next).Raises failures raised :=
  ⟨hNext, hOp⟩

theorem call {op : Op} (hOp : ∀ error, failures op error → raised error) :
    (call op : Process Error Answer (Answer op)).Raises failures raised :=
  ⟨fun _ => trivial, hOp⟩

theorem attempt_bind {op : Op} {next : Except Error (Answer op) → Process Error Answer Result}
    (hNext : ∀ answer, (next answer).Raises failures raised) : (attempt op >>= next).Raises failures raised :=
  ⟨fun value => hNext (.ok value), fun error _ => hNext (.error error)⟩

theorem check_bind {result : Except Error Value} {next : Value → Process Error Answer Result}
    (hError : ∀ error, result = .error error → raised error)
    (hNext : ∀ value, result = .ok value → (next value).Raises failures raised) :
    (check result >>= next).Raises failures raised := by
  cases result with
  | ok value => exact hNext value rfl
  | error error => exact hError error rfl

/-- The sequential run ends with an error that is raised. -/
theorem of_exec {State : Type} {perform : (op : Op) → State → Except Error (Answer op) × State}
    (hOps : ∀ op state error, (perform op state).1 = .error error → failures op error)
    {p : Process Error Answer Value} (h : p.Raises failures raised) {state : State} {error : Error}
    (hError : (exec perform p state).1 = .error error) : raised error := by
  induction p generalizing state with
  | ret value => cases hError
  | fail failure =>
      cases hError
      exact h
  | await op next ih =>
      rw [exec_await] at hError
      cases hAnswer : (perform op state).1 with
      | ok value =>
          rw [hAnswer] at hError
          exact ih _ (h.1 value) hError
      | error failure =>
          rw [hAnswer] at hError
          exact ih _ (h.2 failure (hOps op state failure hAnswer)) hError

end Raises

namespace RaisesEarly

theorem call_bind {op : Op} {next : Answer op → Process Error Answer Result}
    (hNext : ∀ answer, (next answer).RaisesEarly failures harmless late)
    (hOp : harmless op ∨ ∀ answer, (next answer).Raises failures late) :
    (call op >>= next).RaisesEarly failures harmless late :=
  ⟨fun _ _ => trivial, fun value => ⟨hNext value, hOp.imp_right fun h => h value⟩, Or.inr fun _ => rfl⟩

theorem attempt_bind {op : Op} {next : Except Error (Answer op) → Process Error Answer Result}
    (hNext : ∀ answer, (next answer).RaisesEarly failures harmless late) (hOp : harmless op) :
    (attempt op >>= next).RaisesEarly failures harmless late :=
  ⟨fun error _ => hNext (.error error), fun value => ⟨hNext (.ok value), Or.inl hOp⟩, Or.inl hOp⟩

theorem check_bind {result : Except Error Value} {next : Value → Process Error Answer Result}
    (hNext : ∀ value, result = .ok value → (next value).RaisesEarly failures harmless late) :
    (check result >>= next).RaisesEarly failures harmless late := by
  cases result with
  | ok value => exact hNext value rfl
  | error error => trivial

end RaisesEarly
end Process

namespace ReadCommitted

open Process Engine

variable {Choice Error State Write Lock Value : Type} {Op Statement : Type}
variable {Answer : Op → Type} {Result : Statement → Type}

/-- The statement never writes. -/
def Store.ReadsOnly (store : Store Choice Error State Write Lock Answer Result) (statement : Statement) : Prop :=
  ∀ choice state result new, store.eval choice statement state = .ok (result, new) → new = []

/-- How the operations of a store fail, and which of them leave the state alone. -/
structure FailureModel (store : Store Choice Error State Write Lock Answer Result) where
  /-- The errors of statements, of commits and of aborts. -/
  broken : Error → Prop
  raises : Op → Error → Prop
  harmless : Op → Prop
  unchanged : State → State → Prop
  refl : ∀ state, unchanged state state
  refused : broken store.refused
  eval : ∀ {choice statement state error}, store.eval choice statement state = .error error → broken error
  raises_broken : ∀ {op error}, broken error → raises op error
  remote : ∀ {choice op state answer after}, store.carry choice op state = .inl (answer, after) →
    unchanged state after ∧ ∀ error, answer = .error error → raises op error
  body : ∀ {choice op state body}, store.carry choice op state = .inr body →
    body.Raises (fun _ => broken) (raises op) ∧ (harmless op → body.Respects store.ReadsOnly fun _ _ => True)

namespace FailureModel

variable {store : Store Choice Error State Write Lock Answer Result} (model : FailureModel store)

/-- A session that ends only with late errors. -/
def Late (late : Error → Prop) : Session Error Write Value Answer Result → Prop
  | .outside program => program.Raises model.raises late
  | @Session.inside _ _ _ _ _ _ _ op body _ next =>
      body.Raises (fun _ => model.broken) (model.raises op) ∧
        (∀ value, (next (.ok value)).Raises model.raises late) ∧
          ∀ error, model.raises op error → (next (.error error)).Raises model.raises late
  | .crashed => True

/-- A session that has changed nothing yet, and will only end with late errors once it has. -/
def Clean (late : Error → Prop) : Session Error Write Value Answer Result → Prop
  | .outside program => program.RaisesEarly model.raises model.harmless late
  | @Session.inside _ _ _ _ _ _ _ op body writes next =>
      body.Raises (fun _ => model.broken) (model.raises op) ∧
        (∀ error, model.raises op error → (next (.error error)).RaisesEarly model.raises model.harmless late) ∧
          (∀ value, (next (.ok value)).RaisesEarly model.raises model.harmless late ∧
            (model.harmless op ∨ (next (.ok value)).Raises model.raises late)) ∧
              (model.harmless op ∨ ∀ error, next (.error error) = .fail error) ∧
              (model.harmless op → writes = [] ∧ body.Respects store.ReadsOnly fun _ _ => True)
  | .crashed => True

/-- The database ends transactions with its own errors, and lost answers are known by them. -/
def Honest : Event Choice Error → Prop
  | .abort error => model.broken error
  | .unanswered error => model.broken error
  | _ => True

variable {model} {late : Error → Prop} {session : Session Error Write Value Answer Result}

/-- What an honest step makes of a session and the state. -/
inductive Stepped (model : FailureModel store) (state : State) : Event Choice Error →
    Session Error Write Value Answer Result → State → Session Error Write Value Answer Result → Prop
  | idle (event : Event Choice Error) (session : Session Error Write Value Answer Result) :
      Stepped model state event session state session
  | crashed (session : Session Error Write Value Answer Result) : Stepped model state .crash session state .crashed
  | carried {choice : Choice} {op : Op} {answer : Except Error (Answer op)} {after : State}
      (next : Except Error (Answer op) → Process Error Answer Value)
      (hCarry : store.carry choice op state = .inl (answer, after)) :
      Stepped model state (.proceed choice) (.outside (.await op next)) after (.outside (next answer))
  | begun {choice : Choice} {op : Op} {body : Process Error Result (Answer op)}
      (next : Except Error (Answer op) → Process Error Answer Value) (hCarry : store.carry choice op state = .inr body) :
      Stepped model state (.proceed choice) (.outside (.await op next)) state (.inside body [] next)
  | failed (event : Event Choice Error) {op : Op} (error : Error) (writes : List Write)
      (next : Except Error (Answer op) → Process Error Answer Value) :
      Stepped model state event (.inside (.fail error) writes next) state (.outside (next (.error error)))
  | aborted (event : Event Choice Error) {op : Op} {error : Error} (body : Process Error Result (Answer op))
      (writes : List Write) (next : Except Error (Answer op) → Process Error Answer Value)
      (hError : model.broken error) :
      Stepped model state event (.inside body writes next) state (.outside (next (.error error)))
  | committed (event : Event Choice Error) {op : Op} (value : Answer op) {writes : List Write} {after : State}
      (next : Except Error (Answer op) → Process Error Answer Value)
      (hApply : applyAll store.apply state writes = some after) :
      Stepped model state event (.inside (.ret value) writes next) after (.outside (next (.ok value)))
  | unanswered {op : Op} {error : Error} (value : Answer op) (writes : List Write)
      (next : Except Error (Answer op) → Process Error Answer Value) (hError : model.broken error) :
      Stepped model state (.unanswered error) (.inside (.ret value) writes next)
        ((applyAll store.apply state writes).getD state) (.outside (next (.error error)))
  | raised (event : Event Choice Error) {op : Op} {statement : Statement} {error : Error}
      (rest : Except Error (Result statement) → Process Error Result (Answer op)) (writes : List Write)
      (next : Except Error (Answer op) → Process Error Answer Value) (hError : model.broken error) :
      Stepped model state event (.inside (.await statement rest) writes next) state
        (.inside (rest (.error error)) writes next)
  | answered (event : Event Choice Error) {choice : Choice} {op : Op} {statement : Statement} {view : State}
      {result : Result statement} {new : List Write}
      (rest : Except Error (Result statement) → Process Error Result (Answer op)) (writes : List Write)
      (next : Except Error (Answer op) → Process Error Answer Value)
      (hEval : store.eval choice statement view = .ok (result, new)) :
      Stepped model state event (.inside (.await statement rest) writes next) state
        (.inside (rest (.ok result)) (writes ++ new) next)

variable {event : Event Choice Error} {state after : State} {last : Session Error Write Value Answer Result}

theorem Stepped.stays_late (hStep : model.Stepped state event session after last) (h : model.Late late session) :
    model.Late late last := by
  cases hStep with
  | idle => exact h
  | crashed => trivial
  | @carried choice op answer after next hCarry =>
      cases answer with
      | ok value => exact h.1 value
      | error error => exact h.2 error ((model.remote hCarry).2 error rfl)
  | begun next hCarry => exact ⟨(model.body hCarry).1, h.1, h.2⟩
  | failed event error writes next => exact h.2.2 error h.1
  | aborted event body writes next hError => exact h.2.2 _ (model.raises_broken hError)
  | committed event value next hApply => exact h.2.1 value
  | unanswered value writes next hError => exact h.2.2 _ (model.raises_broken hError)
  | raised event rest writes next hError => exact ⟨h.1.2 _ hError, h.2⟩
  | answered event rest writes next hEval => exact ⟨h.1.1 _, h.2⟩

/-- The commit of a clean session took effect, and all that is left of it is the error
that its client got instead of an answer. -/
def Lost (model : FailureModel store) (event : Event Choice Error) (session : Session Error Write Value Answer Result) :
    Prop :=
  ∃ error, event = .unanswered error ∧ model.broken error ∧ session = .outside (.fail error)

/-- A clean session leaves the state alone, unless its answer is lost, until only late
errors remain. -/
theorem Stepped.stays_clean (hStep : model.Stepped state event session after last) (h : model.Clean late session) :
    model.Clean late last ∧ (model.unchanged state after ∨ model.Lost event last) ∨ model.Late late last := by
  have hQuiet : ∀ {next : Session Error Write Value Answer Result}, model.Clean late next →
      model.Clean late next ∧ (model.unchanged state state ∨ model.Lost event next) ∨ model.Late late next :=
    fun hClean => Or.inl ⟨hClean, Or.inl (model.refl state)⟩
  cases hStep with
  | idle => exact hQuiet h
  | crashed => exact hQuiet trivial
  | @carried choice op answer after next hCarry =>
      obtain ⟨hSame, hError⟩ := model.remote hCarry
      cases answer with
      | ok value => exact Or.inl ⟨(h.2.1 value).1, Or.inl hSame⟩
      | error error => exact Or.inl ⟨h.1 error (hError error rfl), Or.inl hSame⟩
  | begun next hCarry =>
      obtain ⟨hRaises, hReads⟩ := model.body hCarry
      exact hQuiet ⟨hRaises, h.1, h.2.1, h.2.2, fun hHarmless => ⟨rfl, hReads hHarmless⟩⟩
  | failed event error writes next => exact hQuiet (h.2.1 error h.1)
  | aborted event body writes next hError => exact hQuiet (h.2.1 _ (model.raises_broken hError))
  | committed event value next hApply =>
      obtain ⟨-, -, hOk, -, hReads⟩ := h
      obtain ⟨hEarly, hHarmless | hLate⟩ := hOk value
      · obtain ⟨rfl, _⟩ := hReads hHarmless
        cases hApply
        exact hQuiet hEarly
      · exact Or.inr hLate
  | @unanswered op error value writes next hError =>
      obtain ⟨-, hFailed, -, hPasses, hReads⟩ := h
      have hEnd := hFailed error (model.raises_broken hError)
      rcases hPasses with hHarmless | hPasses
      · obtain ⟨rfl, _⟩ := hReads hHarmless
        exact hQuiet hEnd
      · exact Or.inl ⟨hEnd, Or.inr ⟨error, rfl, hError, congrArg Session.outside (hPasses error)⟩⟩
  | raised event rest writes next hError =>
      obtain ⟨hBody, hFailed, hOk, hPasses, hReads⟩ := h
      exact hQuiet ⟨hBody.2 _ hError, hFailed, hOk, hPasses,
        fun hHarmless => ⟨(hReads hHarmless).1, (hReads hHarmless).2.2 _ trivial⟩⟩
  | @answered event choice op statement view result new rest writes next hEval =>
      obtain ⟨hBody, hFailed, hOk, hPasses, hReads⟩ := h
      refine hQuiet ⟨hBody.1 result, hFailed, hOk, hPasses, fun hHarmless => ?_⟩
      obtain ⟨hNone, hAllowed, hRest⟩ := hReads hHarmless
      exact ⟨by rw [hNone, hAllowed choice view result new hEval]; rfl, hRest _ trivial⟩

variable [DecidableEq Lock]

/-- A statement raises its error, waits, or has its result. -/
theorem stepped_execute (model : FailureModel store) (event : Event Choice Error) (choice : Choice)
    (others : List (Session Error Write Value Answer Result)) {op : Op} {statement : Statement}
    (rest : Except Error (Result statement) → Process Error Result (Answer op)) (writes : List Write)
    (next : Except Error (Answer op) → Process Error Answer Value) (view state : State) :
    model.Stepped state event (.inside (.await statement rest) writes next) state
      (store.execute choice others statement rest writes next view) := by
  unfold Store.execute
  cases hEval : store.eval choice statement view with
  | error error => exact .raised event rest writes next (model.eval hEval)
  | ok outcome =>
      obtain ⟨result, new⟩ := outcome
      simp only
      split
      · exact .idle event _
      · split
        · exact .answered event rest writes next hEval
        · exact .raised event rest writes next model.refused

theorem stepped (model : FailureModel store) {event : Event Choice Error} (hEvent : model.Honest event)
    (others : List (Session Error Write Value Answer Result)) (session : Session Error Write Value Answer Result)
    (state : State) :
    model.Stepped state event session (store.step event others session state).1
      (store.step event others session state).2 := by
  cases session with
  | crashed => cases event <;> exact .idle _ _
  | outside program =>
      cases program with
      | ret value => cases event <;> exact .idle _ _
      | fail error => cases event <;> exact .idle _ _
      | await op next =>
          cases event with
          | abort error => exact .idle _ _
          | unanswered error => exact .idle _ _
          | crash => exact .crashed _
          | proceed choice =>
              simp only [Store.step, Store.proceed]
              cases hCarry : store.carry choice op state with
              | inl outcome => exact .carried next hCarry
              | inr body => exact .begun next hCarry
  | inside body writes next =>
      cases event with
      | abort error => exact .aborted _ body writes next hEvent
      | crash => exact .crashed _
      | unanswered error =>
          cases body with
          | ret value => exact .unanswered value writes next hEvent
          | fail failure => exact .idle _ _
          | await statement rest => exact .idle _ _
      | proceed choice =>
          cases body with
          | fail error => exact .failed _ error writes next
          | ret value =>
              simp only [Store.step, Store.proceed]
              cases hApply : applyAll store.apply state writes with
              | none => exact .aborted _ (.ret value) writes next model.refused
              | some committed => exact .committed _ value next hApply
          | await statement rest =>
              simp only [Store.step, Store.proceed]
              cases applyAll store.apply state writes with
              | none => exact .aborted _ (.await statement rest) writes next model.refused
              | some view => exact model.stepped_execute _ choice others rest writes next view state

theorem Late.step {event : Event Choice Error} (h : model.Late late session) (hEvent : model.Honest event)
    (others : List (Session Error Write Value Answer Result)) (state : State) :
    model.Late late (store.step event others session state).2 :=
  (model.stepped hEvent others session state).stays_late h

/-- A step of a clean session leaves it clean and changes nothing, unless its answer is
lost, or only late errors remain. -/
theorem Clean.step {event : Event Choice Error} (h : model.Clean late session) (hEvent : model.Honest event)
    (others : List (Session Error Write Value Answer Result)) (state : State) :
    model.Clean late (store.step event others session state).2 ∧
        (model.unchanged state (store.step event others session state).1 ∨
          model.Lost event (store.step event others session state).2) ∨
      model.Late late (store.step event others session state).2 :=
  (model.stepped hEvent others session state).stays_clean h

end FailureModel
end ReadCommitted
