import SpotqPayment.Library.ReadCommitted
import SpotqPayment.Library.Run

/-! One system in the place of another. A system simulates a coarser one when it can
follow each of its steps by a run of its own; it can then follow all its runs. The
coarse systems here let a thread do at once what takes it many steps below. -/
namespace Transition

variable {State Coarse Coarser Input Event Signal : Type}

/-- Each step of the coarse system is matched by a run of the fine one. -/
def Simulates (next : State → Input → State) (coarse : Coarse → Event → Coarse)
    (related : Coarse → State → Prop) : Prop :=
  ∀ upper state event, related upper state → ∃ inputs, related (coarse upper event) (run next state inputs)

variable {next : State → Input → State} {coarse : Coarse → Event → Coarse} {coarser : Coarser → Signal → Coarser}
variable {related : Coarse → State → Prop} {above : Coarser → Coarse → Prop}

/-- So each run is. -/
theorem Simulates.run (h : Simulates next coarse related) {upper : Coarse} {state : State}
    (hStart : related upper state) (events : List Event) :
    ∃ inputs, related (run coarse upper events) (run next state inputs) := by
  induction events generalizing upper state with
  | nil => exact ⟨[], hStart⟩
  | cons event events ih =>
      obtain ⟨first, hFirst⟩ := h upper state event hStart
      obtain ⟨rest, hRest⟩ := ih hFirst
      refine ⟨first ++ rest, ?_⟩
      rw [run_append]
      exact hRest

/-- Simulations compose, whatever the system in the middle. -/
theorem Simulates.trans (hLower : Simulates next coarse related) (hUpper : Simulates coarse coarser above) :
    Simulates next coarser fun top state => ∃ middle, above top middle ∧ related middle state := by
  rintro top state signal ⟨middle, hAbove, hRelated⟩
  obtain ⟨events, hEvents⟩ := hUpper top middle signal hAbove
  obtain ⟨inputs, hInputs⟩ := hLower.run hRelated events
  exact ⟨inputs, _, hEvents, hInputs⟩

end Transition

namespace Pool

open Process Transition

variable {Shared Thread Job Choice Error Op Value : Type} {Answer : Op → Type}
variable {begin : Job → Thread} {act : Choice → List Thread → Thread → Shared → Shared × Thread}

/-- Moves of one thread in a row repeat its step beside the others as they are. -/
theorem run_advance {pool : Pool Shared Thread} {index : Nat} {thread : Thread}
    (hThread : pool.threads[index]? = some thread) (choice : Choice) (steps : Nat) :
    run (Pool.next begin act) pool (List.replicate steps (.advance index choice)) =
      { shared := ((fun current : Shared × Thread =>
          act choice (pool.threads.eraseIdx index) current.2 current.1)^[steps] (pool.shared, thread)).1
        threads := pool.threads.set index ((fun current : Shared × Thread =>
          act choice (pool.threads.eraseIdx index) current.2 current.1)^[steps] (pool.shared, thread)).2 } := by
  induction steps generalizing pool thread with
  | zero => exact congrArg (Pool.mk pool.shared) (set_same hThread).symm
  | succ steps ih =>
      have hSet : (pool.threads.set index (act choice (pool.threads.eraseIdx index) thread pool.shared).2)[index]? =
          some (act choice (pool.threads.eraseIdx index) thread pool.shared).2 :=
        List.getElem?_set_self (List.getElem?_eq_some_iff.mp hThread).1
      rw [List.replicate_succ, run_cons, next_advance hThread, ih hSet, List.eraseIdx_set_eq, List.set_set,
        Function.iterate_succ_apply]

/-- A process that is left alone comes to its end. -/
theorem exists_run_process {begin : Job → Process Error Answer Value}
    {perform : Choice → (op : Op) → Shared → Except Error (Answer op) × Shared}
    {pool : Pool Shared (Process Error Answer Value)} {index : Nat} {thread : Process Error Answer Value}
    (hThread : pool.threads[index]? = some thread) (choice : Choice) :
    ∃ steps, run (Pool.next begin (stepProcess perform)) pool (List.replicate steps (.advance index choice)) =
      { shared := (exec (perform choice) thread pool.shared).2
        threads := pool.threads.set index (check (exec (perform choice) thread pool.shared).1) } := by
  have hIterate : ∀ (thread : Process Error Answer Value) (shared : Shared), ∃ steps,
      (fun current : Shared × Process Error Answer Value =>
        stepProcess perform choice (pool.threads.eraseIdx index) current.2 current.1)^[steps] (shared, thread) =
          ((exec (perform choice) thread shared).2, check (exec (perform choice) thread shared).1) := by
    intro thread
    induction thread with
    | ret value => exact fun shared => ⟨0, rfl⟩
    | fail error => exact fun shared => ⟨0, rfl⟩
    | await op next ih =>
        intro shared
        obtain ⟨steps, hSteps⟩ := ih (perform choice op shared).1 (perform choice op shared).2
        refine ⟨steps + 1, ?_⟩
        rw [Function.iterate_succ_apply]
        exact hSteps
  obtain ⟨steps, hSteps⟩ := hIterate thread pool.shared
  refine ⟨steps, ?_⟩
  rw [run_advance hThread, hSteps]

end Pool

namespace ReadCommitted

open Transition

variable {Choice Error State Write Lock Value Job : Type} {Op Statement : Type}
variable {Answer : Op → Type} {Result : Statement → Type} [DecidableEq Lock]

namespace Store

variable {store : Store Choice Error State Write Lock Answer Result}
variable {others : List (Session Error Write Value Answer Result)}

/-- Sessions without writes hold no locks, so that a session beside them is alone. -/
theorem proceed_of_unlocked (hFree : ∀ other ∈ others, other.writes = []) (choice : Choice)
    (session : Session Error Write Value Answer Result) (state : State) :
    store.proceed choice others session state = store.proceed choice [] session state := by
  have hOthers : ∀ writes, ¬ store.Blocked others writes := by
    rintro writes ⟨other, hOther, write, _, hLock⟩
    rw [hFree other hOther] at hLock
    cases hLock
  have hNone : ∀ writes, ¬ store.Blocked ([] : List (Session Error Write Value Answer Result)) writes := by
    rintro writes ⟨other, hOther, _⟩
    cases hOther
  cases session with
  | crashed => rfl
  | outside program => cases program <;> rfl
  | inside body writes next =>
      cases body with
      | ret value => rfl
      | fail error => rfl
      | await statement rest => simp only [proceed, execute, if_neg (hOthers _), if_neg (hNone _)]

/-- Moves of one session in a row, while no other is inside a transaction. -/
theorem run_alone {begin : Job → Session Error Write Value Answer Result}
    {pool : Pool State (Session Error Write Value Answer Result)} {index : Nat}
    {session : Session Error Write Value Answer Result} (hSession : pool.threads[index]? = some session)
    (hFree : ∀ other ∈ pool.threads.eraseIdx index, other.writes = []) (choice : Choice) (steps : Nat) :
    run (Pool.next begin store.step) pool (List.replicate steps (.advance index (.proceed choice))) =
      { shared := ((store.alone choice)^[steps] (pool.shared, session)).1
        threads := pool.threads.set index ((store.alone choice)^[steps] (pool.shared, session)).2 } := by
  have hAlone : (fun current : State × Session Error Write Value Answer Result =>
      store.step (.proceed choice) (pool.threads.eraseIdx index) current.2 current.1) = store.alone choice := by
    funext current
    exact proceed_of_unlocked hFree choice current.2 current.1
  rw [Pool.run_advance hSession, hAlone]

end Store

end ReadCommitted
