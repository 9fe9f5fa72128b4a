import Mathlib.Data.List.Basic
import SpotqPayment.Library.Process

/-! Threads over a shared state that take their steps in any order. A move starts
a thread or lets one take its next step, so that a list of moves is one
interleaving. The invariant rule asks of a step that it keeps the shared
invariant, the assertion of its own thread and those of all the others. -/

structure Pool (Shared Thread : Type) where
  shared : Shared
  threads : List Thread

/-- One move of the scheduler. The choice stands for what the environment
contributes to the step. -/
inductive Move (Job Choice : Type) where
  | start (job : Job)
  | advance (index : Nat) (choice : Choice)

namespace Pool

variable {Shared Thread Job Choice : Type}

/-- The step of a thread may look at the others, for the locks they hold. -/
def next (begin : Job → Thread) (act : Choice → List Thread → Thread → Shared → Shared × Thread)
    (pool : Pool Shared Thread) : Move Job Choice → Pool Shared Thread
  | .start job => { pool with threads := pool.threads ++ [begin job] }
  | .advance index choice =>
      match pool.threads[index]? with
      | none => pool
      | some thread =>
          let result := act choice (pool.threads.eraseIdx index) thread pool.shared
          { shared := result.1, threads := pool.threads.set index result.2 }

variable {begin : Job → Thread} {act : Choice → List Thread → Thread → Shared → Shared × Thread}
variable {pool : Pool Shared Thread} {index : Nat} {choice : Choice} {thread : Thread}

theorem next_start (job : Job) :
    pool.next begin act (.start job) = { pool with threads := pool.threads ++ [begin job] } := rfl

theorem next_advance (hThread : pool.threads[index]? = some thread) :
    pool.next begin act (.advance index choice) =
      { shared := (act choice (pool.threads.eraseIdx index) thread pool.shared).1
        threads := pool.threads.set index
          (act choice (pool.threads.eraseIdx index) thread pool.shared).2 } := by
  simp only [next, hThread]

/-- A move of a thread that does not exist changes nothing. -/
theorem next_missing (hThread : pool.threads[index]? = none) :
    pool.next begin act (.advance index choice) = pool := by
  simp only [next, hThread]

/-- A thread is changed by its own moves only. -/
theorem thread_next (hThread : pool.threads[index]? = some thread) (move : Move Job Choice) :
    (∃ choice, move = .advance index choice ∧
        (pool.next begin act move).shared = (act choice (pool.threads.eraseIdx index) thread pool.shared).1 ∧
          (pool.next begin act move).threads[index]? =
            some (act choice (pool.threads.eraseIdx index) thread pool.shared).2) ∨
      (∀ choice, move ≠ .advance index choice) ∧ (pool.next begin act move).threads[index]? = some thread := by
  obtain ⟨hIndex, _⟩ := List.getElem?_eq_some_iff.mp hThread
  cases move with
  | start job => exact Or.inr ⟨fun _ hMove => (nomatch hMove), (List.getElem?_append_left hIndex).trans hThread⟩
  | advance other choice =>
      by_cases hSame : other = index
      · subst hSame
        rw [next_advance hThread]
        exact Or.inl ⟨choice, rfl, rfl, List.getElem?_set_self hIndex⟩
      · refine Or.inr ⟨fun _ hMove => hSame (Move.advance.inj hMove).1, ?_⟩
        cases hOther : pool.threads[other]? with
        | none =>
            rw [next_missing hOther]
            exact hThread
        | some first =>
            rw [next_advance hOther]
            exact (List.getElem?_set_ne hSame).trans hThread

/-- What holds of the stepped thread and of all others holds of all threads. -/
theorem forall_mem_set {threads : List Thread} {index : Nat} {stepped : Thread} {Q : Thread → Prop}
    (hOthers : ∀ other ∈ threads.eraseIdx index, Q other) (hStepped : Q stepped) :
    ∀ thread ∈ threads.set index stepped, Q thread := by
  induction threads generalizing index with
  | nil => simp
  | cons first rest ih =>
      cases index with
      | zero =>
          intro thread hThread
          rcases List.mem_cons.mp hThread with rfl | hRest
          · exact hStepped
          · exact hOthers thread hRest
      | succ index =>
          intro thread hThread
          rcases List.mem_cons.mp hThread with rfl | hRest
          · exact hOthers thread List.mem_cons_self
          · exact ih (fun other hOther => hOthers other (List.mem_cons_of_mem first hOther)) thread hRest

theorem forall_mem_set_of_all {threads : List Thread} {index : Nat} {stepped : Thread} {Q : Thread → Prop}
    (hAll : ∀ thread ∈ threads, Q thread) (hStepped : Q stepped) : ∀ thread ∈ threads.set index stepped, Q thread :=
  forall_mem_set (fun other hOther => hAll other (List.mem_of_mem_eraseIdx hOther)) hStepped

theorem mem_set_self {threads : List Thread} {index : Nat} {thread stepped : Thread}
    (hThread : threads[index]? = some thread) : stepped ∈ threads.set index stepped := by
  obtain ⟨hIndex, _⟩ := List.getElem?_eq_some_iff.mp hThread
  exact List.mem_of_getElem? (List.getElem?_set_self hIndex)

/-- A thread that does not change. -/
theorem set_same {threads : List Thread} {index : Nat} {thread : Thread} (hThread : threads[index]? = some thread) :
    threads.set index thread = threads := by
  obtain ⟨hIndex, rfl⟩ := List.getElem?_eq_some_iff.mp hThread
  exact List.set_getElem_self hIndex

/-- A thread that is not the stepped one stays. -/
theorem mem_set_of_ne {threads : List Thread} {index : Nat} {thread other stepped : Thread}
    (hThread : threads[index]? = some thread) (hOther : other ∈ threads) (hNe : other ≠ thread) :
    other ∈ threads.set index stepped := by
  obtain ⟨position, hPosition⟩ := List.mem_iff_getElem?.mp hOther
  have hApart : index ≠ position := by
    rintro rfl
    exact hNe (Option.some.inj (hPosition.symm.trans hThread))
  exact List.mem_of_getElem? ((List.getElem?_set_ne hApart).trans hPosition)

/-- A symmetric relation holds between all pairs of threads if it does between all
others and between each of them and the stepped thread. -/
theorem pairwise_set_of_others {threads : List Thread} {index : Nat} {stepped : Thread}
    {R : Thread → Thread → Prop} (hSymm : ∀ first second, R first second → R second first)
    (hOthers : (threads.eraseIdx index).Pairwise R) (hStepped : ∀ other ∈ threads.eraseIdx index, R stepped other) :
    (threads.set index stepped).Pairwise R := by
  induction threads generalizing index with
  | nil => simp
  | cons first rest ih =>
      cases index with
      | zero => exact List.pairwise_cons.mpr ⟨hStepped, hOthers⟩
      | succ index =>
          obtain ⟨hFirst, hRest⟩ := List.pairwise_cons.mp hOthers
          refine List.pairwise_cons.mpr ⟨?_, ih hRest fun other hOther =>
            hStepped other (List.mem_cons_of_mem first hOther)⟩
          exact forall_mem_set hFirst (hSymm stepped first (hStepped first List.mem_cons_self))

/-- The relation survives a step that keeps the stepped thread related to the others. -/
theorem pairwise_set {threads : List Thread} {index : Nat} {stepped : Thread} {R : Thread → Thread → Prop}
    (hSymm : ∀ first second, R first second → R second first) (hThreads : threads.Pairwise R)
    (hStepped : ∀ other ∈ threads.eraseIdx index, R stepped other) :
    (threads.set index stepped).Pairwise R :=
  pairwise_set_of_others hSymm (hThreads.sublist (List.eraseIdx_sublist threads index)) hStepped

/-- The stepped thread is related to all others. -/
theorem related_others {threads : List Thread} {index : Nat} {thread : Thread} {R : Thread → Thread → Prop}
    (hSymm : ∀ first second, R first second → R second first) (hThreads : threads.Pairwise R)
    (hThread : threads[index]? = some thread) : ∀ other ∈ threads.eraseIdx index, R thread other := by
  induction threads generalizing index with
  | nil => simp
  | cons first rest ih =>
      obtain ⟨hFirst, hRest⟩ := List.pairwise_cons.mp hThreads
      cases index with
      | zero =>
          rw [List.getElem?_cons_zero, Option.some.injEq] at hThread
          rw [← hThread]
          exact hFirst
      | succ index =>
          rw [List.getElem?_cons_succ] at hThread
          intro other hOther
          rcases List.mem_cons.mp hOther with rfl | hLater
          · exact hSymm other thread (hFirst thread (List.mem_of_getElem? hThread))
          · exact ih hRest hThread other hLater

/-- The shared state meets `J`, every thread its assertion `Q`, and every two of
them stand in the relation `R`. -/
structure Invariant (J : Shared → Prop) (Q : Shared → Thread → Prop) (R : Thread → Thread → Prop)
    (pool : Pool Shared Thread) : Prop where
  shared : J pool.shared
  each : ∀ thread ∈ pool.threads, Q pool.shared thread
  apart : pool.threads.Pairwise R

variable {J : Shared → Prop} {Q : Shared → Thread → Prop} {R : Thread → Thread → Prop}

theorem Invariant.empty {shared : Shared} (hShared : J shared) :
    Invariant J Q R { shared := shared, threads := [] } :=
  ⟨hShared, fun _ hThread => absurd hThread List.not_mem_nil, List.Pairwise.nil⟩

theorem Invariant.start (h : Invariant J Q R pool) {job : Job} (hSelf : Q pool.shared (begin job))
    (hApart : ∀ thread ∈ pool.threads, R thread (begin job)) :
    Invariant J Q R (pool.next begin act (.start job)) := by
  refine ⟨h.shared, ?_, ?_⟩
  · intro thread hThread
    rcases List.mem_append.mp hThread with hOld | hNew
    · exact h.each thread hOld
    · rw [List.mem_singleton.mp hNew]
      exact hSelf
  · refine List.pairwise_append.mpr ⟨h.apart, List.pairwise_singleton R (begin job), ?_⟩
    intro thread hThread other hOther
    rw [List.mem_singleton.mp hOther]
    exact hApart thread hThread

/-- The rule for a step, with what is known of the stepped thread and the others. -/
theorem Invariant.advance (h : Invariant J Q R pool)
    (hSymm : ∀ first second, R first second → R second first)
    (hStep : ∀ thread others, pool.threads[index]? = some thread → Q pool.shared thread →
      (∀ other ∈ others, Q pool.shared other ∧ R thread other) →
        J (act choice others thread pool.shared).1 ∧
        Q (act choice others thread pool.shared).1 (act choice others thread pool.shared).2 ∧
        ∀ other ∈ others, Q (act choice others thread pool.shared).1 other ∧
          R (act choice others thread pool.shared).2 other) :
    Invariant J Q R (pool.next begin act (.advance index choice)) := by
  cases hThread : pool.threads[index]? with
  | none =>
      rw [next_missing hThread]
      exact h
  | some thread =>
      have hOthers := related_others hSymm h.apart hThread
      obtain ⟨hShared, hSelf, hRest⟩ := hStep thread (pool.threads.eraseIdx index) hThread
        (h.each thread (List.mem_of_getElem? hThread)) fun other hOther =>
          ⟨h.each other (List.mem_of_mem_eraseIdx hOther), hOthers other hOther⟩
      rw [next_advance hThread]
      exact ⟨hShared, forall_mem_set (fun other hOther => (hRest other hOther).1) hSelf,
        pairwise_set hSymm h.apart fun other hOther => (hRest other hOther).2⟩

/-! Processes as threads, whose operations are answered at once. -/
section Processes

variable {Error Op Value : Type} {Answer : Op → Type}
variable {perform : Choice → (op : Op) → Shared → Except Error (Answer op) × Shared}
variable {allowed : Op → Prop} {expected : (op : Op) → Except Error (Answer op) → Prop}

def stepProcess (perform : Choice → (op : Op) → Shared → Except Error (Answer op) × Shared) (choice : Choice)
    (_ : List (Process Error Answer Value)) (thread : Process Error Answer Value) (shared : Shared) :
    Shared × Process Error Answer Value :=
  thread.advance (perform choice) shared

/-- The shared state meets `J` and every thread keeps to its allowed operations. -/
abbrev Respecting (J : Shared → Prop) (allowed : Op → Prop)
    (expected : (op : Op) → Except Error (Answer op) → Prop) :
    Pool Shared (Process Error Answer Value) → Prop :=
  Invariant J (fun _ thread => thread.Respects allowed expected) (fun _ _ => True)

theorem Respecting.start {begin : Job → Process Error Answer Value}
    {pool : Pool Shared (Process Error Answer Value)} {J : Shared → Prop}
    (h : pool.Respecting J allowed expected) {job : Job} (hJob : (begin job).Respects allowed expected) :
    (pool.next begin (stepProcess perform) (.start job)).Respecting J allowed expected :=
  Invariant.start h hJob fun _ _ => trivial

/-- An allowed operation has to keep the shared invariant and give an expected answer. -/
theorem Respecting.advance {begin : Job → Process Error Answer Value}
    {pool : Pool Shared (Process Error Answer Value)} {J : Shared → Prop}
    (h : pool.Respecting J allowed expected)
    (hOp : ∀ thread op, pool.threads[index]? = some thread → thread.awaited = some op → allowed op →
      J (perform choice op pool.shared).2 ∧ expected op (perform choice op pool.shared).1) :
    (pool.next begin (stepProcess perform) (.advance index choice)).Respecting J allowed expected := by
  refine Invariant.advance h (fun _ _ _ => trivial) fun thread others hThread hSelf hOthers => ?_
  have hRest : ∀ other ∈ others, other.Respects allowed expected ∧ True := fun other hOther =>
    hOthers other hOther
  cases thread with
  | ret value => exact ⟨h.shared, trivial, hRest⟩
  | fail error => exact ⟨h.shared, trivial, hRest⟩
  | await op next =>
      obtain ⟨hAllowed, hNext⟩ := hSelf
      obtain ⟨hKept, hAnswer⟩ := hOp _ op hThread rfl hAllowed
      exact ⟨hKept, hNext _ hAnswer, hRest⟩

end Processes

end Pool
