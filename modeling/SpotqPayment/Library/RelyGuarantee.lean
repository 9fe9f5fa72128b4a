import SpotqPayment.Library.ReadCommitted

/-! Rules for transactions that run at the same time. A session may rely on the
guarantee that all commits give, and on the rows that it has locked. What it owes
in return is checked statement by statement, for every state that the others may
have brought about in between. -/
namespace ReadCommitted

open Process Engine

variable {Choice Error State Write Lock Value : Type} {Op Statement : Type}
variable {Answer : Op → Type} {Result : Statement → Type}
variable {store : Store Choice Error State Write Lock Answer Result}

/-- What the clients of a store agree on: the invariant of the committed state,
how it may evolve, what a log may look like at its commit, what an answer says
about the state, and what the value of a program says in the end. -/
structure Contract (store : Store Choice Error State Write Lock Answer Result) (Value : Type) where
  invariant : State → Prop
  guarantee : State → State → Prop
  refl : ∀ state, guarantee state state
  trans : ∀ {first second third}, guarantee first second → guarantee second third → guarantee first third
  logged : State → List Write → Prop
  returns : (op : Op) → State → Answer op → Prop
  result : State → Value → Prop
  stable : ∀ {state later value}, result state value → guarantee state later → result later value

namespace Contract

variable (contract : Contract store Value)

/-- What a transaction with these writes knows of a later committed state. -/
def Rely (writes : List Write) (state later : State) : Prop :=
  contract.guarantee state later ∧
    ∀ write ∈ writes, store.row later (store.lock write) = store.row state (store.lock write)

/-- The rest of a transaction meets the contract, whatever the others do. -/
def Sound {op : Op} : Process Error Result (Answer op) → List Write → State → Prop
  | .ret value, writes, state =>
      ∀ later, contract.Rely writes state later → contract.invariant later →
        contract.logged later writes ∧
          ∀ committed, applyAll store.apply later writes = some committed → contract.returns op committed value
  | .fail _, _, _ => True
  | .await statement rest, writes, state =>
      ∀ choice later view, contract.Rely writes state later → contract.invariant later →
        applyAll store.apply later writes = some view →
          (∀ error, Sound (rest (.error error)) writes later) ∧
            ∀ result new, store.eval choice statement view = .ok (result, new) →
              Sound (rest (.ok result)) (writes ++ new) later

/-- An operation keeps the contract: as a transaction, or at once and without a
change of any row. -/
def Carried (choice : Choice) (op : Op) (state : State) : Prop :=
  match store.carry choice op state with
  | .inl (answer, after) => contract.invariant after ∧ contract.guarantee state after ∧
      (∀ lock, store.row after lock = store.row state lock) ∧
        ∀ value, answer = .ok value → contract.returns op after value
  | .inr body => contract.Sound body [] state

/-- The rest of a program meets the contract. -/
def Follows : Process Error Answer Value → State → Prop
  | .ret value, state => contract.result state value
  | .fail _, _ => True
  | .await op next, state =>
      ∀ later, contract.guarantee state later → contract.invariant later →
        (∀ choice, contract.Carried choice op later) ∧
          (∀ value, contract.returns op later value → Follows (next (.ok value)) later) ∧
            ∀ error, Follows (next (.error error)) later

/-- The program that waits for a transaction can go on with its outcome. -/
def Continues {op : Op} (next : Except Error (Answer op) → Process Error Answer Value) (state : State) : Prop :=
  ∀ later, contract.guarantee state later → contract.invariant later →
    (∀ value, contract.returns op later value → contract.Follows (next (.ok value)) later) ∧
      ∀ error, contract.Follows (next (.error error)) later

def Meets : Session Error Write Value Answer Result → State → Prop
  | .outside program, state => contract.Follows program state
  | .inside body writes next, state => contract.Sound body writes state ∧ contract.Continues next state
  | .crashed, _ => True

variable {contract}

theorem Rely.trans {writes : List Write} {first second third : State}
    (hFirst : contract.Rely writes first second) (hSecond : contract.Rely writes second third) :
    contract.Rely writes first third :=
  ⟨contract.trans hFirst.1 hSecond.1, fun write hWrite =>
    (hSecond.2 write hWrite).trans (hFirst.2 write hWrite)⟩

theorem Sound.later {op : Op} {body : Process Error Result (Answer op)} {writes : List Write}
    {state later : State} (h : contract.Sound body writes state) (hRely : contract.Rely writes state later) :
    contract.Sound body writes later := by
  cases body with
  | ret value => exact fun after hAfter => h after (hRely.trans hAfter)
  | fail error => trivial
  | await statement rest => exact fun choice after view hAfter => h choice after view (hRely.trans hAfter)

theorem Follows.later {program : Process Error Answer Value} {state later : State}
    (h : contract.Follows program state) (hLater : contract.guarantee state later) :
    contract.Follows program later := by
  cases program with
  | ret value => exact contract.stable h hLater
  | fail error => trivial
  | await op next => exact fun after hAfter => h after (contract.trans hLater hAfter)

theorem Meets.later {session : Session Error Write Value Answer Result} {state later : State}
    (h : contract.Meets session state) (hRely : contract.Rely session.writes state later) :
    contract.Meets session later := by
  cases session with
  | outside program => exact Follows.later h hRely.1
  | inside body writes next =>
      exact ⟨h.1.later hRely, fun after hAfter => h.2 after (contract.trans hRely.1 hAfter)⟩
  | crashed => trivial

section Bodies

variable {op : Op} {writes : List Write} {state : State}

/-- A statement of a transaction, after which the rest has to meet the contract. -/
theorem Sound.call_bind {statement : Statement} {next : Result statement → Process Error Result (Answer op)}
    (h : ∀ choice later view, contract.Rely writes state later → contract.invariant later →
      applyAll store.apply later writes = some view → ∀ result new,
        store.eval choice statement view = .ok (result, new) → contract.Sound (next result) (writes ++ new) later) :
    contract.Sound (call statement >>= next) writes state := by
  intro choice later view hRely hInvariant hView
  exact ⟨fun error => trivial, h choice later view hRely hInvariant hView⟩

/-- A statement that only reads. -/
theorem Sound.read_bind {statement : Statement} {next : Result statement → Process Error Result (Answer op)}
    (h : ∀ choice later view, contract.Rely writes state later → contract.invariant later →
      applyAll store.apply later writes = some view → ∃ result,
        store.eval choice statement view = .ok (result, []) ∧ contract.Sound (next result) writes later) :
    contract.Sound (call statement >>= next) writes state := by
  refine Sound.call_bind fun choice later view hRely hInvariant hView result new hEval => ?_
  obtain ⟨read, hRead, hNext⟩ := h choice later view hRely hInvariant hView
  rw [hRead] at hEval
  cases hEval
  rw [List.append_nil]
  exact hNext

end Bodies

section Programs

variable {Final : Type} {state : State}

theorem carried_of_sound {choice : Choice} {op : Op}
    (h : ∃ body, store.carry choice op state = .inr body ∧ contract.Sound body [] state) :
    contract.Carried choice op state := by
  obtain ⟨body, hBody, hSound⟩ := h
  unfold Carried
  rw [hBody]
  exact hSound

theorem carried_at_once {choice : Choice} {op : Op} {answer : Except Error (Answer op)} {after : State}
    (hCarry : store.carry choice op state = .inl (answer, after)) (hInvariant : contract.invariant after)
    (hGuarantee : contract.guarantee state after) (hRows : ∀ lock, store.row after lock = store.row state lock)
    (hReturns : ∀ value, answer = .ok value → contract.returns op after value) :
    contract.Carried choice op state := by
  unfold Carried
  rw [hCarry]
  exact ⟨hInvariant, hGuarantee, hRows, hReturns⟩

/-- An operation whose errors the program handles itself. -/
theorem Follows.attempt_bind {op : Op} {next : Except Error (Answer op) → Process Error Answer Value}
    (hCarried : ∀ choice later, contract.guarantee state later → contract.invariant later →
      contract.Carried choice op later)
    (hNext : ∀ later answer, contract.guarantee state later → contract.invariant later →
      (∀ value, answer = .ok value → contract.returns op later value) → contract.Follows (next answer) later) :
    contract.Follows (attempt op >>= next) state := by
  intro later hLater hInvariant
  refine ⟨fun choice => hCarried choice later hLater hInvariant, fun value hValue => ?_, fun error => ?_⟩
  · refine hNext later (.ok value) hLater hInvariant fun other hOther => ?_
    cases hOther
    exact hValue
  · exact hNext later (.error error) hLater hInvariant fun _ hOther => nomatch hOther

theorem Follows.carried_bind {op : Op} {next : Answer op → Process Error Answer Value}
    (hCarried : ∀ choice later, contract.guarantee state later → contract.invariant later →
      contract.Carried choice op later)
    (hNext : ∀ later answer, contract.guarantee state later → contract.invariant later →
      contract.returns op later answer → contract.Follows (next answer) later) :
    contract.Follows (call op >>= next) state := by
  intro later hLater hInvariant
  refine ⟨fun choice => hCarried choice later hLater hInvariant, fun answer hAnswer => ?_, fun error => trivial⟩
  exact hNext later answer hLater hInvariant hAnswer

/-- An operation of a program, with the transaction behind it. -/
theorem Follows.call_bind {op : Op} {next : Answer op → Process Error Answer Value}
    (hBody : ∀ choice later, contract.guarantee state later → contract.invariant later →
      ∃ body, store.carry choice op later = .inr body ∧ contract.Sound body [] later)
    (hNext : ∀ later answer, contract.guarantee state later → contract.invariant later →
      contract.returns op later answer → contract.Follows (next answer) later) :
    contract.Follows (call op >>= next) state :=
  Follows.carried_bind (fun choice later hLater hInvariant =>
    carried_of_sound (hBody choice later hLater hInvariant)) hNext

/-- A program of one operation. -/
theorem Follows.call {op : Op} {contract : Contract store (Answer op)}
    (hBody : ∀ choice later, contract.guarantee state later → contract.invariant later →
      ∃ body, store.carry choice op later = .inr body ∧ contract.Sound body [] later)
    (hResult : ∀ later answer, contract.guarantee state later → contract.invariant later →
      contract.returns op later answer → contract.result later answer) :
    contract.Follows (call op) state := by
  intro later hLater hInvariant
  refine ⟨fun choice => carried_of_sound (hBody choice later hLater hInvariant), fun answer hAnswer => ?_,
    fun error => trivial⟩
  exact hResult later answer hLater hInvariant hAnswer

theorem Follows.check_bind {result : Except Error Final} {next : Final → Process Error Answer Value}
    (hNext : ∀ value, result = .ok value → contract.Follows (next value) state) :
    contract.Follows (check result >>= next) state := by
  cases result with
  | ok value => exact hNext value rfl
  | error error => trivial

/-- A part of a program meets the contract, and it ends with a value or an error
that the rest of the program can go on with. -/
def Ends {Part : Type} (contract : Contract store Value) (onValue : Part → State → Prop)
    (onError : Error → State → Prop) : Process Error Answer Part → State → Prop
  | .ret value, state => onValue value state
  | .fail error, state => onError error state
  | .await op next, state =>
      ∀ later, contract.guarantee state later → contract.invariant later →
        (∀ choice, contract.Carried choice op later) ∧
          (∀ value, contract.returns op later value → Ends contract onValue onError (next (.ok value)) later) ∧
            ∀ error, Ends contract onValue onError (next (.error error)) later

theorem Follows.of_ends {program : Process Error Answer Value}
    (h : Ends contract (fun value state => contract.result state value) (fun _ _ => True) program state) :
    contract.Follows program state := by
  induction program generalizing state with
  | ret value => exact h
  | fail error => trivial
  | await op next ih =>
      intro later hLater hInvariant
      obtain ⟨hCarried, hOk, hError⟩ := h later hLater hInvariant
      exact ⟨hCarried, fun value hValue => ih _ (hOk value hValue), fun error => ih _ (hError error)⟩

section Parts

variable {Part Next : Type} {onError : Error → State → Prop}

theorem Ends.mono {onValue weaker : Part → State → Prop} {onError weakerError : Error → State → Prop}
    {part : Process Error Answer Part} (h : Ends contract onValue onError part state)
    (hValue : ∀ value later, onValue value later → weaker value later)
    (hError : ∀ error later, onError error later → weakerError error later) :
    Ends contract weaker weakerError part state := by
  induction part generalizing state with
  | ret value => exact hValue value state h
  | fail error => exact hError error state h
  | await op rest ih =>
      intro later hLater hInvariant
      obtain ⟨hCarried, hOk, hFailed⟩ := h later hLater hInvariant
      exact ⟨hCarried, fun value hReturned => ih _ (hOk value hReturned), fun error => ih _ (hFailed error)⟩

/-- The end comes in a state that the guarantee leads to. -/
theorem Ends.since {onValue : Part → State → Prop} {part : Process Error Answer Part} {start : State}
    (h : Ends contract onValue onError part state) (hStart : contract.guarantee start state) :
    Ends contract (fun value later => onValue value later ∧ contract.guarantee start later) onError part state := by
  induction part generalizing state with
  | ret value => exact ⟨h, hStart⟩
  | fail error => exact h
  | await op rest ih =>
      intro later hLater hInvariant
      obtain ⟨hCarried, hOk, hFailed⟩ := h later hLater hInvariant
      have hSince := contract.trans hStart hLater
      exact ⟨hCarried, fun value hReturned => ih _ (hOk value hReturned) hSince,
        fun error => ih _ (hFailed error) hSince⟩

theorem Ends.bind {onValue : Next → State → Prop} {first : Process Error Answer Part}
    {next : Part → Process Error Answer Next}
    (h : Ends contract (fun value later => Ends contract onValue onError (next value) later) onError first state) :
    Ends contract onValue onError (first >>= next) state := by
  induction first generalizing state with
  | ret value => exact h
  | fail error => exact h
  | await op rest ih =>
      intro later hLater hInvariant
      obtain ⟨hCarried, hOk, hError⟩ := h later hLater hInvariant
      exact ⟨hCarried, fun value hValue => ih _ (hOk value hValue), fun error => ih _ (hError error)⟩

theorem Ends.handle {onValue : Part → State → Prop} {body : Process Error Answer Part}
    {handler : Error → Process Error Answer Part}
    (h : Ends contract onValue (fun error later => Ends contract onValue onError (handler error) later) body state) :
    Ends contract onValue onError (body.handle handler) state := by
  induction body generalizing state with
  | ret value => exact h
  | fail error => exact h
  | await op rest ih =>
      intro later hLater hInvariant
      obtain ⟨hCarried, hOk, hError⟩ := h later hLater hInvariant
      exact ⟨hCarried, fun value hValue => ih _ (hOk value hValue), fun error => ih _ (hError error)⟩

/-- The finalizer runs after the value and after the error alike. -/
theorem Ends.tryFinally {onValue : Part → State → Prop} {body : Process Error Answer Part}
    {finalizer : Process Error Answer Unit}
    (h : Ends contract
      (fun value later => Ends contract (fun _ last => onValue value last) onError finalizer later)
      (fun error later => Ends contract (fun _ last => onError error last) onError finalizer later) body state) :
    Ends contract onValue onError (body.tryFinally finalizer) state := by
  refine Ends.bind (Ends.handle (Ends.bind (h.mono (fun value later hValue => ?_) fun error later hError => ?_)))
  · exact Ends.bind hValue
  · exact Ends.bind hError

theorem Ends.call {op : Op} {onValue : Answer op → State → Prop}
    (hCarried : ∀ choice later, contract.guarantee state later → contract.invariant later →
      contract.Carried choice op later)
    (hOk : ∀ later value, contract.guarantee state later → contract.invariant later →
      contract.returns op later value → onValue value later)
    (hError : ∀ later error, contract.guarantee state later → onError error later) :
    Ends contract onValue onError (call op) state := by
  intro later hLater hInvariant
  refine ⟨fun choice => hCarried choice later hLater hInvariant, fun value hValue => ?_, fun error => ?_⟩
  · exact hOk later value hLater hInvariant hValue
  · exact hError later error hLater

/-- A part that is run to its end, with no others around and each operation carried out
at once, keeps the contract. -/
theorem Ends.exec {onValue : Part → State → Prop} {part : Process Error Answer Part}
    {perform : (op : Op) → State → Except Error (Answer op) × State}
    (hPerform : ∀ op state, ∃ choice, store.carry choice op state = .inl (perform op state))
    (h : Ends contract onValue onError part state) (hState : contract.invariant state) :
    contract.invariant (exec perform part state).2 ∧ contract.guarantee state (exec perform part state).2 := by
  induction part generalizing state with
  | ret value => exact ⟨hState, contract.refl state⟩
  | fail error => exact ⟨hState, contract.refl state⟩
  | await op rest ih =>
      obtain ⟨choice, hCarry⟩ := hPerform op state
      have hOp := (h state (contract.refl state) hState).1 choice
      unfold Carried at hOp
      rw [hCarry] at hOp
      obtain ⟨hInvariant, hGuarantee, _, hReturns⟩ := hOp
      obtain ⟨_, hOk, hError⟩ := h (perform op state).2 hGuarantee hInvariant
      rw [exec_await]
      cases hAnswer : (perform op state).1 with
      | ok value =>
          obtain ⟨hEnd, hRest⟩ := ih (.ok value) (hOk value (hReturns value hAnswer)) hInvariant
          exact ⟨hEnd, contract.trans hGuarantee hRest⟩
      | error error =>
          obtain ⟨hEnd, hRest⟩ := ih (.error error) (hError error) hInvariant
          exact ⟨hEnd, contract.trans hGuarantee hRest⟩

end Parts

end Programs

/-- What a step of one session means for everybody. -/
structure Kept (contract : Contract store Value) (others : List (Session Error Write Value Answer Result))
    (session : Session Error Write Value Answer Result) (state : State)
    (outcome : State × Session Error Write Value Answer Result) : Prop where
  invariant : contract.invariant outcome.1
  guarantee : contract.guarantee state outcome.1
  meets : contract.Meets outcome.2 outcome.1
  rows : ∀ lock, lock ∉ store.locks session.writes → store.row outcome.1 lock = store.row state lock
  locks : ∀ lock ∈ store.locks outcome.2.writes,
    lock ∈ store.locks session.writes ∨ ∀ other ∈ others, lock ∉ store.locks other.writes

variable {others : List (Session Error Write Value Answer Result)}
variable {session : Session Error Write Value Answer Result} {state : State}

/-- A step that leaves the state alone and takes no lock. -/
theorem Kept.quiet (hInvariant : contract.invariant state) {after : Session Error Write Value Answer Result}
    (hMeets : contract.Meets after state) (hWrites : after.writes = session.writes ∨ after.writes = []) :
    Kept contract others session state (state, after) where
  invariant := hInvariant
  guarantee := contract.refl state
  meets := hMeets
  rows := fun _ _ => rfl
  locks := by
    intro lock hLock
    rcases hWrites with hSame | hNone
    · exact Or.inl (hSame ▸ hLock)
    · simp only [hNone] at hLock
      cases hLock

theorem Continues.error {op : Op} {next : Except Error (Answer op) → Process Error Answer Value}
    (h : contract.Continues next state) (hInvariant : contract.invariant state) (error : Error) :
    contract.Follows (next (.error error)) state :=
  (h state (contract.refl state) hInvariant).2 error

variable [DecidableEq Lock]

/-- A statement takes the locks of its writes only when nobody holds them. -/
theorem Kept.execute {op : Op} {choice : Choice} {statement : Statement}
    {rest : Except Error (Result statement) → Process Error Result (Answer op)} {writes : List Write}
    {next : Except Error (Answer op) → Process Error Answer Value} {view : State}
    (hInvariant : contract.invariant state)
    (hSound : contract.Sound (.await statement rest) writes state) (hNext : contract.Continues next state)
    (hView : applyAll store.apply state writes = some view) :
    Kept contract others (.inside (.await statement rest) writes next) state
      (state, store.execute choice others statement rest writes next view) := by
  obtain ⟨hError, hOk⟩ := hSound choice state view ⟨contract.refl state, fun _ _ => rfl⟩ hInvariant hView
  unfold Store.execute
  cases hEval : store.eval choice statement view with
  | error error => exact Kept.quiet hInvariant ⟨hError error, hNext⟩ (Or.inl rfl)
  | ok outcome =>
      obtain ⟨result, new⟩ := outcome
      simp only
      split
      · exact Kept.quiet hInvariant ⟨hSound, hNext⟩ (Or.inl rfl)
      · next hFree =>
          split
          · refine ⟨hInvariant, contract.refl state, ⟨hOk result new hEval, hNext⟩, fun _ _ => rfl, ?_⟩
            intro lock hLock
            obtain ⟨write, hWrite, rfl⟩ := List.mem_map.mp hLock
            rcases List.mem_append.mp hWrite with hOld | hNew
            · exact Or.inl (List.mem_map_of_mem hOld)
            · exact Or.inr fun other hOther hHeld => hFree ⟨other, hOther, write, hNew, hHeld⟩
          · exact Kept.quiet hInvariant ⟨hError _, hNext⟩ (Or.inl rfl)

/-- What is owed at a commit: the invariant and the guarantee. -/
def CommitsWell (contract : Contract store Value) (session : Session Error Write Value Answer Result)
    (state : State) : Prop :=
  ∀ writes committed, session.committing = some writes → contract.logged state writes →
    applyAll store.apply state writes = some committed →
      contract.invariant committed ∧ contract.guarantee state committed

theorem Kept.proceed {choice : Choice} (hMeets : contract.Meets session state)
    (hInvariant : contract.invariant state) (hCommit : CommitsWell contract session state) :
    Kept contract others session state (store.proceed choice others session state) := by
  cases session with
  | crashed => exact Kept.quiet hInvariant trivial (Or.inr rfl)
  | outside program =>
      cases program with
      | ret value => exact Kept.quiet hInvariant hMeets (Or.inr rfl)
      | fail error => exact Kept.quiet hInvariant trivial (Or.inr rfl)
      | await op next =>
          have hCarried := (hMeets state (contract.refl state) hInvariant).1 choice
          simp only [Store.proceed]
          unfold Carried at hCarried
          cases hCarry : store.carry choice op state with
          | inl outcome =>
              obtain ⟨answer, after⟩ := outcome
              rw [hCarry] at hCarried
              obtain ⟨hAfter, hGuarantee, hRows, hReturns⟩ := hCarried
              obtain ⟨_, hOk, hError⟩ := hMeets after hGuarantee hAfter
              refine ⟨hAfter, hGuarantee, ?_, fun lock _ => hRows lock, fun lock hLock => absurd hLock List.not_mem_nil⟩
              cases answer with
              | ok value => exact hOk value (hReturns value rfl)
              | error error => exact hError error
          | inr body =>
              rw [hCarry] at hCarried
              refine Kept.quiet hInvariant ⟨hCarried, fun later hLater hLaterInvariant => ?_⟩ (Or.inr rfl)
              exact (hMeets later hLater hLaterInvariant).2
  | @inside op body writes next =>
      obtain ⟨hSound, hNext⟩ := hMeets
      cases body with
      | fail error => exact Kept.quiet hInvariant (hNext.error hInvariant error) (Or.inr rfl)
      | ret value =>
          obtain ⟨hLogged, hReturns⟩ := hSound state ⟨contract.refl state, fun _ _ => rfl⟩ hInvariant
          simp only [Store.proceed]
          cases hApply : applyAll store.apply state writes with
          | none => exact Kept.quiet hInvariant (hNext.error hInvariant _) (Or.inr rfl)
          | some committed =>
              obtain ⟨hKept, hGuarantee⟩ := hCommit writes committed rfl hLogged hApply
              refine ⟨hKept, hGuarantee, ?_, fun lock hLock => Store.row_applyAll hApply hLock,
                fun lock hLock => absurd hLock List.not_mem_nil⟩
              exact (hNext committed hGuarantee hKept).1 value (hReturns committed hApply)
      | await statement rest =>
          simp only [Store.proceed]
          cases hApply : applyAll store.apply state writes with
          | none => exact Kept.quiet hInvariant (hNext.error hInvariant _) (Or.inr rfl)
          | some view => exact Kept.execute hInvariant hSound hNext hApply

/-- A commit whose answer is lost. -/
theorem Kept.unanswered {error : Error} (hMeets : contract.Meets session state)
    (hInvariant : contract.invariant state) (hCommit : CommitsWell contract session state) :
    Kept contract others session state (store.step (.unanswered error) others session state) := by
  cases session with
  | crashed => exact Kept.quiet hInvariant trivial (Or.inr rfl)
  | outside program => exact Kept.quiet hInvariant hMeets (Or.inl rfl)
  | inside body writes next =>
      obtain ⟨hSound, hNext⟩ := hMeets
      cases body with
      | fail failure => exact Kept.quiet hInvariant ⟨hSound, hNext⟩ (Or.inl rfl)
      | await statement rest => exact Kept.quiet hInvariant ⟨hSound, hNext⟩ (Or.inl rfl)
      | ret value =>
          obtain ⟨hLogged, _⟩ := hSound state ⟨contract.refl state, fun _ _ => rfl⟩ hInvariant
          simp only [Store.step]
          cases hApply : applyAll store.apply state writes with
          | none => exact Kept.quiet hInvariant (hNext.error hInvariant _) (Or.inr rfl)
          | some committed =>
              obtain ⟨hKept, hGuarantee⟩ := hCommit writes committed rfl hLogged hApply
              refine ⟨hKept, hGuarantee, ?_, fun lock hLock => Store.row_applyAll hApply hLock,
                fun lock hLock => absurd hLock List.not_mem_nil⟩
              exact (hNext committed hGuarantee hKept).2 error

/-- A session that meets the contract keeps it in every step. -/
theorem Kept.step {event : Event Choice Error} (hMeets : contract.Meets session state)
    (hInvariant : contract.invariant state)
    (hCommit : event.Commits → CommitsWell contract session state) :
    Kept contract others session state (store.step event others session state) := by
  cases event with
  | proceed choice => exact Kept.proceed hMeets hInvariant (hCommit trivial)
  | unanswered error => exact Kept.unanswered hMeets hInvariant (hCommit trivial)
  | abort error =>
      cases session with
      | inside body writes next =>
          exact Kept.quiet hInvariant (hMeets.2.error hInvariant error) (Or.inr rfl)
      | outside program => exact Kept.quiet hInvariant hMeets (Or.inl rfl)
      | crashed => exact Kept.quiet hInvariant hMeets (Or.inl rfl)
  | crash =>
      cases session with
      | inside body writes next => exact Kept.quiet hInvariant trivial (Or.inr rfl)
      | outside program =>
          cases program with
          | await op next => exact Kept.quiet hInvariant trivial (Or.inr rfl)
          | ret value => exact Kept.quiet hInvariant hMeets (Or.inl rfl)
          | fail error => exact Kept.quiet hInvariant hMeets (Or.inl rfl)
      | crashed => exact Kept.quiet hInvariant hMeets (Or.inl rfl)

/-- The invariant holds, all sessions meet the contract, and no row is locked twice. -/
abbrev Holds (contract : Contract store Value) : Pool State (Session Error Write Value Answer Result) → Prop :=
  Pool.Invariant contract.invariant (fun state session => contract.Meets session state)
    fun first second => (store.locks first.writes).Disjoint (store.locks second.writes)

variable {Job : Type} {begin : Job → Session Error Write Value Answer Result}
variable {pool : Pool State (Session Error Write Value Answer Result)}

/-- The step that commits a log leaves the state with its writes. -/
theorem shared_of_commit {index : Nat} {event : Event Choice Error} (hEvent : event.Commits) {writes : List Write}
    {committed : State}
    (hWrites : (pool.threads[index]?).bind Session.committing = some writes)
    (hApply : applyAll store.apply pool.shared writes = some committed) :
    (pool.next begin store.step (.advance index event)).shared = committed := by
  obtain ⟨session, hSession, hCommitting⟩ := Option.bind_eq_some_iff.mp hWrites
  rw [Pool.next_advance hSession]
  cases session with
  | outside program => cases hCommitting
  | crashed => cases hCommitting
  | inside body log next =>
      cases body with
      | ret value =>
          cases hCommitting
          cases event with
          | proceed choice => simp only [Store.step, Store.proceed, hApply]
          | unanswered error => simp only [Store.step, hApply, Option.getD_some]
          | abort error => exact hEvent.elim
          | crash => exact hEvent.elim
      | fail error => cases hCommitting
      | await statement rest => cases hCommitting

omit [DecidableEq Lock] in
/-- What a session is about to commit is a log of the contract. -/
theorem Holds.logged (h : Holds contract pool) {index : Nat} {writes : List Write}
    (hWrites : (pool.threads[index]?).bind Session.committing = some writes) :
    contract.logged pool.shared writes := by
  obtain ⟨session, hSession, hCommitting⟩ := Option.bind_eq_some_iff.mp hWrites
  have hMeets := h.each session (List.mem_of_getElem? hSession)
  cases session with
  | outside program => cases hCommitting
  | crashed => cases hCommitting
  | inside body log next =>
      cases body with
      | ret value =>
          cases hCommitting
          exact (hMeets.1 pool.shared ⟨contract.refl _, fun _ _ => rfl⟩ h.shared).1
      | fail error => cases hCommitting
      | await statement rest => cases hCommitting

omit [DecidableEq Lock] in
/-- What a program has returned meets the contract. -/
theorem Holds.result (h : Holds contract pool) {session : Session Error Write Value Answer Result}
    (hSession : session ∈ pool.threads) {value : Value} (hValue : session.returned = some value) :
    contract.result pool.shared value := by
  have hMeets := h.each session hSession
  cases session with
  | outside program =>
      cases program with
      | ret result =>
          cases hValue
          exact hMeets
      | fail error => cases hValue
      | await op next => cases hValue
  | inside body writes next => cases hValue
  | crashed => cases hValue

theorem Holds.start (h : Holds contract pool) {job : Job} (hJob : contract.Meets (begin job) pool.shared)
    (hWrites : (begin job).writes = []) : Holds contract (pool.next begin store.step (.start job)) := by
  refine Pool.Invariant.start h hJob fun session _ => ?_
  rw [hWrites]
  exact List.disjoint_nil_right _

theorem Holds.advance (h : Holds contract pool) {index : Nat} {event : Event Choice Error}
    (hCommit : ∀ session, pool.threads[index]? = some session → event.Commits →
      CommitsWell contract session pool.shared) :
    Holds contract (pool.next begin store.step (.advance index event)) := by
  refine Pool.Invariant.advance h (fun _ _ => List.disjoint_symm) fun session others hSession hMeets hOthers => ?_
  have hKept : Kept contract others session pool.shared (store.step event others session pool.shared) :=
    Kept.step hMeets h.shared (hCommit session hSession)
  refine ⟨hKept.invariant, hKept.meets, fun other hOther => ⟨?_, ?_⟩⟩
  · obtain ⟨hOtherMeets, hDisjoint⟩ := hOthers other hOther
    refine hOtherMeets.later ⟨hKept.guarantee, fun write hWrite => ?_⟩
    exact hKept.rows _ fun hHeld => hDisjoint hHeld (List.mem_map_of_mem hWrite)
  · intro lock hLock hOtherLock
    rcases hKept.locks lock hLock with hHeld | hFree
    · exact (hOthers other hOther).2 hHeld hOtherLock
    · exact hFree other hOther hOtherLock

omit [DecidableEq Lock] in
/-- Others than the sessions may change the state too, as long as they give the
same guarantee and leave the locked rows alone. -/
theorem Holds.interfere (h : Holds contract pool) {after : State} (hInvariant : contract.invariant after)
    (hGuarantee : contract.guarantee pool.shared after)
    (hRows : ∀ session ∈ pool.threads, ∀ write ∈ session.writes,
      store.row after (store.lock write) = store.row pool.shared (store.lock write)) :
    Holds contract { pool with shared := after } where
  shared := hInvariant
  each := fun session hSession => (h.each session hSession).later ⟨hGuarantee, hRows session hSession⟩
  apart := h.apart

end Contract
end ReadCommitted
