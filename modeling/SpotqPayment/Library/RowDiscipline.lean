import SpotqPayment.Library.RelyGuarantee

/-! Rules for the single rows of a store. A discipline says which versions a row may
have and which version may follow another. When every statement writes only what the
discipline allows of the rows that it sees, all transactions together keep it, however
they are interleaved. -/
namespace ReadCommitted

open Process Engine

variable {Choice Error State Write Lock Value : Type} {Op Statement : Type}
variable {Answer : Op → Type} {Result : Statement → Type}

/-- The proper versions of rows, and how one version succeeds another. A write is
itself the version that it leaves behind. What a version refers to may be other rows,
which have to be there for good. The steady part of the state is what nothing changes. -/
structure Discipline (store : Store Choice Error State Write Lock Answer Result) where
  steady : State → Prop
  proper : State → Write → Prop
  succeeds : Write → Write → Prop
  refl : ∀ version, succeeds version version
  trans : ∀ {newest newer old}, succeeds newest newer → succeeds newer old → succeeds newest old
  own : ∀ {state after write}, store.apply state write = some after → store.row after (store.lock write) = some write
  steady_apply : ∀ {state after write}, store.apply state write = some after → steady state → steady after
  steady_carry : ∀ {choice op state answer after}, store.carry choice op state = .inl (answer, after) →
    steady state → steady after
  lasts : ∀ {state later version}, (∀ lock old, store.row state lock = some old → ∃ newer,
    store.row later lock = some newer ∧ succeeds newer old) → proper state version → proper later version

namespace Discipline

variable {store : Store Choice Error State Write Lock Answer Result} (discipline : Discipline store)

/-- All stored versions are proper. -/
structure Kept (state : State) : Prop where
  steady : discipline.steady state
  proper : ∀ lock version, store.row state lock = some version → discipline.proper state version

/-- Every row is still there, in a version that succeeds the earlier one. -/
def Follows (state later : State) : Prop :=
  ∀ lock old, store.row state lock = some old → ∃ version, store.row later lock = some version ∧
    discipline.succeeds version old

/-- The writes succeed the stored versions. -/
def Succeeding (state : State) (writes : List Write) : Prop :=
  ∀ write ∈ writes, ∀ old, store.row state (store.lock write) = some old → discipline.succeeds write old

/-- They are proper as well, whenever they come to be applied. -/
structure Logged (state : State) (writes : List Write) : Prop where
  succeeding : discipline.Succeeding state writes
  proper : ∀ later view, discipline.Follows state later →
    (∀ write ∈ writes, store.row later (store.lock write) = store.row state (store.lock write)) →
      applyAll store.apply later writes = some view → ∀ write ∈ writes, discipline.proper view write

/-- The statement may be executed on every state that keeps the discipline. -/
def Allows (state : State) (statement : Statement) : Prop :=
  ∀ choice result writes, discipline.Kept state →
    store.eval choice statement state = .ok (result, writes) → discipline.Logged state writes

variable {discipline} {state after view newer : State} {writes new : List Write}

theorem Follows.refl (state : State) : discipline.Follows state state := fun _ old hOld => ⟨old, hOld, discipline.refl old⟩

theorem Follows.trans {first second third : State} (hFirst : discipline.Follows first second)
    (hSecond : discipline.Follows second third) : discipline.Follows first third := by
  intro lock old hOld
  obtain ⟨middle, hMiddle, hSucceeds⟩ := hFirst lock old hOld
  obtain ⟨last, hLast, hLater⟩ := hSecond lock middle hMiddle
  exact ⟨last, hLast, discipline.trans hLater hSucceeds⟩

/-- The discipline as a contract, with a property of the answers. -/
def contract (discipline : Discipline store) (Value : Type) (returns : (op : Op) → State → Answer op → Prop) : Contract store Value where
  invariant := discipline.Kept
  guarantee := discipline.Follows
  refl := Follows.refl
  trans := Follows.trans
  logged := discipline.Logged
  returns := returns
  result := fun _ _ => True
  stable := fun _ _ => trivial

/-- States with the same rows are as good as each other. -/
theorem follows_of_rows (h : ∀ lock, store.row after lock = store.row state lock) : discipline.Follows state after :=
  fun lock old hOld => ⟨old, (h lock).trans hOld, discipline.refl old⟩

theorem kept_of_rows (hKept : discipline.Kept state) (hSteady : discipline.steady after)
    (h : ∀ lock, store.row after lock = store.row state lock) : discipline.Kept after where
  steady := hSteady
  proper := fun lock version hVersion =>
    discipline.lasts (follows_of_rows h) (hKept.proper lock version ((h lock).symm.trans hVersion))

theorem logged_nil : discipline.Logged state [] :=
  ⟨fun _ hWrite => absurd hWrite List.not_mem_nil, fun _ _ _ _ _ _ hWrite => absurd hWrite List.not_mem_nil⟩

section Writes

variable [DecidableEq Lock]

/-- A row after some writes is as before, or one of the writes. -/
theorem row_cases (discipline : Discipline store) (h : applyAll store.apply state writes = some view)
    (lock : Lock) : store.row view lock = store.row state lock ∨
      ∃ write ∈ writes, store.lock write = lock ∧ store.row view lock = some write := by
  induction writes generalizing state with
  | nil =>
      cases h
      exact Or.inl rfl
  | cons write writes ih =>
      obtain ⟨middle, hWrite, hRest⟩ := Option.bind_eq_some_iff.mp h
      rcases ih hRest with hSame | ⟨last, hLast, hLock, hRow⟩
      · by_cases hOwn : lock = store.lock write
        · refine Or.inr ⟨write, List.mem_cons_self, hOwn.symm, ?_⟩
          rw [hSame, hOwn]
          exact discipline.own hWrite
        · exact Or.inl (hSame.trans (store.frame hWrite lock hOwn))
      · exact Or.inr ⟨last, List.mem_cons_of_mem write hLast, hLock, hRow⟩

omit [DecidableEq Lock] in
theorem steady_applyAll (h : applyAll store.apply state writes = some view) (hSteady : discipline.steady state) :
    discipline.steady view := by
  induction writes generalizing state with
  | nil =>
      cases h
      exact hSteady
  | cons write writes ih =>
      obtain ⟨middle, hWrite, hRest⟩ := Option.bind_eq_some_iff.mp h
      exact ih hRest (discipline.steady_apply hWrite hSteady)

/-- The same writes on two states leave the rows in the relation that they were in. -/
theorem replayed_row {R : Option Write → Option Write → Prop} (discipline : Discipline store) {lock : Lock}
    (hRefl : ∀ write, R (some write) (some write)) (h : R (store.row state lock) (store.row after lock))
    (hView : applyAll store.apply state writes = some view) (hNewer : applyAll store.apply after writes = some newer) :
    R (store.row view lock) (store.row newer lock) := by
  induction writes generalizing state after with
  | nil =>
      cases hView
      cases hNewer
      exact h
  | cons write writes ih =>
      obtain ⟨middle, hWrite, hRest⟩ := Option.bind_eq_some_iff.mp hView
      obtain ⟨other, hOther, hOtherRest⟩ := Option.bind_eq_some_iff.mp hNewer
      refine ih ?_ hRest hOtherRest
      by_cases hOwn : lock = store.lock write
      · subst hOwn
        rw [discipline.own hWrite, discipline.own hOther]
        exact hRefl write
      · rw [store.frame hWrite lock hOwn, store.frame hOther lock hOwn]
        exact h

theorem Follows.replayed (h : discipline.Follows state after) (hView : applyAll store.apply state writes = some view)
    (hNewer : applyAll store.apply after writes = some newer) : discipline.Follows view newer := by
  intro lock
  exact replayed_row (R := fun row other => ∀ old, row = some old → ∃ version, other = some version ∧
    discipline.succeeds version old) discipline (fun write old hOld => ⟨write, rfl, Option.some.inj hOld ▸ discipline.refl _⟩)
      (h lock) hView hNewer

theorem Succeeding.follows (h : discipline.Succeeding state writes) (hView : applyAll store.apply state writes = some view) :
    discipline.Follows state view := by
  intro lock old hOld
  rcases row_cases discipline hView lock with hSame | ⟨write, hWrite, rfl, hRow⟩
  · exact ⟨old, hSame.trans hOld, discipline.refl old⟩
  · exact ⟨write, hRow, h write hWrite old hOld⟩

omit [DecidableEq Lock] in
theorem Succeeding.later (h : discipline.Succeeding state writes)
    (hRows : ∀ write ∈ writes, store.row after (store.lock write) = store.row state (store.lock write)) :
    discipline.Succeeding after writes :=
  fun write hWrite old hOld => h write hWrite old ((hRows write hWrite).symm.trans hOld)

/-- Writes that succeed the stored versions, and are proper from now on. -/
theorem Logged.of_each (h : ∀ write ∈ writes, (∀ view, discipline.Follows state view → discipline.proper view write) ∧
    ∀ old, store.row state (store.lock write) = some old → discipline.succeeds write old) :
    discipline.Logged state writes := by
  have hSucceeding : discipline.Succeeding state writes := fun write hWrite => (h write hWrite).2
  refine ⟨hSucceeding, fun later view hLater hRows hView write hWrite => (h write hWrite).1 view ?_⟩
  exact hLater.trans ((hSucceeding.later hRows).follows hView)

theorem Logged.follows (h : discipline.Logged state writes) (hView : applyAll store.apply state writes = some view) :
    discipline.Follows state view := h.succeeding.follows hView

theorem Logged.kept (h : discipline.Logged state writes) (hKept : discipline.Kept state)
    (hView : applyAll store.apply state writes = some view) : discipline.Kept view where
  steady := steady_applyAll hView hKept.steady
  proper := by
    intro lock version hVersion
    rcases row_cases discipline hView lock with hSame | ⟨write, hWrite, _, hRow⟩
    · exact discipline.lasts (h.follows hView) (hKept.proper lock version (hSame.symm.trans hVersion))
    · have hSame : write = version := Option.some.inj (hRow.symm.trans hVersion)
      exact hSame ▸ h.proper state view (Follows.refl state) (fun _ _ => rfl) hView write hWrite

omit [DecidableEq Lock] in
/-- Rows behind the locks of a transaction do not change under it. -/
theorem Logged.later (h : discipline.Logged state writes) (hAfter : discipline.Follows state after)
    (hRows : ∀ write ∈ writes, store.row after (store.lock write) = store.row state (store.lock write)) :
    discipline.Logged after writes where
  succeeding := h.succeeding.later hRows
  proper := fun last view hLast hSame hView =>
    h.proper last view (hAfter.trans hLast) (fun write hWrite => (hSame write hWrite).trans (hRows write hWrite)) hView

/-- What is logged against the view of a transaction is logged against the committed state. -/
theorem Logged.append (h : discipline.Logged state writes) (hView : applyAll store.apply state writes = some view)
    (hNew : discipline.Logged view new) : discipline.Logged state (writes ++ new) := by
  refine ⟨fun write hWrite old hOld => ?_, fun later last hLater hRows hLast write hWrite => ?_⟩
  · rcases List.mem_append.mp hWrite with hOldWrite | hNewWrite
    · exact h.succeeding write hOldWrite old hOld
    · obtain ⟨middle, hMiddle, hSucceeds⟩ := h.follows hView (store.lock write) old hOld
      exact discipline.trans (hNew.succeeding write hNewWrite middle hMiddle) hSucceeds
  · rw [applyAll_append] at hLast
    obtain ⟨before, hBefore, hRest⟩ := Option.bind_eq_some_iff.mp hLast
    have hReplayed := hLater.replayed hView hBefore
    have hSame : ∀ write ∈ new, store.row before (store.lock write) = store.row view (store.lock write) :=
      fun write hNewWrite => (replayed_row discipline (fun _ => rfl)
        (hRows write (List.mem_append_right _ hNewWrite)).symm hView hBefore).symm
    rcases List.mem_append.mp hWrite with hOldWrite | hNewWrite
    · have hProper := h.proper later before hLater (fun write hMem => hRows write (List.mem_append_left _ hMem)) hBefore
      exact discipline.lasts ((hNew.succeeding.later hSame).follows hRest) (hProper write hOldWrite)
    · exact hNew.proper before last hReplayed hSame hRest write hNewWrite

end Writes

section Bodies

variable [DecidableEq Lock] {returns : (op : Op) → State → Answer op → Prop} {op : Op} {Final Part : Type}
variable {onValue : Final → State → Prop}

/-- The rest of a transaction obeys the discipline, from what it sees now on: its
statements write what the discipline allows of the rows that they see, and what it ends
with lasts. -/
def Obeys (discipline : Discipline store) (onValue : Final → State → Prop) :
    Process Error Result Final → State → Prop
  | .ret value, view => ∀ last, discipline.Follows view last → onValue value last
  | .fail _, _ => True
  | .await statement rest, view =>
      ∀ choice later, discipline.Follows view later → discipline.Kept later →
        (∀ error, Obeys discipline onValue (rest (.error error)) later) ∧
          ∀ result new, store.eval choice statement later = .ok (result, new) → discipline.Logged later new ∧
            ∀ before last, discipline.Follows later before →
              (∀ write ∈ new, store.row before (store.lock write) = store.row later (store.lock write)) →
                applyAll store.apply before new = some last → Obeys discipline onValue (rest (.ok result)) last

omit [DecidableEq Lock] in
theorem Obeys.later {body : Process Error Result Final} (h : discipline.Obeys onValue body view)
    (hAfter : discipline.Follows view after) : discipline.Obeys onValue body after := by
  cases body with
  | ret value => exact fun last hLast => h last (hAfter.trans hLast)
  | fail error => trivial
  | await statement rest => exact fun choice last hLast => h choice last (hAfter.trans hLast)

omit [DecidableEq Lock] in
/-- A statement, and the rest with the rows that it has written. -/
theorem Obeys.call_bind {statement : Statement} {next : Result statement → Process Error Result Final}
    (h : ∀ choice later result new, discipline.Follows view later → discipline.Kept later →
      store.eval choice statement later = .ok (result, new) → discipline.Logged later new ∧
        ∀ before last, discipline.Follows later before →
          (∀ write ∈ new, store.row before (store.lock write) = store.row later (store.lock write)) →
            applyAll store.apply before new = some last → discipline.Obeys onValue (next result) last) :
    discipline.Obeys onValue (call statement >>= next) view :=
  fun choice later hLater hKept => ⟨fun _ => trivial, fun result new => h choice later result new hLater hKept⟩

omit [DecidableEq Lock] in
/-- A body of one statement. -/
theorem Obeys.call {statement : Statement} {onValue : Result statement → State → Prop}
    (h : ∀ choice later result new, discipline.Follows view later → discipline.Kept later →
      store.eval choice statement later = .ok (result, new) → discipline.Logged later new ∧
        ∀ before last, discipline.Follows later before → applyAll store.apply before new = some last →
          ∀ final, discipline.Follows last final → onValue result final) :
    discipline.Obeys onValue (call statement) view := by
  refine fun choice later hLater hKept => ⟨fun _ => trivial, fun result new hEval => ?_⟩
  obtain ⟨hLogged, hValue⟩ := h choice later result new hLater hKept hEval
  exact ⟨hLogged, fun before last hBefore _ hLast => hValue before last hBefore hLast⟩

omit [DecidableEq Lock] in
theorem Obeys.bind {first : Process Error Result Part} {next : Part → Process Error Result Final}
    (h : discipline.Obeys (fun value last => discipline.Obeys onValue (next value) last) first view) :
    discipline.Obeys onValue (first >>= next) view := by
  induction first generalizing view with
  | ret value => exact h view (Follows.refl view)
  | fail error => trivial
  | await statement rest ih =>
      intro choice later hLater hKept
      obtain ⟨hError, hOk⟩ := h choice later hLater hKept
      refine ⟨fun error => ih _ (hError error), fun result new hEval => ?_⟩
      obtain ⟨hLogged, hRest⟩ := hOk result new hEval
      exact ⟨hLogged, fun before last hBefore hSame hLast => ih _ (hRest before last hBefore hSame hLast)⟩

/-- A transaction that obeys the discipline keeps the contract, whatever the others do. -/
theorem Obeys.sound {body : Process Error Result (Answer op)}
    (h : ∀ later view, (discipline.contract Value returns).Rely writes state later → discipline.Kept later →
      applyAll store.apply later writes = some view → discipline.Obeys (fun value last => returns op last value) body view)
    (hLogged : discipline.Logged state writes) : (discipline.contract Value returns).Sound body writes state := by
  induction body generalizing state writes with
  | ret value =>
      intro later hRely hKept
      refine ⟨hLogged.later hRely.1 hRely.2, fun committed hCommitted => ?_⟩
      exact h later committed hRely hKept hCommitted committed (Follows.refl committed)
  | fail error => trivial
  | await statement rest ih =>
      intro choice later view hRely hKept hView
      have hLater := hLogged.later hRely.1 hRely.2
      have hObeys := h later view hRely hKept hView
      refine ⟨fun error => ih _ (fun last newer hLast hLastKept hNewer => ?_) hLater, fun result new hEval => ?_⟩
      · have hFollows := hLast.1.replayed hView hNewer
        exact (hObeys choice newer hFollows ((hLater.later hLast.1 hLast.2).kept hLastKept hNewer)).1 error
      · obtain ⟨hNew, hRest⟩ := (hObeys choice view (Follows.refl view) (hLater.kept hKept hView)).2 result new hEval
        refine ih _ (fun last newer hLast _ hNewer => ?_) (hLater.append hView hNew)
        rw [applyAll_append] at hNewer
        obtain ⟨before, hBefore, hApply⟩ := Option.bind_eq_some_iff.mp hNewer
        refine hRest before newer (hLast.1.replayed hView hBefore) (fun write hWrite => ?_) hApply
        exact (replayed_row discipline (fun _ => rfl) (hLast.2 write (List.mem_append_right _ hWrite)).symm hView
          hBefore).symm

/-- The statement may be executed from now on. -/
def Permits (discipline : Discipline store) (state : State) (statement : Statement) : Prop :=
  ∀ after, discipline.Follows state after → discipline.Allows after statement

omit [DecidableEq Lock] in
theorem Permits.later {statement : Statement} (h : discipline.Permits state statement)
    (hAfter : discipline.Follows state after) : discipline.Permits after statement :=
  fun last hLast => h last (hAfter.trans hLast)

/-- A body of permitted statements, whatever it reads. -/
theorem obeys_of_permitted {body : Process Error Result Final}
    (h : body.Respects (discipline.Permits view) fun _ _ => True)
    (hValue : ∀ value last, discipline.Follows view last → onValue value last) : discipline.Obeys onValue body view := by
  induction body generalizing view with
  | ret value => exact hValue value
  | fail error => trivial
  | await statement rest ih =>
      intro choice later hLater hKept
      have hRest : ∀ answer after, discipline.Follows view after →
          (rest answer).Respects (discipline.Permits after) fun _ _ => True := fun answer after hAfter =>
        (h.2 answer trivial).mono fun _ hPermitted => hPermitted.later hAfter
      refine ⟨fun error => ih _ (hRest _ later hLater) fun value last hLast => hValue value last (hLater.trans hLast),
        fun result new hEval => ?_⟩
      have hLogged := h.1 later hLater choice result new hKept hEval
      refine ⟨hLogged, fun before last hBefore hSame hApply => ?_⟩
      have hLast := (hLater.trans hBefore).trans ((hLogged.succeeding.later hSame).follows hApply)
      exact ih _ (hRest _ last hLast) fun value final hFinal => hValue value final (hLast.trans hFinal)

/-- A body of permitted statements keeps the contract. -/
theorem sound_of_permitted {body : Process Error Result (Answer op)}
    (hBody : body.Respects (discipline.Permits state) fun _ _ => True)
    (hReturns : ∀ state value, returns op state value) : (discipline.contract Value returns).Sound body [] state := by
  refine Obeys.sound (fun later view hRely _ hView => ?_) logged_nil
  cases hView
  exact obeys_of_permitted (hBody.mono fun _ hPermitted => hPermitted.later hRely.1)
    fun value last _ => hReturns last value

/-- A body of one statement that writes nothing. What its answer says has to last
until the commit. -/
theorem sound_read {statement : Statement} {rest : Except Error (Result statement) → Process Error Result (Answer op)}
    (hReads : ∀ choice state result new, store.eval choice statement state = .ok (result, new) → new = [])
    (hOk : ∀ result, ∃ value, rest (.ok result) = .ret value ∧ ∀ choice state, discipline.Kept state →
      store.eval choice statement state = .ok (result, []) → ∀ after, discipline.Follows state after →
        returns op after value)
    (hError : ∀ error, ∃ failure, rest (.error error) = .fail failure) :
    (discipline.contract Value returns).Sound (.await statement rest) [] state := by
  refine Obeys.sound (fun _ view _ _ hView choice later hLater hKept => ?_) logged_nil
  refine ⟨fun error => ?_, fun result new hEval => ?_⟩
  · obtain ⟨failure, hFailure⟩ := hError error
    rw [hFailure]
    trivial
  · obtain ⟨value, hValue, hReturns⟩ := hOk result
    obtain rfl := hReads choice later result new hEval
    refine ⟨logged_nil, fun before last hBefore _ hLast => ?_⟩
    cases hLast
    rw [hValue]
    exact fun after hAfter => hReturns choice later hKept hEval after (hBefore.trans hAfter)

end Bodies

section Pools

variable [DecidableEq Lock] {returns : (op : Op) → State → Answer op → Prop}
variable {Job : Type} {begin : Job → Session Error Write Value Answer Result}
variable {pool : Pool State (Session Error Write Value Answer Result)}

theorem commitsWell (session : Session Error Write Value Answer Result) (hKept : discipline.Kept state) :
    Contract.CommitsWell (discipline.contract Value returns) session state := by
  intro writes committed _ hLogged hApply
  exact ⟨Logged.kept hLogged hKept hApply, Logged.follows hLogged hApply⟩

/-- One step of one session leads to versions that succeed the former ones. -/
theorem follows_advance (h : (discipline.contract Value returns).Holds pool) {index : Nat} {event : Event Choice Error}
    (hCarried : ∀ choice op answer after, store.carry choice op pool.shared = .inl (answer, after) →
      ∀ lock, store.row after lock = store.row pool.shared lock) :
    discipline.Follows pool.shared (pool.next begin store.step (.advance index event)).shared := by
  cases hSession : pool.threads[index]? with
  | none =>
      rw [Pool.next_missing hSession]
      exact Follows.refl pool.shared
  | some session =>
      rw [Pool.next_advance hSession]
      rcases store.step_cases event (pool.threads.eraseIdx index) session pool.shared with
        hSame | ⟨choice, op, answer, after, _, _, hCarry, hAfter⟩ | ⟨writes, committed, hWrites, hApply, hAfter⟩
      · rw [hSame]
        exact Follows.refl pool.shared
      · rw [hAfter]
        exact follows_of_rows (hCarried choice op answer after hCarry)
      · rw [hAfter]
        have hLogged : discipline.Logged pool.shared writes := Contract.Holds.logged h
          (by rw [hSession]; exact hWrites : (pool.threads[index]?).bind Session.committing = some writes)
        exact hLogged.follows hApply

end Pools

end Discipline
end ReadCommitted
