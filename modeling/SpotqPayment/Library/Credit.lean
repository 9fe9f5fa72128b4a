import Mathlib.Algebra.BigOperators.Group.List.Basic
import Mathlib.Algebra.Order.Monoid.Canonical.Defs
import Mathlib.Data.List.Forall2
import SpotqPayment.Library.Pool

/-! Accounts of threads that run at the same time. Some operations earn credit, others
cost it, and a thread pays only with what its own operations have earned before. Then
as much has been earned as has been spent, in every interleaving. Credit is counted in
any ordered monoid: numbers of coins, or multisets of things. -/
namespace Pool

variable {Thread Credit : Type} [AddCommMonoid Credit] [PartialOrder Credit]
variable {Q : Credit → Thread → Credit → Prop} {threads : List Thread} {spent earned : Credit}

/-- What has been spent and what the threads have left has been earned. The assertion
`Q` of a thread with its credit may depend on what all have spent. -/
def Solvent (Q : Credit → Thread → Credit → Prop) (threads : List Thread) (spent earned : Credit) : Prop :=
  ∃ credits, List.Forall₂ (Q spent) threads credits ∧ spent + credits.sum ≤ earned

theorem Solvent.empty (Q : Credit → Thread → Credit → Prop) : Solvent Q [] 0 0 :=
  ⟨[], .nil, (add_zero 0).le⟩

theorem Solvent.covered [CanonicallyOrderedAdd Credit] (h : Solvent Q threads spent earned) : spent ≤ earned := by
  obtain ⟨credits, _, hSum⟩ := h
  exact le_self_add.trans hSum

theorem Solvent.credit (h : Solvent Q threads spent earned) {index : Nat} {thread : Thread}
    (hThread : threads[index]? = some thread) : ∃ credit, Q spent thread credit := by
  obtain ⟨credits, hAll, _⟩ := h
  obtain ⟨hIndex, rfl⟩ := List.getElem?_eq_some_iff.mp hThread
  exact ⟨_, List.Forall₂.get hAll hIndex (hAll.length_eq ▸ hIndex)⟩

/-- A new thread has no credit. -/
theorem Solvent.start (h : Solvent Q threads spent earned) {thread : Thread} (hThread : Q spent thread 0) :
    Solvent Q (threads ++ [thread]) spent earned := by
  obtain ⟨credits, hAll, hSum⟩ := h
  refine ⟨credits ++ [0], List.rel_append hAll (.cons hThread .nil), ?_⟩
  simpa using hSum

variable [IsOrderedAddMonoid Credit]

/-- One thread is changed, and the others keep their credit. -/
theorem forall₂_set {R S : Thread → Credit → Prop} {credits : List Credit} (h : List.Forall₂ R threads credits)
    (hOthers : ∀ thread credit, R thread credit → S thread credit) {index : Nat} {thread stepped : Thread}
    (hThread : threads[index]? = some thread) {gain cost : Credit}
    (hStep : ∀ credit, R thread credit → ∃ left, S stepped left ∧ left + cost ≤ credit + gain) :
    ∃ left, List.Forall₂ S (threads.set index stepped) left ∧ left.sum + cost ≤ credits.sum + gain := by
  induction h generalizing index with
  | nil => cases hThread
  | cons hFirst hRest ih =>
      cases index with
      | zero =>
          cases hThread
          obtain ⟨left, hLeft, hSum⟩ := hStep _ hFirst
          refine ⟨left :: _, .cons hLeft (hRest.imp hOthers), ?_⟩
          rw [List.sum_cons, List.sum_cons, add_right_comm, add_right_comm _ _ gain]
          exact add_le_add_left hSum _
      | succ index =>
          obtain ⟨left, hLeft, hSum⟩ := ih hThread
          refine ⟨_ :: left, .cons (hOthers _ _ hFirst) hLeft, ?_⟩
          rw [List.sum_cons, List.sum_cons, add_assoc, add_assoc]
          exact add_le_add_right hSum _

/-- A step of one thread that earns and spends no more than it accounts for. -/
theorem Solvent.advance (h : Solvent Q threads spent earned) {gain cost : Credit}
    (hOthers : ∀ thread credit, Q spent thread credit → Q (spent + cost) thread credit)
    {index : Nat} {thread stepped : Thread} (hThread : threads[index]? = some thread)
    (hStep : ∀ credit, Q spent thread credit → ∃ left, Q (spent + cost) stepped left ∧ left + cost ≤ credit + gain) :
    Solvent Q (threads.set index stepped) (spent + cost) (earned + gain) := by
  obtain ⟨credits, hAll, hSum⟩ := h
  obtain ⟨left, hLeft, hLess⟩ := forall₂_set hAll hOthers hThread hStep
  refine ⟨left, hLeft, ?_⟩
  calc spent + cost + left.sum
      = spent + (left.sum + cost) := by rw [add_assoc, add_comm cost]
    _ ≤ spent + (credits.sum + gain) := add_le_add_right hLess spent
    _ = spent + credits.sum + gain := (add_assoc _ _ _).symm
    _ ≤ earned + gain := add_le_add_left hSum gain

/-- A step of one thread that earns and spends nothing. -/
theorem Solvent.keep (h : Solvent Q threads spent earned) {index : Nat} {thread stepped : Thread}
    (hThread : threads[index]? = some thread) (hStep : ∀ credit, Q spent thread credit → Q spent stepped credit) :
    Solvent Q (threads.set index stepped) spent earned := by
  have hNext : Solvent Q (threads.set index stepped) (spent + 0) (earned + 0) := by
    refine h.advance (fun _ _ hOther => (add_zero spent).symm ▸ hOther) hThread fun credit hCredit => ⟨credit, ?_, le_rfl⟩
    rw [add_zero]
    exact hStep credit hCredit
  rwa [add_zero, add_zero] at hNext

end Pool

namespace Process

variable {Error Op Value Result Credit : Type} {Answer : Op → Type}

/-- What operations cost and earn. When an operation is allowed, and what its answers
say, may depend on how much has been spent so far. -/
structure Tariff (Credit Error : Type) {Op : Type} (Answer : Op → Type) where
  cost : Op → Credit
  gain : (op : Op) → Except Error (Answer op) → Credit
  allowed : Credit → Op → Prop
  expected : Credit → (op : Op) → Except Error (Answer op) → Prop

variable [Add Credit] [Sub Credit] [Preorder Credit]

/-- The process can pay for its operations, whatever the others spend meanwhile, and
it ends with enough left. -/
def Pays (tariff : Tariff Credit Error Answer) (onValue : Value → Credit → Prop) (onError : Error → Credit → Prop) :
    Process Error Answer Value → Credit → Credit → Prop
  | .ret value, credit, _ => onValue value credit
  | .fail error, credit, _ => onError error credit
  | .await op next, credit, spent => tariff.cost op ≤ credit ∧ ∀ later, spent ≤ later → tariff.allowed later op ∧
      ∀ answer, tariff.expected later op answer →
        Pays tariff onValue onError (next answer) (credit - tariff.cost op + tariff.gain op answer)
          (later + tariff.cost op)

namespace Pays

variable {tariff : Tariff Credit Error Answer} {onValue : Value → Credit → Prop} {onError : Error → Credit → Prop}
variable {credit spent : Credit}

theorem later {p : Process Error Answer Value} (h : Pays tariff onValue onError p credit spent) {last : Credit}
    (hLast : spent ≤ last) : Pays tariff onValue onError p credit last := by
  cases p with
  | ret value => exact h
  | fail error => exact h
  | await op next => exact ⟨h.1, fun later hLater => h.2 later (hLast.trans hLater)⟩

theorem bind {first : Process Error Answer Result} {next : Result → Process Error Answer Value}
    (h : Pays tariff (fun value left => ∀ later, Pays tariff onValue onError (next value) left later) onError
      first credit spent) : Pays tariff onValue onError (first >>= next) credit spent := by
  induction first generalizing credit spent with
  | ret value => exact h spent
  | fail error => exact h
  | await op rest ih =>
      refine ⟨h.1, fun later hLater => ?_⟩
      obtain ⟨hAllowed, hNext⟩ := h.2 later hLater
      exact ⟨hAllowed, fun answer hAnswer => ih answer (hNext answer hAnswer)⟩

theorem handle {body : Process Error Answer Value} {handler : Error → Process Error Answer Value}
    (h : Pays tariff onValue (fun error left => ∀ later, Pays tariff onValue onError (handler error) left later)
      body credit spent) : Pays tariff onValue onError (body.handle handler) credit spent := by
  induction body generalizing credit spent with
  | ret value => exact h
  | fail error => exact h spent
  | await op rest ih =>
      refine ⟨h.1, fun later hLater => ?_⟩
      obtain ⟨hAllowed, hNext⟩ := h.2 later hLater
      exact ⟨hAllowed, fun answer hAnswer => ih answer (hNext answer hAnswer)⟩

theorem mono {p : Process Error Answer Value} {weaker : Value → Credit → Prop} {weakerError : Error → Credit → Prop}
    (h : Pays tariff onValue onError p credit spent) (hValue : ∀ value left, onValue value left → weaker value left)
    (hError : ∀ error left, onError error left → weakerError error left) :
    Pays tariff weaker weakerError p credit spent := by
  induction p generalizing credit spent with
  | ret value => exact hValue value credit h
  | fail error => exact hError error credit h
  | await op next ih =>
      refine ⟨h.1, fun later hLater => ?_⟩
      obtain ⟨hAllowed, hNext⟩ := h.2 later hLater
      exact ⟨hAllowed, fun answer hAnswer => ih answer (hNext answer hAnswer)⟩

theorem tryFinally {body : Process Error Answer Value} {finalizer : Process Error Answer Unit}
    (h : Pays tariff
      (fun value left => ∀ later, Pays tariff (fun _ last => onValue value last) onError finalizer left later)
      (fun error left => ∀ later, Pays tariff (fun _ last => onError error last) onError finalizer left later)
      body credit spent) : Pays tariff onValue onError (body.tryFinally finalizer) credit spent := by
  refine bind (handle (bind (h.mono (fun value left hValue later => ?_) fun error left hError later => ?_)))
  · exact fun last => bind ((hValue last).mono (fun _ _ hLeft _ => hLeft) fun _ _ hLeft => hLeft)
  · exact fun last => bind ((hError last).mono (fun _ _ hLeft _ => hLeft) fun _ _ hLeft => hLeft)

/-- An operation whose answer the rest goes on with. -/
theorem call_bind {op : Op} {next : Answer op → Process Error Answer Value} (hCost : tariff.cost op ≤ credit)
    (hAllowed : ∀ later, spent ≤ later → tariff.allowed later op)
    (hNext : ∀ later, spent ≤ later → ∀ value, tariff.expected later op (.ok value) →
      Pays tariff onValue onError (next value) (credit - tariff.cost op + tariff.gain op (.ok value))
        (later + tariff.cost op))
    (hError : ∀ error, onError error (credit - tariff.cost op + tariff.gain op (.error error))) :
    Pays tariff onValue onError (call op >>= next) credit spent := by
  refine ⟨hCost, fun later hLater => ⟨hAllowed later hLater, fun answer hAnswer => ?_⟩⟩
  cases answer with
  | ok value => exact hNext later hLater value hAnswer
  | error error => exact hError error

/-- One operation, and what is left after its answer. -/
theorem call {op : Op} {onValue : Answer op → Credit → Prop} (hCost : tariff.cost op ≤ credit)
    (hAllowed : ∀ later, spent ≤ later → tariff.allowed later op)
    (hValue : ∀ value, onValue value (credit - tariff.cost op + tariff.gain op (.ok value)))
    (hError : ∀ error, onError error (credit - tariff.cost op + tariff.gain op (.error error))) :
    Pays tariff onValue onError (call op) credit spent := by
  refine ⟨hCost, fun later hLater => ⟨hAllowed later hLater, fun answer _ => ?_⟩⟩
  cases answer with
  | ok value => exact hValue value
  | error error => exact hError error

end Pays

end Process
