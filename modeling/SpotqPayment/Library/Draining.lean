import Mathlib.Algebra.Order.BigOperators.Group.Finset
import Mathlib.Algebra.BigOperators.Group.Finset.Piecewise
import SpotqPayment.Library.Run

/-! Jobs that are served in rounds. Every job has a number of attempts left and is
open as long as it has one. A round has room for so many jobs; which of the open
jobs it serves is up to the environment, and so is how many attempts a served job
loses, as long as it loses one. -/
namespace Draining

open Transition

variable {Job : Type} (jobs : Finset Job)

/-- The jobs that still have an attempt left. -/
def openJobs (left : Job → Nat) : Finset Job := jobs.filter fun job => 0 < left job

/-- A round that serves these jobs: all that are open, or as many as it has room for. -/
structure Round (capacity : Nat) (served : Finset Job) (left after : Job → Nat) : Prop where
  opened : served ⊆ openJobs jobs left
  full_or_all : capacity ≤ served.card ∨ openJobs jobs left ⊆ served
  spends : ∀ job ∈ served, after job < left job
  keeps : ∀ job ∈ jobs, job ∉ served → after job = left job

variable {jobs} {capacity room attempts : Nat} {served : Finset Job}

section Round

variable {left after : Job → Nat}

theorem openJobs_eq_empty : openJobs jobs left = ∅ ↔ ∀ job ∈ jobs, left job = 0 := by
  simp [openJobs, Finset.filter_eq_empty_iff]

/-- No job gains an attempt. -/
theorem Round.le (h : Round jobs capacity served left after) {job : Job} (hJob : job ∈ jobs) :
    after job ≤ left job := by
  by_cases hServed : job ∈ served
  · exact (h.spends job hServed).le
  · exact (h.keeps job hJob hServed).le

/-- A round costs at least one attempt for each job that it serves. -/
theorem Round.sum_add_card_le (h : Round jobs capacity served left after) :
    ∑ job ∈ jobs, after job + served.card ≤ ∑ job ∈ jobs, left job := by
  classical
  have hServed : served ⊆ jobs := h.opened.trans (Finset.filter_subset _ _)
  have hCard : served.card = ∑ job ∈ jobs, if job ∈ served then 1 else 0 := by
    rw [← Finset.card_filter, Finset.filter_mem_eq_inter, Finset.inter_eq_right.mpr hServed]
  rw [hCard, ← Finset.sum_add_distrib]
  refine Finset.sum_le_sum fun job hJob => ?_
  split
  · next hIn => exact h.spends job hIn
  · next hOut => exact (h.keeps job hJob hOut).le

/-- A round that serves every open job takes one attempt from each of them. -/
theorem Round.bound_of_all (h : Round jobs capacity served left after) (hAll : openJobs jobs left ⊆ served)
    (hBound : ∀ job ∈ jobs, left job ≤ attempts + 1) : ∀ job ∈ jobs, after job ≤ attempts := by
  intro job hJob
  by_cases hOpen : 0 < left job
  · have hSpent := h.spends job (hAll (Finset.mem_filter.mpr ⟨hJob, hOpen⟩))
    have hLeft := hBound job hJob
    omega
  · have hAfter := h.le hJob
    omega

end Round

section Run

variable {State Input : Type} {next : State → Input → State} {left : State → Job → Nat}
variable {J : State → Prop} {C : State → Input → Prop} {start : State} {inputs : List Input}

/-- Every allowed step is a round, and keeps the invariant. -/
def Rounds (jobs : Finset Job) (capacity : Nat) (next : State → Input → State) (left : State → Job → Nat)
    (J : State → Prop) (C : State → Input → Prop) : Prop :=
  ∀ state input, J state → C state input → J (next state input) ∧
    ∃ served, Round jobs capacity served (left state) (left (next state input))

/-- Each round either takes up room, which the attempts of all jobs together allow
only so often, or lowers the bound on the attempts of each job. -/
theorem drained_of_bounds (hCapacity : 0 < capacity) (hRounds : Rounds jobs capacity next left J C) (hStart : J start)
    (hSteps : EveryStep next start inputs C) (hRoom : ∑ job ∈ jobs, left start job < capacity * (room + 1))
    (hBound : ∀ job ∈ jobs, left start job ≤ attempts) (hEnough : room + attempts ≤ inputs.length) :
    openJobs jobs (left (run next start inputs)) = ∅ := by
  induction inputs generalizing start room attempts with
  | nil =>
      refine openJobs_eq_empty.mpr fun job hJob => ?_
      have hLeft := hBound job hJob
      rw [List.length_nil] at hEnough
      show left start job = 0
      omega
  | cons input inputs ih =>
      obtain ⟨hFirst, hLater⟩ := everyStep_cons.mp hSteps
      obtain ⟨hKeep, served, hRound⟩ := hRounds start input hStart hFirst
      have hSum := hRound.sum_add_card_le
      have hSame : ∀ job ∈ jobs, left (next start input) job ≤ attempts := fun job hJob =>
        (hRound.le hJob).trans (hBound job hJob)
      rw [List.length_cons] at hEnough
      rw [run_cons]
      cases attempts with
      | zero =>
          have hZero : ∑ job ∈ jobs, left start job = 0 :=
            Finset.sum_eq_zero fun job hJob => Nat.le_zero.mp (hBound job hJob)
          exact @ih 0 0 (next start input) hKeep hLater (by omega) hSame (Nat.zero_le _)
      | succ attempts =>
          rcases hRound.full_or_all with hFull | hAll
          · cases room with
            | zero => omega
            | succ room =>
                rw [Nat.mul_succ] at hRoom
                exact @ih room (attempts + 1) (next start input) hKeep hLater (by omega) hSame (by omega)
          · have hLower := hRound.bound_of_all hAll hBound
            exact @ih room attempts (next start input) hKeep hLater (by omega) hLower (by omega)

/-- After enough rounds no job is open, whichever jobs the rounds have served. -/
theorem drained (hCapacity : 0 < capacity) (hRounds : Rounds jobs capacity next left J C) (hStart : J start)
    (hSteps : EveryStep next start inputs C) (hBound : ∀ job ∈ jobs, left start job ≤ attempts)
    (hEnough : attempts * jobs.card / capacity + attempts ≤ inputs.length) :
    openJobs jobs (left (run next start inputs)) = ∅ := by
  refine drained_of_bounds hCapacity hRounds hStart hSteps ?_ hBound hEnough
  have hSum : ∑ job ∈ jobs, left start job ≤ jobs.card * attempts := by
    simpa using Finset.sum_le_card_nsmul jobs (left start) attempts hBound
  rw [Nat.mul_comm] at hSum
  exact hSum.trans_lt (Nat.lt_mul_div_succ _ hCapacity)

end Run

end Draining
