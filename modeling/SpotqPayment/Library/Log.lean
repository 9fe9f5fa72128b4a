import Mathlib.Data.List.Basic

/-! Logs that grow at their end, and conditions on each entry in view of the entries
before it. -/
namespace Log

variable {Entry : Type}

/-- The condition holds of every entry and what stands before it. -/
def Throughout (condition : List Entry → Entry → Prop) (log : List Entry) : Prop :=
  ∀ before entry after, log = before ++ entry :: after → condition before entry

variable {condition other : List Entry → Entry → Prop} {first second log : List Entry}

theorem Throughout.imp (h : Throughout condition log)
    (hImp : ∀ before, ∀ entry ∈ log, condition before entry → other before entry) : Throughout other log := by
  intro before entry after hLog
  refine hImp before entry ?_ (h before entry after hLog)
  rw [hLog]
  exact List.mem_append_right before List.mem_cons_self

theorem throughout_of_forall (h : ∀ before, ∀ entry ∈ log, condition before entry) : Throughout condition log := by
  intro before entry after hLog
  refine h before entry ?_
  rw [hLog]
  exact List.mem_append_right before List.mem_cons_self

/-- A log in two parts, where the first part stands before each entry of the second. -/
theorem throughout_append : Throughout condition (first ++ second) ↔
    Throughout condition first ∧ Throughout (fun before => condition (first ++ before)) second := by
  constructor
  · intro h
    refine ⟨fun before entry after hFirst => ?_, fun before entry after hSecond => ?_⟩
    · refine h before entry (after ++ second) ?_
      rw [hFirst, List.append_assoc, List.cons_append]
    · refine h (first ++ before) entry after ?_
      rw [hSecond, List.append_assoc]
  · rintro ⟨hFirst, hSecond⟩ before entry after hLog
    rcases List.append_eq_append_iff.mp hLog with ⟨middle, rfl, hRest⟩ | ⟨middle, rfl, hRest⟩
    · exact hSecond middle entry after hRest
    · cases middle with
      | nil =>
          have hEntry := hSecond [] entry after hRest.symm
          rw [List.append_nil, List.append_nil] at hEntry
          exact hEntry
      | cons head tail =>
          obtain ⟨hHead, _⟩ := List.cons_eq_cons.mp hRest
          rw [hHead]
          exact hFirst before head tail rfl

end Log
