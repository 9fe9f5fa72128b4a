import Mathlib.Data.List.Infix

/-! Finite runs of a deterministic transition function. Nondeterminism of the
environment is carried by the inputs, so that one list of inputs is one run.
The rules turn a property of all states of a run into a property of its steps. -/
namespace Transition

variable {State Input : Type}

/-- The state after the given inputs, oldest first. -/
def run (next : State → Input → State) (start : State) (inputs : List Input) : State :=
  inputs.foldl next start

@[simp] theorem run_nil (next : State → Input → State) (start : State) :
    run next start [] = start := rfl

@[simp] theorem run_cons (next : State → Input → State) (start : State)
    (input : Input) (inputs : List Input) :
    run next start (input :: inputs) = run next (next start input) inputs := rfl

theorem run_append (next : State → Input → State) (start : State) (first second : List Input) :
    run next start (first ++ second) = run next (run next start first) second := by
  simp [run]

/-- Inputs that the start ignores leave it alone. -/
theorem run_of_idle {next : State → Input → State} {start : State} {inputs : List Input}
    (hIdle : ∀ input ∈ inputs, next start input = start) : run next start inputs = start := by
  induction inputs with
  | nil => rfl
  | cons input inputs ih =>
      rw [run_cons, hIdle input List.mem_cons_self]
      exact ih fun later hLater => hIdle later (List.mem_cons_of_mem input hLater)

/-- The property holds in every state of the run, the first one included. -/
def Always (next : State → Input → State) (start : State) (inputs : List Input)
    (P : State → Prop) : Prop :=
  ∀ past, past <+: inputs → P (run next start past)

/-- The condition holds of every step of the run, in the state before it. -/
def EveryStep (next : State → Input → State) (start : State) (inputs : List Input)
    (C : State → Input → Prop) : Prop :=
  ∀ past input, past ++ [input] <+: inputs → C (run next start past) input

/-- Once the property holds in a state of the run, it holds in all later ones. -/
def Stable (next : State → Input → State) (start : State) (inputs : List Input)
    (P : State → Prop) : Prop :=
  ∀ past later, past <+: later → later <+: inputs → P (run next start past) → P (run next start later)

variable {next : State → Input → State}

theorem always_nil {start : State} {P : State → Prop} : Always next start [] P ↔ P start := by
  simp [Always]

/-- A property of all states splits at the first step. -/
theorem always_cons {start : State} {input : Input} {inputs : List Input} {P : State → Prop} :
    Always next start (input :: inputs) P ↔ P start ∧ Always next (next start input) inputs P := by
  constructor
  · intro h
    refine ⟨h [] (List.nil_prefix), fun past hPast => ?_⟩
    exact h (input :: past) ((List.prefix_cons_inj input).mpr hPast)
  · rintro ⟨hStart, hRest⟩ past hPast
    cases past with
    | nil => exact hStart
    | cons first past =>
        obtain ⟨rfl, hTail⟩ := List.cons_prefix_cons.mp hPast
        exact hRest past hTail

theorem everyStep_nil {start : State} {C : State → Input → Prop} : EveryStep next start [] C := by
  intro past input h
  simp at h

/-- A condition on all steps splits at the first one. -/
theorem everyStep_cons {start : State} {input : Input} {inputs : List Input}
    {C : State → Input → Prop} :
    EveryStep next start (input :: inputs) C ↔
      C start input ∧ EveryStep next (next start input) inputs C := by
  constructor
  · intro h
    refine ⟨h [] input (by simp), fun past last hPast => ?_⟩
    exact h (input :: past) last ((List.prefix_cons_inj input).mpr hPast)
  · rintro ⟨hFirst, hRest⟩ past last hPast
    cases past with
    | nil =>
        obtain ⟨rfl, _⟩ := List.cons_prefix_cons.mp hPast
        exact hFirst
    | cons first past =>
        obtain ⟨rfl, hTail⟩ := List.cons_prefix_cons.mp hPast
        exact hRest past last hTail

/-- A condition that can be decided of a step can be decided of a run. -/
instance decidableEveryStep {C : State → Input → Prop} [∀ state input, Decidable (C state input)] :
    (start : State) → (inputs : List Input) → Decidable (EveryStep next start inputs C)
  | _, [] => isTrue everyStep_nil
  | start, input :: inputs =>
      have : Decidable (EveryStep next (next start input) inputs C) :=
        decidableEveryStep (C := C) (next start input) inputs
      decidable_of_iff (C start input ∧ EveryStep next (next start input) inputs C) everyStep_cons.symm

/-- An invariant that every allowed step keeps holds in every state of a run
of allowed steps. -/
theorem always_of_everyStep (J : State → Prop) {C : State → Input → Prop}
    (hKeep : ∀ state input, J state → C state input → J (next state input))
    {start : State} {inputs : List Input} (hStart : J start)
    (hSteps : EveryStep next start inputs C) : Always next start inputs J := by
  induction inputs generalizing start with
  | nil => exact always_nil.mpr hStart
  | cons input inputs ih =>
      obtain ⟨hFirst, hRest⟩ := everyStep_cons.mp hSteps
      exact always_cons.mpr ⟨hStart, ih (hKeep start input hStart hFirst) hRest⟩

/-- An invariant that every step keeps holds at the end of every run. -/
theorem run_invariant (J : State → Prop) (hKeep : ∀ state input, J state → J (next state input))
    {start : State} (hStart : J start) (inputs : List Input) : J (run next start inputs) := by
  induction inputs generalizing start with
  | nil => exact hStart
  | cons input inputs ih => exact ih (hKeep start input hStart)

/-- The exact form of the invariant rule, for runs whose steps are all as assumed. Given
the invariant `J`, a step keeps the property `P` only when it is allowed, and an allowed
step keeps `J`. -/
theorem always_iff_everyStep_assuming (J : State → Prop) {P : State → Prop} {A C : State → Input → Prop}
    (hSound : ∀ state, J state → P state)
    (hKeep : ∀ state input, J state → A state input → C state input → J (next state input))
    (hNeed : ∀ state input, J state → A state input → P (next state input) → C state input)
    {start : State} (inputs : List Input) (hStart : J start) (hAssumed : EveryStep next start inputs A) :
    Always next start inputs P ↔ EveryStep next start inputs C := by
  induction inputs generalizing start with
  | nil => exact ⟨fun _ => everyStep_nil, fun _ => always_nil.mpr (hSound start hStart)⟩
  | cons input inputs ih =>
      obtain ⟨hFirst, hLater⟩ := everyStep_cons.mp hAssumed
      rw [always_cons, everyStep_cons]
      constructor
      · rintro ⟨_, hRest⟩
        have hAllowed : C start input :=
          hNeed start input hStart hFirst (hRest [] List.nil_prefix)
        exact ⟨hAllowed, (ih (hKeep start input hStart hFirst hAllowed) hLater).mp hRest⟩
      · rintro ⟨hAllowed, hRest⟩
        exact ⟨hSound start hStart, (ih (hKeep start input hStart hFirst hAllowed) hLater).mpr hRest⟩

theorem always_iff_everyStep (J : State → Prop) {P : State → Prop} {C : State → Input → Prop}
    (hSound : ∀ state, J state → P state)
    (hKeep : ∀ state input, J state → C state input → J (next state input))
    (hNeed : ∀ state input, J state → P (next state input) → C state input)
    {start : State} (inputs : List Input) (hStart : J start) :
    Always next start inputs P ↔ EveryStep next start inputs C :=
  always_iff_everyStep_assuming J (A := fun _ _ => True) hSound (fun state input h _ => hKeep state input h)
    (fun state input h _ => hNeed state input h) inputs hStart fun _ _ _ => trivial

/-- A property is stable along a run exactly when no single step loses it. -/
theorem stable_iff_everyStep {start : State} {inputs : List Input} {P : State → Prop} :
    Stable next start inputs P ↔
      EveryStep next start inputs (fun state input => P state → P (next state input)) := by
  constructor
  · intro h past input hStep hPast
    have hLater := h past (past ++ [input]) (List.prefix_append past [input]) hStep hPast
    simpa [run_append] using hLater
  · intro h past later hPast hLater
    obtain ⟨rest, rfl⟩ := hPast
    induction rest using List.reverseRecOn with
    | nil => simp
    | append_singleton rest input ih =>
        intro hP
        rw [← List.append_assoc] at hLater ⊢
        have hBefore : past ++ rest <+: inputs :=
          (List.prefix_append (past ++ rest) [input]).trans hLater
        rw [run_append]
        exact h (past ++ rest) input hLater (ih hBefore hP)

/-- A family of properties is stable along a run exactly when every step meets
the condition, if that condition says of each reachable state which steps lose
none of them. -/
theorem stable_family_iff {Index : Type} (J : State → Prop) {P : Index → State → Prop}
    {C : State → Input → Prop}
    (hKeep : ∀ state input, J state → J (next state input))
    (hExact : ∀ state input, J state →
      (C state input ↔ ∀ index, P index state → P index (next state input)))
    {start : State} (inputs : List Input) (hStart : J start) :
    (∀ index, Stable next start inputs (P index)) ↔ EveryStep next start inputs C := by
  have hReach (past : List Input) : J (run next start past) := run_invariant J hKeep hStart past
  simp only [stable_iff_everyStep]
  constructor
  · intro h past input hStep
    exact (hExact _ input (hReach past)).mpr fun index => h index past input hStep
  · intro h index past input hStep
    exact (hExact _ input (hReach past)).mp (h past input hStep) index

/-- A run of an extended system projects to a run of the system itself. -/
theorem run_map {Extended : Type} {extended : Extended → Input → Extended} (project : Extended → State)
    (hStep : ∀ state input, project (extended state input) = next (project state) input)
    (start : Extended) (inputs : List Input) :
    project (run extended start inputs) = run next (project start) inputs := by
  induction inputs generalizing start with
  | nil => rfl
  | cons input inputs ih => rw [run_cons, run_cons, ih, hStep]

theorem everyStep_map {Extended : Type} {extended : Extended → Input → Extended}
    (project : Extended → State)
    (hStep : ∀ state input, project (extended state input) = next (project state) input)
    {start : Extended} {inputs : List Input} {C : State → Input → Prop} :
    EveryStep extended start inputs (fun state input => C (project state) input) ↔
      EveryStep next (project start) inputs C := by
  unfold EveryStep
  simp only [run_map project hStep]

end Transition
