import SpotqPayment.Library.Simulation
import SpotqPayment.System.Concurrent
import SpotqPayment.System.Deployment

/-! Three views of the running service: calls completed one after another, calls
interleaved at their awaits, and the statements of all transactions under READ COMMITTED.
Each of them simulates the one before, so that what a coarse view can reach the
deployment can reach too. -/
namespace SpotqPayment

open Process Transition ReadCommitted

variable {config : Config} {kind : Call → Prop}

/-- Calls completed one after another, with their results. -/
structure Served where
  world : World
  results : List (Except ServiceError Reply)

def Served.next (config : Config) (served : Served) (request : RequestOf kind) : Served where
  world := serve config served.world request.1
  results := served.results ++ [(request.1.result config served.world).1]

/-- All calls have ended with their results. -/
def Completed (served : Served) (calls : Calls) : Prop :=
  calls = { shared := served.world, threads := served.results.map check }

/-- No session is inside a transaction. -/
def Outside (calls : Calls) (sessions : Sessions) : Prop :=
  sessions = { shared := calls.shared, threads := calls.threads.map .outside }

def SameSessions (sessions : Sessions) (deployment : Deployment) : Prop := deployment.sessions = sessions

theorem perform_turn (env : Env) : Turn.perform { env := env, databaseFails := false } = Port.perform env := by
  funext port world
  cases port <;> rfl

/-- A completed call is started and takes all its steps in a row. -/
theorem interleave_simulates_serve :
    Simulates (@interleave config kind) (@Served.next kind config) Completed := by
  rintro served calls request rfl
  have hThread : (served.results.map check ++ [request.1.call.process config request.1.env])[served.results.length]? =
      some (request.1.call.process config request.1.env) := by
    rw [List.getElem?_append_right (by rw [List.length_map]), List.length_map, Nat.sub_self]
    rfl
  have hEnd : ∃ steps, run (@interleave config kind)
      { shared := served.world, threads := served.results.map check ++ [request.1.call.process config request.1.env] }
      (List.replicate steps (.advance served.results.length { env := request.1.env, databaseFails := false })) = _ :=
    Pool.exists_run_process hThread _
  obtain ⟨steps, hSteps⟩ := hEnd
  refine ⟨.start request :: List.replicate steps (.advance served.results.length ⟨request.1.env, false⟩),
    hSteps.trans ?_⟩
  rw [perform_turn]
  congr 1
  rw [List.set_append_right _ _ (by rw [List.length_map]), List.length_map, Nat.sub_self, Served.next, List.map_append]
  rfl

theorem outside_unlocked {threads : List (UseCase Reply)} (index : Nat) :
    ∀ other ∈ (threads.map (.outside : UseCase Reply → ServiceSession)).eraseIdx index, other.writes = [] := by
  intro other hOther
  obtain ⟨program, _, rfl⟩ := List.mem_map.mp (List.mem_of_mem_eraseIdx hOther)
  rfl

/-- What a call does at one await, its session does in a number of steps. -/
theorem exists_steps (turn : Turn) (op : Port) (next : Except ServiceError op.Answer → UseCase Reply)
    {calls : Calls} {index : Nat} (hThread : calls.threads[index]? = some (.await op next)) :
    ∃ moves, run (@isolate config kind) { shared := calls.shared, threads := calls.threads.map .outside } moves =
      { shared := (turn.perform op calls.shared).2
        threads := (calls.threads.map .outside).set index (.outside (next (turn.perform op calls.shared).1)) } := by
  have hSession : (calls.threads.map (.outside : UseCase Reply → ServiceSession))[index]? =
      some (.outside (.await op next)) := by
    rw [List.getElem?_map, hThread]
    rfl
  have hAlone : ∀ steps, run (@isolate config kind)
      { shared := calls.shared, threads := calls.threads.map .outside }
      (List.replicate steps (.advance index (.proceed turn.env))) = _ :=
    Store.run_alone hSession (outside_unlocked index) turn.env
  cases op with
  | createOrder amountInPaise currency =>
      refine ⟨_, (hAlone 1).trans ?_⟩
      rfl
  | createRefund paymentId amountInPaise =>
      refine ⟨_, (hAlone 1).trans ?_⟩
      rfl
  | repository request =>
      by_cases hFails : turn.databaseFails = true
      · -- The transaction is begun and then ended by the database.
        refine ⟨[.advance index (.proceed turn.env), .advance index (.abort .databaseFailure)], ?_⟩
        let inside : ServiceSession :=
          @Session.inside _ _ _ _ _ _ _ (.repository request) (request.body turn.env) [] next
        let begun : Sessions :=
          { shared := calls.shared, threads := (calls.threads.map .outside).set index inside }
        have hInside : begun.threads[index]? = some inside :=
          List.getElem?_set_self (List.getElem?_eq_some_iff.mp hSession).1
        have hBegin : @isolate config kind { shared := calls.shared, threads := calls.threads.map .outside }
            (.advance index (.proceed turn.env)) = begun := hAlone 1
        rw [run_cons, run_cons, run_nil, hBegin, isolate, Pool.next_advance hInside, List.set_set]
        simp only [Turn.perform, hFails, if_true]
        rfl
      · obtain ⟨steps, hSteps⟩ := @repository_alone turn.env request calls.shared next
        refine ⟨_, (hAlone steps).trans ?_⟩
        rw [hSteps]
        simp only [Turn.perform, hFails, Bool.false_eq_true, if_false]

/-- Interleaved calls are sessions whose transactions do not overlap. -/
theorem isolate_simulates_interleave :
    Simulates (@isolate config kind) (@interleave config kind) Outside := by
  rintro calls sessions move rfl
  cases move with
  | start request =>
      refine ⟨[.start request], ?_⟩
      show Pool.mk _ _ = Pool.mk _ _
      rw [interleave, Pool.next_start, List.map_append]
      rfl
  | advance index turn =>
      unfold interleave
      cases hThread : calls.threads[index]? with
      | none =>
          rw [Pool.next_missing hThread]
          exact ⟨[], rfl⟩
      | some thread =>
          rw [Pool.next_advance hThread]
          cases thread with
          | ret value => exact ⟨[], congrArg (Pool.mk calls.shared) (congrArg _ (Pool.set_same hThread)).symm⟩
          | fail error => exact ⟨[], congrArg (Pool.mk calls.shared) (congrArg _ (Pool.set_same hThread)).symm⟩
          | await op next =>
              obtain ⟨moves, hMoves⟩ := exists_steps turn op next hThread
              refine ⟨moves, hMoves.trans ?_⟩
              rw [List.map_set]
              rfl

theorem deployment_simulates_isolate :
    Simulates (@Deployment.next config kind) (@isolate config kind) SameSessions := by
  rintro sessions deployment move rfl
  exact ⟨[.service move], rfl⟩

/-- Whatever calls reach when they are completed one after another, or when they are
interleaved at their awaits while the database may fail each transaction, the deployment
reaches too, with the same tables, the same requests at the gateway and the same answers. -/
theorem atomic_runs_deployed (config : Config) (kind : Call → Prop) (world : World) :
    (∀ requests : List (RequestOf kind), ∃ moves : List (DeploymentMove kind),
      let served := run (Served.next config) { world, results := [] } requests
      (run (Deployment.next config) world.deployed moves).sessions =
        { shared := served.world, threads := served.results.map fun result => .outside (check result) }) ∧
      ∀ steps : List (Move (RequestOf kind) Turn), ∃ moves : List (DeploymentMove kind),
        let calls := run (interleave config) world.idle steps
        (run (Deployment.next config) world.deployed moves).sessions =
          { shared := calls.shared, threads := calls.threads.map .outside } := by
  have hInterleaved := deployment_simulates_isolate.trans (@isolate_simulates_interleave config kind)
  constructor
  · intro requests
    have hServed := hInterleaved.trans (@interleave_simulates_serve config kind)
    obtain ⟨moves, calls, hCompleted, sessions, hOutside, hSessions⟩ :=
      hServed.run (show ∃ calls, Completed ⟨world, []⟩ calls ∧ ∃ sessions, Outside calls sessions ∧
        SameSessions sessions world.deployed from ⟨world.idle, rfl, world.quiet, rfl, rfl⟩) requests
    refine ⟨moves, hSessions.trans (hOutside.trans ?_)⟩
    rw [hCompleted, List.map_map]
    rfl
  · intro steps
    obtain ⟨moves, sessions, hOutside, hSessions⟩ :=
      hInterleaved.run (show ∃ sessions, Outside world.idle sessions ∧ SameSessions sessions world.deployed from
        ⟨world.quiet, rfl, rfl⟩) steps
    exact ⟨moves, hSessions.trans hOutside⟩

end SpotqPayment
