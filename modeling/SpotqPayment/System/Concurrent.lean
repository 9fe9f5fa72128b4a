import SpotqPayment.Library.Pool
import SpotqPayment.Library.Run
import SpotqPayment.System.Service

/-! Calls of the service that run at the same time. Every await is a point where
the others may go on; a repository call and a remote call take place at once. -/
namespace SpotqPayment

open Process

/-- What the environment contributes to one step: its values, and whether the
database fails the transaction, which then leaves nothing behind. -/
structure Turn where
  env : Env
  databaseFails : Bool

def Turn.perform (turn : Turn) : (port : Port) → World → Except ServiceError port.Answer × World
  | .repository request, world =>
      if turn.databaseFails then (.error .databaseFailure, world)
      else Port.perform turn.env (.repository request) world
  | .createOrder amountInPaise currency, world =>
      Port.perform turn.env (.createOrder amountInPaise currency) world
  | .createRefund paymentId amountInPaise, world =>
      Port.perform turn.env (.createRefund paymentId amountInPaise) world

abbrev Calls := Pool World (UseCase Reply)

/-- A new call or the next step of a running one. -/
def interleave (config : Config) {kind : Call → Prop} (calls : Calls) (move : Move (RequestOf kind) Turn) :
    Calls :=
  calls.next (fun request => request.1.call.process config request.1.env) (Pool.stepProcess Turn.perform) move

/-- The state in which the first call arrives. -/
def World.idle (world : World) : Calls := { shared := world, threads := [] }

variable {config : Config} {kind : Call → Prop} {calls : Calls}

/-- A step executes what its call awaits; a call that has ended leaves the world alone. -/
theorem interleave_advance_shared (index : Nat) (turn : Turn) :
    (interleave config calls (.advance index turn : Move (RequestOf kind) Turn)).shared =
      match (calls.threads[index]?).bind Process.awaited with
      | none => calls.shared
      | some op => (turn.perform op calls.shared).2 := by
  unfold interleave
  cases hThread : calls.threads[index]? with
  | none =>
      rw [Pool.next_missing hThread]
      rfl
  | some thread =>
      rw [Pool.next_advance hThread]
      cases thread <;> rfl

end SpotqPayment
