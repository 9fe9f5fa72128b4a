import SpotqPayment.Application.SubscriptionPayment

/-! The use case that tells a restaurant whether it is subscribed. -/
namespace SpotqPayment

open Process

structure SubscriptionStatusSummary where
  id : Uuid
  status : SubscriptionStatus
  planCode : Option String
  planName : Option String
  currentPeriodStart : Instant
  currentPeriodEnd : Instant
  deriving DecidableEq

structure SubscriptionStatusOutput where
  isSubscriptionActive : Bool
  subscription : Option SubscriptionStatusSummary
  deriving DecidableEq

namespace SubscriptionStatusMapper

def toInactiveResponse : SubscriptionStatusOutput where
  isSubscriptionActive := false
  subscription := none

def toActiveResponse (subscription : Subscription) (plan : Option SubscriptionPlan) : SubscriptionStatusOutput where
  isSubscriptionActive := true
  subscription := some {
    id := subscription.id
    status := subscription.status
    planCode := plan.map (·.code)
    planName := plan.map (·.name)
    currentPeriodStart := subscription.currentPeriodStart
    currentPeriodEnd := subscription.currentPeriodEnd }

end SubscriptionStatusMapper

/-- `GetSubscriptionStatusUseCase.execute`. The entity reads the clock once more, after
the search has compared the period with its own reading. -/
def getSubscriptionStatus (restaurantId : Option Uuid) (now : Instant) : UseCase SubscriptionStatusOutput := do
  match restaurantId with
  | none => return SubscriptionStatusMapper.toInactiveResponse
  | some restaurantId =>
    match ← repository (.findActiveByRestaurantId restaurantId) with
    | none => return SubscriptionStatusMapper.toInactiveResponse
    | some activeSub =>
      if activeSub.isActive now = false then return SubscriptionStatusMapper.toInactiveResponse
      else
        let plan ← repository (.findPlanById activeSub.planId)
        return SubscriptionStatusMapper.toActiveResponse activeSub plan

end SpotqPayment
