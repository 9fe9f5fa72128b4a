import SpotqPayment.Infrastructure.Repositories
import SpotqPayment.Infrastructure.Gateway

/-! The ports that the use cases await: the repository methods, each of them one
transaction or one statement of the database, and the remote gateway calls. -/
namespace SpotqPayment

open Process

structure World where
  db : Database
  gateway : Gateway

/-- Empty tables, a fixed set of plans, and a gateway without history. -/
def World.initial (plans : Table SubscriptionPlan) : World where
  db := Database.initial plans
  gateway := { orders := [], refunds := [] }

inductive RepositoryCall where
  | findByOrderId (razorpayOrderId : String)
  | findByCustomerOrderId (orderId : Uuid)
  | findPendingByRestaurantAndPlan (restaurantId planId : Uuid)
  | createTransaction (data : CreatePaymentTransactionInput)
  | captureOrderPaymentWithOutbox (params : CaptureOrderPaymentWithOutboxParams)
  | failOrderPaymentWithOutbox (params : FailOrderPaymentWithOutboxParams)
  | processOrderRefund (params : ProcessOrderRefundParams)
  | syncRefundFromWebhook (params : SyncRefundFromWebhookParams)
  | markFailed (razorpayOrderId failureReason : String)
  | resetToCreated (razorpayOrderId : String)
  | findPlanById (id : Uuid)
  | findActiveByRestaurantId (restaurantId : Uuid)
  | findSubscriptionById (id : Uuid)
  | activateSubscriptionWithOutbox (params : ActivateSubscriptionWithOutboxParams)
  | createInvoice (data : CreateBillingInvoiceInput)
  | findPastDueSubscriptions (now : Instant)
  | expireSubscriptions (pastDue : List (Subscription × SubscriptionPlan)) (now : Instant)

@[reducible] def RepositoryCall.Answer : RepositoryCall → Type
  | .findByOrderId _ => Option PaymentTransaction
  | .findByCustomerOrderId _ => Option PaymentTransaction
  | .findPendingByRestaurantAndPlan _ _ => Option PaymentTransaction
  | .createTransaction _ => PaymentTransaction
  | .captureOrderPaymentWithOutbox _ => PaymentTransaction
  | .failOrderPaymentWithOutbox _ => PaymentTransaction
  | .processOrderRefund _ => PaymentTransaction × PaymentRefund
  | .syncRefundFromWebhook _ => Unit
  | .markFailed _ _ => PaymentTransaction
  | .resetToCreated _ => PaymentTransaction
  | .findPlanById _ => Option SubscriptionPlan
  | .findActiveByRestaurantId _ => Option Subscription
  | .findSubscriptionById _ => Option Subscription
  | .activateSubscriptionWithOutbox _ => Subscription
  | .createInvoice _ => BillingInvoice
  | .findPastDueSubscriptions _ => List (Subscription × SubscriptionPlan)
  | .expireSubscriptions _ _ => Unit

/-- The method behind a repository call, with the clock and the generated
invoice number taken from the environment. -/
def RepositoryCall.body (env : Env) : (request : RepositoryCall) → Repository request.Answer
  | .findByOrderId razorpayOrderId => PaymentTransactionRepository.findByOrderId razorpayOrderId
  | .findByCustomerOrderId orderId => PaymentTransactionRepository.findByCustomerOrderId orderId
  | .findPendingByRestaurantAndPlan restaurantId planId =>
      PaymentTransactionRepository.findPendingByRestaurantAndPlan restaurantId planId env.now
  | .createTransaction data => PaymentTransactionRepository.create data
  | .captureOrderPaymentWithOutbox params =>
      PaymentTransactionRepository.captureOrderPaymentWithOutbox params
  | .failOrderPaymentWithOutbox params =>
      PaymentTransactionRepository.failOrderPaymentWithOutbox params
  | .processOrderRefund params => PaymentTransactionRepository.processOrderRefund params env.now
  | .syncRefundFromWebhook params => PaymentTransactionRepository.syncRefundFromWebhook params env.now
  | .markFailed razorpayOrderId failureReason =>
      PaymentTransactionRepository.markFailed razorpayOrderId failureReason env.now
  | .resetToCreated razorpayOrderId =>
      PaymentTransactionRepository.resetToCreated razorpayOrderId env.now
  | .findPlanById id => SubscriptionPlanRepository.findById id
  | .findActiveByRestaurantId restaurantId =>
      SubscriptionRepository.findActiveByRestaurantId restaurantId env.now
  | .findSubscriptionById id => SubscriptionRepository.findById id
  | .activateSubscriptionWithOutbox params =>
      SubscriptionRepository.activateSubscriptionWithOutbox params env.invoiceNumber env.now
  | .createInvoice data => BillingInvoiceRepository.create data
  | .findPastDueSubscriptions now => PaymentSubscriptionExpiryService.findPastDue now
  | .expireSubscriptions pastDue now => PaymentSubscriptionExpiryService.expire pastDue now

inductive Port where
  | repository (request : RepositoryCall)
  | createOrder (amountInPaise : Int) (currency : String)
  | createRefund (paymentId : String) (amountInPaise : Int)

@[reducible] def Port.Answer : Port → Type
  | .repository request => request.Answer
  | .createOrder _ _ => String
  | .createRefund _ _ => PaymentRefundResult

/-- A repository call commits as a whole or not at all. A remote call succeeds
when the environment has an answer for it, and the gateway remembers it. -/
def Port.perform (env : Env) : (port : Port) → World → Except ServiceError port.Answer × World
  | .repository request, world =>
      let result := atomically (engine env).perform (request.body env) world.db
      (result.1, { world with db := result.2 })
  | .createOrder amountInPaise currency, world =>
      match env.gatewayOrderId with
      | none => (.error .gatewayFailure, world)
      | some orderId =>
          (.ok orderId, { world with gateway := { world.gateway with
            orders := world.gateway.orders ++ [{ orderId, amountInPaise, currency }] } })
  | .createRefund paymentId amountInPaise, world =>
      match env.gatewayRefund with
      | none => (.error .gatewayFailure, world)
      | some answer =>
          (.ok answer, { world with gateway := { world.gateway with
            refunds := world.gateway.refunds ++
              [{ refundId := answer.refundId, paymentId, amountInPaise }] } })

abbrev UseCase (Value : Type) := Process ServiceError Port.Answer Value

/-- Await one repository method. -/
abbrev repository (request : RepositoryCall) : UseCase request.Answer := call (Port.repository request)

end SpotqPayment
