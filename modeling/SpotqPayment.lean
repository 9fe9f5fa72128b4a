import SpotqPayment.Properties.RefundedTerminal
import SpotqPayment.Properties.RefundsAgree
import SpotqPayment.Properties.OnePurchase
import SpotqPayment.Properties.ChargedOnce
import SpotqPayment.Properties.LiveSubscription
import SpotqPayment.Properties.Redelivery
import SpotqPayment.Properties.DeliveryOrder
import SpotqPayment.Properties.SingleOutcome
import SpotqPayment.Properties.RefundedOnce
import SpotqPayment.Properties.StaleWriter
import SpotqPayment.Properties.ActivatedOnce
import SpotqPayment.Properties.OutboxComplete
import SpotqPayment.Properties.SignedPayments
import SpotqPayment.Properties.BillingAgrees
import SpotqPayment.Properties.EventsDelivered
import SpotqPayment.Properties.PublishedTerminal
import SpotqPayment.Properties.LockExclusive
import SpotqPayment.Properties.OneExecution
import SpotqPayment.Properties.ReplayedRefund
import SpotqPayment.Properties.ExpiresOnce
import SpotqPayment.Properties.BrokerOrder
import SpotqPayment.Properties.OutboxDrained
import SpotqPayment.Properties.FinanceSummary
import SpotqPayment.Properties.RestaurantIsolation
import SpotqPayment.Properties.RefundReported
import SpotqPayment.Properties.BilledAsRequested
import SpotqPayment.Properties.NewestPaid
import SpotqPayment.Properties.ExpiryComplement
import SpotqPayment.Properties.SuccessTakesEffect
import SpotqPayment.Properties.PeriodEnd
import SpotqPayment.Properties.LedgerPages
import SpotqPayment.Properties.LedgerDays
import SpotqPayment.Properties.ExportReadBack
import SpotqPayment.Properties.PagesShowOnce
import SpotqPayment.Properties.SearchesAlike
import SpotqPayment.Properties.FiltersMatchDisplay
import SpotqPayment.Properties.PeriodLength
import SpotqPayment.Properties.RecordedForGood
import SpotqPayment.Properties.FailedCalls
import SpotqPayment.Properties.PaymentKinds
import SpotqPayment.Properties.Entitlement
import SpotqPayment.Properties.AtomicRuns
import SpotqPayment.Properties.SubscribersShown
import SpotqPayment.Properties.ServiceTokens
import SpotqPayment.Properties.ReferencesKept
import SpotqPayment.Properties.NamedOnly
import SpotqPayment.Properties.DeadLetters
import SpotqPayment.Properties.ChangesTold
import SpotqPayment.Properties.RoutesGuarded
import SpotqPayment.Properties.Strangers
