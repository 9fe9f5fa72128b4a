import SpotqPayment.Infrastructure.RepositoryEffects

/-! The tables are independent: a list of writes does to each table what its
writes to that table do, and it is refused when one of the tables refuses. -/
namespace SpotqPayment

open Engine

namespace Write

def transaction? : Write → Option PaymentTransaction
  | .transaction row => some row
  | _ => none

def refund? : Write → Option PaymentRefund
  | .refund row => some row
  | _ => none

def subscription? : Write → Option Subscription
  | .subscription row => some row
  | _ => none

def invoice? : Write → Option BillingInvoice
  | .invoice row => some row
  | _ => none

def outbox? : Write → Option OutboxEvent
  | .outbox row => some row
  | _ => none

end Write

/-- What a list of writes comes to, table by table. -/
structure Database.Written (db : Database) (writes : List Write) (written : Database) : Prop where
  transactions : Table.putAll db.transactions (writes.filterMap Write.transaction?) = some written.transactions
  refunds : Table.putAll db.refunds (writes.filterMap Write.refund?) = some written.refunds
  subscriptions : Table.putAll db.subscriptions (writes.filterMap Write.subscription?) = some written.subscriptions
  invoices : Table.putAll db.invoices (writes.filterMap Write.invoice?) = some written.invoices
  outbox : Table.putAll db.outbox (writes.filterMap Write.outbox?) = some written.outbox
  plans : written.plans = db.plans

namespace Database

variable {db written : Database}

theorem writeAll_cons_eq_some {write : Write} {writes : List Write} :
    db.writeAll (write :: writes) = some written ↔
      ∃ next, db.write write = some next ∧ next.writeAll writes = some written :=
  Option.bind_eq_some_iff

/-- Each write goes to its own table. -/
theorem written_of_writeAll {writes : List Write} (h : db.writeAll writes = some written) :
    db.Written writes written := by
  induction writes generalizing db with
  | nil =>
      cases h
      exact ⟨rfl, rfl, rfl, rfl, rfl, rfl⟩
  | cons write writes ih =>
      obtain ⟨next, hWrite, hRest⟩ := writeAll_cons_eq_some.mp h
      have hLater := ih hRest
      cases write with
      | transaction row =>
          obtain ⟨table, hPut, rfl⟩ := write_transaction_eq_some.mp hWrite
          exact { hLater with transactions := Table.putAll_cons.mpr ⟨table, hPut, hLater.transactions⟩ }
      | refund row =>
          obtain ⟨table, hPut, rfl⟩ := write_refund_eq_some.mp hWrite
          exact { hLater with refunds := Table.putAll_cons.mpr ⟨table, hPut, hLater.refunds⟩ }
      | subscription row =>
          obtain ⟨table, hPut, rfl⟩ := write_subscription_eq_some.mp hWrite
          exact { hLater with subscriptions := Table.putAll_cons.mpr ⟨table, hPut, hLater.subscriptions⟩ }
      | invoice row =>
          obtain ⟨table, hPut, rfl⟩ := write_invoice_eq_some.mp hWrite
          exact { hLater with invoices := Table.putAll_cons.mpr ⟨table, hPut, hLater.invoices⟩ }
      | outbox row =>
          obtain ⟨table, hPut, rfl⟩ := write_outbox_eq_some.mp hWrite
          exact { hLater with outbox := Table.putAll_cons.mpr ⟨table, hPut, hLater.outbox⟩ }

/-- Writes that every table accepts are accepted. -/
theorem exists_writeAll {writes : List Write}
    (hTransactions : ∃ table, Table.putAll db.transactions (writes.filterMap Write.transaction?) = some table)
    (hRefunds : ∃ table, Table.putAll db.refunds (writes.filterMap Write.refund?) = some table)
    (hSubscriptions : ∃ table, Table.putAll db.subscriptions (writes.filterMap Write.subscription?) = some table)
    (hInvoices : ∃ table, Table.putAll db.invoices (writes.filterMap Write.invoice?) = some table)
    (hOutbox : ∃ table, Table.putAll db.outbox (writes.filterMap Write.outbox?) = some table) :
    ∃ written, db.writeAll writes = some written := by
  induction writes generalizing db with
  | nil => exact ⟨db, rfl⟩
  | cons write writes ih =>
      cases write with
      | transaction row =>
          obtain ⟨final, hFinal⟩ := hTransactions
          obtain ⟨table, hPut, hRest⟩ := Table.putAll_cons.mp hFinal
          obtain ⟨written, hWritten⟩ := @ih { db with transactions := table }
            ⟨final, hRest⟩ hRefunds hSubscriptions hInvoices hOutbox
          exact ⟨written, writeAll_cons_eq_some.mpr ⟨_, write_transaction_eq_some.mpr ⟨table, hPut, rfl⟩, hWritten⟩⟩
      | refund row =>
          obtain ⟨final, hFinal⟩ := hRefunds
          obtain ⟨table, hPut, hRest⟩ := Table.putAll_cons.mp hFinal
          obtain ⟨written, hWritten⟩ := @ih { db with refunds := table }
            hTransactions ⟨final, hRest⟩ hSubscriptions hInvoices hOutbox
          exact ⟨written, writeAll_cons_eq_some.mpr ⟨_, write_refund_eq_some.mpr ⟨table, hPut, rfl⟩, hWritten⟩⟩
      | subscription row =>
          obtain ⟨final, hFinal⟩ := hSubscriptions
          obtain ⟨table, hPut, hRest⟩ := Table.putAll_cons.mp hFinal
          obtain ⟨written, hWritten⟩ := @ih { db with subscriptions := table }
            hTransactions hRefunds ⟨final, hRest⟩ hInvoices hOutbox
          exact ⟨written, writeAll_cons_eq_some.mpr ⟨_, write_subscription_eq_some.mpr ⟨table, hPut, rfl⟩, hWritten⟩⟩
      | invoice row =>
          obtain ⟨final, hFinal⟩ := hInvoices
          obtain ⟨table, hPut, hRest⟩ := Table.putAll_cons.mp hFinal
          obtain ⟨written, hWritten⟩ := @ih { db with invoices := table }
            hTransactions hRefunds hSubscriptions ⟨final, hRest⟩ hOutbox
          exact ⟨written, writeAll_cons_eq_some.mpr ⟨_, write_invoice_eq_some.mpr ⟨table, hPut, rfl⟩, hWritten⟩⟩
      | outbox row =>
          obtain ⟨final, hFinal⟩ := hOutbox
          obtain ⟨table, hPut, hRest⟩ := Table.putAll_cons.mp hFinal
          obtain ⟨written, hWritten⟩ := @ih { db with outbox := table }
            hTransactions hRefunds hSubscriptions hInvoices ⟨final, hRest⟩
          exact ⟨written, writeAll_cons_eq_some.mpr ⟨_, write_outbox_eq_some.mpr ⟨table, hPut, rfl⟩, hWritten⟩⟩

end Database
end SpotqPayment
