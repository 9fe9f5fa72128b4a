import SpotqPayment.Infrastructure.FinanceQuery
import SpotqPayment.Infrastructure.TransactionQuery
import SpotqPayment.Library.Paging
import Mathlib.Data.PNat.Defs

/-! The ledger of the platform as its admins read it: the filters of a request become
a list of conditions, and the entries that meet all of them are sorted from the newest,
those of one millisecond by their id. -/
namespace SpotqPayment

/-- A row of the ledger with the columns that the summary does not read. -/
structure PlatformLedgerTransactionProps extends PlatformLedgerTransaction where
  runningBalancePaise : Int
  restaurantId : Option Uuid
  deriving DecidableEq, Repr

instance : Record PlatformLedgerTransactionProps where
  key := fun row => row.id
  unique := [fun row => row.referenceId]

/-- What is asked of the repository, with pages and limits from one on. -/
structure PlatformLedgerQuery where
  page : Option ℕ+
  limit : Option ℕ+
  search : Option String
  type : Option PlatformTransactionType
  restaurantId : Option Uuid
  startDate : Option String
  endDate : Option String

structure PlatformLedgerPagination where
  page : ℕ+
  totalPages : Nat
  limit : ℕ+
  deriving DecidableEq

structure PlatformLedgerPage where
  entries : List PlatformLedgerTransactionProps
  pagination : Option PlatformLedgerPagination
  deriving DecidableEq

def indiaTimezoneOffsetMs : Int := 19800000

def millisecondsPerDay : Int := 24 * 60 * 60 * 1000

/-- A condition of the `AND` group. -/
inductive LedgerCondition where
  | type (type : PlatformTransactionType)
  | restaurantId (restaurantId : Uuid)
  | createdAt (gte lt : Option Instant)
  | referenceIdStartsWith (term : String)

/-- Midnight of a date of the query, moved by some time. Prisma refuses what is no date. -/
def dateBound (date : Option String) (shift : Int) : Except QueryError (Option Instant) :=
  match truthy date with
  | none => .ok none
  | some text =>
      match Calendar.parseMidnight text with
      | none => .error .invalidArgument
      | some midnight => .ok (some (midnight + shift))

/-- `PlatformLedgerTransactionPersistenceMapper.toPaginatedDomain`. -/
def toPaginatedDomain (records : List PlatformLedgerTransactionProps) (totalRecords : Nat)
    (page limit : Option ℕ+) : PlatformLedgerPage where
  entries := records
  pagination := limit.map fun limit : ℕ+ =>
    { page := page.getD 1, totalPages := Paging.pageCount totalRecords limit, limit }

/-- `orderBy: [{ createdAt: 'desc' }, { id: 'desc' }]`. -/
def ledgerOrder : RowOrder PlatformLedgerTransactionProps :=
  .thenBy (.byRank (fun row => row.createdAt) true) (.byRank (fun row => (row.id : Int)) true)

/-- `PrismaPlatformLedgerTransactionRepository` over a database that decides which texts
start with a term and how it arranges rows of equal rank. -/
structure PlatformLedgerTransactionRepository where
  startsWith (text term : String) : Bool
  arrangement : Arrangement PlatformLedgerTransactionProps

namespace PlatformLedgerTransactionRepository

variable (repository : PlatformLedgerTransactionRepository)

def conditionMatches (row : PlatformLedgerTransactionProps) : LedgerCondition → Bool
  | .type type => row.type = type
  | .restaurantId restaurantId => row.restaurantId = some restaurantId
  | .createdAt gte lt => gte.all (· ≤ row.createdAt) && lt.all (row.createdAt < ·)
  | .referenceIdStartsWith term => row.referenceId.any (repository.startsWith · term)

/-- The condition on the time, when one of the dates is given. -/
def dateCondition (input : PlatformLedgerQuery) : Except QueryError (List LedgerCondition) :=
  if truthy input.startDate = none ∧ truthy input.endDate = none then .ok []
  else do
    let gte ← dateBound input.startDate (-indiaTimezoneOffsetMs)
    let lt ← dateBound input.endDate (millisecondsPerDay - indiaTimezoneOffsetMs)
    return [.createdAt gte lt]

def filters (input : PlatformLedgerQuery) : Except QueryError (List LedgerCondition) := do
  let dates ← dateCondition input
  return (input.type.map LedgerCondition.type).toList ++ (input.restaurantId.map LedgerCondition.restaurantId).toList ++
    dates ++ ((truthy (input.search.map trim)).map LedgerCondition.referenceIdStartsWith).toList

/-- The rows that meet all conditions. -/
def selected (ledger : Table PlatformLedgerTransactionProps) (conditions : List LedgerCondition) :
    Finset PlatformLedgerTransactionProps :=
  Selection.select ledger fun row => conditions.all (repository.conditionMatches row)

/-- `take` and `skip`, each as far as it is given. -/
def paginated (page limit : Option ℕ+) (rows : List PlatformLedgerTransactionProps) :
    List PlatformLedgerTransactionProps :=
  match limit with
  | none => rows
  | some limit => Paging.window (page.elim 0 fun page => ((page : Nat) - 1) * limit) limit rows

def findManyPaginated (ledger : Table PlatformLedgerTransactionProps) (input : PlatformLedgerQuery) :
    Except QueryError PlatformLedgerPage := do
  let conditions ← filters input
  let rows := repository.selected ledger conditions
  return toPaginatedDomain (paginated input.page input.limit (Paging.sorted repository.arrangement ledgerOrder rows))
    rows.card input.page input.limit

end PlatformLedgerTransactionRepository

end SpotqPayment
