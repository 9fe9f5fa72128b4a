import SpotqPayment.Infrastructure.PlatformLedger
import SpotqPayment.Library.Hexadecimal

/-! The use cases that show the platform ledger page by page and export it as
comma-separated values. -/
namespace SpotqPayment

def PlatformTransactionType.text : PlatformTransactionType → String
  | .customerPaymentIntake => "CUSTOMER_PAYMENT_INTAKE"
  | .settlementDisbursed => "SETTLEMENT_DISBURSED"
  | .refundExpense => "REFUND_EXPENSE"

/-- Digits in five groups. -/
def dashed (digits : List Char) : List Char :=
  digits.take 8 ++ '-' :: (digits.drop 8).take 4 ++ '-' :: (digits.drop 12).take 4 ++
    '-' :: (digits.drop 16).take 4 ++ '-' :: digits.drop 20

/-- The hexadecimal digits of an id, as the database renders them. -/
def Uuid.text (id : Uuid) : String := String.ofList (dashed (Hexadecimal.padded 32 id))

structure PlatformLedgerEntryDTO where
  id : String
  type : String
  amountPaise : String
  runningBalancePaise : String
  restaurantId : Option String
  referenceId : Option String
  createdAt : String
  deriving DecidableEq, Repr

/-- `PlatformLedgerEntryMapper.toDto`. -/
def PlatformLedgerTransactionProps.toDto (entry : PlatformLedgerTransactionProps) : PlatformLedgerEntryDTO where
  id := entry.id.text
  type := entry.type.text
  amountPaise := toString entry.amountPaise
  runningBalancePaise := toString entry.runningBalancePaise
  restaurantId := entry.restaurantId.map Uuid.text
  referenceId := entry.referenceId
  createdAt := Calendar.toISOString entry.createdAt

structure GetPlatformMasterLedgerOutputDTO where
  entries : List PlatformLedgerEntryDTO
  pagination : Option PlatformLedgerPagination
  deriving DecidableEq

structure ExportPlatformLedgerInputDTO where
  search : Option String
  type : Option PlatformTransactionType
  restaurantId : Option Uuid
  startDate : Option String
  endDate : Option String

/-- The repository that a use case is given, by its one method. -/
structure IPlatformLedgerTransactionRepository where
  findManyPaginated : PlatformLedgerQuery → Except QueryError PlatformLedgerPage

/-- The repository of the service over a ledger. -/
def IPlatformLedgerTransactionRepository.over (repository : PlatformLedgerTransactionRepository)
    (ledger : Table PlatformLedgerTransactionProps) : IPlatformLedgerTransactionRepository where
  findManyPaginated := repository.findManyPaginated ledger

/-- `GetPlatformMasterLedgerUseCase.execute`. -/
def getPlatformMasterLedger (repository : IPlatformLedgerTransactionRepository) (input : PlatformLedgerQuery) :
    Except QueryError GetPlatformMasterLedgerOutputDTO := do
  let result ← repository.findManyPaginated input
  return { entries := result.entries.map PlatformLedgerTransactionProps.toDto, pagination := result.pagination }

namespace ExportPlatformLedgerUseCase

inductive Column where
  | id | type | amountPaise | runningBalancePaise | restaurantId | referenceId | createdAt
  deriving DecidableEq, Repr

def Column.name : Column → String
  | .id => "id"
  | .type => "type"
  | .amountPaise => "amountPaise"
  | .runningBalancePaise => "runningBalancePaise"
  | .restaurantId => "restaurantId"
  | .referenceId => "referenceId"
  | .createdAt => "createdAt"

def columns : List Column :=
  [.id, .type, .amountPaise, .runningBalancePaise, .restaurantId, .referenceId, .createdAt]

/-- `row[key]`. -/
def Column.get (row : PlatformLedgerEntryDTO) : Column → Option String
  | .id => row.id
  | .type => row.type
  | .amountPaise => row.amountPaise
  | .runningBalancePaise => row.runningBalancePaise
  | .restaurantId => row.restaurantId
  | .referenceId => row.referenceId
  | .createdAt => row.createdAt

/-- `value.replace(CSV_QUOTE_REGEX, '""')` puts two quotes for each one. -/
def csvCell (value : Option String) : String :=
  String.ofList ('"' :: ((value.getD "").toList.flatMap (fun c => if c = '"' then ['"', '"'] else [c]) ++ ['"']))

/-- The header and a line for each row. -/
def csv (rows : List PlatformLedgerEntryDTO) : String :=
  "\r\n".intercalate (",".intercalate (columns.map Column.name) ::
    rows.map fun row => ",".intercalate (columns.map fun key => csvCell (key.get row)))

/-- The query of the export, without a page. -/
def query (input : ExportPlatformLedgerInputDTO) : PlatformLedgerQuery where
  page := none
  limit := none
  search := input.search
  type := input.type
  restaurantId := input.restaurantId
  startDate := input.startDate
  endDate := input.endDate

variable (repository : IPlatformLedgerTransactionRepository) (input : ExportPlatformLedgerInputDTO)

/-- The rows that are written. -/
def rows : Except QueryError (List PlatformLedgerEntryDTO) := do
  let result ← repository.findManyPaginated (query input)
  return result.entries.map PlatformLedgerTransactionProps.toDto

def execute : Except QueryError String := do
  let rows ← rows repository input
  return csv rows

end ExportPlatformLedgerUseCase

end SpotqPayment
