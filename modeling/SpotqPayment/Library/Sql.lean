import Mathlib.Algebra.BigOperators.Group.List.Basic
import Mathlib.Algebra.Order.Ring.Int
import Mathlib.Data.List.Dedup

/-! Parts of SQL: a catalog of tables and enumerations that statements of a migration
change, the resolution of the names in a query against it, and the casts and
aggregates of PostgreSQL over exact numbers. -/
namespace Sql

inductive ColumnType where
  | uuid | text | integer | bigint | boolean | jsonb | date | timestamptz
  | varchar (length : Nat)
  | enum (name : String)
  deriving DecidableEq, Repr

structure Column where
  name : String
  type : ColumnType
  nullable : Bool
  deriving DecidableEq, Repr

structure TableDef where
  name : String
  columns : List Column
  deriving DecidableEq, Repr

structure Catalog where
  tables : List TableDef
  enums : List (String × List String)
  deriving DecidableEq, Repr

inductive Error where
  | undefinedTable (table : String)
  | undefinedColumn (table column : String)
  | undefinedObject (name : String)
  | duplicateObject (name : String)
  | dependentObjects (name : String)
  | datatypeMismatch (table column : String)
  | invalidEnumValue (enum value : String)
  | numericValueOutOfRange
  deriving DecidableEq, Repr

/-- A statement that changes the catalog. -/
inductive Statement where
  | createEnum (name : String) (values : List String)
  | addEnumValue (name value : String)
  | renameEnum (name newName : String)
  | dropEnum (name : String)
  | createTable (table : TableDef)
  | dropTable (name : String)
  | addColumn (table : String) (column : Column)
  | dropColumn (table column : String)
  | alterType (table column : String) (type : ColumnType)
  | setNullable (table column : String) (nullable : Bool)
  deriving DecidableEq, Repr

namespace Catalog

def empty : Catalog where
  tables := []
  enums := []

def table? (catalog : Catalog) (name : String) : Option TableDef :=
  catalog.tables.find? fun table => table.name = name

/-- Change one table. -/
def alterTable (catalog : Catalog) (name : String) (alter : List Column → Except Error (List Column)) :
    Except Error Catalog :=
  match catalog.table? name with
  | none => .error (.undefinedTable name)
  | some table => do
    let columns ← alter table.columns
    return { catalog with
      tables := catalog.tables.map fun other => if other.name = name then { other with columns } else other }

/-- Change one column of a table. -/
def alterColumn (catalog : Catalog) (table name : String) (alter : Column → Column) : Except Error Catalog :=
  catalog.alterTable table fun columns =>
    if columns.any fun column => column.name = name then
      .ok (columns.map fun column => if column.name = name then alter column else column)
    else .error (.undefinedColumn table name)

/-- The columns of this type, whatever table they are in. -/
def uses (catalog : Catalog) (type : ColumnType) : Bool :=
  catalog.tables.any fun table => table.columns.any fun column => column.type = type

def apply (catalog : Catalog) : Statement → Except Error Catalog
  | .createEnum name values =>
      if (catalog.enums.lookup name).isSome then .error (.duplicateObject name)
      else .ok { catalog with enums := catalog.enums ++ [(name, values)] }
  | .addEnumValue name value =>
      if (catalog.enums.lookup name).isNone then .error (.undefinedObject name)
      else .ok { catalog with
        enums := catalog.enums.map fun enum => if enum.1 = name then (name, enum.2 ++ [value]) else enum }
  | .renameEnum name newName =>
      if (catalog.enums.lookup name).isNone then .error (.undefinedObject name)
      else if (catalog.enums.lookup newName).isSome then .error (.duplicateObject newName)
      else .ok {
        enums := catalog.enums.map fun enum => if enum.1 = name then (newName, enum.2) else enum
        tables := catalog.tables.map fun table => { table with
          columns := table.columns.map fun column =>
            if column.type = .enum name then { column with type := .enum newName } else column } }
  | .dropEnum name =>
      if (catalog.enums.lookup name).isNone then .error (.undefinedObject name)
      else if catalog.uses (.enum name) then .error (.dependentObjects name)
      else .ok { catalog with enums := catalog.enums.filter fun enum => enum.1 ≠ name }
  | .createTable table =>
      if (catalog.table? table.name).isSome then .error (.duplicateObject table.name)
      else .ok { catalog with tables := catalog.tables ++ [table] }
  | .dropTable name =>
      if (catalog.table? name).isNone then .error (.undefinedTable name)
      else .ok { catalog with tables := catalog.tables.filter fun table => table.name ≠ name }
  | .addColumn table column =>
      catalog.alterTable table fun columns =>
        if columns.any fun other => other.name = column.name then .error (.duplicateObject column.name)
        else .ok (columns ++ [column])
  | .dropColumn table column =>
      catalog.alterTable table fun columns =>
        if columns.any fun other => other.name = column then .ok (columns.filter fun other => other.name ≠ column)
        else .error (.undefinedColumn table column)
  | .alterType table column type => catalog.alterColumn table column fun old => { old with type }
  | .setNullable table column nullable => catalog.alterColumn table column fun old => { old with nullable }

end Catalog

structure Migration where
  name : String
  statements : List Statement

/-- The catalog that migrations leave, applied in order to an empty database. -/
def migrate (migrations : List Migration) : Except Error Catalog :=
  (migrations.flatMap Migration.statements).foldlM Catalog.apply Catalog.empty

/-- What a query names of one table: the columns, with the type that its operators
need, and the literals that are read as values of an enumeration. -/
structure Reference where
  table : String
  columns : List (String × ColumnType)
  literals : List (String × String)

def Catalog.checkColumn (table : TableDef) (column : String × ColumnType) : Except Error Unit :=
  match table.columns.find? fun other => other.name = column.1 with
  | none => .error (.undefinedColumn table.name column.1)
  | some found => if found.type = column.2 then .ok () else .error (.datatypeMismatch table.name column.1)

def Catalog.checkLiteral (catalog : Catalog) (literal : String × String) : Except Error Unit :=
  match catalog.enums.lookup literal.1 with
  | none => .error (.undefinedObject literal.1)
  | some values => if literal.2 ∈ values then .ok () else .error (.invalidEnumValue literal.1 literal.2)

/-- The analysis of a query, before any row is read. -/
def Catalog.analyse (catalog : Catalog) (references : List Reference) : Except Error Unit :=
  references.forM fun reference =>
    match catalog.table? reference.table with
    | none => .error (.undefinedTable reference.table)
    | some table => do
      reference.columns.forM (Catalog.checkColumn table)
      reference.literals.forM catalog.checkLiteral

/-- The range of a signed integer of so many bits. -/
def Fits (bits : Nat) (value : Int) : Prop := -2 ^ (bits - 1) ≤ value ∧ value < 2 ^ (bits - 1)

instance (bits : Nat) (value : Int) : Decidable (Fits bits value) := inferInstanceAs (Decidable (_ ∧ _))

/-- PostgreSQL has no character zero in a text. -/
def isText (text : String) : Bool := text.toList.all fun c => c ≠ Char.ofNat 0

def cast (bits : Nat) (value : Int) : Except Error Int :=
  if Fits bits value then .ok value else .error .numericValueOutOfRange

/-- `x::bigint`. -/
def toBigint (value : Int) : Except Error Int := cast 64 value

/-- `x::integer`. -/
def toInteger (value : Int) : Except Error Int := cast 32 value

/-- `SUM`, which is null over no rows. -/
def sum (values : List Int) : Option Int :=
  match values with
  | [] => none
  | _ => some values.sum

/-- `COALESCE(value, other)`. -/
def coalesce (value : Option Int) (other : Int) : Int := value.getD other

/-- `COUNT(DISTINCT value)`. -/
def countDistinct {Value : Type} [DecidableEq Value] (values : List Value) : Int := values.dedup.length

/-- `ROUND(value::numeric / divisor)`, to the nearest integer and half away from zero. -/
def roundQuotient (value : Int) (divisor : Nat) : Int :=
  value.sign * ((2 * value.natAbs + divisor) / (2 * divisor) : Nat)

/-- `FROM left INNER JOIN right ON ...`. -/
def innerJoin {Left Right : Type} (left : List Left) (right : List Right) (on : Left → Right → Bool) :
    List (Left × Right) :=
  left.flatMap fun first => (right.filter (on first)).map fun second => (first, second)

def crossJoin {Left Right : Type} (left : List Left) (right : List Right) : List (Left × Right) :=
  innerJoin left right fun _ _ => true

theorem cast_of_fits {bits : Nat} {value : Int} (h : Fits bits value) : cast bits value = .ok value := if_pos h

theorem coalesce_sum (values : List Int) : coalesce (sum values) 0 = values.sum := by
  cases values <;> rfl

/-- An aggregate over a join on the key of the right table is one over the left table:
each of its rows has at most one partner, so none is counted twice. -/
theorem innerJoin_filter_map {Left Right Value : Type} {left : List Left} {right : List Right}
    {on : Left → Right → Bool} {find : Left → Option Right} {where' : Left × Right → Bool} {matching : Left → Bool}
    {value : Left × Right → Value} {leftValue : Left → Value}
    (hFind : ∀ first, right.filter (on first) = (find first).toList)
    (hNone : ∀ first, find first = none → matching first = false)
    (hWhere : ∀ first second, find first = some second → where' (first, second) = matching first)
    (hValue : ∀ first second, find first = some second → value (first, second) = leftValue first) :
    ((innerJoin left right on).filter where').map value = (left.filter matching).map leftValue := by
  unfold innerJoin
  induction left with
  | nil => rfl
  | cons first rest ih =>
      rw [List.flatMap_cons, List.filter_append, List.map_append, ih, hFind, List.filter_cons]
      cases hPartner : find first with
      | none =>
          rw [hNone first hPartner]
          rfl
      | some second =>
          have hSame := hWhere first second hPartner
          cases hMatching : matching first with
          | true => simp [hSame, hMatching, hValue first second hPartner]
          | false => simp [hSame, hMatching]

theorem crossJoin_singleton {Left Right : Type} (left : List Left) (right : Right) :
    crossJoin left [right] = left.map fun first => (first, right) := by
  unfold crossJoin innerJoin
  induction left with
  | nil => rfl
  | cons first rest ih =>
      rw [List.flatMap_cons, ih]
      rfl

end Sql
