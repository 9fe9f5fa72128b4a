import Mathlib.Data.Finset.Card
import Mathlib.Data.Finset.Dedup
import SpotqPayment.Library.Table

/-! Selections from a table: how many rows match, a page of them in the order of a
rank, and the single row with a key. A database may put rows of equal rank in any
order, but it chooses the order by the rows selected. Two tables that agree on the
rows that a query can match give it the same answer. -/

/-- An order for the rows of each selection. -/
structure Arrangement (Row : Type) where
  list : Finset Row → List Row
  nodup : ∀ rows, (list rows).Nodup
  mem_list : ∀ rows row, row ∈ list rows ↔ row ∈ rows

/-- The tables have the same visible rows. -/
def Table.Agree {Row : Type} [Record Row] (visible : Row → Prop) (first second : Table Row) : Prop :=
  ∀ row, visible row → (row ∈ first.rows ↔ row ∈ second.rows)

/-- Tables agree when the visible rows are listed alike. -/
theorem Table.agree_of_filter {Row : Type} [Record Row] {visible : Row → Bool} {first second : Table Row}
    (h : first.rows.filter visible = second.rows.filter visible) :
    first.Agree (fun row => visible row = true) second := by
  intro row hVisible
  rw [← and_iff_left (a := row ∈ first.rows) hVisible, ← List.mem_filter, h, List.mem_filter, and_iff_left hVisible]

namespace Selection

open Record (key)

variable {Row : Type} [Record Row] [DecidableEq Row]

/-- The rows that match. -/
def select (table : Table Row) (matching : Row → Bool) : Finset Row := (table.rows.filter matching).toFinset

def count (table : Table Row) (matching : Row → Bool) : Nat := (select table matching).card

/-- The rows in the order of a rank, from the lowest or from the highest. -/
def ordered (arrangement : Arrangement Row) (rank : Row → Int) (descending : Bool) (rows : Finset Row) : List Row :=
  (arrangement.list rows).mergeSort fun first second =>
    if descending then rank second ≤ rank first else rank first ≤ rank second

/-- `findMany` with `orderBy`, `skip` and `take`. -/
def findMany (arrangement : Arrangement Row) (table : Table Row) (matching : Row → Bool) (rank : Row → Int)
    (descending : Bool) (skip take : Nat) : List Row :=
  ((ordered arrangement rank descending (select table matching)).drop skip).take take

/-- `findFirst` by the primary key and further conditions. -/
def findByKey (table : Table Row) (id : Nat) (matching : Row → Bool) : Option Row := (table.get? id).filter matching

variable {arrangement : Arrangement Row} {first second table : Table Row} {visible : Row → Prop}
  {matching : Row → Bool} {rank : Row → Int} {descending : Bool} {skip take id : Nat} {row : Row}

theorem mem_select : row ∈ select table matching ↔ row ∈ table.rows ∧ matching row = true := by
  rw [select, List.mem_toFinset, List.mem_filter]

theorem mem_findMany (h : row ∈ findMany arrangement table matching rank descending skip take) :
    row ∈ table.rows ∧ matching row = true := by
  have hOrdered := List.mem_of_mem_drop (List.mem_of_mem_take h)
  rw [ordered, List.mem_mergeSort, arrangement.mem_list] at hOrdered
  exact mem_select.mp hOrdered

/-- The first row is missing only where no row matches. -/
theorem findMany_one_eq_nil : findMany arrangement table matching rank descending 0 1 = [] ↔
    ∀ row ∈ table.rows, matching row = false := by
  rw [findMany, List.drop_zero, List.take_eq_nil_iff, or_iff_right one_ne_zero, List.eq_nil_iff_forall_not_mem]
  refine forall_congr' fun row => ?_
  rw [ordered, List.mem_mergeSort, arrangement.mem_list, mem_select, not_and, Bool.not_eq_true]

omit [Record Row] [DecidableEq Row] in
theorem sorted_ordered (rows : Finset Row) : (ordered arrangement rank true rows).Pairwise fun first second =>
    rank second ≤ rank first := by
  have hSorted : (ordered arrangement rank true rows).Pairwise fun first second =>
      decide (rank second ≤ rank first) = true := by
    refine List.pairwise_mergeSort (fun first second third hFirst hSecond => ?_) (fun first second => ?_) _
    · exact decide_eq_true ((of_decide_eq_true hSecond).trans (of_decide_eq_true hFirst))
    · exact (Bool.or_eq_true _ _).mpr ((le_total _ _).imp decide_eq_true decide_eq_true)
  exact hSorted.imp of_decide_eq_true

/-- Only so many rows are taken. -/
theorem length_findMany_le : (findMany arrangement table matching rank descending skip take).length ≤ take := by
  rw [findMany, List.length_take]
  exact Nat.min_le_left _ _

/-- The rows shown are the first of those that match, by a rank from high to low. -/
structure IsLatest (table : Table Row) (matching : Row → Bool) (rank : Row → Int) (take : Nat) (shown : List Row) :
    Prop where
  stored : ∀ row ∈ shown, row ∈ table.rows ∧ matching row = true
  nodup : shown.Nodup
  few : shown.length ≤ take
  sorted : shown.Pairwise fun first second => rank second ≤ rank first
  complete : ∀ row ∈ table.rows, matching row = true → row ∉ shown →
    shown.length = take ∧ ∀ other ∈ shown, rank row ≤ rank other

theorem isLatest_findMany : IsLatest table matching rank take (findMany arrangement table matching rank true 0 take) where
  stored := fun _ => mem_findMany
  nodup := ((List.mergeSort_perm _ _).nodup_iff.mpr (arrangement.nodup _)).sublist (List.take_sublist _ _)
  few := length_findMany_le
  sorted := (sorted_ordered _).sublist (List.take_sublist _ _)
  complete := by
    intro row hRow hMatching hOut
    have hMem : row ∈ ordered arrangement rank true (select table matching) := by
      rw [ordered, List.mem_mergeSort, arrangement.mem_list]
      exact mem_select.mpr ⟨hRow, hMatching⟩
    have hSorted := @sorted_ordered _ arrangement rank (select table matching)
    rw [← List.take_append_drop take (ordered arrangement rank true (select table matching)),
      List.pairwise_append] at hSorted
    have hRest : row ∈ (ordered arrangement rank true (select table matching)).drop take := by
      rw [← List.take_append_drop take (ordered arrangement rank true (select table matching)), List.mem_append] at hMem
      exact hMem.resolve_left hOut
    refine ⟨?_, fun other hOther => hSorted.2.2 other hOther row hRest⟩
    have hPositive := List.length_pos_of_mem hRest
    rw [List.length_drop] at hPositive
    rw [findMany, List.drop_zero, List.length_take]
    omega

/-- A selection sees no more of a table than the rows that can match. -/
theorem select_eq (hSame : first.Agree visible second) (hVisible : ∀ row, matching row = true → visible row) :
    select first matching = select second matching := by
  ext row
  rw [mem_select, mem_select]
  exact and_congr_left fun hMatching => hSame row (hVisible row hMatching)

theorem count_eq (hSame : first.Agree visible second) (hVisible : ∀ row, matching row = true → visible row) :
    count first matching = count second matching := by
  rw [count, select_eq hSame hVisible, count]

theorem findMany_eq (hSame : first.Agree visible second) (hVisible : ∀ row, matching row = true → visible row) :
    findMany arrangement first matching rank descending skip take =
      findMany arrangement second matching rank descending skip take := by
  rw [findMany, select_eq hSame hVisible, findMany]

omit [DecidableEq Row] in
theorem findByKey_eq_some : findByKey table id matching = some row ↔
    row ∈ table.rows ∧ key row = id ∧ matching row = true := by
  rw [findByKey, Option.filter_eq_some_iff, Table.get?_eq_some, and_assoc]

omit [DecidableEq Row] in
theorem findByKey_eq (hSame : first.Agree visible second) (hVisible : ∀ row, matching row = true → visible row) :
    findByKey first id matching = findByKey second id matching := by
  ext row
  rw [findByKey_eq_some, findByKey_eq_some]
  constructor
  · rintro ⟨hRow, hKey, hMatching⟩
    exact ⟨(hSame row (hVisible row hMatching)).mp hRow, hKey, hMatching⟩
  · rintro ⟨hRow, hKey, hMatching⟩
    exact ⟨(hSame row (hVisible row hMatching)).mpr hRow, hKey, hMatching⟩

end Selection
