import Mathlib.Data.List.Nodup
import Mathlib.Algebra.Order.Ring.Int
import Mathlib.Algebra.BigOperators.Group.List.Basic
import SpotqPayment.Library.Engine

/-! Relational tables: rows with a primary key and any number of columns under a
unique constraint. The constraints are part of the type, so every table that a
program reaches satisfies them; a write that would break one is refused. -/

/-- The primary key of a row, its columns under a unique constraint, and what the types
and checks of its columns admit. A column without a value takes no part in its unique
constraint. -/
class Record (Row : Type) where
  key : Row → Nat
  unique : List (Row → Option String)
  check : Row → Bool := fun _ => true

structure Table (Row : Type) [Record Row] where
  rows : List Row
  keys_nodup : (rows.map Record.key).Nodup
  unique : ∀ column ∈ Record.unique, ∀ first ∈ rows, ∀ second ∈ rows,
    column first = column second → column first ≠ none → Record.key first = Record.key second
  checked : ∀ row ∈ rows, Record.check row = true

namespace Table

open Record (key)

variable {Row : Type} [Record Row]

def empty : Table Row where
  rows := []
  keys_nodup := List.nodup_nil
  unique := by simp
  checked := by simp

/-- The row with a given primary key. -/
def get? (table : Table Row) (id : Nat) : Option Row :=
  table.rows.find? fun row => key row = id

/-- The row with a given value in a unique column. -/
def lookup (table : Table Row) (column : Row → Option String) (value : String) : Option Row :=
  table.rows.find? fun row => column row = some value

/-- No other row holds a value that this row has in a unique column. -/
def Free (table : Table Row) (row : Row) : Prop :=
  ∀ column ∈ Record.unique, ∀ other ∈ table.rows,
    column row = column other → column row ≠ none → key row = key other

instance (table : Table Row) (row : Row) : Decidable (table.Free row) :=
  inferInstanceAs (Decidable (∀ column ∈ Record.unique, ∀ other ∈ table.rows,
    column row = column other → column row ≠ none → key row = key other))

/-- What a write has to meet. -/
def Admits (table : Table Row) (row : Row) : Prop := Record.check row = true ∧ table.Free row

instance (table : Table Row) (row : Row) : Decidable (table.Admits row) :=
  inferInstanceAs (Decidable (Record.check row = true ∧ table.Free row))

/-- The rows after a write: the row with the same key is replaced where it
stands, a row with a new key comes last. -/
def replace (row : Row) : List Row → List Row
  | [] => [row]
  | first :: rest => if key first = key row then row :: rest else first :: replace row rest

theorem mem_replace {row other : Row} {rows : List Row} (h : (rows.map key).Nodup) :
    other ∈ replace row rows ↔ other = row ∨ (other ∈ rows ∧ key other ≠ key row) := by
  induction rows with
  | nil => simp [replace]
  | cons first rest ih =>
      obtain ⟨hFirst, hRest⟩ := List.nodup_cons.mp h
      by_cases hKey : key first = key row
      · have hApart : ∀ r ∈ rest, key r ≠ key row := fun r hr hEq =>
          hFirst (hKey ▸ hEq ▸ List.mem_map_of_mem hr)
        simp only [replace, if_pos hKey, List.mem_cons]
        constructor
        · rintro (rfl | hr)
          · exact Or.inl rfl
          · exact Or.inr ⟨Or.inr hr, hApart other hr⟩
        · rintro (rfl | ⟨rfl | hr, hne⟩)
          · exact Or.inl rfl
          · exact absurd hKey hne
          · exact Or.inr hr
      · simp only [replace, if_neg hKey, List.mem_cons, ih hRest]
        constructor
        · rintro (rfl | rfl | ⟨hr, hne⟩)
          · exact Or.inr ⟨Or.inl rfl, hKey⟩
          · exact Or.inl rfl
          · exact Or.inr ⟨Or.inr hr, hne⟩
        · rintro (rfl | ⟨rfl | hr, hne⟩)
          · exact Or.inr (Or.inl rfl)
          · exact Or.inl rfl
          · exact Or.inr (Or.inr ⟨hr, hne⟩)

theorem replace_nodup {row : Row} {rows : List Row} (h : (rows.map key).Nodup) :
    ((replace row rows).map key).Nodup := by
  induction rows with
  | nil => simp [replace]
  | cons first rest ih =>
      obtain ⟨hFirst, hRest⟩ := List.nodup_cons.mp h
      by_cases hKey : key first = key row
      · simpa [replace, hKey] using h
      · simp only [replace, if_neg hKey, List.map_cons, List.nodup_cons]
        refine ⟨fun hMem => ?_, ih hRest⟩
        obtain ⟨other, hOther, hEq⟩ := List.mem_map.mp hMem
        rcases (mem_replace hRest).mp hOther with rfl | ⟨hOld, _⟩
        · exact hKey hEq.symm
        · exact hFirst (hEq ▸ List.mem_map_of_mem hOld)

/-- Write a row, over the one with the same key if there is one. The write is
refused when the row fails its check or another row already has one of its unique
values. -/
def put (table : Table Row) (row : Row) : Option (Table Row) :=
  if hAdmits : table.Admits row then
    some {
      rows := replace row table.rows
      keys_nodup := replace_nodup table.keys_nodup
      unique := by
        intro column hColumn first hFirst second hSecond hEq hSome
        rcases (mem_replace table.keys_nodup).mp hFirst with rfl | ⟨hOldFirst, _⟩ <;>
          rcases (mem_replace table.keys_nodup).mp hSecond with rfl | ⟨hOldSecond, _⟩
        · rfl
        · exact hAdmits.2 column hColumn second hOldSecond hEq hSome
        · exact (hAdmits.2 column hColumn first hOldFirst hEq.symm (hEq ▸ hSome)).symm
        · exact table.unique column hColumn first hOldFirst second hOldSecond hEq hSome
      checked := by
        intro other hOther
        rcases (mem_replace table.keys_nodup).mp hOther with rfl | ⟨hOld, _⟩
        · exact hAdmits.1
        · exact table.checked other hOld }
  else none

/-- A key that no row has and that is at least `floor`. -/
def freshKey (table : Table Row) (floor : Nat) : Nat :=
  table.rows.foldr (fun row bound => max (key row + 1) bound) floor

theorem key_lt_freshKey {table : Table Row} {floor : Nat} {row : Row} (h : row ∈ table.rows) :
    key row < table.freshKey floor := by
  unfold freshKey
  generalize table.rows = rows at h ⊢
  induction rows with
  | nil => cases h
  | cons first rest ih =>
      simp only [List.foldr_cons]
      rcases List.mem_cons.mp h with rfl | hRest
      · omega
      · have := ih hRest
        omega

theorem get?_eq_some {table : Table Row} {id : Nat} {row : Row} :
    table.get? id = some row ↔ row ∈ table.rows ∧ key row = id := by
  constructor
  · intro h
    exact ⟨List.mem_of_find?_eq_some h, by simpa using List.find?_some h⟩
  · rintro ⟨hMem, rfl⟩
    cases hFind : table.get? (key row) with
    | none =>
        have hApart := List.find?_eq_none.mp hFind row hMem
        simp at hApart
    | some other =>
        have hKey : key other = key row := by simpa using List.find?_some hFind
        have hOther := List.mem_of_find?_eq_some hFind
        rw [List.inj_on_of_nodup_map table.keys_nodup hOther hMem hKey]

theorem get?_eq_none {table : Table Row} {id : Nat} :
    table.get? id = none ↔ ∀ row ∈ table.rows, key row ≠ id := by
  simp [get?, List.find?_eq_none]

theorem get?_key {table : Table Row} {row : Row} (h : row ∈ table.rows) :
    table.get? (key row) = some row :=
  get?_eq_some.mpr ⟨h, rfl⟩

/-- Rows of one table with the same key are the same row. -/
theorem eq_of_key {table : Table Row} {first second : Row} (hFirst : first ∈ table.rows)
    (hSecond : second ∈ table.rows) (h : key first = key second) : first = second :=
  List.inj_on_of_nodup_map table.keys_nodup hFirst hSecond h

theorem lookup_mem {table : Table Row} {column : Row → Option String} {value : String} {row : Row}
    (h : table.lookup column value = some row) : row ∈ table.rows ∧ column row = some value :=
  ⟨List.mem_of_find?_eq_some h, by simpa using List.find?_some h⟩

/-- A unique column names at most one row, so the lookup finds that one. -/
theorem lookup_eq_some {table : Table Row} {column : Row → Option String}
    (hColumn : column ∈ (Record.unique : List (Row → Option String))) {value : String} {row : Row} :
    table.lookup column value = some row ↔ row ∈ table.rows ∧ column row = some value := by
  refine ⟨lookup_mem, ?_⟩
  rintro ⟨hMem, hValue⟩
  cases hFind : table.lookup column value with
  | none => exact absurd hValue (by simpa using List.find?_eq_none.mp hFind row hMem)
  | some other =>
      obtain ⟨hOther, hOtherValue⟩ := lookup_mem hFind
      have hSame : column other = column row := hOtherValue.trans hValue.symm
      rw [eq_of_key hOther hMem
        (table.unique column hColumn other hOther row hMem hSame (by simp [hOtherValue]))]

theorem put_eq_some {table written : Table Row} {row : Row} (h : table.put row = some written) :
    table.Admits row ∧ written.rows = replace row table.rows := by
  unfold put at h
  split at h
  · next hAdmits =>
      cases h
      exact ⟨hAdmits, rfl⟩
  · cases h

theorem put_isSome_iff {table : Table Row} {row : Row} :
    (table.put row).isSome ↔ table.Admits row := by
  unfold put
  split <;> simp_all

theorem mem_put {table written : Table Row} {row other : Row} (h : table.put row = some written) :
    other ∈ written.rows ↔ other = row ∨ (other ∈ table.rows ∧ key other ≠ key row) := by
  rw [(put_eq_some h).2, mem_replace table.keys_nodup]

/-- After a write the written key holds the new row, and no other key changed. -/
theorem get?_put {table written : Table Row} {row : Row} (h : table.put row = some written)
    (id : Nat) : written.get? id = if key row = id then some row else table.get? id := by
  split
  · next hKey => exact get?_eq_some.mpr ⟨(mem_put h).mpr (Or.inl rfl), hKey⟩
  · next hKey =>
      cases hOld : table.get? id with
      | none =>
          rw [get?_eq_none] at hOld ⊢
          intro other hOther
          rcases (mem_put h).mp hOther with rfl | ⟨hMem, _⟩
          · exact hKey
          · exact hOld other hMem
      | some other =>
          obtain ⟨hMem, rfl⟩ := get?_eq_some.mp hOld
          exact get?_eq_some.mpr ⟨(mem_put h).mpr (Or.inr ⟨hMem, fun hEq => hKey hEq.symm⟩), rfl⟩

theorem get?_put_self {table written : Table Row} {row : Row} (h : table.put row = some written) :
    written.get? (key row) = some row :=
  get?_eq_some.mpr ⟨(mem_put h).mpr (Or.inl rfl), rfl⟩

theorem get?_put_of_ne {table written : Table Row} {row : Row} (h : table.put row = some written) {id : Nat}
    (hId : key row ≠ id) : written.get? id = table.get? id := by
  rw [get?_put h, if_neg hId]

/-- A row whose unique values are those of the stored row it replaces can be written. -/
theorem free_of_same {table : Table Row} {row old : Row} (hOld : old ∈ table.rows)
    (hKey : key row = key old) (hSame : ∀ column ∈ Record.unique, column row = column old) :
    table.Free row := by
  intro column hColumn other hOther hEq hSome
  rw [hSame column hColumn] at hEq hSome
  rw [hKey]
  exact table.unique column hColumn old hOld other hOther hEq hSome

/-- So can one that also meets the check of that row. -/
theorem admits_of_same {table : Table Row} {row old : Row} (hOld : old ∈ table.rows) (hKey : key row = key old)
    (hCheck : Record.check row = Record.check old) (hSame : ∀ column ∈ Record.unique, column row = column old) :
    table.Admits row :=
  ⟨hCheck.trans (table.checked old hOld), free_of_same hOld hKey hSame⟩

theorem free_of_no_unique (table : Table Row) (row : Row)
    (h : (Record.unique : List (Row → Option String)) = []) : table.Free row := by
  intro column hColumn
  simp [h] at hColumn

theorem replace_of_fresh {row : Row} {rows : List Row} (h : ∀ other ∈ rows, key other ≠ key row) :
    replace row rows = rows ++ [row] := by
  induction rows with
  | nil => rfl
  | cons first rest ih =>
      have hFirst : key first ≠ key row := h first List.mem_cons_self
      simp [replace, hFirst, ih fun other hOther => h other (List.mem_cons_of_mem first hOther)]

/-- A row with a new key is appended. -/
theorem rows_put_fresh {table written : Table Row} {row : Row} (h : table.put row = some written)
    (hFresh : table.get? (key row) = none) : written.rows = table.rows ++ [row] := by
  rw [(put_eq_some h).2]
  exact replace_of_fresh (get?_eq_none.mp hFresh)

/-- A write to a table without unique columns is refused for its check only. -/
theorem exists_put_of_no_unique (table : Table Row) (row : Row) (hCheck : Record.check row = true)
    (h : (Record.unique : List (Row → Option String)) = []) :
    ∃ written, table.put row = some written :=
  Option.isSome_iff_exists.mp (put_isSome_iff.mpr ⟨hCheck, table.free_of_no_unique row h⟩)

/-- A condition selects at most one row if all rows that meet it are the same. -/
theorem filter_length_le_one_iff {table : Table Row} {matching : Row → Bool} :
    (table.rows.filter matching).length ≤ 1 ↔ ∀ first ∈ table.rows, ∀ second ∈ table.rows,
      matching first = true → matching second = true → first = second := by
  have hNodup : (table.rows.filter matching).Nodup := table.keys_nodup.of_map.filter matching
  have hMem : ∀ row, row ∈ table.rows.filter matching ↔ row ∈ table.rows ∧ matching row = true :=
    fun _ => List.mem_filter
  generalize table.rows.filter matching = rows at hNodup hMem ⊢
  constructor
  · intro hLength first hFirst second hSecond hFirstMatch hSecondMatch
    obtain ⟨only, rfl⟩ | rfl := (Nat.le_one_iff_eq_zero_or_eq_one.mp hLength).symm.imp
      List.length_eq_one_iff.mp List.length_eq_zero_iff.mp
    · rw [List.mem_singleton.mp ((hMem first).mpr ⟨hFirst, hFirstMatch⟩),
        List.mem_singleton.mp ((hMem second).mpr ⟨hSecond, hSecondMatch⟩)]
    · exact absurd ((hMem first).mpr ⟨hFirst, hFirstMatch⟩) List.not_mem_nil
  · intro hSame
    match rows with
    | [] => exact Nat.zero_le 1
    | [_] => exact Nat.le_refl 1
    | first :: second :: rest =>
        obtain ⟨hFirst, hFirstMatch⟩ := (hMem first).mp List.mem_cons_self
        obtain ⟨hSecond, hSecondMatch⟩ := (hMem second).mp (List.mem_cons_of_mem first List.mem_cons_self)
        have hNew := (List.nodup_cons.mp hNodup).1
        rw [hSame first hFirst second hSecond hFirstMatch hSecondMatch] at hNew
        exact absurd List.mem_cons_self hNew

/-- A condition that only one row meets selects that row. -/
theorem filter_eq_singleton {table : Table Row} {matching : Row → Bool} {row : Row}
    (hRow : row ∈ table.rows) (hMatch : matching row = true)
    (hOnly : ∀ other ∈ table.rows, matching other = true → key other = key row) :
    table.rows.filter matching = [row] := by
  have hNodup : (table.rows.filter matching).Nodup := table.keys_nodup.of_map.filter matching
  have hSame : ∀ other, other ∈ table.rows.filter matching ↔ other ∈ [row] := by
    intro other
    rw [List.mem_filter, List.mem_singleton]
    constructor
    · intro h
      exact eq_of_key h.1 hRow (hOnly other h.1 h.2)
    · intro h
      rw [h]
      exact ⟨hRow, hMatch⟩
  exact List.perm_singleton.mp
    ((List.perm_ext_iff_of_nodup hNodup (List.nodup_singleton row)).mpr hSame)

/-- The condition on the key selects the row with that key. -/
theorem filter_key (table : Table Row) (id : Nat) :
    table.rows.filter (fun row => key row = id) = (table.get? id).toList := by
  cases hGet : table.get? id with
  | none =>
      refine List.filter_eq_nil_iff.mpr fun row hRow => ?_
      rw [decide_eq_true_iff]
      exact get?_eq_none.mp hGet row hRow
  | some row =>
      obtain ⟨hRow, rfl⟩ := get?_eq_some.mp hGet
      refine filter_eq_singleton hRow (decide_eq_true rfl) fun other _ hOther => ?_
      exact of_decide_eq_true hOther

theorem get?_freshKey {table : Table Row} {floor : Nat} : table.get? (table.freshKey floor) = none :=
  get?_eq_none.mpr fun _ hRow => Nat.ne_of_lt (key_lt_freshKey hRow)

theorem sum_replace (weight : Row → Int) {row old : Row} {rows : List Row}
    (h : (rows.map key).Nodup) (hOld : old ∈ rows) (hKey : key row = key old) :
    ((replace row rows).map weight).sum = (rows.map weight).sum - weight old + weight row := by
  induction rows with
  | nil => cases hOld
  | cons first rest ih =>
      obtain ⟨hFirst, hRest⟩ := List.nodup_cons.mp h
      rcases List.mem_cons.mp hOld with rfl | hIn
      · simp only [replace, hKey, if_pos, List.map_cons, List.sum_cons]
        omega
      · have hApart : key first ≠ key row := fun hEq =>
          hFirst (hEq ▸ hKey ▸ List.mem_map_of_mem hIn)
        simp only [replace, if_neg hApart, List.map_cons, List.sum_cons, ih hRest hIn]
        omega

/-- A weight summed over all rows. -/
def total (table : Table Row) (weight : Row → Int) : Int := (table.rows.map weight).sum

/-- A write changes a total by the weight of the new row less that of the row it
replaces. -/
theorem total_put {table written : Table Row} {row : Row} (h : table.put row = some written)
    (weight : Row → Int) :
    written.total weight =
      table.total weight - (table.get? (key row)).elim 0 weight + weight row := by
  unfold total
  cases hOld : table.get? (key row) with
  | none =>
      rw [rows_put_fresh h hOld, List.map_append, List.sum_append]
      simp
  | some old =>
      obtain ⟨hMem, hKey⟩ := get?_eq_some.mp hOld
      rw [(put_eq_some h).2, sum_replace weight table.keys_nodup hMem hKey.symm]
      rfl

theorem total_eq_zero {table : Table Row} {weight : Row → Int}
    (h : ∀ row ∈ table.rows, weight row = 0) : table.total weight = 0 :=
  List.sum_eq_zero fun value hValue => by
    obtain ⟨row, hRow, rfl⟩ := List.mem_map.mp hValue
    exact h row hRow

/-- Write rows one after another, up to the first that is refused. -/
abbrev putAll (table : Table Row) (rows : List Row) : Option (Table Row) :=
  Engine.applyAll put table rows

theorem putAll_cons {table final : Table Row} {row : Row} {rows : List Row} :
    table.putAll (row :: rows) = some final ↔
      ∃ next, table.put row = some next ∧ next.putAll rows = some final :=
  Option.bind_eq_some_iff

theorem putAll_singleton {table final : Table Row} {row : Row} :
    table.putAll [row] = some final ↔ table.put row = some final := by
  rw [putAll, Engine.applyAll_singleton]

/-- Every row of the result was there before or was written. -/
theorem mem_of_putAll {table final : Table Row} {rows : List Row} (h : table.putAll rows = some final)
    {row : Row} (hRow : row ∈ final.rows) : row ∈ table.rows ∨ row ∈ rows := by
  induction rows generalizing table with
  | nil =>
      cases h
      exact Or.inl hRow
  | cons first rest ih =>
      obtain ⟨next, hPut, hRest⟩ := putAll_cons.mp h
      rcases ih hRest with hNext | hLater
      · rcases (mem_put hPut).mp hNext with rfl | ⟨hOld, _⟩
        · exact Or.inr List.mem_cons_self
        · exact Or.inl hOld
      · exact Or.inr (List.mem_cons_of_mem first hLater)

/-- No key disappears. -/
theorem key_mem_of_putAll {table final : Table Row} {rows : List Row}
    (h : table.putAll rows = some final) {row : Row} (hRow : row ∈ table.rows) :
    ∃ other ∈ final.rows, key other = key row := by
  induction rows generalizing table row with
  | nil =>
      cases h
      exact ⟨row, hRow, rfl⟩
  | cons first rest ih =>
      obtain ⟨next, hPut, hRest⟩ := putAll_cons.mp h
      by_cases hKey : key row = key first
      · obtain ⟨other, hOther, hSame⟩ := ih hRest ((mem_put hPut).mpr (Or.inl rfl))
        exact ⟨other, hOther, hSame.trans hKey.symm⟩
      · exact ih hRest ((mem_put hPut).mpr (Or.inr ⟨hRow, hKey⟩))

/-- A key that is not written keeps its row. -/
theorem get?_putAll_of_absent {table final : Table Row} {rows : List Row}
    (h : table.putAll rows = some final) {id : Nat} (hAbsent : ∀ row ∈ rows, key row ≠ id) :
    final.get? id = table.get? id := by
  induction rows generalizing table with
  | nil =>
      cases h
      rfl
  | cons first rest ih =>
      obtain ⟨next, hPut, hRest⟩ := putAll_cons.mp h
      rw [ih hRest fun row hRow => hAbsent row (List.mem_cons_of_mem first hRow),
        get?_put_of_ne hPut (hAbsent first List.mem_cons_self)]

theorem filter_replace_le {p : Row → Bool} {row : Row} (hRow : p row = false) (rows : List Row) :
    ((replace row rows).filter p).length ≤ (rows.filter p).length := by
  induction rows with
  | nil => simp [replace, hRow]
  | cons first rest ih =>
      unfold replace
      split
      · rw [List.filter_cons_of_neg (by simp [hRow])]
        exact (List.sublist_cons_self first rest).filter p |>.length_le
      · simp only [List.filter_cons]
        split
        · exact Nat.succ_le_succ ih
        · exact ih

/-- Writing rows that do not count never raises a count of rows. -/
theorem filter_putAll_le {p : Row → Bool} {table final : Table Row} {rows : List Row}
    (h : table.putAll rows = some final) (hRows : ∀ row ∈ rows, p row = false) :
    (final.rows.filter p).length ≤ (table.rows.filter p).length := by
  induction rows generalizing table with
  | nil =>
      cases h
      exact le_rfl
  | cons first rest ih =>
      obtain ⟨next, hPut, hRest⟩ := putAll_cons.mp h
      have hLater := ih hRest fun row hRow => hRows row (List.mem_cons_of_mem first hRow)
      have hFirst := filter_replace_le (hRows first List.mem_cons_self) table.rows
      rw [(put_eq_some hPut).2] at hLater
      exact hLater.trans hFirst

/-- Rows that keep what the constraints look at in the stored rows they replace are accepted. -/
theorem exists_putAll_of_same {table : Table Row} {rows : List Row}
    (hSame : ∀ row ∈ rows, ∃ old ∈ table.rows, key row = key old ∧ Record.check row = Record.check old ∧
      ∀ column ∈ Record.unique, column row = column old) :
    ∃ final, table.putAll rows = some final := by
  induction rows generalizing table with
  | nil => exact ⟨table, rfl⟩
  | cons first rest ih =>
      obtain ⟨old, hOld, hKey, hCheck, hColumns⟩ := hSame first List.mem_cons_self
      have hAdmits := admits_of_same hOld hKey hCheck hColumns
      obtain ⟨next, hPut⟩ := Option.isSome_iff_exists.mp (put_isSome_iff.mpr hAdmits)
      have hNext : ∀ row ∈ rest, ∃ old ∈ next.rows, key row = key old ∧ Record.check row = Record.check old ∧
          ∀ column ∈ Record.unique, column row = column old := by
        intro row hRow
        obtain ⟨before, hBefore, hKeyBefore, hCheckBefore, hColumnsBefore⟩ :=
          hSame row (List.mem_cons_of_mem first hRow)
        by_cases hFirst : key before = key first
        · have hEq : before = old := eq_of_key hBefore hOld (hFirst.trans hKey)
          subst hEq
          refine ⟨first, (mem_put hPut).mpr (Or.inl rfl), hKeyBefore.trans hFirst, hCheckBefore.trans hCheck.symm, ?_⟩
          intro column hColumn
          rw [hColumnsBefore column hColumn, hColumns column hColumn]
        · exact ⟨before, (mem_put hPut).mpr (Or.inr ⟨hBefore, hFirst⟩), hKeyBefore, hCheckBefore, hColumnsBefore⟩
      obtain ⟨final, hFinal⟩ := ih hNext
      exact ⟨final, putAll_cons.mpr ⟨next, hPut, hFinal⟩⟩

/-- Of rows with different keys each one is stored. -/
theorem get?_putAll_of_mem {table final : Table Row} {rows : List Row} (h : table.putAll rows = some final)
    (hNodup : (rows.map key).Nodup) {row : Row} (hRow : row ∈ rows) : final.get? (key row) = some row := by
  induction rows generalizing table with
  | nil => cases hRow
  | cons first rest ih =>
      obtain ⟨next, hPut, hRest⟩ := putAll_cons.mp h
      obtain ⟨hFirst, hNodupRest⟩ := List.nodup_cons.mp hNodup
      rcases List.mem_cons.mp hRow with rfl | hIn
      · have hAbsent : ∀ other ∈ rest, key other ≠ key row := fun other hOther hSame =>
          hFirst (hSame ▸ List.mem_map_of_mem hOther)
        rw [get?_putAll_of_absent hRest hAbsent, get?_put hPut, if_pos rfl]
      · exact ih hRest hNodupRest hIn

/-- Updating some rows changes these and no others. -/
theorem get?_updateSome [DecidableEq Row] {table final : Table Row} {selected : List Row} {update : Row → Row}
    (hKey : ∀ row, key (update row) = key row) (hSelected : ∀ row ∈ selected, row ∈ table.rows)
    (hNodup : (selected.map key).Nodup) (h : table.putAll (selected.map update) = some final) (id : Nat) :
    final.get? id = (table.get? id).map fun row => if row ∈ selected then update row else row := by
  have hSame : (selected.map update).map key = selected.map key := by simp [hKey]
  by_cases hMatch : ∃ row ∈ selected, key row = id
  · obtain ⟨row, hRow, rfl⟩ := hMatch
    have hGet := get?_putAll_of_mem h (hSame ▸ hNodup) (List.mem_map_of_mem hRow)
    rw [hKey] at hGet
    rw [hGet, get?_key (hSelected row hRow), Option.map_some, if_pos hRow]
  · have hAbsent : ∀ row ∈ selected.map update, key row ≠ id := by
      intro row hRow hId
      obtain ⟨old, hOld, rfl⟩ := List.mem_map.mp hRow
      exact hMatch ⟨old, hOld, (hKey old).symm.trans hId⟩
    rw [get?_putAll_of_absent h hAbsent]
    cases hGet : table.get? id with
    | none => rfl
    | some row => rw [Option.map_some, if_neg fun hIn => hMatch ⟨row, hIn, (get?_eq_some.mp hGet).2⟩]

/-- The rows after an update of some: each row as it was or updated. -/
theorem mem_updateSome [DecidableEq Row] {table final : Table Row} {selected : List Row} {update : Row → Row}
    (hKey : ∀ row, key (update row) = key row) (hSelected : ∀ row ∈ selected, row ∈ table.rows)
    (hNodup : (selected.map key).Nodup) (h : table.putAll (selected.map update) = some final) {row : Row} :
    row ∈ final.rows ↔ ∃ old ∈ table.rows, row = if old ∈ selected then update old else old := by
  have hSame (old : Row) : key (if old ∈ selected then update old else old) = key old := by
    split
    · exact hKey old
    · rfl
  constructor
  · intro hRow
    have hGet := get?_key hRow
    rw [get?_updateSome hKey hSelected hNodup h] at hGet
    obtain ⟨old, hOld, hUpdated⟩ := Option.map_eq_some_iff.mp hGet
    exact ⟨old, (get?_eq_some.mp hOld).1, hUpdated.symm⟩
  · rintro ⟨old, hOld, rfl⟩
    have hGet := get?_updateSome hKey hSelected hNodup h (key old)
    rw [get?_key hOld, Option.map_some] at hGet
    exact (get?_eq_some.mp hGet).1

theorem ite_mem_filter [DecidableEq Row] {table : Table Row} {matching : Row → Bool} {row : Row}
    (hRow : row ∈ table.rows) (updated : Row) :
    (if row ∈ table.rows.filter matching then updated else row) = if matching row then updated else row :=
  if_congr (List.mem_filter.trans (and_iff_right hRow)) rfl rfl

/-- Updating all rows that match changes these and no others. -/
theorem get?_updateMany [DecidableEq Row] {table final : Table Row} {matching : Row → Bool} {update : Row → Row}
    (hKey : ∀ row, key (update row) = key row)
    (h : table.putAll ((table.rows.filter matching).map update) = some final) (id : Nat) :
    final.get? id = (table.get? id).map fun row => if matching row then update row else row := by
  have hNodup := table.keys_nodup.sublist ((List.filter_sublist (p := matching)).map key)
  rw [get?_updateSome hKey (fun row hIn => (List.mem_filter.mp hIn).1) hNodup h]
  cases hGet : table.get? id with
  | none => rfl
  | some row => rw [Option.map_some, Option.map_some, ite_mem_filter (get?_eq_some.mp hGet).1]

theorem mem_updateMany [DecidableEq Row] {table final : Table Row} {matching : Row → Bool} {update : Row → Row}
    (hKey : ∀ row, key (update row) = key row)
    (h : table.putAll ((table.rows.filter matching).map update) = some final) {row : Row} :
    row ∈ final.rows ↔ ∃ old ∈ table.rows, row = if matching old then update old else old := by
  have hNodup := table.keys_nodup.sublist ((List.filter_sublist (p := matching)).map key)
  rw [mem_updateSome hKey (fun row hIn => (List.mem_filter.mp hIn).1) hNodup h]
  refine exists_congr fun old => and_congr_right fun hOld => ?_
  rw [ite_mem_filter hOld]

/-- The rows of highest rank. -/
def highest (rank : Row → Int) (rows : List Row) : List Row :=
  rows.filter fun row => rows.all fun other => rank other ≤ rank row

/-- `findFirst` with a descending order: a row of highest rank among those that
match. Which of several such rows the database returns is left to `tie`. -/
def findFirst (table : Table Row) (tie : Nat) (rank : Row → Int) (matching : Row → Bool) : Option Row :=
  let candidates := highest rank (table.rows.filter matching)
  candidates[tie % candidates.length]?

omit [Record Row] in
theorem exists_highest (rank : Row → Int) {rows : List Row} (h : rows ≠ []) :
    ∃ row ∈ rows, ∀ other ∈ rows, rank other ≤ rank row := by
  induction rows with
  | nil => exact absurd rfl h
  | cons first rest ih =>
      by_cases hRest : rest = []
      · subst hRest
        exact ⟨first, List.mem_cons_self, by simp⟩
      · obtain ⟨best, hBest, hMax⟩ := ih hRest
        by_cases hFirst : rank best ≤ rank first
        · refine ⟨first, List.mem_cons_self, fun other hOther => ?_⟩
          rcases List.mem_cons.mp hOther with rfl | hIn
          · exact le_rfl
          · exact (hMax other hIn).trans hFirst
        · refine ⟨best, List.mem_cons_of_mem first hBest, fun other hOther => ?_⟩
          rcases List.mem_cons.mp hOther with rfl | hIn
          · exact (not_le.mp hFirst).le
          · exact hMax other hIn

theorem findFirst_some {table : Table Row} {tie : Nat} {rank : Row → Int} {matching : Row → Bool}
    {row : Row} (h : table.findFirst tie rank matching = some row) :
    row ∈ table.rows ∧ matching row = true ∧
      ∀ other ∈ table.rows, matching other = true → rank other ≤ rank row := by
  have hMem := List.mem_of_getElem? h
  obtain ⟨hIn, hMax⟩ := List.mem_filter.mp hMem
  obtain ⟨hRow, hMatch⟩ := List.mem_filter.mp hIn
  refine ⟨hRow, hMatch, fun other hOther hOtherMatch => ?_⟩
  have hAll := List.all_eq_true.mp hMax other (List.mem_filter.mpr ⟨hOther, hOtherMatch⟩)
  simpa using hAll

/-- Each matching row of highest rank is the one returned for some tie. -/
theorem exists_findFirst {table : Table Row} {rank : Row → Int} {matching : Row → Bool} {row : Row}
    (hRow : row ∈ table.rows) (hMatch : matching row = true)
    (hMax : ∀ other ∈ table.rows, matching other = true → rank other ≤ rank row) :
    ∃ tie, table.findFirst tie rank matching = some row := by
  have hHighest : row ∈ highest rank (table.rows.filter matching) := by
    refine List.mem_filter.mpr ⟨List.mem_filter.mpr ⟨hRow, hMatch⟩, List.all_eq_true.mpr fun other hOther => ?_⟩
    obtain ⟨hMem, hOtherMatch⟩ := List.mem_filter.mp hOther
    exact decide_eq_true (hMax other hMem hOtherMatch)
  obtain ⟨tie, hLt, hGet⟩ := List.mem_iff_getElem.mp hHighest
  refine ⟨tie, ?_⟩
  rw [findFirst, Nat.mod_eq_of_lt hLt, List.getElem?_eq_getElem hLt, hGet]

/-- The search fails only when no row matches. -/
theorem findFirst_eq_none {table : Table Row} {tie : Nat} {rank : Row → Int}
    {matching : Row → Bool} :
    table.findFirst tie rank matching = none ↔ ∀ row ∈ table.rows, matching row = false := by
  constructor
  · intro h row hRow
    by_contra hMatch
    have hIn : row ∈ table.rows.filter matching :=
      List.mem_filter.mpr ⟨hRow, by simpa using hMatch⟩
    obtain ⟨best, hBest, hMax⟩ := exists_highest rank (List.ne_nil_of_mem hIn)
    have hHighest : best ∈ highest rank (table.rows.filter matching) :=
      List.mem_filter.mpr ⟨hBest, List.all_eq_true.mpr fun other hOther => by simpa using hMax other hOther⟩
    have hLt := Nat.mod_lt tie (List.length_pos_of_mem hHighest)
    exact absurd h (by simp [findFirst, List.getElem?_eq_getElem hLt])
  · intro h
    have hNone : table.rows.filter matching = [] :=
      List.filter_eq_nil_iff.mpr fun row hRow => by simp [h row hRow]
    simp [findFirst, hNone, highest]

end Table
