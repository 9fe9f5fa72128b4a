import Mathlib.Data.List.Forall2
import Mathlib.Tactic.Common

/-! A reader for comma-separated values after RFC 4180: records end with a carriage
return and a line feed, which may be left out after the last one, and a field in double
quotes may hold any character, a quote being written twice. Cells that are read back
whatever follows them give records and files that are read back. -/
namespace Csv

/-- Where the reader stands: before a field, in a field without quotes, inside quotes,
after a quote that may be the closing one, or between the two characters of a line end. -/
inductive Place where
  | start | plain | quoted | closing | returned
  deriving DecidableEq

/-- What a text still holds: the rest of the field, the fields after it in the record,
and the records after that. -/
structure Parsed where
  field : List Char
  fields : List (List Char)
  records : List (List (List Char))

namespace Parsed

def last : Parsed where
  field := []
  fields := []
  records := []

def prepend (text : List Char) (parsed : Parsed) : Parsed := { parsed with field := text ++ parsed.field }

def nextField (parsed : Parsed) : Parsed where
  field := []
  fields := parsed.field :: parsed.fields
  records := parsed.records

/-- All records, the current one first. -/
def all (parsed : Parsed) : List (List (List Char)) := (parsed.field :: parsed.fields) :: parsed.records

def nextRecord (parsed : Parsed) : Parsed where
  field := []
  fields := []
  records := parsed.all

end Parsed

/-- The place after a character, and what the character does to all that follows. -/
def step : Place → Char → Option (Place × (Parsed → Parsed))
  | .quoted, c => if c = '"' then some (.closing, id) else some (.quoted, .prepend [c])
  | .returned, c => if c = '\n' then some (.start, .nextRecord) else none
  | place, c =>
      if c = '"' then
        if place = .start then some (.quoted, id)
        else if place = .closing then some (.quoted, .prepend [c])
        else none
      else if c = ',' then some (.start, .nextField)
      else if c = '\r' then some (.returned, id)
      else if c = '\n' ∨ place = .closing then none
      else some (.plain, .prepend [c])

/-- A line end with nothing after it ends the last record. -/
def read : Place → List Char → Option Parsed
  | place, [] => if place = .quoted ∨ place = .returned then none else some .last
  | place, c :: rest =>
      if place = .returned ∧ c = '\n' ∧ rest = [] then some .last
      else (step place c).bind fun next => (read next.1 rest).map next.2

/-- The fields of each record. -/
def parse (text : String) : Option (List (List String)) :=
  (read .start text.toList).map fun parsed => parsed.all.map (·.map String.ofList)

/-- What a character becomes inside quotes. -/
def escape (c : Char) : List Char := if c = '"' then ['"', '"'] else [c]

/-- What follows a field: the end of the text, a comma or the end of a line. -/
def Ends (rest : List Char) : Prop := ∀ c ∈ rest.head?, c = ',' ∨ c = '\r'

/-- The reader takes the field from the cell, whatever follows. -/
def Reads (cell field : List Char) : Prop :=
  ∀ rest, Ends rest → read .start (cell ++ rest) = (read .closing rest).map (.prepend field)

theorem Parsed.prepend_nil : Parsed.prepend [] = id := rfl

theorem Parsed.prepend_comp (first second : List Char) :
    Parsed.prepend first ∘ Parsed.prepend second = Parsed.prepend (first ++ second) := by
  funext parsed
  simp only [Function.comp, Parsed.prepend, List.append_assoc]

theorem Parsed.map_prepend (first second : List Char) (parsed : Option Parsed) :
    (parsed.map (Parsed.prepend second)).map (Parsed.prepend first) =
      parsed.map (Parsed.prepend (first ++ second)) := by
  rw [Option.map_map, Parsed.prepend_comp]

/-- One step of the reader outside of a line end. -/
theorem read_cons {place next : Place} {c : Char} {build : Parsed → Parsed} (hPlace : place ≠ .returned)
    (hStep : step place c = some (next, build)) (rest : List Char) :
    read place (c :: rest) = (read next rest).map build := by
  rw [read, if_neg fun h => hPlace h.1, hStep, Option.bind_some]

theorem read_quote (rest : List Char) : read .start ('"' :: rest) = read .quoted rest := by
  rw [read_cons (by decide) rfl, Option.map_id, id]

theorem read_comma (rest : List Char) : read .closing (',' :: rest) = (read .start rest).map .nextField :=
  read_cons (by decide) rfl rest

theorem read_lineEnd {rest : List Char} (hRest : rest ≠ []) :
    read .closing ('\r' :: '\n' :: rest) = (read .start rest).map .nextRecord := by
  rw [read_cons (by decide) rfl, Option.map_id, id, read, if_neg fun h => hRest h.2.2]
  rfl

theorem read_escape (c : Char) (rest : List Char) :
    read .quoted (escape c ++ rest) = (read .quoted rest).map (.prepend [c]) := by
  unfold escape
  split
  · next hQuote =>
      subst hQuote
      rw [List.cons_append, List.cons_append, List.nil_append, read_cons (by decide) rfl, read_cons (by decide) rfl,
        Option.map_id, id]
  · next hOther =>
      have hStep : step .quoted c = some (.quoted, .prepend [c]) := if_neg hOther
      exact read_cons (by decide) hStep rest

/-- Inside quotes the reader takes the whole text. -/
theorem read_text (text rest : List Char) :
    read .quoted (text.flatMap escape ++ '"' :: rest) = (read .closing rest).map (.prepend text) := by
  induction text with
  | nil =>
      rw [List.flatMap_nil, List.nil_append, read_cons (by decide) rfl]
      rfl
  | cons c text ih =>
      rw [List.flatMap_cons, List.append_assoc, read_escape, ih, Parsed.map_prepend, List.singleton_append]

theorem reads_quoted (text : List Char) : Reads ('"' :: (text.flatMap escape ++ ['"'])) text := by
  intro rest _
  rw [List.cons_append, List.append_assoc, List.singleton_append, read_quote, read_text]

/-- At the end of a field it does not matter how the field was written. -/
theorem read_ends {rest : List Char} (hEnds : Ends rest) {place : Place} (hPlace : place = .start ∨ place = .plain) :
    read place rest = read .closing rest := by
  cases rest with
  | nil => rcases hPlace with rfl | rfl <;> rfl
  | cons c rest => rcases hPlace with rfl | rfl <;> rcases hEnds c rfl with rfl | rfl <;> rfl

/-- A character that needs no quotes. -/
def isPlain (c : Char) : Bool := c ≠ '"' && c ≠ ',' && c ≠ '\r' && c ≠ '\n'

theorem step_plain {c : Char} (hPlain : isPlain c = true) {place : Place} (hPlace : place = .start ∨ place = .plain) :
    step place c = some (.plain, .prepend [c]) := by
  simp only [isPlain, Bool.and_eq_true, decide_eq_true_eq] at hPlain
  obtain ⟨⟨⟨hQuote, hComma⟩, hReturn⟩, hFeed⟩ := hPlain
  rcases hPlace with rfl | rfl <;> simp [step, hQuote, hComma, hReturn, hFeed]

theorem read_plain {text rest : List Char} (hPlain : ∀ c ∈ text, isPlain c = true) (hEnds : Ends rest) {place : Place}
    (hPlace : place = .start ∨ place = .plain) :
    read place (text ++ rest) = (read .closing rest).map (.prepend text) := by
  induction text generalizing place with
  | nil => rw [List.nil_append, read_ends hEnds hPlace, Parsed.prepend_nil, Option.map_id, id]
  | cons c text ih =>
      have hOutside : place ≠ .returned := by rcases hPlace with rfl | rfl <;> decide
      have hRest := ih (fun other hOther => hPlain other (List.mem_cons_of_mem c hOther)) (Or.inr rfl)
      rw [List.cons_append, read_cons hOutside (step_plain (hPlain c List.mem_cons_self) hPlace), hRest,
        Parsed.map_prepend, List.singleton_append]

theorem reads_plain {text : List Char} (hPlain : ∀ c ∈ text, isPlain c = true) : Reads text text :=
  fun _ hEnds => read_plain hPlain hEnds (Or.inl rfl)

section Records

variable {cells fields : List (List Char)} {rest : List Char} {records : List (List (List Char))}

/-- A record before something that ends it. -/
theorem read_record (hCells : List.Forall₂ Reads cells fields) (hSome : cells ≠ []) (hEnds : Ends rest)
    (hRest : read .closing rest = some { field := [], fields := [], records }) :
    (read .start (List.intercalate [','] cells ++ rest)).map Parsed.all = some (fields :: records) := by
  induction hCells with
  | nil => exact absurd rfl hSome
  | @cons cell field cells fields hCell hCells ih =>
      cases hCells with
      | nil =>
          rw [List.intercalate_singleton, hCell rest hEnds, hRest]
          simp [Parsed.prepend, Parsed.all]
      | cons hNext hLater =>
          obtain ⟨parsed, hParsed, hAll⟩ := Option.map_eq_some_iff.mp (ih (List.cons_ne_nil _ _))
          obtain ⟨hRecord, hRecords⟩ := List.cons.inj hAll
          rw [List.intercalate_cons_cons, List.append_assoc, List.append_assoc, List.singleton_append,
            hCell _ fun c hHead => Or.inl (by simpa using hHead.symm), read_comma, hParsed]
          simp [Parsed.prepend, Parsed.nextField, Parsed.all, hRecords, ← hRecord]

/-- Records with a line end between each two of them. -/
theorem read_records {rows : List (List (List Char))} (hRows : List.Forall₂ (List.Forall₂ Reads) rows records)
    (hSome : rows ≠ []) (hFilled : ∀ row ∈ rows, List.intercalate [','] row ≠ []) :
    (read .start (List.intercalate ['\r', '\n'] (rows.map (List.intercalate [','])))).map Parsed.all = some records := by
  induction hRows with
  | nil => exact absurd rfl hSome
  | @cons row record rows records hRow hRows ih =>
      have hCells : row ≠ [] := by
        rintro rfl
        exact hFilled [] List.mem_cons_self rfl
      cases hRows with
      | nil =>
          rw [List.map_singleton, List.intercalate_singleton, ← List.append_nil (List.intercalate _ _)]
          exact read_record hRow hCells (fun c hHead => nomatch hHead) rfl
      | @cons next _ later _ hNext hLater =>
          have hRecords := ih (List.cons_ne_nil _ _) fun row hMem => hFilled row (List.mem_cons_of_mem _ hMem)
          obtain ⟨parsed, hParsed, hAll⟩ := Option.map_eq_some_iff.mp hRecords
          have hText : List.intercalate ['\r', '\n'] ((next :: later).map (List.intercalate [','])) ≠ [] := by
            rw [List.map_cons]
            cases later with
            | nil => simpa using hFilled next (by simp)
            | cons other later => simp
          rw [List.map_cons, List.map_cons, List.intercalate_cons_cons, ← List.map_cons, List.append_assoc]
          refine read_record hRow hCells (fun c hHead => Or.inr (by simpa using hHead.symm)) ?_
          rw [List.cons_append, List.cons_append, List.nil_append, read_lineEnd hText, hParsed, Option.map_some,
            Parsed.nextRecord, hAll]

end Records

/-- A record of several cells is not an empty text. -/
theorem intercalate_ne_empty (first second : String) (rest : List String) :
    ",".intercalate (first :: second :: rest) ≠ "" := by
  intro hEmpty
  have hChars := congrArg String.toList hEmpty
  rw [String.toList_intercalate, List.map_cons, List.map_cons, List.intercalate_cons_cons] at hChars
  simp at hChars

/-- Files of cells that are read back are read back. -/
theorem parse_lines {rows records : List (List String)}
    (hRows : List.Forall₂ (List.Forall₂ fun cell field => Reads cell.toList field.toList) rows records)
    (hSome : rows ≠ []) (hFilled : ∀ row ∈ rows, ",".intercalate row ≠ "") :
    parse ("\r\n".intercalate (rows.map ",".intercalate)) = some records := by
  have hChars : ("\r\n".intercalate (rows.map ",".intercalate)).toList =
      List.intercalate ['\r', '\n'] ((rows.map (·.map String.toList)).map (List.intercalate [','])) := by
    rw [String.toList_intercalate, List.map_map, List.map_map]
    exact congrArg _ (List.map_congr_left fun row _ => String.toList_intercalate)
  have hRead : List.Forall₂ (List.Forall₂ Reads) (rows.map (·.map String.toList)) (records.map (·.map String.toList)) := by
    rw [List.forall₂_map_left_iff, List.forall₂_map_right_iff]
    refine hRows.imp fun row record hRow => ?_
    rw [List.forall₂_map_left_iff, List.forall₂_map_right_iff]
    exact hRow
  have hNonempty : ∀ row ∈ rows.map (·.map String.toList), List.intercalate [','] row ≠ [] := by
    intro chars hChars hEmpty
    obtain ⟨row, hRow, rfl⟩ := List.mem_map.mp hChars
    refine hFilled row hRow (String.toList_inj.mp ?_)
    rw [String.toList_intercalate]
    exact hEmpty
  have hRecords := read_records hRead (by simpa using hSome) hNonempty
  obtain ⟨parsed, hParsed, hAll⟩ := Option.map_eq_some_iff.mp hRecords
  rw [parse, hChars, hParsed, Option.map_some, hAll, List.map_map]
  simp [Function.comp_def]

end Csv
