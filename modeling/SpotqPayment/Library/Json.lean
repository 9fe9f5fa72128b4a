import SpotqPayment.Library.Hexadecimal
import Mathlib.Data.List.Forall2
import Mathlib.Tactic.Common

/-! JSON values with `stringify` and `parse`. The writer escapes as `JSON.stringify`
does and writes no whitespace; the reader skips whitespace and accepts every escape.
Numbers are integers. Reading gives back what was written. -/

inductive Json where
  | null
  | bool (value : Bool)
  | num (value : Int)
  | str (value : String)
  | arr (items : List Json)
  | obj (fields : List (String × Json))

namespace Json

open Hexadecimal

/-- What a character becomes inside quotes. -/
def escape (c : Char) : List Char :=
  if c = '"' then ['\\', '"']
  else if c = '\\' then ['\\', '\\']
  else if c = '\x08' then ['\\', 'b']
  else if c = '\t' then ['\\', 't']
  else if c = '\n' then ['\\', 'n']
  else if c = '\x0c' then ['\\', 'f']
  else if c = '\r' then ['\\', 'r']
  else if c.toNat < 32 then ['\\', 'u', '0', '0', Nat.digitChar (c.toNat / 16), Nat.digitChar (c.toNat % 16)]
  else [c]

def quoted (text : String) : List Char := '"' :: (text.toList.flatMap escape ++ ['"'])

def number (value : Int) : List Char :=
  if value < 0 then '-' :: Nat.toDigits 10 value.natAbs else Nat.toDigits 10 value.natAbs

/-- Further parts, each after a comma, and the closing bracket. -/
def closed (closing : Char) : List (List Char) → List Char
  | [] => [closing]
  | part :: rest => ',' :: (part ++ closed closing rest)

def enclosed (opening closing : Char) : List (List Char) → List Char
  | [] => [opening, closing]
  | part :: rest => opening :: (part ++ closed closing rest)

mutual

def chars : Json → List Char
  | .null => ['n', 'u', 'l', 'l']
  | .bool true => ['t', 'r', 'u', 'e']
  | .bool false => ['f', 'a', 'l', 's', 'e']
  | .num value => number value
  | .str value => quoted value
  | .arr items => enclosed '[' ']' (itemsChars items)
  | .obj fields => enclosed '{' '}' (fieldsChars fields)

def itemsChars : List Json → List (List Char)
  | [] => []
  | item :: rest => chars item :: itemsChars rest

def fieldsChars : List (String × Json) → List (List Char)
  | [] => []
  | (name, value) :: rest => (quoted name ++ ':' :: chars value) :: fieldsChars rest

end

def stringify (json : Json) : String := String.ofList json.chars

/-- A reader takes a value from the front of its input. -/
abbrev Reader (Value : Type) := List Char → Option (Value × List Char)

def isSpace (c : Char) : Bool := c = ' ' || c = '\t' || c = '\n' || c = '\r'

def skipSpace (input : List Char) : List Char := input.dropWhile isSpace

/-- The character of a `\u` escape; surrogates are left out. -/
def unicode? (first second third fourth : Char) : Option Char := do
  let a ← hexDigit? first
  let b ← hexDigit? second
  let c ← hexDigit? third
  let d ← hexDigit? fourth
  let unit := 4096 * a + 256 * b + 16 * c + d
  if unit.isValidChar then some (Char.ofNat unit) else none

def unescape? (c : Char) : Option Char :=
  if c = '"' ∨ c = '\\' ∨ c = '/' then some c
  else if c = 'b' then some '\x08'
  else if c = 't' then some '\t'
  else if c = 'n' then some '\n'
  else if c = 'f' then some '\x0c'
  else if c = 'r' then some '\r'
  else none

/-- The characters up to the closing quote. -/
def readChars : Reader (List Char)
  | [] => none
  | c :: rest =>
      if c = '"' then some ([], rest)
      else if c = '\\' then
        match rest with
        | 'u' :: a :: b :: d :: e :: rest => (unicode? a b d e).bind fun c => (readChars rest).map (·.map (c :: ·) id)
        | e :: rest => (unescape? e).bind fun c => (readChars rest).map (·.map (c :: ·) id)
        | [] => none
      else if c.toNat < 32 then none
      else (readChars rest).map (·.map (c :: ·) id)

def readQuoted : Reader String := fun input =>
  match skipSpace input with
  | '"' :: rest => (readChars rest).map (·.map String.ofList id)
  | _ => none

/-- A number without leading zeros. -/
def readNat : Reader Nat := fun input =>
  let digits := input.takeWhile Char.isDigit
  let value := Nat.ofDigitChars 10 digits 0
  if Nat.toDigits 10 value = digits then some (value, input.dropWhile Char.isDigit) else none

def readNumber : Reader Int
  | '-' :: rest => (readNat rest).map (·.map (fun value : Nat => -(value : Int)) id)
  | input => (readNat input).map (·.map Int.ofNat id)

/-- Values after commas, up to the closing bracket. -/
def readClosed {Value : Type} (item : Reader Value) (closing : Char) : Nat → Reader (List Value)
  | 0, _ => none
  | fuel + 1, input =>
      match skipSpace input with
      | [] => none
      | c :: rest =>
          if c = closing then some ([], rest)
          else if c = ',' then
            (item rest).bind fun (value, rest) =>
              (readClosed item closing fuel rest).map (·.map (value :: ·) id)
          else none

def readEnclosed {Value : Type} (item : Reader Value) (closing : Char) : Reader (List Value) := fun input =>
  match skipSpace input with
  | [] => none
  | c :: rest =>
      if c = closing then some ([], rest)
      else
        (item (c :: rest)).bind fun (value, rest) =>
          (readClosed item closing (rest.length + 1) rest).map (·.map (value :: ·) id)

def readField {Value : Type} (value : Reader Value) : Reader (String × Value) := fun input =>
  (readQuoted input).bind fun (name, rest) =>
    match skipSpace rest with
    | ':' :: rest => (value rest).map (·.map (fun value => (name, value)) id)
    | _ => none

/-- The fuel bounds the nesting. -/
def readValue : Nat → Reader Json
  | 0, _ => none
  | fuel + 1, input =>
      match skipSpace input with
      | 'n' :: 'u' :: 'l' :: 'l' :: rest => some (.null, rest)
      | 't' :: 'r' :: 'u' :: 'e' :: rest => some (.bool true, rest)
      | 'f' :: 'a' :: 'l' :: 's' :: 'e' :: rest => some (.bool false, rest)
      | '"' :: rest => (readChars rest).map (·.map (fun text => .str (String.ofList text)) id)
      | '[' :: rest => (readEnclosed (readValue fuel) ']' rest).map (·.map .arr id)
      | '{' :: rest => (readEnclosed (readField (readValue fuel)) '}' rest).map (·.map .obj id)
      | rest => (readNumber rest).map (·.map .num id)

def parse (text : String) : Option Json :=
  (readValue (text.length + 1) text.toList).bind fun (json, rest) =>
    if skipSpace rest = [] then some json else none

/-- What follows a value does not go on with a digit. -/
def Ends (rest : List Char) : Prop := ∀ c, rest.head? = some c → c.isDigit = false

/-- The reader takes the value from its text, whatever follows. -/
def Reads {Value : Type} (reader : Reader Value) (text : List Char) (value : Value) : Prop :=
  ∀ rest, Ends rest → reader (text ++ rest) = some (value, rest)

theorem ends_nil : Ends [] := fun _ hHead => nomatch hHead

theorem ends_cons {c : Char} {rest : List Char} (h : c.isDigit = false) : Ends (c :: rest) := by
  intro head hHead
  cases hHead
  exact h

theorem skipSpace_cons {c : Char} {rest : List Char} (h : isSpace c = false) : skipSpace (c :: rest) = c :: rest :=
  List.dropWhile_cons_of_neg (by simp [h])

section Strings

theorem unicode?_control {c : Char} (h : c.toNat < 32) :
    unicode? '0' '0' (Nat.digitChar (c.toNat / 16)) (Nat.digitChar (c.toNat % 16)) = some c := by
  have hHigh := hexDigit?_digitChar (c.toNat / 16) (by omega)
  have hLow := hexDigit?_digitChar (c.toNat % 16) (by omega)
  have hUnit : 16 * (c.toNat / 16) + c.toNat % 16 = c.toNat := by omega
  have hZero : hexDigit? '0' = some 0 := by decide
  simp only [unicode?, hHigh, hLow, hZero, Option.bind_eq_bind, Option.bind_some]
  have hValid : c.toNat.isValidChar := c.valid
  simp only [Nat.mul_zero, Nat.zero_add, hUnit, Char.ofNat_toNat, if_pos hValid]

/-- A backslash with a letter that stands for a character. -/
theorem readChars_letter {letter c : Char} (h : unescape? letter = some c) (rest : List Char) :
    readChars ('\\' :: letter :: rest) = (readChars rest).map (·.map (c :: ·) id) := by
  have hLetter : letter ≠ 'u' := by
    rintro rfl
    have hNone : unescape? 'u' = none := by decide
    cases hNone.symm.trans h
  rw [readChars.eq_def]
  simp only [if_neg (by decide : ¬ '\\' = '"'), if_true]
  split
  · next hHead => exact absurd (List.cons.inj hHead).1 hLetter
  · next hHead =>
      obtain ⟨rfl, rfl⟩ := List.cons.inj hHead
      rw [h, Option.bind_some]
  · next hHead => cases hHead

/-- An escaped character is read back. -/
theorem readChars_escape (c : Char) (rest : List Char) :
    readChars (escape c ++ rest) = (readChars rest).map (·.map (c :: ·) id) := by
  unfold escape
  split_ifs with hQuote hBackslash hB hT hN hF hR hControl
  · rw [hQuote]
    exact readChars_letter (by decide) rest
  · rw [hBackslash]
    exact readChars_letter (by decide) rest
  · rw [hB]
    exact readChars_letter (by decide) rest
  · rw [hT]
    exact readChars_letter (by decide) rest
  · rw [hN]
    exact readChars_letter (by decide) rest
  · rw [hF]
    exact readChars_letter (by decide) rest
  · rw [hR]
    exact readChars_letter (by decide) rest
  · rw [List.cons_append, readChars.eq_def]
    simp only [List.cons_append, List.nil_append, if_neg (by decide : ¬ '\\' = '"'), if_true,
      unicode?_control hControl, Option.bind_some]
  · rw [List.cons_append, List.nil_append, readChars.eq_def]
    simp only [if_neg hQuote, if_neg hBackslash, if_neg hControl]

theorem readChars_text (text rest : List Char) :
    readChars (text.flatMap escape ++ '"' :: rest) = some (text, rest) := by
  induction text with
  | nil =>
      rw [List.flatMap_nil, List.nil_append, readChars.eq_def]
      rfl
  | cons c text ih =>
      rw [List.flatMap_cons, List.append_assoc, readChars_escape, ih]
      rfl

theorem readQuoted_quoted (text : String) (rest : List Char) :
    readQuoted (quoted text ++ rest) = some (text, rest) := by
  have hSkip : skipSpace (quoted text ++ rest) = '"' :: (text.toList.flatMap escape ++ '"' :: rest) := by
    simp only [quoted, List.cons_append, List.append_assoc, List.nil_append]
    exact skipSpace_cons (by decide)
  simp only [readQuoted, hSkip, readChars_text, Option.map_some, Prod.map_apply, String.ofList_toList, id]

end Strings

section Numbers

theorem isDigit_of_toDigits {n : Nat} {c : Char} (h : c ∈ Nat.toDigits 10 n) : c.isDigit = true :=
  Nat.isDigit_of_mem_toDigits (by decide) (by decide) h

theorem digits_then (n : Nat) {rest : List Char} (hEnds : Ends rest) :
    (Nat.toDigits 10 n ++ rest).takeWhile Char.isDigit = Nat.toDigits 10 n ∧
      (Nat.toDigits 10 n ++ rest).dropWhile Char.isDigit = rest := by
  have hDigits : ∀ c ∈ Nat.toDigits 10 n, c.isDigit = true := fun c hMem => isDigit_of_toDigits hMem
  rw [List.takeWhile_append_of_pos hDigits, List.dropWhile_append_of_pos hDigits]
  cases rest with
  | nil => exact ⟨List.append_nil _, rfl⟩
  | cons c rest =>
      have hOther : c.isDigit = false := hEnds c rfl
      rw [List.takeWhile_cons_of_neg (by simp [hOther]), List.dropWhile_cons_of_neg (by simp [hOther])]
      exact ⟨List.append_nil _, rfl⟩

theorem reads_nat (n : Nat) : Reads readNat (Nat.toDigits 10 n) n := by
  intro rest hEnds
  obtain ⟨hTake, hDrop⟩ := digits_then n hEnds
  simp only [readNat, hTake, hDrop, Nat.ofDigitChars_ten_toDigits, if_true]

/-- A number starts with a sign or with a digit. -/
theorem number_head (value : Int) : ∃ c rest, number value = c :: rest ∧ (c = '-' ∨ c.isDigit = true) := by
  unfold number
  split
  · exact ⟨_, _, rfl, Or.inl rfl⟩
  · obtain ⟨c, rest, hDigits⟩ := List.exists_cons_of_ne_nil (@Nat.toDigits_ne_nil value.natAbs 10)
    exact ⟨c, rest, hDigits, Or.inr (isDigit_of_toDigits (hDigits ▸ List.mem_cons_self))⟩

theorem reads_number (value : Int) : Reads readNumber (number value) value := by
  intro rest hEnds
  unfold number
  split
  · next hNegative =>
      simp only [List.cons_append, readNumber, reads_nat value.natAbs rest hEnds, Option.map_some, Prod.map_apply, id]
      rw [Int.ofNat_natAbs_of_nonpos (Int.le_of_lt hNegative), Int.neg_neg]
  · next hNonnegative =>
      obtain ⟨c, digits, hDigits⟩ := List.exists_cons_of_ne_nil (@Nat.toDigits_ne_nil value.natAbs 10)
      have hDigit : c.isDigit = true := isDigit_of_toDigits (hDigits ▸ List.mem_cons_self)
      have hRead := reads_nat value.natAbs rest hEnds
      have hValue : Int.ofNat value.natAbs = value := Int.natAbs_of_nonneg (Int.not_lt.mp hNonnegative)
      have hSign : c ≠ '-' := by
        rintro rfl
        cases hDigit
      rw [hDigits] at hRead ⊢
      simp only [List.cons_append] at hRead ⊢
      unfold readNumber
      split
      · next hHead => exact absurd (List.cons.inj hHead).1 hSign
      · rw [hRead, Option.map_some, Prod.map_apply, hValue]
        rfl

end Numbers

section Sequences

variable {Value : Type} {item : Reader Value} {closing : Char}

/-- A bracket that ends a sequence. -/
structure Closes (closing : Char) : Prop where
  space : isSpace closing = false
  digit : closing.isDigit = false
  comma : closing ≠ ','

/-- A text that starts an item, rather than whitespace or the end of the sequence. -/
def Opens (closing : Char) (part : List Char) : Prop :=
  ∃ c rest, part = c :: rest ∧ isSpace c = false ∧ c ≠ closing

theorem ends_closed (hClosing : Closes closing) (parts : List (List Char)) (rest : List Char) :
    Ends (closed closing parts ++ rest) := by
  cases parts with
  | nil => exact ends_cons hClosing.digit
  | cons part parts => exact ends_cons (by decide)

theorem length_closed (parts : List (List Char)) : parts.length < (closed closing parts).length := by
  induction parts with
  | nil => exact Nat.one_pos
  | cons part parts ih =>
      simp only [closed, List.length_cons, List.length_append]
      omega

theorem readClosed_closed (hClosing : Closes closing) {parts : List (List Char)} {values : List Value}
    (hParts : List.Forall₂ (Reads item) parts values) {fuel : Nat} (hFuel : parts.length < fuel) (rest : List Char) :
    readClosed item closing fuel (closed closing parts ++ rest) = some (values, rest) := by
  induction hParts generalizing fuel with
  | nil =>
      obtain ⟨fuel, rfl⟩ := Nat.exists_eq_add_of_lt hFuel
      simp only [closed, List.cons_append, List.nil_append, List.length_nil, Nat.zero_add, readClosed,
        skipSpace_cons hClosing.space, if_true]
  | @cons part value parts values hPart _ ih =>
      cases fuel with
      | zero => exact absurd hFuel (Nat.not_lt_zero _)
      | succ fuel =>
          have hRest := ih (Nat.lt_of_succ_lt_succ hFuel)
          have hItem := hPart (closed closing parts ++ rest) (ends_closed hClosing parts rest)
          have hComma : skipSpace (',' :: (part ++ (closed closing parts ++ rest))) =
              ',' :: (part ++ (closed closing parts ++ rest)) := skipSpace_cons (by decide)
          simp only [closed, List.cons_append, List.append_assoc, readClosed, hComma, if_neg hClosing.comma.symm,
            if_true, hItem, Option.bind_some, hRest, Option.map_some, Prod.map_apply, id]

theorem readEnclosed_enclosed (hClosing : Closes closing) {opening : Char} {parts : List (List Char)}
    {values : List Value} (hParts : List.Forall₂ (Reads item) parts values)
    (hOpens : ∀ part ∈ parts, Opens closing part) (rest : List Char) :
    ∃ inner, enclosed opening closing parts ++ rest = opening :: inner ∧
      readEnclosed item closing inner = some (values, rest) := by
  cases hParts with
  | nil =>
      refine ⟨closing :: rest, rfl, ?_⟩
      simp only [readEnclosed, skipSpace_cons hClosing.space, if_true]
  | @cons part value parts values hPart hParts =>
      refine ⟨part ++ (closed closing parts ++ rest), ?_, ?_⟩
      · simp only [enclosed, List.cons_append, List.append_assoc]
      · obtain ⟨c, text, rfl, hSpace, hOther⟩ := hOpens part List.mem_cons_self
        have hItem := hPart (closed closing parts ++ rest) (ends_closed hClosing parts rest)
        have hFuel : parts.length < (closed closing parts ++ rest).length + 1 := by
          have hLength := @length_closed closing parts
          rw [List.length_append]
          omega
        have hRest := readClosed_closed hClosing hParts hFuel rest
        rw [List.cons_append] at hItem ⊢
        simp only [readEnclosed, skipSpace_cons hSpace, if_neg hOther, hItem, Option.bind_some, hRest,
          Option.map_some, Prod.map_apply, id]

theorem length_mem_closed {part : List Char} {parts : List (List Char)} (h : part ∈ parts) :
    part.length < (closed closing parts).length := by
  induction parts with
  | nil => cases h
  | cons first parts ih =>
      simp only [closed, List.length_cons, List.length_append]
      rcases List.mem_cons.mp h with rfl | hRest
      · omega
      · have hLater := ih hRest
        omega

theorem length_mem_enclosed {opening : Char} {part : List Char} {parts : List (List Char)} (h : part ∈ parts) :
    part.length < (enclosed opening closing parts).length := by
  cases parts with
  | nil => cases h
  | cons first parts =>
      simp only [enclosed, List.length_cons, List.length_append]
      rcases List.mem_cons.mp h with rfl | hRest
      · omega
      · have hLater := @length_mem_closed closing part parts hRest
        omega

end Sequences

section Values

variable {fuel : Nat}

theorem closes_bracket : Closes ']' := ⟨by decide, by decide, by decide⟩

theorem closes_brace : Closes '}' := ⟨by decide, by decide, by decide⟩

theorem itemsChars_eq (items : List Json) : itemsChars items = items.map chars := by
  induction items with
  | nil => rfl
  | cons item items ih => rw [itemsChars, ih, List.map_cons]

theorem fieldsChars_eq (fields : List (String × Json)) :
    fieldsChars fields = fields.map fun field => quoted field.1 ++ ':' :: chars field.2 := by
  induction fields with
  | nil => rfl
  | cons field fields ih => rw [fieldsChars, ih, List.map_cons]

/-- A value starts neither with whitespace nor with a closing bracket. -/
theorem opens_chars (json : Json) : Opens ']' json.chars := by
  cases json with
  | null => exact ⟨_, _, rfl, by decide, by decide⟩
  | bool value => cases value <;> exact ⟨_, _, rfl, by decide, by decide⟩
  | str value => exact ⟨_, _, rfl, by decide, by decide⟩
  | arr items =>
      rw [chars]
      cases itemsChars items <;> exact ⟨_, _, rfl, by decide, by decide⟩
  | obj fields =>
      rw [chars]
      cases fieldsChars fields <;> exact ⟨_, _, rfl, by decide, by decide⟩
  | num value =>
      obtain ⟨c, rest, hNumber, hHead⟩ := number_head value
      refine ⟨c, rest, hNumber, ?_, ?_⟩
      · rcases hHead with rfl | hDigit
        · decide
        · refine Bool.eq_false_iff.mpr fun hSpace => ?_
          simp only [isSpace, Bool.or_eq_true, decide_eq_true_eq] at hSpace
          rcases hSpace with ((rfl | rfl) | rfl) | rfl <;> cases hDigit
      · rintro rfl
        rcases hHead with hSign | hDigit
        · cases hSign
        · cases hDigit

theorem reads_field {name : String} {value : Json} (h : Reads (readValue fuel) value.chars value) :
    Reads (readField (readValue fuel)) (quoted name ++ ':' :: value.chars) (name, value) := by
  intro rest hEnds
  have hColon : skipSpace (':' :: (value.chars ++ rest)) = ':' :: (value.chars ++ rest) := skipSpace_cons (by decide)
  rw [List.append_assoc, List.cons_append]
  simp only [readField, readQuoted_quoted, Option.bind_some, hColon, h rest hEnds, Option.map_some, Prod.map_apply, id]

theorem readValue_number {c : Char} {rest : List Char} (hHead : c = '-' ∨ c.isDigit = true) :
    readValue (fuel + 1) (c :: rest) = (readNumber (c :: rest)).map (·.map .num id) := by
  have hSpace : isSpace c = false := by
    refine Bool.eq_false_iff.mpr fun hSpace => ?_
    simp only [isSpace, Bool.or_eq_true, decide_eq_true_eq] at hSpace
    rcases hSpace with ((rfl | rfl) | rfl) | rfl <;> rcases hHead with hSign | hDigit <;> contradiction
  rw [readValue, skipSpace_cons hSpace]
  split
  case h_7 => rfl
  all_goals
    next hFirst =>
      obtain ⟨rfl, _⟩ := List.cons.inj hFirst
      rcases hHead with hSign | hDigit
      · cases hSign
      · cases hDigit

/-- Every value is read back from its text, by induction on the fuel. -/
theorem reads_value : ∀ (json : Json), json.chars.length < fuel → Reads (readValue fuel) json.chars json := by
  induction fuel with
  | zero => exact fun json hFuel => absurd hFuel (Nat.not_lt_zero _)
  | succ fuel ih =>
      intro json hFuel rest hEnds
      cases json with
      | null => rfl
      | bool value => cases value <;> rfl
      | num value =>
          obtain ⟨c, digits, hNumber, hHead⟩ := number_head value
          have hRead := reads_number value rest hEnds
          rw [chars]
          rw [hNumber] at hRead ⊢
          rw [List.cons_append] at hRead ⊢
          rw [readValue_number hHead, hRead]
          rfl
      | str value =>
          have hText : (str value).chars ++ rest = '"' :: (value.toList.flatMap escape ++ '"' :: rest) := by
            simp only [chars, quoted, List.cons_append, List.append_assoc, List.nil_append]
          rw [hText, readValue, skipSpace_cons (by decide)]
          simp only [readChars_text, Option.map_some, Prod.map_apply, String.ofList_toList, id]
      | arr items =>
          have hItems : List.Forall₂ (Reads (readValue fuel)) (itemsChars items) items := by
            rw [itemsChars_eq, List.forall₂_map_left_iff, List.forall₂_same]
            refine fun item hItem => ih item ?_
            have hPart : item.chars ∈ itemsChars items := by
              rw [itemsChars_eq]
              exact List.mem_map_of_mem hItem
            have hShorter : item.chars.length < (arr items).chars.length := length_mem_enclosed hPart
            omega
          have hOpens : ∀ part ∈ itemsChars items, Opens ']' part := by
            rw [itemsChars_eq]
            intro part hPart
            obtain ⟨item, _, rfl⟩ := List.mem_map.mp hPart
            exact opens_chars item
          obtain ⟨inner, hText, hRead⟩ := @readEnclosed_enclosed _ _ ']' closes_bracket '[' _ _ hItems hOpens rest
          rw [chars, hText, readValue, skipSpace_cons (by decide)]
          simp only [hRead, Option.map_some, Prod.map_apply, id]
      | obj fields =>
          have hFields : List.Forall₂ (Reads (readField (readValue fuel))) (fieldsChars fields) fields := by
            rw [fieldsChars_eq, List.forall₂_map_left_iff, List.forall₂_same]
            rintro ⟨name, value⟩ hField
            refine reads_field (ih value ?_)
            have hPart : quoted name ++ ':' :: value.chars ∈ fieldsChars fields := by
              rw [fieldsChars_eq]
              exact List.mem_map.mpr ⟨(name, value), hField, rfl⟩
            have hShorter : (quoted name ++ ':' :: value.chars).length < (obj fields).chars.length :=
              length_mem_enclosed hPart
            rw [List.length_append, List.length_cons] at hShorter
            omega
          have hOpens : ∀ part ∈ fieldsChars fields, Opens '}' part := by
            rw [fieldsChars_eq]
            intro part hPart
            obtain ⟨field, _, rfl⟩ := List.mem_map.mp hPart
            exact ⟨'"', _, List.cons_append, by decide, by decide⟩
          obtain ⟨inner, hText, hRead⟩ := @readEnclosed_enclosed _ _ '}' closes_brace '{' _ _ hFields hOpens rest
          rw [chars, hText, readValue, skipSpace_cons (by decide)]
          simp only [hRead, Option.map_some, Prod.map_apply, id]

end Values

/-- Reading gives back what was written. -/
theorem parse_stringify (json : Json) : parse json.stringify = some json := by
  have hRead := reads_value json (Nat.lt_succ_self json.chars.length) [] ends_nil
  rw [List.append_nil] at hRead
  have hLength : json.stringify.length = json.chars.length := by rw [stringify, String.length_ofList]
  rw [parse, hLength, stringify, String.toList_ofList, hRead]
  rfl

theorem stringify_injective : Function.Injective stringify := by
  intro first second hSame
  have hParsed := congrArg parse hSame
  rw [parse_stringify, parse_stringify] at hParsed
  exact Option.some.inj hParsed

/-- No value has an empty text. -/
theorem stringify_ne_empty (json : Json) : json.stringify ≠ "" := by
  intro hEmpty
  obtain ⟨c, rest, hChars, _⟩ := opens_chars json
  have hList := congrArg String.toList hEmpty
  rw [stringify, String.toList_ofList, hChars] at hList
  cases hList

instance : DecidableEq Json := fun first second =>
  decidable_of_iff (first.stringify = second.stringify) stringify_injective.eq_iff

end Json
