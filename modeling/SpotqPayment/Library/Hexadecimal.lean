import Mathlib.Data.List.Induction
import Mathlib.Tactic.Common

/-! Numbers in hexadecimal digits, the most significant first. -/
namespace Hexadecimal

def hexDigit? (c : Char) : Option Nat :=
  if c.isDigit then some (c.toNat - '0'.toNat)
  else if 'a' ≤ c ∧ c ≤ 'f' then some (c.toNat - 'a'.toNat + 10)
  else if 'A' ≤ c ∧ c ≤ 'F' then some (c.toNat - 'A'.toNat + 10)
  else none

/-- The number that digits stand for. -/
def number (digits : List Nat) : Nat := digits.foldl (fun value digit => 16 * value + digit) 0

/-- The digits of a number with zeros in front of them, up to a width. -/
def padded (width value : Nat) : List Char :=
  List.replicate (width - (Nat.toDigits 16 value).length) '0' ++ Nat.toDigits 16 value

section Characters

variable {c : Char} {digit : Nat}

theorem hexDigit?_digitChar : ∀ digit < 16, hexDigit? (Nat.digitChar digit) = some digit := by decide

theorem ascii_of_hexDigit? (h : hexDigit? c = some digit) : c.toNat < 128 := by
  have hBound : ∀ last : Char, last.toNat < 128 → c ≤ last → c.toNat < 128 :=
    fun last hLast hc => Nat.lt_of_le_of_lt hc hLast
  unfold hexDigit? at h
  split at h
  · next hDigit => exact hBound '9' (by decide) (of_decide_eq_true (Bool.and_eq_true_iff.mp hDigit).2)
  · split at h
    · next hSmall => exact hBound 'f' (by decide) hSmall.2
    · split at h
      · next hCapital => exact hBound 'F' (by decide) hCapital.2
      · cases h

/-- A digit is written as the small letter of the character that it was read from. -/
theorem digitChar_of_hexDigit? (h : hexDigit? c = some digit) : digit < 16 ∧ Nat.digitChar digit = c.toLower := by
  have hAscii : ∀ code < 128, (hexDigit? (Char.ofNat code)).all fun digit =>
      digit < 16 ∧ Nat.digitChar digit = (Char.ofNat code).toLower := by decide
  have hChar := hAscii c.toNat (ascii_of_hexDigit? h)
  rw [Char.ofNat_toNat, h] at hChar
  exact of_decide_eq_true hChar

variable {chars : List Char}

theorem digits_lt (h : digit ∈ chars.filterMap hexDigit?) : digit < 16 := by
  obtain ⟨c, -, hDigit⟩ := List.mem_filterMap.mp h
  exact (digitChar_of_hexDigit? hDigit).1

/-- Digits that are read and written again have become small. -/
theorem map_digitChar (h : ∀ c ∈ chars, (hexDigit? c).isSome) :
    (chars.filterMap hexDigit?).map Nat.digitChar = chars.map Char.toLower := by
  induction chars with
  | nil => rfl
  | cons c chars ih =>
      obtain ⟨digit, hDigit⟩ := Option.isSome_iff_exists.mp (h c List.mem_cons_self)
      rw [List.filterMap_cons_some hDigit, List.map_cons, List.map_cons, (digitChar_of_hexDigit? hDigit).2,
        ih fun c hMem => h c (List.mem_cons_of_mem _ hMem)]

end Characters

section Numbers

variable {digits : List Nat} {digit value width : Nat}

@[simp] theorem number_append : number (digits ++ [digit]) = 16 * number digits + digit := by
  simp [number]

@[simp] theorem number_zeros (count : Nat) : number (List.replicate count 0 ++ digits) = number digits := by
  induction count with
  | zero => rfl
  | succ count ih => exact ih

/-- One more digit behind a number. -/
theorem padded_succ (hWidth : 0 < width) (hDigit : digit < 16) :
    padded (width + 1) (16 * value + digit) = padded width value ++ [Nat.digitChar digit] := by
  rcases Nat.eq_zero_or_pos value with rfl | hValue
  · obtain ⟨rest, rfl⟩ := Nat.exists_eq_succ_of_ne_zero (Nat.pos_iff_ne_zero.mp hWidth)
    have hZero : Nat.toDigits 16 0 = ['0'] := rfl
    have hPadded : padded (rest + 1) 0 = List.replicate (rest + 1) '0' := by
      rw [padded, hZero, List.replicate_succ']
      rfl
    rw [hPadded, padded, Nat.mul_zero, Nat.zero_add, Nat.toDigits_of_lt_base hDigit]
    rfl
  · have hDigits := Nat.toDigits_append_toDigits (b := 16) (by decide) hValue hDigit
    rw [Nat.toDigits_of_lt_base hDigit] at hDigits
    rw [padded, padded, ← hDigits, List.length_append, List.length_singleton, Nat.add_sub_add_right,
      List.append_assoc]

/-- A number has the digits that it was made of. -/
theorem padded_number (hSmall : ∀ digit ∈ digits, digit < 16) (hSome : digits ≠ []) :
    padded digits.length (number digits) = digits.map Nat.digitChar := by
  induction digits using List.reverseRecOn with
  | nil => exact absurd rfl hSome
  | append_singleton digits digit ih =>
      have hDigit := hSmall digit (List.mem_append_right _ List.mem_cons_self)
      rw [number_append, List.length_append, List.length_singleton, List.map_append, List.map_singleton]
      by_cases hNonempty : digits = []
      · have hZero : number [] = 0 := rfl
        rw [hNonempty, hZero, padded, Nat.mul_zero, Nat.zero_add, Nat.toDigits_of_lt_base hDigit]
        rfl
      · rw [padded_succ (List.length_pos_iff.mpr hNonempty) hDigit,
          ih (fun digit hMem => hSmall digit (List.mem_append_left _ hMem)) hNonempty]

theorem number_toDigits (value : Nat) : number ((Nat.toDigits 16 value).filterMap hexDigit?) = value := by
  induction value using Nat.strongRecOn with
  | _ value ih =>
      by_cases hSmall : value < 16
      · rw [Nat.toDigits_of_lt_base hSmall, List.filterMap_cons_some (hexDigit?_digitChar value hSmall)]
        exact Nat.zero_add value
      · have hRest : value % 16 < 16 := Nat.mod_lt value (by decide)
        rw [Nat.toDigits_of_base_le (by decide) (by omega), List.filterMap_append,
          List.filterMap_cons_some (hexDigit?_digitChar _ hRest), List.filterMap_nil, number_append,
          ih (value / 16) (by omega)]
        exact Nat.div_add_mod value 16

/-- The digits of a number stand for it. -/
theorem number_padded (width value : Nat) : number ((padded width value).filterMap hexDigit?) = value := by
  have hZero : hexDigit? '0' = some 0 := by decide
  rw [padded, List.filterMap_append, List.filterMap_replicate_of_some hZero, number_zeros, number_toDigits]

end Numbers

end Hexadecimal
