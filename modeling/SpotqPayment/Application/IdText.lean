import SpotqPayment.Application.PlatformLedger
import SpotqPayment.Infrastructure.SubscriberQuery

/-! Ids as texts. What is rendered of an id is read back, and what is read is rendered in
small letters. -/
namespace SpotqPayment

open Hexadecimal

section Rendered

/-- The digits of an id are no white space. -/
theorem isTrimmed_of_digit {value : Nat} {c : Char} (h : c ∈ Nat.toDigits 16 value) : isTrimmed c = false := by
  have hDigit : ∀ digit : Fin 16, isTrimmed (Nat.digitChar digit) = false := by decide
  induction value using Nat.strong_induction_on generalizing c with
  | _ value ih =>
      by_cases hSmall : value < 16
      · rw [Nat.toDigits_of_lt_base hSmall, List.mem_singleton] at h
        rw [h]
        exact hDigit ⟨value, hSmall⟩
      · have hRest : value % 16 < 16 := Nat.mod_lt value (by decide)
        have hSplit := Nat.toDigits_append_toDigits (b := 16) (n := value / 16) (d := value % 16) (by decide)
          (by omega) hRest
        rw [Nat.div_add_mod] at hSplit
        rw [← hSplit, List.mem_append] at h
        rcases h with hFirst | hLast
        · exact ih (value / 16) (by omega) hFirst
        · rw [Nat.toDigits_of_lt_base hRest, List.mem_singleton] at hLast
          rw [hLast]
          exact hDigit ⟨value % 16, hRest⟩

theorem trim_of_forall {text : String} (h : ∀ c ∈ text.toList, isTrimmed c = false) : trim text = text := by
  have hKept : ∀ chars : List Char, (∀ c ∈ chars, isTrimmed c = false) → chars.dropWhile isTrimmed = chars := by
    intro chars hChars
    cases chars with
    | nil => rfl
    | cons c rest => rw [List.dropWhile_cons_of_neg (by rw [hChars c List.mem_cons_self]; exact Bool.false_ne_true)]
  rw [trim, hKept _ h, hKept _ (fun c hMem => h c (List.mem_reverse.mp hMem)), List.reverse_reverse, String.ofList_toList]

/-- Ids are rendered without white space around them. -/
theorem trim_text (id : Uuid) : trim id.text = id.text := by
  refine trim_of_forall fun c hMem => ?_
  have hPadded : ∀ c ∈ padded 32 id, isTrimmed c = false := by
    intro c hMem
    rcases List.mem_append.mp hMem with hZero | hDigit
    · rw [List.eq_of_mem_replicate hZero]
      decide
    · exact isTrimmed_of_digit hDigit
  have hDash : isTrimmed '-' = false := by decide
  rw [Uuid.text, String.toList_ofList, dashed] at hMem
  simp only [List.append_assoc, List.cons_append, List.mem_append, List.mem_cons] at hMem
  rcases hMem with h | rfl | h | rfl | h | rfl | h | rfl | h
  · exact hPadded c (List.mem_of_mem_take h)
  · exact hDash
  · exact hPadded c (List.mem_of_mem_drop (List.mem_of_mem_take h))
  · exact hDash
  · exact hPadded c (List.mem_of_mem_drop (List.mem_of_mem_take h))
  · exact hDash
  · exact hPadded c (List.mem_of_mem_drop (List.mem_of_mem_take h))
  · exact hDash
  · exact hPadded c (List.mem_of_mem_drop h)

theorem text_ne_empty (id : Uuid) : id.text ≠ "" := by
  intro hEmpty
  have hList := congrArg String.toList hEmpty
  rw [Uuid.text, String.toList_ofList] at hList
  exact absurd hList (by simp [dashed])

/-- Reading goes over the dashes. -/
theorem filterMap_dashed (digits : List Char) :
    (dashed digits).filterMap hexDigit? = digits.filterMap hexDigit? := by
  have hDash : hexDigit? '-' = none := by decide
  have hFirst := List.take_append_drop 8 digits
  have hSecond := List.take_append_drop 4 (digits.drop 8)
  have hThird := List.take_append_drop 4 (digits.drop 12)
  have hFourth := List.take_append_drop 4 (digits.drop 16)
  rw [List.drop_drop] at hSecond hThird hFourth
  rw [dashed, List.append_assoc, List.append_assoc, List.append_assoc]
  simp only [List.cons_append, List.filterMap_append, List.filterMap_cons_none hDash]
  rw [← List.filterMap_append, hFourth, ← List.filterMap_append, hThird, ← List.filterMap_append, hSecond,
    ← List.filterMap_append, hFirst]

theorem number_text (id : Uuid) : number (id.text.toList.filterMap hexDigit?) = id := by
  rw [Uuid.text, String.toList_ofList, filterMap_dashed, number_padded]

theorem text_injective {id other : Uuid} (h : id.text = other.text) : id = other := by
  rw [← number_text id, h, number_text]

end Rendered

section Accepted

/-- Away from the dashes an id has hexadecimal digits. -/
theorem hexDigit_of_uuidCharacter {place : Nat} {c : Char} (hPlace : place ∉ [8, 13, 18, 23])
    (h : uuidCharacter place c = true) : (hexDigit? c).isSome = true := by
  have hVersion : ∀ value < 54, (hexDigit? (Char.ofNat value)).isSome = true ∨ ¬ 49 ≤ value := by decide
  rw [uuidCharacter, if_neg hPlace] at h
  split at h
  · rw [Bool.and_eq_true, decide_eq_true_eq, decide_eq_true_eq] at h
    have hFirst : 49 ≤ c.toNat := h.1
    have hLast : c.toNat ≤ 53 := h.2
    have hDigit := hVersion c.toNat (by omega)
    rw [Char.ofNat_toNat] at hDigit
    exact hDigit.resolve_right (not_not_intro hFirst)
  · split at h
    · have hVariants : (['8', '9', 'a', 'b', 'A', 'B'].all fun c => (hexDigit? c).isSome) = true := by decide
      exact List.all_eq_true.mp hVariants c (of_decide_eq_true h)
    · exact h

theorem character_of_isUuid {text : String} (h : isUuid text = true) :
    text.toList.length = 36 ∧ ∀ place, ∀ hPlace : place < text.toList.length,
      uuidCharacter place text.toList[place] = true := by
  rw [isUuid, Bool.and_eq_true, decide_eq_true_eq, List.all_eq_true] at h
  refine ⟨h.1, fun place hPlace => h.2 (text.toList[place], place) ?_⟩
  exact List.mem_zipIdx_iff_getElem?.mpr (List.getElem?_eq_getElem hPlace)

/-- A group of an id that is followed by a dash. -/
theorem group_of_isUuid {chars : List Char} (first count : Nat)
    (hChars : ∀ place, ∀ hPlace : place < chars.length, uuidCharacter place chars[place] = true)
    (hDash : first + count ∈ [8, 13, 18, 23]) (hLength : first + count < chars.length) :
    chars.drop first = (chars.drop first).take count ++ '-' :: chars.drop (first + count + 1) := by
  have hCharacter := hChars (first + count) hLength
  rw [uuidCharacter, if_pos hDash, decide_eq_true_eq] at hCharacter
  conv_lhs => rw [← List.take_append_drop count (chars.drop first), List.drop_drop,
    List.drop_eq_getElem_cons hLength, hCharacter]

theorem digits_of_isUuid {chars : List Char} {first count : Nat} (hLength : chars.length = 36)
    (hChars : ∀ place, ∀ hPlace : place < chars.length, uuidCharacter place chars[place] = true)
    (hPlaces : ∀ place < 36, first ≤ place → place < first + count → place ∉ [8, 13, 18, 23]) :
    ∀ c ∈ (chars.drop first).take count, (hexDigit? c).isSome = true := by
  intro c hMem
  obtain ⟨place, hPlace, rfl⟩ := List.mem_take_iff_getElem.mp hMem
  rw [List.length_drop] at hPlace
  rw [List.getElem_drop]
  exact hexDigit_of_uuidCharacter (hPlaces _ (by omega) (by omega) (by omega)) (hChars _ (by omega))

/-- An accepted text cut into its groups. -/
theorem groups_of_isUuid {text : String} (h : isUuid text = true) : ∃ first second third fourth last : List Char,
    text.toList = first ++ '-' :: (second ++ '-' :: (third ++ '-' :: (fourth ++ '-' :: last))) ∧
      first.length = 8 ∧ second.length = 4 ∧ third.length = 4 ∧ fourth.length = 4 ∧ last.length = 12 ∧
        ∀ c ∈ first ++ (second ++ (third ++ (fourth ++ last))), (hexDigit? c).isSome = true := by
  obtain ⟨hLength, hChars⟩ := character_of_isUuid h
  generalize text.toList = chars at hLength hChars
  have hFirst := group_of_isUuid 0 8 hChars (by decide) (by omega)
  have hSecond := group_of_isUuid 9 4 hChars (by decide) (by omega)
  have hThird := group_of_isUuid 14 4 hChars (by decide) (by omega)
  have hFourth := group_of_isUuid 19 4 hChars (by decide) (by omega)
  have hLast : (chars.drop 24).take 12 = chars.drop 24 := List.take_of_length_le (by rw [List.length_drop]; omega)
  refine ⟨(chars.drop 0).take 8, (chars.drop 9).take 4, (chars.drop 14).take 4, (chars.drop 19).take 4,
    (chars.drop 24).take 12, ?_, by simp [hLength], by simp [hLength], by simp [hLength], by simp [hLength],
    by simp [hLength], ?_⟩
  · rw [hLast, ← hFourth, ← hThird, ← hSecond, ← hFirst, List.drop_zero]
  · intro c hMem
    simp only [List.mem_append] at hMem
    rcases hMem with hMem | hMem | hMem | hMem | hMem
    · exact digits_of_isUuid hLength hChars (by decide) c hMem
    · exact digits_of_isUuid hLength hChars (by decide) c hMem
    · exact digits_of_isUuid hLength hChars (by decide) c hMem
    · exact digits_of_isUuid hLength hChars (by decide) c hMem
    · exact digits_of_isUuid hLength hChars (by decide) c hMem

theorem dashed_groups {first second third fourth last : List Char} (hFirst : first.length = 8)
    (hSecond : second.length = 4) (hThird : third.length = 4) (hFourth : fourth.length = 4) :
    dashed (first ++ (second ++ (third ++ (fourth ++ last)))) =
      first ++ '-' :: (second ++ '-' :: (third ++ '-' :: (fourth ++ '-' :: last))) := by
  simp (disch := omega) [dashed, List.drop_append, List.drop_eq_nil_of_le, hFirst, hSecond, hThird]

/-- An id is read from its text in either case. -/
theorem text_of_parseUuid {text : String} {id : Uuid} (h : parseUuid text = some id) : id.text = text.toLower := by
  rw [parseUuid] at h
  split at h
  · next hUuid =>
      obtain ⟨first, second, third, fourth, last, hText, hFirst, hSecond, hThird, hFourth, hLast, hHex⟩ :=
        groups_of_isUuid hUuid
      cases h
      have hDash : '-'.toLower = '-' := by decide
      have hRead : text.toList.filterMap hexDigit? =
          (first ++ (second ++ (third ++ (fourth ++ last)))).filterMap hexDigit? := by
        rw [hText, ← dashed_groups hFirst hSecond hThird hFourth, filterMap_dashed]
      have hSmall := map_digitChar hHex
      have hCount := congrArg List.length hSmall
      simp only [List.length_map, List.length_append, hFirst, hSecond, hThird, hFourth, hLast] at hCount
      have hNonempty := List.ne_nil_of_length_pos (hCount ▸ (by decide : 0 < 8 + (4 + (4 + (4 + 12)))))
      have hPadded := padded_number (fun digit hMem => digits_lt hMem) hNonempty
      rw [hCount, hSmall] at hPadded
      have hGroups : dashed ((first ++ (second ++ (third ++ (fourth ++ last)))).map Char.toLower) =
          text.toList.map Char.toLower := by
        rw [hText]
        simp only [List.map_append, List.map_cons, hDash]
        exact dashed_groups (by rw [List.length_map, hFirst]) (by rw [List.length_map, hSecond])
          (by rw [List.length_map, hThird]) (by rw [List.length_map, hFourth])
      rw [Uuid.text, hRead, hPadded, hGroups]
      exact String.map_eq_internal.symm
  · cases h

/-- Every accepted text denotes an id, the one that is rendered as the text in small letters. -/
theorem parseUuid_eq_some {text : String} {id : Uuid} :
    parseUuid text = some id ↔ isUuid text = true ∧ id.text = text.toLower := by
  constructor
  · intro h
    refine ⟨?_, text_of_parseUuid h⟩
    rw [parseUuid] at h
    split at h
    · assumption
    · cases h
  · rintro ⟨hUuid, hText⟩
    have hParse : parseUuid text = some (number (text.toList.filterMap hexDigit?)) := by
      rw [parseUuid, if_pos hUuid]
    rw [hParse, text_injective (hText.trans (text_of_parseUuid hParse).symm)]

theorem parseUuid_eq_none {text : String} : parseUuid text = none ↔ isUuid text = false := by
  rw [parseUuid]
  split
  next hUuid => exact iff_of_false (Option.some_ne_none _) (by rw [hUuid]; exact Bool.true_eq_false_eq_False)
  next hUuid => exact iff_of_true rfl (Bool.eq_false_iff.mpr hUuid)

end Accepted

end SpotqPayment
