import Mathlib.Data.List.Infix

/-! The `LIKE` patterns of SQL: a percent sign stands for any characters, an underscore
for one, and a backslash takes its special meaning from the character after it. A term
between two percent signs finds its lookalikes in a text, and if it has no such
characters itself only. -/
namespace Like

inductive Token where
  | any | one
  | literal (c : Char)
  deriving DecidableEq, Repr

/-- A backslash at the end of a pattern, which a database refuses, stands for itself. -/
def tokens : List Char → List Token
  | [] => []
  | c :: rest =>
      if c = '\\' then
        match rest with
        | [] => [.literal c]
        | escaped :: rest => .literal escaped :: tokens rest
      else if c = '%' then .any :: tokens rest
      else if c = '_' then .one :: tokens rest
      else .literal c :: tokens rest

/-- The whole text has the form of the pattern. -/
def matchTokens : List Token → List Char → Bool
  | [], text => text.isEmpty
  | .any :: rest, text => text.tails.any (matchTokens rest)
  | .one :: rest, text => !text.isEmpty && matchTokens rest text.tail
  | .literal c :: rest, text => text.head? = some c && matchTokens rest text.tail

def like (text pattern : List Char) : Bool := matchTokens (tokens pattern) text

/-- A character that a pattern takes for itself. -/
def isPlain (c : Char) : Bool := c ≠ '\\' && c ≠ '%' && c ≠ '_'

/-- The text begins with a lookalike of the term: any characters for a percent sign, any
one for an underscore, and a character without the backslash that escapes it. A backslash
at the end of the term escapes the percent sign that ends the pattern, and then the text
has to end with that sign. -/
inductive Looks : List Char → List Char → Prop
  | nil (text : List Char) : Looks [] text
  | plain {c : Char} {term text : List Char} (hPlain : isPlain c = true) (hLooks : Looks term text) :
      Looks (c :: term) (c :: text)
  | underscore (c : Char) {term text : List Char} (hLooks : Looks term text) : Looks ('_' :: term) (c :: text)
  | percent (stretch : List Char) {term text : List Char} (hLooks : Looks term text) :
      Looks ('%' :: term) (stretch ++ text)
  | backslash (c : Char) {term text : List Char} (hLooks : Looks term text) : Looks ('\\' :: c :: term) (c :: text)
  | ending : Looks ['\\'] ['%']

/-- A lookalike of the term stands somewhere in the text. -/
def Resembles (text term : List Char) : Prop := ∃ rest, rest <:+ text ∧ Looks term rest

section Patterns

variable {term text : List Char} {rest : List Token} {c : Char}

theorem matchTokens_any : matchTokens (.any :: rest) text = true ↔
    ∃ suffix, suffix <:+ text ∧ matchTokens rest suffix = true := by
  simp only [matchTokens, List.any_eq_true, List.mem_tails]

theorem matchTokens_literal : matchTokens (.literal c :: rest) text = true ↔
    ∃ after, text = c :: after ∧ matchTokens rest after = true := by
  cases text <;> simp [matchTokens]

theorem matchTokens_one : matchTokens (.one :: rest) text = true ↔
    ∃ d after, text = d :: after ∧ matchTokens rest after = true := by
  cases text <;> simp [matchTokens]

theorem looks_percent : Looks ('%' :: term) text ↔ ∃ suffix, suffix <:+ text ∧ Looks term suffix := by
  constructor
  · intro h
    cases h with
    | plain hPlain => cases hPlain
    | @percent stretch _ suffix hLooks => exact ⟨suffix, List.suffix_append stretch suffix, hLooks⟩
  · rintro ⟨suffix, ⟨stretch, rfl⟩, hLooks⟩
    exact .percent stretch hLooks

theorem looks_underscore : Looks ('_' :: term) text ↔ ∃ d after, text = d :: after ∧ Looks term after := by
  constructor
  · intro h
    cases h with
    | plain hPlain => cases hPlain
    | underscore d hLooks => exact ⟨d, _, rfl, hLooks⟩
  · rintro ⟨d, after, rfl, hLooks⟩
    exact .underscore d hLooks

theorem looks_backslash : Looks ('\\' :: c :: term) text ↔ ∃ after, text = c :: after ∧ Looks term after := by
  constructor
  · intro h
    cases h with
    | plain hPlain => cases hPlain
    | backslash _ hLooks => exact ⟨_, rfl, hLooks⟩
  · rintro ⟨after, rfl, hLooks⟩
    exact .backslash c hLooks

theorem looks_ending : Looks ['\\'] text ↔ text = ['%'] := by
  constructor
  · intro h
    cases h with
    | plain hPlain => cases hPlain
    | ending => rfl
  · rintro rfl
    exact .ending

theorem looks_cons_plain (hPlain : isPlain c = true) :
    Looks (c :: term) text ↔ ∃ after, text = c :: after ∧ Looks term after := by
  constructor
  · intro h
    cases h with
    | plain _ hLooks => exact ⟨_, rfl, hLooks⟩
    | underscore => cases hPlain
    | percent => cases hPlain
    | backslash => cases hPlain
    | ending => cases hPlain
  · rintro ⟨after, rfl, hLooks⟩
    exact .plain hPlain hLooks

theorem tokens_cons_plain (hPlain : isPlain c = true) : tokens (c :: term) = .literal c :: tokens term := by
  simp only [isPlain, Bool.and_eq_true, decide_eq_true_eq] at hPlain
  rw [tokens.eq_def]
  simp only [if_neg hPlain.1.1, if_neg hPlain.1.2, if_neg hPlain.2]

theorem tokens_percent : tokens ('%' :: term) = .any :: tokens term := by
  rw [tokens.eq_def]
  simp only [if_neg (by decide : ¬ '%' = '\\'), if_true]

theorem tokens_underscore : tokens ('_' :: term) = .one :: tokens term := by
  rw [tokens.eq_def]
  simp only [if_neg (by decide : ¬ '_' = '\\'), if_neg (by decide : ¬ '_' = '%'), if_true]

theorem eq_special_of_not_plain (h : ¬ isPlain c = true) : c = '\\' ∨ c = '%' ∨ c = '_' := by
  simp only [isPlain, Bool.and_eq_true, decide_eq_true_eq] at h
  tauto

/-- What follows the first percent sign of the pattern. The cases are those of `tokens`,
which takes two characters at a backslash. -/
theorem matchTokens_iff_looks : (term text : List Char) →
    (matchTokens (tokens (term ++ ['%'])) text = true ↔ Looks term text)
  | [], text => by
      have hEnd : ∃ suffix, suffix <:+ text ∧ matchTokens [] suffix = true := ⟨[], List.nil_suffix, rfl⟩
      exact iff_of_true (matchTokens_any.mpr hEnd) (.nil text)
  | c :: term, text => by
      by_cases hPlain : isPlain c = true
      · rw [List.cons_append, tokens_cons_plain hPlain, matchTokens_literal, looks_cons_plain hPlain]
        exact exists_congr fun after => and_congr_right fun _ => matchTokens_iff_looks term after
      · rcases eq_special_of_not_plain hPlain with rfl | rfl | rfl
        · cases term with
          | nil =>
              have hTokens : tokens (['\\'] ++ ['%']) = [.literal '%'] := rfl
              rw [hTokens, matchTokens_literal, looks_ending]
              simp [matchTokens]
          | cons escaped term =>
              have hTokens : tokens ('\\' :: escaped :: term ++ ['%']) = .literal escaped :: tokens (term ++ ['%']) := rfl
              rw [hTokens, matchTokens_literal, looks_backslash]
              exact exists_congr fun after => and_congr_right fun _ => matchTokens_iff_looks term after
        · rw [List.cons_append, tokens_percent, matchTokens_any, looks_percent]
          exact exists_congr fun suffix => and_congr_right fun _ => matchTokens_iff_looks term suffix
        · rw [List.cons_append, tokens_underscore, matchTokens_one, looks_underscore]
          exact exists_congr fun _ => exists_congr fun after => and_congr_right fun _ => matchTokens_iff_looks term after

/-- A term between percent signs finds its lookalikes. -/
theorem like_iff_resembles : like text ('%' :: (term ++ ['%'])) = true ↔ Resembles text term := by
  rw [like, tokens_percent, matchTokens_any]
  exact exists_congr fun suffix => and_congr_right fun _ => matchTokens_iff_looks term suffix

theorem looks_iff_of_plain (hPlain : ∀ c ∈ term, isPlain c = true) : Looks term text ↔ term <+: text := by
  induction term generalizing text with
  | nil => exact iff_of_true (.nil text) List.nil_prefix
  | cons c term ih =>
      have hTerm := fun other hOther => hPlain other (List.mem_cons_of_mem c hOther)
      rw [looks_cons_plain (hPlain c List.mem_cons_self), List.cons_prefix_iff]
      exact exists_congr fun after => and_congr_right fun _ => ih hTerm

/-- A plain term resembles itself only. -/
theorem resembles_iff_of_plain (hPlain : ∀ c ∈ term, isPlain c = true) : Resembles text term ↔ term <:+: text := by
  rw [List.infix_iff_prefix_suffix]
  exact exists_congr fun rest => by rw [and_comm, looks_iff_of_plain hPlain]

end Patterns

end Like

/-- A mapping of letters to those of one case, which leaves the characters that are
special in a pattern. -/
structure CaseFolding where
  fold : Char → Char
  percent : ∀ c, fold c = '%' ↔ c = '%'
  underscore : ∀ c, fold c = '_' ↔ c = '_'
  backslash : ∀ c, fold c = '\\' ↔ c = '\\'

namespace CaseFolding

variable (folding : CaseFolding)

def chars (text : String) : List Char := text.toList.map folding.fold

/-- The text has the term in it, when case is ignored. -/
def Contains (text term : String) : Prop := folding.chars term <:+: folding.chars text

instance (text term : String) : Decidable (folding.Contains text term) :=
  inferInstanceAs (Decidable (folding.chars term <:+: folding.chars text))

/-- The text has the form of a pattern, when case is ignored. -/
def MatchesPattern (text searchPattern : String) : Prop :=
  Like.like (folding.chars text) (folding.chars searchPattern) = true

instance (text searchPattern : String) : Decidable (folding.MatchesPattern text searchPattern) :=
  inferInstanceAs (Decidable (_ = true))

/-- A lookalike of the term stands in the text, when case is ignored. -/
def Resembles (text term : String) : Prop := Like.Resembles (folding.chars text) (folding.chars term)

variable {folding} {text term : String}

@[simp] theorem isPlain_fold (c : Char) : Like.isPlain (folding.fold c) = Like.isPlain c := by
  simp [Like.isPlain, folding.percent, folding.underscore, folding.backslash]

/-- A pattern around the term finds its lookalikes without regard to case. -/
theorem matchesPattern_iff : folding.MatchesPattern text ("%" ++ term ++ "%") ↔ folding.Resembles text term := by
  have hPercent : folding.fold '%' = '%' := (folding.percent '%').mpr rfl
  have hPattern : folding.chars ("%" ++ term ++ "%") = '%' :: (folding.chars term ++ ['%']) := by
    simp [chars, hPercent]
  rw [MatchesPattern, hPattern, Like.like_iff_resembles]
  rfl

theorem resembles_iff_of_plain (hPlain : ∀ c ∈ term.toList, Like.isPlain c = true) :
    folding.Resembles text term ↔ folding.Contains text term := by
  refine Like.resembles_iff_of_plain fun folded hFolded => ?_
  obtain ⟨c, hChar, rfl⟩ := List.mem_map.mp hFolded
  rw [isPlain_fold]
  exact hPlain c hChar

/-- A lookalike stays one when case is ignored. -/
theorem looks_map {term text : List Char} (h : Like.Looks term text) :
    Like.Looks (term.map folding.fold) (text.map folding.fold) := by
  have hPercent : folding.fold '%' = '%' := (folding.percent '%').mpr rfl
  have hUnderscore : folding.fold '_' = '_' := (folding.underscore '_').mpr rfl
  have hBackslash : folding.fold '\\' = '\\' := (folding.backslash '\\').mpr rfl
  induction h with
  | nil text => exact .nil _
  | plain hPlain _ ih => exact .plain ((isPlain_fold _).trans hPlain) ih
  | underscore c _ ih =>
      rw [List.map_cons, List.map_cons, hUnderscore]
      exact .underscore _ ih
  | percent stretch _ ih =>
      rw [List.map_cons, List.map_append, hPercent]
      exact .percent _ ih
  | backslash c _ ih =>
      rw [List.map_cons, List.map_cons, List.map_cons, hBackslash]
      exact .backslash _ ih
  | ending =>
      rw [List.map_cons, List.map_cons, hBackslash, hPercent]
      exact .ending

theorem resembles_of_like (h : Like.Resembles text.toList term.toList) : folding.Resembles text term := by
  obtain ⟨rest, hSuffix, hLooks⟩ := h
  exact ⟨rest.map folding.fold, hSuffix.map folding.fold, looks_map hLooks⟩

/-- What becomes another character in lower case becomes a letter. -/
theorem toLower_eq {c d : Char} (hLetter : d.toNat < 97) (h : c.toLower = d) : c = d := by
  unfold Char.toLower at h
  split at h
  · next hUpper =>
      have hLow : 65 ≤ c.val.toNat := UInt32.le_iff_toNat_le.mp hUpper.1
      have hHigh : c.val.toNat ≤ 90 := UInt32.le_iff_toNat_le.mp hUpper.2
      have hSum : (c.val + 32).toNat = c.val.toNat + 32 := by
        rw [UInt32.toNat_add]
        exact Nat.mod_eq_of_lt (by show _ + 32 < _; omega)
      have hVal : (c.val + 32).toNat = d.toNat := congrArg Char.toNat h
      omega
  · exact h

/-- The letters of the alphabet in lower case. -/
def lowerCase : CaseFolding where
  fold := Char.toLower
  percent := fun _ => ⟨toLower_eq (by decide), fun h => by rw [h]; rfl⟩
  underscore := fun _ => ⟨toLower_eq (by decide), fun h => by rw [h]; rfl⟩
  backslash := fun _ => ⟨toLower_eq (by decide), fun h => by rw [h]; rfl⟩

end CaseFolding
