import Mathlib.Data.List.TakeWhile
import Outlining.Json.Token

/-!
# Numerals

How a number is written in JSON: perhaps a sign, a whole part that is zero or does not begin with zero, perhaps a fraction, perhaps an exponent. Scanning accepts exactly these spellings (`isNumber_iff`).
-/

namespace Outlining.Json

/-- Digits, at least one. -/
def Digits (text : List Char) : Prop :=
  text ≠ [] ∧ ∀ c ∈ text, c.isDigit = true

inductive Whole : List Char → Prop
  | zero : Whole ['0']
  | digits {text : List Char} (hdigits : Digits text) (hzero : text.head? ≠ some '0') : Whole text

inductive Fraction : List Char → Prop
  | none : Fraction []
  | digits {text : List Char} (hdigits : Digits text) : Fraction ('.' :: text)

inductive Exponent : List Char → Prop
  | none : Exponent []
  | digits {mark : Char} {sign text : List Char} (hmark : mark = 'e' ∨ mark = 'E')
    (hsign : sign = [] ∨ sign = ['+'] ∨ sign = ['-']) (hdigits : Digits text) : Exponent (mark :: sign ++ text)

/-- A number as it may be written. -/
def Numeral (text : List Char) : Prop :=
  ∃ sign whole fraction exponent, (sign = [] ∨ sign = ['-']) ∧ Whole whole ∧ Fraction fraction ∧ Exponent exponent ∧
    text = sign ++ (whole ++ (fraction ++ exponent))

theorem isDigits_iff {text : List Char} : isDigits text = true ↔ Digits text := by
  simp [isDigits, Digits]

/-! ### Where digits end -/

theorem Digits.takeWhile_append {text rest : List Char} (h : Digits text) (hrest : ∀ c ∈ rest.head?, c.isDigit = false) :
    (text ++ rest).takeWhile Char.isDigit = text := by
  rw [List.takeWhile_append_of_pos h.2]
  cases rest with
  | nil => simp
  | cons c rest => simp [hrest c rfl]

theorem Digits.dropWhile_append {text rest : List Char} (h : Digits text) (hrest : ∀ c ∈ rest.head?, c.isDigit = false) :
    (text ++ rest).dropWhile Char.isDigit = rest := by
  rw [List.dropWhile_append_of_pos h.2]
  cases rest with
  | nil => rfl
  | cons c rest => rw [List.dropWhile_cons_of_neg (by simp [hrest c rfl])]

theorem Exponent.head?_ne_digit {text : List Char} (h : Exponent text) : ∀ c ∈ text.head?, c.isDigit = false := by
  cases h with
  | none => exact nofun
  | digits hmark hsign hdigits =>
    rintro c ⟨⟩
    obtain rfl | rfl := hmark <;> rfl

theorem Fraction.head?_ne_digit {fraction exponent : List Char} (hfraction : Fraction fraction) (hexponent : Exponent exponent) :
    ∀ c ∈ (fraction ++ exponent).head?, c.isDigit = false := by
  cases hfraction with
  | none => exact hexponent.head?_ne_digit
  | digits hdigits =>
    rintro c ⟨⟩
    rfl

/-! ### Parts of a number -/

theorem Digits.ne_cons {text rest : List Char} (h : Digits text) {c : Char} (hc : c.isDigit = false) : text ≠ c :: rest := by
  rintro rfl
  exact absurd (h.2 c List.mem_cons_self) (by simp [hc])

theorem isExponent_mark {mark : Char} (hmark : mark = 'e' ∨ mark = 'E') {text : List Char} (h : Digits text) :
    isExponent (mark :: text) = true := by
  obtain rfl | rfl := hmark
  · rw [isExponent, isDigits_iff]
    · exact h
    · exact fun digits => h.ne_cons rfl
    · exact fun digits => h.ne_cons rfl
  · rw [isExponent, isDigits_iff]
    · exact h
    · exact fun digits => h.ne_cons rfl
    · exact fun digits => h.ne_cons rfl

theorem isExponent_iff {text : List Char} : isExponent text = true ↔ Exponent text := by
  constructor
  · intro h
    unfold isExponent at h
    split at h
    · exact .none
    · exact .digits (.inl rfl) (.inr (.inl rfl)) (isDigits_iff.1 h)
    · exact .digits (.inl rfl) (.inr (.inr rfl)) (isDigits_iff.1 h)
    · exact .digits (.inl rfl) (.inl rfl) (isDigits_iff.1 h)
    · exact .digits (.inr rfl) (.inr (.inl rfl)) (isDigits_iff.1 h)
    · exact .digits (.inr rfl) (.inr (.inr rfl)) (isDigits_iff.1 h)
    · exact .digits (.inr rfl) (.inl rfl) (isDigits_iff.1 h)
    · cases h
  · rintro (_ | ⟨hmark, rfl | rfl | rfl, hdigits⟩)
    · rfl
    · exact isExponent_mark hmark hdigits
    · obtain rfl | rfl := hmark <;> exact isDigits_iff.2 hdigits
    · obtain rfl | rfl := hmark <;> exact isDigits_iff.2 hdigits

theorem isFractionExponent_iff {text : List Char} :
    isFractionExponent text = true ↔ ∃ fraction exponent, Fraction fraction ∧ Exponent exponent ∧ text = fraction ++ exponent := by
  constructor
  · intro h
    unfold isFractionExponent at h
    split at h
    · rename_i rest
      rw [Bool.and_eq_true] at h
      refine ⟨_, _, .digits (isDigits_iff.1 h.1), isExponent_iff.1 h.2, ?_⟩
      rw [List.cons_append, List.takeWhile_append_dropWhile]
    · exact ⟨[], text, .none, isExponent_iff.1 h, rfl⟩
  · rintro ⟨fraction, exponent, hfraction, hexponent, rfl⟩
    cases hfraction with
    | none =>
      rw [List.nil_append, isFractionExponent]
      · exact isExponent_iff.2 hexponent
      · rintro rest rfl
        generalize hpoint : '.' :: rest = text at hexponent
        cases hexponent with
        | none => cases hpoint
        | digits hmark hsign hdigits => obtain rfl | rfl := hmark <;> cases hpoint
    | @digits digits hdigits =>
      rw [List.cons_append, isFractionExponent, hdigits.takeWhile_append hexponent.head?_ne_digit,
        hdigits.dropWhile_append hexponent.head?_ne_digit, isDigits_iff.2 hdigits, isExponent_iff.2 hexponent]
      rfl

theorem isUnsigned_iff {text : List Char} :
    isUnsigned text = true ↔
      ∃ whole fraction exponent, Whole whole ∧ Fraction fraction ∧ Exponent exponent ∧ text = whole ++ (fraction ++ exponent) := by
  constructor
  · intro h
    unfold isUnsigned at h
    split at h
    · obtain ⟨fraction, exponent, hfraction, hexponent, rfl⟩ := isFractionExponent_iff.1 h
      exact ⟨['0'], fraction, exponent, .zero, hfraction, hexponent, rfl⟩
    · rename_i hzero
      rw [Bool.and_eq_true] at h
      obtain ⟨fraction, exponent, hfraction, hexponent, hrest⟩ := isFractionExponent_iff.1 h.2
      refine ⟨_, fraction, exponent, .digits (isDigits_iff.1 h.1) ?_, hfraction, hexponent, ?_⟩
      · intro hhead
        obtain ⟨rest, hrest⟩ := List.head?_eq_some_iff.1 hhead
        exact hzero (rest ++ text.dropWhile Char.isDigit)
          (by rw [← List.cons_append, ← hrest, List.takeWhile_append_dropWhile])
      · rw [← hrest, List.takeWhile_append_dropWhile]
  · rintro ⟨whole, fraction, exponent, hwhole, hfraction, hexponent, rfl⟩
    have hrest : isFractionExponent (fraction ++ exponent) = true :=
      isFractionExponent_iff.2 ⟨fraction, exponent, hfraction, hexponent, rfl⟩
    cases hwhole with
    | zero => exact hrest
    | digits hdigits hzero =>
      rw [isUnsigned, hdigits.takeWhile_append (hfraction.head?_ne_digit hexponent),
        hdigits.dropWhile_append (hfraction.head?_ne_digit hexponent), isDigits_iff.2 hdigits, hrest]
      · rfl
      · intro rest heq
        obtain ⟨first, more, rfl⟩ := List.exists_cons_of_ne_nil hdigits.1
        cases heq
        exact hzero rfl

/-- Scanning takes for numbers what is written as a number. -/
theorem isNumber_iff {text : List Char} : isNumber text = true ↔ Numeral text := by
  constructor
  · intro h
    unfold isNumber at h
    split at h
    · obtain ⟨whole, fraction, exponent, hwhole, hfraction, hexponent, rfl⟩ := isUnsigned_iff.1 h
      exact ⟨['-'], whole, fraction, exponent, .inr rfl, hwhole, hfraction, hexponent, rfl⟩
    · obtain ⟨whole, fraction, exponent, hwhole, hfraction, hexponent, rfl⟩ := isUnsigned_iff.1 h
      exact ⟨[], whole, fraction, exponent, .inl rfl, hwhole, hfraction, hexponent, rfl⟩
  · rintro ⟨sign, whole, fraction, exponent, rfl | rfl, hwhole, hfraction, hexponent, rfl⟩
    · have hunsigned : isUnsigned (whole ++ (fraction ++ exponent)) = true :=
        isUnsigned_iff.2 ⟨whole, fraction, exponent, hwhole, hfraction, hexponent, rfl⟩
      rw [List.nil_append, isNumber, hunsigned]
      intro rest heq
      cases hwhole with
      | zero => cases heq
      | digits hdigits hzero =>
        obtain ⟨first, more, rfl⟩ := List.exists_cons_of_ne_nil hdigits.1
        cases heq
        exact absurd (hdigits.2 '-' List.mem_cons_self) (by decide)
    · exact isUnsigned_iff.2 ⟨whole, fraction, exponent, hwhole, hfraction, hexponent, rfl⟩

end Outlining.Json
