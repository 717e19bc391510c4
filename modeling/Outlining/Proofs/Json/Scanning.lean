import Mathlib.Tactic.SplitIfs
import Outlining.Proofs.Json.Layout

/-!
# Scanning written values

What the scanner finds at the front of a text: nothing in blanks, one token in a punctuation mark, in a literal or number that something ends, and in a quoted string. Strings are the heart of it: every escape stands for the character that it was written for, and the code points of a text are never taken for surrogates.
-/

namespace Outlining.Json

namespace Scanner

/-- The tokens of a text that a scanner goes on with. -/
def run (scanner : Scanner) (text : List Char) : Option (List Token) :=
  (text.foldlM step scanner).bind finish

theorem run_of_step {scanner next : Scanner} {c : Char} (h : scanner.step c = some next) (rest : List Char) :
    scanner.run (c :: rest) = next.run rest := by
  rw [run, List.foldlM_cons, h]
  rfl

/-! ### Blanks and punctuation -/

variable {found : List Token}

theorem run_blank {c : Char} (h : isBlank c = true) (rest : List Char) :
    run ⟨found, .nothing⟩ (c :: rest) = run ⟨found, .nothing⟩ rest := by
  refine run_of_step ?_ rest
  rw [step, outside, if_pos h]
  rfl

theorem run_blanks {blanks : List Char} (h : ∀ c ∈ blanks, isBlank c = true) (rest : List Char) :
    run ⟨found, .nothing⟩ (blanks ++ rest) = run ⟨found, .nothing⟩ rest := by
  induction blanks with
  | nil => rfl
  | cons c blanks ih =>
    rw [List.cons_append, run_blank (h c List.mem_cons_self)]
    exact ih fun other hother => h other (List.mem_cons_of_mem c hother)

theorem not_blank_of_punctuation {c : Char} {token : Token} (h : punctuation? c = some token) :
    isBlank c = false ∧ c ≠ '"' := by
  unfold punctuation? at h
  split at h <;> first | (cases h; done) | exact ⟨rfl, by decide⟩

theorem run_punctuation {c : Char} {token : Token} (h : punctuation? c = some token) (rest : List Char) :
    run ⟨found, .nothing⟩ (c :: rest) = run ⟨token :: found, .nothing⟩ rest := by
  obtain ⟨hblank, hquote⟩ := not_blank_of_punctuation h
  refine run_of_step ?_ rest
  rw [step, outside, hblank, if_neg Bool.false_ne_true, if_neg hquote, h]
  rfl

/-! ### Words -/

/-- Whether a word ends in front of a text. -/
def EndsWord (rest : List Char) : Prop :=
  ∀ c ∈ rest.head?, isBlank c = true ∨ ∃ token, punctuation? c = some token

theorem endsWord_of_blanks {blanks rest : List Char} (hblanks : ∀ c ∈ blanks, isBlank c = true)
    (hrest : EndsWord rest) : EndsWord (blanks ++ rest) := by
  cases blanks with
  | nil => exact hrest
  | cons c blanks =>
    intro first hfirst
    cases hfirst
    exact .inl (hblanks c List.mem_cons_self)

theorem endsWord_punctuation {c : Char} {token : Token} (h : punctuation? c = some token) (rest : List Char) :
    EndsWord (c :: rest) := by
  intro first hfirst
  cases hfirst
  exact .inr ⟨token, h⟩

theorem run_word {letters : List Char} {token : Token} {rest : List Char} (hword : word? letters.reverse = some token)
    (hrest : EndsWord rest) : run ⟨found, .word letters⟩ rest = run ⟨token :: found, .nothing⟩ rest := by
  have hend : endWord ⟨found, .word letters⟩ = some ⟨token :: found, .nothing⟩ := by
    simp only [endWord, hword, Option.map_some]
  cases rest with
  | nil =>
    change finish ⟨found, .word letters⟩ = finish ⟨token :: found, .nothing⟩
    rw [finish, hend]
    rfl
  | cons c rest =>
    rcases hrest c rfl with hblank | ⟨next, hnext⟩
    · rw [run_blank hblank]
      refine run_of_step ?_ rest
      rw [step, outside, if_pos hblank, hend]
    · obtain ⟨hblank, hquote⟩ := not_blank_of_punctuation hnext
      rw [run_punctuation hnext]
      refine run_of_step ?_ rest
      rw [step, outside, hblank, if_neg Bool.false_ne_true, if_neg hquote, hnext, hend]
      rfl

/-- Whether a character goes on with a word, or begins one. -/
def isLetter (c : Char) : Bool :=
  !isBlank c && c != '"' && (punctuation? c).isNone

theorem step_letter {c : Char} (h : isLetter c = true) (letters : List Char) :
    step ⟨found, .word letters⟩ c = some ⟨found, .word (c :: letters)⟩ ∧
      step ⟨found, .nothing⟩ c = some ⟨found, .word [c]⟩ := by
  simp only [isLetter, Bool.and_eq_true, Bool.not_eq_true', bne_iff_ne, Option.isNone_iff_eq_none] at h
  obtain ⟨⟨hblank, hquote⟩, hpunctuation⟩ := h
  simp [step, outside, hblank, hquote, hpunctuation]

theorem run_letters {letters : List Char} (h : letters.all isLetter = true) (before rest : List Char) :
    run ⟨found, .word before⟩ (letters ++ rest) = run ⟨found, .word (letters.reverse ++ before)⟩ rest := by
  induction letters generalizing before with
  | nil => rfl
  | cons c letters ih =>
    rw [List.all_cons, Bool.and_eq_true] at h
    rw [List.cons_append, run_of_step (step_letter h.1 before).1, ih h.2]
    simp

/-- A word is found as soon as something ends it. -/
theorem run_literal {letters : List Char} {token : Token} {rest : List Char} (hletters : letters.all isLetter = true)
    (hword : word? letters = some token) (hrest : EndsWord rest) :
    run ⟨found, .nothing⟩ (letters ++ rest) = run ⟨token :: found, .nothing⟩ rest := by
  cases letters with
  | nil => cases hword
  | cons c letters =>
    rw [List.all_cons, Bool.and_eq_true] at hletters
    rw [List.cons_append, run_of_step (step_letter hletters.1 []).2, run_letters hletters.2]
    exact run_word (by simpa using hword) hrest

/-! ### Numbers -/

theorem isLetter_of_isDigit {c : Char} (h : c.isDigit = true) : isLetter c = true := by
  have hother : ∀ other : Char, other.isDigit = false → c ≠ other := by
    rintro other hother rfl
    exact absurd h (by simp [hother])
  have hpunctuation : punctuation? c = none := by
    unfold punctuation?
    split <;> first | rfl | exact absurd h (by decide)
  have hquote : c ≠ '"' := hother '"' (by decide)
  have hblank : isBlank c = false := by
    simp only [isBlank, Bool.or_eq_false_iff, beq_eq_false_iff_ne]
    exact ⟨⟨⟨hother ' ' (by decide), hother '\t' (by decide)⟩, hother '\n' (by decide)⟩, hother '\r' (by decide)⟩
  simp [isLetter, hblank, hquote, hpunctuation]

theorem letters_of_isDigits {digits : List Char} (h : isDigits digits = true) : digits.all isLetter = true := by
  rw [isDigits, Bool.and_eq_true] at h
  rw [List.all_eq_true]
  intro c hc
  exact isLetter_of_isDigit (List.all_eq_true.1 h.2 c hc)

theorem letters_of_isExponent {text : List Char} (h : isExponent text = true) : text.all isLetter = true := by
  unfold isExponent at h
  split at h
  · rfl
  all_goals first
    | cases h
    | rw [List.all_cons, List.all_cons, letters_of_isDigits h]; rfl
    | rw [List.all_cons, letters_of_isDigits h]; rfl

theorem letters_of_isFractionExponent {text : List Char} (h : isFractionExponent text = true) :
    text.all isLetter = true := by
  unfold isFractionExponent at h
  split at h
  · rename_i rest
    rw [Bool.and_eq_true] at h
    have hrest : rest.all isLetter = true := by
      rw [← List.takeWhile_append_dropWhile (p := Char.isDigit) (l := rest), List.all_append,
        letters_of_isDigits h.1, letters_of_isExponent h.2]
      rfl
    rw [List.all_cons, hrest]
    rfl
  · exact letters_of_isExponent h

theorem letters_of_isUnsigned {text : List Char} (h : isUnsigned text = true) : text.all isLetter = true := by
  unfold isUnsigned at h
  split at h
  · rw [List.all_cons, letters_of_isFractionExponent h]
    rfl
  · rw [Bool.and_eq_true] at h
    rw [← List.takeWhile_append_dropWhile (p := Char.isDigit) (l := text), List.all_append,
      letters_of_isDigits h.1, letters_of_isFractionExponent h.2]
    rfl

theorem letters_of_isNumber {text : List Char} (h : isNumber text = true) : text.all isLetter = true := by
  unfold isNumber at h
  split at h
  · rw [List.all_cons, letters_of_isUnsigned h]
    rfl
  · exact letters_of_isUnsigned h

theorem word?_of_isNumber {letters : List Char} (h : isNumber letters = true) :
    word? letters = some (.number (String.ofList letters)) := by
  have hother : ∀ other, isNumber other = false → letters ≠ other := by
    rintro other hother rfl
    exact absurd h (by simp [hother])
  rw [word?, if_neg (hother _ (by decide)), if_neg (hother _ (by decide)), if_neg (hother _ (by decide)), if_pos h]

/-! ### Strings -/

theorem hexValue?_hexDigit : ∀ digit < 16, Character.hexValue? (hexDigit digit) = some digit := by decide

theorem run_digit {digit : Nat} (h : digit < 16) (codes : List Nat) (value missing : Nat) (rest : List Char) :
    run ⟨found, .hexadecimal codes value (missing + 2)⟩ (hexDigit digit :: rest) =
      run ⟨found, .hexadecimal codes (16 * value + digit) (missing + 1)⟩ rest := by
  refine run_of_step ?_ rest
  simp [step, hexValue?_hexDigit digit h]

theorem run_last_digit {digit : Nat} (h : digit < 16) (codes : List Nat) (value : Nat) (rest : List Char) :
    run ⟨found, .hexadecimal codes value 1⟩ (hexDigit digit :: rest) =
      run ⟨found, .text ((16 * value + digit) :: codes)⟩ rest := by
  refine run_of_step ?_ rest
  simp [step, hexValue?_hexDigit digit h]

theorem run_hexadecimal {c : Char} (h : c.toNat < 32) (codes : List Nat) (rest : List Char) :
    run ⟨found, .hexadecimal codes 0 4⟩ (hexDigit 0 :: hexDigit 0 :: hexDigit (c.toNat / 16) :: hexDigit (c.toNat % 16) :: rest) =
      run ⟨found, .text (c.toNat :: codes)⟩ rest := by
  have hhigh : c.toNat / 16 < 16 := by omega
  have hlow : c.toNat % 16 < 16 := by omega
  have hvalue : 16 * (16 * (16 * (16 * 0 + 0) + 0) + c.toNat / 16) + c.toNat % 16 = c.toNat := by omega
  rw [run_digit (by decide) codes 0 2, run_digit (by decide) codes _ 1, run_digit hhigh codes _ 0,
    run_last_digit hlow, hvalue]

/-- However a character is written in a string, its code point is what is collected. -/
theorem run_escaped (codes : List Nat) (c : Char) (rest : List Char) :
    run ⟨found, .text codes⟩ (escaped c ++ rest) = run ⟨found, .text (c.toNat :: codes)⟩ rest := by
  unfold escaped
  split_ifs with hquote hbackslash hbackspace hformfeed hline hreturn htab hcontrol
  · rw [hquote]
    rfl
  · rw [hbackslash]
    rfl
  · rw [hbackspace]
    rfl
  · rw [hformfeed]
    rfl
  · rw [hline]
    rfl
  · rw [hreturn]
    rfl
  · rw [htab]
    rfl
  · exact run_hexadecimal hcontrol codes rest
  · refine run_of_step ?_ rest
    simp only [step, if_neg hquote, if_neg hbackslash, if_neg hcontrol]

theorem run_text (codes : List Nat) (text rest : List Char) :
    run ⟨found, .text codes⟩ (text.flatMap escaped ++ rest) =
      run ⟨found, .text ((text.map Char.toNat).reverse ++ codes)⟩ rest := by
  induction text generalizing codes with
  | nil => rfl
  | cons c text ih =>
    rw [List.flatMap_cons, List.append_assoc, run_escaped, ih]
    simp

theorem not_surrogate (c : Char) : isHighSurrogate c.toNat = false ∧ isLowSurrogate c.toNat = false := by
  have hvalid : c.toNat < 0xD800 ∨ 0xDFFF < c.toNat ∧ c.toNat < 0x110000 := c.valid
  constructor
  · simp only [isHighSurrogate, Bool.and_eq_false_iff, decide_eq_false_iff_not]
    omega
  · simp only [isLowSurrogate, Bool.and_eq_false_iff, decide_eq_false_iff_not]
    omega

/-- No character is half of a surrogate pair, so nothing is joined when the code points of a text are read. -/
theorem decode?_map_toNat (text : List Char) : decode? (text.map Char.toNat) = some text := by
  induction text with
  | nil => rfl
  | cons c rest ih =>
    obtain ⟨hhigh, hlow⟩ := not_surrogate c
    cases rest with
    | nil => simp [decode?, hhigh, hlow]
    | cons next rest =>
      rw [List.map_cons, List.map_cons, decode?, ← List.map_cons, ih]
      simp [hhigh, hlow]

theorem run_quoted (text : String) (rest : List Char) :
    run ⟨found, .nothing⟩ (quoted text ++ rest) = run ⟨.string (some text) :: found, .nothing⟩ rest := by
  have hopen : step ⟨found, .nothing⟩ '"' = some ⟨found, .text []⟩ := rfl
  rw [quoted, List.cons_append, List.cons_append, run_of_step hopen, List.append_assoc, run_text]
  refine run_of_step ?_ rest
  simp [step, decode?_map_toNat]

end Scanner

end Outlining.Json
