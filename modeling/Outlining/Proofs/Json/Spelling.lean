import Mathlib.Data.List.Chain
import Outlining.Proofs.Json.Numerals
import Outlining.Proofs.Json.Scanning

/-!
# Spelled tokens

How the tokens of a JSON text are spelled, said without the scanner: a mark is its character, a literal its name, a number a numeral, and a string stands between quote marks with its characters as they are or escaped. Blanks between tokens are free. The scanner finds the tokens that a text spells and no others (`spellsAll_of_tokens?`, `tokens?_of_spellsAll`).
-/

namespace Outlining.Json

/-! ### Texts and their code points -/

/-- The letters that escape a character, and the characters they stand for. -/
def escapes : List (Char × Char) :=
  [('"', '"'), ('\\', '\\'), ('/', '/'), ('b', '\x08'), ('f', '\x0c'), ('n', '\n'), ('r', '\r'), ('t', '\t')]

/-- What stands between the quote marks of a string gives code points: a character stands for itself, or it is escaped by a letter or by the four hexadecimal digits of a code point. -/
inductive Body : List Char → List Nat → Prop
  | nil : Body [] []
  | character {c : Char} {rest : List Char} {codes : List Nat} (hquote : c ≠ '"') (hbackslash : c ≠ '\\')
    (hcontrol : 32 ≤ c.toNat) (hrest : Body rest codes) : Body (c :: rest) (c.toNat :: codes)
  | letter {letter c : Char} {rest : List Char} {codes : List Nat} (hletter : (letter, c) ∈ escapes)
    (hrest : Body rest codes) : Body ('\\' :: letter :: rest) (c.toNat :: codes)
  | number {digits rest : List Char} {code : Nat} {codes : List Nat} (hlength : digits.length = 4)
    (hcode : Character.hexNumber? digits = some code) (hrest : Body rest codes) :
    Body ('\\' :: 'u' :: (digits ++ rest)) (code :: codes)

/-- Code points give a text: those of surrogates stand in pairs, and every pair stands for one character. -/
inductive Decodes : List Nat → List Char → Prop
  | nil : Decodes [] []
  | character {code : Nat} {rest : List Nat} {text : List Char} (hhigh : isHighSurrogate code = false)
    (hlow : isLowSurrogate code = false) (hrest : Decodes rest text) : Decodes (code :: rest) (Char.ofNat code :: text)
  | pair {high low : Nat} {rest : List Nat} {text : List Char} (hhigh : isHighSurrogate high = true)
    (hlow : isLowSurrogate low = true) (hrest : Decodes rest text) :
    Decodes (high :: low :: rest) (Char.ofNat (joinSurrogates high low) :: text)

theorem Body.append {front back : List Char} {codes more : List Nat} (hfront : Body front codes) (hback : Body back more) :
    Body (front ++ back) (codes ++ more) := by
  induction hfront with
  | nil => exact hback
  | character hquote hbackslash hcontrol _ ih => exact .character hquote hbackslash hcontrol ih
  | letter hletter _ ih => exact .letter hletter ih
  | number hlength hcode _ ih =>
    rw [List.cons_append, List.cons_append, List.append_assoc]
    exact .number hlength hcode ih

theorem escapedCharacter?_eq_some_iff {letter c : Char} : escapedCharacter? letter = some c ↔ (letter, c) ∈ escapes := by
  constructor
  · intro h
    unfold escapedCharacter? at h
    split at h <;> cases h <;> simp [escapes]
  · intro h
    simp only [escapes, List.mem_cons, Prod.mk.injEq, List.not_mem_nil, or_false] at h
    obtain ⟨rfl, rfl⟩ | ⟨rfl, rfl⟩ | ⟨rfl, rfl⟩ | ⟨rfl, rfl⟩ | ⟨rfl, rfl⟩ | ⟨rfl, rfl⟩ | ⟨rfl, rfl⟩ | ⟨rfl, rfl⟩ := h <;> rfl

theorem decode?_eq_some_iff {codes : List Nat} {text : List Char} : decode? codes = some text ↔ Decodes codes text := by
  constructor
  · intro h
    fun_induction decode? codes generalizing text with
    | case1 =>
      cases h
      exact .nil
    | case2 code hsurrogate => cases h
    | case3 code hsurrogate =>
      cases h
      rw [Bool.or_eq_true, not_or, Bool.not_eq_true, Bool.not_eq_true] at hsurrogate
      exact .character hsurrogate.1 hsurrogate.2 .nil
    | case4 code next rest hpair ih =>
      obtain ⟨more, hmore, rfl⟩ := Option.map_eq_some_iff.1 h
      rw [Bool.and_eq_true] at hpair
      exact .pair hpair.1 hpair.2 (ih hmore)
    | case5 code next rest _ hsurrogate => cases h
    | case6 code next rest _ hsurrogate ih =>
      obtain ⟨more, hmore, rfl⟩ := Option.map_eq_some_iff.1 h
      rw [Bool.or_eq_true, not_or, Bool.not_eq_true, Bool.not_eq_true] at hsurrogate
      exact .character hsurrogate.1 hsurrogate.2 (ih hmore)
  · intro h
    induction h with
    | nil => rfl
    | @character code rest text hhigh hlow hrest ih =>
      cases rest with
      | nil =>
        cases hrest
        simp [decode?, hhigh, hlow]
      | cons next rest => simp [decode?, hhigh, hlow, ih]
    | pair hhigh hlow _ ih => simp [decode?, hhigh, hlow, ih]

/-! ### Tokens -/

/-- A text is the spelling of a token. -/
inductive Spells : List Char → Token → Prop
  | beginArray : Spells ['['] .beginArray
  | endArray : Spells [']'] .endArray
  | beginObject : Spells ['\x7b'] .beginObject
  | endObject : Spells ['\x7d'] .endObject
  | colon : Spells [':'] .colon
  | comma : Spells [','] .comma
  | null : Spells "null".toList .null
  | bool (value : Bool) : Spells (toString value).toList (.bool value)
  | number {text : List Char} (h : Numeral text) : Spells text (.number (String.ofList text))
  | string {body text : List Char} {codes : List Nat} (hbody : Body body codes) (htext : Decodes codes text) :
    Spells ('"' :: (body ++ ['"'])) (.string (some (String.ofList text)))
  /-- A string with a surrogate that is alone denotes no text. -/
  | surrogate {body : List Char} {codes : List Nat} (hbody : Body body codes) (htext : ∀ text, ¬Decodes codes text) :
    Spells ('"' :: (body ++ ['"'])) (.string none)

/-- A text is the spellings of tokens one after the other, with any blanks before, between and behind them. -/
inductive SpellsAll : List Char → List Token → Prop
  | nil : SpellsAll [] []
  | blank {c : Char} {rest : List Char} {tokens : List Token} (hblank : isBlank c = true) (hrest : SpellsAll rest tokens) :
    SpellsAll (c :: rest) tokens
  | token {text rest : List Char} {token : Token} {tokens : List Token} (htoken : Spells text token)
    (hrest : SpellsAll rest tokens) : SpellsAll (text ++ rest) (token :: tokens)

def Token.IsWord : Token → Prop
  | .null | .bool _ | .number _ => True
  | _ => False

def Token.IsMark : Token → Prop
  | .beginArray | .endArray | .beginObject | .endObject | .colon | .comma => True
  | _ => False

/-- Behind every word stands a mark, so no two words run into each other. -/
def Apart (tokens : List Token) : Prop :=
  tokens.IsChain fun token next => token.IsWord → next.IsMark

/-! ### Spelled tokens are found -/

namespace Scanner

variable {found : List Token}

theorem run_digits {digits : List Char} {codes : List Nat} {value code missing : Nat} (hlength : digits.length = missing + 1)
    (hcode : digits.foldlM (fun value c => (Character.hexValue? c).map (16 * value + ·)) value = some code) (rest : List Char) :
    run ⟨found, .hexadecimal codes value (missing + 1)⟩ (digits ++ rest) = run ⟨found, .text (code :: codes)⟩ rest := by
  induction digits generalizing value missing with
  | nil => cases hlength
  | cons c more ih =>
    rw [List.foldlM_cons, Option.bind_eq_bind, Option.bind_eq_some_iff] at hcode
    obtain ⟨next, hnext, hcode⟩ := hcode
    obtain ⟨digit, hdigit, rfl⟩ := Option.map_eq_some_iff.1 hnext
    cases missing with
    | zero =>
      obtain rfl : more = [] := by simpa using hlength
      cases hcode
      refine run_of_step ?_ rest
      simp [step, hdigit]
    | succ missing =>
      have hstep : step ⟨found, .hexadecimal codes value (missing + 1 + 1)⟩ c =
          some ⟨found, .hexadecimal codes (16 * value + digit) (missing + 1)⟩ := by simp [step, hdigit]
      rw [List.cons_append, run_of_step hstep]
      exact ih (by simpa using hlength) hcode

theorem run_body {body : List Char} {codes : List Nat} (h : Body body codes) (before : List Nat) (rest : List Char) :
    run ⟨found, .text before⟩ (body ++ rest) = run ⟨found, .text (codes.reverse ++ before)⟩ rest := by
  induction h generalizing before with
  | nil => rfl
  | @character c more codes hquote hbackslash hcontrol _ ih =>
    have hstep : step ⟨found, .text before⟩ c = some ⟨found, .text (c.toNat :: before)⟩ := by
      simp only [step, if_neg hquote, if_neg hbackslash, if_neg (Nat.not_lt.2 hcontrol)]
    rw [List.cons_append, run_of_step hstep, ih]
    simp
  | @letter letter c more codes hletter _ ih =>
    have hescape : step ⟨found, .text before⟩ '\\' = some ⟨found, .escape before⟩ := rfl
    have hne : letter ≠ 'u' := by
      rintro rfl
      simp [escapes] at hletter
    have hstep : step ⟨found, .escape before⟩ letter = some ⟨found, .text (c.toNat :: before)⟩ := by
      simp [step, hne, escapedCharacter?_eq_some_iff.2 hletter]
    rw [List.cons_append, List.cons_append, run_of_step hescape, run_of_step hstep, ih]
    simp
  | @number digits more code codes hlength hcode _ ih =>
    have hescape : step ⟨found, .text before⟩ '\\' = some ⟨found, .escape before⟩ := rfl
    have hstep : step ⟨found, .escape before⟩ 'u' = some ⟨found, .hexadecimal before 0 4⟩ := rfl
    rw [List.cons_append, List.cons_append, run_of_step hescape, run_of_step hstep, List.append_assoc,
      run_digits hlength hcode, ih]
    simp

theorem run_string {body : List Char} {codes : List Nat} (h : Body body codes) (rest : List Char) :
    run ⟨found, .nothing⟩ ('"' :: (body ++ ['"']) ++ rest) =
      run ⟨.string ((decode? codes).map String.ofList) :: found, .nothing⟩ rest := by
  have hopen : step ⟨found, .nothing⟩ '"' = some ⟨found, .text []⟩ := rfl
  rw [List.cons_append, run_of_step hopen, List.append_assoc, run_body h]
  refine run_of_step ?_ rest
  simp [step]

/-- The spelling of a token is found to be that token, in front of anything that ends a word. -/
theorem run_spells {text rest : List Char} {token : Token} (h : Spells text token) (hrest : token.IsWord → EndsWord rest) :
    run ⟨found, .nothing⟩ (text ++ rest) = run ⟨token :: found, .nothing⟩ rest := by
  cases h with
  | null => exact run_literal (by decide) (by decide) (hrest trivial)
  | bool value => cases value <;> exact run_literal (by decide) (by decide) (hrest trivial)
  | number h =>
    have hnumber := isNumber_iff.2 h
    exact run_literal (letters_of_isNumber hnumber) (word?_of_isNumber hnumber) (hrest trivial)
  | string hbody htext => rw [run_string hbody, decode?_eq_some_iff.2 htext, Option.map_some]
  | @surrogate body codes hbody htext =>
    have hnone : decode? codes = none :=
      Option.eq_none_iff_forall_ne_some.2 fun text h => htext text (decode?_eq_some_iff.1 h)
    rw [run_string hbody, hnone, Option.map_none]
  | _ => exact run_punctuation rfl rest

theorem endsWord_of_spellsAll {rest : List Char} {tokens : List Token} (h : SpellsAll rest tokens)
    (hmark : ∀ next ∈ tokens.head?, next.IsMark) : EndsWord rest := by
  cases h with
  | nil => exact nofun
  | blank hblank _ =>
    rintro c ⟨⟩
    exact .inl hblank
  | @token text rest token tokens htoken _ =>
    have htokenMark : token.IsMark := hmark token rfl
    cases htoken with
    | null => exact htokenMark.elim
    | bool _ => exact htokenMark.elim
    | number _ => exact htokenMark.elim
    | string _ _ => exact htokenMark.elim
    | surrogate _ _ => exact htokenMark.elim
    | _ => exact endsWord_punctuation rfl rest

theorem run_spellsAll {text : List Char} {tokens : List Token} (h : SpellsAll text tokens) (hapart : Apart tokens) :
    run ⟨found, .nothing⟩ text = some (found.reverse ++ tokens) := by
  induction h generalizing found with
  | nil => simp [run, finish]
  | blank hblank _ ih => rw [run_blank hblank, ih hapart]
  | @token text rest token tokens htoken hrest ih =>
    obtain ⟨hnext, hmore⟩ := List.isChain_cons.1 hapart
    rw [run_spells htoken fun hword => endsWord_of_spellsAll hrest fun next hhead => hnext next hhead hword, ih hmore]
    simp

end Scanner

theorem tokens?_of_spellsAll {text : List Char} {tokens : List Token} (h : SpellsAll text tokens) (hapart : Apart tokens) :
    tokens? text = some tokens :=
  Scanner.run_spellsAll h hapart

/-! ### Found tokens are spelled -/

theorem SpellsAll.append {front back : List Char} {tokens more : List Token} (hfront : SpellsAll front tokens)
    (hback : SpellsAll back more) : SpellsAll (front ++ back) (tokens ++ more) := by
  induction hfront with
  | nil => exact hback
  | blank hblank _ ih => exact .blank hblank ih
  | token htoken _ ih =>
    rw [List.append_assoc, List.cons_append]
    exact .token htoken ih

theorem Spells.spellsAll {text : List Char} {token : Token} (h : Spells text token) : SpellsAll text [token] := by
  simpa using SpellsAll.token h .nil

theorem spells_of_punctuation? {c : Char} {token : Token} (h : punctuation? c = some token) : Spells [c] token := by
  unfold punctuation? at h
  split at h <;> cases h <;> constructor

theorem spells_of_word? {letters : List Char} {token : Token} (h : word? letters = some token) : Spells letters token := by
  unfold word? at h
  split_ifs at h with hnull htrue hfalse hnumber <;> cases h
  · exact hnull ▸ .null
  · exact htrue ▸ .bool true
  · exact hfalse ▸ .bool false
  · exact .number (isNumber_iff.1 hnumber)

/-- Quote marks around a body are the spelling of a string token, whether or not the code points of the body give a text. -/
theorem spells_of_body {body : List Char} {codes : List Nat} (h : Body body codes) :
    Spells ('"' :: (body ++ ['"'])) (.string ((decode? codes).map String.ofList)) := by
  cases hdecode : decode? codes with
  | none => exact .surrogate h fun text htext => by simp [decode?_eq_some_iff.2 htext] at hdecode
  | some text => exact .string h (decode?_eq_some_iff.1 hdecode)

/-- What a scanner has read since the last token it found. -/
inductive Begun : Pending → List Char → Prop
  | nothing : Begun .nothing []
  | word (letters : List Char) : Begun (.word letters) letters.reverse
  | text {codes : List Nat} {body : List Char} (hbody : Body body codes.reverse) : Begun (.text codes) ('"' :: body)
  | escape {codes : List Nat} {body : List Char} (hbody : Body body codes.reverse) :
    Begun (.escape codes) ('"' :: (body ++ ['\\']))
  | hexadecimal {codes : List Nat} {body digits : List Char} {value missing : Nat} (hbody : Body body codes.reverse)
    (hlength : digits.length + missing = 4) (hmissing : 1 ≤ missing) (hvalue : Character.hexNumber? digits = some value) :
    Begun (.hexadecimal codes value missing) ('"' :: (body ++ '\\' :: 'u' :: digits))

namespace Scanner

/-- A scanner has read a text: the tokens it found are spelled in front of what it is in the middle of. -/
def HasRead (scanner : Scanner) (text : List Char) : Prop :=
  ∃ before begun, text = before ++ begun ∧ SpellsAll before scanner.found.reverse ∧ Begun scanner.pending begun

theorem hasRead_nothing {found : List Token} {text : List Char} (h : SpellsAll text found.reverse) :
    HasRead ⟨found, .nothing⟩ text :=
  ⟨text, [], (List.append_nil text).symm, h, .nothing⟩

theorem spellsAll_of_endWord {scanner ended : Scanner} {text : List Char} (h : scanner.HasRead text)
    (hpending : scanner.pending = .nothing ∨ ∃ letters, scanner.pending = .word letters) (hended : scanner.endWord = some ended) :
    ended.pending = .nothing ∧ SpellsAll text ended.found.reverse := by
  obtain ⟨found, pending⟩ := scanner
  obtain ⟨before, begun, rfl, hbefore, hbegun⟩ := h
  obtain rfl | ⟨letters, rfl⟩ := hpending
  · cases hended
    cases hbegun
    exact ⟨rfl, by simpa using hbefore⟩
  · cases hbegun
    obtain ⟨token, htoken, rfl⟩ := Option.map_eq_some_iff.1 hended
    refine ⟨rfl, ?_⟩
    rw [List.reverse_cons]
    exact hbefore.append (spells_of_word? htoken).spellsAll

theorem HasRead.outside {scanner next : Scanner} {text : List Char} {c : Char} (h : scanner.HasRead text)
    (hpending : scanner.pending = .nothing ∨ ∃ letters, scanner.pending = .word letters) (hnext : scanner.outside c = some next) :
    next.HasRead (text ++ [c]) := by
  unfold Scanner.outside at hnext
  split_ifs at hnext with hblank hquote
  · obtain ⟨hnothing, hfound⟩ := spellsAll_of_endWord h hpending hnext
    obtain ⟨found, pending⟩ := next
    obtain rfl : pending = .nothing := hnothing
    exact hasRead_nothing (by simpa using hfound.append (.blank hblank .nil))
  · obtain ⟨ended, hended, rfl⟩ := Option.map_eq_some_iff.1 hnext
    obtain ⟨-, hfound⟩ := spellsAll_of_endWord h hpending hended
    exact ⟨text, ['"'], by rw [hquote], hfound, .text .nil⟩
  · split at hnext
    · rename_i token _ hpunctuation
      obtain ⟨ended, hended, rfl⟩ := Option.map_eq_some_iff.1 hnext
      obtain ⟨-, hfound⟩ := spellsAll_of_endWord h hpending hended
      refine hasRead_nothing ?_
      rw [List.reverse_cons]
      exact hfound.append (spells_of_punctuation? hpunctuation).spellsAll
    · rename_i letters _ hletters
      cases hnext
      obtain ⟨before, begun, rfl, hbefore, hbegun⟩ := h
      rw [hletters] at hbegun
      cases hbegun
      refine ⟨before, (c :: letters).reverse, ?_, hbefore, .word (c :: letters)⟩
      rw [List.append_assoc, List.reverse_cons]
    · rename_i _ hword
      cases hnext
      obtain hnothing | ⟨letters, hletters⟩ := hpending
      · obtain ⟨before, begun, rfl, hbefore, hbegun⟩ := h
        rw [hnothing] at hbegun
        cases hbegun
        exact ⟨before, [c], by simp, hbefore, .word [c]⟩
      · exact absurd hletters (hword letters)

theorem HasRead.step {scanner next : Scanner} {text : List Char} {c : Char} (h : scanner.HasRead text)
    (hnext : scanner.step c = some next) : next.HasRead (text ++ [c]) := by
  obtain ⟨found, pending⟩ := scanner
  cases pending with
  | nothing => exact h.outside (.inl rfl) hnext
  | word letters => exact h.outside (.inr ⟨letters, rfl⟩) hnext
  | text codes =>
    obtain ⟨before, begun, rfl, hbefore, hbegun⟩ := h
    cases hbegun with | @text _ body hbody =>
    simp only [Scanner.step] at hnext
    rw [List.append_assoc]
    split_ifs at hnext with hquote hbackslash hcontrol <;> cases hnext
    · subst hquote
      refine hasRead_nothing ?_
      rw [List.reverse_cons]
      exact hbefore.append (spells_of_body hbody).spellsAll
    · subst hbackslash
      exact ⟨before, _, rfl, hbefore, .escape hbody⟩
    · refine ⟨before, _, rfl, hbefore, .text ?_⟩
      rw [List.reverse_cons]
      exact hbody.append (.character hquote hbackslash (Nat.not_lt.1 hcontrol) .nil)
  | escape codes =>
    obtain ⟨before, begun, rfl, hbefore, hbegun⟩ := h
    cases hbegun with | @escape _ body hbody =>
    simp only [Scanner.step] at hnext
    rw [List.append_assoc, List.cons_append, List.append_assoc]
    split_ifs at hnext with hnumber
    · cases hnext
      subst hnumber
      have hdigits : Character.hexNumber? [] = some 0 := rfl
      exact ⟨before, _, rfl, hbefore, .hexadecimal hbody rfl (by decide) hdigits⟩
    · obtain ⟨character, hcharacter, rfl⟩ := Option.map_eq_some_iff.1 hnext
      refine ⟨before, _, rfl, hbefore, .text ?_⟩
      rw [List.reverse_cons]
      exact hbody.append (.letter (escapedCharacter?_eq_some_iff.1 hcharacter) .nil)
  | hexadecimal codes value missing =>
    obtain ⟨before, begun, rfl, hbefore, hbegun⟩ := h
    cases hbegun with | @hexadecimal _ body digits _ _ hbody hlength hmissing hvalue =>
    simp only [Scanner.step] at hnext
    obtain ⟨digit, hdigit, rfl⟩ := Option.map_eq_some_iff.1 hnext
    have hlonger : Character.hexNumber? (digits ++ [c]) = some (16 * value + digit) := by
      rw [Character.hexNumber?, List.foldlM_append]
      simp only [Character.hexNumber?] at hvalue
      simp [hvalue, hdigit]
    have hcount : (digits ++ [c]).length = digits.length + 1 := by simp
    have hread : before ++ ('"' :: (body ++ '\\' :: 'u' :: digits)) ++ [c] =
        before ++ '"' :: (body ++ '\\' :: 'u' :: (digits ++ [c])) := by simp
    refine ⟨before, _, hread, hbefore, ?_⟩
    split_ifs with hlast
    · have hnumber : Body ('\\' :: 'u' :: (digits ++ [c])) [16 * value + digit] := by
        simpa using Body.number (by omega) hlonger .nil
      refine .text ?_
      rw [List.reverse_cons]
      exact hbody.append hnumber
    · exact .hexadecimal hbody (by omega) (by omega) hlonger

theorem HasRead.foldlM {scanner next : Scanner} {text rest : List Char} (h : scanner.HasRead text)
    (hnext : rest.foldlM Scanner.step scanner = some next) : next.HasRead (text ++ rest) := by
  induction rest generalizing scanner text with
  | nil =>
    cases hnext
    rwa [List.append_nil]
  | cons c rest ih =>
    rw [List.foldlM_cons, Option.bind_eq_bind, Option.bind_eq_some_iff] at hnext
    obtain ⟨after, hafter, hnext⟩ := hnext
    rw [← List.singleton_append, ← List.append_assoc]
    exact ih (h.step hafter) hnext

theorem HasRead.finish {scanner : Scanner} {text : List Char} {tokens : List Token} (h : scanner.HasRead text)
    (htokens : scanner.finish = some tokens) : SpellsAll text tokens := by
  unfold Scanner.finish at htokens
  split at htokens
  · rename_i hnothing
    cases htokens
    exact (spellsAll_of_endWord h (.inl hnothing) (by rw [endWord, hnothing])).2
  · rename_i letters hletters
    obtain ⟨ended, hended, rfl⟩ := Option.map_eq_some_iff.1 htokens
    exact (spellsAll_of_endWord h (.inr ⟨letters, hletters⟩) hended).2
  · cases htokens

end Scanner

/-- The tokens that the scanner finds in a text are what the text spells. -/
theorem spellsAll_of_tokens? {text : List Char} {tokens : List Token} (h : tokens? text = some tokens) :
    SpellsAll text tokens := by
  obtain ⟨scanner, hscanner, htokens⟩ := Option.bind_eq_some_iff.1 h
  have hstart : Scanner.HasRead {} [] := Scanner.hasRead_nothing .nil
  exact (hstart.foldlM hscanner).finish htokens

end Outlining.Json
