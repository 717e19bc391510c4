import Outlining.Character.Hexadecimal

/-!
# JSON tokens

A JSON text is scanned character by character. Blanks between tokens leave no trace. A run of other characters is one word, which must be a literal or a number when it ends; the characters of a string are collected as code points, so that a pair of escaped surrogates can be joined when the string ends. A string whose escapes leave a surrogate alone is a token that denotes no text.
-/

namespace Outlining.Json

inductive Token where
  | beginArray
  | endArray
  | beginObject
  | endObject
  | colon
  | comma
  | null
  | bool (value : Bool)
  | number (literal : String)
  /-- A string, with the text it denotes unless a surrogate in it is alone. -/
  | string (text : Option String)
  deriving DecidableEq, Repr

/-- What the scanner is in the middle of; texts are collected back to front. -/
inductive Pending where
  | nothing
  | word (letters : List Char)
  | text (codes : List Nat)
  /-- In a string, behind a backslash. -/
  | escape (codes : List Nat)
  /-- In a string, behind `\u` and perhaps some digits. -/
  | hexadecimal (codes : List Nat) (value : Nat) (missing : Nat)
  deriving DecidableEq, Repr

/-- The blanks that may stand between tokens. -/
def isBlank (c : Char) : Bool :=
  c == ' ' || c == '\t' || c == '\n' || c == '\r'

/-- The token that a character is on its own. -/
def punctuation? : Char → Option Token
  | '[' => some .beginArray
  | ']' => some .endArray
  | '\x7b' => some .beginObject
  | '\x7d' => some .endObject
  | ':' => some .colon
  | ',' => some .comma
  | _ => none

/-- The character that a one-letter escape stands for. -/
def escapedCharacter? : Char → Option Char
  | '"' => some '"'
  | '\\' => some '\\'
  | '/' => some '/'
  | 'b' => some '\x08'
  | 'f' => some '\x0c'
  | 'n' => some '\n'
  | 'r' => some '\r'
  | 't' => some '\t'
  | _ => none

/-- Whether a code point is the first half of a surrogate pair. -/
def isHighSurrogate (code : Nat) : Bool :=
  0xD800 ≤ code && code < 0xDC00

def isLowSurrogate (code : Nat) : Bool :=
  0xDC00 ≤ code && code < 0xE000

/-- The code point that a surrogate pair stands for. -/
def joinSurrogates (high low : Nat) : Nat :=
  0x10000 + (high - 0xD800) * 0x400 + (low - 0xDC00)

/-- The text of code points, in which surrogates must come in pairs. -/
def decode? : List Nat → Option (List Char)
  | [] => some []
  | [code] => if isHighSurrogate code || isLowSurrogate code then none else some [Char.ofNat code]
  | code :: next :: rest =>
    if isHighSurrogate code && isLowSurrogate next then (decode? rest).map (Char.ofNat (joinSurrogates code next) :: ·)
    else if isHighSurrogate code || isLowSurrogate code then none
    else (decode? (next :: rest)).map (Char.ofNat code :: ·)

def isDigits (digits : List Char) : Bool :=
  !digits.isEmpty && digits.all Char.isDigit

def isExponent : List Char → Bool
  | [] => true
  | 'e' :: '+' :: digits => isDigits digits
  | 'e' :: '-' :: digits => isDigits digits
  | 'e' :: digits => isDigits digits
  | 'E' :: '+' :: digits => isDigits digits
  | 'E' :: '-' :: digits => isDigits digits
  | 'E' :: digits => isDigits digits
  | _ => false

/-- Whether a text is a fraction and an exponent, each of which may be missing. -/
def isFractionExponent : List Char → Bool
  | '.' :: rest => isDigits (rest.takeWhile Char.isDigit) && isExponent (rest.dropWhile Char.isDigit)
  | rest => isExponent rest

/-- Whether a text is a number without a sign: its whole part is zero or does not begin with zero. -/
def isUnsigned : List Char → Bool
  | '0' :: rest => isFractionExponent rest
  | rest => isDigits (rest.takeWhile Char.isDigit) && isFractionExponent (rest.dropWhile Char.isDigit)

def isNumber : List Char → Bool
  | '-' :: rest => isUnsigned rest
  | rest => isUnsigned rest

def word? (letters : List Char) : Option Token :=
  if letters = "null".toList then some .null
  else if letters = "true".toList then some (.bool true)
  else if letters = "false".toList then some (.bool false)
  else if isNumber letters then some (.number (String.ofList letters))
  else none

/-- The tokens found so far, latest first, and what the scanner is in the middle of. -/
structure Scanner where
  found : List Token := []
  pending : Pending := .nothing
  deriving Repr

namespace Scanner

/-- Ends the word that the scanner is in, if it is in one. -/
def endWord (scanner : Scanner) : Option Scanner :=
  match scanner.pending with
  | .word letters => (word? letters.reverse).map fun token => ⟨token :: scanner.found, .nothing⟩
  | _ => some scanner

def outside (scanner : Scanner) (c : Char) : Option Scanner :=
  if isBlank c then scanner.endWord
  else if c = '"' then scanner.endWord.map fun ended => ⟨ended.found, .text []⟩
  else match punctuation? c, scanner.pending with
    | some token, _ => scanner.endWord.map fun ended => ⟨token :: ended.found, .nothing⟩
    | none, .word letters => some ⟨scanner.found, .word (c :: letters)⟩
    | none, _ => some ⟨scanner.found, .word [c]⟩

def step (scanner : Scanner) (c : Char) : Option Scanner :=
  match scanner.pending with
  | .nothing => scanner.outside c
  | .word _ => scanner.outside c
  | .text codes =>
    if c = '"' then some ⟨.string ((decode? codes.reverse).map String.ofList) :: scanner.found, .nothing⟩
    else if c = '\\' then some ⟨scanner.found, .escape codes⟩
    else if c.toNat < 32 then none
    else some ⟨scanner.found, .text (c.toNat :: codes)⟩
  | .escape codes =>
    if c = 'u' then some ⟨scanner.found, .hexadecimal codes 0 4⟩
    else (escapedCharacter? c).map fun character => ⟨scanner.found, .text (character.toNat :: codes)⟩
  | .hexadecimal codes value missing =>
    (Character.hexValue? c).map fun digit =>
      ⟨scanner.found, if missing ≤ 1 then .text ((16 * value + digit) :: codes)
        else .hexadecimal codes (16 * value + digit) (missing - 1)⟩

/-- The tokens of a text that ends here, in order. -/
def finish (scanner : Scanner) : Option (List Token) :=
  match scanner.pending with
  | .nothing => some scanner.found.reverse
  | .word _ => scanner.endWord.map fun ended => ended.found.reverse
  | _ => none

end Scanner

def tokens? (text : List Char) : Option (List Token) :=
  (text.foldlM Scanner.step {}).bind Scanner.finish

end Outlining.Json
