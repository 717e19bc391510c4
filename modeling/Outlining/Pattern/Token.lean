import Outlining.Character.Hexadecimal
import Outlining.Pattern
import Outlining.Pattern.Fault

/-!
# Tokens of patterns

The text of a pattern is cut into tokens: characters, sets, assertions, the borders of groups and classes, and repetition counts. A token is read from its first character and what follows, and says how many further characters it takes up. Between the borders of a character class other rules hold than outside, so the depth of open classes is carried along.
-/

namespace Outlining.Pattern

/-- How two sets in a character class are put together. -/
inductive SetOperator where
  | intersection
  | difference
  | symmetricDifference
  deriving DecidableEq, Repr

/-- What the front of a group says about it. -/
inductive GroupFront where
  /-- The group gets the next number. -/
  | numbered
  /-- The group gets the next number and a name. -/
  | named (name : String)
  /-- The group gets no number but sets options. -/
  | plain (changes : List (Char × Bool))
  deriving DecidableEq, Repr

inductive Token where
  | literal (c : Char)
  /-- A dot: any character, or any but a line feed. -/
  | anyCharacter
  /-- A circumflex: the beginning of the text or of a line. -/
  | startMark
  /-- A dollar sign: the end of the text or of a line. -/
  | endMark
  | set (set : CharSet)
  | assertion (condition : Assertion)
  | bar
  | openGroup (front : GroupFront)
  | closeGroup
  /-- Options set for the rest of a group. -/
  | options (changes : List (Char × Bool))
  /-- How often what stands before may be repeated, as often as possible if it is eager. -/
  | repetition (least : Nat) (most : Option Nat) (eager : Bool)
  /-- The front of a character class, with the characters that are literal because they stand first. -/
  | openClass (negated : Bool) (literals : List Char)
  | closeClass
  | operator (operator : SetOperator)
  | members (set : CharSet)
  /-- Members of a character class that are known by a name, or all characters but those. -/
  | namedMembers (negated : Bool) (set : CharSet)
  deriving DecidableEq, Repr

/-! ### Escapes -/

inductive Escape where
  | literal (c : Char)
  | set (set : CharSet)
  | assertion (condition : Assertion)
  deriving DecidableEq, Repr

/-- The character of a code point written in hexadecimal digits. -/
def codePoint (digits : List Char) : Except Fault Char :=
  match digits, Character.hexNumber? digits with
  | [], _ => .error .invalidCodePoint
  | _, none => .error .invalidCodePoint
  | _, some code => if code.isValidChar then .ok (Char.ofNat code) else .error .invalidCodePoint

/-- Reads a code point: so many digits, or any number of digits in braces. -/
def readCodePoint (count : Nat) : List Char → Except Fault (Escape × Nat)
  | '\x7b' :: rest => do
    let digits := rest.takeWhile (· != '\x7d')
    if digits.length = rest.length then throw .invalidCodePoint
    return (.literal (← codePoint digits), digits.length + 2)
  | rest => do
    let digits := rest.take count
    if digits.length < count then throw .invalidCodePoint
    return (.literal (← codePoint digits), count)

/-- Reads what may follow the escape for a word boundary: the name of a one-sided boundary in braces. Braces that do not begin with a letter or a hyphen are a repetition count. -/
def readBoundary : List Char → Except Fault (Escape × Nat)
  | '\x7b' :: c :: rest =>
    if c.isAlpha || c = '-' then
      let name := (c :: rest).takeWhile (· != '\x7d')
      if name.length = rest.length + 1 then .error .unknownBoundary
      else if name = "start".toList then .ok (.assertion .wordStart, name.length + 2)
      else if name = "end".toList then .ok (.assertion .wordEnd, name.length + 2)
      else if name = "start-half".toList then .ok (.assertion .wordStartHalf, name.length + 2)
      else if name = "end-half".toList then .ok (.assertion .wordEndHalf, name.length + 2)
      else .error .unknownBoundary
    else .ok (.assertion .wordBoundary, 0)
  | _ => .ok (.assertion .wordBoundary, 0)

/-- Whether a character stands for itself behind a backslash: all of ASCII but letters, digits and the angle brackets. -/
def isEscapable (c : Char) : Bool :=
  c.toNat < 128 && !c.isAlphanum && c != '<' && c != '>'

/-- Reads what follows a backslash, and how many characters that takes up. -/
def readEscape : List Char → Except Fault (Escape × Nat)
  | [] => .error .trailingBackslash
  | c :: rest =>
    match c with
    | 'x' => (readCodePoint 2 rest).map fun (escape, taken) => (escape, taken + 1)
    | 'u' => (readCodePoint 4 rest).map fun (escape, taken) => (escape, taken + 1)
    | 'U' => (readCodePoint 8 rest).map fun (escape, taken) => (escape, taken + 1)
    | 'b' => (readBoundary rest).map fun (escape, taken) => (escape, taken + 1)
    | 'd' => .ok (.set .decimal, 1)
    | 'D' => .ok (.set CharSet.decimal.complement, 1)
    | 's' => .ok (.set .space, 1)
    | 'S' => .ok (.set CharSet.space.complement, 1)
    | 'w' => .ok (.set .word, 1)
    | 'W' => .ok (.set CharSet.word.complement, 1)
    | 'a' => .ok (.literal '\x07', 1)
    | 'f' => .ok (.literal '\x0c', 1)
    | 't' => .ok (.literal '\t', 1)
    | 'n' => .ok (.literal '\n', 1)
    | 'r' => .ok (.literal '\r', 1)
    | 'v' => .ok (.literal '\x0b', 1)
    | 'A' => .ok (.assertion .textStart, 1)
    | 'z' => .ok (.assertion .textEnd, 1)
    | 'B' => .ok (.assertion .notWordBoundary, 1)
    | '<' => .ok (.assertion .wordStart, 1)
    | '>' => .ok (.assertion .wordEnd, 1)
    | 'p' => .error .unsupported
    | 'P' => .error .unsupported
    | _ =>
      if c.isDigit then .error .backreference
      else if isEscapable c then .ok (.literal c, 1)
      else .error (.unknownEscape c)

/-! ### Repetitions and groups -/

/-- A repetition count that ends before a text, and how many characters it takes up there: a question mark makes it a reluctant one. -/
def withEagerness (least : Nat) (most : Option Nat) : List Char → Token × Nat
  | '?' :: _ => (.repetition least most false, 1)
  | _ => (.repetition least most true, 0)

/-- A text without the white space on its ends. -/
def trim (text : List Char) : List Char :=
  ((text.dropWhile Character.isSpace).reverse.dropWhile Character.isSpace).reverse

/-- A repetition count: decimal digits, perhaps with white space around them, of a number below 2 ^ 32. -/
def readCount (text : List Char) : Except Fault Nat :=
  let digits := trim text
  let count := digits.foldl (fun value c => 10 * value + (c.toNat - '0'.toNat)) 0
  if !digits.isEmpty && digits.all Char.isDigit && count ≤ 0xFFFFFFFF then .ok count else .error .invalidCount

/-- The limits that stand between the braces of a repetition. -/
def readLimits (text : List Char) : Except Fault (Nat × Option Nat) := do
  let least ← readCount (text.takeWhile (· != ','))
  match text.dropWhile (· != ',') with
  | [] => return (least, some least)
  | [_] => return (least, none)
  | _ :: upper =>
    let most ← readCount upper
    if least ≤ most then return (least, some most) else throw .invalidCount

/-- Reads a repetition behind its opening brace. -/
def readRepetition (rest : List Char) : Except Fault (Token × Nat) := do
  let inside := rest.takeWhile (· != '\x7d')
  if inside.length = rest.length then throw .invalidCount
  let (least, most) ← readLimits inside
  let (token, taken) := withEagerness least most (rest.drop (inside.length + 1))
  return (token, inside.length + 1 + taken)

def isGroupName : List Char → Bool
  | [] => false
  | first :: rest => Character.beginsName first && rest.all Character.continuesName

/-- Reads the name of a group up to its closing angle bracket. -/
def readGroupName (rest : List Char) : Except Fault (Token × Nat) :=
  let name := rest.takeWhile (· != '>')
  if name.length < rest.length && isGroupName name then .ok (.openGroup (.named (String.ofList name)), name.length + 1)
  else .error .invalidGroupName

/-- Checks one letter of the options of a group and says what it changes. -/
def readOption (on : Bool) (letter : Char) : Except Fault (Char × Bool) :=
  if letter = 'i' ∨ letter = 'm' ∨ letter = 's' ∨ letter = 'U' then .ok (letter, on)
  else if letter = 'u' then if on then .ok (letter, on) else .error .unsupported
  else if letter = 'x' ∨ letter = 'R' then if on then .error .unsupported else .ok (letter, on)
  else .error (.unknownOption letter)

/-- The changes that option letters make: those behind a hyphen are switched off. -/
def readOptions (letters : List Char) : Except Fault (List (Char × Bool)) := do
  if letters.eraseDups.length < letters.length then throw .repeatedOption
  if letters.getLast? = some '-' then throw .danglingNegation
  let on ← (letters.takeWhile (· != '-')).mapM (readOption true)
  let off ← ((letters.dropWhile (· != '-')).drop 1).mapM (readOption false)
  return on ++ off

/-- Reads options up to the colon or the closing parenthesis behind them. -/
def readOptionGroup (rest : List Char) : Except Fault (Token × Nat) := do
  let letters := rest.takeWhile fun c => c != ':' && c != ')'
  let changes ← readOptions letters
  match rest.drop letters.length with
  | ':' :: _ => return (.openGroup (.plain changes), letters.length + 1)
  | ')' :: _ => if letters.isEmpty then throw .nothingToRepeat else return (.options changes, letters.length + 1)
  | _ => throw .unclosedGroup

/-- Reads the front of a group behind its opening parenthesis. -/
def readGroup : List Char → Except Fault (Token × Nat)
  | '?' :: '=' :: _ => .error .lookAround
  | '?' :: '!' :: _ => .error .lookAround
  | '?' :: '<' :: '=' :: _ => .error .lookAround
  | '?' :: '<' :: '!' :: _ => .error .lookAround
  | '?' :: 'P' :: '<' :: rest => (readGroupName rest).map fun (token, taken) => (token, taken + 3)
  | '?' :: '<' :: rest => (readGroupName rest).map fun (token, taken) => (token, taken + 2)
  | '?' :: rest => (readOptionGroup rest).map fun (token, taken) => (token, taken + 1)
  | _ => .ok (.openGroup .numbered, 0)

/-! ### Character classes -/

/-- Reads the front of a character class behind its opening bracket: hyphens that come first are literal, and so is a closing bracket in their place. -/
def readOpenClass (rest : List Char) : Token × Nat :=
  let negated := rest.head? = some '^'
  let inside := if negated then rest.drop 1 else rest
  let hyphens := inside.takeWhile (· == '-')
  let literals := if hyphens.isEmpty then (inside.takeWhile (· == ']')).take 1 else hyphens
  (.openClass negated literals, literals.length + if negated then 1 else 0)

/-- The characters of a class that is known by name, as ranges. -/
def namedRanges? (name : String) : Option (List (Char × Char)) :=
  match name with
  | "alnum" => some [('0', '9'), ('A', 'Z'), ('a', 'z')]
  | "alpha" => some [('A', 'Z'), ('a', 'z')]
  | "ascii" => some [('\x00', '\x7f')]
  | "blank" => some [('\t', '\t'), (' ', ' ')]
  | "cntrl" => some [('\x00', '\x1f'), ('\x7f', '\x7f')]
  | "digit" => some [('0', '9')]
  | "graph" => some [('!', '~')]
  | "lower" => some [('a', 'z')]
  | "print" => some [(' ', '~')]
  | "punct" => some [('!', '/'), (':', '@'), ('[', '\x60'), ('\x7b', '~')]
  | "space" => some [('\t', '\r'), (' ', ' ')]
  | "upper" => some [('A', 'Z')]
  | "word" => some [('0', '9'), ('A', 'Z'), ('_', '_'), ('a', 'z')]
  | "xdigit" => some [('0', '9'), ('A', 'F'), ('a', 'f')]
  | _ => none

def namedSet? (name : String) : Option CharSet :=
  (namedRanges? name).map fun ranges => ⟨ranges.map fun range => (range.1.toNat, range.2.toNat)⟩

/-- Reads the name of a set between colons, behind the opening bracket. -/
def readNamedSet? : List Char → Option (Token × Nat)
  | ':' :: rest =>
    let negated := rest.head? = some '^'
    let inside := if negated then rest.drop 1 else rest
    let name := inside.takeWhile (· != ':')
    match inside.drop name.length, namedSet? (String.ofList name) with
    | ':' :: ']' :: _, some set =>
      some (.namedMembers negated set, name.length + 3 + if negated then 1 else 0)
    | _, _ => none
  | _ => none

/-- Reads one end of a range, or a member that is no range: a character or an escape. -/
def readMemberEnd (c : Char) (rest : List Char) : Except Fault (Escape × Nat) :=
  if c = '\\' then readEscape rest else .ok (.literal c, 0)

/-- The set that a member of a class stands for. -/
def memberSet : Escape → Except Fault CharSet
  | .literal c => .ok (.single c)
  | .set set => .ok set
  | .assertion _ => .error .escapeNotInClass

/-- The range between two members of a class, which must be characters in order. -/
def memberRange : Escape → Escape → Except Fault CharSet
  | .literal first, .literal last => if first ≤ last then .ok (.range first last) else .error .invalidRange
  | _, _ => .error .invalidRange

/-- Reads a member of a class: a range, or a single character or set. A hyphen before the closing bracket or before another hyphen makes no range. -/
def readMember (c : Char) (rest : List Char) : Except Fault (Token × Nat) := do
  let (first, taken) ← readMemberEnd c rest
  match rest.drop taken with
  | '-' :: last :: more =>
    if last = ']' ∨ last = '-' then return (.members (← memberSet first), taken)
    else
      let (last, lastTaken) ← readMemberEnd last more
      return (.members (← memberRange first last), taken + 2 + lastTaken)
  | _ => return (.members (← memberSet first), taken)

/-! ### Cutting a text into tokens -/

/-- Reads the token that begins with `c` outside of character classes, and how many further characters it takes up. -/
def readToken (c : Char) (rest : List Char) : Except Fault (Token × Nat) :=
  match c with
  | '(' => readGroup rest
  | ')' => .ok (.closeGroup, 0)
  | '|' => .ok (.bar, 0)
  | '[' => .ok (readOpenClass rest)
  | '?' => .ok (withEagerness 0 (some 1) rest)
  | '*' => .ok (withEagerness 0 none rest)
  | '+' => .ok (withEagerness 1 none rest)
  | '\x7b' => readRepetition rest
  | '.' => .ok (.anyCharacter, 0)
  | '^' => .ok (.startMark, 0)
  | '$' => .ok (.endMark, 0)
  | '\\' => (readEscape rest).map fun (escape, taken) =>
    match escape with
    | .literal character => (.literal character, taken)
    | .set set => (.set set, taken)
    | .assertion condition => (.assertion condition, taken)
  | _ => .ok (.literal c, 0)

/-- Reads the token that begins with `c` inside a character class, and how many further characters it takes up. -/
def readClassToken (c : Char) (rest : List Char) : Except Fault (Token × Nat) :=
  match c, rest with
  | '[', _ => .ok ((readNamedSet? rest).getD (readOpenClass rest))
  | ']', _ => .ok (.closeClass, 0)
  | '&', '&' :: _ => .ok (.operator .intersection, 1)
  | '-', '-' :: _ => .ok (.operator .difference, 1)
  | '~', '~' :: _ => .ok (.operator .symmetricDifference, 1)
  | _, _ => readMember c rest

/-- How many classes are open behind a token. -/
def Token.classDepth (depth : Nat) : Token → Nat
  | .openClass _ _ => depth + 1
  | .closeClass => depth - 1
  | _ => depth

/-- The tokens of a text inside `depth` character classes, after `skip` characters that belong to the token before. -/
def tokensFrom (depth skip : Nat) : List Char → Except Fault (List Token)
  | [] => .ok []
  | c :: rest =>
    match skip with
    | skip + 1 => tokensFrom depth skip rest
    | 0 => do
      let (token, taken) ← if depth = 0 then readToken c rest else readClassToken c rest
      let more ← tokensFrom (token.classDepth depth) taken rest
      return token :: more

def tokens (text : List Char) : Except Fault (List Token) :=
  tokensFrom 0 0 text

end Outlining.Pattern
