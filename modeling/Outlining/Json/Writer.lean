import Outlining.Json

/-!
# Writing JSON

The two layouts in which a JSON value is written: compact, with nothing between the tokens, and pretty, with every item and member on a line of its own, two more spaces in than its container. In strings only the double quote, the backslash and the characters below the space are escaped.
-/

namespace Outlining.Json

/-- The lower-case hexadecimal digit of a number below sixteen. -/
def hexDigit (digit : Nat) : Char :=
  if digit < 10 then Char.ofNat ('0'.toNat + digit) else Char.ofNat ('a'.toNat + (digit - 10))

/-- A character as it stands inside a string. -/
def escaped (c : Char) : List Char :=
  if c = '"' then ['\\', '"']
  else if c = '\\' then ['\\', '\\']
  else if c = '\x08' then ['\\', 'b']
  else if c = '\x0c' then ['\\', 'f']
  else if c = '\n' then ['\\', 'n']
  else if c = '\r' then ['\\', 'r']
  else if c = '\t' then ['\\', 't']
  else if c.toNat < 32 then ['\\', 'u', '0', '0', hexDigit (c.toNat / 16), hexDigit (c.toNat % 16)]
  else [c]

def quoted (text : String) : List Char :=
  '"' :: text.toList.flatMap escaped ++ ['"']

/-- What both layouts write for a value that holds no other values. -/
def writtenLeaf : Json String → List Char
  | .null => "null".toList
  | .bool true => "true".toList
  | .bool false => "false".toList
  | .number literal => literal.toList
  | .string text => quoted text
  | .array _ => "[]".toList
  | .object _ => "\x7b\x7d".toList

mutual

/-- The compact layout of a value, in front of what follows it. -/
def compactOnto : Json String → List Char → List Char
  | .array items, rest => '[' :: compactItemsOnto items (']' :: rest)
  | .object members, rest => '\x7b' :: compactMembersOnto members ('\x7d' :: rest)
  | leaf, rest => writtenLeaf leaf ++ rest

def compactItemsOnto : List (Json String) → List Char → List Char
  | [], rest => rest
  | [last], rest => last.compactOnto rest
  | item :: next :: more, rest => item.compactOnto (',' :: compactItemsOnto (next :: more) rest)

def compactMembersOnto : List (String × Json String) → List Char → List Char
  | [], rest => rest
  | [(name, value)], rest => quoted name ++ ':' :: value.compactOnto rest
  | (name, value) :: next :: more, rest =>
    quoted name ++ ':' :: value.compactOnto (',' :: compactMembersOnto (next :: more) rest)

end

def newline (depth : Nat) : List Char :=
  '\n' :: List.replicate (2 * depth) ' '

mutual

/-- The pretty layout of a value inside `depth` containers, in front of what follows it. -/
def prettyOnto (depth : Nat) : Json String → List Char → List Char
  | .array (item :: more), rest => '[' :: prettyItemsOnto (depth + 1) (item :: more) (newline depth ++ ']' :: rest)
  | .object (member :: more), rest =>
    '\x7b' :: prettyMembersOnto (depth + 1) (member :: more) (newline depth ++ '\x7d' :: rest)
  | leaf, rest => writtenLeaf leaf ++ rest

def prettyItemsOnto (depth : Nat) : List (Json String) → List Char → List Char
  | [], rest => rest
  | [last], rest => newline depth ++ last.prettyOnto depth rest
  | item :: next :: more, rest =>
    newline depth ++ item.prettyOnto depth (',' :: prettyItemsOnto depth (next :: more) rest)

def prettyMembersOnto (depth : Nat) : List (String × Json String) → List Char → List Char
  | [], rest => rest
  | [(name, value)], rest => newline depth ++ quoted name ++ ':' :: ' ' :: value.prettyOnto depth rest
  | (name, value) :: next :: more, rest =>
    newline depth ++ quoted name ++ ':' :: ' ' :: value.prettyOnto depth (',' :: prettyMembersOnto depth (next :: more) rest)

end

def compact (value : Json String) : String :=
  String.ofList (value.compactOnto [])

def pretty (value : Json String) : String :=
  String.ofList (value.prettyOnto 0 [])

end Outlining.Json
