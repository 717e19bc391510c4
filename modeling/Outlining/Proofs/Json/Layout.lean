import Outlining.Json.Token
import Outlining.Json.Writer

/-!
# Layouts of JSON texts

The compact and the pretty layout differ only in the blanks between tokens. This module writes a value under any layout, with the blanks as parameters, and shows that both layouts are instances; what is proved of written texts is then proved once.
-/

namespace Outlining.Json

/-- The blanks between the tokens of a text: what opens a line inside `depth` containers, and what follows a colon. -/
structure Layout where
  line : Nat → List Char
  space : List Char
  line_blank : ∀ depth, ∀ c ∈ line depth, isBlank c = true
  space_blank : ∀ c ∈ space, isBlank c = true

namespace Layout

def compact : Layout where
  line _ := []
  space := []
  line_blank _ _ h := absurd h List.not_mem_nil
  space_blank _ h := absurd h List.not_mem_nil

/-- A line for every item, and one space after a colon. -/
def pretty : Layout where
  line := newline
  space := [' ']
  line_blank depth c h := by
    rw [newline, List.mem_cons] at h
    rcases h with rfl | h
    · rfl
    · rw [List.eq_of_mem_replicate h]
      rfl
  space_blank c h := by
    rw [List.mem_singleton.1 h]
    rfl

mutual

/-- A value inside `depth` containers, in front of what follows it. -/
def writeOnto (layout : Layout) (depth : Nat) : Json String → List Char → List Char
  | .array (item :: more), rest =>
    '[' :: layout.line (depth + 1) ++ writeOnto layout (depth + 1) item
      (writeItemsOnto layout (depth + 1) more (layout.line depth ++ ']' :: rest))
  | .object ((name, value) :: more), rest =>
    '\x7b' :: layout.line (depth + 1) ++ quoted name ++ ':' :: layout.space ++ writeOnto layout (depth + 1) value
      (writeMembersOnto layout (depth + 1) more (layout.line depth ++ '\x7d' :: rest))
  | leaf, rest => writtenLeaf leaf ++ rest

/-- The items of an array behind the first, in front of what follows them. -/
def writeItemsOnto (layout : Layout) (depth : Nat) : List (Json String) → List Char → List Char
  | [], rest => rest
  | item :: more, rest =>
    ',' :: layout.line depth ++ writeOnto layout depth item (writeItemsOnto layout depth more rest)

def writeMembersOnto (layout : Layout) (depth : Nat) : List (String × Json String) → List Char → List Char
  | [], rest => rest
  | (name, value) :: more, rest =>
    ',' :: layout.line depth ++ quoted name ++ ':' :: layout.space ++
      writeOnto layout depth value (writeMembersOnto layout depth more rest)

end

/-! ### What follows a value -/

mutual

theorem writeOnto_append (layout : Layout) (depth : Nat) (value : Json String) (first second : List Char) :
    layout.writeOnto depth value (first ++ second) = layout.writeOnto depth value first ++ second := by
  cases value with
  | array items =>
    cases items with
    | nil => rfl
    | cons item more =>
      have hclose : layout.line depth ++ ']' :: (first ++ second) = layout.line depth ++ ']' :: first ++ second := by simp
      rw [writeOnto, writeOnto, hclose, writeItemsOnto_append layout _ more, writeOnto_append layout _ item]
      simp
  | object members =>
    cases members with
    | nil => rfl
    | cons member more =>
      obtain ⟨name, value⟩ := member
      have hclose : layout.line depth ++ '\x7d' :: (first ++ second) = layout.line depth ++ '\x7d' :: first ++ second := by
        simp
      rw [writeOnto, writeOnto, hclose, writeMembersOnto_append layout _ more, writeOnto_append layout _ value]
      simp
  | _ => simp [writeOnto]
termination_by sizeOf value

theorem writeItemsOnto_append (layout : Layout) (depth : Nat) (items : List (Json String)) (first second : List Char) :
    layout.writeItemsOnto depth items (first ++ second) = layout.writeItemsOnto depth items first ++ second := by
  cases items with
  | nil => rfl
  | cons item more =>
    rw [writeItemsOnto, writeItemsOnto, writeItemsOnto_append layout _ more, writeOnto_append layout _ item]
    simp
termination_by sizeOf items

theorem writeMembersOnto_append (layout : Layout) (depth : Nat) (members : List (String × Json String))
    (first second : List Char) :
    layout.writeMembersOnto depth members (first ++ second) = layout.writeMembersOnto depth members first ++ second := by
  cases members with
  | nil => rfl
  | cons member more =>
    obtain ⟨name, value⟩ := member
    rw [writeMembersOnto, writeMembersOnto, writeMembersOnto_append layout _ more, writeOnto_append layout _ value]
    simp
termination_by sizeOf members

end

theorem writeOnto_eq_append (layout : Layout) (depth : Nat) (value : Json String) (rest : List Char) :
    layout.writeOnto depth value rest = layout.writeOnto depth value [] ++ rest :=
  writeOnto_append layout depth value [] rest

end Layout

open Layout

/-! ### The pretty layout -/

mutual

theorem prettyOnto_eq_writeOnto (value : Json String) (depth : Nat) (rest : List Char) :
    value.prettyOnto depth rest = Layout.pretty.writeOnto depth value rest := by
  cases value with
  | array items =>
    cases items with
    | nil => rfl
    | cons item more =>
      rw [prettyOnto, writeOnto, prettyItemsOnto_cons item more]
      rfl
  | object members =>
    cases members with
    | nil => rfl
    | cons member more =>
      obtain ⟨name, value⟩ := member
      rw [prettyOnto, writeOnto, prettyMembersOnto_cons name value more]
      simp [Layout.pretty]
  | _ => rfl
termination_by sizeOf value

/-- The comma that the printer puts behind an item goes with the next item here. -/
theorem prettyItemsOnto_cons (item : Json String) (more : List (Json String)) (depth : Nat) (rest : List Char) :
    prettyItemsOnto depth (item :: more) rest =
      newline depth ++ Layout.pretty.writeOnto depth item (Layout.pretty.writeItemsOnto depth more rest) := by
  cases more with
  | nil => rw [prettyItemsOnto, writeItemsOnto, prettyOnto_eq_writeOnto item]
  | cons next more =>
    rw [prettyItemsOnto, writeItemsOnto, prettyOnto_eq_writeOnto item, prettyItemsOnto_cons next more]
    rfl
termination_by sizeOf item + sizeOf more

theorem prettyMembersOnto_cons (name : String) (value : Json String) (more : List (String × Json String)) (depth : Nat)
    (rest : List Char) :
    prettyMembersOnto depth ((name, value) :: more) rest =
      newline depth ++ quoted name ++ ':' :: ' ' ::
        Layout.pretty.writeOnto depth value (Layout.pretty.writeMembersOnto depth more rest) := by
  cases more with
  | nil => rw [prettyMembersOnto, writeMembersOnto, prettyOnto_eq_writeOnto value]
  | cons next more =>
    obtain ⟨nextName, nextValue⟩ := next
    rw [prettyMembersOnto, writeMembersOnto, prettyOnto_eq_writeOnto value,
      prettyMembersOnto_cons nextName nextValue more]
    simp [Layout.pretty]
termination_by sizeOf value + sizeOf more

end

theorem toList_pretty (value : Json String) : value.pretty.toList = Layout.pretty.writeOnto 0 value [] := by
  rw [Json.pretty, String.toList_ofList, prettyOnto_eq_writeOnto]

/-! ### The compact layout -/

mutual

theorem compactOnto_eq_writeOnto (value : Json String) (depth : Nat) (rest : List Char) :
    value.compactOnto rest = Layout.compact.writeOnto depth value rest := by
  cases value with
  | array items =>
    cases items with
    | nil => rfl
    | cons item more =>
      rw [compactOnto, writeOnto, compactItemsOnto_cons item more (depth + 1)]
      rfl
  | object members =>
    cases members with
    | nil => rfl
    | cons member more =>
      obtain ⟨name, value⟩ := member
      rw [compactOnto, writeOnto, compactMembersOnto_cons name value more (depth + 1)]
      simp [Layout.compact]
  | _ => rfl
termination_by sizeOf value

theorem compactItemsOnto_cons (item : Json String) (more : List (Json String)) (depth : Nat) (rest : List Char) :
    compactItemsOnto (item :: more) rest =
      Layout.compact.writeOnto depth item (Layout.compact.writeItemsOnto depth more rest) := by
  cases more with
  | nil => rw [compactItemsOnto, writeItemsOnto, compactOnto_eq_writeOnto item depth]
  | cons next more =>
    rw [compactItemsOnto, writeItemsOnto, compactOnto_eq_writeOnto item depth, compactItemsOnto_cons next more depth]
    rfl
termination_by sizeOf item + sizeOf more

theorem compactMembersOnto_cons (name : String) (value : Json String) (more : List (String × Json String)) (depth : Nat)
    (rest : List Char) :
    compactMembersOnto ((name, value) :: more) rest =
      quoted name ++ ':' :: Layout.compact.writeOnto depth value (Layout.compact.writeMembersOnto depth more rest) := by
  cases more with
  | nil => rw [compactMembersOnto, writeMembersOnto, compactOnto_eq_writeOnto value depth]
  | cons next more =>
    obtain ⟨nextName, nextValue⟩ := next
    rw [compactMembersOnto, writeMembersOnto, compactOnto_eq_writeOnto value depth,
      compactMembersOnto_cons nextName nextValue more depth]
    simp [Layout.compact]
termination_by sizeOf value + sizeOf more

end

theorem toList_compact (value : Json String) : value.compact.toList = Layout.compact.writeOnto 0 value [] := by
  rw [Json.compact, String.toList_ofList, compactOnto_eq_writeOnto value 0]

end Outlining.Json
