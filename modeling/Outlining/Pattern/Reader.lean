import Outlining.Pattern.Automaton
import Outlining.Pattern.Token

/-!
# Reading patterns

A pattern is built from its tokens one after the other, with the groups and classes that are open kept in lists. Options hold from where they are set to the end of the group they are set in, across its alternatives. How deeply the text of a pattern is nested and how large its automaton gets is limited.
-/

namespace Outlining.Pattern

/-- What an option letter can change. -/
structure Options where
  ignoreCase : Bool := false
  /-- Circumflex and dollar sign stand for the ends of lines rather than of the text. -/
  lines : Bool := false
  /-- The dot stands for a line feed too. -/
  dotAll : Bool := false
  /-- A question mark behind a count makes it eager, not reluctant. -/
  swapEagerness : Bool := false
  deriving DecidableEq, Repr

namespace Options

/-- Sets the option of a letter; the other letters change nothing. -/
def set (options : Options) (letter : Char) (on : Bool) : Options :=
  match letter with
  | 'i' => { options with ignoreCase := on }
  | 'm' => { options with lines := on }
  | 's' => { options with dotAll := on }
  | 'U' => { options with swapEagerness := on }
  | _ => options

def setAll (options : Options) (changes : List (Char × Bool)) : Options :=
  changes.foldl (fun changed change => changed.set change.1 change.2) options

def apply (options : Options) (set : CharSet) : CharSet :=
  if options.ignoreCase then set.ignoringCase else set

end Options

/-- How deeply several parts are nested when they stand together: one alone is nested no deeper than it is. -/
def depthTogether : List Nat → Nat
  | [] => 0
  | [depth] => depth
  | several => several.foldl max 0 + 1

structure Item where
  pattern : Pattern
  /-- How deeply the text of the item is nested. -/
  depth : Nat := 0
  /-- Whether a repetition can follow. -/
  repeatable : Bool := true

/-- The alternatives of a group so far, the last of which is still being read. -/
structure Alternatives where
  /-- The alternatives that have ended, the latest first. -/
  ended : List Item := []
  /-- The items of the last alternative, the latest first. -/
  items : List Item := []

namespace Alternatives

def last (alternatives : Alternatives) : Item where
  pattern := ofParts (alternatives.items.reverse.map Item.pattern)
  depth := depthTogether (alternatives.items.map Item.depth)

def together (alternatives : Alternatives) : Item :=
  match alternatives.ended with
  | [] => alternatives.last
  | ended =>
    let all := (alternatives.last :: ended).reverse
    { pattern := ofBranches (all.map Item.pattern), depth := depthTogether (all.map Item.depth) }

def add (alternatives : Alternatives) (item : Item) : Alternatives :=
  { alternatives with items := item :: alternatives.items }

def repeatLast (alternatives : Alternatives) (least : Nat) (most : Option Nat) (eager : Bool) :
    Except Fault Alternatives :=
  match alternatives.items with
  | item :: items =>
    if item.repeatable then
      .ok { alternatives with
        items := { pattern := repeated item.pattern least most eager, depth := item.depth + 1 } :: items }
    else .error .nothingToRepeat
  | [] => .error .nothingToRepeat

def split (alternatives : Alternatives) : Alternatives where
  ended := alternatives.last :: alternatives.ended

end Alternatives

/-- The members that stand together in a character class, with how many there are and how deeply they are nested. -/
structure Members where
  set : CharSet := .empty
  depths : List Nat := []

/-- The left side of an operator in a character class. -/
structure LeftSide where
  set : CharSet
  depth : Nat
  operator : SetOperator

/-- A character class that is still open. -/
structure OpenClass where
  negated : Bool
  left : Option LeftSide := none
  members : Members := {}

namespace OpenClass

def add (current : OpenClass) (set : CharSet) (depth : Nat) : OpenClass :=
  { current with members := ⟨current.members.set.union set, depth :: current.members.depths⟩ }

def start (negated : Bool) (literals : List Char) : OpenClass :=
  literals.foldl (fun current c => current.add (.single c) 0) { negated := negated }

/-- The set described so far under the options. -/
def described (options : Options) (current : OpenClass) : CharSet :=
  let members := options.apply current.members.set
  match current.left with
  | none => members
  | some left =>
    match left.operator with
    | .intersection => left.set.intersection members
    | .difference => left.set.difference members
    | .symmetricDifference => left.set.symmetricDifference members

def depth (current : OpenClass) : Nat :=
  let depth := depthTogether current.members.depths
  match current.left with
  | none => depth
  | some left => max left.depth depth + 1

/-- Goes on with the right side of an operator. -/
def combine (options : Options) (operator : SetOperator) (current : OpenClass) : OpenClass where
  negated := current.negated
  left := some ⟨current.described options, current.depth, operator⟩

def set (options : Options) (current : OpenClass) : CharSet :=
  if current.negated then (current.described options).complement else current.described options

end OpenClass

/-- A group around the place that is being read. -/
structure OuterGroup where
  /-- The options that hold again behind the inner group. -/
  options : Options
  /-- What has been read before the inner group. -/
  alternatives : Alternatives
  /-- The number of the inner group, if it has one. -/
  number : Option Nat

/-- A pattern being read: the options that hold, the alternatives of the innermost group, the groups around it, how many groups have a number and which names are taken, and the classes that are open. -/
structure Builder where
  options : Options := {}
  alternatives : Alternatives := {}
  around : List OuterGroup := []
  numbered : Nat := 0
  names : List String := []
  classes : List OpenClass := []

namespace Builder

def add (builder : Builder) (item : Item) : Builder :=
  { builder with alternatives := builder.alternatives.add item }

/-- Adds a pattern that is not nested to the innermost group. -/
def addFlat (builder : Builder) (pattern : Pattern) : Builder :=
  builder.add { pattern := pattern }

def enterGroup (builder : Builder) (number : Option Nat) : Builder :=
  { builder with
    alternatives := {}
    around := ⟨builder.options, builder.alternatives, number⟩ :: builder.around }

/-- Goes on inside a new group with the next number. -/
def enterNumbered (builder : Builder) : Builder :=
  { builder.enterGroup (some (builder.numbered + 1)) with numbered := builder.numbered + 1 }

/-- Opens a group; no two groups of a pattern have one name. -/
def openGroup (builder : Builder) : GroupFront → Except Fault Builder
  | .numbered => .ok builder.enterNumbered
  | .named name =>
    if builder.names.contains name then .error .repeatedGroupName
    else .ok { builder.enterNumbered with names := name :: builder.names }
  | .plain changes => .ok { builder.enterGroup none with options := builder.options.setAll changes }

/-- Closes the innermost group, which becomes an item of the group around it. -/
def closeGroup (builder : Builder) : Except Fault Builder :=
  match builder.around with
  | [] => .error .unopenedGroup
  | outer :: around =>
    let inside := builder.alternatives.together
    let pattern := match outer.number with
      | some number => .group number inside.pattern
      | none => inside.pattern
    .ok { builder with
      options := outer.options
      alternatives := outer.alternatives.add { pattern := pattern, depth := inside.depth + 1 }
      around := around }

def changeClass (builder : Builder) (change : OpenClass → OpenClass) : Builder :=
  match builder.classes with
  | [] => builder
  | current :: outer => { builder with classes := change current :: outer }

/-- Closes the innermost class, which becomes a member of the class around it or an item. -/
def closeClass (builder : Builder) : Builder :=
  match builder.classes with
  | [] => builder
  | [current] =>
    { builder with classes := [] }.add { pattern := ofSet (current.set builder.options), depth := current.depth + 1 }
  | current :: next :: outer =>
    { builder with classes := next.add (current.set builder.options) (current.depth + 1) :: outer }

def step (builder : Builder) : Token → Except Fault Builder
  | .literal c => .ok (builder.addFlat (ofSet (builder.options.apply (.single c))))
  | .anyCharacter =>
    .ok (builder.addFlat (.member (if builder.options.dotAll then .all else (CharSet.single '\n').complement)))
  | .startMark => .ok (builder.addFlat (.assertion (if builder.options.lines then .lineStart else .textStart)))
  | .endMark => .ok (builder.addFlat (.assertion (if builder.options.lines then .lineEnd else .textEnd)))
  | .set set => .ok (builder.addFlat (.member set))
  | .assertion condition => .ok (builder.addFlat (.assertion condition))
  | .bar => .ok { builder with alternatives := builder.alternatives.split }
  | .openGroup front => builder.openGroup front
  | .closeGroup => builder.closeGroup
  | .options changes =>
    .ok { builder.add { pattern := .empty, repeatable := false } with options := builder.options.setAll changes }
  | .repetition least most eager =>
    (builder.alternatives.repeatLast least most (eager != builder.options.swapEagerness)).map fun alternatives =>
      { builder with alternatives := alternatives }
  | .openClass negated literals => .ok { builder with classes := .start negated literals :: builder.classes }
  | .closeClass => .ok builder.closeClass
  | .operator operator => .ok (builder.changeClass (·.combine builder.options operator))
  | .members set => .ok (builder.changeClass (·.add set 0))
  | .namedMembers negated set =>
    let set := builder.options.apply set
    .ok (builder.changeClass (·.add (if negated then set.complement else set) 0))

/-- What has been read, when all groups and classes are closed. -/
def finish (builder : Builder) : Except Fault Item :=
  if !builder.classes.isEmpty then .error .unclosedClass
  else if !builder.around.isEmpty then .error .unclosedGroup
  else .ok builder.alternatives.together

end Builder

/-- How large patterns may get; what is missing is not limited. -/
structure Limits where
  /-- How deeply the text of a pattern may be nested. -/
  depth : Option Nat := none
  /-- How many bytes the automaton of a pattern may take. -/
  size : Option Nat := none

/-- The limits that hold for the patterns of a user. -/
def Limits.standard : Limits where
  depth := some 250
  size := some (10 * 1024 * 1024)

/-- The pattern that a text writes, if it keeps to the limits. -/
def ofText (limits : Limits) (text : String) : Except Fault Pattern := do
  let builder ← (← tokens text.toList).foldlM Builder.step {}
  let item ← builder.finish
  if limits.depth.any (· < item.depth) then throw .nestedTooDeeply
  if limits.size.any fun size => !item.pattern.fits size then throw .tooLarge
  return item.pattern

end Outlining.Pattern
