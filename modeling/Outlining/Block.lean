import Outlining.OrderedMap
import Outlining.Value

/-!
# Blocks

An outline is a list of blocks, each of which gathers statements of one kind that stand next to each other. Two neighbouring blocks of one kind combine into one, choices and conditionals excepted; names that come again keep their place and take the later value, and resources of one type stay together only while no other type comes between.
-/

namespace Outlining

/-- The parameters of a resource, or the defaults of a type. -/
abbrev Parameters := OrderedMap Value

/-- Resources of one type that are declared back to back, by title. -/
structure ResourceSet where
  type : String
  resources : OrderedMap Parameters
  deriving DecidableEq

mutual

/-- One block of an outline. -/
inductive Block where
  /-- The parameters of a class with the texts of their defaults. -/
  | arguments (defaults : OrderedMap String)
  | variables (values : OrderedMap Value)
  | resources (sets : List ResourceSet)
  /-- Overridden parameters, by the written text of their target. -/
  | overrides (targets : OrderedMap Parameters)
  | typeDefaults (types : OrderedMap Parameters)
  | choice (subject : String) (options : List Branch)
  | conditional (condition : String) (consequence : List Block) (alternative : Option (List Block))
  | includes (classes : List String)

/-- One option of a choice with the outline of its body. -/
inductive Branch where
  | mk (label : String) (outline : List Block)

end

/-- The blocks of one body, in source order. -/
abbrev Outline := List Block

namespace Block

inductive Kind where
  | arguments
  | variables
  | resources
  | overrides
  | typeDefaults
  | choice
  | conditional
  | includes
  deriving DecidableEq, Repr

def kind : Block → Kind
  | .arguments _ => .arguments
  | .variables _ => .variables
  | .resources _ => .resources
  | .overrides _ => .overrides
  | .typeDefaults _ => .typeDefaults
  | .choice _ _ => .choice
  | .conditional _ _ _ => .conditional
  | .includes _ => .includes

end Block

namespace ResourceSet

/-- Puts a set behind others: it joins the last of them when that one is of the same type. -/
def appendTo : List ResourceSet → ResourceSet → List ResourceSet
  | [], next => [next]
  | [last], next =>
    if last.type = next.type then [⟨last.type, last.resources.merge next.resources⟩] else [last, next]
  | first :: second :: rest, next => first :: appendTo (second :: rest) next

def appendAll (sets more : List ResourceSet) : List ResourceSet :=
  more.foldl appendTo sets

end ResourceSet

namespace Block

/-- Two neighbouring blocks as one, when they are of the same kind and that kind combines. -/
def combine? : Block → Block → Option Block
  | .arguments first, .arguments second => some (.arguments (first.merge second))
  | .variables first, .variables second => some (.variables (first.merge second))
  | .resources first, .resources second => some (.resources (ResourceSet.appendAll first second))
  | .overrides first, .overrides second => some (.overrides (first.merge second))
  | .typeDefaults first, .typeDefaults second => some (.typeDefaults (first.merge second))
  | .includes first, .includes second => some (.includes (first ++ second))
  | _, _ => none

end Block

/-- Puts a block behind an outline: it combines with the last block if it can. -/
def Outline.join : Outline → Block → Outline
  | [], next => [next]
  | [last], next =>
    match last.combine? next with
    | some combined => [combined]
    | none => [last, next]
  | first :: second :: rest, next => first :: Outline.join (second :: rest) next

end Outlining
