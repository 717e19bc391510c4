import Outlining.Json.Writer
import Outlining.Synopsis

/-!
# Exported outlines

The JSON form of outlines and synopses. Every block is an object with one member named after its kind. Resource types and case labels are members of objects of their own, so that a type or a label may come again; what is absent is `null`, and an alternative or a table of parents that is not there is left out.
-/

namespace Outlining

/-- A map as an object, its names in their order. -/
def OrderedMap.toJson {α : Type} (valueToJson : α → Json String) (map : OrderedMap α) : Json String :=
  .object (map.entries.map fun entry => (entry.1, valueToJson entry.2))

def Value.toJson : Value → Json String
  | .absent => .null
  | .text content => .string content
  | .list items => .ofTexts items

def Parameters.toJson (parameters : Parameters) : Json String :=
  OrderedMap.toJson Value.toJson parameters

/-- Resources of one type, under the name of the type. -/
def ResourceSet.toJson (set : ResourceSet) : Json String :=
  .object [(set.type, set.resources.toJson Parameters.toJson)]

mutual

/-- A block, under the name of its kind. -/
def Block.toJson : Block → Json String
  | .arguments defaults => .object [("arguments", defaults.toJson .string)]
  | .variables values => .object [("variables", values.toJson Value.toJson)]
  | .resources sets => .object [("resources", .array (sets.map ResourceSet.toJson))]
  | .overrides targets => .object [("resource_overrides", targets.toJson Parameters.toJson)]
  | .typeDefaults types => .object [("resource_defaults", types.toJson Parameters.toJson)]
  | .choice subject options =>
    .object [("case", .object [("subject", .string subject), ("options", .array (Branch.toJsons options))])]
  | .conditional condition consequence none =>
    .object [("if", .object [("condition", .string condition), ("then", .array (Block.toJsons consequence))])]
  | .conditional condition consequence (some alternative) =>
    .object [("if", .object [("condition", .string condition), ("then", .array (Block.toJsons consequence)),
      ("else", .array (Block.toJsons alternative))])]
  | .includes classes => .object [("includes", .ofTexts classes)]

def Block.toJsons : List Block → List (Json String)
  | [] => []
  | first :: rest => first.toJson :: Block.toJsons rest

/-- The options of a choice, each under its label. -/
def Branch.toJsons : List Branch → List (Json String)
  | [] => []
  | .mk label outline :: rest => .object [(label, .array (Block.toJsons outline))] :: Branch.toJsons rest

end

def Outline.toJson (outline : Outline) : Json String :=
  .array (Block.toJsons outline)

namespace Synopsis

/-- A synopsis as an object; the parents are left out when no class inherits. -/
def toJson (synopsis : Synopsis) : Json String :=
  let outlines := [("classes", synopsis.classes.toJson Outline.toJson), ("nodes", synopsis.nodes.toJson Outline.toJson)]
  .object (if synopsis.parents.isEmpty then outlines else outlines ++ [("parents", synopsis.parents.toJson .string)])

def exported (synopsis : Synopsis) : String :=
  synopsis.toJson.pretty

/-- The report that there is no class or no node of a name. -/
def unknownName (kind name : String) : Diagnostic where
  origin := .runtime
  message := "No " ++ kind ++ " named '" ++ name ++ "'"
  hint := some "Names are matched exactly, including any '::' prefix"
  code := some 501

def exportedClass (synopsis : Synopsis) (name : String) : Except Diagnostic String :=
  match synopsis.classes.get? name with
  | some outline => .ok outline.toJson.pretty
  | none => .error (unknownName "class" name)

def exportedNode (synopsis : Synopsis) (name : String) : Except Diagnostic String :=
  match synopsis.nodes.get? name with
  | some outline => .ok outline.toJson.pretty
  | none => .error (unknownName "node" name)

end Synopsis

end Outlining
