import Outlining.Json.Reader
import Outlining.Settings

/-!
# Settings as JSON

Settings are written as an object with one member per setting. They may be read from an object that leaves members out or has members of other names, or from an array that lists the settings in order and may stop early; what is missing has its default. A setting that is given twice in one object is refused.
-/

namespace Outlining

open Json (Read)

def IncludePolicy.name : IncludePolicy → String
  | .joined => "merge_adjacent"
  | .separate => "always_new"

def IncludePolicy.ofName? (name : String) : Option IncludePolicy :=
  if name = IncludePolicy.joined.name then some .joined
  else if name = IncludePolicy.separate.name then some .separate
  else none

def IgnoreRules.toJson (rules : IgnoreRules) : Json String :=
  .object [("begin_with", .ofTexts rules.beginWith), ("contains", .ofTexts rules.contains)]

/-- All settings as an object, every member written out. -/
def Settings.toJson (settings : Settings) : Json String :=
  .object [
    ("include_policy", .string settings.includePolicy.name),
    ("class_declarations_as_includes", .bool settings.classDeclarationsAsIncludes),
    ("ignore_paths", settings.ignorePaths.toJson),
    ("extension", .string settings.extension)]

namespace Json.Read

def text? : Read → Option String
  | .string text => text
  | _ => none

def bool? : Read → Option Bool
  | .bool value => some value
  | _ => none

def texts? : Read → Option (List String)
  | .array items => items.mapM text?
  | _ => none

/-- The value of a member that may be missing: refused when it stands twice. -/
def member? (name : String) (members : List (Option String × Read)) : Option (Option Read) :=
  match members.filter (fun member => member.1 == some name) with
  | [] => some none
  | [member] => some (some member.2)
  | _ => none

/-- The values of the fields of a record, written as an object or as an array: refused when a member name is no text, when a field stands twice, and when an array has more items than there are fields. -/
def fields? (names : List String) : Read → Option (List (Option Read))
  | .object members =>
    if members.all (fun member => member.1.isSome) then names.mapM (member? · members) else none
  | .array items =>
    if items.length ≤ names.length then some (items.map some ++ List.replicate (names.length - items.length) none)
    else none
  | _ => none

/-- A field's value, or its default when it is missing. -/
def orDefault {α : Type} (read : Read → Option α) (default : α) : Option Read → Option α
  | none => some default
  | some value => read value

end Json.Read

/-- Reads a policy: its name, or an object with that one name and no value. -/
def IncludePolicy.ofJson? : Read → Option IncludePolicy
  | .string (some name) => ofName? name
  | .object [(some name, .null)] => ofName? name
  | _ => none

def IgnoreRules.ofJson? (value : Read) : Option IgnoreRules :=
  let defaults : IgnoreRules := {}
  match value.fields? ["begin_with", "contains"] with
  | some [beginWith, contains] => do
    return {
      beginWith := ← Read.orDefault Read.texts? defaults.beginWith beginWith
      contains := ← Read.orDefault Read.texts? defaults.contains contains }
  | _ => none

def Settings.ofJson? (value : Read) : Option Settings :=
  let defaults : Settings := {}
  match value.fields? ["include_policy", "class_declarations_as_includes", "ignore_paths", "extension"] with
  | some [includePolicy, classDeclarationsAsIncludes, ignorePaths, extension] => do
    return {
      includePolicy := ← Read.orDefault IncludePolicy.ofJson? defaults.includePolicy includePolicy
      classDeclarationsAsIncludes :=
        ← Read.orDefault Read.bool? defaults.classDeclarationsAsIncludes classDeclarationsAsIncludes
      ignorePaths := ← Read.orDefault IgnoreRules.ofJson? defaults.ignorePaths ignorePaths
      extension := ← Read.orDefault Read.text? defaults.extension extension }
  | _ => none

end Outlining
