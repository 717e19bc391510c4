import Outlining.Block
import Outlining.Settings
import Outlining.Statement
import Outlining.Violation

/-!
# Outlines of bodies

Every statement contributes at most one block, whatever stands before it; an outline is built by putting these contributions behind each other. Statements that contribute nothing leave no trace, so they do not keep their neighbours apart.
-/

namespace Outlining

def Parameter.record (parameters : List Parameter) : Parameters :=
  OrderedMap.ofList (parameters.map fun parameter => (parameter.name, Value.ofExpr (some parameter.value)))

namespace Instance

/-- The titles of one instance, each with the recorded parameters of the instance. -/
def titled (type : String) (declared : Instance) : Except Violation (List (String × Parameters)) :=
  match declared.title, declared.parameters with
  | none, _ => .error (.instanceWithoutTitle type)
  | some title, none => .error (.instanceWithoutParameters type title)
  | some title, some parameters => .ok (title.names.map fun name => (name, Parameter.record parameters))

def titledAll (type : String) : List Instance → Except Violation (List (String × Parameters))
  | [] => .ok []
  | first :: rest => do
    let titles ← first.titled type
    let more ← titledAll type rest
    return titles ++ more

end Instance

/-- Whether resources of this type are classes; upper and lower case are the same. -/
def isClassType (type : String) : Bool :=
  type.toList.map Char.toLower == "class".toList

/-- The block of a resource declaration, if it declares anything. -/
def declarationBlock (settings : Settings) (type : String) (titled : List (String × Parameters)) : Option Block :=
  if titled.isEmpty then none
  else if settings.classDeclarationsAsIncludes && isClassType type then some (.includes (titled.map Prod.fst))
  else some (.resources [⟨type, OrderedMap.ofList titled⟩])

/-- The block of a function call: only an include that names a class has one. -/
def callBlock (function : String) (arguments : List Expr) : Option Block :=
  let classes := arguments.flatMap Expr.names
  if function = "include" ∧ classes ≠ [] then some (.includes classes) else none

/-- Puts the contribution of a statement behind an outline. -/
def Outline.add (policy : IncludePolicy) (outline : Outline) : Option Block → Outline
  | none => outline
  | some (.includes classes) =>
    match policy with
    | .joined => outline.join (.includes classes)
    | .separate => outline ++ [.includes classes]
  | some block => outline.join block

mutual

/-- The block that a statement contributes, if any. An empty alternative of a conditional is no alternative at all. -/
def Statement.contribution (settings : Settings) : Statement → Except Violation (Option Block)
  | .assign name value => .ok (some (.variables (OrderedMap.singleton name (Value.ofExpr value))))
  | .declare type instances => (declarationBlock settings type) <$> Instance.titledAll type instances
  | .override target none => .error (.overrideWithoutParameters target)
  | .override target (some parameters) =>
    .ok (some (.overrides (OrderedMap.singleton target.written (Parameter.record parameters))))
  | .typeDefaults type none => .error (.defaultsWithoutParameters type)
  | .typeDefaults type (some parameters) =>
    .ok (some (.typeDefaults (OrderedMap.singleton type (Parameter.record parameters))))
  | .choice subject options => do
    let branches ← Arm.branches settings options
    return some (.choice subject.shown branches)
  | .conditional condition consequence none => do
    let outline ← Outline.extend settings [] consequence
    return some (.conditional condition.asCondition outline none)
  | .conditional condition consequence (some alternative) => do
    let outline ← Outline.extend settings [] consequence
    let other ← Outline.extend settings [] alternative
    return some (.conditional condition.asCondition outline (if alternative.isEmpty then none else some other))
  | .call function arguments => .ok (callBlock function arguments)
  | .other _ => .ok none

/-- Puts the statements of a body behind an outline, one after the other. -/
def Outline.extend (settings : Settings) (outline : Outline) : List Statement → Except Violation Outline
  | [] => .ok outline
  | first :: rest => do
    let contributed ← first.contribution settings
    Outline.extend settings (outline.add settings.includePolicy contributed) rest

/-- The options of a choice with their bodies outlined. -/
def Arm.branches (settings : Settings) : List Arm → Except Violation (List Branch)
  | [] => .ok []
  | .mk values body :: rest => do
    let outline ← Outline.extend settings [] body
    let more ← Arm.branches settings rest
    return .mk (Expr.label values) outline :: more

end

def Outline.ofBody (settings : Settings) (body : List Statement) : Except Violation Outline :=
  Outline.extend settings [] body

end Outlining
