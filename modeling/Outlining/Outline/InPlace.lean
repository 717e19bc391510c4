import Outlining.Change
import Outlining.Outline

/-!
# Outlines that grow in place

An outline that statements are entered into one by one. A statement is entered into the outline at hand; the bodies inside it are entered into new outlines of their own, which are put behind the outline at hand as parts of one block. What happens to the outline when a statement fails depends on how far it has come by then.
-/

namespace Outlining

namespace Outline

/-- Puts a block behind the outline at hand: it combines with the last block if it can. -/
def joinInPlace (block : Block) : Change Outline Violation Unit :=
  modify fun outline => outline.join block

/-- Puts a block behind the outline at hand, whatever the last block is. -/
def pushInPlace (block : Block) : Change Outline Violation Unit :=
  modify fun outline => outline ++ [block]

def includeInPlace (policy : IncludePolicy) (classes : List String) : Change Outline Violation Unit :=
  match policy with
  | .joined => joinInPlace (.includes classes)
  | .separate => pushInPlace (.includes classes)

/-- Puts the resources of a declaration behind the outline at hand, or the classes that are declared in the way of resources. -/
def declareInPlace (settings : Settings) (type : String) (titled : List (String × Parameters)) :
    Change Outline Violation Unit :=
  if titled.isEmpty then return ()
  else if settings.classDeclarationsAsIncludes && isClassType type then
    includeInPlace settings.includePolicy (titled.map Prod.fst)
  else joinInPlace (.resources [⟨type, OrderedMap.ofList titled⟩])

def callInPlace (settings : Settings) (function : String) (arguments : List Expr) : Change Outline Violation Unit :=
  let classes := arguments.flatMap Expr.names
  if function = "include" ∧ classes ≠ [] then includeInPlace settings.includePolicy classes else return ()

end Outline

open Outline (joinInPlace pushInPlace declareInPlace callInPlace)

mutual

/-- Enters a statement into the outline at hand. -/
def Statement.enter (settings : Settings) : Statement → Change Outline Violation Unit
  | .assign name value => joinInPlace (.variables (OrderedMap.singleton name (Value.ofExpr value)))
  | .declare type instances => do
    -- every instance is looked at before the outline is touched
    let titled ← Instance.titledAll type instances
    declareInPlace settings type titled
  | .override target none => throw (.overrideWithoutParameters target)
  | .override target (some parameters) =>
    joinInPlace (.overrides (OrderedMap.singleton target.written (Parameter.record parameters)))
  | .typeDefaults type none => throw (.defaultsWithoutParameters type)
  | .typeDefaults type (some parameters) =>
    joinInPlace (.typeDefaults (OrderedMap.singleton type (Parameter.record parameters)))
  | .choice subject options => do
    let branches ← Arm.entered settings options
    pushInPlace (.choice subject.shown branches)
  | .conditional condition consequence none => do
    let outline ← (Statement.enterAll settings consequence).appliedTo []
    pushInPlace (.conditional condition.asCondition outline none)
  | .conditional condition consequence (some alternative) => do
    let outline ← (Statement.enterAll settings consequence).appliedTo []
    if alternative.isEmpty then pushInPlace (.conditional condition.asCondition outline none)
    else
      let other ← (Statement.enterAll settings alternative).appliedTo []
      pushInPlace (.conditional condition.asCondition outline (some other))
  | .call function arguments => callInPlace settings function arguments
  | .other _ => return ()

/-- Enters the statements of a body one after the other, up to the first that fails. -/
def Statement.enterAll (settings : Settings) : List Statement → Change Outline Violation Unit
  | [] => return ()
  | first :: rest => do
    first.enter settings
    Statement.enterAll settings rest

/-- The options of a choice, the body of each entered into an outline of its own. -/
def Arm.entered (settings : Settings) : List Arm → Except Violation (List Branch)
  | [] => .ok []
  | .mk values body :: rest => do
    let outline ← (Statement.enterAll settings body).appliedTo []
    let more ← Arm.entered settings rest
    return .mk (Expr.label values) outline :: more

end

end Outlining
