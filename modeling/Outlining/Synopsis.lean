import Outlining.Diagnostic
import Outlining.Outline

/-!
# Synopses

A synopsis holds the outlines of all classes and all nodes that have been seen, in the order in which their names first came. Classes and nodes live apart, so a node may share its name with a class. A class or node that is defined again keeps its place and takes the new outline; a definition that cannot be outlined changes nothing.
-/

namespace Outlining

/-- The outlines of classes and nodes, and the parents of the classes that inherit. -/
structure Synopsis where
  classes : OrderedMap Outline := ∅
  nodes : OrderedMap Outline := ∅
  parents : OrderedMap String := ∅

/-- The outline of a body that belongs to no class and no node; a violation is reported without a name. -/
def Outline.ofLoneBody (settings : Settings) (body : List Statement) : Except Diagnostic Outline :=
  (Outline.ofBody settings body).mapError (Diagnostic.ofViolation none)

/-- The outline of a class: its parameters in a block of their own, then its body. -/
def ClassDefinition.outline (settings : Settings) (definition : ClassDefinition) : Except Violation Outline :=
  let arguments := definition.parameters.map fun parameter => (parameter.name, Expr.defaultText parameter.default)
  Outline.extend settings [.arguments (OrderedMap.ofList arguments)] definition.body

/-- The outline of a node; a node without a body has an empty one. -/
def NodeDefinition.outline (settings : Settings) (definition : NodeDefinition) : Except Violation Outline :=
  Outline.ofBody settings (definition.body.getD [])

/-- The outline of a class or a node; a violation is reported with its name. -/
def Definition.outline (settings : Settings) (definition : Definition) : Except Diagnostic Outline :=
  let outlined := match definition with
    | .ofClass definition => definition.outline settings
    | .ofNode definition => definition.outline settings
  outlined.mapError (Diagnostic.ofViolation (some definition.name))

namespace Synopsis

/-- Records the outline of a definition; a class without a parent has no entry among the parents. -/
def record (synopsis : Synopsis) (definition : Definition) (outline : Outline) : Synopsis :=
  match definition with
  | .ofClass definition =>
    { synopsis with
      classes := synopsis.classes.insert definition.name outline
      parents := match definition.parent with
        | some parent => synopsis.parents.insert definition.name parent
        | none => synopsis.parents.erase definition.name }
  | .ofNode definition =>
    { synopsis with nodes := synopsis.nodes.insert definition.name outline }

def add (settings : Settings) (synopsis : Synopsis) (definition : Definition) : Except Diagnostic Synopsis :=
  (definition.outline settings).map (synopsis.record definition)

/-- Outlines and records definitions one after the other, up to the first that fails. -/
def addAll (settings : Settings) (synopsis : Synopsis) : List Definition → Except Diagnostic Synopsis
  | [] => .ok synopsis
  | first :: rest => do
    let extended ← synopsis.add settings first
    addAll settings extended rest

def ofDefinitions (settings : Settings) (definitions : List Definition) : Except Diagnostic Synopsis :=
  addAll settings {} definitions

def size (synopsis : Synopsis) : Nat :=
  synopsis.classes.size + synopsis.nodes.size

def isEmpty (synopsis : Synopsis) : Bool :=
  synopsis.classes.isEmpty && synopsis.nodes.isEmpty

end Synopsis

end Outlining
