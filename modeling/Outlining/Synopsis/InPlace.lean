import Outlining.Change
import Outlining.Synopsis

/-!
# Synopses that grow in place

A synopsis that classes and nodes are entered into one by one. A definition is outlined first; then the maps of the synopsis are changed one after the other.
-/

namespace Outlining

namespace Synopsis

/-- Records whether a class inherits, and from which class. -/
def inheritInPlace (name : String) (parent : Option String) : Change Synopsis Diagnostic Unit :=
  match parent with
  | some parent => modify fun synopsis => { synopsis with parents := synopsis.parents.insert name parent }
  | none => modify fun synopsis => { synopsis with parents := synopsis.parents.erase name }

end Synopsis

/-- Enters a definition into the synopsis at hand. -/
def Definition.enter (settings : Settings) (definition : Definition) : Change Synopsis Diagnostic Unit := do
  let outline ← definition.outline settings
  match definition with
  | .ofClass definition =>
    Synopsis.inheritInPlace definition.name definition.parent
    modify fun synopsis => { synopsis with classes := synopsis.classes.insert definition.name outline }
  | .ofNode definition =>
    modify fun synopsis => { synopsis with nodes := synopsis.nodes.insert definition.name outline }

end Outlining
