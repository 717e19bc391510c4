import Outlining.Expr

/-!
# Statements and definitions

What stands in the body of a class or a node, and the classes and nodes themselves. A parser may leave out a title or a parameter list that the manifest should have; the types say so with an `Option`, and outlining reports it.
-/

namespace Outlining

/-- A named value of a resource. -/
structure Parameter where
  name : String
  value : Expr
  deriving Repr

/-- One resource of a declaration: its title, or a list of titles, and its parameters. -/
structure Instance where
  title : Option Expr
  parameters : Option (List Parameter)
  deriving Repr

mutual

inductive Statement where
  /-- The variable of that name is given a value. -/
  | assign (name : String) (value : Option Expr)
  | declare (type : String) (instances : List Instance)
  /-- Parameters of resources that are declared elsewhere are overridden. -/
  | override (target : Expr) (parameters : Option (List Parameter))
  /-- Default parameters for all resources of a type. -/
  | typeDefaults (type : String) (parameters : Option (List Parameter))
  | choice (subject : Expr) (options : List Arm)
  | conditional (condition : Expr) (consequence : List Statement) (alternative : Option (List Statement))
  | call (function : String) (arguments : List Expr)
  /-- A statement that no outline shows. -/
  | other (text : String)

/-- One body of a choice, with the values it is chosen for. -/
inductive Arm where
  | mk (values : List Expr) (body : List Statement)

end

structure ClassParameter where
  name : String
  default : Option Expr
  deriving Repr

/-- A class, which may inherit from another. -/
structure ClassDefinition where
  name : String
  parent : Option String
  parameters : List ClassParameter
  body : List Statement

structure NodeDefinition where
  name : String
  body : Option (List Statement)

inductive Definition where
  | ofClass (definition : ClassDefinition)
  | ofNode (definition : NodeDefinition)

def Definition.name : Definition → String
  | .ofClass definition => definition.name
  | .ofNode definition => definition.name

end Outlining
