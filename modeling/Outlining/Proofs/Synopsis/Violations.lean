import Outlining.Proofs.Outline.Violations
import Outlining.Synopsis

/-!
# Violations of definitions

Bodies and series of definitions fail exactly if something is wrong in them, and what is reported is what comes first: the first violation in source order of the first definition that has one, together with the name of that definition (`ofDefinitions_eq_error_iff`). What each kind of violation is reported with stands in a table of its own (`Violation.report`).
-/

namespace Outlining

/-! ### Reports -/

/-- How it is reported that a parsed tree lacks something. -/
def Diagnostic.incompleteTree (unit : Option String) (code : Nat) (message : String) : Diagnostic where
  origin := .incompleteTree unit
  message := message
  hint := some "The manifest parser produced an incomplete tree"
  code := some code

/-- The number and the message of each kind of violation, reported from the class or node of that name. -/
def Violation.report (unit : Option String) : Violation → Diagnostic
  | .instanceWithoutTitle type => .incompleteTree unit 401 ("'" ++ type ++ "' resource instance has no title")
  | .instanceWithoutParameters type title =>
    .incompleteTree unit 402 ("'" ++ type ++ "' resource " ++ title.written ++ " has no parameter list")
  | .overrideWithoutParameters target =>
    .incompleteTree unit 403 ("override of " ++ target.written ++ " has no parameter list")
  | .defaultsWithoutParameters type => .incompleteTree unit 404 ("defaults for " ++ type ++ " have no parameter list")

theorem Diagnostic.ofViolation_eq_report (unit : Option String) (violation : Violation) :
    Diagnostic.ofViolation unit violation = violation.report unit := by
  cases violation <;> rfl

theorem Outline.failure?_ofLoneBody (settings : Settings) (body : List Statement) :
    failure? (Outline.ofLoneBody settings body) = (Statement.violationsIn body).head?.map (Violation.report none) := by
  rw [Outline.ofLoneBody, failure?_mapError, Outline.ofBody, Outline.failure?_extend,
    funext (Diagnostic.ofViolation_eq_report none)]

theorem Outline.ofLoneBody_eq_error_iff {settings : Settings} {body : List Statement} {diagnostic : Diagnostic} :
    Outline.ofLoneBody settings body = .error diagnostic ↔
      ∃ violation, (Statement.violationsIn body).head? = some violation ∧ diagnostic = violation.report none := by
  rw [← failure?_eq_some_iff, Outline.failure?_ofLoneBody, Option.map_eq_some_iff]
  simp only [eq_comm]

theorem Outline.exists_ofLoneBody_eq_error_iff {settings : Settings} {body : List Statement} :
    (∃ diagnostic, Outline.ofLoneBody settings body = .error diagnostic) ↔
      ∃ statement : Statement, statement.Within body ∧ statement.violations ≠ [] := by
  simp only [← failure?_eq_some_iff, Outline.failure?_ofLoneBody, ← Option.isSome_iff_exists, Option.isSome_map,
    List.isSome_head?, ← Statement.violationsIn_ne_nil_iff, ne_eq]

/-! ### Definitions -/

/-- The statements of a class or a node. -/
def Definition.body : Definition → List Statement
  | .ofClass definition => definition.body
  | .ofNode definition => definition.body.getD []

def Definition.violations (definition : Definition) : List Violation :=
  Statement.violationsIn definition.body

theorem Definition.failure?_outline (settings : Settings) (definition : Definition) :
    failure? (definition.outline settings) =
      definition.violations.head?.map (Diagnostic.ofViolation (some definition.name)) := by
  cases definition with
  | ofClass definition =>
    refine (failure?_mapError _ _).trans (congrArg (Option.map _) ?_)
    exact Outline.failure?_extend settings _ definition.body
  | ofNode definition =>
    refine (failure?_mapError _ _).trans (congrArg (Option.map _) ?_)
    exact Outline.failure?_extend settings [] (definition.body.getD [])

theorem Definition.exists_violation_of_outline_eq_error {settings : Settings} {definition : Definition} {failure : Diagnostic}
    (h : definition.outline settings = .error failure) :
    ∃ violation, failure = Diagnostic.ofViolation (some definition.name) violation := by
  rw [← failure?_eq_some_iff, Definition.failure?_outline, Option.map_eq_some_iff] at h
  obtain ⟨violation, -, hfailure⟩ := h
  exact ⟨violation, hfailure.symm⟩

namespace Synopsis

theorem failure?_add (settings : Settings) (synopsis : Synopsis) (definition : Definition) :
    failure? (synopsis.add settings definition) = failure? (definition.outline settings) :=
  failure?_map (synopsis.record definition) (definition.outline settings)

/-- A series of definitions fails as the first of them that cannot be outlined. -/
theorem failure?_addAll (settings : Settings) (synopsis : Synopsis) (definitions : List Definition) :
    failure? (addAll settings synopsis definitions) =
      definitions.findSome? fun definition => failure? (definition.outline settings) := by
  induction definitions generalizing synopsis with
  | nil => rfl
  | cons first rest ih =>
    rw [addAll, failure?_bind fun _ => ih _, failure?_add, List.findSome?_cons]
    cases failure? (first.outline settings) <;> rfl

theorem addAll_eq_error_iff {settings : Settings} {synopsis : Synopsis} {definitions : List Definition}
    {diagnostic : Diagnostic} :
    addAll settings synopsis definitions = .error diagnostic ↔
      ∃ before definition after violation, definitions = before ++ definition :: after ∧
        before.flatMap Definition.violations = [] ∧ definition.violations.head? = some violation ∧
          diagnostic = violation.report (some definition.name) := by
  rw [← failure?_eq_some_iff, failure?_addAll, List.findSome?_eq_some_iff]
  simp only [Definition.failure?_outline, Diagnostic.ofViolation_eq_report, Option.map_eq_some_iff,
    Option.map_eq_none_iff, List.head?_eq_none_iff, List.flatMap_eq_nil_iff]
  constructor
  · rintro ⟨before, definition, after, rfl, ⟨violation, hviolation, rfl⟩, hbefore⟩
    exact ⟨before, definition, after, violation, rfl, hbefore, hviolation, rfl⟩
  · rintro ⟨before, definition, after, violation, rfl, hbefore, hviolation, rfl⟩
    exact ⟨before, definition, after, rfl, ⟨violation, hviolation, rfl⟩, hbefore⟩

theorem exists_addAll_eq_error_iff {settings : Settings} {synopsis : Synopsis} {definitions : List Definition} :
    (∃ diagnostic, addAll settings synopsis definitions = .error diagnostic) ↔
      ∃ definition ∈ definitions, definition.violations ≠ [] := by
  simp only [← failure?_eq_some_iff, failure?_addAll, ← Option.isSome_iff_exists, List.findSome?_isSome_iff,
    Definition.failure?_outline, Option.isSome_map, List.isSome_head?, ne_eq]

end Synopsis

/-- Bodies and series of definitions fail exactly if a statement at some depth has a violation, and they fail with the report of the first violation in source order; that of a definition names it, that of a body by itself names nothing. -/
theorem ofDefinitions_eq_error_iff (settings : Settings) :
    (∀ body diagnostic, Outline.ofLoneBody settings body = .error diagnostic ↔
      ∃ violation, (Statement.violationsIn body).head? = some violation ∧ diagnostic = violation.report none) ∧
    (∀ body, (∃ diagnostic, Outline.ofLoneBody settings body = .error diagnostic) ↔
      ∃ statement : Statement, statement.Within body ∧ statement.violations ≠ []) ∧
    (∀ definitions diagnostic, Synopsis.ofDefinitions settings definitions = .error diagnostic ↔
      ∃ before definition after violation, definitions = before ++ definition :: after ∧
        before.flatMap Definition.violations = [] ∧ definition.violations.head? = some violation ∧
          diagnostic = violation.report (some definition.name)) ∧
    ∀ definitions, (∃ diagnostic, Synopsis.ofDefinitions settings definitions = .error diagnostic) ↔
      ∃ definition ∈ definitions, ∃ statement : Statement,
        statement.Within definition.body ∧ statement.violations ≠ [] := by
  refine ⟨?_, ?_, ?_, ?_⟩
  · intro body diagnostic
    exact Outline.ofLoneBody_eq_error_iff
  · intro body
    exact Outline.exists_ofLoneBody_eq_error_iff
  · intro definitions diagnostic
    exact Synopsis.addAll_eq_error_iff
  · intro definitions
    simp only [← Statement.violationsIn_ne_nil_iff]
    exact Synopsis.exists_addAll_eq_error_iff

/-- A body with violations of all kinds: in a choice within a consequence, in the alternative, and behind both. -/
def incompleteBody : List Statement :=
  [.assign "mode" none,
    .conditional (.word "late") [.choice (.word "os") [.mk [.word "bsd"] [],
      .mk [.word "linux"] [.declare "file" [⟨some (.word "a"), some []⟩, ⟨some (.word "b"), none⟩, ⟨none, none⟩]]]]
      (some [.override (.reference "File" [.quoted "'a'"]) none]),
    .typeDefaults "Exec" none]

theorem ofDefinitions_eq_error_incompleteBody :
    Statement.violationsIn incompleteBody = [.instanceWithoutParameters "file" (.word "b"), .instanceWithoutTitle "file",
      .overrideWithoutParameters (.reference "File" [.quoted "'a'"]), .defaultsWithoutParameters "Exec"] ∧
    Outline.ofLoneBody {} incompleteBody = .error ⟨.incompleteTree none, "'file' resource b has no parameter list",
      some "The manifest parser produced an incomplete tree", some 402⟩ ∧
    Outline.ofLoneBody {} [.declare "file" [⟨none, some []⟩, ⟨some (.word "b"), none⟩]] =
      .error ⟨.incompleteTree none, "'file' resource instance has no title",
        some "The manifest parser produced an incomplete tree", some 401⟩ ∧
    (¬∃ diagnostic, Outline.ofLoneBody {} [.declare "file" [], .other "collector"] = .error diagnostic) ∧
    Synopsis.ofDefinitions {} [.ofClass ⟨"web", none, [], [.declare "file" []]⟩,
        .ofNode ⟨"db", some [.conditional .undefined [] (some [.override (.reference "File" [.quoted "'a'"]) none])]⟩,
        .ofClass ⟨"ntp", none, [], incompleteBody⟩] =
      .error ⟨.incompleteTree (some "db"), "override of File['a'] has no parameter list",
        some "The manifest parser produced an incomplete tree", some 403⟩ ∧
    Synopsis.ofDefinitions {} [.ofNode ⟨"db", none⟩,
        .ofClass ⟨"ntp", some "time", [], .typeDefaults "Exec" none :: incompleteBody⟩] =
      .error ⟨.incompleteTree (some "ntp"), "defaults for Exec have no parameter list",
        some "The manifest parser produced an incomplete tree", some 404⟩ ∧
    ¬∃ diagnostic, Synopsis.ofDefinitions {} [.ofNode ⟨"db", none⟩] = .error diagnostic := by
  obtain ⟨hbody, hbodyFails, hseries, hseriesFails⟩ := ofDefinitions_eq_error_iff {}
  refine ⟨rfl, (hbody _ _).2 ⟨_, rfl, rfl⟩, (hbody _ _).2 ⟨_, rfl, rfl⟩, ?_, ?_, ?_, ?_⟩
  · rw [hbodyFails, ← Statement.violationsIn_ne_nil_iff]
    exact not_not_intro rfl
  · exact (hseries _ _).2 ⟨[_], _, [_], _, rfl, rfl, rfl, rfl⟩
  · exact (hseries _ _).2 ⟨[_], _, [], _, rfl, rfl, rfl, rfl⟩
  · rw [hseriesFails]
    simp [Definition.body, ← Statement.violationsIn_ne_nil_iff, Statement.violationsIn, Statement.allInOrder]

end Outlining
