import Outlining.Proofs.Outline.Nesting

/-!
# Violations of bodies

What is wrong with a body, said without outlining it: every statement in it, at whatever depth, is looked at in source order, and what it lacks by itself is listed. Outlining fails exactly if there is something to list, with the first entry of the list, whatever the settings are and whatever stands before the body (`failure?_extend`).
-/

namespace Outlining

/-! ### What is wrong -/

/-- What an instance lacks; its title counts first. -/
def Instance.violation? (type : String) (declared : Instance) : Option Violation :=
  match declared.title, declared.parameters with
  | none, _ => some (.instanceWithoutTitle type)
  | some title, none => some (.instanceWithoutParameters type title)
  | some _, some _ => none

/-- What a statement lacks by itself, its bodies left aside. -/
def Statement.violations : Statement → List Violation
  | .declare type instances => instances.filterMap (Instance.violation? type)
  | .override target none => [.overrideWithoutParameters target]
  | .typeDefaults type none => [.defaultsWithoutParameters type]
  | _ => []

mutual

/-- A statement and all statements inside it, in source order. -/
def Statement.inOrder : Statement → List Statement
  | .choice subject options => .choice subject options :: Arm.inOrder options
  | .conditional condition consequence none =>
    .conditional condition consequence none :: Statement.allInOrder consequence
  | .conditional condition consequence (some alternative) =>
    .conditional condition consequence (some alternative) ::
      (Statement.allInOrder consequence ++ Statement.allInOrder alternative)
  | statement => [statement]

def Statement.allInOrder : List Statement → List Statement
  | [] => []
  | first :: rest => first.inOrder ++ Statement.allInOrder rest

def Arm.inOrder : List Arm → List Statement
  | [] => []
  | .mk _ body :: rest => Statement.allInOrder body ++ Arm.inOrder rest

end

/-- Everything that is wrong with a body, in source order. -/
def Statement.violationsIn (body : List Statement) : List Violation :=
  (Statement.allInOrder body).flatMap Statement.violations

/-! ### Statements at any depth -/

/-- A statement stands in a body, directly or inside other statements. -/
def Statement.Within (statement : Statement) (body : List Statement) : Prop :=
  ∃ path inner, Statement.bodyAt body path = some inner ∧ statement ∈ inner

namespace Statement

theorem within_iff {statement : Statement} {body : List Statement} :
    statement.Within body ↔ statement ∈ body ∨ ∃ inner ∈ body.flatMap bodies, statement.Within inner :=
  exists_descend_iff

theorem within_cons_iff {statement first : Statement} {rest : List Statement} :
    statement.Within (first :: rest) ↔
      (statement = first ∨ ∃ inner ∈ first.bodies, statement.Within inner) ∨ statement.Within rest := by
  rw [within_iff, @within_iff statement rest]
  simp only [List.mem_cons, List.flatMap_cons, List.mem_append, or_and_right, exists_or]
  exact or_or_or_comm

theorem not_within_nil {statement : Statement} : ¬statement.Within [] := by
  rw [within_iff]
  simp

end Statement

mutual

theorem Statement.mem_inOrder_iff {statement other : Statement} :
    other ∈ statement.inOrder ↔ other = statement ∨ ∃ inner ∈ statement.bodies, other.Within inner := by
  cases statement with
  | choice subject options =>
    rw [Statement.inOrder, List.mem_cons, Arm.mem_inOrder_iff, Statement.bodies]
    simp only [List.mem_map, exists_exists_and_eq_and]
  | conditional condition consequence alternative =>
    cases alternative with
    | none =>
      rw [Statement.inOrder, List.mem_cons, Statement.mem_allInOrder_iff, Statement.bodies]
      simp
    | some alternative =>
      rw [Statement.inOrder, List.mem_cons, List.mem_append, Statement.mem_allInOrder_iff, Statement.mem_allInOrder_iff,
        Statement.bodies]
      -- an empty alternative is listed with nothing and is no body either
      cases alternative <;> simp [Statement.not_within_nil]
  | _ => simp [Statement.inOrder, Statement.bodies]

/-- The statements listed in source order are those that stand in the body at some depth. -/
theorem Statement.mem_allInOrder_iff {body : List Statement} {other : Statement} :
    other ∈ Statement.allInOrder body ↔ other.Within body := by
  cases body with
  | nil => simp [Statement.allInOrder, Statement.not_within_nil]
  | cons first rest =>
    rw [Statement.allInOrder, List.mem_append, Statement.mem_inOrder_iff, Statement.mem_allInOrder_iff,
      Statement.within_cons_iff]

theorem Arm.mem_inOrder_iff {options : List Arm} {other : Statement} :
    other ∈ Arm.inOrder options ↔ ∃ option ∈ options, other.Within option.body := by
  cases options with
  | nil => simp [Arm.inOrder]
  | cons option rest =>
    obtain ⟨values, body⟩ := option
    rw [Arm.inOrder, List.mem_append, Statement.mem_allInOrder_iff, Arm.mem_inOrder_iff]
    simp [Arm.body]

end

theorem Statement.violationsIn_ne_nil_iff {body : List Statement} :
    Statement.violationsIn body ≠ [] ↔ ∃ statement : Statement, statement.Within body ∧ statement.violations ≠ [] := by
  simp only [Statement.violationsIn, ne_eq, List.flatMap_eq_nil_iff, Statement.mem_allInOrder_iff, not_forall,
    exists_prop]

/-! ### Failures -/

theorem Instance.failure?_titled (type : String) (declared : Instance) :
    failure? (declared.titled type) = declared.violation? type := by
  obtain ⟨title, parameters⟩ := declared
  cases title <;> cases parameters <;> rfl

theorem Instance.failure?_titledAll (type : String) (instances : List Instance) :
    failure? (Instance.titledAll type instances) = (instances.filterMap (Instance.violation? type)).head? := by
  induction instances with
  | nil => rfl
  | cons first rest ih =>
    rw [Instance.titledAll, failure?_bind fun _ => failure?_bind_pure (Instance.titledAll type rest) _, ih,
      Instance.failure?_titled, List.filterMap_cons]
    cases first.violation? type <;> rfl

mutual

theorem Statement.failure?_contribution (settings : Settings) (statement : Statement) :
    failure? (statement.contribution settings) = (statement.inOrder.flatMap Statement.violations).head? := by
  cases statement with
  | declare type instances =>
    rw [Statement.contribution, failure?_map, Instance.failure?_titledAll]
    simp [Statement.inOrder, Statement.violations]
  | override target parameters => cases parameters <;> rfl
  | typeDefaults type parameters => cases parameters <;> rfl
  | choice subject options =>
    rw [Statement.contribution, failure?_bind_pure, Arm.failure?_branches]
    simp [Statement.inOrder, Statement.violations]
  | conditional condition consequence alternative =>
    cases alternative with
    | none =>
      rw [Statement.contribution, failure?_bind_pure, Outline.failure?_extend]
      simp [Statement.inOrder, Statement.violations, Statement.violationsIn]
    | some alternative =>
      rw [Statement.contribution, failure?_bind fun _ => failure?_bind_pure (Outline.extend settings [] alternative) _,
        Outline.failure?_extend, Outline.failure?_extend]
      simp [Statement.inOrder, Statement.violations, Statement.violationsIn]
  | _ => rfl

/-- Outlining a body fails with the first violation in it, whatever stands before the body. -/
theorem Outline.failure?_extend (settings : Settings) (outline : Outline) (body : List Statement) :
    failure? (Outline.extend settings outline body) = (Statement.violationsIn body).head? := by
  cases body with
  | nil => rfl
  | cons statement rest =>
    -- the rest fails in the same way behind whatever outline the first statement leaves
    rw [Outline.extend, failure?_bind fun _ => Outline.failure?_extend settings _ rest,
      Statement.failure?_contribution, Statement.violationsIn, Statement.violationsIn, Statement.allInOrder,
      List.flatMap_append, List.head?_append]

theorem Arm.failure?_branches (settings : Settings) (options : List Arm) :
    failure? (Arm.branches settings options) = ((Arm.inOrder options).flatMap Statement.violations).head? := by
  cases options with
  | nil => rfl
  | cons option rest =>
    obtain ⟨values, body⟩ := option
    rw [Arm.branches, failure?_bind fun _ => failure?_bind_pure (Arm.branches settings rest) _, Outline.failure?_extend,
      Arm.failure?_branches, Arm.inOrder, List.flatMap_append, List.head?_append, Statement.violationsIn]

end

end Outlining
