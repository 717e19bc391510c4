import Outlining.Outline.InPlace
import Outlining.Proofs.Change
import Outlining.Proofs.Outline.Merging

/-!
# Statements entered one by one

Whatever can be wrong with a statement is found before the outline at hand is touched, be it deep in a body inside the statement: to enter a statement is to put its contribution behind the outline, or else to fail and leave the outline as it was (`Statement.isAtomic_enter`). So an outline that goes on growing after failures is the outline of the statements that did not fail (`ofBody_succeeded`).
-/

namespace Outlining

open Change

namespace Outline

def addContributed (settings : Settings) (contributed : Option Block) (outline : Outline) : Outline :=
  outline.add settings.includePolicy contributed

variable {settings : Settings}

theorem isAtomic_includeInPlace (classes : List String) :
    IsAtomic (includeInPlace settings.includePolicy classes)
      (.ok (addContributed settings (some (.includes classes)))) := by
  intro outline
  rw [settle, addContributed]
  cases settings.includePolicy <;> rfl

/-- A choice or a conditional never combines with what stands before it. -/
theorem isAtomic_pushInPlace {block : Block} (h : block.kind.joins settings.includePolicy = false) :
    IsAtomic (pushInPlace block) (.ok (addContributed settings (some block))) := by
  intro outline
  have hapart : ∀ last : Block, last.merge? settings.includePolicy block = none := fun last =>
    Block.merge?_eq_none_iff.2 (.inr h)
  have hadd : addContributed settings (some block) outline = outline ++ [block] := by
    rw [addContributed, add_some, TailMerge.push_eq_append hapart]
  rw [settle, hadd]
  rfl

theorem isAtomic_declareInPlace (type : String) (titled : List (String × Parameters)) :
    IsAtomic (declareInPlace settings type titled)
      (.ok (addContributed settings (declarationBlock settings type titled))) := by
  rw [declareInPlace, declarationBlock]
  split_ifs
  · exact isAtomic_return
  · exact isAtomic_includeInPlace _
  · exact isAtomic_modify _

theorem isAtomic_callInPlace (function : String) (arguments : List Expr) :
    IsAtomic (callInPlace settings function arguments)
      (.ok (addContributed settings (callBlock function arguments))) := by
  rw [callInPlace, callBlock]
  split_ifs
  · exact isAtomic_includeInPlace _
  · exact isAtomic_return

end Outline

open Outline (addContributed)

mutual

theorem Statement.isAtomic_enter (settings : Settings) (statement : Statement) :
    IsAtomic (statement.enter settings) (addContributed settings <$> statement.contribution settings) := by
  cases statement with
  | assign name value => exact isAtomic_modify _
  | declare type instances =>
    rw [Statement.enter, Statement.contribution, Functor.map_map, map_eq_pure_bind]
    exact isAtomic_lift_bind fun titled => Outline.isAtomic_declareInPlace type titled
  | override target parameters =>
    cases parameters with
    | none => exact isAtomic_throw _
    | some parameters => exact isAtomic_modify _
  | typeDefaults type parameters =>
    cases parameters with
    | none => exact isAtomic_throw _
    | some parameters => exact isAtomic_modify _
  | choice subject options =>
    -- the bodies have been entered into outlines of their own, so the outline at hand is as it was
    rw [Statement.enter, Statement.contribution, Arm.entered_eq_branches, map_bind]
    exact isAtomic_lift_bind fun branches => Outline.isAtomic_pushInPlace rfl
  | conditional condition consequence alternative =>
    cases alternative with
    | none =>
      rw [Statement.enter, Statement.contribution, Statement.appliedTo_enterAll, map_bind]
      exact isAtomic_lift_bind fun outline => Outline.isAtomic_pushInPlace rfl
    | some alternative =>
      rw [Statement.enter, Statement.contribution, Statement.appliedTo_enterAll, map_bind]
      refine isAtomic_lift_bind fun outline => ?_
      -- an empty alternative is not entered at all, and to outline it cannot fail
      cases alternative with
      | nil => exact Outline.isAtomic_pushInPlace rfl
      | cons first rest =>
        rw [map_bind, Statement.appliedTo_enterAll]
        exact isAtomic_lift_bind fun other => Outline.isAtomic_pushInPlace rfl
  | call function arguments => exact Outline.isAtomic_callInPlace function arguments
  | other text => exact isAtomic_return

theorem Statement.appliedTo_enterAll (settings : Settings) (outline : Outline) (body : List Statement) :
    (Statement.enterAll settings body).appliedTo outline = Outline.extend settings outline body := by
  cases body with
  | nil => rfl
  | cons first rest =>
    rw [Statement.enterAll, appliedTo, on_bind, Statement.isAtomic_enter settings first outline, Outline.extend]
    cases first.contribution settings with
    | error violation => rfl
    | ok contributed => exact Statement.appliedTo_enterAll settings (addContributed settings contributed outline) rest

theorem Arm.entered_eq_branches (settings : Settings) (options : List Arm) :
    Arm.entered settings options = Arm.branches settings options := by
  cases options with
  | nil => rfl
  | cons option rest =>
    obtain ⟨values, body⟩ := option
    rw [Arm.entered, Arm.branches, Statement.appliedTo_enterAll, Arm.entered_eq_branches]

end

theorem Statement.enterAll_eq_inTurn (settings : Settings) (body : List Statement) :
    Statement.enterAll settings body = inTurn (Statement.enter settings) body := by
  induction body with
  | nil => rfl
  | cons first rest ih => rw [Statement.enterAll, inTurn, ih]

theorem Outline.ofBody_eq_appliedTo (settings : Settings) (body : List Statement) :
    Outline.ofBody settings body = (inTurn (Statement.enter settings) body).appliedTo [] := by
  rw [← Statement.enterAll_eq_inTurn, Statement.appliedTo_enterAll, Outline.ofBody]

/-- A statement that cannot be entered leaves the outline as it was and would fail before any other outline in the same way; going on after failures, the outline in the end is that of the other statements. -/
theorem ofBody_succeeded (settings : Settings) :
    (∀ statement : Statement, (statement.enter settings).LeavesNoTrace) ∧
    (∀ (statement : Statement) outline other,
      ((statement.enter settings).on outline).1 = ((statement.enter settings).on other).1) ∧
    ∀ statements, Outline.ofBody settings (succeeded (attempts (Statement.enter settings) statements []).1) =
      .ok (attempts (Statement.enter settings) statements []).2 := by
  have hnoTrace : ∀ statement : Statement, (statement.enter settings).LeavesNoTrace :=
    fun statement => (statement.isAtomic_enter settings).leavesNoTrace
  refine ⟨hnoTrace, ?_, ?_⟩
  · intro statement outline other
    have hatomic := statement.isAtomic_enter settings
    rw [hatomic.fst_on outline, hatomic.fst_on other]
  · intro statements
    rw [Outline.ofBody_eq_appliedTo]
    exact appliedTo_succeeded hnoTrace statements []

/-- A body in which a declaration fails behind a good instance and a conditional fails in its alternative, two bodies deep. -/
def faultyBody : List Statement :=
  [.assign "mode" none, .declare "file" [⟨some (.word "a"), some []⟩, ⟨some (.word "b"), none⟩], .assign "owner" none,
    .conditional (.variable "first") [.call "include" [.word "ntp"]]
      (some [.assign "mode" none,
        .choice (.variable "second") [.mk [.word "a"] [], .mk [.word "b"] [.typeDefaults "File" none]]]),
    .call "include" [.word "ntp"]]

theorem ofBody_succeeded_faultyBody :
    let attempted := attempts (Statement.enter {}) faultyBody []
    let refused := Statement.declare "file" [⟨some (.word "a"), some []⟩, ⟨some (.word "b"), none⟩]
    ((refused.enter {}).on [.includes ["ntp"]]).1 = .error (.instanceWithoutParameters "file" (.word "b")) ∧
      ((refused.enter {}).on [.includes ["ntp"]]).2 = [.includes ["ntp"]] ∧
      attempted.1.map (fun attempt => failure? attempt.2) = [none, some (.instanceWithoutParameters "file" (.word "b")),
        none, some (.defaultsWithoutParameters "File"), none] ∧
      Outline.ofBody {} [.assign "mode" none, .assign "owner" none, .call "include" [.word "ntp"]] = .ok attempted.2 ∧
      attempted.2.map Block.kind = [.variables, .includes] :=
  ⟨rfl, (ofBody_succeeded {}).1 _ _ _ rfl, rfl, (ofBody_succeeded {}).2.2 faultyBody, rfl⟩

end Outlining
