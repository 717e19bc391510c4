import Outlining.Expr.Text

/-!
# Left spines

Every expression is a first operand, which is no operation, with operations applied to it one after the other (`applySteps_leftmost_steps`). The text of a condition is put together from its end, one operation of the spine after the other, and comes out as the text of the first operand with what each operation adds behind it, innermost first (`toList_asCondition`). The expression as it is written has the same parts in the same order, with the parentheses of the spine around them; these are all that a condition leaves out (`asCondition_eq_without_spine_parentheses`).
-/

namespace Outlining.Expr

/-- The operand that is reached along the left operands. -/
def leftmost : Expr → Expr
  | .operation left _ _ => left.leftmost
  | value => value

/-- The operations along the left operands with their right operands, innermost first. -/
def steps : Expr → List (String × Expr)
  | .operation left operator right => left.steps ++ [(operator, right)]
  | _ => []

/-- An operand with operations applied to it one after the other. -/
def applySteps (first : Expr) (steps : List (String × Expr)) : Expr :=
  steps.foldl (fun left step => .operation left step.1 step.2) first

/-- What an operation adds to the text of a condition. -/
def stepText (step : String × Expr) : List Char :=
  ' ' :: step.1.toList ++ ' ' :: step.2.written.toList

theorem steps_of_leftmost {value : Expr} (h : ∀ left operator right, value ≠ .operation left operator right) :
    value.steps = [] := by
  cases value with
  | operation left operator right => exact absurd rfl (h left operator right)
  | _ => rfl

theorem applySteps_leftmost_steps (value : Expr) : value.leftmost.applySteps value.steps = value := by
  fun_induction leftmost value with
  | case1 left operator right ih =>
    rw [steps, applySteps, List.foldl_append]
    exact congrArg (fun left => operation left operator right) ih
  | case2 value hvalue =>
    rw [steps_of_leftmost hvalue]
    rfl

theorem leftmost_ne_operation (value left right : Expr) (operator : String) : value.leftmost ≠ .operation left operator right := by
  fun_induction leftmost value with
  | case1 left operator right ih => exact ih
  | case2 value hvalue => exact hvalue left operator right

/-! ### Texts along the spine -/

theorem asConditionBefore_of_leftmost {value : Expr} (h : ∀ left operator right, value ≠ .operation left operator right)
    (tail : String) : value.asConditionBefore tail = value.written ++ tail := by
  cases value with
  | operation left operator right => exact absurd rfl (h left operator right)
  | _ => rfl

/-- What is gathered on the way inwards stands behind the text of the condition, whatever it is. -/
theorem asConditionBefore_eq_append (value : Expr) (tail : String) :
    value.asConditionBefore tail = value.asCondition ++ tail := by
  fun_induction leftmost value generalizing tail with
  | case1 left operator right ih =>
    rw [asCondition, asConditionBefore, asConditionBefore, ih, ih]
    simp only [String.append_empty, String.append_assoc]
  | case2 value hvalue =>
    rw [asCondition, asConditionBefore_of_leftmost hvalue, asConditionBefore_of_leftmost hvalue, String.append_empty]

theorem asCondition_operation (left right : Expr) (operator : String) :
    (operation left operator right).asCondition = left.asCondition ++ " " ++ operator ++ " " ++ right.written := by
  rw [asCondition, asConditionBefore, asConditionBefore_eq_append]
  simp only [String.append_empty, String.append_assoc]

theorem asCondition_of_leftmost {value : Expr} (h : ∀ left operator right, value ≠ .operation left operator right) :
    value.asCondition = value.written := by
  rw [asCondition, asConditionBefore_of_leftmost h, String.append_empty]

theorem stepText_eq : stepText = fun step => (" " ++ step.1 ++ " " ++ step.2.written).toList := by
  funext step
  simp [stepText]

theorem toList_asCondition (value : Expr) :
    value.asCondition.toList = value.leftmost.written.toList ++ value.steps.flatMap stepText := by
  fun_induction leftmost value with
  | case1 left operator right ih => simp [asCondition_operation, steps, stepText, ih]
  | case2 value hvalue => simp [asCondition_of_leftmost hvalue, steps_of_leftmost hvalue]

/-- Written out in full, every operation along the left operands opens a parenthesis in front of the first operand and closes it behind its right operand. -/
theorem toList_written_spine (value : Expr) :
    value.written.toList = List.replicate value.steps.length '(' ++ value.leftmost.written.toList ++
      value.steps.flatMap fun step => stepText step ++ [')'] := by
  fun_induction leftmost value with
  | case1 left operator right ih => simp [written, steps, stepText, ih, List.replicate_succ]
  | case2 value hvalue => simp [steps_of_leftmost hvalue]

/-- The text of a condition is the first operand with what each operation adds behind it, innermost first; the written text has the same parts in the same order, and for each operation a parenthesis in front of the first operand and one behind the right operand. So an operation adds its operator and the written text of its right operand to the text of its left operand, and a right operand that is an operation keeps its parentheses. -/
theorem asCondition_eq_without_spine_parentheses (value : Expr) :
    (value.leftmost.applySteps value.steps = value ∧
      ∀ left operator right, value.leftmost ≠ .operation left operator right) ∧
    value.asCondition = value.leftmost.written ++
      String.join (value.steps.map fun step => " " ++ step.1 ++ " " ++ step.2.written) ∧
    value.written = String.ofList (List.replicate value.steps.length '(') ++ value.leftmost.written ++
      String.join (value.steps.map fun step => " " ++ step.1 ++ " " ++ step.2.written ++ ")") ∧
    (∀ operator right, (operation value operator right).asCondition =
      value.asCondition ++ " " ++ operator ++ " " ++ right.written) ∧
    ∀ operator first inner second, (operation value operator (operation first inner second)).asCondition =
      value.asCondition ++ " " ++ operator ++ " (" ++ first.written ++ " " ++ inner ++ " " ++ second.written ++ ")" := by
  refine ⟨⟨applySteps_leftmost_steps value, fun left operator right => leftmost_ne_operation value left right operator⟩,
    ?_, ?_, fun operator right => asCondition_operation value right operator, ?_⟩
  · rw [← String.toList_inj, toList_asCondition, String.toList_append, String.toList_join, List.flatMap_map]
    simp [stepText_eq]
  · rw [← String.toList_inj, toList_written_spine, String.toList_append, String.toList_append, String.toList_join,
      String.toList_ofList, List.flatMap_map]
    simp [stepText_eq]
  · intro operator first inner second
    rw [asCondition_operation, written, ← String.toList_inj]
    simp

end Outlining.Expr
