import Outlining.Change
import Outlining.Proofs.Failure

/-!
# Changes that leave no trace of a failure

A change is atomic if everything that can fail in it comes before the first thing that it does to the state: then it fails in the same way wherever it is tried, and a failure leaves the state as it was. A series of attempts that goes on after failures ends where the successful ones alone would have led (`appliedTo_succeeded`), and the same series without going on fails with the first failure among the attempts (`appliedTo_eq_error_iff`).
-/

namespace Outlining.Change

variable {State Failure Item α β : Type}

theorem on_bind (first : Change State Failure α) (next : α → Change State Failure β) (state : State) :
    (first >>= next).on state =
      match first.on state with
      | (.ok value, changed) => (next value).on changed
      | (.error failure, changed) => (.error failure, changed) := by
  change ExceptT.bindCont next (first.on state).1 (first.on state).2 = _
  rcases first.on state with ⟨_ | _, changed⟩ <;> rfl

theorem on_of_appliedTo_eq_ok {change : Change State Failure Unit} {state changed : State}
    (h : change.appliedTo state = .ok changed) : change.on state = (.ok (), changed) := by
  rw [appliedTo] at h
  split at h <;> cases h
  assumption

/-! ### Atomic changes -/

/-- One step, or else a failure that leaves the state as it is. -/
def settle (step : Except Failure (State → State)) (state : State) : Except Failure Unit × State :=
  match step with
  | .ok step => (.ok (), step state)
  | .error failure => (.error failure, state)

/-- What a change does is settled before it touches the state. -/
def IsAtomic (change : Change State Failure Unit) (step : Except Failure (State → State)) : Prop :=
  ∀ state, change.on state = settle step state

theorem isAtomic_return : IsAtomic (return () : Change State Failure Unit) (.ok id) :=
  fun _ => rfl

theorem isAtomic_modify (step : State → State) : IsAtomic (modify step : Change State Failure Unit) (.ok step) :=
  fun _ => rfl

theorem isAtomic_throw (failure : Failure) : IsAtomic (throw failure : Change State Failure Unit) (.error failure) :=
  fun _ => rfl

/-- What is worked out before a change begins may fail. -/
theorem isAtomic_lift_bind {outcome : Except Failure α} {next : α → Change State Failure Unit}
    {step : α → Except Failure (State → State)} (h : ∀ value, IsAtomic (next value) (step value)) :
    IsAtomic (liftM outcome >>= next) (outcome >>= step) := by
  cases outcome with
  | error failure => exact fun _ => rfl
  | ok value => exact h value

/-- A step that is done may be followed by a step that cannot fail. -/
theorem IsAtomic.bind_ok {first second : Change State Failure Unit} {step next : State → State}
    (hfirst : IsAtomic first (.ok step)) (hsecond : IsAtomic second (.ok next)) :
    IsAtomic (first >>= fun _ => second) (.ok (next ∘ step)) := by
  intro state
  rw [on_bind, hfirst state]
  exact hsecond (step state)

theorem IsAtomic.fst_on {change : Change State Failure Unit} {step : Except Failure (State → State)}
    (h : IsAtomic change step) (state : State) : (change.on state).1 = step.map fun _ => () := by
  rw [h]
  cases step <;> rfl

/-- A change that leaves the state as it was whenever it fails. -/
def LeavesNoTrace (change : Change State Failure Unit) : Prop :=
  ∀ state failure, (change.on state).1 = .error failure → (change.on state).2 = state

theorem IsAtomic.leavesNoTrace {change : Change State Failure Unit} {step : Except Failure (State → State)}
    (h : IsAtomic change step) : change.LeavesNoTrace := by
  intro state failure hfailure
  rw [h] at hfailure ⊢
  cases step with
  | error _ => rfl
  | ok step => cases hfailure

/-! ### Series of attempts -/

/-- Makes the changes of all items, up to the first that fails. -/
def inTurn (change : Item → Change State Failure Unit) : List Item → Change State Failure Unit
  | [] => return ()
  | first :: rest => do
    change first
    inTurn change rest

/-- Tries the changes of all items in turn, each on the state that the one before has left: how every attempt ends, and the state in the end. -/
def attempts (change : Item → Change State Failure Unit) : List Item → State → List (Item × Except Failure Unit) × State
  | [], state => ([], state)
  | first :: rest, state =>
    let (outcome, changed) := (change first).on state
    let (log, final) := attempts change rest changed
    ((first, outcome) :: log, final)

/-- The items whose attempts did not fail. -/
def succeeded (log : List (Item × Except Failure Unit)) : List Item :=
  (log.filter fun attempt => attempt.2.isOk).map Prod.fst

variable {change : Item → Change State Failure Unit}

/-- What every single change keeps, whether it fails or not, is kept by a series of attempts. -/
theorem snd_attempts_of_step {Kept : State → Prop} (h : ∀ item state, Kept state → Kept ((change item).on state).2)
    (items : List Item) {state : State} (hstate : Kept state) : Kept (attempts change items state).2 := by
  induction items generalizing state with
  | nil => exact hstate
  | cons first rest ih => exact ih (h first state hstate)

theorem appliedTo_inTurn_cons (first : Item) (rest : List Item) (state : State) :
    (inTurn change (first :: rest)).appliedTo state =
      match (change first).on state with
      | (.ok _, changed) => (inTurn change rest).appliedTo changed
      | (.error failure, _) => .error failure := by
  rw [inTurn, appliedTo, on_bind]
  rcases (change first).on state with ⟨_ | _, changed⟩ <;> rfl

/-- Where failures leave no trace, going on after them leads to where the other items alone lead. -/
theorem appliedTo_succeeded (h : ∀ item, (change item).LeavesNoTrace) (items : List Item) (state : State) :
    (inTurn change (succeeded (attempts change items state).1)).appliedTo state = .ok (attempts change items state).2 := by
  induction items generalizing state with
  | nil => rfl
  | cons first rest ih =>
    have hfirst := h first state
    rw [attempts]
    rcases hon : (change first).on state with ⟨outcome, changed⟩
    rw [hon] at hfirst
    cases outcome with
    | error failure =>
      obtain rfl : changed = state := hfirst failure rfl
      exact ih changed
    | ok value =>
      have hlog : succeeded ((first, .ok value) :: (attempts change rest changed).1) =
          first :: succeeded (attempts change rest changed).1 := rfl
      rw [hlog, appliedTo_inTurn_cons, hon]
      exact ih changed

theorem failure?_appliedTo (items : List Item) (state : State) :
    failure? ((inTurn change items).appliedTo state) =
      (attempts change items state).1.findSome? fun attempt => failure? attempt.2 := by
  induction items generalizing state with
  | nil => rfl
  | cons first rest ih =>
    rw [appliedTo_inTurn_cons, attempts]
    rcases (change first).on state with ⟨_ | _, changed⟩
    · rfl
    · exact ih changed

theorem appliedTo_eq_error_iff {items : List Item} {state : State} {failure : Failure} :
    (inTurn change items).appliedTo state = .error failure ↔
      ∃ before item after, (attempts change items state).1 = before ++ (item, .error failure) :: after ∧
        ∀ attempt ∈ before, attempt.2 = .ok () := by
  rw [← failure?_eq_some_iff, failure?_appliedTo, List.findSome?_eq_some_iff]
  simp only [failure?_eq_some_iff, failure?_eq_none_iff]
  constructor
  · rintro ⟨before, ⟨item, _⟩, after, hlog, rfl, hbefore⟩
    refine ⟨before, item, after, hlog, fun attempt hattempt => ?_⟩
    obtain ⟨⟨⟩, hok⟩ := hbefore attempt hattempt
    exact hok
  · rintro ⟨before, item, after, hlog, hbefore⟩
    exact ⟨before, (item, .error failure), after, hlog, rfl, fun attempt hattempt => ⟨(), hbefore attempt hattempt⟩⟩

theorem exists_appliedTo_eq_error_iff {items : List Item} {state : State} :
    (∃ failure, (inTurn change items).appliedTo state = .error failure) ↔
      ∃ attempt ∈ (attempts change items state).1, ∃ failure, attempt.2 = .error failure := by
  simp only [← failure?_eq_some_iff, failure?_appliedTo, ← Option.isSome_iff_exists, List.findSome?_isSome_iff]

end Outlining.Change
