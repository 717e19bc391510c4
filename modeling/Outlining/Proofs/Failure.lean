/-!
# Computations that may fail

A computation of several steps succeeds only if all of them do, and its value comes from theirs; if it fails, then as the first step that fails. Two computations may agree only up to how their failures are reported; then so do the computations that go on from them alike.
-/

namespace Outlining

theorem exists_of_bind_eq_ok {ε α β : Type} {first : Except ε α} {next : α → Except ε β} {result : β}
    (h : first >>= next = .ok result) : ∃ value, first = .ok value ∧ next value = .ok result := by
  cases first with
  | error failure => cases h
  | ok value => exact ⟨value, rfl, h⟩

theorem exists_of_map_eq_ok {ε α β : Type} {first : Except ε α} {f : α → β} {result : β}
    (h : first.map f = .ok result) : ∃ value, first = .ok value ∧ result = f value := by
  cases first with
  | error failure => cases h
  | ok value => exact ⟨value, rfl, (Except.ok.inj h).symm⟩

theorem bind_eq_error_iff {ε α β : Type} {first : Except ε α} {next : α → Except ε β} {failure : ε} :
    first >>= next = .error failure ↔
      first = .error failure ∨ ∃ value, first = .ok value ∧ next value = .error failure := by
  cases first with
  | error cause =>
    change Except.error cause = Except.error failure ↔ _
    simp
  | ok value =>
    refine ⟨fun h => .inr ⟨value, rfl, h⟩, ?_⟩
    rintro (h | ⟨_, hok, h⟩)
    · cases h
    · cases hok
      exact h

theorem mapError_eq_ok_iff {ε ε' α : Type} {report : ε → ε'} {outcome : Except ε α} {value : α} :
    outcome.mapError report = .ok value ↔ outcome = .ok value := by
  cases outcome with
  | error failure => exact ⟨nofun, nofun⟩
  | ok other =>
    constructor <;>
      · intro h
        cases h
        rfl

theorem exists_eq_error_iff {ε α : Type} {outcome : Except ε α} :
    (∃ failure, outcome = .error failure) ↔ ¬∃ value, outcome = .ok value := by
  cases outcome <;> simp

theorem map_eq_error_iff {ε α β : Type} {outcome : Except ε α} {f : α → β} {failure : ε} :
    outcome.map f = .error failure ↔ outcome = .error failure := by
  cases outcome with
  | ok value => exact ⟨nofun, nofun⟩
  | error cause =>
    change Except.error cause = Except.error failure ↔ _
    simp

/-! ### Failures reported alike -/

section Report

variable {ε ε' α β : Type} {report : ε → ε'}

theorem exists_of_mapError_eq {first second : Except ε α} (h : first.mapError report = second.mapError report) :
    (∃ value, first = .ok value ∧ second = .ok value) ∨
      ∃ failure other, first = .error failure ∧ second = .error other ∧ report failure = report other := by
  cases first with
  | ok value => exact .inl ⟨value, rfl, mapError_eq_ok_iff.1 h.symm⟩
  | error failure =>
    cases second with
    | ok value => cases h
    | error other => exact .inr ⟨failure, other, rfl, rfl, Except.error.inj h⟩

theorem mapError_map_congr (f : α → β) {first second : Except ε α} (h : first.mapError report = second.mapError report) :
    (f <$> first).mapError report = (f <$> second).mapError report := by
  obtain ⟨value, rfl, rfl⟩ | ⟨failure, other, rfl, rfl, hreport⟩ := exists_of_mapError_eq h
  · rfl
  · exact congrArg Except.error hreport

/-- Two computations of several steps come out alike if their first steps do and what follows does, up to how failures are reported. -/
theorem mapError_bind_congr {first second : Except ε α} {next continued : α → Except ε β}
    (h : first.mapError report = second.mapError report)
    (hnext : ∀ value, (next value).mapError report = (continued value).mapError report) :
    (first >>= next).mapError report = (second >>= continued).mapError report := by
  obtain ⟨value, rfl, rfl⟩ | ⟨failure, other, rfl, rfl, hreport⟩ := exists_of_mapError_eq h
  · exact hnext value
  · exact congrArg Except.error hreport

end Report

/-! ### Lists behind each other -/

section Lists

variable {ε α β : Type}

theorem bind_pure_append_nil (outcome : Except ε (List α)) : (outcome >>= fun found => pure (found ++ [])) = outcome := by
  cases outcome with
  | error failure => rfl
  | ok found => exact congrArg Except.ok (List.append_nil found)

/-- Of three computations it does not matter which two have their lists put together first. -/
theorem bind_append_assoc (first : Except ε β) (list : β → List α) (second third : Except ε (List α)) :
    (do
      let value ← first
      let behind ← (do return (← second) ++ (← third))
      return list value ++ behind) = do
        let front ← (do return list (← first) ++ (← second))
        let others ← third
        return front ++ others := by
  cases first with
  | error failure => rfl
  | ok value =>
    cases second with
    | error failure => rfl
    | ok more =>
      cases third with
      | error failure => rfl
      | ok others => exact congrArg Except.ok (List.append_assoc (list value) more others).symm

end Lists

/-! ### Failures as values -/

section Failure

variable {ε ε' α β : Type}

def failure? : Except ε α → Option ε
  | .error failure => some failure
  | .ok _ => none

theorem failure?_eq_some_iff {outcome : Except ε α} {failure : ε} :
    failure? outcome = some failure ↔ outcome = .error failure := by
  cases outcome <;> simp [failure?]

theorem failure?_eq_none_iff {outcome : Except ε α} : failure? outcome = none ↔ ∃ value, outcome = .ok value := by
  cases outcome <;> simp [failure?]

theorem failure?_map (f : α → β) (outcome : Except ε α) : failure? (f <$> outcome) = failure? outcome := by
  cases outcome <;> rfl

theorem failure?_mapError (report : ε → ε') (outcome : Except ε α) :
    failure? (outcome.mapError report) = (failure? outcome).map report := by
  cases outcome <;> rfl

theorem failure?_bind_pure (outcome : Except ε α) (f : α → β) :
    failure? (outcome >>= fun value => pure (f value)) = failure? outcome := by
  cases outcome <;> rfl

/-- Of two computations the first failure counts; how the second fails must not depend on the first one's result. -/
theorem failure?_bind {first : Except ε α} {next : α → Except ε β} {failure : Option ε}
    (h : ∀ value, failure? (next value) = failure) : failure? (first >>= next) = (failure? first).or failure := by
  cases first with
  | error _ => rfl
  | ok value => exact h value

end Failure

end Outlining
