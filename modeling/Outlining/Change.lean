/-!
# Changes in place

A change works on something that stays where it is. It may fail on the way, and what it has done by then stays done, so running a change gives its outcome together with what it leaves.
-/

namespace Outlining

/-- A change of a state in its place; the state outlives a failure. -/
abbrev Change (State Failure : Type) :=
  ExceptT Failure (StateM State)

namespace Change

variable {State Failure : Type}

/-- The outcome of a change and the state that it leaves, whether it succeeds or fails. -/
def on {α : Type} (change : Change State Failure α) (state : State) : Except Failure α × State :=
  (ExceptT.run change).run state

/-- The state that a change makes of another, if it succeeds. -/
def appliedTo (change : Change State Failure Unit) (state : State) : Except Failure State :=
  match change.on state with
  | (.ok _, changed) => .ok changed
  | (.error failure, _) => .error failure

end Change

end Outlining
