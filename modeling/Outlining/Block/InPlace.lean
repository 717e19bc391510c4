import Outlining.Block

/-!
# Blocks that grow in place

The last block of an outline takes in the blocks that come behind it. Sets of resources go in one by one, so the set that a later one meets may have grown by then. A block that cannot be taken in comes back.
-/

namespace Outlining

/-- Puts a set behind those at hand; its resources go into the last of them when that one is of the same type. -/
def ResourceSet.appendInPlace (next : ResourceSet) : StateM (List ResourceSet) Unit :=
  modify fun sets =>
    match sets.getLast?.filter (fun last => last.type = next.type) with
    | some last => sets.dropLast ++ [⟨last.type, last.resources.merge next.resources⟩]
    | none => sets ++ [next]

/-- Takes another block into the block at hand if both are of one kind that combines. Otherwise the other block comes back. -/
def Block.absorbInPlace (other : Block) : StateM Block (Option Block) := do
  match ← get, other with
  | .arguments defaults, .arguments more =>
    set (Block.arguments (defaults.merge more))
    return none
  | .variables values, .variables more =>
    set (Block.variables (values.merge more))
    return none
  | .resources sets, .resources more =>
    let ((), grown) := (more.forM ResourceSet.appendInPlace).run sets
    set (Block.resources grown)
    return none
  | .overrides targets, .overrides more =>
    set (Block.overrides (targets.merge more))
    return none
  | .typeDefaults types, .typeDefaults more =>
    set (Block.typeDefaults (types.merge more))
    return none
  | .includes classes, .includes more =>
    set (Block.includes (classes ++ more))
    return none
  | _, other => return some other

end Outlining
