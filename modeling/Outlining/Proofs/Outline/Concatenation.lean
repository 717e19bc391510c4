import Outlining.Proofs.Outline.Runs

/-!
# Outlines of bodies behind each other

The outline of two bodies, one behind the other, is their two outlines one behind the other, except that the two blocks that meet become one when they are of one kind that combines (`ofBody_append`). How they become one is said here without putting anything behind anything: names are overwritten in their places, resource sets become one only where they meet, and included classes stand behind each other.
-/

namespace Outlining

open TailMerge

/-- Two neighbouring sets of one type as one, later titles written over earlier ones. -/
def ResourceSet.fused? (first second : ResourceSet) : Option ResourceSet :=
  if first.type = second.type then some ⟨first.type, first.resources.overlaid second.resources⟩ else none

namespace Block

/-- Two blocks of one kind as one. -/
def overlaid : Block → Block → Block
  | .arguments first, .arguments second => .arguments (first.overlaid second)
  | .variables first, .variables second => .variables (first.overlaid second)
  | .resources first, .resources second => .resources (meet ResourceSet.fused? first second)
  | .overrides first, .overrides second => .overrides (first.overlaid second)
  | .typeDefaults first, .typeDefaults second => .typeDefaults (first.overlaid second)
  | .includes first, .includes second => .includes (first ++ second)
  | first, _ => first

/-- Two blocks as one, when they are of the same kind and blocks of that kind join. -/
def fused? (policy : IncludePolicy) (first second : Block) : Option Block :=
  if first.kind = second.kind ∧ second.kind.joins policy = true then some (first.overlaid second) else none

/-- No two neighbouring resource sets of a block are of one type. -/
def SetsApart : Block → Prop
  | .resources sets => Apart ResourceSet.merge? sets
  | _ => True

end Block

/-- One outline behind another, where only the two blocks that meet may become one. -/
def Outline.followedBy (policy : IncludePolicy) (first second : Outline) : Outline :=
  meet (Block.fused? policy) first second

/-! ### Merging is fusing -/

theorem ResourceSet.merge?_eq_fused? (first second : ResourceSet) : first.merge? second = first.fused? second := by
  rw [merge?, fused?, OrderedMap.merge_eq_overlaid]

theorem Block.combine?_eq_overlaid {first second : Block} (hkind : first.kind = second.kind)
    (hjoins : second.kind.joins .joined = true) (hsets : second.SetsApart) :
    first.combine? second = some (first.overlaid second) := by
  cases first <;> cases second <;> cases hkind
  case choice => cases hjoins
  case conditional => cases hjoins
  case includes => rfl
  case resources first second =>
    have hmeet : meet ResourceSet.merge? first second = meet ResourceSet.fused? first second :=
      meet_congr (fun last next _ => ResourceSet.merge?_eq_fused? last next) first
    rw [combine?, overlaid, ResourceSet.appendAll_eq_pushAll, ← hmeet]
    rw [pushAll_eq_meet ResourceSet.associative_merge? first hsets]
  all_goals simp only [combine?, overlaid, OrderedMap.merge_eq_overlaid]

theorem Block.merge?_eq_fused? {policy : IncludePolicy} {second : Block} (hsets : second.SetsApart) (first : Block) :
    first.merge? policy second = first.fused? policy second := by
  rw [fused?]
  split
  · rename_i h
    rw [merge?, if_pos h.2, combine?_eq_overlaid h.1 (Kind.joins_joined h.2) hsets]
  · rename_i h
    rw [merge?_eq_none_iff, ← Bool.not_eq_true]
    exact not_and_or.1 h

/-! ### What bodies give -/

theorem Block.setsApart_ofEntries (first : Entry) (rest : List Entry) : (Block.ofEntries first rest).SetsApart := by
  cases first
  case resources type titled =>
    change Apart ResourceSet.merge? (ResourceSet.ofRuns _)
    rw [← ResourceSet.pushAll_declarations]
    exact apart_pushAll ResourceSet.associative_merge? List.isChain_nil _
  all_goals trivial

theorem Outline.setsApart_of_mem {settings : Settings} {body : List Statement} {outline : Outline} {block : Block}
    (h : Outline.ofBody settings body = .ok outline) (hblock : block ∈ outline) : block.SetsApart := by
  rw [Outline.eq_ofEntries Statement.contributions_eq_entries h] at hblock
  obtain ⟨run, -, hrun⟩ := List.mem_filterMap.1 hblock
  cases run with
  | nil => cases hrun
  | cons first rest =>
    cases hrun
    exact Block.setsApart_ofEntries first rest

theorem Outline.pushAll_eq_followedBy {settings : Settings} {body : List Statement} {outline : Outline}
    (h : Outline.ofBody settings body = .ok outline) (before : Outline) :
    pushAll (Block.merge? settings.includePolicy) before outline = before.followedBy settings.includePolicy outline := by
  have hapart : Apart (Block.merge? settings.includePolicy) outline := by
    rw [Outline.ofBody_eq_pushAll] at h
    obtain ⟨blocks, -, rfl⟩ := exists_of_map_eq_ok h
    exact apart_pushAll (Block.associative_merge? _) List.isChain_nil blocks
  rw [pushAll_eq_meet (Block.associative_merge? _) before hapart]
  exact meet_congr (fun last next hnext =>
    Block.merge?_eq_fused? (setsApart_of_mem h (List.mem_of_mem_head? hnext)) last) before

/-- Outlining takes bodies behind each other to outlines behind each other; the first body that cannot be outlined decides the failure. Only the last block of the first outline and the first block of the second can change. -/
theorem ofBody_append (settings : Settings) (first second : List Statement) :
    (Outline.ofBody settings (first ++ second) = do
      let before ← Outline.ofBody settings first
      let after ← Outline.ofBody settings second
      return before.followedBy settings.includePolicy after) ∧
    ∀ before after : Outline, ∃ seam,
      before.followedBy settings.includePolicy after = before.dropLast ++ seam ++ after.tail := by
  refine ⟨?_, fun before after => exists_seam before after⟩
  have hwhole := Outline.ofBody_eq_pushAll settings (first ++ second)
  have hfirst := Outline.ofBody_eq_pushAll settings first
  have hsecond := Outline.ofBody_eq_pushAll settings second
  rw [Statement.contributions_append] at hwhole
  cases hblocks : Statement.contributions settings first with
  | error violation =>
    rw [hblocks] at hwhole hfirst
    rw [hwhole, hfirst]
    rfl
  | ok blocks =>
    cases hmore : Statement.contributions settings second with
    | error violation =>
      rw [hblocks, hmore] at hwhole
      rw [hblocks] at hfirst
      rw [hmore] at hsecond
      rw [hwhole, hfirst, hsecond]
      rfl
    | ok more =>
      rw [hblocks, hmore] at hwhole
      rw [hblocks] at hfirst
      rw [hmore] at hsecond
      have hseam := Outline.pushAll_eq_followedBy hsecond (pushAll (Block.merge? settings.includePolicy) [] blocks)
      rw [← pushAll_assoc (Block.associative_merge? _), pushAll_nil, ← pushAll_append] at hseam
      rw [hwhole, hfirst, hsecond]
      exact congrArg Except.ok hseam

end Outlining
