import Outlining.Outline
import Outlining.Proofs.Failure
import Outlining.Proofs.OrderedMap
import Outlining.Proofs.TailMerge

/-!
# How blocks and resource sets merge

An outline and the resource sets of one block are both lists that merge at the end. This module says which two blocks and which two sets merge, that the kinds alone decide it, and that both ways of merging are associative. The rest of the proofs reach an outline through `extend_eq_pushAll`: the statements of a body contribute their blocks first, and these are put behind the outline afterwards.
-/

namespace Outlining

open TailMerge

/-! ### Resource sets -/

namespace ResourceSet

/-- Two neighbouring sets as one, when they are of the same type. -/
def merge? (first second : ResourceSet) : Option ResourceSet :=
  if first.type = second.type then some ⟨first.type, first.resources.merge second.resources⟩ else none

theorem merge?_eq_none_iff {first second : ResourceSet} : first.merge? second = none ↔ first.type ≠ second.type := by
  by_cases htype : first.type = second.type <;> simp [merge?, htype]

theorem merge?_of_type_eq {first second : ResourceSet} (h : first.type = second.type) :
    first.merge? second = some ⟨first.type, first.resources.merge second.resources⟩ :=
  if_pos h

theorem type_eq_of_merge? {first second merged : ResourceSet} (h : first.merge? second = some merged) :
    first.type = second.type ∧ merged = ⟨first.type, first.resources.merge second.resources⟩ := by
  have htype : first.type = second.type := by
    by_contra hne
    rw [merge?_eq_none_iff.2 hne] at h
    cases h
  rw [merge?_of_type_eq htype] at h
  exact ⟨htype, (Option.some.inj h).symm⟩

theorem associative_merge? : Associative merge? where
  merge_both := by
    intro first second third left right hleft hright
    obtain ⟨hfirst, rfl⟩ := type_eq_of_merge? hleft
    obtain ⟨hsecond, rfl⟩ := type_eq_of_merge? hright
    refine ⟨⟨first.type, (first.resources.merge second.resources).merge third.resources⟩, ?_, ?_⟩
    · exact merge?_of_type_eq (hfirst.trans hsecond)
    · rw [OrderedMap.merge_assoc]
      exact merge?_of_type_eq hfirst
  none_left := by
    intro first second third left hleft hnone
    obtain ⟨hfirst, rfl⟩ := type_eq_of_merge? hleft
    exact merge?_eq_none_iff.2 fun htype => merge?_eq_none_iff.1 hnone (hfirst.symm.trans htype)
  none_right := by
    intro first second third right hright hnone
    obtain ⟨-, rfl⟩ := type_eq_of_merge? hright
    have htype : first.type ≠ second.type := merge?_eq_none_iff.1 hnone
    exact merge?_eq_none_iff.2 htype

theorem appendTo_eq_push (sets : List ResourceSet) (next : ResourceSet) : appendTo sets next = push merge? sets next := by
  induction sets with
  | nil => rfl
  | cons first rest ih =>
    cases rest with
    | nil => by_cases htype : first.type = next.type <;> simp [appendTo, push, merge?, htype]
    | cons second rest => exact congrArg (first :: ·) ih

theorem appendAll_eq_pushAll (sets more : List ResourceSet) : appendAll sets more = pushAll merge? sets more := by
  have hstep : appendTo = push merge? := by
    funext sets next
    exact appendTo_eq_push sets next
  rw [appendAll, pushAll, hstep]

end ResourceSet

/-! ### Blocks -/

namespace Block

/-- Whether two neighbouring blocks of a kind become one block. -/
def Kind.joins (policy : IncludePolicy) : Kind → Bool
  | .choice | .conditional => false
  | .includes => policy == .joined
  | _ => true

/-- Two neighbouring blocks as one, if an include policy lets them become one. -/
def merge? (policy : IncludePolicy) (first second : Block) : Option Block :=
  if second.kind.joins policy then first.combine? second else none

theorem combine?_eq_none_iff {first second : Block} :
    first.combine? second = none ↔ first.kind ≠ second.kind ∨ second.kind.joins .joined = false := by
  cases first <;> cases second <;> simp [combine?, kind, Kind.joins]

theorem kind_of_combine? {first second combined : Block} (h : first.combine? second = some combined) :
    combined.kind = first.kind := by
  cases first <;> cases second <;> cases h <;> rfl

theorem kind_eq_of_combine? {first second combined : Block} (h : first.combine? second = some combined) :
    first.kind = second.kind := by
  by_contra hne
  rw [combine?_eq_none_iff.2 (.inl hne)] at h
  cases h

theorem combine?_combine? {first second third left right : Block} (hleft : first.combine? second = some left)
    (hright : second.combine? third = some right) :
    ∃ combined, left.combine? third = some combined ∧ first.combine? right = some combined := by
  have hsecond := kind_eq_of_combine? hright
  cases first <;> cases second <;> cases hleft <;> cases third <;> cases hright
  case resources first second third =>
    refine ⟨.resources (ResourceSet.appendAll (ResourceSet.appendAll first second) third), rfl, ?_⟩
    simp only [combine?, ResourceSet.appendAll_eq_pushAll]
    rw [pushAll_assoc ResourceSet.associative_merge?]
  case includes first second third =>
    exact ⟨.includes (first ++ second ++ third), rfl, by simp [combine?]⟩
  all_goals
    rename_i first second third
    exact ⟨_, rfl, by simp only [combine?, OrderedMap.merge_assoc]⟩

theorem Kind.joins_joined {policy : IncludePolicy} {kind : Kind} (h : kind.joins policy = true) :
    kind.joins .joined = true := by
  cases kind <;> simp_all [Kind.joins]

theorem merge?_eq_none_iff {policy : IncludePolicy} {first second : Block} :
    first.merge? policy second = none ↔ first.kind ≠ second.kind ∨ second.kind.joins policy = false := by
  cases hjoins : second.kind.joins policy with
  | false => simp [merge?, hjoins]
  | true => simp [merge?, hjoins, combine?_eq_none_iff, Kind.joins_joined hjoins]

theorem combine?_of_merge? {policy : IncludePolicy} {first second merged : Block}
    (h : first.merge? policy second = some merged) :
    second.kind.joins policy = true ∧ first.combine? second = some merged := by
  cases hjoins : second.kind.joins policy with
  | false =>
    rw [merge?_eq_none_iff.2 (.inr hjoins)] at h
    cases h
  | true =>
    rw [merge?, if_pos hjoins] at h
    exact ⟨rfl, h⟩

theorem associative_merge? (policy : IncludePolicy) : Associative (merge? policy) where
  merge_both := by
    intro first second third left right hleft hright
    obtain ⟨hjoins, hleft⟩ := combine?_of_merge? hleft
    obtain ⟨hthird, hright⟩ := combine?_of_merge? hright
    obtain ⟨merged, hmerged, hmerged'⟩ := combine?_combine? hleft hright
    refine ⟨merged, by rw [merge?, if_pos hthird, hmerged], ?_⟩
    rw [merge?, kind_of_combine? hright, if_pos hjoins, hmerged']
  none_left := by
    intro first second third left hleft hnone
    have hcombine := (combine?_of_merge? hleft).2
    rw [merge?_eq_none_iff] at hnone ⊢
    rwa [kind_of_combine? hcombine, kind_eq_of_combine? hcombine]
  none_right := by
    intro first second third right hright hnone
    have hcombine := (combine?_of_merge? hright).2
    rw [merge?_eq_none_iff] at hnone ⊢
    rwa [kind_of_combine? hcombine]

/-- Only the include policy keeps apart what could be combined. -/
theorem merge?_eq_combine? {policy : IncludePolicy} {second : Block}
    (h : second.kind = .includes → policy = .joined) (first : Block) :
    first.merge? policy second = first.combine? second := by
  cases hjoins : second.kind.joins policy with
  | true => rw [merge?, if_pos hjoins]
  | false =>
    have hjoined : second.kind.joins .joined = false := by
      cases hkind : second.kind <;> simp_all [Kind.joins]
    rw [merge?_eq_none_iff.2 (.inr hjoins), combine?_eq_none_iff.2 (.inr hjoined)]

end Block

/-! ### Outlines -/

namespace Outline

theorem join_eq_push (outline : Outline) (next : Block) : outline.join next = push Block.combine? outline next := by
  induction outline with
  | nil => rfl
  | cons first rest ih =>
    cases rest with
    | nil =>
      simp only [join, push]
      cases first.combine? next <;> rfl
    | cons second rest => exact congrArg (first :: ·) ih

theorem append_eq_push_includes (outline : Outline) (classes : List String) :
    outline ++ [.includes classes] = push (Block.merge? .separate) outline (.includes classes) := by
  have hapart : ∀ last : Block, last.merge? .separate (.includes classes) = none := fun last =>
    Block.merge?_eq_none_iff.2 (.inr rfl)
  rcases outline.eq_nil_or_concat' with rfl | ⟨outline, last, rfl⟩
  · rfl
  · rw [push_of_none (hapart last)]

theorem add_some (policy : IncludePolicy) (outline : Outline) (block : Block) :
    outline.add policy (some block) = push (Block.merge? policy) outline block := by
  have hjoin (h : block.kind = .includes → policy = .joined) :
      outline.join block = push (Block.merge? policy) outline block := by
    rw [push_congr (Block.merge?_eq_combine? h), join_eq_push]
  cases block with
  | includes classes =>
    cases policy with
    | joined => exact hjoin fun _ => rfl
    | separate => exact append_eq_push_includes outline classes
  | _ => exact hjoin (by simp [Block.kind])

end Outline

/-! ### Bodies -/

namespace Statement

/-- The blocks that statements contribute, in order, up to the first statement that fails. -/
def contributions (settings : Settings) : List Statement → Except Violation (List Block)
  | [] => .ok []
  | first :: rest => do
    let contributed ← first.contribution settings
    let more ← contributions settings rest
    return contributed.toList ++ more

theorem contributions_append (settings : Settings) (first second : List Statement) :
    contributions settings (first ++ second) = do
      let blocks ← contributions settings first
      let more ← contributions settings second
      return blocks ++ more := by
  induction first with
  | nil => exact (bind_pure (contributions settings second)).symm
  | cons statement rest ih =>
    rw [List.cons_append, contributions, contributions, ih]
    exact bind_append_assoc (statement.contribution settings) Option.toList (contributions settings rest)
      (contributions settings second)

end Statement

open Statement (contributions)

namespace Outline

/-- The statements of a body may contribute all their blocks before any of them is put behind the outline. -/
theorem extend_eq_pushAll (settings : Settings) (outline : Outline) (body : List Statement) :
    Outline.extend settings outline body =
      (contributions settings body).map (pushAll (Block.merge? settings.includePolicy) outline) := by
  induction body generalizing outline with
  | nil => rfl
  | cons statement rest ih =>
    simp only [Outline.extend, contributions]
    cases statement.contribution settings with
    | error violation => rfl
    | ok contributed =>
      change Outline.extend settings (outline.add settings.includePolicy contributed) rest = _
      rw [ih]
      cases contributions settings rest with
      | error violation => rfl
      | ok blocks =>
        cases contributed with
        | none => rfl
        | some block => exact congrArg (fun start => Except.ok (pushAll _ start blocks)) (add_some _ outline block)

theorem ofBody_eq_pushAll (settings : Settings) (body : List Statement) :
    Outline.ofBody settings body =
      (contributions settings body).map (pushAll (Block.merge? settings.includePolicy) []) :=
  extend_eq_pushAll settings [] body

end Outline

end Outlining
