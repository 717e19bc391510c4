import Outlining.Block.InPlace
import Outlining.Proofs.Outline.Merging

/-!
# Blocks that take in other blocks

To take another block in is to combine with it, and what does not combine comes back (`run_absorbInPlace`); joining a block to an outline is letting the last block take it in (`join_concat`). Three neighbouring blocks become the same block whichever two of them meet first, whatever they hold (`absorbInPlace_assoc`): resource sets that became one before they reach the block in front end up as if each had come by itself.
-/

namespace Outlining

open TailMerge

namespace ResourceSet

theorem run_appendInPlace (next : ResourceSet) (sets : List ResourceSet) :
    next.appendInPlace.run sets = ((), appendTo sets next) := by
  rw [appendTo_eq_push]
  rcases sets.eq_nil_or_concat' with rfl | ⟨sets, last, rfl⟩
  · rfl
  · rw [appendInPlace, StateT.run_modify, List.getLast?_concat, List.dropLast_concat, Option.filter_some]
    by_cases htype : last.type = next.type
    · rw [push_of_some (merge?_of_type_eq htype), if_pos (decide_eq_true htype)]
      rfl
    · rw [push_of_none (merge?_eq_none_iff.2 htype), if_neg (by simpa using htype), List.append_assoc]
      rfl

/-- The sets go in one by one, each behind what those before it have left. -/
theorem run_forM_appendInPlace (more sets : List ResourceSet) :
    (more.forM appendInPlace).run sets = ((), appendAll sets more) := by
  induction more generalizing sets with
  | nil => rfl
  | cons next more ih =>
    rw [List.forM_eq_forM, List.forM_cons, StateT.run_bind, run_appendInPlace]
    exact ih (appendTo sets next)

end ResourceSet

namespace Block

theorem run_absorbInPlace (first second : Block) :
    second.absorbInPlace.run first =
      match first.combine? second with
      | some combined => (none, combined)
      | none => (some second, first) := by
  cases first <;> cases second
  -- every other kind combines in one step
  case resources.resources sets more =>
    have hrun : (resources more).absorbInPlace.run (resources sets) =
        (none, resources ((more.forM ResourceSet.appendInPlace).run sets).2) := rfl
    rw [hrun, ResourceSet.run_forM_appendInPlace]
    rfl
  all_goals rfl

theorem run_absorbInPlace_of_some {first second combined : Block} (h : first.combine? second = some combined) :
    second.absorbInPlace.run first = (none, combined) := by
  rw [run_absorbInPlace, h]

theorem run_absorbInPlace_of_none {first second : Block} (h : first.combine? second = none) :
    second.absorbInPlace.run first = (some second, first) := by
  rw [run_absorbInPlace, h]

theorem Kind.joins_joined_eq_false_iff {kind : Kind} :
    kind.joins .joined = false ↔ kind = .choice ∨ kind = .conditional := by
  cases kind <;> decide

theorem exists_combine? {first second : Block} (hkind : first.kind = second.kind)
    (hcombines : ¬(second.kind = .choice ∨ second.kind = .conditional)) :
    ∃ combined, first.combine? second = some combined := by
  rw [← Option.ne_none_iff_exists']
  intro hnone
  rcases combine?_eq_none_iff.1 hnone with hne | hapart
  · exact hne hkind
  · exact hcombines (Kind.joins_joined_eq_false_iff.1 hapart)

end Block

open Block (absorbInPlace)

theorem Outline.join_concat (outline : Outline) (last next : Block) :
    Outline.join (outline ++ [last]) next =
      outline ++ ((absorbInPlace next).run last).2 :: ((absorbInPlace next).run last).1.toList := by
  rw [join_eq_push, push_concat, Block.run_absorbInPlace]
  cases last.combine? next <;> rfl

/-- Of three neighbouring blocks of one kind that combines it does not matter which two become one first. A block of another kind, a choice or a conditional comes back as it is, and the block at hand stays as it was. Joining a block to an outline is letting the last block take it in; what comes back is put behind that one. -/
theorem absorbInPlace_assoc (first second third : Block) :
    (first.kind = second.kind → second.kind = third.kind → ¬(second.kind = .choice ∨ second.kind = .conditional) →
      ∃ left right whole,
        (absorbInPlace second).run first = (none, left) ∧ (absorbInPlace third).run left = (none, whole) ∧
        (absorbInPlace third).run second = (none, right) ∧ (absorbInPlace right).run first = (none, whole)) ∧
    (first.kind ≠ second.kind ∨ second.kind = .choice ∨ second.kind = .conditional →
      (absorbInPlace second).run first = (some second, first)) ∧
    ∀ outline : Outline, Outline.join (outline ++ [first]) second =
      outline ++ ((absorbInPlace second).run first).2 :: ((absorbInPlace second).run first).1.toList := by
  refine ⟨?_, ?_, fun outline => Outline.join_concat outline first second⟩
  · intro hfirst hthird hcombines
    obtain ⟨left, hleft⟩ := Block.exists_combine? hfirst hcombines
    obtain ⟨right, hright⟩ := Block.exists_combine? hthird (hthird ▸ hcombines)
    -- the resource sets of `right` may have become one already; that they meet `first` as they came is in this step
    obtain ⟨whole, hwhole, hwhole'⟩ := Block.combine?_combine? hleft hright
    exact ⟨left, right, whole, Block.run_absorbInPlace_of_some hleft, Block.run_absorbInPlace_of_some hwhole,
      Block.run_absorbInPlace_of_some hright, Block.run_absorbInPlace_of_some hwhole'⟩
  · intro hapart
    rw [← Block.Kind.joins_joined_eq_false_iff, ← Block.combine?_eq_none_iff] at hapart
    exact Block.run_absorbInPlace_of_none hapart

/-- Two sets of one type, one of them empty, that stand next to each other and have not become one. -/
def filesApart : Block :=
  .resources [⟨"file", ∅⟩, ⟨"file", .ofList [("/a", .ofList [("mode", .text "0600")])]⟩]

def moreFiles : Block :=
  .resources [⟨"file", .ofList [("/b", ∅)]⟩, ⟨"file", .ofList [("/a", .ofList [("mode", .text "0644")])]⟩]

def filesAndService : Block :=
  .resources [⟨"file", ∅⟩, ⟨"file", .ofList [("/b", .ofList [("owner", .absent)]), ("/c", ∅)]⟩, ⟨"service", ∅⟩]

theorem absorbInPlace_filesApart :
    filesApart.kind = moreFiles.kind ∧ moreFiles.kind = filesAndService.kind ∧
      ¬(moreFiles.kind = .choice ∨ moreFiles.kind = .conditional) ∧
      (∃ left right whole,
        (absorbInPlace moreFiles).run filesApart = (none, left) ∧
        (absorbInPlace filesAndService).run left = (none, whole) ∧
        (absorbInPlace filesAndService).run moreFiles = (none, right) ∧
        (absorbInPlace right).run filesApart = (none, whole)) ∧
      (absorbInPlace filesAndService).run ((absorbInPlace moreFiles).run filesApart).2 = (none, .resources
        [⟨"file", ∅⟩,
          ⟨"file", .ofList [("/a", .ofList [("mode", .text "0644")]), ("/b", .ofList [("owner", .absent)]), ("/c", ∅)]⟩,
          ⟨"service", ∅⟩]) ∧
      filesApart.kind ≠ (Block.includes ["ntp"]).kind ∧
      (absorbInPlace (.includes ["ntp"])).run filesApart = (some (.includes ["ntp"]), filesApart) ∧
      (absorbInPlace (.choice "$os" [])).run (.choice "$os" []) = (some (.choice "$os" []), .choice "$os" []) := by
  have hcombines : ¬(moreFiles.kind = .choice ∨ moreFiles.kind = .conditional) := by decide
  have hkind : filesApart.kind ≠ (Block.includes ["ntp"]).kind := by decide
  refine ⟨rfl, rfl, hcombines, ?_, rfl, hkind, ?_, ?_⟩
  · exact (absorbInPlace_assoc filesApart moreFiles filesAndService).1 rfl rfl hcombines
  · exact (absorbInPlace_assoc filesApart (.includes ["ntp"]) filesApart).2.1 (.inl hkind)
  · exact (absorbInPlace_assoc (.choice "$os" []) (.choice "$os" []) filesApart).2.1 (.inr (.inl rfl))

end Outlining
