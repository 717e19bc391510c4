import Outlining.IgnoreFilter
import Outlining.Proofs.Pattern.Meaning
import Outlining.Proofs.Pattern.Token

/-!
# Anchored patterns

A pattern that is put as text into a group behind the mark for the start is that mark with the pattern behind it, provided the text is a pattern by itself (`eq_of_ofText_anchoredText`); whether the whole keeps to the limits is a matter of the pattern and of two more levels (`ofText_anchoredText_of_built`). Reading inside the group does what reading the text alone does, with one more group around it (`Builder.within`); what is open at the end of the text is only this group, which the closing parenthesis closes.
-/

namespace Outlining.Pattern

namespace Builder

/-- The same with one more group around all groups that are open. -/
def within (outer : OuterGroup) (builder : Builder) : Builder :=
  { builder with around := builder.around ++ [outer] }

variable {builder next : Builder} {outer : OuterGroup} {token : Token}

theorem changeClass_within (change : OpenClass → OpenClass) :
    (builder.within outer).changeClass change = (builder.changeClass change).within outer := by
  obtain ⟨options, alternatives, around, numbered, names, classes⟩ := builder
  cases classes <;> rfl

theorem closeClass_within : (builder.within outer).closeClass = builder.closeClass.within outer := by
  obtain ⟨options, alternatives, around, numbered, names, classes⟩ := builder
  match classes with
  | [] => rfl
  | [_] => rfl
  | _ :: _ :: _ => rfl

/-- Inside a group, a token does what it does without it. -/
theorem step_within (h : builder.step token = .ok next) : (builder.within outer).step token = .ok (next.within outer) := by
  cases token with
  | openGroup front =>
    cases front with
    | numbered =>
      cases h
      rfl
    | named name =>
      simp only [step, openGroup] at h ⊢
      split at h
      · cases h
      · rename_i hname
        cases h
        exact if_neg hname
    | plain changes =>
      cases h
      rfl
  | closeGroup =>
    simp only [step, closeGroup] at h ⊢
    split at h
    · cases h
    · rename_i inner around haround
      cases h
      simp only [within, haround, List.cons_append]
  | repetition least most eager =>
    obtain ⟨alternatives, halternatives, rfl⟩ := exists_of_map_eq_ok h
    simp only [step, within]
    rw [halternatives]
    rfl
  | closeClass =>
    cases h
    exact congrArg Except.ok closeClass_within
  | operator operator =>
    cases h
    exact congrArg Except.ok (changeClass_within _)
  | members set =>
    cases h
    exact congrArg Except.ok (changeClass_within _)
  | namedMembers negated set =>
    cases h
    exact congrArg Except.ok (changeClass_within _)
  | _ =>
    cases h
    rfl

theorem foldlM_step_within {read : List Token} (h : read.foldlM step builder = .ok next) :
    read.foldlM step (builder.within outer) = .ok (next.within outer) := by
  induction read generalizing builder with
  | nil =>
    cases h
    rfl
  | cons token rest ih =>
    rw [List.foldlM_cons] at h ⊢
    obtain ⟨between, hbetween, h⟩ := exists_of_bind_eq_ok h
    rw [step_within hbetween]
    exact ih h

theorem length_classes_changeClass (change : OpenClass → OpenClass) :
    (builder.changeClass change).classes.length = builder.classes.length := by
  obtain ⟨options, alternatives, around, numbered, names, classes⟩ := builder
  cases classes <;> rfl

theorem length_classes_closeClass : builder.closeClass.classes.length = builder.classes.length - 1 := by
  obtain ⟨options, alternatives, around, numbered, names, classes⟩ := builder
  match classes with
  | [] => rfl
  | [_] => rfl
  | _ :: _ :: _ => rfl

/-- A builder has as many open classes as its tokens leave open. -/
theorem length_classes_step (h : builder.step token = .ok next) :
    next.classes.length = token.classDepth builder.classes.length := by
  cases token with
  | openGroup front =>
    cases front with
    | named name =>
      simp only [step, openGroup] at h
      split at h <;> cases h
      rfl
    | _ =>
      cases h
      rfl
  | closeGroup =>
    simp only [step, closeGroup] at h
    split at h <;> cases h
    rfl
  | repetition least most eager =>
    obtain ⟨alternatives, -, rfl⟩ := exists_of_map_eq_ok h
    rfl
  | closeClass =>
    cases h
    exact length_classes_closeClass
  | operator operator =>
    cases h
    exact length_classes_changeClass _
  | members set =>
    cases h
    exact length_classes_changeClass _
  | namedMembers negated set =>
    cases h
    exact length_classes_changeClass _
  | _ =>
    cases h
    rfl

theorem length_classes_foldlM_step {read : List Token} (h : read.foldlM step builder = .ok next) :
    next.classes.length = classDepthAfter builder.classes.length read := by
  induction read generalizing builder with
  | nil =>
    cases h
    rfl
  | cons token rest ih =>
    rw [List.foldlM_cons] at h
    obtain ⟨between, hbetween, h⟩ := exists_of_bind_eq_ok h
    rw [ih h, length_classes_step hbetween]
    rfl

theorem finish_eq_ok_iff {item : Item} :
    builder.finish = .ok item ↔ builder.classes = [] ∧ builder.around = [] ∧ builder.alternatives.together = item := by
  rw [finish]
  by_cases hclasses : builder.classes = []
  · by_cases haround : builder.around = [] <;> simp [hclasses, haround]
  · simp [hclasses]

end Builder

section ofText

variable {limits : Limits} {text : String} {read : List Token} {builder : Builder}

/-- The pattern of a text whose tokens build one and leave nothing open, or the limit that it does not keep to. -/
theorem ofText_eq_of_built (hread : tokens text.toList = .ok read) (hbuilder : read.foldlM Builder.step {} = .ok builder)
    (hclasses : builder.classes = []) (haround : builder.around = []) :
    ofText limits text =
      if limits.depth.any (· < builder.alternatives.together.depth) then .error .nestedTooDeeply
      else if limits.size.any fun size => !builder.alternatives.together.pattern.fits size then .error .tooLarge
      else .ok builder.alternatives.together.pattern := by
  have hfinish : builder.finish = .ok builder.alternatives.together :=
    Builder.finish_eq_ok_iff.2 ⟨hclasses, haround, rfl⟩
  rw [ofText, hread]
  change (List.foldlM Builder.step {} read >>= _) = _
  rw [hbuilder]
  change (builder.finish >>= _) = _
  rw [hfinish]
  by_cases hdepth : limits.depth.any (· < builder.alternatives.together.depth) = true
  · exact (if_pos hdepth).trans (if_pos hdepth).symm
  · refine (if_neg hdepth).trans (.trans ?_ (if_neg hdepth).symm)
    by_cases hsize : limits.size.any (fun size => !builder.alternatives.together.pattern.fits size) = true
    · exact (if_pos hsize).trans (if_pos hsize).symm
    · exact (if_neg hsize).trans (if_neg hsize).symm

/-- A text is a pattern if its tokens build one and leave nothing open. -/
theorem exists_of_ofText_eq_ok {pattern : Pattern} (h : ofText limits text = .ok pattern) :
    ∃ read builder, tokens text.toList = .ok read ∧ read.foldlM Builder.step {} = .ok builder ∧
      builder.classes = [] ∧ builder.around = [] ∧ builder.alternatives.together.pattern = pattern := by
  have hopened := h
  rw [ofText] at hopened
  obtain ⟨read, hread, hopened⟩ := exists_of_bind_eq_ok hopened
  obtain ⟨builder, hbuilder, hopened⟩ := exists_of_bind_eq_ok hopened
  obtain ⟨item, hitem, -⟩ := exists_of_bind_eq_ok hopened
  obtain ⟨hclasses, haround, -⟩ := Builder.finish_eq_ok_iff.1 hitem
  refine ⟨read, builder, hread, hbuilder, hclasses, haround, ?_⟩
  rw [ofText_eq_of_built hread hbuilder hclasses haround] at h
  split at h
  · cases h
  · split at h
    · cases h
    · exact Except.ok.inj h

end ofText

theorem tokens_anchored {text : List Char} {read : List Token} (h : tokens text = .ok read) (hclosed : classDepthAfter 0 read = 0) :
    tokens ('^' :: '(' :: '?' :: ':' :: (text ++ [')'])) = .ok (.startMark :: .openGroup (.plain []) :: (read ++ [.closeGroup])) := by
  have hread : tokensFrom 0 2 ('?' :: ':' :: (text ++ [')'])) = .ok (read ++ [.closeGroup]) :=
    tokensFrom_append_closing h (Nat.zero_le _) hclosed
  rw [tokens, tokensFrom_cons]
  change tokensFrom 0 0 ('(' :: '?' :: ':' :: (text ++ [')'])) >>= _ = _
  rw [tokensFrom_cons]
  change (tokensFrom 0 2 ('?' :: ':' :: (text ++ [')'])) >>= _) >>= _ = _
  rw [hread]
  rfl

end Outlining.Pattern

namespace Outlining.IgnoreFilter

open Pattern

/-- What is anchored at the start, by what is built from the text inside: the group and the start in front of it are two more levels. -/
theorem ofText_anchoredText_of_built {limits : Limits} {beginning : String} {read : List Token} {inside : Builder}
    (hread : tokens beginning.toList = .ok read) (hinside : read.foldlM Builder.step {} = .ok inside)
    (hclasses : inside.classes = []) (haround : inside.around = []) :
    ofText limits (anchoredText beginning) =
      if limits.depth.any (· < inside.alternatives.together.depth + 2) then .error .nestedTooDeeply
      else if limits.size.any fun size =>
          !(ofParts [.assertion .textStart, inside.alternatives.together.pattern]).fits size then .error .tooLarge
      else .ok (ofParts [.assertion .textStart, inside.alternatives.together.pattern]) := by
  have hclosed : classDepthAfter 0 read = 0 := by
    have hlength := Builder.length_classes_foldlM_step hinside
    rw [hclasses] at hlength
    exact hlength.symm
  have htext : (anchoredText beginning).toList = '^' :: '(' :: '?' :: ':' :: (beginning.toList ++ [')']) := by
    simp [anchoredText]
  have hbuilt : (Token.startMark :: .openGroup (.plain []) :: (read ++ [.closeGroup])).foldlM Builder.step {} =
      .ok { inside with
        options := {}
        alternatives := { items := [⟨inside.alternatives.together.pattern, inside.alternatives.together.depth + 1, true⟩,
          { pattern := .assertion .textStart }] } } := by
    -- Behind the mark and the parenthesis, the builder is the empty one within the group.
    change (read ++ [Token.closeGroup]).foldlM Builder.step
      (({} : Builder).within ⟨{}, { items := [{ pattern := .assertion .textStart }] }, none⟩) = _
    rw [List.foldlM_append, Builder.foldlM_step_within hinside]
    change Builder.closeGroup _ >>= _ = _
    simp only [Builder.closeGroup, Builder.within, haround, List.nil_append]
    rfl
  have hdepth : depthTogether [inside.alternatives.together.depth + 1, 0] = inside.alternatives.together.depth + 2 := by
    simp [depthTogether]
  rw [ofText_eq_of_built (htext ▸ tokens_anchored hread hclosed) hbuilt hclasses haround, ← hdepth]
  rfl

/-- What is anchored at the start is the start and then the pattern, whatever alternatives and options the pattern has. -/
theorem eq_of_ofText_anchoredText {limits limits' : Limits} {beginning : String} {pattern wrapped : Pattern}
    (h : ofText limits beginning = .ok pattern) (hanchored : ofText limits' (anchoredText beginning) = .ok wrapped) :
    wrapped = ofParts [.assertion .textStart, pattern] := by
  obtain ⟨read, builder, hread, hbuilder, hclasses, haround, rfl⟩ := exists_of_ofText_eq_ok h
  rw [ofText_anchoredText_of_built hread hbuilder hclasses haround] at hanchored
  split at hanchored
  · cases hanchored
  · split at hanchored
    · cases hanchored
    · exact (Except.ok.inj hanchored).symm

end Outlining.IgnoreFilter
