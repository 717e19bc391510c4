import Mathlib.Data.List.Forall2
import Mathlib.Data.Option.Basic
import Outlining.Proofs.Outline.Merging

/-!
# Bodies inside bodies

Choices and conditionals hold bodies of their own, and the blocks they become hold the outlines of these. A body at any depth is named by the path that leads to it: which of the bodies directly inside is taken, and so on from there. The main statement, `rel_bodyAt`, is that a body and its outline have the same paths and that what stands at a path of the outline is the outline of the body at that path. Whatever holds of every outline as a list of blocks therefore holds of it at every depth.
-/

namespace Outlining

open TailMerge

/-! ### Paths -/

section Descent

variable {α β : Type} (children : α → List α)

/-- What a path leads to from `start`; every number on it picks a child. -/
def descend (start : α) : List Nat → Option α
  | [] => some start
  | position :: path => (children start)[position]?.bind (descend · path)

variable {children}

theorem descend_cons_eq_some_iff {start found : α} {position : Nat} {path : List Nat} :
    descend children start (position :: path) = some found ↔
      ∃ child, (children start)[position]? = some child ∧ descend children child path = some found :=
  Option.bind_eq_some_iff

/-- Paths lead to the start itself and to wherever paths lead from a child. -/
theorem exists_descend_iff {holds : α → Prop} {start : α} :
    (∃ path found, descend children start path = some found ∧ holds found) ↔
      holds start ∨ ∃ child ∈ children start, ∃ path found, descend children child path = some found ∧ holds found := by
  constructor
  · rintro ⟨path, found, hpath, hfound⟩
    cases path with
    | nil =>
      cases hpath
      exact .inl hfound
    | cons position path =>
      obtain ⟨child, hchild, hpath⟩ := descend_cons_eq_some_iff.1 hpath
      exact .inr ⟨child, List.mem_of_getElem? hchild, path, found, hpath, hfound⟩
  · rintro (hstart | ⟨child, hchild, path, found, hpath, hfound⟩)
    · exact ⟨[], start, rfl, hstart⟩
    · obtain ⟨position, hposition⟩ := List.mem_iff_getElem?.1 hchild
      exact ⟨position :: path, found, descend_cons_eq_some_iff.2 ⟨child, hposition, hpath⟩, hfound⟩

theorem rel_getElem? {related : α → β → Prop} {items : List α} {others : List β} (h : List.Forall₂ related items others)
    (position : Nat) : Option.Rel related items[position]? others[position]? := by
  induction h generalizing position with
  | nil => exact .none
  | cons hfirst _ ih =>
    cases position with
    | zero => exact .some hfirst
    | succ position => simpa using ih position

/-- Two trees whose related nodes have related children have the same paths. -/
theorem rel_descend {others : β → List β} {related : α → β → Prop}
    (hchildren : ∀ {start other}, related start other → List.Forall₂ related (children start) (others other))
    {start : α} {other : β} (h : related start other) (path : List Nat) :
    Option.Rel related (descend children start path) (descend others other path) := by
  induction path generalizing start other with
  | nil => exact .some h
  | cons position path ih =>
    have hposition := rel_getElem? (hchildren h) position
    rw [descend, descend]
    generalize (children start)[position]? = child, (others other)[position]? = counterpart at hposition
    cases hposition with
    | none => exact .none
    | some hchild => exact ih hchild

end Descent

/-! ### Bodies of statements and of blocks -/

def Arm.body : Arm → List Statement
  | .mk _ body => body

def Branch.outline : Branch → Outline
  | .mk _ outline => outline

/-- The bodies directly inside a statement, in source order; an empty alternative is no body. -/
def Statement.bodies : Statement → List (List Statement)
  | .choice _ options => options.map Arm.body
  | .conditional _ consequence none => [consequence]
  | .conditional _ consequence (some alternative) =>
    if alternative.isEmpty then [consequence] else [consequence, alternative]
  | _ => []

def Block.bodies : Block → List Outline
  | .choice _ options => options.map Branch.outline
  | .conditional _ consequence alternative => consequence :: alternative.toList
  | _ => []

/-- The body that a path leads to inside another body. -/
def Statement.bodyAt (body : List Statement) (path : List Nat) : Option (List Statement) :=
  descend (·.flatMap Statement.bodies) body path

/-- The outline that a path leads to inside another outline. -/
def Outline.bodyAt (outline : Outline) (path : List Nat) : Option Outline :=
  descend (·.flatMap Block.bodies) outline path

theorem Block.bodies_of_merge? {policy : IncludePolicy} {first second merged : Block}
    (h : first.merge? policy second = some merged) : merged.bodies = first.bodies ++ second.bodies := by
  have hcombine := (combine?_of_merge? h).2
  cases first <;> cases second <;> cases hcombine <;> rfl

/-! ### Outlines of nested bodies -/

theorem Arm.forall₂_branches {settings : Settings} {options : List Arm} {branches : List Branch}
    (h : Arm.branches settings options = .ok branches) :
    List.Forall₂ (fun body outline => Outline.ofBody settings body = .ok outline)
      (options.map Arm.body) (branches.map Branch.outline) := by
  induction options generalizing branches with
  | nil =>
    cases h
    exact .nil
  | cons option rest ih =>
    obtain ⟨values, body⟩ := option
    obtain ⟨outline, houtline, h⟩ := exists_of_bind_eq_ok h
    obtain ⟨more, hmore, h⟩ := exists_of_bind_eq_ok h
    cases h
    exact .cons houtline (ih hmore)

theorem Statement.forall₂_contribution {settings : Settings} {statement : Statement} {contributed : Option Block}
    (h : statement.contribution settings = .ok contributed) :
    List.Forall₂ (fun body outline => Outline.ofBody settings body = .ok outline)
      statement.bodies (contributed.toList.flatMap Block.bodies) := by
  cases statement with
  | assign name value =>
    cases h
    exact .nil
  | declare type instances =>
    obtain ⟨titled, -, rfl⟩ := exists_of_map_eq_ok h
    rw [declarationBlock]
    split_ifs <;> exact .nil
  | override target parameters =>
    cases parameters <;> cases h
    exact .nil
  | typeDefaults type parameters =>
    cases parameters <;> cases h
    exact .nil
  | choice subject options =>
    obtain ⟨branches, hbranches, h⟩ := exists_of_bind_eq_ok h
    cases h
    rw [Option.toList_some, List.flatMap_singleton]
    exact Arm.forall₂_branches hbranches
  | conditional condition consequence alternative =>
    cases alternative with
    | none =>
      obtain ⟨outline, houtline, h⟩ := exists_of_bind_eq_ok h
      cases h
      exact .cons houtline .nil
    | some alternative =>
      obtain ⟨outline, houtline, h⟩ := exists_of_bind_eq_ok h
      obtain ⟨other, hother, h⟩ := exists_of_bind_eq_ok h
      cases h
      rw [bodies]
      split_ifs
      · exact .cons houtline .nil
      · exact .cons houtline (.cons hother .nil)
  | call function arguments =>
    cases h
    rw [callBlock]
    split_ifs <;> exact .nil
  | other text =>
    cases h
    exact .nil

theorem Statement.forall₂_contributions {settings : Settings} {body : List Statement} {blocks : List Block}
    (h : Statement.contributions settings body = .ok blocks) :
    List.Forall₂ (fun inner nested => Outline.ofBody settings inner = .ok nested)
      (body.flatMap Statement.bodies) (blocks.flatMap Block.bodies) := by
  induction body generalizing blocks with
  | nil =>
    cases h
    exact .nil
  | cons statement rest ih =>
    obtain ⟨contributed, hfirst, h⟩ := exists_of_bind_eq_ok h
    obtain ⟨more, hmore, h⟩ := exists_of_bind_eq_ok h
    cases h
    rw [List.flatMap_cons, List.flatMap_append]
    exact List.rel_append (Statement.forall₂_contribution hfirst) (ih hmore)

/-- The outlines directly inside the outline of a body are those of the bodies directly inside the body. -/
theorem Outline.forall₂_bodies {settings : Settings} {body : List Statement} {outline : Outline}
    (h : Outline.ofBody settings body = .ok outline) :
    List.Forall₂ (fun inner nested => Outline.ofBody settings inner = .ok nested)
      (body.flatMap Statement.bodies) (outline.flatMap Block.bodies) := by
  rw [Outline.ofBody_eq_pushAll] at h
  obtain ⟨blocks, hblocks, rfl⟩ := exists_of_map_eq_ok h
  -- a merged block has the bodies of both, so merging leaves their series as it is
  rw [flatMap_pushAll Block.bodies_of_merge?]
  exact Statement.forall₂_contributions hblocks

/-- A body and its outline have the same paths, and what stands at a path of the outline is the outline of the body at that path. -/
theorem Outline.rel_bodyAt {settings : Settings} {body : List Statement} {outline : Outline}
    (h : Outline.ofBody settings body = .ok outline) (path : List Nat) :
    Option.Rel (fun inner nested => Outline.ofBody settings inner = .ok nested)
      (Statement.bodyAt body path) (outline.bodyAt path) :=
  rel_descend Outline.forall₂_bodies h path

theorem Outline.exists_of_bodyAt {settings : Settings} {body : List Statement} {outline nested : Outline}
    (h : Outline.ofBody settings body = .ok outline) {path : List Nat} (hpath : outline.bodyAt path = some nested) :
    ∃ inner, Outline.ofBody settings inner = .ok nested := by
  have hrel := rel_bodyAt h path
  rw [hpath] at hrel
  generalize Statement.bodyAt body path = inner at hrel
  cases hrel with
  | some hinner => exact ⟨_, hinner⟩

end Outlining
