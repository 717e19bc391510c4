import Outlining.Proofs.Outline.Nesting
import Outlining.Proofs.Outline.Runs
import Outlining.Synopsis

/-!
# The shape of outlines

What every outline looks like, whatever body it comes from: neighbours that could be one block are one, no block is empty, and the block of class parameters stands nowhere but at the front of a class. Every block that a statement contributes is fit to stand in an outline (`Statement.filled_contributions`), merging keeps it so, and by `Outline.rel_bodyAt` what holds of every outline holds at every depth. The outline of a class is the block of its parameters in front of the outline of its body (`ClassDefinition.outline_eq_map`).
-/

namespace Outlining

open TailMerge

/-! ### Shapes -/

/-- There is something in every resource set, and neighbouring sets are of different types. -/
structure ResourceSet.AllWellFormed (sets : List ResourceSet) : Prop where
  ne_nil : sets ≠ []
  filled : ∀ set ∈ sets, set.resources.keys ≠ []
  typesApart : sets.IsChain fun first second => first.type ≠ second.type

/-- A block has something to show; only a class may be without parameters, a choice without options and a branch without statements. -/
def Block.Filled : Block → Prop
  | .arguments _ => True
  | .variables values => values.keys ≠ []
  | .resources sets => ResourceSet.AllWellFormed sets
  | .overrides targets => targets.keys ≠ []
  | .typeDefaults types => types.keys ≠ []
  | .choice _ _ => True
  | .conditional _ _ _ => True
  | .includes classes => classes ≠ []

namespace Outline

/-- Neighbouring blocks are of different kinds, unless blocks of that kind stay apart, and there is something in every block. -/
structure WellFormed (policy : IncludePolicy) (outline : Outline) : Prop where
  kindsApart : outline.IsChain fun first second => first.kind = second.kind → second.kind.joins policy = false
  filled : ∀ block ∈ outline, block.Filled

def WithoutArguments (outline : Outline) : Prop :=
  ∀ block ∈ outline, block.kind ≠ .arguments

/-- Something holds of an outline and of all outlines inside it. -/
def Everywhere (holds : Outline → Prop) (outline : Outline) : Prop :=
  ∀ path inner, outline.bodyAt path = some inner → holds inner

end Outline

/-! ### Merging keeps the shape -/

theorem ResourceSet.AllWellFormed.appendAll {sets more : List ResourceSet} (hsets : AllWellFormed sets)
    (hmore : AllWellFormed more) : AllWellFormed (ResourceSet.appendAll sets more) := by
  rw [appendAll_eq_pushAll]
  have hapart : Apart merge? sets := hsets.typesApart.imp fun _ _ => merge?_eq_none_iff.2
  refine ⟨pushAll_ne_nil hsets.ne_nil more, ?_, ?_⟩
  · refine forall_mem_pushAll ?_ hsets.filled hmore.filled
    intro first second merged hmerge hfirst _
    obtain ⟨-, rfl⟩ := type_eq_of_merge? hmerge
    exact OrderedMap.keys_merge_ne_nil hfirst _
  · exact (apart_pushAll associative_merge? hapart more).imp fun _ _ => merge?_eq_none_iff.1

theorem Block.filled_of_combine? {first second combined : Block} (h : first.combine? second = some combined)
    (hfirst : first.Filled) (hsecond : second.Filled) : combined.Filled := by
  cases first <;> cases second <;> cases h
  case arguments => trivial
  case resources => exact hfirst.appendAll hsecond
  case includes => exact List.append_ne_nil_of_left_ne_nil hfirst _
  all_goals exact OrderedMap.keys_merge_ne_nil hfirst _

/-! ### What statements contribute -/

theorem Statement.filled_shownEntry {settings : Settings} {statement : Statement} {entry : Entry}
    (h : statement.shownEntry settings = some entry) : (Block.ofEntries entry []).Filled := by
  cases statement with
  | assign name value =>
    cases h
    exact OrderedMap.keys_settled_ne_nil (List.cons_ne_nil _ _)
  | declare type instances =>
    simp only [Statement.shownEntry] at h
    split_ifs at h with hnone hclass
    · cases h
      rw [Block.ofEntries_includes]
      exact mt List.map_eq_nil_iff.1 hnone
    · cases h
      rw [Block.ofEntries_resources]
      refine ⟨List.cons_ne_nil _ _, ?_, List.isChain_singleton _⟩
      rw [List.forall_mem_singleton]
      exact OrderedMap.keys_settled_ne_nil hnone
  | override target parameters =>
    cases h
    exact OrderedMap.keys_settled_ne_nil (List.cons_ne_nil _ _)
  | typeDefaults type parameters =>
    cases h
    exact OrderedMap.keys_settled_ne_nil (List.cons_ne_nil _ _)
  | choice subject options =>
    cases h
    trivial
  | conditional condition consequence alternative => cases alternative <;> cases h <;> trivial
  | call function arguments =>
    rw [Statement.shownEntry] at h
    split_ifs at h with hinclude
    cases h
    rw [Block.ofEntries_includes]
    exact hinclude.2
  | other text => cases h

/-- A block that a statement contributes has something to show and is not the block of class parameters. -/
theorem Statement.filled_contributions {settings : Settings} {body : List Statement} {blocks : List Block}
    (h : Statement.contributions settings body = .ok blocks) :
    ∀ block ∈ blocks, block.Filled ∧ block.kind ≠ .arguments := by
  rw [Statement.contributions_eq_entries h, Statement.entries_eq_filterMap]
  intro block hblock
  obtain ⟨entry, hentry, rfl⟩ := List.mem_map.1 hblock
  obtain ⟨statement, -, hstatement⟩ := List.mem_filterMap.1 hentry
  refine ⟨Statement.filled_shownEntry hstatement, ?_⟩
  rw [Block.kind_ofEntries]
  cases entry <;> simp [Entry.kind]

/-! ### Outlines of bodies -/

theorem Outline.filled_ofBody {settings : Settings} {body : List Statement} {outline : Outline}
    (h : Outline.ofBody settings body = .ok outline) : ∀ block ∈ outline, block.Filled ∧ block.kind ≠ .arguments := by
  rw [Outline.ofBody_eq_pushAll] at h
  obtain ⟨blocks, hblocks, rfl⟩ := exists_of_map_eq_ok h
  refine forall_mem_pushAll ?_ (by simp) (Statement.filled_contributions hblocks)
  intro first second merged hmerge hfirst hsecond
  have hcombine := (Block.combine?_of_merge? hmerge).2
  exact ⟨Block.filled_of_combine? hcombine hfirst.1 hsecond.1, Block.kind_of_combine? hcombine ▸ hfirst.2⟩

theorem Outline.wellFormed_ofBody {settings : Settings} {body : List Statement} {outline : Outline}
    (h : Outline.ofBody settings body = .ok outline) : outline.WellFormed settings.includePolicy where
  kindsApart := by
    rw [Outline.ofBody_eq_pushAll] at h
    obtain ⟨blocks, -, rfl⟩ := exists_of_map_eq_ok h
    refine (apart_pushAll (Block.associative_merge? _) List.isChain_nil blocks).imp ?_
    intro first second hmerge
    exact (Block.merge?_eq_none_iff.1 hmerge).neg_resolve_left
  filled block hblock := (Outline.filled_ofBody h block hblock).1

theorem Outline.withoutArguments_ofBody {settings : Settings} {body : List Statement} {outline : Outline}
    (h : Outline.ofBody settings body = .ok outline) : outline.WithoutArguments :=
  fun block hblock => (Outline.filled_ofBody h block hblock).2

theorem Outline.everywhere_ofBody {settings : Settings} {holds : Outline → Prop}
    (hholds : ∀ {inner nested}, Outline.ofBody settings inner = .ok nested → holds nested) {body : List Statement}
    {outline : Outline} (h : Outline.ofBody settings body = .ok outline) : outline.Everywhere holds := by
  intro path nested hpath
  obtain ⟨inner, hinner⟩ := Outline.exists_of_bodyAt h hpath
  exact hholds hinner

/-! ### Outlines of classes -/

/-- The block of class parameters has no bodies, so the depths of an outline behind it are those of the outline. -/
theorem Outline.Everywhere.cons_arguments {holds : Outline → Prop} {defaults : OrderedMap String} {body : Outline}
    (hfirst : holds (.arguments defaults :: body)) (hbody : body.Everywhere holds) :
    Outline.Everywhere holds (.arguments defaults :: body) := by
  intro path inner hpath
  cases path with
  | nil =>
    cases hpath
    exact hfirst
  | cons position path => exact hbody (position :: path) inner hpath

/-- The block of a class's parameters. -/
def ClassDefinition.argumentsBlock (definition : ClassDefinition) : Block :=
  .arguments (OrderedMap.ofList (definition.parameters.map fun parameter =>
    (parameter.name, Expr.defaultText parameter.default)))

/-- The parameters of a class stand in front of the outline of its body and do not become one with it. -/
theorem ClassDefinition.outline_eq_map (settings : Settings) (definition : ClassDefinition) :
    definition.outline settings = (Outline.ofBody settings definition.body).map (definition.argumentsBlock :: ·) := by
  have hclass : definition.outline settings = _ :=
    Outline.extend_eq_pushAll settings [definition.argumentsBlock] definition.body
  have hbody := Outline.ofBody_eq_pushAll settings definition.body
  rw [hclass, hbody]
  cases hblocks : Statement.contributions settings definition.body with
  | error violation => rfl
  | ok blocks =>
    rw [hblocks] at hbody
    refine congrArg Except.ok (pushAll_singleton (Block.associative_merge? _) ?_)
    intro next hnext
    exact Block.merge?_eq_none_iff.2 (.inl (Ne.symm (Outline.withoutArguments_ofBody hbody next hnext)))

/-- A body is outlined alike in a class and in a node: the class has the block of its parameters in front, each at the place of its first occurrence with the default of its last. If the body cannot be outlined, neither can be, and the two reports differ in the name of the class or the node only. -/
theorem Definition.outline_ofClass_ofNode (settings : Settings) (className nodeName : String) (parent : Option String)
    (parameters : List ClassParameter) (body : List Statement) :
    (∃ blocks, (Definition.ofNode ⟨nodeName, some body⟩).outline settings = .ok blocks ∧
      (Definition.ofClass ⟨className, parent, parameters, body⟩).outline settings =
        .ok (.arguments (OrderedMap.settled (parameters.map fun parameter =>
          (parameter.name, Expr.defaultText parameter.default))) :: blocks)) ∨
    ∃ message hint code,
      (Definition.ofNode ⟨nodeName, some body⟩).outline settings =
        .error ⟨.incompleteTree (some nodeName), message, hint, code⟩ ∧
      (Definition.ofClass ⟨className, parent, parameters, body⟩).outline settings =
        .error ⟨.incompleteTree (some className), message, hint, code⟩ := by
  have hclass := ClassDefinition.outline_eq_map settings ⟨className, parent, parameters, body⟩
  rw [ClassDefinition.argumentsBlock, OrderedMap.ofList_eq_settled] at hclass
  have hnode : NodeDefinition.outline settings ⟨nodeName, some body⟩ = Outline.ofBody settings body := rfl
  simp only [Definition.outline, hclass, hnode]
  cases Outline.ofBody settings body with
  | ok blocks => exact .inl ⟨blocks, rfl, rfl⟩
  | error violation =>
    exact .inr ⟨violation.message, some "The manifest parser produced an incomplete tree", some violation.code, rfl, rfl⟩

end Outlining
