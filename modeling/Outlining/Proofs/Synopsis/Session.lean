import Outlining.Proofs.Outline.Shape
import Outlining.Proofs.Synopsis.Attempts
import Outlining.Proofs.Synopsis.History

/-!
# Sessions

A session enters definitions into one synopsis and goes on after those that fail. Whatever is entered, every outline in the synopsis is well formed at every depth, the block of class parameters stands at the front of each class and nowhere else, and only classes have parents (`session_wellFormed`). One definition more keeps this, whether it can be entered or not (`Synopsis.WellFormed.enter`), and a synopsis begins with nothing in it.
-/

namespace Outlining

namespace Outline

/-- The outline of a class: well formed at every depth, with the class's parameters at the front and nowhere else. -/
structure ShapedAsClass (policy : IncludePolicy) (outline : Outline) : Prop where
  wellFormed : outline.Everywhere (WellFormed policy)
  argumentsFirst : ∃ defaults body, outline = .arguments defaults :: body ∧ Everywhere WithoutArguments body

/-- The outline of a node: well formed at every depth, without the parameters of a class anywhere. -/
structure ShapedAsNode (policy : IncludePolicy) (outline : Outline) : Prop where
  wellFormed : outline.Everywhere (WellFormed policy)
  withoutArguments : outline.Everywhere WithoutArguments

end Outline

namespace Synopsis

/-- Classes and nodes are shaped as such, and only classes have parents. -/
structure WellFormed (policy : IncludePolicy) (synopsis : Synopsis) : Prop where
  classes : ∀ name outline, synopsis.classes.get? name = some outline → outline.ShapedAsClass policy
  nodes : ∀ name outline, synopsis.nodes.get? name = some outline → outline.ShapedAsNode policy
  parents : ∀ name ∈ synopsis.parents.keys, name ∈ synopsis.classes.keys

end Synopsis

/-! ### Outlines of definitions -/

theorem ClassDefinition.shapedAsClass_outline {settings : Settings} {definition : ClassDefinition} {outline : Outline}
    (h : definition.outline settings = .ok outline) : outline.ShapedAsClass settings.includePolicy := by
  rw [ClassDefinition.outline_eq_map] at h
  obtain ⟨body, hbody, rfl⟩ := exists_of_map_eq_ok h
  have hwellFormed := Outline.wellFormed_ofBody hbody
  have hwithout := Outline.withoutArguments_ofBody hbody
  refine ⟨?_, _, body, rfl, Outline.everywhere_ofBody Outline.withoutArguments_ofBody hbody⟩
  refine Outline.Everywhere.cons_arguments ⟨?_, ?_⟩ (Outline.everywhere_ofBody Outline.wellFormed_ofBody hbody)
  · refine List.isChain_cons.2 ⟨?_, hwellFormed.kindsApart⟩
    intro next hnext hkind
    exact absurd hkind.symm (hwithout next (List.mem_of_mem_head? hnext))
  · exact List.forall_mem_cons.2 ⟨trivial, hwellFormed.filled⟩

theorem NodeDefinition.shapedAsNode_outline {settings : Settings} {definition : NodeDefinition} {outline : Outline}
    (h : definition.outline settings = .ok outline) : outline.ShapedAsNode settings.includePolicy where
  wellFormed := Outline.everywhere_ofBody Outline.wellFormed_ofBody h
  withoutArguments := Outline.everywhere_ofBody Outline.withoutArguments_ofBody h

/-! ### One definition more -/

namespace Synopsis

variable {settings : Settings} {synopsis : Synopsis}

theorem WellFormed.record {definition : Definition} {outline : Outline} (h : synopsis.WellFormed settings.includePolicy)
    (houtline : definition.outline settings = .ok outline) :
    (synopsis.record definition outline).WellFormed settings.includePolicy := by
  cases definition with
  | ofClass definition =>
    have hshape := ClassDefinition.shapedAsClass_outline (Definition.outline_ofClass_eq_ok_iff.1 houtline)
    refine ⟨OrderedMap.forall_get?_insert hshape h.classes, h.nodes, ?_⟩
    intro name hname
    rw [Synopsis.record, OrderedMap.mem_keys_insert]
    cases hparent : definition.parent with
    | none =>
      simp only [Synopsis.record, hparent, OrderedMap.keys_erase, List.mem_filter] at hname
      exact .inr (h.parents name hname.1)
    | some parent =>
      simp only [Synopsis.record, hparent, OrderedMap.mem_keys_insert] at hname
      exact hname.imp_right (h.parents name)
  | ofNode definition =>
    have hshape := NodeDefinition.shapedAsNode_outline (Definition.outline_ofNode_eq_ok_iff.1 houtline)
    exact ⟨h.classes, OrderedMap.forall_get?_insert hshape h.nodes, h.parents⟩

/-- To enter a definition keeps a synopsis well formed, whether it fails or not. -/
theorem WellFormed.enter (h : synopsis.WellFormed settings.includePolicy) (definition : Definition) :
    ((definition.enter settings).on synopsis).2.WellFormed settings.includePolicy := by
  rw [definition.isAtomic_enter settings synopsis]
  cases houtline : definition.outline settings with
  | error diagnostic => exact h
  | ok outline => exact h.record houtline

theorem wellFormed_empty (policy : IncludePolicy) : ({} : Synopsis).WellFormed policy :=
  ⟨nofun, nofun, nofun⟩

end Synopsis

/-- Whatever definitions a session tries to enter, its synopsis is well formed in the end. -/
theorem session_wellFormed (settings : Settings) (definitions : List Definition) :
    (Change.attempts (Definition.enter settings) definitions {}).2.WellFormed settings.includePolicy := by
  have hstep : ∀ (definition : Definition) (synopsis : Synopsis), synopsis.WellFormed settings.includePolicy →
      ((definition.enter settings).on synopsis).2.WellFormed settings.includePolicy :=
    fun definition _ h => h.enter definition
  exact Change.snd_attempts_of_step hstep definitions (Synopsis.wellFormed_empty settings.includePolicy)

end Outlining
