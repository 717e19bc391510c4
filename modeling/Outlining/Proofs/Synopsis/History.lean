import Outlining.Proofs.Failure
import Outlining.Proofs.OrderedMap
import Outlining.Synopsis

/-!
# Synopses and the history of definitions

What a synopsis holds after any history of definitions, without going through the history step by step (`Summarizes`): every class and node at the place of its first definition with the outline of its last, and the parents of the classes that inherit now, in the order in which these began to inherit for good. A class that once stops inheriting loses its place among the parents, although it keeps its place among the classes. The class definitions alone decide about classes and parents, the node definitions alone about nodes.
-/

namespace Outlining

/-! ### Histories -/

namespace Definition

def asClass? : Definition → Option ClassDefinition
  | .ofClass definition => some definition
  | .ofNode _ => none

def asNode? : Definition → Option NodeDefinition
  | .ofClass _ => none
  | .ofNode definition => some definition

def classes (definitions : List Definition) : List ClassDefinition :=
  definitions.filterMap asClass?

def nodes (definitions : List Definition) : List NodeDefinition :=
  definitions.filterMap asNode?

/-- The definitions of one class with their positions among all definitions, latest first. -/
def history (name : String) (definitions : List Definition) : List (Nat × ClassDefinition) :=
  (definitions.zipIdx.filterMap fun (definition, position) =>
    (definition.asClass?.filter (·.name = name)).map (position, ·)).reverse

/-- The unbroken series of inheriting definitions of a class that ends with its last definition, latest first. -/
def inheriting (name : String) (definitions : List Definition) : List (Nat × ClassDefinition) :=
  (history name definitions).takeWhile (·.2.parent.isSome)

/-- The position from which on all definitions of a class inherit, if its last definition does. -/
def inheritsSince (name : String) (definitions : List Definition) : Option Nat :=
  (inheriting name definitions).getLast?.map Prod.fst

/-- Whether one class inherits since an earlier position than another. -/
def InheritsLonger (definitions : List Definition) (first second : String) : Prop :=
  ∃ position later, inheritsSince first definitions = some position ∧
    inheritsSince second definitions = some later ∧ position < later

end Definition

namespace ClassDefinition

/-- The parents after one more definition of a class. -/
def recordParent (parents : OrderedMap String) (definition : ClassDefinition) : OrderedMap String :=
  match definition.parent with
  | some parent => parents.insert definition.name parent
  | none => parents.erase definition.name

def recordParents (parents : OrderedMap String) (definitions : List ClassDefinition) : OrderedMap String :=
  definitions.foldl recordParent parents

end ClassDefinition

/-- The name of a class with its outline, if it can be outlined. -/
def ClassDefinition.outlined? (settings : Settings) (definition : ClassDefinition) : Option (String × Outline) :=
  (definition.outline settings).toOption.map (definition.name, ·)

def NodeDefinition.outlined? (settings : Settings) (definition : NodeDefinition) : Option (String × Outline) :=
  (definition.outline settings).toOption.map (definition.name, ·)

/-- What a synopsis holds after a history of definitions. -/
structure Synopsis.Summarizes (settings : Settings) (definitions : List Definition) (synopsis : Synopsis) : Prop where
  classes : synopsis.classes = OrderedMap.settled ((Definition.classes definitions).filterMap (·.outlined? settings))
  nodes : synopsis.nodes = OrderedMap.settled ((Definition.nodes definitions).filterMap (·.outlined? settings))
  parent : ∀ name, synopsis.parents.get? name = (Definition.history name definitions).head?.bind (·.2.parent)
  order : synopsis.parents.keys.Pairwise (Definition.InheritsLonger definitions)

/-! ### One definition at a time -/

namespace Synopsis

/-- The synopsis after definitions, each of its maps by itself. -/
def after (settings : Settings) (synopsis : Synopsis) (definitions : List Definition) : Synopsis where
  classes := synopsis.classes.insertMany ((Definition.classes definitions).filterMap (·.outlined? settings))
  nodes := synopsis.nodes.insertMany ((Definition.nodes definitions).filterMap (·.outlined? settings))
  parents := ClassDefinition.recordParents synopsis.parents (Definition.classes definitions)

end Synopsis

theorem Definition.outline_ofClass_eq_ok_iff {settings : Settings} {definition : ClassDefinition} {outline : Outline} :
    (Definition.ofClass definition).outline settings = .ok outline ↔ definition.outline settings = .ok outline :=
  mapError_eq_ok_iff

theorem Definition.outline_ofNode_eq_ok_iff {settings : Settings} {definition : NodeDefinition} {outline : Outline} :
    (Definition.ofNode definition).outline settings = .ok outline ↔ definition.outline settings = .ok outline :=
  mapError_eq_ok_iff

namespace Synopsis

/-- Recording the outline of one definition is one step of the definitions behind it. -/
theorem after_record {settings : Settings} {definition : Definition} {outline : Outline}
    (h : definition.outline settings = .ok outline) (synopsis : Synopsis) (rest : List Definition) :
    (synopsis.record definition outline).after settings rest = synopsis.after settings (definition :: rest) := by
  cases definition with
  | ofClass definition =>
    have houtlined : definition.outlined? settings = some (definition.name, outline) := by
      rw [ClassDefinition.outlined?, Definition.outline_ofClass_eq_ok_iff.1 h]
      rfl
    simp only [after, record, Definition.classes, Definition.nodes, List.filterMap_cons, Definition.asClass?,
      Definition.asNode?, houtlined]
    rfl
  | ofNode definition =>
    have houtlined : definition.outlined? settings = some (definition.name, outline) := by
      rw [NodeDefinition.outlined?, Definition.outline_ofNode_eq_ok_iff.1 h]
      rfl
    simp only [after, record, Definition.classes, Definition.nodes, List.filterMap_cons, Definition.asClass?,
      Definition.asNode?, houtlined]
    rfl

/-- Adding definitions fails only at a definition that cannot be outlined; otherwise each map depends on its own definitions only. -/
theorem addAll_eq_ok_iff {settings : Settings} {synopsis result : Synopsis} {definitions : List Definition} :
    addAll settings synopsis definitions = .ok result ↔
      (∀ definition ∈ definitions, ∃ outline, definition.outline settings = .ok outline) ∧
        result = synopsis.after settings definitions := by
  induction definitions generalizing synopsis with
  | nil =>
    rw [addAll, Except.ok.injEq]
    exact ⟨fun h => ⟨by simp, h.symm⟩, fun h => h.2.symm⟩
  | cons definition rest ih =>
    rw [addAll, add, List.forall_mem_cons]
    cases h : definition.outline settings with
    | error failure =>
      constructor
      · intro hok
        cases hok
      · rintro ⟨⟨⟨_, hok⟩, -⟩, -⟩
        cases hok
    | ok outline =>
      have hstep : addAll settings (synopsis.record definition outline) rest = .ok result ↔
          (∀ other ∈ rest, ∃ outline, other.outline settings = .ok outline) ∧
            result = synopsis.after settings (definition :: rest) := by
        rw [ih, after_record h]
      refine hstep.trans ?_
      simp

end Synopsis

/-! ### One definition more -/

namespace Definition

variable {definitions : List Definition}

theorem classes_concat_ofClass (definition : ClassDefinition) :
    classes (definitions ++ [.ofClass definition]) = classes definitions ++ [definition] := by
  simp [classes, asClass?]

theorem classes_concat_ofNode (definition : NodeDefinition) :
    classes (definitions ++ [.ofNode definition]) = classes definitions := by
  simp [classes, asClass?]

theorem history_concat_ofNode (name : String) (definition : NodeDefinition) :
    history name (definitions ++ [.ofNode definition]) = history name definitions := by
  simp [history, List.zipIdx_append, asClass?]

theorem history_concat_ofClass (name : String) (definition : ClassDefinition) :
    history name (definitions ++ [.ofClass definition]) =
      if definition.name = name then (definitions.length, definition) :: history name definitions
      else history name definitions := by
  by_cases hname : definition.name = name <;> simp [history, List.zipIdx_append, asClass?, hname]

theorem lt_of_mem_history {name : String} {entry : Nat × ClassDefinition} (h : entry ∈ history name definitions) :
    entry.1 < definitions.length := by
  simp only [history, List.mem_reverse, List.mem_filterMap] at h
  obtain ⟨⟨definition, position⟩, hmem, hentry⟩ := h
  obtain ⟨found, -, rfl⟩ := Option.map_eq_some_iff.1 hentry
  have hposition := List.snd_lt_of_mem_zipIdx hmem
  simpa using hposition

theorem lt_of_inheritsSince {name : String} {position : Nat} (h : inheritsSince name definitions = some position) :
    position < definitions.length := by
  obtain ⟨entry, hlast, rfl⟩ := Option.map_eq_some_iff.1 h
  have hmem : entry ∈ inheriting name definitions := List.mem_of_getLast? hlast
  exact lt_of_mem_history ((List.takeWhile_sublist _).subset hmem)

theorem inheritsSince_eq_none_iff {name : String} :
    inheritsSince name definitions = none ↔ (history name definitions).head?.bind (·.2.parent) = none := by
  rw [inheritsSince, inheriting, Option.map_eq_none_iff, List.getLast?_eq_none_iff]
  cases history name definitions with
  | nil => simp
  | cons entry earlier => cases h : entry.2.parent <;> simp [h]

theorem inheritsSince_concat_ofNode (name : String) (definition : NodeDefinition) :
    inheritsSince name (definitions ++ [.ofNode definition]) = inheritsSince name definitions := by
  rw [inheritsSince, inheriting, history_concat_ofNode]
  rfl

theorem inheritsSince_concat_of_ne {name : String} {definition : ClassDefinition} (h : definition.name ≠ name) :
    inheritsSince name (definitions ++ [.ofClass definition]) = inheritsSince name definitions := by
  rw [inheritsSince, inheriting, history_concat_ofClass, if_neg h]
  rfl

/-- A definition that inherits begins a series only where none is going on. -/
theorem inheritsSince_concat_of_some {definition : ClassDefinition} {parent : String}
    (h : definition.parent = some parent) :
    inheritsSince definition.name (definitions ++ [.ofClass definition]) =
      some ((inheritsSince definition.name definitions).getD definitions.length) := by
  have hinherits : definition.parent.isSome = true := by rw [h, Option.isSome_some]
  rw [inheritsSince, inheriting, history_concat_ofClass, if_pos rfl, List.takeWhile_cons, if_pos hinherits,
    List.getLast?_cons, inheritsSince, inheriting]
  cases ((history definition.name definitions).takeWhile (·.2.parent.isSome)).getLast? <;> rfl

/-- A class that inherits has inherited as long before one more definition that inherits. -/
theorem inheritsSince_concat_of_eq_some {definition : ClassDefinition} {parent : String}
    (hparent : definition.parent = some parent) {name : String} {position : Nat}
    (h : inheritsSince name definitions = some position) :
    inheritsSince name (definitions ++ [.ofClass definition]) = some position := by
  by_cases hname : definition.name = name
  · rw [← hname, inheritsSince_concat_of_some hparent, hname, h]
    rfl
  · rw [inheritsSince_concat_of_ne hname, h]

theorem InheritsLonger.of_eq_some {others : List Definition} {first second : String}
    (h : InheritsLonger definitions first second)
    (hfirst : ∀ position, inheritsSince first definitions = some position → inheritsSince first others = some position)
    (hsecond : ∀ position, inheritsSince second definitions = some position → inheritsSince second others = some position) :
    InheritsLonger others first second := by
  obtain ⟨position, later, hposition, hlater, hlt⟩ := h
  exact ⟨position, later, hfirst position hposition, hsecond later hlater, hlt⟩

end Definition

/-! ### Parents -/

namespace Definition

open ClassDefinition

/-- The parents of the classes that inherit after a history of definitions. -/
def parents (definitions : List Definition) : OrderedMap String :=
  recordParents ∅ (classes definitions)

variable {definitions : List Definition}

theorem parents_concat_ofNode (definition : NodeDefinition) :
    parents (definitions ++ [.ofNode definition]) = parents definitions := by
  rw [parents, classes_concat_ofNode]
  rfl

theorem parents_concat_ofClass (definition : ClassDefinition) :
    parents (definitions ++ [.ofClass definition]) = recordParent (parents definitions) definition := by
  rw [parents, classes_concat_ofClass, recordParents, List.foldl_append]
  rfl

theorem get?_recordParent (parents : OrderedMap String) (definition : ClassDefinition) (name : String) :
    (recordParent parents definition).get? name =
      if name = definition.name then definition.parent else parents.get? name := by
  unfold recordParent
  cases definition.parent with
  | none => exact OrderedMap.get?_erase parents definition.name name
  | some parent => exact OrderedMap.get?_insert parents definition.name parent name

theorem get?_parents (name : String) :
    (parents definitions).get? name = (history name definitions).head?.bind (·.2.parent) := by
  induction definitions using List.reverseRecOn with
  | nil => rfl
  | append_singleton definitions definition ih =>
    cases definition with
    | ofNode definition => rw [parents_concat_ofNode, history_concat_ofNode, ih]
    | ofClass definition =>
      rw [parents_concat_ofClass, get?_recordParent, history_concat_ofClass, ih]
      by_cases hname : definition.name = name
      · rw [if_pos hname.symm, if_pos hname]
        rfl
      · rw [if_neg (Ne.symm hname), if_neg hname]

theorem mem_keys_parents {name : String} : name ∈ (parents definitions).keys ↔ inheritsSince name definitions ≠ none := by
  rw [Ne, inheritsSince_eq_none_iff, ← get?_parents, OrderedMap.get?_eq_none_iff, not_not]

/-- The parents stand in the order in which their classes began to inherit for good. -/
theorem pairwise_keys_parents : (parents definitions).keys.Pairwise (InheritsLonger definitions) := by
  induction definitions using List.reverseRecOn with
  | nil => exact .nil
  | append_singleton definitions definition ih =>
    cases definition with
    | ofNode definition =>
      rw [parents_concat_ofNode]
      refine ih.imp fun h => h.of_eq_some ?_ ?_
      · exact fun position hposition => (inheritsSince_concat_ofNode _ definition).trans hposition
      · exact fun position hposition => (inheritsSince_concat_ofNode _ definition).trans hposition
    | ofClass definition =>
      rw [parents_concat_ofClass, recordParent]
      cases hparent : definition.parent with
      | none =>
        simp only [OrderedMap.keys_erase]
        refine (ih.filter _).imp_of_mem ?_
        intro first second hfirst hsecond h
        have hfirstNe : definition.name ≠ first := by simpa using Ne.symm (bne_iff_ne.1 (List.mem_filter.1 hfirst).2)
        have hsecondNe : definition.name ≠ second := by simpa using Ne.symm (bne_iff_ne.1 (List.mem_filter.1 hsecond).2)
        refine h.of_eq_some ?_ ?_
        · exact fun position hposition => (inheritsSince_concat_of_ne hfirstNe).trans hposition
        · exact fun position hposition => (inheritsSince_concat_of_ne hsecondNe).trans hposition
      | some parent =>
        have hold : (parents definitions).keys.Pairwise (InheritsLonger (definitions ++ [.ofClass definition])) := by
          refine ih.imp fun h => h.of_eq_some ?_ ?_
          · exact fun position hposition => inheritsSince_concat_of_eq_some hparent hposition
          · exact fun position hposition => inheritsSince_concat_of_eq_some hparent hposition
        simp only [OrderedMap.keys_insert]
        by_cases hmem : definition.name ∈ (parents definitions).keys
        · rw [if_pos hmem]
          exact hold
        · -- the class begins to inherit here, later than every class that inherits already
          rw [if_neg hmem, List.pairwise_append]
          refine ⟨hold, List.pairwise_singleton _ _, ?_⟩
          intro first hfirst last hlast
          rw [List.mem_singleton.1 hlast]
          obtain ⟨position, hposition⟩ := Option.ne_none_iff_exists'.1 (mem_keys_parents.1 hfirst)
          have hnone : inheritsSince definition.name definitions = none := by
            simpa [mem_keys_parents] using hmem
          refine ⟨position, definitions.length, inheritsSince_concat_of_eq_some hparent hposition, ?_,
            lt_of_inheritsSince hposition⟩
          rw [inheritsSince_concat_of_some hparent, hnone]
          rfl

theorem InheritsLonger.asymm {first second : String} (h : InheritsLonger definitions first second) :
    ¬InheritsLonger definitions second first := by
  rintro ⟨_, _, hsecond, hfirst, hgt⟩
  obtain ⟨position, later, hposition, hlater, hlt⟩ := h
  cases hposition.symm.trans hfirst
  cases hlater.symm.trans hsecond
  omega

theorem forall_outlined_iff {settings : Settings} :
    (∀ definition ∈ definitions, ∃ outline, definition.outline settings = .ok outline) ↔
      (∀ definition ∈ classes definitions, ∃ outline, definition.outline settings = .ok outline) ∧
        ∀ definition ∈ nodes definitions, ∃ outline, definition.outline settings = .ok outline := by
  induction definitions with
  | nil => simp [classes, nodes]
  | cons definition rest ih =>
    rw [List.forall_mem_cons, ih]
    cases definition with
    | ofClass definition =>
      simp only [outline_ofClass_eq_ok_iff, classes, nodes, List.filterMap_cons, asClass?, asNode?,
        List.forall_mem_cons, and_assoc]
    | ofNode definition =>
      simp only [outline_ofNode_eq_ok_iff, classes, nodes, List.filterMap_cons, asClass?, asNode?,
        List.forall_mem_cons, and_left_comm]

end Definition

/-! ### The synopsis of a history -/

theorem OrderedMap.eq_of_get?_of_pairwise {α : Type} {first second : OrderedMap α} {before : String → String → Prop}
    (hvalues : ∀ name, first.get? name = second.get? name) (hasymm : ∀ name other, before name other → ¬before other name)
    (hfirst : first.keys.Pairwise before) (hsecond : second.keys.Pairwise before) : first = second := by
  refine eq_of_keys_of_get? ?_ hvalues
  have hmem : ∀ name, name ∈ first.keys ↔ name ∈ second.keys := by
    intro name
    rw [← not_iff_not, ← get?_eq_none_iff, ← get?_eq_none_iff, hvalues]
  refine List.Perm.eq_of_pairwise ?_ hfirst hsecond ((List.perm_ext_iff_of_nodup first.nodup_keys second.nodup_keys).2 hmem)
  intro name other _ _ h hother
  exact absurd hother (hasymm name other h)

namespace Synopsis

theorem summarizes_after (settings : Settings) (definitions : List Definition) :
    (after settings {} definitions).Summarizes settings definitions where
  classes := OrderedMap.ofList_eq_settled _
  nodes := OrderedMap.ofList_eq_settled _
  parent _ := Definition.get?_parents _
  order := Definition.pairwise_keys_parents

/-- There is only one synopsis that summarizes a history. -/
theorem Summarizes.eq {settings : Settings} {definitions : List Definition} {first second : Synopsis}
    (hfirst : first.Summarizes settings definitions) (hsecond : second.Summarizes settings definitions) :
    first = second := by
  have hparents : first.parents = second.parents := by
    refine OrderedMap.eq_of_get?_of_pairwise ?_ (fun _ _ h => h.asymm) hfirst.order hsecond.order
    intro name
    rw [hfirst.parent, hsecond.parent]
  have hclasses := hfirst.classes.trans hsecond.classes.symm
  have hnodes := hfirst.nodes.trans hsecond.nodes.symm
  cases first
  cases second
  cases hclasses
  cases hnodes
  cases hparents
  rfl

theorem after_congr {settings : Settings} {definitions reordered : List Definition} (synopsis : Synopsis)
    (hclasses : Definition.classes reordered = Definition.classes definitions)
    (hnodes : Definition.nodes reordered = Definition.nodes definitions) :
    synopsis.after settings reordered = synopsis.after settings definitions := by
  rw [after, hclasses, hnodes]
  rfl

end Synopsis

/-- A history of definitions has a synopsis exactly if each of them can be outlined, and it is the one that summarizes the history; how the definitions of nodes stand between those of classes makes no difference. -/
theorem ofDefinitions_eq_ok_iff (settings : Settings) (definitions : List Definition) (synopsis : Synopsis) :
    (Synopsis.ofDefinitions settings definitions = .ok synopsis ↔
      (∀ definition ∈ definitions, ∃ outline, definition.outline settings = .ok outline) ∧
        synopsis.Summarizes settings definitions) ∧
      ∀ reordered : List Definition, Definition.classes reordered = Definition.classes definitions →
        Definition.nodes reordered = Definition.nodes definitions →
          Synopsis.ofDefinitions settings definitions = .ok synopsis →
            Synopsis.ofDefinitions settings reordered = .ok synopsis := by
  constructor
  · rw [Synopsis.ofDefinitions, Synopsis.addAll_eq_ok_iff]
    refine and_congr_right fun _ => ⟨?_, ?_⟩
    · rintro rfl
      exact Synopsis.summarizes_after settings definitions
    · intro h
      exact h.eq (Synopsis.summarizes_after settings definitions)
  · intro reordered hclasses hnodes h
    rw [Synopsis.ofDefinitions, Synopsis.addAll_eq_ok_iff] at h ⊢
    obtain ⟨houtlined, rfl⟩ := h
    refine ⟨?_, (Synopsis.after_congr {} hclasses hnodes).symm⟩
    rw [Definition.forall_outlined_iff, hclasses, hnodes]
    exact Definition.forall_outlined_iff.1 houtlined

/-- A class that stops inheriting and begins again, between another that inherits throughout and nodes of its name. -/
def interruptedHistory : List Definition :=
  [.ofClass ⟨"ntp", some "base", [], []⟩, .ofNode ⟨"ntp", none⟩, .ofClass ⟨"web", some "base", [], []⟩,
    .ofClass ⟨"ntp", none, [], [.call "include" [.word "time"]]⟩, .ofNode ⟨"db", none⟩,
    .ofClass ⟨"ntp", some "time", [], []⟩, .ofNode ⟨"ntp", some [.call "include" [.word "ntp"]]⟩,
    .ofClass ⟨"ntp", some "base", [], []⟩]

/-- The same definitions with those of nodes in front. -/
def nodesFirst : List Definition :=
  (Definition.nodes interruptedHistory).map .ofNode ++ (Definition.classes interruptedHistory).map .ofClass

theorem summarizes_interruptedHistory : ∃ synopsis,
    Synopsis.ofDefinitions {} interruptedHistory = .ok synopsis ∧ synopsis.Summarizes {} interruptedHistory ∧
      Synopsis.ofDefinitions {} nodesFirst = .ok synopsis ∧ synopsis.classes.keys = ["ntp", "web"] ∧
      synopsis.nodes.keys = ["ntp", "db"] ∧ synopsis.parents.entries = [("web", "base"), ("ntp", "base")] := by
  refine ⟨_, rfl, ?_, ?_, rfl, rfl, rfl⟩
  · exact ((ofDefinitions_eq_ok_iff {} interruptedHistory _).1.1 rfl).2
  · exact (ofDefinitions_eq_ok_iff {} interruptedHistory _).2 nodesFirst rfl rfl rfl

end Outlining
