import Outlining.Proofs.Change
import Outlining.Synopsis.InPlace

/-!
# Definitions entered one by one

A definition is outlined before any map of the synopsis is changed, and the changes that follow cannot fail, so a definition is recorded as a whole or not at all (`Definition.isAtomic_enter`). A synopsis that goes on growing after failures is therefore that of the definitions that could be entered, and the same definitions without going on fail as the first attempt that fails (`ofDefinitions_succeeded`).
-/

namespace Outlining

open Change

theorem Synopsis.isAtomic_inheritInPlace (name : String) (parent : Option String) :
    IsAtomic (inheritInPlace name parent) (.ok fun synopsis =>
      { synopsis with
        parents := match parent with
          | some parent => synopsis.parents.insert name parent
          | none => synopsis.parents.erase name }) := by
  cases parent with
  | none => exact isAtomic_modify _
  | some parent => exact isAtomic_modify _

theorem Definition.isAtomic_enter (settings : Settings) (definition : Definition) :
    IsAtomic (definition.enter settings)
      ((fun outline synopsis => Synopsis.record synopsis definition outline) <$> definition.outline settings) := by
  rw [Definition.enter, map_eq_pure_bind]
  refine isAtomic_lift_bind fun outline => ?_
  cases definition with
  | ofClass definition =>
    have hparent := Synopsis.isAtomic_inheritInPlace definition.name definition.parent
    exact hparent.bind_ok (isAtomic_modify _)
  | ofNode definition => exact isAtomic_modify _

namespace Synopsis

theorem addAll_eq_appliedTo {settings : Settings} (synopsis : Synopsis) (definitions : List Definition) :
    addAll settings synopsis definitions = (inTurn (Definition.enter settings) definitions).appliedTo synopsis := by
  induction definitions generalizing synopsis with
  | nil => rfl
  | cons first rest ih =>
    rw [addAll, add, appliedTo_inTurn_cons, first.isAtomic_enter settings synopsis]
    cases first.outline settings with
    | error diagnostic => rfl
    | ok outline => exact ih (synopsis.record first outline)

end Synopsis

/-- A definition that cannot be entered leaves the synopsis as it was; going on after failures, the synopsis in the end is that of the other definitions. Without going on the same definitions fail exactly if some attempt does, and then as the first that does. -/
theorem ofDefinitions_succeeded (settings : Settings) :
    (∀ definition : Definition, (definition.enter settings).LeavesNoTrace) ∧
    ∀ definitions,
      Synopsis.ofDefinitions settings (succeeded (attempts (Definition.enter settings) definitions {}).1) =
        .ok (attempts (Definition.enter settings) definitions {}).2 ∧
      ((∃ diagnostic, Synopsis.ofDefinitions settings definitions = .error diagnostic) ↔
        ∃ attempt ∈ (attempts (Definition.enter settings) definitions {}).1, ∃ diagnostic,
          attempt.2 = .error diagnostic) ∧
      ∀ diagnostic, Synopsis.ofDefinitions settings definitions = .error diagnostic ↔
        ∃ before definition after,
          (attempts (Definition.enter settings) definitions {}).1 = before ++ (definition, .error diagnostic) :: after ∧
            ∀ attempt ∈ before, attempt.2 = .ok () := by
  have hnoTrace : ∀ definition : Definition, (definition.enter settings).LeavesNoTrace :=
    fun definition => (definition.isAtomic_enter settings).leavesNoTrace
  refine ⟨hnoTrace, fun definitions => ?_⟩
  simp only [Synopsis.ofDefinitions, Synopsis.addAll_eq_appliedTo]
  refine ⟨?_, ?_, ?_⟩
  · exact appliedTo_succeeded hnoTrace definitions {}
  · exact exists_appliedTo_eq_error_iff
  · intro diagnostic
    exact appliedTo_eq_error_iff

/-- A class that would stop inheriting and another that would begin to, if their bodies were complete, with nodes between. -/
def faultyHistory : List Definition :=
  [.ofClass ⟨"ntp", some "base", [], []⟩, .ofClass ⟨"ntp", none, [], [.assign "mode" none, .override (.word "File") none]⟩,
    .ofNode ⟨"db", some [.typeDefaults "File" none]⟩, .ofNode ⟨"db", none⟩, .ofClass ⟨"web", none, [], []⟩,
    .ofClass ⟨"web", some "base", [], [.declare "file" [⟨none, none⟩]]⟩, .ofClass ⟨"ntp", some "time", [], []⟩]

theorem ofDefinitions_succeeded_faultyHistory :
    let attempted := attempts (Definition.enter {}) faultyHistory {}
    let refused := Definition.ofClass ⟨"ntp", none, [], [.assign "mode" none, .override (.word "File") none]⟩
    let inherited : Synopsis := { parents := OrderedMap.singleton "ntp" "base" }
    ((refused.enter {}).on inherited).2 = inherited ∧
      attempted.1.map (fun attempt => attempt.2.isOk) = [true, false, false, true, true, false, true] ∧
      Synopsis.ofDefinitions {} [.ofClass ⟨"ntp", some "base", [], []⟩, .ofNode ⟨"db", none⟩,
        .ofClass ⟨"web", none, [], []⟩, .ofClass ⟨"ntp", some "time", [], []⟩] = .ok attempted.2 ∧
      attempted.2.classes.keys = ["ntp", "web"] ∧ attempted.2.parents.entries = [("ntp", "time")] ∧
      Synopsis.ofDefinitions {} faultyHistory =
        .error (Diagnostic.ofViolation (some "ntp") (.overrideWithoutParameters (.word "File"))) := by
  obtain ⟨hnoTrace, hseries⟩ := ofDefinitions_succeeded {}
  obtain ⟨hsucceeded, -, hfirst⟩ := hseries faultyHistory
  refine ⟨hnoTrace _ _ _ rfl, rfl, hsucceeded, rfl, rfl, (hfirst _).2 ⟨[(_, .ok ())], _, _, rfl, ?_⟩⟩
  exact List.forall_mem_singleton.2 rfl

end Outlining
