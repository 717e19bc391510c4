import Outlining.Proofs.Export.Injectivity
import Outlining.Proofs.Json.Indentation

/-!
# Exports of single classes and nodes

The export of one class or node is the piece of the whole export that stands under its name, moved to the left. A class has an export exactly if the synopsis has the class, and the export of the synopsis is the object of all these pieces, each with four spaces behind every line break, in the order of the maps (`exported_eq_objectText`).
-/

namespace Outlining

open Json (indented objectText Layout)

namespace Synopsis

/-! ### One of several outlines -/

/-- The export of one outline by its name; `kind` says what is missing if there is none. -/
def exportFrom (kind : String) (outlines : OrderedMap Outline) (name : String) : Except Diagnostic String :=
  match outlines.get? name with
  | some outline => .ok outline.toJson.pretty
  | none => .error (unknownName kind name)

theorem exportedClass_eq_exportFrom (synopsis : Synopsis) : synopsis.exportedClass = exportFrom "class" synopsis.classes :=
  rfl

theorem exportedNode_eq_exportFrom (synopsis : Synopsis) : synopsis.exportedNode = exportFrom "node" synopsis.nodes :=
  rfl

variable {kind name : String} {outlines : OrderedMap Outline}

theorem exists_exportFrom_eq_ok_iff : (∃ text, exportFrom kind outlines name = .ok text) ↔ name ∈ outlines.keys := by
  have hnone : outlines.get? name = none ↔ name ∉ outlines.keys := OrderedMap.get?_eq_none_iff
  rw [exportFrom]
  cases hget : outlines.get? name with
  | none => simpa using hnone.1 hget
  | some outline =>
    have hmem : name ∈ outlines.keys := by
      by_contra hmem
      rw [hnone.2 hmem] at hget
      cases hget
    exact ⟨fun _ => hmem, fun _ => ⟨_, rfl⟩⟩

theorem exportFrom_eq_error_iff {diagnostic : Diagnostic} :
    exportFrom kind outlines name = .error diagnostic ↔ name ∉ outlines.keys ∧ diagnostic = unknownName kind name := by
  rw [← OrderedMap.get?_eq_none_iff, exportFrom]
  cases outlines.get? name <;> simp [eq_comm]

/-! ### Pieces of the whole export -/

/-- A member of the whole export is the export of its name, moved to the right by the two containers around it. -/
def IsPiece (exportOne : String → Except Diagnostic String) (name : String) (member : String × List Char) : Prop :=
  ∃ text, exportOne name = .ok text ∧ member = (name, indented 4 text.toList)

/-- A map of outlines as it stands in the whole export. -/
def outlinesText (outlines : OrderedMap Outline) : List (String × List Char) :=
  outlines.entries.map fun entry => (entry.1, Layout.pretty.writeOnto 2 entry.2.toJson [])

theorem forall₂_isPiece (kind : String) (outlines : OrderedMap Outline) :
    List.Forall₂ (IsPiece (exportFrom kind outlines)) outlines.keys (outlinesText outlines) := by
  rw [OrderedMap.keys, outlinesText, List.forall₂_map_left_iff, List.forall₂_map_right_iff, List.forall₂_same]
  intro entry hentry
  refine ⟨entry.2.toJson.pretty, ?_, ?_⟩
  · rw [exportFrom, OrderedMap.get?_of_mem hentry]
  · rw [entry.2.wellFormed_toJson.writeOnto_eq_indented]

theorem writeOnto_toJson {α : Type} (valueToJson : α → Json String) (map : OrderedMap α) (depth : Nat) :
    Layout.pretty.writeOnto depth (map.toJson valueToJson) [] =
      objectText depth (map.entries.map fun entry =>
        (entry.1, Layout.pretty.writeOnto (depth + 1) (valueToJson entry.2) [])) := by
  rw [OrderedMap.toJson, Json.writeOnto_object, List.map_map]
  rfl

theorem toList_exported (synopsis : Synopsis) :
    synopsis.exported.toList =
      objectText 0 ([("classes", objectText 1 (outlinesText synopsis.classes)),
        ("nodes", objectText 1 (outlinesText synopsis.nodes))] ++
        if synopsis.parents.isEmpty then []
        else [("parents", objectText 1 (synopsis.parents.entries.map fun entry => (entry.1, Json.quoted entry.2)))]) := by
  have houtlines (outlines : OrderedMap Outline) :
      Layout.pretty.writeOnto 1 (outlines.toJson Outline.toJson) [] = objectText 1 (outlinesText outlines) :=
    writeOnto_toJson Outline.toJson outlines 1
  have hparents : Layout.pretty.writeOnto 1 (synopsis.parents.toJson .string) [] =
      objectText 1 (synopsis.parents.entries.map fun entry => (entry.1, Json.quoted entry.2)) := by
    rw [writeOnto_toJson]
    simp only [Layout.writeOnto, Json.writtenLeaf, List.append_nil]
  rw [exported, Json.toList_pretty, toJson, Json.writeOnto_object, ← houtlines, ← houtlines, ← hparents]
  cases synopsis.parents.isEmpty <;> rfl

end Synopsis

open Synopsis (IsPiece)

/-- A class or a node has an export exactly if it is there, and otherwise the report says so. The whole export is the object of these exports, in the order of the maps, each with four spaces behind every line break; parents stand behind them only if some class inherits. -/
theorem exported_eq_objectText (synopsis : Synopsis) :
    (∀ name, (∃ text, synopsis.exportedClass name = .ok text) ↔ name ∈ synopsis.classes.keys) ∧
    (∀ name diagnostic, synopsis.exportedClass name = .error diagnostic ↔ name ∉ synopsis.classes.keys ∧
      diagnostic = ⟨.runtime, "No class named '" ++ name ++ "'",
        some "Names are matched exactly, including any '::' prefix", some 501⟩) ∧
    (∀ name, (∃ text, synopsis.exportedNode name = .ok text) ↔ name ∈ synopsis.nodes.keys) ∧
    (∀ name diagnostic, synopsis.exportedNode name = .error diagnostic ↔ name ∉ synopsis.nodes.keys ∧
      diagnostic = ⟨.runtime, "No node named '" ++ name ++ "'",
        some "Names are matched exactly, including any '::' prefix", some 501⟩) ∧
    ∃ classes nodes, List.Forall₂ (IsPiece synopsis.exportedClass) synopsis.classes.keys classes ∧
      List.Forall₂ (IsPiece synopsis.exportedNode) synopsis.nodes.keys nodes ∧
      synopsis.exported.toList = objectText 0 ([("classes", objectText 1 classes), ("nodes", objectText 1 nodes)] ++
        if synopsis.parents.isEmpty then []
        else [("parents", objectText 1 (synopsis.parents.entries.map fun entry => (entry.1, Json.quoted entry.2)))]) := by
  rw [Synopsis.exportedClass_eq_exportFrom, Synopsis.exportedNode_eq_exportFrom]
  refine ⟨?_, ?_, ?_, ?_, Synopsis.outlinesText synopsis.classes, Synopsis.outlinesText synopsis.nodes, ?_, ?_, ?_⟩
  · exact fun _ => Synopsis.exists_exportFrom_eq_ok_iff
  · exact fun _ _ => Synopsis.exportFrom_eq_error_iff
  · exact fun _ => Synopsis.exists_exportFrom_eq_ok_iff
  · exact fun _ _ => Synopsis.exportFrom_eq_error_iff
  · exact Synopsis.forall₂_isPiece "class" synopsis.classes
  · exact Synopsis.forall₂_isPiece "node" synopsis.nodes
  · exact synopsis.toList_exported

end Outlining
