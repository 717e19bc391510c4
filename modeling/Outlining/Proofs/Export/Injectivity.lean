import Outlining.Export
import Outlining.Proofs.Json.Reading
import Outlining.Proofs.OrderedMap

/-!
# Exports lose nothing

Different synopses have different exports, and so have different outlines, in either layout; the order of every map and list counts (`exports_injective`). A text is read back as the JSON value it was written from, so what is left to show is that different data have different JSON values. The member that names the kind of a block keeps the kinds apart (`Block.toJson_eq`), and blocks of one kind differ in what stands under that name.
-/

namespace Outlining

/-! ### Maps, values and resources -/

theorem OrderedMap.toJson_injective {α : Type} {valueToJson : α → Json String}
    (hvalue : Function.Injective valueToJson) : Function.Injective (OrderedMap.toJson valueToJson) := by
  intro first second h
  have hentry : Function.Injective fun entry : String × α => (entry.1, valueToJson entry.2) := by
    rintro ⟨name, value⟩ ⟨other, next⟩ hpair
    rw [Prod.mk.injEq] at hpair
    exact Prod.ext hpair.1 (hvalue hpair.2)
  apply eq_of_entries
  exact List.map_injective_iff.2 hentry (Json.object.inj h)

theorem OrderedMap.wellFormed_toJson {α : Type} {valueToJson : α → Json String}
    (hvalue : ∀ value, (valueToJson value).WellFormed) (map : OrderedMap α) : (map.toJson valueToJson).WellFormed := by
  refine .object ?_ ?_
  · rw [List.map_map]
    exact map.keys_nodup
  · intro member hmember
    obtain ⟨entry, -, rfl⟩ := List.mem_map.1 hmember
    exact hvalue entry.2

theorem Json.string_injective : Function.Injective (Json.string : String → Json String) :=
  fun _ _ h => Json.string.inj h

theorem Json.ofTexts_injective : Function.Injective (Json.ofTexts : List String → Json String) :=
  fun _ _ h => List.map_injective_iff.2 Json.string_injective (Json.array.inj h)

theorem Value.toJson_injective : Function.Injective Value.toJson := by
  intro first second h
  cases first <;> cases second <;> first
    | rfl
    | exact congrArg Value.text (Json.string.inj h)
    | exact congrArg Value.list (Json.ofTexts_injective h)
    | cases h

theorem Value.wellFormed_toJson (value : Value) : value.toJson.WellFormed := by
  cases value with
  | absent => exact .null
  | text content => exact .string content
  | list items => exact Json.wellFormed_ofTexts items

theorem Parameters.toJson_injective : Function.Injective Parameters.toJson :=
  OrderedMap.toJson_injective Value.toJson_injective

theorem Parameters.wellFormed_toJson (parameters : Parameters) : (Parameters.toJson parameters).WellFormed :=
  OrderedMap.wellFormed_toJson Value.wellFormed_toJson parameters

theorem Json.wellFormed_member {value : Json String} (h : value.WellFormed) (name : String) :
    (Json.object [(name, value)]).WellFormed := by
  refine .object (by simp) ?_
  intro member hmember
  rw [List.mem_singleton.1 hmember]
  exact h

theorem ResourceSet.toJson_injective : Function.Injective ResourceSet.toJson := by
  rintro ⟨type, resources⟩ ⟨other, more⟩ h
  simp only [toJson, Json.object.injEq, List.cons.injEq, Prod.mk.injEq, and_true] at h
  obtain ⟨rfl, hresources⟩ := h
  rw [OrderedMap.toJson_injective Parameters.toJson_injective hresources]

theorem ResourceSet.wellFormed_toJson (set : ResourceSet) : set.toJson.WellFormed :=
  Json.wellFormed_member (OrderedMap.wellFormed_toJson Parameters.wellFormed_toJson set.resources) set.type

/-! ### Blocks -/

/-- The member name of the blocks of a kind. -/
def Block.Kind.name : Kind → String
  | .arguments => "arguments"
  | .variables => "variables"
  | .resources => "resources"
  | .overrides => "resource_overrides"
  | .typeDefaults => "resource_defaults"
  | .choice => "case"
  | .conditional => "if"
  | .includes => "includes"

theorem Block.Kind.name_injective : Function.Injective Block.Kind.name := by
  intro first second h
  cases first <;> cases second <;> first
    | rfl
    | exact absurd h (by decide)

/-- What stands under the name of a block's kind. -/
def Block.contentToJson : Block → Json String
  | .arguments defaults => defaults.toJson .string
  | .variables values => values.toJson Value.toJson
  | .resources sets => .array (sets.map ResourceSet.toJson)
  | .overrides targets => targets.toJson Parameters.toJson
  | .typeDefaults types => types.toJson Parameters.toJson
  | .choice subject options => .object [("subject", .string subject), ("options", .array (Branch.toJsons options))]
  | .conditional condition consequence none =>
    .object [("condition", .string condition), ("then", .array (Block.toJsons consequence))]
  | .conditional condition consequence (some alternative) =>
    .object [("condition", .string condition), ("then", .array (Block.toJsons consequence)),
      ("else", .array (Block.toJsons alternative))]
  | .includes classes => .ofTexts classes

theorem Block.toJson_eq (block : Block) : block.toJson = .object [(block.kind.name, block.contentToJson)] := by
  cases block with
  | conditional condition consequence alternative => cases alternative <;> rfl
  | _ => rfl

/-- The name of the one member tells the kinds of blocks apart. -/
theorem Block.eq_of_toJson_eq {first second : Block} (h : first.toJson = second.toJson) :
    first.kind = second.kind ∧ first.contentToJson = second.contentToJson := by
  rw [Block.toJson_eq, Block.toJson_eq] at h
  simp only [Json.object.injEq, List.cons.injEq, Prod.mk.injEq, and_true] at h
  exact ⟨Block.Kind.name_injective h.1, h.2⟩

mutual

theorem Block.eq_of_toJson (first second : Block) (h : first.toJson = second.toJson) : first = second := by
  obtain ⟨hkind, hcontent⟩ := Block.eq_of_toJson_eq h
  cases first with
  | arguments defaults =>
    cases second <;> cases hkind
    rw [OrderedMap.toJson_injective Json.string_injective hcontent]
  | «variables» values =>
    cases second <;> cases hkind
    rw [OrderedMap.toJson_injective Value.toJson_injective hcontent]
  | resources sets =>
    cases second <;> cases hkind
    rw [List.map_injective_iff.2 ResourceSet.toJson_injective (Json.array.inj hcontent)]
  | overrides targets =>
    cases second <;> cases hkind
    rw [OrderedMap.toJson_injective Parameters.toJson_injective hcontent]
  | typeDefaults types =>
    cases second <;> cases hkind
    rw [OrderedMap.toJson_injective Parameters.toJson_injective hcontent]
  | choice subject options =>
    cases second <;> cases hkind
    simp only [Block.contentToJson, Json.object.injEq, Json.string.injEq, Json.array.injEq, List.cons.injEq,
      Prod.mk.injEq, true_and, and_true] at hcontent
    rw [hcontent.1, Branch.eq_of_toJsons options _ hcontent.2]
  | conditional condition consequence alternative =>
    cases second <;> cases hkind
    rename_i other more next
    cases alternative <;> cases next <;>
      simp only [Block.contentToJson, Json.object.injEq, Json.string.injEq, Json.array.injEq, List.cons.injEq,
        Prod.mk.injEq, true_and, and_true, reduceCtorEq, and_false] at hcontent
    · rw [hcontent.1, Block.eq_of_toJsons consequence _ hcontent.2]
    · rename_i alternative _
      rw [hcontent.1, Block.eq_of_toJsons consequence _ hcontent.2.1, Block.eq_of_toJsons alternative _ hcontent.2.2]
  | includes classes =>
    cases second <;> cases hkind
    rw [Json.ofTexts_injective hcontent]
termination_by sizeOf first

theorem Block.eq_of_toJsons (first second : List Block) (h : Block.toJsons first = Block.toJsons second) :
    first = second := by
  match first, second with
  | [], [] => rfl
  | [], _ :: _ => simp [Block.toJsons] at h
  | _ :: _, [] => simp [Block.toJsons] at h
  | block :: rest, other :: more =>
    simp only [Block.toJsons, List.cons.injEq] at h
    rw [Block.eq_of_toJson block other h.1, Block.eq_of_toJsons rest more h.2]
termination_by sizeOf first

theorem Branch.eq_of_toJsons (first second : List Branch) (h : Branch.toJsons first = Branch.toJsons second) :
    first = second := by
  match first, second with
  | [], [] => rfl
  | [], .mk _ _ :: _ => simp [Branch.toJsons] at h
  | .mk _ _ :: _, [] => simp [Branch.toJsons] at h
  | .mk label outline :: rest, .mk otherLabel otherOutline :: more =>
    simp only [Branch.toJsons, Json.object.injEq, Json.array.injEq, List.cons.injEq, Prod.mk.injEq, and_true] at h
    rw [h.1.1, Block.eq_of_toJsons outline otherOutline h.1.2, Branch.eq_of_toJsons rest more h.2]
termination_by sizeOf first

end

mutual

theorem Block.wellFormed_toJson (block : Block) : block.toJson.WellFormed := by
  rw [Block.toJson_eq]
  apply Json.wellFormed_member
  cases block with
  | arguments defaults => exact OrderedMap.wellFormed_toJson .string defaults
  | «variables» values => exact OrderedMap.wellFormed_toJson Value.wellFormed_toJson values
  | resources sets =>
    refine .array ?_
    intro item hitem
    obtain ⟨set, -, rfl⟩ := List.mem_map.1 hitem
    exact set.wellFormed_toJson
  | overrides targets => exact OrderedMap.wellFormed_toJson Parameters.wellFormed_toJson targets
  | typeDefaults types => exact OrderedMap.wellFormed_toJson Parameters.wellFormed_toJson types
  | choice subject options =>
    have hoptions := Branch.wellFormed_toJsons options
    exact .object (by simp) (by simp [Json.WellFormed.string, Json.WellFormed.array hoptions])
  | conditional condition consequence alternative =>
    have hconsequence := Block.wellFormed_toJsons consequence
    cases alternative with
    | none => exact .object (by simp) (by simp [Json.WellFormed.string, Json.WellFormed.array hconsequence])
    | some alternative =>
      have halternative := Block.wellFormed_toJsons alternative
      exact .object (by simp)
        (by simp [Json.WellFormed.string, Json.WellFormed.array hconsequence, Json.WellFormed.array halternative])
  | includes classes => exact Json.wellFormed_ofTexts classes
termination_by sizeOf block

theorem Block.wellFormed_toJsons (blocks : List Block) : ∀ item ∈ Block.toJsons blocks, item.WellFormed := by
  match blocks with
  | [] => simp [Block.toJsons]
  | block :: rest =>
    rw [Block.toJsons, List.forall_mem_cons]
    exact ⟨Block.wellFormed_toJson block, Block.wellFormed_toJsons rest⟩
termination_by sizeOf blocks

theorem Branch.wellFormed_toJsons (options : List Branch) : ∀ item ∈ Branch.toJsons options, item.WellFormed := by
  match options with
  | [] => simp [Branch.toJsons]
  | .mk label outline :: rest =>
    rw [Branch.toJsons, List.forall_mem_cons]
    exact ⟨Json.wellFormed_member (.array (Block.wellFormed_toJsons outline)) label, Branch.wellFormed_toJsons rest⟩
termination_by sizeOf options

end

/-! ### Outlines and synopses -/

theorem Outline.toJson_injective : Function.Injective Outline.toJson :=
  fun first second h => Block.eq_of_toJsons first second (Json.array.inj h)

theorem Outline.wellFormed_toJson (outline : Outline) : outline.toJson.WellFormed :=
  .array (Block.wellFormed_toJsons outline)

theorem Outline.eq_of_pretty_eq {first second : Outline} (h : first.toJson.pretty = second.toJson.pretty) :
    first = second := by
  apply Outline.toJson_injective
  exact Json.eq_of_pretty_eq first.wellFormed_toJson second.wellFormed_toJson h

theorem Outline.exists_of_pretty_eq {first second : Option Outline} {text : String}
    (hfirst : ∃ outline, first = some outline ∧ outline.toJson.pretty = text)
    (hsecond : ∃ outline, second = some outline ∧ outline.toJson.pretty = text) :
    ∃ outline, first = some outline ∧ second = some outline := by
  obtain ⟨outline, houtline, htext⟩ := hfirst
  obtain ⟨other, hother, hsame⟩ := hsecond
  have heq : other = outline := Outline.eq_of_pretty_eq (hsame.trans htext.symm)
  exact ⟨outline, houtline, heq ▸ hother⟩

namespace Synopsis

theorem toJson_injective : Function.Injective Synopsis.toJson := by
  rintro ⟨classes, nodes, parents⟩ ⟨otherClasses, otherNodes, otherParents⟩ h
  have hnone {α : Type} {first second : OrderedMap α} (hfirst : first.isEmpty = true)
      (hsecond : second.isEmpty = true) : first = second := by
    apply OrderedMap.eq_of_entries
    rw [List.isEmpty_iff.1 hfirst, List.isEmpty_iff.1 hsecond]
  cases hparents : parents.isEmpty <;> cases hother : otherParents.isEmpty <;>
    simp only [toJson, hparents, hother, if_true, if_false, Bool.false_eq_true, Json.object.injEq, List.cons_append,
      List.nil_append, List.cons.injEq, Prod.mk.injEq, true_and, and_true, reduceCtorEq, and_false] at h
  · rw [OrderedMap.toJson_injective Outline.toJson_injective h.1,
      OrderedMap.toJson_injective Outline.toJson_injective h.2.1,
      OrderedMap.toJson_injective Json.string_injective h.2.2]
  · rw [OrderedMap.toJson_injective Outline.toJson_injective h.1,
      OrderedMap.toJson_injective Outline.toJson_injective h.2, hnone hparents hother]

theorem wellFormed_toJson (synopsis : Synopsis) : synopsis.toJson.WellFormed := by
  have hclasses := OrderedMap.wellFormed_toJson Outline.wellFormed_toJson synopsis.classes
  have hnodes := OrderedMap.wellFormed_toJson Outline.wellFormed_toJson synopsis.nodes
  have hparents := OrderedMap.wellFormed_toJson Json.WellFormed.string synopsis.parents
  rw [toJson]
  split
  · exact .object (by simp) (by simp [hclasses, hnodes])
  · exact .object (by simp) (by simp [hclasses, hnodes, hparents])

theorem exportedClass_eq_ok_iff {synopsis : Synopsis} {name text : String} :
    synopsis.exportedClass name = .ok text ↔
      ∃ outline, synopsis.classes.get? name = some outline ∧ outline.toJson.pretty = text := by
  rw [exportedClass]
  cases synopsis.classes.get? name <;> simp

theorem exportedNode_eq_ok_iff {synopsis : Synopsis} {name text : String} :
    synopsis.exportedNode name = .ok text ↔
      ∃ outline, synopsis.nodes.get? name = some outline ∧ outline.toJson.pretty = text := by
  rw [exportedNode]
  cases synopsis.nodes.get? name <;> simp

end Synopsis

/-- Equal texts come from equal data, orders included: of whole synopses, of single classes and nodes, and of outlines in either layout. Every export reads back as a JSON value in which no object repeats a member name. -/
theorem exports_injective :
    (∀ first second : Synopsis, first.exported = second.exported → first = second) ∧
      (∀ (first second : Synopsis) (name other text : String),
        first.exportedClass name = .ok text → second.exportedClass other = .ok text →
          ∃ outline, first.classes.get? name = some outline ∧ second.classes.get? other = some outline) ∧
      (∀ (first second : Synopsis) (name other text : String),
        first.exportedNode name = .ok text → second.exportedNode other = .ok text →
          ∃ outline, first.nodes.get? name = some outline ∧ second.nodes.get? other = some outline) ∧
      (∀ first second : Outline, first.toJson.pretty = second.toJson.pretty → first = second) ∧
      (∀ first second : Outline, first.toJson.compact = second.toJson.compact → first = second) ∧
      (∀ synopsis : Synopsis, synopsis.toJson.WellFormed ∧
        Json.read? synopsis.exported = some (synopsis.toJson.map some)) ∧
      ∀ outline : Outline, outline.toJson.WellFormed ∧
        Json.read? outline.toJson.pretty = some (outline.toJson.map some) ∧
        Json.read? outline.toJson.compact = some (outline.toJson.map some) := by
  refine ⟨?_, ?_, ?_, fun _ _ h => Outline.eq_of_pretty_eq h, ?_, ?_, ?_⟩
  · intro first second h
    apply Synopsis.toJson_injective
    exact Json.eq_of_pretty_eq first.wellFormed_toJson second.wellFormed_toJson h
  · intro first second name other text hfirst hsecond
    rw [Synopsis.exportedClass_eq_ok_iff] at hfirst hsecond
    exact Outline.exists_of_pretty_eq hfirst hsecond
  · intro first second name other text hfirst hsecond
    rw [Synopsis.exportedNode_eq_ok_iff] at hfirst hsecond
    exact Outline.exists_of_pretty_eq hfirst hsecond
  · intro first second h
    apply Outline.toJson_injective
    exact Json.eq_of_compact_eq first.wellFormed_toJson second.wellFormed_toJson h
  · intro synopsis
    exact ⟨synopsis.wellFormed_toJson, Json.read?_pretty synopsis.wellFormed_toJson⟩
  · intro outline
    have h := outline.wellFormed_toJson
    exact ⟨h, Json.read?_pretty h, Json.read?_compact h⟩

/-- A conditional with an alternative in which nothing is shown. -/
def emptyAlternative : Outline :=
  [.conditional "$ready" [] (some [])]

def noAlternative : Outline :=
  [.conditional "$ready" [] none]

/-- A class and a node of one name, the class recorded twice. -/
def recordedTwice : Synopsis :=
  ((({} : Synopsis).record (.ofClass ⟨"ntp", none, [], []⟩) noAlternative).record (.ofNode ⟨"ntp", none⟩) noAlternative).record
    (.ofClass ⟨"ntp", some "base", [], []⟩) emptyAlternative

def recordedOnce : Synopsis :=
  (({} : Synopsis).record (.ofNode ⟨"ntp", none⟩) noAlternative).record (.ofClass ⟨"ntp", some "base", [], []⟩) emptyAlternative

theorem recordedTwice_eq_recordedOnce :
    recordedTwice = recordedOnce ∧
      (∃ outline, recordedTwice.classes.get? "ntp" = some outline ∧ recordedOnce.classes.get? "ntp" = some outline) ∧
      (∃ outline, recordedTwice.nodes.get? "ntp" = some outline ∧ recordedOnce.nodes.get? "ntp" = some outline) ∧
      emptyAlternative.toJson.pretty ≠ noAlternative.toJson.pretty ∧
      emptyAlternative.toJson.compact ≠ noAlternative.toJson.compact := by
  obtain ⟨hsynopsis, hclass, hnode, hpretty, hcompact, -, -⟩ := exports_injective
  have hne : emptyAlternative ≠ noAlternative := by simp [emptyAlternative, noAlternative]
  exact ⟨hsynopsis recordedTwice recordedOnce rfl, hclass recordedTwice recordedOnce "ntp" "ntp" _ rfl rfl,
    hnode recordedTwice recordedOnce "ntp" "ntp" _ rfl rfl, fun h => hne (hpretty _ _ h), fun h => hne (hcompact _ _ h)⟩

end Outlining
