import Outlining.Proofs.Outline.Shape
import Outlining.Proofs.Text.QuoteMarks

/-!
# Texts without their quote marks

What an outline shows has lost the quote marks that stood around it, whatever expression it comes from and by whichever way it gets there. The titles of resources, the included names and the items of lists neither begin nor end with a mark of any kind; a value or the subject of a choice that is one text neither begins nor ends with a double quote, although a template keeps its single quotes. Only the default of a class parameter stands between double quotes, and then between one pair (`outline_unquoted`).

Every block that a statement contributes is like this (`Statement.unquoted_contribution`), two such blocks combine into one (`Block.unquoted_of_combine?`), and what holds of every outline of a body holds at every depth.
-/

namespace Outlining

open QuoteMarks TailMerge

/-! ### Texts -/

/-- A text neither begins nor ends with a double quote. -/
def QuoteMarks.Unenclosed (text : String) : Prop :=
  text.toList.head? ≠ some '"' ∧ text.toList.getLast? ≠ some '"'

theorem QuoteMarks.unenclosed_of_not_mem {text : String} (h : '"' ∉ text.toList) : Unenclosed text :=
  ⟨fun hhead => h (List.mem_of_head? hhead), fun hlast => h (List.mem_of_getLast? hlast)⟩

theorem QuoteMarks.unenclosed_strip (text : String) : Unenclosed (strip text) := by
  obtain ⟨hfront, hback⟩ := unmarked_strip text.toList _ double_mem_marks
  rw [Unenclosed, toList_strip]
  constructor
  · intro hhead
    obtain ⟨rest, hrest⟩ := List.head?_eq_some_iff.1 hhead
    exact hfront ⟨rest, hrest.symm⟩
  · intro hlast
    obtain ⟨before, hbefore⟩ := List.getLast?_eq_some_iff.1 hlast
    exact hback ⟨before, hbefore.symm⟩

theorem Expr.unenclosed_shown (value : Expr) : Unenclosed value.shown := by
  cases value with
  | template fragments =>
    apply unenclosed_of_not_mem
    simp [shown]
  | _ => exact unenclosed_strip _

theorem Expr.strip_of_mem_shownItems_list {items : List Expr} {item : String} (h : item ∈ (list items).shownItems) :
    strip item = item := by
  obtain ⟨value, -, rfl⟩ := List.mem_map.1 h
  exact strip_strip _

theorem Expr.strip_of_mem_names {value : Expr} {name : String} (h : name ∈ value.names) : strip name = name := by
  obtain ⟨item, -, rfl⟩ := List.mem_map.1 h
  exact strip_strip _

/-! ### Values and blocks -/

/-- A recorded value has no quote marks around its texts: a single text no double quotes, the items of a list no marks of any kind. -/
def Value.Unquoted : Value → Prop
  | .absent => True
  | .text content => Unenclosed content
  | .list items => ∀ item ∈ items, strip item = item

def Parameters.Unquoted (parameters : Parameters) : Prop :=
  ∀ entry ∈ parameters.entries, entry.2.Unquoted

/-- No text that a block shows has quote marks around it, the defaults of class parameters and the texts of conditions left aside. -/
def Block.Unquoted : Block → Prop
  | .arguments _ => True
  | .variables values => ∀ entry ∈ values.entries, entry.2.Unquoted
  | .resources sets => ∀ set ∈ sets, ∀ entry ∈ set.resources.entries, strip entry.1 = entry.1 ∧ Parameters.Unquoted entry.2
  | .overrides targets => ∀ entry ∈ targets.entries, Parameters.Unquoted entry.2
  | .typeDefaults types => ∀ entry ∈ types.entries, Parameters.Unquoted entry.2
  | .choice subject _ => Unenclosed subject
  | .conditional _ _ _ => True
  | .includes classes => ∀ name ∈ classes, strip name = name

theorem Value.unquoted_ofExpr (value : Option Expr) : (Value.ofExpr value).Unquoted := by
  cases value with
  | none => trivial
  | some value =>
    cases value with
    | undefined => trivial
    | list items => exact fun item => Expr.strip_of_mem_shownItems_list
    | _ => exact Expr.unenclosed_shown _

theorem Parameter.unquoted_record (parameters : List Parameter) : (Parameter.record parameters).Unquoted := by
  refine OrderedMap.forall_mem_ofList ?_
  intro pair hpair
  obtain ⟨parameter, -, rfl⟩ := List.mem_map.1 hpair
  exact Value.unquoted_ofExpr _

theorem Block.unquoted_of_combine? {first second combined : Block} (h : first.combine? second = some combined)
    (hfirst : first.Unquoted) (hsecond : second.Unquoted) : combined.Unquoted := by
  cases first <;> cases second <;> cases h
  case arguments => trivial
  case resources sets more =>
    simp only [Block.Unquoted, ResourceSet.appendAll_eq_pushAll]
    refine forall_mem_pushAll ?_ hfirst hsecond
    intro set other merged hmerge hset hother
    obtain ⟨-, rfl⟩ := ResourceSet.type_eq_of_merge? hmerge
    exact OrderedMap.forall_mem_merge hset hother
  case includes => exact List.forall_mem_append.2 ⟨hfirst, hsecond⟩
  all_goals exact OrderedMap.forall_mem_merge hfirst hsecond

/-! ### What statements contribute -/

theorem Instance.unquoted_titledAll {type : String} {instances : List Instance} {titled : List (String × Parameters)}
    (h : Instance.titledAll type instances = .ok titled) :
    ∀ pair ∈ titled, strip pair.1 = pair.1 ∧ Parameters.Unquoted pair.2 := by
  induction instances generalizing titled with
  | nil =>
    cases h
    exact nofun
  | cons first rest ih =>
    obtain ⟨titles, htitles, h⟩ := exists_of_bind_eq_ok h
    obtain ⟨more, hmore, h⟩ := exists_of_bind_eq_ok h
    cases h
    refine List.forall_mem_append.2 ⟨?_, ih hmore⟩
    rw [Instance.titled] at htitles
    split at htitles <;> cases htitles
    intro pair hpair
    obtain ⟨name, hname, rfl⟩ := List.mem_map.1 hpair
    exact ⟨Expr.strip_of_mem_names hname, Parameter.unquoted_record _⟩

theorem unquoted_of_declarationBlock {settings : Settings} {type : String} {titled : List (String × Parameters)}
    (htitled : ∀ pair ∈ titled, strip pair.1 = pair.1 ∧ Parameters.Unquoted pair.2) {block : Block}
    (h : declarationBlock settings type titled = some block) : block.Unquoted := by
  rw [declarationBlock] at h
  split_ifs at h <;> cases h
  · exact List.forall_mem_map.2 fun pair hpair => (htitled pair hpair).1
  · exact List.forall_mem_singleton.2 (OrderedMap.forall_mem_ofList htitled)

theorem Statement.unquoted_contribution {settings : Settings} {statement : Statement} {block : Block}
    (h : statement.contribution settings = .ok (some block)) : block.Unquoted := by
  cases statement with
  | assign name value =>
    cases h
    exact OrderedMap.forall_mem_singleton (Value.unquoted_ofExpr value)
  | declare type instances =>
    obtain ⟨titled, htitled, hblock⟩ := exists_of_map_eq_ok h
    exact unquoted_of_declarationBlock (Instance.unquoted_titledAll htitled) hblock.symm
  | override target parameters =>
    cases parameters <;> cases h
    exact OrderedMap.forall_mem_singleton (Parameter.unquoted_record _)
  | typeDefaults type parameters =>
    cases parameters <;> cases h
    exact OrderedMap.forall_mem_singleton (Parameter.unquoted_record _)
  | choice subject options =>
    obtain ⟨branches, -, h⟩ := exists_of_bind_eq_ok h
    cases h
    exact Expr.unenclosed_shown subject
  | conditional condition consequence alternative =>
    cases alternative with
    | none =>
      obtain ⟨outline, -, h⟩ := exists_of_bind_eq_ok h
      cases h
      trivial
    | some alternative =>
      obtain ⟨outline, -, h⟩ := exists_of_bind_eq_ok h
      obtain ⟨other, -, h⟩ := exists_of_bind_eq_ok h
      cases h
      trivial
  | call function arguments =>
    rw [Statement.contribution, callBlock] at h
    split_ifs at h <;> cases h
    intro name hname
    obtain ⟨argument, -, hargument⟩ := List.mem_flatMap.1 hname
    exact Expr.strip_of_mem_names hargument
  | other text => cases h

theorem Statement.unquoted_contributions {settings : Settings} {body : List Statement} {blocks : List Block}
    (h : Statement.contributions settings body = .ok blocks) : ∀ block ∈ blocks, block.Unquoted := by
  induction body generalizing blocks with
  | nil =>
    cases h
    exact nofun
  | cons statement rest ih =>
    obtain ⟨contributed, hfirst, h⟩ := exists_of_bind_eq_ok h
    obtain ⟨more, hmore, h⟩ := exists_of_bind_eq_ok h
    cases h
    refine List.forall_mem_append.2 ⟨?_, ih hmore⟩
    intro block hblock
    obtain rfl := Option.mem_toList.1 hblock
    exact Statement.unquoted_contribution hfirst

/-! ### Outlines -/

theorem Outline.unquoted_ofBody {settings : Settings} {body : List Statement} {outline : Outline}
    (h : Outline.ofBody settings body = .ok outline) : ∀ block ∈ outline, block.Unquoted := by
  rw [Outline.ofBody_eq_pushAll] at h
  obtain ⟨blocks, hblocks, rfl⟩ := exists_of_map_eq_ok h
  refine forall_mem_pushAll ?_ (by simp) (Statement.unquoted_contributions hblocks)
  intro first second merged hmerge
  exact Block.unquoted_of_combine? (Block.combine?_of_merge? hmerge).2

/-- A value is a text by its kind: it is written between quote marks. -/
inductive Expr.IsText : Expr → Prop
  | quoted (text : String) : IsText (.quoted text)
  | template (fragments : List Fragment) : IsText (.template fragments)

theorem Expr.exists_defaultText_eq {value : Expr} (h : value.IsText) :
    ∃ text, Unenclosed text ∧ defaultText (some value) = "\"" ++ text ++ "\"" := by
  cases h with
  | quoted text => exact ⟨_, unenclosed_shown (.quoted text), rfl⟩
  | template fragments => exact ⟨_, unenclosed_shown (.template fragments), rfl⟩

theorem ClassDefinition.unquoted_outline {settings : Settings} {definition : ClassDefinition} {outline : Outline}
    (h : definition.outline settings = .ok outline) :
    (outline.Everywhere fun blocks => ∀ block ∈ blocks, block.Unquoted) ∧
      ∃ blocks, outline = definition.argumentsBlock :: blocks := by
  rw [ClassDefinition.outline_eq_map] at h
  obtain ⟨blocks, hblocks, rfl⟩ := exists_of_map_eq_ok h
  refine ⟨Outline.Everywhere.cons_arguments ?_ (Outline.everywhere_ofBody Outline.unquoted_ofBody hblocks), blocks, rfl⟩
  exact List.forall_mem_cons.2 ⟨trivial, Outline.unquoted_ofBody hblocks⟩

/-- No outline shows the quote marks around titles, included names, values and subjects, at whatever depth; the default of a class parameter that is a text stands between one pair of double quotes, for the last parameter of each name. -/
theorem outline_unquoted {settings : Settings} {definition : Definition} {outline : Outline}
    (h : definition.outline settings = .ok outline) :
    (outline.Everywhere fun blocks => ∀ block ∈ blocks, block.Unquoted) ∧
    ∀ name parent parameters body, definition = .ofClass ⟨name, parent, parameters, body⟩ →
      ∃ defaults blocks, outline = .arguments defaults :: blocks ∧
        ∀ front parameter back, parameters = front ++ parameter :: back →
          (∀ later ∈ back, later.name ≠ parameter.name) → (∃ value, parameter.default = some value ∧ value.IsText) →
            ∃ text, Unenclosed text ∧ defaults.get? parameter.name = some ("\"" ++ text ++ "\"") := by
  have houtline := mapError_eq_ok_iff.1 h
  cases definition with
  | ofNode definition =>
    exact ⟨Outline.everywhere_ofBody Outline.unquoted_ofBody houtline, nofun⟩
  | ofClass definition =>
    obtain ⟨hunquoted, blocks, rfl⟩ := ClassDefinition.unquoted_outline houtline
    refine ⟨hunquoted, ?_⟩
    rintro name parent parameters body ⟨⟩
    refine ⟨_, blocks, rfl, ?_⟩
    rintro front parameter back rfl hlast ⟨value, hvalue, htext⟩
    obtain ⟨text, hunenclosed, hdefault⟩ := Expr.exists_defaultText_eq htext
    refine ⟨text, hunenclosed, ?_⟩
    rw [List.map_append, List.map_cons, hvalue, hdefault]
    exact OrderedMap.get?_ofList_of_last _ (List.forall_mem_map.2 hlast)

/-- A class with quote marks inside quote marks: in the second default of a parameter, in the subject of a choice, and inside the choice in the items of a list, one of them a list itself, and in the title of a class declaration. -/
def overquotedClass : ClassDefinition where
  name := "web"
  parent := none
  parameters := [⟨"port", some (.word "80")⟩, ⟨"port", some (.template [.text "a\"b\""])⟩]
  body := [.choice (.quoted "\"os\"") [.mk [.word "default"]
    [.assign "paths" (some (.list [.quoted "'\"a\"'", .list [.quoted "'b'"]])),
      .declare "class" [⟨some (.template [.text "'ntp'"]), some []⟩]]]]

def overquotedBlocks : List Block :=
  [.arguments (OrderedMap.singleton "port" "\"ab\""),
    .choice "os" [.mk "default" [.variables (OrderedMap.singleton "paths" (.list ["a", "['b']"])),
      .resources [⟨"class", OrderedMap.singleton "ntp" ∅⟩]]]]

theorem outline_unquoted_overquotedClass :
    (Definition.ofClass overquotedClass).outline {} = .ok overquotedBlocks ∧
      Outline.Everywhere (fun blocks => ∀ block ∈ blocks, block.Unquoted) overquotedBlocks ∧
      ∃ text, Unenclosed text ∧ (OrderedMap.singleton "port" "\"ab\"").get? "port" = some ("\"" ++ text ++ "\"") := by
  have houtline : (Definition.ofClass overquotedClass).outline {} = .ok overquotedBlocks := rfl
  obtain ⟨hunquoted, hclass⟩ := outline_unquoted houtline
  obtain ⟨defaults, blocks, hblocks, hdefaults⟩ := hclass _ _ _ _ rfl
  cases hblocks
  have hport := hdefaults [⟨"port", some (.word "80")⟩] _ [] rfl nofun ⟨_, rfl, .template _⟩
  exact ⟨houtline, hunquoted, hport⟩

end Outlining
