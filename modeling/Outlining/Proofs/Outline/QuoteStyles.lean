import Mathlib.Data.List.Forall2
import Mathlib.Data.Option.Defs
import Outlining.Proofs.Failure
import Outlining.Proofs.Text.QuoteMarks
import Outlining.Synopsis

/-!
# Styles of quoting

A literal may be written between single or between double quote marks. Wherever an outline shows literals without their marks it does not show which were used, and where it keeps a pair of marks, around the default of a class parameter, these are its own. So two definitions that differ in the marks around such literals and in nothing else have the same outline, or they both fail, with the same code and in the name of the same class or node (`outline_eq_of_restyled`).

A violation may quote the title of a resource as it is written, so two failures are compared by their codes: outlines with the codes of violations as their failures are equal along the whole syntax (`Outline.extend_restyled`).
-/

namespace Outlining

/-- What a literal is written between. -/
inductive QuoteStyle where
  | single
  | double
  deriving DecidableEq, Repr

def QuoteStyle.mark : QuoteStyle → String
  | .single => "'"
  | .double => "\""

/-- A text is the same in both styles: it neither begins nor ends with a quote mark, and it does not end with a backslash, which would make the mark behind it an escaped one. -/
def QuoteMarks.Quotable (text : String) : Prop :=
  Unmarked text.toList ∧ text.toList.getLast? ≠ some '\\'

theorem QuoteMarks.onlyMarks_mark (style : QuoteStyle) : OnlyMarks style.mark.toList := by
  cases style with
  | single => exact ⟨[['\'']], by simp [single_mem_marks], rfl⟩
  | double => exact ⟨[['"']], by simp [double_mem_marks], rfl⟩

theorem QuoteMarks.strip_quoted {text : String} (h : Quotable text) (style : QuoteStyle) :
    strip (style.mark ++ text ++ style.mark) = text := by
  have hmarks := onlyMarks_mark style
  exact strip_append hmarks h.1 hmarks fun hcut => h.2 hcut.1

theorem map_eq_map_of_forall₂ {α β γ : Type} {related : α → β → Prop} {f : α → γ} {g : β → γ} {items : List α}
    {others : List β} (h : List.Forall₂ related items others) (hsame : ∀ {item other}, related item other → f item = g other) :
    items.map f = others.map g := by
  rw [← List.forall₂_eq_eq_eq, List.forall₂_map_left_iff, List.forall₂_map_right_iff]
  exact h.imp fun _ _ => hsame

/-! ### Expressions -/

namespace Expr

/-- The literal of a text in a style. -/
def literal (style : QuoteStyle) (text : String) : Expr :=
  .quoted (style.mark ++ text ++ style.mark)

/-- An expression stands in place of another: it is the same, or the same literal in some style. -/
inductive Restyled : Expr → Expr → Prop
  | same (value : Expr) : Restyled value value
  | literal {text : String} (h : QuoteMarks.Quotable text) (style other : QuoteStyle) :
    Restyled (literal style text) (literal other text)

/-- An expression stands in place of another: itself restyled, or a list with restyled items. -/
inductive RestyledWithItems : Expr → Expr → Prop
  | itself {value other : Expr} (h : Restyled value other) : RestyledWithItems value other
  | items {items others : List Expr} (h : List.Forall₂ Restyled items others) :
    RestyledWithItems (.list items) (.list others)

theorem shown_literal {text : String} (h : QuoteMarks.Quotable text) (style : QuoteStyle) :
    (literal style text).shown = text :=
  QuoteMarks.strip_quoted h style

theorem Restyled.shown_eq {value other : Expr} (h : Restyled value other) : value.shown = other.shown := by
  cases h with
  | same => rfl
  | literal h style other => rw [shown_literal h, shown_literal h]

theorem Restyled.shownItems_eq {value other : Expr} (h : Restyled value other) : value.shownItems = other.shownItems := by
  cases h with
  | same => rfl
  | literal h style other => exact congrArg (fun text => [text]) (Restyled.literal h style other).shown_eq

theorem Restyled.ofExpr_eq {value other : Expr} (h : Restyled value other) :
    Value.ofExpr (some value) = Value.ofExpr (some other) := by
  cases h with
  | same => rfl
  | literal h style other => exact congrArg Value.text (Restyled.literal h style other).shown_eq

theorem Restyled.defaultText_eq {value other : Expr} (h : Restyled value other) :
    defaultText (some value) = defaultText (some other) := by
  cases h with
  | same => rfl
  | literal h style other =>
    exact congrArg (fun text => "\"" ++ text ++ "\"") (Restyled.literal h style other).shown_eq

theorem label_restyled {values others : List Expr} (h : List.Forall₂ Restyled values others) : label values = label others := by
  rw [label, label, map_eq_map_of_forall₂ h Restyled.shown_eq]

theorem RestyledWithItems.shownItems_eq {value other : Expr} (h : RestyledWithItems value other) :
    value.shownItems = other.shownItems := by
  cases h with
  | itself h => exact h.shownItems_eq
  | items h => exact map_eq_map_of_forall₂ h fun hitem => congrArg QuoteMarks.strip hitem.shown_eq

theorem RestyledWithItems.names_eq {value other : Expr} (h : RestyledWithItems value other) : value.names = other.names := by
  rw [names, names, h.shownItems_eq]

theorem RestyledWithItems.ofExpr_eq {value other : Expr} (h : RestyledWithItems value other) :
    Value.ofExpr (some value) = Value.ofExpr (some other) := by
  cases h with
  | itself h => exact h.ofExpr_eq
  | items h => exact congrArg Value.list (RestyledWithItems.items h).shownItems_eq

end Expr

/-! ### Statements and definitions -/

structure Parameter.Restyled (parameter other : Parameter) : Prop where
  name : parameter.name = other.name
  value : parameter.value.RestyledWithItems other.value

structure Instance.Restyled (declared other : Instance) : Prop where
  title : Option.Rel Expr.RestyledWithItems declared.title other.title
  parameters : Option.Rel (List.Forall₂ Parameter.Restyled) declared.parameters other.parameters

mutual

/-- A statement differs from another in the styles of literals only, in values, titles, parameters, arguments and the items of lists there, and in the subjects and the options of choices, at any depth. Targets and conditions are the same. -/
inductive Statement.Restyled : Statement → Statement → Prop
  | assign (name : String) {value other : Option Expr} (hvalue : Option.Rel Expr.RestyledWithItems value other) :
    Statement.Restyled (.assign name value) (.assign name other)
  | declare (type : String) {instances others : List Instance} (hinstances : List.Forall₂ Instance.Restyled instances others) :
    Statement.Restyled (.declare type instances) (.declare type others)
  | override (target : Expr) {parameters others : Option (List Parameter)}
    (hparameters : Option.Rel (List.Forall₂ Parameter.Restyled) parameters others) :
    Statement.Restyled (.override target parameters) (.override target others)
  | typeDefaults (type : String) {parameters others : Option (List Parameter)}
    (hparameters : Option.Rel (List.Forall₂ Parameter.Restyled) parameters others) :
    Statement.Restyled (.typeDefaults type parameters) (.typeDefaults type others)
  | choice {subject other : Expr} {options others : List Arm} (hsubject : subject.Restyled other)
    (hoptions : Arm.AllRestyled options others) : Statement.Restyled (.choice subject options) (.choice other others)
  | conditional (condition : Expr) {consequence other : List Statement}
    (hconsequence : Statement.AllRestyled consequence other) :
    Statement.Restyled (.conditional condition consequence none) (.conditional condition other none)
  | conditionalElse (condition : Expr) {consequence other alternative otherwise : List Statement}
    (hconsequence : Statement.AllRestyled consequence other) (halternative : Statement.AllRestyled alternative otherwise) :
    Statement.Restyled (.conditional condition consequence (some alternative)) (.conditional condition other (some otherwise))
  | call (function : String) {arguments others : List Expr}
    (harguments : List.Forall₂ Expr.RestyledWithItems arguments others) :
    Statement.Restyled (.call function arguments) (.call function others)
  | other (text : String) : Statement.Restyled (.other text) (.other text)

inductive Statement.AllRestyled : List Statement → List Statement → Prop
  | nil : Statement.AllRestyled [] []
  | cons {statement other : Statement} {rest others : List Statement} (hfirst : statement.Restyled other)
    (hrest : Statement.AllRestyled rest others) : Statement.AllRestyled (statement :: rest) (other :: others)

inductive Arm.AllRestyled : List Arm → List Arm → Prop
  | nil : Arm.AllRestyled [] []
  | cons {values otherValues : List Expr} {body otherBody : List Statement} {rest others : List Arm}
    (hvalues : List.Forall₂ Expr.Restyled values otherValues) (hbody : Statement.AllRestyled body otherBody)
    (hrest : Arm.AllRestyled rest others) : Arm.AllRestyled (.mk values body :: rest) (.mk otherValues otherBody :: others)

end

structure ClassParameter.Restyled (parameter other : ClassParameter) : Prop where
  name : parameter.name = other.name
  default : Option.Rel Expr.Restyled parameter.default other.default

/-- A class or node differs from another in the styles of literals only. -/
inductive Definition.Restyled : Definition → Definition → Prop
  | ofClass (name : String) (parent : Option String) {parameters others : List ClassParameter}
    {body other : List Statement} (hparameters : List.Forall₂ ClassParameter.Restyled parameters others)
    (hbody : Statement.AllRestyled body other) :
    Restyled (.ofClass ⟨name, parent, parameters, body⟩) (.ofClass ⟨name, parent, others, other⟩)
  | ofNode (name : String) {body other : Option (List Statement)} (hbody : Option.Rel Statement.AllRestyled body other) :
    Restyled (.ofNode ⟨name, body⟩) (.ofNode ⟨name, other⟩)

/-! ### Outlines with codes as failures -/

theorem Parameter.record_restyled {parameters others : List Parameter} (h : List.Forall₂ Parameter.Restyled parameters others) :
    Parameter.record parameters = Parameter.record others := by
  apply congrArg OrderedMap.ofList
  exact map_eq_map_of_forall₂ h fun hparameter => congrArg₂ Prod.mk hparameter.name hparameter.value.ofExpr_eq

theorem Instance.titled_restyled {declared other : Instance} (h : declared.Restyled other) (type : String) :
    (declared.titled type).mapError Violation.code = (other.titled type).mapError Violation.code := by
  obtain ⟨title, parameters⟩ := declared
  obtain ⟨otherTitle, otherParameters⟩ := other
  obtain ⟨htitle, hparameters⟩ := h
  cases htitle with
  | none => rfl
  | some htitle =>
    cases hparameters with
    | none => rfl
    | some hparameters =>
      exact congrArg₂ (fun names recorded => Except.ok (names.map fun name => (name, recorded))) htitle.names_eq
        (Parameter.record_restyled hparameters)

theorem Instance.titledAll_restyled {instances others : List Instance} (h : List.Forall₂ Instance.Restyled instances others)
    (type : String) :
    (titledAll type instances).mapError Violation.code = (titledAll type others).mapError Violation.code := by
  induction h with
  | nil => rfl
  | cons hfirst _ ih =>
    exact mapError_bind_congr (titled_restyled hfirst type) fun _ => mapError_bind_congr ih fun _ => rfl

mutual

theorem Statement.contribution_restyled {statement other : Statement} (h : statement.Restyled other) (settings : Settings) :
    (statement.contribution settings).mapError Violation.code = (other.contribution settings).mapError Violation.code := by
  cases h with
  | assign name hvalue =>
    cases hvalue with
    | none => rfl
    | some hvalue => rw [Statement.contribution, Statement.contribution, hvalue.ofExpr_eq]
  | declare type hinstances =>
    exact mapError_map_congr (declarationBlock settings type) (Instance.titledAll_restyled hinstances type)
  | override target hparameters =>
    cases hparameters with
    | none => rfl
    | some hparameters => rw [Statement.contribution, Statement.contribution, Parameter.record_restyled hparameters]
  | typeDefaults type hparameters =>
    cases hparameters with
    | none => rfl
    | some hparameters => rw [Statement.contribution, Statement.contribution, Parameter.record_restyled hparameters]
  | choice hsubject hoptions =>
    rw [Statement.contribution, Statement.contribution, hsubject.shown_eq]
    exact mapError_bind_congr (Arm.branches_restyled hoptions settings) fun _ => rfl
  | conditional condition hconsequence =>
    exact mapError_bind_congr (Outline.extend_restyled hconsequence settings []) fun _ => rfl
  | @conditionalElse _ _ _ alternative otherwise hconsequence halternative =>
    have hempty : alternative.isEmpty = otherwise.isEmpty := by cases halternative <;> rfl
    rw [Statement.contribution, Statement.contribution, hempty]
    refine mapError_bind_congr (Outline.extend_restyled hconsequence settings []) fun _ => ?_
    exact mapError_bind_congr (Outline.extend_restyled halternative settings []) fun _ => rfl
  | @call function arguments others harguments =>
    have hnames : arguments.flatMap Expr.names = others.flatMap Expr.names := by
      rw [List.flatMap_def, List.flatMap_def, map_eq_map_of_forall₂ harguments Expr.RestyledWithItems.names_eq]
    rw [Statement.contribution, Statement.contribution, callBlock, callBlock, hnames]
  | other text => rfl

/-- Restyled bodies put the same blocks behind an outline, or fail with the same code. -/
theorem Outline.extend_restyled {body other : List Statement} (h : Statement.AllRestyled body other) (settings : Settings)
    (outline : Outline) :
    (Outline.extend settings outline body).mapError Violation.code =
      (Outline.extend settings outline other).mapError Violation.code := by
  cases h with
  | nil => rfl
  | cons hfirst hrest =>
    exact mapError_bind_congr (Statement.contribution_restyled hfirst settings) fun _ =>
      Outline.extend_restyled hrest settings _

theorem Arm.branches_restyled {options others : List Arm} (h : Arm.AllRestyled options others) (settings : Settings) :
    (Arm.branches settings options).mapError Violation.code = (Arm.branches settings others).mapError Violation.code := by
  cases h with
  | nil => rfl
  | cons hvalues hbody hrest =>
    rw [Arm.branches, Arm.branches, Expr.label_restyled hvalues]
    refine mapError_bind_congr (Outline.extend_restyled hbody settings []) fun _ => ?_
    exact mapError_bind_congr (Arm.branches_restyled hrest settings) fun _ => rfl

end

/-! ### Outlines of definitions -/

theorem ClassParameter.defaultText_restyled {parameter other : ClassParameter} (h : parameter.Restyled other) :
    (parameter.name, Expr.defaultText parameter.default) = (other.name, Expr.defaultText other.default) := by
  obtain ⟨name, default⟩ := parameter
  obtain ⟨otherName, otherDefault⟩ := other
  obtain ⟨rfl, hdefault⟩ := h
  cases hdefault with
  | none => rfl
  | some hdefault => exact congrArg (name, ·) hdefault.defaultText_eq

theorem ClassDefinition.outline_restyled {parameters others : List ClassParameter} {body other : List Statement}
    (hparameters : List.Forall₂ ClassParameter.Restyled parameters others) (hbody : Statement.AllRestyled body other)
    (settings : Settings) (name : String) (parent : Option String) :
    (ClassDefinition.outline settings ⟨name, parent, parameters, body⟩).mapError Violation.code =
      (ClassDefinition.outline settings ⟨name, parent, others, other⟩).mapError Violation.code := by
  rw [ClassDefinition.outline, ClassDefinition.outline,
    map_eq_map_of_forall₂ hparameters ClassParameter.defaultText_restyled]
  exact Outline.extend_restyled hbody settings _

theorem NodeDefinition.outline_restyled {body other : Option (List Statement)}
    (hbody : Option.Rel Statement.AllRestyled body other) (settings : Settings) (name : String) :
    (NodeDefinition.outline settings ⟨name, body⟩).mapError Violation.code =
      (NodeDefinition.outline settings ⟨name, other⟩).mapError Violation.code := by
  cases hbody with
  | none => rfl
  | some hbody => exact Outline.extend_restyled hbody settings []

/-- How the outcomes of two definitions agree when their violations have the same codes. -/
theorem exists_of_mapError_code_eq {first second : Except Violation Outline}
    (h : first.mapError Violation.code = second.mapError Violation.code) (name : String) :
    (∃ blocks, first.mapError (Diagnostic.ofViolation (some name)) = .ok blocks ∧
      second.mapError (Diagnostic.ofViolation (some name)) = .ok blocks) ∨
    ∃ message otherMessage hint code,
      first.mapError (Diagnostic.ofViolation (some name)) = .error ⟨.incompleteTree (some name), message, hint, some code⟩ ∧
      second.mapError (Diagnostic.ofViolation (some name)) =
        .error ⟨.incompleteTree (some name), otherMessage, hint, some code⟩ := by
  obtain ⟨blocks, rfl, rfl⟩ | ⟨violation, other, rfl, rfl, hcode⟩ := exists_of_mapError_eq h
  · exact .inl ⟨blocks, rfl, rfl⟩
  · refine .inr ⟨violation.message, other.message, _, violation.code, rfl, ?_⟩
    rw [hcode]
    rfl

/-- Definitions that differ in the styles of literals only have the same outline, or they both fail with the same code, in the name of the same class or node. -/
theorem outline_eq_of_restyled {definition other : Definition} (h : definition.Restyled other) (settings : Settings) :
    (∃ blocks, definition.outline settings = .ok blocks ∧ other.outline settings = .ok blocks) ∨
    ∃ message otherMessage hint code,
      definition.outline settings = .error ⟨.incompleteTree (some definition.name), message, hint, some code⟩ ∧
      other.outline settings = .error ⟨.incompleteTree (some definition.name), otherMessage, hint, some code⟩ := by
  cases h with
  | ofClass name parent hparameters hbody =>
    exact exists_of_mapError_code_eq (ClassDefinition.outline_restyled hparameters hbody settings name parent) name
  | ofNode name hbody => exact exists_of_mapError_code_eq (NodeDefinition.outline_restyled hbody settings name) name

/-- A class with literals in one style: a default, the subject and an option of a choice, and inside the option an item of a title, a parameter and an include. -/
def styledClass (style : QuoteStyle) : Definition :=
  .ofClass ⟨"web", none, [⟨"port", some (.literal style "80")⟩],
    [.choice (.literal style "it's") [.mk [.literal style "a", .word "default"]
      [.declare "file" [⟨some (.list [.literal style "x", .quoted "'y'"]), some [⟨"mode", .literal style "0644"⟩]⟩],
        .call "include" [.literal style "ntp"]]]]⟩

/-- A node with a resource that has a literal for its title and no parameters. -/
def styledNode (style : QuoteStyle) : Definition :=
  .ofNode ⟨"db", some [.declare "file" [⟨some (.literal style "x"), none⟩]]⟩

def styledBlocks : List Block :=
  [.arguments (OrderedMap.singleton "port" "\"80\""),
    .choice "it's" [.mk "a, default"
      [.resources [⟨"file", OrderedMap.ofList [("x", OrderedMap.singleton "mode" (.text "0644")),
        ("y", OrderedMap.singleton "mode" (.text "0644"))]⟩], .includes ["ntp"]]]]

theorem restyled_literal {text : String} (h : text ∈ ["80", "it's", "a", "x", "0644", "ntp"]) :
    Expr.Restyled (.literal .single text) (.literal .double text) := by
  refine .literal ?_ .single .double
  revert text
  unfold QuoteMarks.Quotable QuoteMarks.Unmarked
  decide

theorem restyled_styledClass : (styledClass .single).Restyled (styledClass .double) := by
  have htitle : Expr.RestyledWithItems (.list [.literal .single "x", .quoted "'y'"])
      (.list [.literal .double "x", .quoted "'y'"]) :=
    .items (.cons (restyled_literal (by decide)) (.cons (.same _) .nil))
  have hmode : Parameter.Restyled ⟨"mode", .literal .single "0644"⟩ ⟨"mode", .literal .double "0644"⟩ :=
    ⟨rfl, .itself (restyled_literal (by decide))⟩
  have hport : ClassParameter.Restyled ⟨"port", some (.literal .single "80")⟩ ⟨"port", some (.literal .double "80")⟩ :=
    ⟨rfl, .some (restyled_literal (by decide))⟩
  refine .ofClass "web" none (.cons hport .nil) (.cons (.choice (restyled_literal (by decide)) ?_) .nil)
  refine .cons (.cons (restyled_literal (by decide)) (.cons (.same _) .nil)) (.cons ?_ (.cons ?_ .nil)) .nil
  · exact .declare "file" (.cons ⟨.some htitle, .some (.cons hmode .nil)⟩ .nil)
  · exact .call "include" (.cons (.itself (restyled_literal (by decide))) .nil)

theorem restyled_styledNode : (styledNode .single).Restyled (styledNode .double) := by
  have htitle : Expr.RestyledWithItems (.literal .single "x") (.literal .double "x") := .itself (restyled_literal (by decide))
  exact .ofNode "db" (.some (.cons (.declare "file" (.cons ⟨.some htitle, .none⟩ .nil)) .nil))

theorem outline_styledClass_styledNode :
    (styledClass .single).Restyled (styledClass .double) ∧ (styledNode .single).Restyled (styledNode .double) ∧
      (styledClass .single).outline {} = .ok styledBlocks ∧ (styledClass .double).outline {} = .ok styledBlocks ∧
      (styledNode .single).outline {} = .error ⟨.incompleteTree (some "db"), "'file' resource 'x' has no parameter list",
        some "The manifest parser produced an incomplete tree", some 402⟩ ∧
      ∃ message, (styledNode .double).outline {} = .error ⟨.incompleteTree (some "db"), message,
        some "The manifest parser produced an incomplete tree", some 402⟩ := by
  have hblocks : (styledClass .single).outline {} = .ok styledBlocks := rfl
  have hfailure : (styledNode .single).outline {} = .error ⟨.incompleteTree (some "db"),
      "'file' resource 'x' has no parameter list", some "The manifest parser produced an incomplete tree", some 402⟩ := rfl
  refine ⟨restyled_styledClass, restyled_styledNode, hblocks, ?_, hfailure, ?_⟩
  · obtain ⟨blocks, hsingle, hdouble⟩ | ⟨_, _, _, _, hsingle, -⟩ := outline_eq_of_restyled restyled_styledClass {}
    · rw [hdouble, ← hsingle, hblocks]
    · cases hblocks.symm.trans hsingle
  · obtain ⟨_, hsingle, -⟩ | ⟨_, message, _, _, hsingle, hdouble⟩ := outline_eq_of_restyled restyled_styledNode {}
    · cases hfailure.symm.trans hsingle
    · cases hfailure.symm.trans hsingle
      exact ⟨message, hdouble⟩

end Outlining
