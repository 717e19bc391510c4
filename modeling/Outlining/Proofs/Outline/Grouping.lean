import Outlining.Proofs.Outline.Attempts
import Outlining.Proofs.Outline.Runs
import Outlining.Proofs.Text.QuoteMarks

/-!
# Declarations and includes in groups

It does not matter how declarations are grouped: several instances may stand in one statement or in a statement each, a list of titles stands for one instance with each of them, and includes may be put together or taken apart in the same way (`enterAll_grouped`). Only where every include is a block of its own, the statements that include classes keep their number. The block of a statement is gathered from what its parts declare, and the blocks of two parts become that of the whole.
-/

namespace Outlining

open TailMerge

/-! ### Names of lists -/

namespace Expr

def IsList (value : Expr) : Prop :=
  ∃ items, value = .list items

theorem names_of_not_isList {value : Expr} (h : ¬value.IsList) : value.names = [QuoteMarks.strip value.shown] := by
  cases value with
  | list items => exact (h ⟨items, rfl⟩).elim
  | _ => rfl

/-- A list names what its items name; that the names of its items are stripped twice makes no difference. -/
theorem names_list {items : List Expr} (h : ∀ item ∈ items, ¬item.IsList) :
    (Expr.list items).names = items.flatMap names := by
  rw [names, shownItems, List.map_map]
  induction items with
  | nil => rfl
  | cons item rest ih =>
    obtain ⟨hitem, hrest⟩ := List.forall_mem_cons.1 h
    rw [List.map_cons, List.flatMap_cons, names_of_not_isList hitem, ih hrest, Function.comp_apply,
      QuoteMarks.strip_strip, List.singleton_append]

end Expr

/-! ### Instances -/

namespace Instance

structure IsComplete (declared : Instance) : Prop where
  title : declared.title.isSome = true
  parameters : declared.parameters.isSome = true

theorem titledAll_append (type : String) (first second : List Instance) :
    titledAll type (first ++ second) = do return (← titledAll type first) ++ (← titledAll type second) := by
  induction first with
  | nil => exact (bind_pure (titledAll type second)).symm
  | cons declared rest ih =>
    rw [List.cons_append, titledAll, titledAll, ih]
    exact bind_append_assoc (declared.titled type) id (titledAll type rest) (titledAll type second)

theorem titledAll_of_isComplete (type : String) {instances : List Instance} (h : ∀ declared ∈ instances, declared.IsComplete) :
    titledAll type instances = .ok (Instance.declared instances) := by
  induction instances with
  | nil => rfl
  | cons first rest ih =>
    obtain ⟨hfirst, hrest⟩ := List.forall_mem_cons.1 h
    obtain ⟨title, parameters⟩ := first
    obtain ⟨title, rfl⟩ := Option.isSome_iff_exists.1 hfirst.title
    obtain ⟨parameters, rfl⟩ := Option.isSome_iff_exists.1 hfirst.parameters
    rw [titledAll, ih hrest]
    rfl

theorem declared_append (first second : List Instance) :
    Instance.declared (first ++ second) = Instance.declared first ++ Instance.declared second :=
  List.flatMap_append

/-- One instance with a list of titles declares what instances with one title each declare. -/
theorem titledAll_list (type : String) {titles : List Expr} (h : ∀ title ∈ titles, ¬title.IsList)
    (parameters : List Parameter) :
    titledAll type [⟨some (.list titles), some parameters⟩] =
      titledAll type (titles.map fun title => ⟨some title, some parameters⟩) := by
  rw [titledAll_of_isComplete, titledAll_of_isComplete]
  · simp only [Instance.declared, List.flatMap_cons, List.flatMap_nil, List.append_nil, List.flatMap_map, Option.elim_some,
      Expr.names_list h, List.map_flatMap]
  · intro declared hdeclared
    obtain ⟨title, -, rfl⟩ := List.mem_map.1 hdeclared
    exact ⟨rfl, rfl⟩
  · intro declared hdeclared
    rw [List.mem_singleton.1 hdeclared]
    exact ⟨rfl, rfl⟩

end Instance

/-! ### Blocks of groups -/

/-- Whether declarations of a type are includes that stay apart. -/
def Settings.separatesDeclarations (settings : Settings) (type : String) : Prop :=
  settings.classDeclarationsAsIncludes = true ∧ isClassType type = true ∧ settings.includePolicy = .separate

/-- The block of everything that a declaration declares. -/
def declaredBlock (settings : Settings) (type : String) (titled : List (String × Parameters)) : Block :=
  if settings.classDeclarationsAsIncludes && isClassType type then .includes (titled.map Prod.fst)
  else .resources [⟨type, OrderedMap.ofList titled⟩]

theorem toList_declarationBlock (settings : Settings) (type : String) (titled : List (String × Parameters)) :
    (declarationBlock settings type titled).toList = gathered (declaredBlock settings type) titled := by
  rw [declarationBlock, gathered, declaredBlock]
  split_ifs <;> rfl

theorem Block.merge?_includes (first second : List String) :
    (Block.includes first).merge? .joined (.includes second) = some (.includes (first ++ second)) :=
  rfl

theorem Block.merge?_declaredBlock {settings : Settings} {type : String} (h : ¬settings.separatesDeclarations type)
    (first second : List (String × Parameters)) :
    (declaredBlock settings type first).merge? settings.includePolicy (declaredBlock settings type second) =
      some (declaredBlock settings type (first ++ second)) := by
  simp only [declaredBlock]
  split_ifs with hclass
  · have hpolicy : settings.includePolicy = .joined := by
      simp only [Bool.and_eq_true] at hclass
      cases hpolicy : settings.includePolicy with
      | joined => rfl
      | separate => exact (h ⟨hclass.1, hclass.2, hpolicy⟩).elim
    rw [hpolicy, List.map_append]
    exact Block.merge?_includes _ _
  · have hsets : ResourceSet.appendAll [⟨type, OrderedMap.ofList first⟩] [⟨type, OrderedMap.ofList second⟩] =
        [⟨type, OrderedMap.ofList (first ++ second)⟩] := by
      rw [OrderedMap.ofList_append]
      exact if_pos rfl
    exact congrArg (some ∘ Block.resources) hsets

theorem toList_callBlock_include (arguments : List Expr) :
    (callBlock "include" arguments).toList = gathered Block.includes (arguments.flatMap Expr.names) := by
  rw [callBlock, gathered]
  cases arguments.flatMap Expr.names <;> rfl

/-! ### Statements -/

namespace Statement

variable {settings : Settings}

theorem on_enterAll {body : List Statement} {blocks : List Block} (h : contributions settings body = .ok blocks)
    (outline : Outline) :
    (enterAll settings body).on outline = (.ok (), pushAll (Block.merge? settings.includePolicy) outline blocks) := by
  apply Change.on_of_appliedTo_eq_ok
  rw [appliedTo_enterAll, Outline.extend_eq_pushAll, h]
  rfl

/-- Two statements do what one does that gathers what both declare. -/
theorem exists_on_enterAll_eq {whole front back : Statement} {ε : Type} {gather : List ε → Block} {first second : List ε}
    (hwhole : Option.toList <$> whole.contribution settings = .ok (gathered gather (first ++ second)))
    (hfront : Option.toList <$> front.contribution settings = .ok (gathered gather first))
    (hback : Option.toList <$> back.contribution settings = .ok (gathered gather second))
    (hgather : ∀ first second, (gather first).merge? settings.includePolicy (gather second) = some (gather (first ++ second)))
    (outline : Outline) :
    ∃ grown, (enterAll settings [whole]).on outline = (.ok (), grown) ∧
      (enterAll settings [front, back]).on outline = (.ok (), grown) := by
  have hone : contributions settings [whole] = .ok (gathered gather (first ++ second)) := by
    obtain ⟨contributed, hcontributed, heq⟩ := exists_of_map_eq_ok hwhole
    rw [contributions, hcontributed, heq]
    exact congrArg Except.ok (List.append_nil _)
  have htwo : contributions settings [front, back] = .ok (gathered gather first ++ gathered gather second) := by
    obtain ⟨here, hhere, hhereEq⟩ := exists_of_map_eq_ok hfront
    obtain ⟨later, hlater, hlaterEq⟩ := exists_of_map_eq_ok hback
    rw [contributions, contributions, hhere, hlater, hhereEq, hlaterEq]
    exact congrArg Except.ok (congrArg (here.toList ++ ·) (List.append_nil _))
  refine ⟨_, on_enterAll hone outline, ?_⟩
  rw [on_enterAll htwo, pushAll_gathered_append (Block.associative_merge? _) hgather]

theorem toList_contribution_declare (settings : Settings) (type : String) {instances : List Instance}
    (h : ∀ declared ∈ instances, declared.IsComplete) :
    Option.toList <$> (declare type instances).contribution settings =
      .ok (gathered (declaredBlock settings type) (Instance.declared instances)) := by
  rw [contribution, Instance.titledAll_of_isComplete type h, ← toList_declarationBlock]
  rfl

theorem toList_contribution_include (settings : Settings) (arguments : List Expr) :
    Option.toList <$> (call "include" arguments).contribution settings =
      .ok (gathered Block.includes (arguments.flatMap Expr.names)) := by
  rw [contribution, ← toList_callBlock_include]
  rfl

/-- An instance with a list of titles does what instances with one title each do, whatever stands around it. -/
theorem enter_declare_list (settings : Settings) (type : String) (front back : List Instance) {titles : List Expr}
    (h : ∀ title ∈ titles, ¬title.IsList) (parameters : List Parameter) :
    (declare type (front ++ [⟨some (.list titles), some parameters⟩] ++ back)).enter settings =
      (declare type (front ++ (titles.map fun title => ⟨some title, some parameters⟩) ++ back)).enter settings := by
  rw [enter, enter, Instance.titledAll_append, Instance.titledAll_append, Instance.titledAll_append,
    Instance.titledAll_append, Instance.titledAll_list type h]

/-- A list among the arguments of a call does what its items do. -/
theorem enter_call_list (settings : Settings) (function : String) (front back : List Expr) {items : List Expr}
    (h : ∀ item ∈ items, ¬item.IsList) :
    (call function (front ++ [.list items] ++ back)).enter settings =
      (call function (front ++ items ++ back)).enter settings := by
  have hnames : (front ++ [Expr.list items] ++ back).flatMap Expr.names = (front ++ items ++ back).flatMap Expr.names := by
    simp only [List.flatMap_append, List.flatMap_singleton, Expr.names_list h]
  rw [enter, enter, Outline.callInPlace, Outline.callInPlace, hnames]

/-- How declarations and includes are grouped does not matter to the outline that they are entered into: instances may stand in one declaration or in two, unless their classes are includes that stay apart; a list of titles stands for instances with the same parameters; includes that are joined may stand in one call or in two; and a list of arguments stands for its items. -/
theorem enterAll_grouped (settings : Settings) (outline : Outline) :
    (∀ type first second, (∀ declared ∈ first ++ second, declared.IsComplete) → ¬settings.separatesDeclarations type →
      ∃ grown, (enterAll settings [.declare type (first ++ second)]).on outline = (.ok (), grown) ∧
        (enterAll settings [.declare type first, .declare type second]).on outline = (.ok (), grown)) ∧
    (∀ type front titles parameters back, (∀ title ∈ titles, ¬title.IsList) →
      (enterAll settings [.declare type (front ++ [⟨some (.list titles), some parameters⟩] ++ back)]).on outline =
        (enterAll settings
          [.declare type (front ++ (titles.map fun title => ⟨some title, some parameters⟩) ++ back)]).on outline) ∧
    (settings.includePolicy = .joined → ∀ first second,
      ∃ grown, (enterAll settings [.call "include" (first ++ second)]).on outline = (.ok (), grown) ∧
        (enterAll settings [.call "include" first, .call "include" second]).on outline = (.ok (), grown)) ∧
    ∀ front items back, (∀ item ∈ items, ¬item.IsList) →
      (enterAll settings [.call "include" (front ++ [.list items] ++ back)]).on outline =
        (enterAll settings [.call "include" (front ++ items ++ back)]).on outline := by
  refine ⟨?_, ?_, ?_, ?_⟩
  · intro type first second hcomplete htype
    have hwhole := toList_contribution_declare settings type hcomplete
    rw [Instance.declared_append] at hwhole
    rw [List.forall_mem_append] at hcomplete
    exact exists_on_enterAll_eq hwhole (toList_contribution_declare settings type hcomplete.1)
      (toList_contribution_declare settings type hcomplete.2) (Block.merge?_declaredBlock htype) outline
  · intro type front titles parameters back htitles
    simp only [enterAll, enter_declare_list settings type front back htitles]
  · intro hpolicy first second
    have hwhole := toList_contribution_include settings (first ++ second)
    rw [List.flatMap_append] at hwhole
    refine exists_on_enterAll_eq hwhole (toList_contribution_include settings first)
      (toList_contribution_include settings second) ?_ outline
    rw [hpolicy]
    exact Block.merge?_includes
  · intro front items back hitems
    simp only [enterAll, enter_call_list settings "include" front back hitems]

/-- An instance with a mode. -/
def withMode (mode : String) (title : Expr) : Instance :=
  ⟨some title, some [⟨"mode", .word mode⟩]⟩

theorem isComplete_withMode (mode : String) (title : Expr) : (withMode mode title).IsComplete :=
  ⟨rfl, rfl⟩

/-- Settings under which classes are included, every statement with a block of its own. -/
def separateClasses : Settings where
  includePolicy := .separate
  classDeclarationsAsIncludes := true

/-- An outline that ends with a file. -/
def fileOutline : Outline :=
  [.resources [⟨"file", OrderedMap.singleton "z" ∅⟩]]

theorem enterAll_grouped_files :
    (enterAll separateClasses [.declare "file" [withMode "1" (.word "a"), withMode "2" (.quoted "'b'")],
        .declare "file" [withMode "3" (.word "a")]]).on fileOutline =
      (.ok (), [.resources [⟨"file", OrderedMap.ofList [("z", ∅), ("a", OrderedMap.singleton "mode" (.text "3")),
        ("b", OrderedMap.singleton "mode" (.text "2"))]⟩]]) ∧
    (enterAll { classDeclarationsAsIncludes := true } [.declare "class" [withMode "1" (.word "ntp")],
        .declare "class" [withMode "2" (.word "ssh"), withMode "1" (.word "ntp")]]).on fileOutline =
      (.ok (), fileOutline ++ [.includes ["ntp", "ssh", "ntp"]]) ∧
    (enterAll separateClasses [.declare "class" [withMode "1" (.list [.quoted "'ntp'", .word "ssh"]),
        withMode "2" (.word "web")]]).on fileOutline = (.ok (), fileOutline ++ [.includes ["ntp", "ssh", "web"]]) ∧
    (enterAll { classDeclarationsAsIncludes := true } [.call "include" [.word "ntp", .word "ssh"],
        .call "include" [.word "ntp"]]).on fileOutline = (.ok (), fileOutline ++ [.includes ["ntp", "ssh", "ntp"]]) ∧
    (enterAll separateClasses [.call "include" [.word "ntp", .list [.quoted "'ssh'", .word "ntp"]]]).on fileOutline =
      (.ok (), fileOutline ++ [.includes ["ntp", "ssh", "ntp"]]) := by
  obtain ⟨hinstances, htitles, -, harguments⟩ := enterAll_grouped separateClasses fileOutline
  obtain ⟨hclasses, -, hincludes, -⟩ := enterAll_grouped { classDeclarationsAsIncludes := true } fileOutline
  refine ⟨?_, ?_, ?_, ?_, ?_⟩
  · have hcomplete : ∀ declared ∈ [withMode "1" (.word "a"), withMode "2" (.quoted "'b'")] ++ [withMode "3" (.word "a")],
        declared.IsComplete := by
      simp [isComplete_withMode]
    obtain ⟨grown, hone, htwo⟩ := hinstances "file" _ _ hcomplete fun h => absurd h.2.1 (by decide)
    exact htwo.trans (hone.symm.trans rfl)
  · have hcomplete : ∀ declared ∈ [withMode "1" (.word "ntp")] ++ [withMode "2" (.word "ssh"), withMode "1" (.word "ntp")],
        declared.IsComplete := by
      simp [isComplete_withMode]
    obtain ⟨grown, hone, htwo⟩ := hclasses "class" _ _ hcomplete nofun
    exact htwo.trans (hone.symm.trans rfl)
  · exact (htitles "class" [] _ _ [withMode "2" (.word "web")] (by simp [Expr.IsList])).trans rfl
  · obtain ⟨grown, hone, htwo⟩ := hincludes rfl [.word "ntp", .word "ssh"] [.word "ntp"]
    exact htwo.trans (hone.symm.trans rfl)
  · exact (harguments [.word "ntp"] _ [] (by simp [Expr.IsList])).trans rfl

/-- Classes that are includes of their own keep the grouping of their declarations. -/
example :
    let settings : Settings := { includePolicy := .separate, classDeclarationsAsIncludes := true }
    let ntp : Instance := ⟨some (.word "ntp"), some []⟩
    let ssh : Instance := ⟨some (.word "ssh"), some []⟩
    (enterAll settings [.declare "class" ([ntp] ++ [ssh])]).appliedTo [] = .ok [.includes ["ntp", "ssh"]] ∧
      (enterAll settings [.declare "class" [ntp], .declare "class" [ssh]]).appliedTo [] =
        .ok [.includes ["ntp"], .includes ["ssh"]] :=
  ⟨rfl, rfl⟩

end Statement

end Outlining
