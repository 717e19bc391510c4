import Outlining.Proofs.Outline.Merging

/-!
# Outlines as runs of statements

An outline described as a whole, without putting block behind block. What a body shows is one entry for each statement that has something to show; the entries are cut into maximal runs of one kind, and every run is one block. The main statement, `ofBody_eq_described`, is that outlining a body gives exactly this.
-/

namespace Outlining

open TailMerge

/-- What one statement shows by itself. -/
inductive Entry where
  | assignment (name : String) (value : Value)
  | resources (type : String) (titled : List (String × Parameters))
  | override (target : String) (parameters : Parameters)
  | typeDefaults (type : String) (parameters : Parameters)
  | choice (subject : String) (options : List Branch)
  | conditional (condition : String) (consequence : Outline) (alternative : Option Outline)
  | includes (classes : List String)

namespace Entry

def kind : Entry → Block.Kind
  | assignment _ _ => .variables
  | resources _ _ => .resources
  | override _ _ => .overrides
  | typeDefaults _ _ => .typeDefaults
  | choice _ _ => .choice
  | conditional _ _ _ => .conditional
  | includes _ => .includes

/-- Whether two neighbouring entries belong to one run. -/
def joins (policy : IncludePolicy) (first second : Entry) : Bool :=
  first.kind == second.kind && second.kind.joins policy

def assignments : Entry → List (String × Value)
  | assignment name value => [(name, value)]
  | _ => []

def declarations : Entry → List (String × List (String × Parameters))
  | resources type titled => [(type, titled)]
  | _ => []

def overrides : Entry → List (String × Parameters)
  | override target parameters => [(target, parameters)]
  | _ => []

def defaults : Entry → List (String × Parameters)
  | typeDefaults type parameters => [(type, parameters)]
  | _ => []

def classes : Entry → List String
  | includes classes => classes
  | _ => []

end Entry

namespace ResourceSet

/-- The set of declarations of one type: each title at its first place with the parameters of its last declaration. -/
def ofDeclarations (first : String × List (String × Parameters)) (rest : List (String × List (String × Parameters))) :
    ResourceSet :=
  ⟨first.1, .settled ((first :: rest).flatMap Prod.snd)⟩

/-- One set for each maximal run of declarations of one type. -/
def ofRuns (declarations : List (String × List (String × Parameters))) : List ResourceSet :=
  TailMerge.ofRuns (fun first second => first.1 == second.1) ofDeclarations declarations

end ResourceSet

/-- The block of a run of entries of one kind. A run of choices or conditionals is one entry. -/
def Block.ofEntries (first : Entry) (rest : List Entry) : Block :=
  match first with
  | .assignment _ _ => .variables (.settled ((first :: rest).flatMap Entry.assignments))
  | .resources _ _ => .resources (ResourceSet.ofRuns ((first :: rest).flatMap Entry.declarations))
  | .override _ _ => .overrides (.settled ((first :: rest).flatMap Entry.overrides))
  | .typeDefaults _ _ => .typeDefaults (.settled ((first :: rest).flatMap Entry.defaults))
  | .choice subject options => .choice subject options
  | .conditional condition consequence alternative => .conditional condition consequence alternative
  | .includes _ => .includes ((first :: rest).flatMap Entry.classes)

/-- The blocks of entries: one for each maximal run. -/
def Outline.ofEntries (policy : IncludePolicy) (entries : List Entry) : Outline :=
  TailMerge.ofRuns (Entry.joins policy) Block.ofEntries entries

/-- The titles that instances declare, each with its parameters. -/
def Instance.declared (instances : List Instance) : List (String × Parameters) :=
  instances.flatMap fun declared =>
    (declared.title.elim [] Expr.names).map fun name => (name, Parameter.record (declared.parameters.getD []))

mutual

/-- What a statement shows. Declarations without a title, includes without a class, calls of other functions and unrecognized statements show nothing. -/
def Statement.shownEntry (settings : Settings) : Statement → Option Entry
  | .assign name value => some (.assignment name (Value.ofExpr value))
  | .declare type instances =>
    let titled := Instance.declared instances
    if titled = [] then none
    else if settings.classDeclarationsAsIncludes = true ∧ isClassType type = true then
      some (.includes (titled.map Prod.fst))
    else some (.resources type titled)
  | .override target parameters => some (.override target.written (Parameter.record (parameters.getD [])))
  | .typeDefaults type parameters => some (.typeDefaults type (Parameter.record (parameters.getD [])))
  | .choice subject options => some (.choice subject.shown (Arm.described settings options))
  | .conditional condition consequence none =>
    some (.conditional condition.asCondition (Outline.ofEntries settings.includePolicy (Statement.entries settings consequence)) none)
  | .conditional condition consequence (some alternative) =>
    some (.conditional condition.asCondition (Outline.ofEntries settings.includePolicy (Statement.entries settings consequence))
      (if alternative.isEmpty then none
        else some (Outline.ofEntries settings.includePolicy (Statement.entries settings alternative))))
  | .call function arguments =>
    if function = "include" ∧ arguments.flatMap Expr.names ≠ [] then some (.includes (arguments.flatMap Expr.names))
    else none
  | .other _ => none

def Statement.entries (settings : Settings) : List Statement → List Entry
  | [] => []
  | first :: rest => (first.shownEntry settings).toList ++ Statement.entries settings rest

/-- The options of a choice, each with its body described. -/
def Arm.described (settings : Settings) : List Arm → List Branch
  | [] => []
  | .mk values body :: rest =>
    .mk (Expr.label values) (Outline.ofEntries settings.includePolicy (Statement.entries settings body)) ::
      Arm.described settings rest

end

/-- The outline of a body as a whole. -/
def Outline.described (settings : Settings) (body : List Statement) : Outline :=
  Outline.ofEntries settings.includePolicy (Statement.entries settings body)

theorem Statement.entries_eq_filterMap (settings : Settings) (body : List Statement) :
    Statement.entries settings body = body.filterMap (Statement.shownEntry settings) := by
  induction body with
  | nil => rfl
  | cons first rest ih =>
    rw [Statement.entries, ih, List.filterMap_cons]
    cases first.shownEntry settings <;> rfl

/-! ### Entries put behind each other -/

theorem ResourceSet.pushAll_declarations (declarations : List (String × List (String × Parameters))) :
    pushAll ResourceSet.merge? [] (declarations.map (ResourceSet.ofDeclarations · [])) =
      ResourceSet.ofRuns declarations := by
  refine pushAll_singles ?_ declarations
  intro first rest last next hchain hlast
  have htype : first.1 = last.1 := key_eq_of_isChain (hchain.imp fun _ _ => beq_iff_eq.1) hlast
  by_cases hnext : last.1 = next.1
  · rw [if_pos (beq_iff_eq.2 hnext), ResourceSet.merge?_of_type_eq (htype.trans hnext)]
    simp only [ResourceSet.ofDeclarations, ← OrderedMap.settled_append, ← List.flatMap_append, List.cons_append]
  · rw [if_neg (mt beq_iff_eq.1 hnext), ResourceSet.merge?_eq_none_iff]
    exact fun h => hnext (htype.symm.trans h)

theorem ResourceSet.ofRuns_append (declarations more : List (String × List (String × Parameters))) :
    ResourceSet.ofRuns (declarations ++ more) =
      ResourceSet.appendAll (ResourceSet.ofRuns declarations) (ResourceSet.ofRuns more) := by
  rw [ResourceSet.appendAll_eq_pushAll]
  simp only [← ResourceSet.pushAll_declarations]
  rw [← pushAll_assoc ResourceSet.associative_merge?, pushAll_nil, List.map_append, pushAll_append]

theorem Block.kind_ofEntries (first : Entry) (rest : List Entry) : (Block.ofEntries first rest).kind = first.kind := by
  cases first <;> rfl

theorem Block.merge?_ofEntries {policy : IncludePolicy} {first next : Entry} (rest : List Entry)
    (hkind : first.kind = next.kind) (hjoins : next.kind.joins policy = true) :
    (Block.ofEntries first rest).merge? policy (Block.ofEntries next []) = some (Block.ofEntries first (rest ++ [next])) := by
  rw [Block.merge?, Block.kind_ofEntries, if_pos hjoins]
  cases first <;> cases next <;> cases hkind
  case choice => cases hjoins
  case conditional => cases hjoins
  case resources =>
    simp only [Block.ofEntries, Block.combine?, ← ResourceSet.ofRuns_append, ← List.flatMap_append, List.cons_append]
  case includes => simp only [Block.ofEntries, Block.combine?, ← List.flatMap_append, List.cons_append]
  all_goals simp only [Block.ofEntries, Block.combine?, ← OrderedMap.settled_append, ← List.flatMap_append, List.cons_append]

theorem Outline.pushAll_entries (policy : IncludePolicy) (entries : List Entry) :
    pushAll (Block.merge? policy) [] (entries.map (Block.ofEntries · [])) = Outline.ofEntries policy entries := by
  refine pushAll_singles ?_ entries
  intro first rest last next hchain hlast
  have hkind : first.kind = last.kind := by
    refine key_eq_of_isChain (hchain.imp fun left right hjoins => ?_) hlast
    exact beq_iff_eq.1 (Bool.and_eq_true_iff.1 hjoins).1
  cases hjoins : last.joins policy next with
  | true =>
    obtain ⟨hnext, hnext'⟩ := Bool.and_eq_true_iff.1 hjoins
    exact Block.merge?_ofEntries rest (hkind.trans (beq_iff_eq.1 hnext)) hnext'
  | false =>
    rw [if_neg Bool.false_ne_true, Block.merge?_eq_none_iff, Block.kind_ofEntries, Block.kind_ofEntries, hkind]
    rcases Bool.and_eq_false_iff.1 hjoins with hnext | hnext
    · exact .inl (beq_eq_false_iff_ne.1 hnext)
    · exact .inr hnext

/-! ### Statements one by one -/

theorem Instance.titledAll_eq_declared {type : String} {instances : List Instance} {titled : List (String × Parameters)}
    (h : Instance.titledAll type instances = .ok titled) : Instance.declared instances = titled := by
  induction instances generalizing titled with
  | nil =>
    cases h
    rfl
  | cons first rest ih =>
    obtain ⟨titles, hfirst, h⟩ := exists_of_bind_eq_ok h
    obtain ⟨more, hrest, h⟩ := exists_of_bind_eq_ok h
    cases h
    rw [← ih hrest]
    obtain ⟨title, parameters⟩ := first
    cases title <;> cases parameters <;> cases hfirst
    rfl

theorem Block.ofEntries_resources (type : String) (titled : List (String × Parameters)) :
    Block.ofEntries (.resources type titled) [] = .resources [⟨type, .settled titled⟩] := by
  have hsets : ResourceSet.ofRuns [(type, titled)] = [⟨type, .settled titled⟩] := by
    rw [← ResourceSet.pushAll_declarations]
    simp [ResourceSet.ofDeclarations]
  exact congrArg Block.resources hsets

theorem Block.ofEntries_includes (classes : List String) : Block.ofEntries (.includes classes) [] = .includes classes :=
  congrArg Block.includes (List.append_nil classes)

theorem declarationBlock_eq_entry (settings : Settings) (type : String) (instances : List Instance) :
    declarationBlock settings type (Instance.declared instances) =
      ((Statement.declare type instances).shownEntry settings).map (Block.ofEntries · []) := by
  by_cases hnone : Instance.declared instances = []
  · simp [declarationBlock, Statement.shownEntry, hnone]
  · have hsome : ¬(Instance.declared instances).isEmpty = true := by simpa using hnone
    simp only [declarationBlock, Statement.shownEntry, if_neg hsome, if_neg hnone, Bool.and_eq_true]
    split
    · rw [Option.map_some, Block.ofEntries_includes]
    · rw [Option.map_some, Block.ofEntries_resources, OrderedMap.ofList_eq_settled]

theorem callBlock_eq_entry (settings : Settings) (function : String) (arguments : List Expr) :
    callBlock function arguments =
      ((Statement.call function arguments).shownEntry settings).map (Block.ofEntries · []) := by
  rw [callBlock, Statement.shownEntry]
  split
  · rw [Option.map_some, Block.ofEntries_includes]
  · rfl

theorem Outline.eq_ofEntries {settings : Settings} {body : List Statement} {outline : Outline}
    (hentries : ∀ {blocks}, Statement.contributions settings body = .ok blocks →
      blocks = (Statement.entries settings body).map (Block.ofEntries · []))
    (h : Outline.ofBody settings body = .ok outline) : outline = Outline.described settings body := by
  rw [Outline.ofBody_eq_pushAll] at h
  obtain ⟨blocks, hblocks, rfl⟩ := exists_of_map_eq_ok h
  rw [hentries hblocks, Outline.pushAll_entries]
  rfl

mutual

/-- What a statement contributes is the block of what it shows, taken as a run of its own. -/
theorem Statement.contribution_eq_entry {settings : Settings} {statement : Statement} {contributed : Option Block}
    (h : statement.contribution settings = .ok contributed) :
    contributed = (statement.shownEntry settings).map (Block.ofEntries · []) := by
  cases statement with
  | assign name value =>
    cases h
    rw [OrderedMap.singleton_eq_settled]
    rfl
  | declare type instances =>
    obtain ⟨titled, htitled, rfl⟩ := exists_of_map_eq_ok h
    rw [← Instance.titledAll_eq_declared htitled, declarationBlock_eq_entry]
  | override target parameters =>
    cases parameters <;> cases h
    rw [OrderedMap.singleton_eq_settled]
    rfl
  | typeDefaults type parameters =>
    cases parameters <;> cases h
    rw [OrderedMap.singleton_eq_settled]
    rfl
  | choice subject options =>
    obtain ⟨branches, hbranches, h⟩ := exists_of_bind_eq_ok h
    cases h
    rw [Arm.branches_eq_described hbranches]
    rfl
  | conditional condition consequence alternative =>
    cases alternative with
    | none =>
      obtain ⟨outline, houtline, h⟩ := exists_of_bind_eq_ok h
      cases h
      rw [Outline.eq_ofEntries Statement.contributions_eq_entries houtline]
      rfl
    | some alternative =>
      obtain ⟨outline, houtline, h⟩ := exists_of_bind_eq_ok h
      obtain ⟨other, hother, h⟩ := exists_of_bind_eq_ok h
      cases h
      rw [Outline.eq_ofEntries Statement.contributions_eq_entries houtline,
        Outline.eq_ofEntries Statement.contributions_eq_entries hother]
      rfl
  | call function arguments =>
    cases h
    exact callBlock_eq_entry settings function arguments
  | other text =>
    cases h
    rfl

theorem Statement.contributions_eq_entries {settings : Settings} {body : List Statement} {blocks : List Block}
    (h : Statement.contributions settings body = .ok blocks) :
    blocks = (Statement.entries settings body).map (Block.ofEntries · []) := by
  cases body with
  | nil =>
    cases h
    rfl
  | cons statement rest =>
    obtain ⟨contributed, hfirst, h⟩ := exists_of_bind_eq_ok h
    obtain ⟨more, hrest, h⟩ := exists_of_bind_eq_ok h
    cases h
    rw [Statement.contribution_eq_entry hfirst, Statement.contributions_eq_entries hrest, Statement.entries]
    cases statement.shownEntry settings <;> simp

theorem Arm.branches_eq_described {settings : Settings} {options : List Arm} {branches : List Branch}
    (h : Arm.branches settings options = .ok branches) : branches = Arm.described settings options := by
  cases options with
  | nil =>
    cases h
    rfl
  | cons option rest =>
    obtain ⟨values, body⟩ := option
    obtain ⟨outline, houtline, h⟩ := exists_of_bind_eq_ok h
    obtain ⟨more, hmore, h⟩ := exists_of_bind_eq_ok h
    cases h
    rw [Outline.eq_ofEntries Statement.contributions_eq_entries houtline, Arm.branches_eq_described hmore]
    rfl

end

/-- A body that can be outlined has one block for each maximal run of entries of one kind, in the order of the runs. -/
theorem ofBody_eq_described {settings : Settings} {body : List Statement} {outline : Outline}
    (h : Outline.ofBody settings body = .ok outline) : outline = Outline.described settings body :=
  Outline.eq_ofEntries Statement.contributions_eq_entries h

/-- A body whose runs are interrupted by statements that contribute nothing. -/
def interruptedBody : List Statement :=
  [.assign "mode" (some (.quoted "'0644'")), .other "comment", .assign "owner" none, .assign "mode" (some (.word "0600")),
    .declare "file" [⟨some (.list [.quoted "'/a'", .quoted "'/b'"]), some [⟨"mode", .variable "mode"⟩]⟩],
    .declare "file" [⟨some (.quoted "\"/a\""), some []⟩], .declare "service" [⟨some (.word "ntp"), some []⟩],
    .declare "Class" [⟨some (.word "base"), some []⟩], .call "include" [.list []], .call "include" [.word "ntp"],
    .conditional (.variable "first") [.call "notice" []] (some []), .conditional (.variable "second") [] none]

theorem described_interruptedBody : ∃ outline,
    Outline.ofBody { classDeclarationsAsIncludes := true } interruptedBody = .ok outline ∧
      outline = Outline.described { classDeclarationsAsIncludes := true } interruptedBody ∧
      outline.map Block.kind = [.variables, .resources, .includes, .conditional, .conditional] :=
  ⟨_, rfl, ofBody_eq_described rfl, rfl⟩

end Outlining
