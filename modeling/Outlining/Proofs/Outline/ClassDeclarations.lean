import Outlining.Proofs.Outline.Runs

/-!
# Declarations of classes as includes

To record declarations of classes as includes is a way of writing and nothing more: a body has the outline that it has when each such declaration, at every depth, is written as an include of its titles and declarations are left as they are (`ofBody_withIncludes`). The titles of a declaration and the arguments of an include are read alike, and either contributes nothing when it names nothing.
-/

namespace Outlining

mutual

/-- The statement with every declaration of classes in it written as an include of the declared titles. -/
def Statement.withIncludes : Statement → Statement
  | .declare type instances =>
    if isClassType type then .call "include" (instances.filterMap Instance.title) else .declare type instances
  | .choice subject options => .choice subject (Arm.allWithIncludes options)
  | .conditional condition consequence none =>
    .conditional condition (Statement.allWithIncludes consequence) none
  | .conditional condition consequence (some alternative) =>
    .conditional condition (Statement.allWithIncludes consequence) (some (Statement.allWithIncludes alternative))
  | statement => statement

def Statement.allWithIncludes : List Statement → List Statement
  | [] => []
  | first :: rest => first.withIncludes :: Statement.allWithIncludes rest

def Arm.allWithIncludes : List Arm → List Arm
  | [] => []
  | .mk values body :: rest => .mk values (Statement.allWithIncludes body) :: Arm.allWithIncludes rest

end

theorem Statement.isEmpty_allWithIncludes (body : List Statement) :
    (Statement.allWithIncludes body).isEmpty = body.isEmpty := by
  cases body <;> rfl

/-! ### Titles as names -/

/-- What instances declare is what their titles name, in order. -/
theorem Instance.map_fst_declared (instances : List Instance) :
    (Instance.declared instances).map Prod.fst = (instances.filterMap Instance.title).flatMap Expr.names := by
  induction instances with
  | nil => rfl
  | cons first rest ih =>
    rw [Instance.declared, List.flatMap_cons, List.map_append, ← Instance.declared, ih, List.filterMap_cons]
    cases first.title <;> simp [Function.comp_def]

/-- A declaration of classes has the block of an include of what it declares. -/
theorem declarationBlock_eq_callBlock {settings : Settings} {type : String}
    (hsettings : settings.classDeclarationsAsIncludes = true) (htype : isClassType type = true) (instances : List Instance) :
    declarationBlock settings type (Instance.declared instances) =
      callBlock "include" (instances.filterMap Instance.title) := by
  rw [declarationBlock, callBlock, ← Instance.map_fst_declared]
  cases Instance.declared instances with
  | nil => rfl
  | cons first rest => simp [hsettings, htype]

theorem declarationBlock_of_not_isClassType (settings other : Settings) {type : String}
    (htype : isClassType type = false) (titled : List (String × Parameters)) :
    declarationBlock settings type titled = declarationBlock other type titled := by
  rw [declarationBlock, declarationBlock, htype, Bool.and_false, Bool.and_false]

/-! ### Bodies -/

section Bodies

variable {settings : Settings}

mutual

theorem Statement.contribution_withIncludes {statement : Statement} {contributed : Option Block}
    (h : statement.contribution { settings with classDeclarationsAsIncludes := true } = .ok contributed) :
    statement.withIncludes.contribution { settings with classDeclarationsAsIncludes := false } = .ok contributed := by
  cases statement with
  | declare type instances =>
    obtain ⟨titled, htitled, rfl⟩ := exists_of_map_eq_ok h
    cases htype : isClassType type with
    | true =>
      rw [← Instance.titledAll_eq_declared htitled, declarationBlock_eq_callBlock rfl htype, Statement.withIncludes,
        if_pos htype]
      rfl
    | false =>
      rw [Statement.withIncludes, htype, if_neg Bool.false_ne_true, Statement.contribution, htitled]
      exact congrArg Except.ok (declarationBlock_of_not_isClassType _ _ htype titled)
  | choice subject options =>
    obtain ⟨branches, hbranches, h⟩ := exists_of_bind_eq_ok h
    rw [Statement.withIncludes, Statement.contribution, Arm.branches_allWithIncludes hbranches]
    exact h
  | conditional condition consequence alternative =>
    cases alternative with
    | none =>
      obtain ⟨outline, houtline, h⟩ := exists_of_bind_eq_ok h
      rw [Statement.withIncludes, Statement.contribution, Outline.extend_allWithIncludes houtline]
      exact h
    | some alternative =>
      obtain ⟨outline, houtline, h⟩ := exists_of_bind_eq_ok h
      obtain ⟨other, hother, h⟩ := exists_of_bind_eq_ok h
      rw [Statement.withIncludes, Statement.contribution, Outline.extend_allWithIncludes houtline,
        Outline.extend_allWithIncludes hother, Statement.isEmpty_allWithIncludes]
      exact h
  | override target parameters => cases parameters <;> exact h
  | typeDefaults type parameters => cases parameters <;> exact h
  | _ => exact h

theorem Outline.extend_allWithIncludes {outline result : Outline} {body : List Statement}
    (h : Outline.extend { settings with classDeclarationsAsIncludes := true } outline body = .ok result) :
    Outline.extend { settings with classDeclarationsAsIncludes := false } outline (Statement.allWithIncludes body) =
      .ok result := by
  cases body with
  | nil => exact h
  | cons statement rest =>
    obtain ⟨contributed, hfirst, h⟩ := exists_of_bind_eq_ok h
    rw [Statement.allWithIncludes, Outline.extend, Statement.contribution_withIncludes hfirst]
    exact Outline.extend_allWithIncludes h

theorem Arm.branches_allWithIncludes {options : List Arm} {branches : List Branch}
    (h : Arm.branches { settings with classDeclarationsAsIncludes := true } options = .ok branches) :
    Arm.branches { settings with classDeclarationsAsIncludes := false } (Arm.allWithIncludes options) = .ok branches := by
  cases options with
  | nil => exact h
  | cons option rest =>
    obtain ⟨values, body⟩ := option
    obtain ⟨outline, houtline, h⟩ := exists_of_bind_eq_ok h
    obtain ⟨more, hmore, h⟩ := exists_of_bind_eq_ok h
    rw [Arm.allWithIncludes, Arm.branches, Outline.extend_allWithIncludes houtline, Arm.branches_allWithIncludes hmore]
    exact h

end

end Bodies

/-- A body whose class declarations count as includes has the outline of the body that has includes in their place. -/
theorem ofBody_withIncludes {settings : Settings} {body : List Statement} {outline : Outline}
    (h : Outline.ofBody { settings with classDeclarationsAsIncludes := true } body = .ok outline) :
    Outline.ofBody { settings with classDeclarationsAsIncludes := false } (Statement.allWithIncludes body) = .ok outline :=
  Outline.extend_allWithIncludes h

/-- Classes declared between includes, in lists and templates, at several depths; one declaration names nothing. -/
def declaredClasses : List Statement :=
  [.call "include" [.word "base"],
    .declare "Class" [⟨some (.list [.quoted "'ntp'", .list [.quoted "\"ssh\"", .word "web"]]), some []⟩,
      ⟨some (.template [.text "site-", .variable "zone"]), some [⟨"port", .word "80"⟩]⟩],
    .declare "class" [⟨some (.list []), some []⟩],
    .declare "file" [⟨some (.quoted "'/a'"), some []⟩],
    .choice (.variable "os") [.mk [.word "default"]
      [.declare "CLASS" [⟨some (.quoted "'\\\"db\\\"'"), some []⟩],
        .conditional (.variable "x") [.declare "class" [⟨some (.word "x"), some []⟩]] (some [])]]]

theorem ofBody_withIncludes_declaredClasses : ∃ outline,
    Outline.ofBody { includePolicy := .separate, classDeclarationsAsIncludes := true } declaredClasses = .ok outline ∧
      Outline.ofBody { includePolicy := .separate } (Statement.allWithIncludes declaredClasses) = .ok outline ∧
        outline.map Block.kind = [.includes, .includes, .resources, .choice] :=
  ⟨_, rfl, @ofBody_withIncludes { includePolicy := .separate } _ _ rfl, rfl⟩

end Outlining
