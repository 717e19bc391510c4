import Outlining.Proofs.Outline.ClassDeclarations
import Outlining.Proofs.Outline.Nesting

/-!
# The two include policies

The policies differ in where blocks of includes end and in nothing else. The outline under the joined policy is the outline under the separate policy with neighbouring blocks of includes fused, at every depth (`ofBody_joined`): fusing before a block is put behind an outline or after it makes no difference (`Outline.fused_push`), so the two runs agree step by step. Under the separate policy, the blocks of includes at each depth are those of the statements there that include a class.
-/

namespace Outlining

open TailMerge

def Settings.withPolicy (settings : Settings) (policy : IncludePolicy) : Settings :=
  { settings with includePolicy := policy }

/-! ### Fusing blocks of includes -/

def Block.included? : Block → Option (List String)
  | .includes classes => some classes
  | _ => none

def Block.bothInclude (first second : Block) : Bool :=
  first.kind == .includes && second.kind == .includes

/-- One block for a run of blocks of includes, with the classes of all of them; any other block is a run of its own. -/
def Block.ofRun (first : Block) (rest : List Block) : Block :=
  match first with
  | .includes _ => .includes ((first :: rest).filterMap Block.included?).flatten
  | other => other

/-- The blocks with each maximal run of blocks of includes made one. -/
def Outline.fuseRuns (outline : Outline) : Outline :=
  TailMerge.ofRuns Block.bothInclude Block.ofRun outline

mutual

/-- The block with the runs in its bodies fused, at every depth. -/
def Block.fused : Block → Block
  | .choice subject options => .choice subject (Branch.fusedAll options)
  | .conditional condition consequence none =>
    .conditional condition (Outline.fuseRuns (Block.fusedAll consequence)) none
  | .conditional condition consequence (some alternative) =>
    .conditional condition (Outline.fuseRuns (Block.fusedAll consequence))
      (some (Outline.fuseRuns (Block.fusedAll alternative)))
  | block => block

def Block.fusedAll : List Block → List Block
  | [] => []
  | first :: rest => first.fused :: Block.fusedAll rest

def Branch.fusedAll : List Branch → List Branch
  | [] => []
  | .mk label outline :: rest => .mk label (Outline.fuseRuns (Block.fusedAll outline)) :: Branch.fusedAll rest

end

/-- The outline with neighbouring blocks of includes fused, at every depth. -/
def Outline.fused (outline : Outline) : Outline :=
  Outline.fuseRuns (outline.map Block.fused)

theorem Block.fusedAll_eq_map (blocks : List Block) : Block.fusedAll blocks = blocks.map Block.fused := by
  induction blocks with
  | nil => rfl
  | cons first rest ih => rw [Block.fusedAll, ih, List.map_cons]

namespace Block

def fuse? : Block → Block → Option Block
  | .includes first, .includes second => some (.includes (first ++ second))
  | _, _ => none

theorem kind_fused (block : Block) : block.fused.kind = block.kind := by
  cases block with
  | conditional condition consequence alternative => cases alternative <;> rfl
  | _ => rfl

theorem fuse?_of_kind_ne {first second : Block} (h : second.kind ≠ .includes) : first.fuse? second = none := by
  cases second <;> first | exact absurd rfl h | cases first <;> rfl

theorem kind_of_fuse? {first second merged : Block} (h : first.fuse? second = some merged) :
    merged.kind = second.kind := by
  cases first <;> cases second <;> cases h
  rfl

/-- Blocks that stay apart under the separate policy become one under the joined policy exactly if both are blocks of includes. -/
theorem merge?_joined_eq_fuse? {first second : Block} (h : first.merge? .separate second = none) :
    first.merge? .joined second = first.fuse? second := by
  cases first <;> cases second <;> first | rfl | cases h

theorem merge?_joined_of_separate {first second merged : Block} (h : first.merge? .separate second = some merged) :
    first.merge? .joined second = some merged := by
  obtain ⟨hjoins, hcombine⟩ := combine?_of_merge? h
  rw [merge?, if_pos (Kind.joins_joined hjoins), hcombine]

/-- Blocks that become one under the separate policy have no bodies and do not include. -/
theorem fused_of_merge?_separate {first second merged : Block} (h : first.merge? .separate second = some merged) :
    first.fused = first ∧ second.fused = second ∧ merged.fused = merged ∧
      first.kind ≠ .includes ∧ merged.kind ≠ .includes := by
  cases first <;> cases second <;> cases h <;> exact ⟨rfl, rfl, rfl, nofun, nofun⟩

theorem ofRun_nil (block : Block) : Block.ofRun block [] = block := by
  cases block <;> simp [ofRun, included?]

theorem fuse?_ofRun {first last next : Block} {rest : List Block}
    (hchain : (first :: rest).IsChain fun left right => bothInclude left right) (hlast : last ∈ (first :: rest).getLast?) :
    (Block.ofRun first rest).fuse? (Block.ofRun next []) =
      if bothInclude last next then some (Block.ofRun first (rest ++ [next])) else none := by
  -- the blocks of a run all include or none does, so its first block stands for its last
  have hkeys : (first :: rest).IsChain fun left right => (left.kind == .includes) = (right.kind == .includes) := by
    refine hchain.imp fun left right hboth => ?_
    obtain ⟨hleft, hright⟩ := Bool.and_eq_true_iff.1 hboth
    rw [hleft, hright]
  have hkind : (first.kind == .includes) = (last.kind == .includes) := key_eq_of_isChain hkeys hlast
  rw [bothInclude, ← hkind, ofRun_nil]
  cases first <;> cases next <;> simp [ofRun, fuse?, kind, included?]

end Block

namespace Outline

theorem fuseRuns_eq_pushAll (outline : Outline) : outline.fuseRuns = pushAll Block.fuse? [] outline := by
  have hsingles := pushAll_singles (fun _ _ _ _ => Block.fuse?_ofRun) outline
  simp only [Block.ofRun_nil, List.map_id'] at hsingles
  exact hsingles.symm

theorem fused_concat (outline : Outline) (next : Block) :
    fused (outline ++ [next]) = push Block.fuse? outline.fused next.fused := by
  rw [fused, fused, fuseRuns_eq_pushAll, fuseRuns_eq_pushAll, List.map_append, pushAll_append]
  rfl

theorem exists_last_fused (outline : Outline) (last : Block) :
    ∃ before final, fused (outline ++ [last]) = before ++ [final] ∧ final.kind = last.kind := by
  rw [fused_concat]
  obtain ⟨before, final, hpush, rfl | ⟨previous, hmerge⟩⟩ := @exists_last_push Block Block.fuse? outline.fused last.fused
  · exact ⟨before, last.fused, hpush, last.kind_fused⟩
  · exact ⟨before, final, hpush, (Block.kind_of_fuse? hmerge).trans last.kind_fused⟩

/-- One step of the two runs: a block put behind an outline under the separate policy and then fused is the fused block put behind the fused outline under the joined policy. -/
theorem fused_push (outline : Outline) (next : Block) :
    fused (push (Block.merge? .separate) outline next) = push (Block.merge? .joined) outline.fused next.fused := by
  rcases outline.eq_nil_or_concat' with rfl | ⟨outline, last, rfl⟩
  · exact fused_concat [] next
  · cases hmerge : last.merge? .separate next with
    | none =>
      -- the last block of the fused outline need not be `last`, but it is of the same kind
      obtain ⟨before, final, hfused, hkind⟩ := exists_last_fused outline last
      have hapart : final.merge? .separate next.fused = none := by
        rw [Block.merge?_eq_none_iff] at hmerge ⊢
        rwa [hkind, next.kind_fused]
      rw [push_of_none hmerge, fused_concat, hfused, push_concat, push_concat, Block.merge?_joined_eq_fuse? hapart]
    | some merged =>
      obtain ⟨hlast, hnext, hmerged, hkind, hkind'⟩ := Block.fused_of_merge?_separate hmerge
      rw [push_of_some hmerge, fused_concat, fused_concat, hlast, hnext, hmerged,
        push_eq_append fun _ => Block.fuse?_of_kind_ne hkind, push_eq_append fun _ => Block.fuse?_of_kind_ne hkind',
        push_of_some (Block.merge?_joined_of_separate hmerge)]

theorem fused_pushAll (outline : Outline) (blocks : List Block) :
    fused (pushAll (Block.merge? .separate) outline blocks) =
      pushAll (Block.merge? .joined) outline.fused (blocks.map Block.fused) := by
  induction blocks generalizing outline with
  | nil => rfl
  | cons next blocks ih => rw [pushAll_cons, ih, fused_push, List.map_cons, pushAll_cons]

end Outline

/-! ### Both runs -/

theorem declarationBlock_eq_map_fused (settings : Settings) (type : String) (titled : List (String × Parameters)) :
    declarationBlock settings type titled = (declarationBlock settings type titled).map Block.fused := by
  rw [declarationBlock]
  split_ifs <;> rfl

theorem callBlock_eq_map_fused (function : String) (arguments : List Expr) :
    callBlock function arguments = (callBlock function arguments).map Block.fused := by
  rw [callBlock]
  split_ifs <;> rfl

theorem Outline.extend_joined_of_contributions {settings : Settings} {body : List Statement}
    (h : Statement.contributions (settings.withPolicy .joined) body =
      (Statement.contributions (settings.withPolicy .separate) body).map (List.map Block.fused)) :
    Outline.extend (settings.withPolicy .joined) [] body =
      (Outline.extend (settings.withPolicy .separate) [] body).map Outline.fused := by
  rw [extend_eq_pushAll, extend_eq_pushAll, h]
  cases Statement.contributions (settings.withPolicy .separate) body with
  | error violation => rfl
  | ok blocks => exact congrArg Except.ok (Outline.fused_pushAll [] blocks).symm

mutual

theorem Statement.contribution_joined (settings : Settings) (statement : Statement) :
    statement.contribution (settings.withPolicy .joined) =
      (statement.contribution (settings.withPolicy .separate)).map (Option.map Block.fused) := by
  cases statement with
  | declare type instances =>
    rw [Statement.contribution, Statement.contribution]
    cases Instance.titledAll type instances with
    | error violation => rfl
    | ok titled => exact congrArg Except.ok (declarationBlock_eq_map_fused _ type titled)
  | override target parameters => cases parameters <;> rfl
  | typeDefaults type parameters => cases parameters <;> rfl
  | choice subject options =>
    rw [Statement.contribution, Statement.contribution, Arm.branches_joined settings options]
    cases Arm.branches (settings.withPolicy .separate) options <;> rfl
  | conditional condition consequence alternative =>
    have hconsequence := Outline.extend_joined_of_contributions (Statement.contributions_joined settings consequence)
    cases alternative with
    | none =>
      rw [Statement.contribution, Statement.contribution, hconsequence]
      cases Outline.extend (settings.withPolicy .separate) [] consequence with
      | error violation => rfl
      | ok outline =>
        refine congrArg Except.ok ?_
        simp [Block.fused, Outline.fused, Block.fusedAll_eq_map]
    | some alternative =>
      have halternative := Outline.extend_joined_of_contributions (Statement.contributions_joined settings alternative)
      rw [Statement.contribution, Statement.contribution, hconsequence, halternative]
      cases Outline.extend (settings.withPolicy .separate) [] consequence with
      | error violation => rfl
      | ok outline =>
        cases Outline.extend (settings.withPolicy .separate) [] alternative with
        | error violation => rfl
        | ok other =>
          refine congrArg Except.ok ?_
          cases alternative <;> simp [Block.fused, Outline.fused, Block.fusedAll_eq_map]
  | call function arguments => exact congrArg Except.ok (callBlock_eq_map_fused function arguments)
  | _ => rfl

theorem Statement.contributions_joined (settings : Settings) (body : List Statement) :
    Statement.contributions (settings.withPolicy .joined) body =
      (Statement.contributions (settings.withPolicy .separate) body).map (List.map Block.fused) := by
  cases body with
  | nil => rfl
  | cons statement rest =>
    rw [Statement.contributions, Statement.contributions, Statement.contribution_joined settings statement,
      Statement.contributions_joined settings rest]
    cases statement.contribution (settings.withPolicy .separate) with
    | error violation => rfl
    | ok contributed =>
      cases Statement.contributions (settings.withPolicy .separate) rest with
      | error violation => rfl
      | ok blocks => cases contributed <;> rfl

theorem Arm.branches_joined (settings : Settings) (options : List Arm) :
    Arm.branches (settings.withPolicy .joined) options =
      (Arm.branches (settings.withPolicy .separate) options).map Branch.fusedAll := by
  cases options with
  | nil => rfl
  | cons option rest =>
    obtain ⟨values, body⟩ := option
    have hbody := Outline.extend_joined_of_contributions (Statement.contributions_joined settings body)
    rw [Arm.branches, Arm.branches, hbody, Arm.branches_joined settings rest]
    cases Outline.extend (settings.withPolicy .separate) [] body with
    | error violation => rfl
    | ok outline =>
      cases Arm.branches (settings.withPolicy .separate) rest with
      | error violation => rfl
      | ok branches =>
        refine congrArg Except.ok ?_
        simp [Branch.fusedAll, Outline.fused, Block.fusedAll_eq_map]

end

/-! ### Which statements the blocks of includes come from -/

/-- The classes that a statement includes. -/
def Statement.classes (settings : Settings) : Statement → List String
  | .declare type instances =>
    if settings.classDeclarationsAsIncludes && isClassType type then
      (instances.filterMap Instance.title).flatMap Expr.names
    else []
  | .call function arguments => if function = "include" then arguments.flatMap Expr.names else []
  | _ => []

def Statement.included? (settings : Settings) (statement : Statement) : Option (List String) :=
  if statement.classes settings = [] then none else some (statement.classes settings)

/-- The classes that a body includes, statement by statement. -/
def Statement.included (settings : Settings) (body : List Statement) : List (List String) :=
  body.filterMap (Statement.included? settings)

/-- The classes that an outline includes, block by block. -/
def Outline.included (outline : Outline) : List (List String) :=
  outline.filterMap Block.included?

theorem Statement.included?_shownEntry (settings : Settings) (statement : Statement) :
    ((statement.shownEntry settings).bind fun entry => (Block.ofEntries entry []).included?) =
      statement.included? settings := by
  cases statement with
  | declare type instances =>
    rw [Statement.included?, Statement.classes, ← Instance.map_fst_declared]
    by_cases hnone : Instance.declared instances = []
    · simp [Statement.shownEntry, hnone]
    · by_cases hclass : settings.classDeclarationsAsIncludes = true ∧ isClassType type = true
      · simp [Statement.shownEntry, hnone, hclass, Block.ofEntries_includes, Block.included?]
      · simp [Statement.shownEntry, hnone, hclass, Block.ofEntries_resources, Block.included?]
  | conditional condition consequence alternative => cases alternative <;> rfl
  | call function arguments =>
    rw [Statement.included?, Statement.classes]
    by_cases hinclude : function = "include"
    · by_cases hnone : arguments.flatMap Expr.names = []
      · simp [Statement.shownEntry, hnone]
      · simp [Statement.shownEntry, hinclude, hnone, Block.ofEntries_includes, Block.included?]
    · simp [Statement.shownEntry, hinclude]
  | _ => rfl

/-- Under the separate policy no block of includes becomes one with another. -/
theorem Outline.included_ofBody_separate {settings : Settings} {body : List Statement} {outline : Outline}
    (h : Outline.ofBody (settings.withPolicy .separate) body = .ok outline) :
    outline.included = Statement.included (settings.withPolicy .separate) body := by
  rw [Outline.ofBody_eq_pushAll] at h
  obtain ⟨blocks, hblocks, rfl⟩ := exists_of_map_eq_ok h
  have hpush : Outline.included (pushAll (Block.merge? .separate) [] blocks) = Outline.included blocks := by
    rw [Outline.included, Outline.included, List.filterMap_eq_flatMap_toList, List.filterMap_eq_flatMap_toList]
    refine flatMap_pushAll ?_ [] blocks
    intro first second merged hmerge
    cases first <;> cases second <;> cases hmerge <;> rfl
  refine hpush.trans ?_
  rw [Statement.contributions_eq_entries hblocks, Statement.entries_eq_filterMap, Outline.included, Statement.included,
    List.filterMap_map, List.filterMap_filterMap]
  exact List.filterMap_congr fun statement _ => Statement.included?_shownEntry _ statement

/-- The joined policy gives the outline of the separate policy with neighbouring blocks of includes fused at every depth, and fails as it does. Under the separate policy the blocks of includes at a path are, one by one, those of the statements at this path that include a class. -/
theorem ofBody_joined (settings : Settings) (body : List Statement) :
    Outline.ofBody (settings.withPolicy .joined) body =
        (Outline.ofBody (settings.withPolicy .separate) body).map Outline.fused ∧
      ∀ outline, Outline.ofBody (settings.withPolicy .separate) body = .ok outline → ∀ path,
        (outline.bodyAt path).map Outline.included = (Statement.bodyAt body path).map (Statement.included settings) := by
  refine ⟨Outline.extend_joined_of_contributions (Statement.contributions_joined settings body), ?_⟩
  intro outline h path
  have hrel := Outline.rel_bodyAt h path
  generalize Statement.bodyAt body path = inner, outline.bodyAt path = nested at hrel ⊢
  cases hrel with
  | none => rfl
  | some hinner => exact congrArg some (Outline.included_ofBody_separate hinner)

/-- Includes next to each other and apart, outside and inside a choice; one of them names no class. -/
def scatteredIncludes : List Statement :=
  [.call "include" [.word "base"], .call "include" [.list []], .call "include" [.quoted "'ntp'", .word "ssh"],
    .choice (.variable "os") [.mk [.word "default"]
      [.declare "class" [⟨some (.word "db"), some []⟩], .other "comment", .call "include" [.word "web"]]],
    .call "include" [.word "time"]]

theorem ofBody_joined_scatteredIncludes : ∃ outline,
    Outline.ofBody (Settings.withPolicy { classDeclarationsAsIncludes := true } .separate) scatteredIncludes = .ok outline ∧
      Outline.ofBody (Settings.withPolicy { classDeclarationsAsIncludes := true } .joined) scatteredIncludes =
        .ok outline.fused ∧
      (outline.bodyAt [0]).map Outline.included = some [["db"], ["web"]] ∧
      outline.fused.included = [["base", "ntp", "ssh"], ["time"]] := by
  obtain ⟨hfused, hincluded⟩ := ofBody_joined { classDeclarationsAsIncludes := true } scatteredIncludes
  exact ⟨_, rfl, hfused, hincluded _ rfl [0], rfl⟩

end Outlining
