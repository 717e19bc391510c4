import Mathlib.Logic.Relation
import Outlining.Proofs.Settings.Fields
import Outlining.Proofs.Settings.RoundTrip

/-!
# What the members of an object mean

An object of settings means its members with known names and nothing else. Each setting is what its own member denotes, or its default where there is no such member (`Settings.ofJson?_object_eq_some_iff`); members may stand in any order, and members of other names make no difference, beside the ignore rules or inside them (`Settings.ofJson?_eq_of_alike`). A name that stands twice is refused. A text means the same whatever blanks it has between its tokens (`Settings.ofText_eq_of_known_members`).
-/

namespace Outlining

open Json (Read)

/-! ### What values denote -/

namespace Json.Read

/-- A value denotes a text. -/
def DenotesText (value : Read) (text : String) : Prop :=
  value = .string (some text)

def DenotesBool (value : Read) (setting : Bool) : Prop :=
  value = .bool setting

def DenotesTexts (value : Read) (texts : List String) : Prop :=
  value = .ofTexts (texts.map some)

/-- A policy is denoted by its name, or by an object with that one name and no value. -/
def DenotesPolicy (value : Read) (policy : IncludePolicy) : Prop :=
  value = .string (some policy.name) ∨ value = .object [(some policy.name, .null)]

/-- Ignore rules are denoted by an object with a member for each field, or by an array of the fields in order. -/
inductive DenotesRules : Read → IgnoreRules → Prop
  | object {members : List (Option String × Read)} {rules : IgnoreRules} (hnames : ∀ member ∈ members, member.1.isSome)
    (hbeginWith : Sets DenotesTexts [] "begin_with" members rules.beginWith)
    (hcontains : Sets DenotesTexts [] "contains" members rules.contains) : DenotesRules (.object members) rules
  | nothing : DenotesRules (.array []) ⟨[], []⟩
  | beginnings {value : Read} {beginWith : List String} (hbeginWith : DenotesTexts value beginWith) :
    DenotesRules (.array [value]) ⟨beginWith, []⟩
  | both {value other : Read} {beginWith contains : List String} (hbeginWith : DenotesTexts value beginWith)
    (hcontains : DenotesTexts other contains) : DenotesRules (.array [value, other]) ⟨beginWith, contains⟩

theorem text?_eq_some_iff (value : Read) (text : String) : text? value = some text ↔ DenotesText value text := by
  cases value <;> simp [text?, DenotesText]

theorem bool?_eq_some_iff (value : Read) (setting : Bool) : bool? value = some setting ↔ DenotesBool value setting := by
  cases value <;> simp [bool?, DenotesBool]

theorem mapM_text?_eq_some_iff {items : List Read} {texts : List String} :
    items.mapM text? = some texts ↔ items = (texts.map some).map .string := by
  induction items generalizing texts with
  | nil => cases texts <;> simp
  | cons item more ih =>
    rw [List.mapM_cons]
    cases texts <;> simp [Option.bind_eq_some_iff, ih, text?_eq_some_iff, DenotesText]

theorem texts?_eq_some_iff (value : Read) (texts : List String) : texts? value = some texts ↔ DenotesTexts value texts := by
  cases value with
  | array items => simpa [texts?, DenotesTexts, ofTexts] using mapM_text?_eq_some_iff
  | _ => simp [texts?, DenotesTexts, ofTexts]

end Json.Read

open Json.Read

theorem IncludePolicy.ofName?_eq_some_iff {name : String} {policy : IncludePolicy} :
    ofName? name = some policy ↔ name = policy.name := by
  constructor
  · intro h
    unfold ofName? at h
    split_ifs at h with hjoined hseparate <;> cases h
    · exact hjoined
    · exact hseparate
  · rintro rfl
    exact ofName?_name policy

theorem IncludePolicy.ofJson?_eq_some_iff (value : Read) (policy : IncludePolicy) :
    ofJson? value = some policy ↔ DenotesPolicy value policy := by
  unfold ofJson?
  split
  · simp [DenotesPolicy, ofName?_eq_some_iff]
  · simp [DenotesPolicy, ofName?_eq_some_iff]
  · rename_i hstring hobject
    refine ⟨nofun, ?_⟩
    rintro (rfl | rfl)
    · exact absurd rfl (hstring _)
    · exact absurd rfl (hobject _)

namespace IgnoreRules

/-- The names of the fields of ignore rules. -/
def fieldNames : List String :=
  ["begin_with", "contains"]

theorem ofJson?_object (members : List (Option String × Read)) :
    ofJson? (.object members) =
      if members.all (·.1.isSome) then
        (field? texts? [] "begin_with" members).bind fun beginWith =>
          (field? texts? [] "contains" members).bind fun contains => some ⟨beginWith, contains⟩
      else none := by
  rw [ofJson?, fields?, field?, field?]
  split_ifs with hnames
  · cases hbeginWith : member? "begin_with" members with
    | none => simp [hbeginWith]
    | some beginWith =>
      cases hcontains : member? "contains" members with
      | none => simp [hbeginWith, hcontains]
      | some contains => simp [hbeginWith, hcontains]
  · rfl

theorem ofJson?_eq_some_iff (value : Read) (rules : IgnoreRules) : ofJson? value = some rules ↔ DenotesRules value rules := by
  constructor
  · intro h
    cases value with
    | object members =>
      rw [ofJson?_object] at h
      split_ifs at h with hnames
      obtain ⟨beginWith, hbeginWith, h⟩ := Option.bind_eq_some_iff.1 h
      obtain ⟨contains, hcontains, h⟩ := Option.bind_eq_some_iff.1 h
      cases h
      rw [field?_eq_some_iff texts?_eq_some_iff] at hbeginWith hcontains
      exact .object (List.all_eq_true.1 hnames) hbeginWith hcontains
    | array items =>
      match items with
      | [] =>
        cases h
        exact .nothing
      | [value] =>
        obtain ⟨beginWith, hbeginWith, h⟩ := Option.bind_eq_some_iff.1 h
        cases h
        exact .beginnings ((texts?_eq_some_iff value beginWith).1 hbeginWith)
      | [value, other] =>
        obtain ⟨beginWith, hbeginWith, h⟩ := Option.bind_eq_some_iff.1 h
        obtain ⟨contains, hcontains, h⟩ := Option.bind_eq_some_iff.1 h
        cases h
        exact .both ((texts?_eq_some_iff value beginWith).1 hbeginWith) ((texts?_eq_some_iff other contains).1 hcontains)
      | _ :: _ :: _ :: _ => simp [ofJson?, fields?] at h
    | _ => cases h
  · intro h
    cases h with
    | @object members rules hnames hbeginWith hcontains =>
      rw [← field?_eq_some_iff texts?_eq_some_iff] at hbeginWith hcontains
      rw [ofJson?_object, if_pos (List.all_eq_true.2 hnames), hbeginWith, hcontains]
      rfl
    | nothing => rfl
    | @beginnings value beginWith hbeginWith =>
      have hread := (texts?_eq_some_iff value beginWith).2 hbeginWith
      simp [ofJson?, fields?, orDefault, hread]
    | @both value other beginWith contains hbeginWith hcontains =>
      have hread := (texts?_eq_some_iff value beginWith).2 hbeginWith
      have hother := (texts?_eq_some_iff other contains).2 hcontains
      simp [ofJson?, fields?, orDefault, hread, hother]

end IgnoreRules

namespace Settings

/-- The names of the fields of settings. -/
def fieldNames : List String :=
  ["include_policy", "class_declarations_as_includes", "ignore_paths", "extension"]

theorem ofJson?_object (members : List (Option String × Read)) :
    ofJson? (.object members) =
      if members.all (·.1.isSome) then
        (field? IncludePolicy.ofJson? .joined "include_policy" members).bind fun includePolicy =>
          (field? bool? false "class_declarations_as_includes" members).bind fun classDeclarationsAsIncludes =>
            (field? IgnoreRules.ofJson? {} "ignore_paths" members).bind fun ignorePaths =>
              (field? text? "pp" "extension" members).bind fun extension =>
                some ⟨includePolicy, classDeclarationsAsIncludes, ignorePaths, extension⟩
      else none := by
  rw [ofJson?, fields?, field?, field?, field?, field?]
  split_ifs with hnames
  · cases hpolicy : member? "include_policy" members with
    | none => simp [hpolicy]
    | some policy =>
      cases hclasses : member? "class_declarations_as_includes" members with
      | none => simp [hpolicy, hclasses]
      | some classes =>
        cases hrules : member? "ignore_paths" members with
        | none => simp [hpolicy, hclasses, hrules]
        | some rules =>
          cases hextension : member? "extension" members with
          | none => simp [hpolicy, hclasses, hrules, hextension]
          | some extension => simp [hpolicy, hclasses, hrules, hextension]
  · rfl

/-- The members of an object denote settings: their names are texts, and each setting has its own member or its default. -/
structure DenotedBy (members : List (Option String × Read)) (settings : Settings) : Prop where
  names : ∀ member ∈ members, member.1.isSome
  includePolicy : Sets DenotesPolicy .joined "include_policy" members settings.includePolicy
  classDeclarationsAsIncludes :
    Sets DenotesBool false "class_declarations_as_includes" members settings.classDeclarationsAsIncludes
  ignorePaths : Sets DenotesRules {} "ignore_paths" members settings.ignorePaths
  extension : Sets DenotesText "pp" "extension" members settings.extension

theorem ofJson?_object_eq_some_iff {members : List (Option String × Read)} {settings : Settings} :
    ofJson? (.object members) = some settings ↔ DenotedBy members settings := by
  rw [ofJson?_object]
  constructor
  · intro h
    split_ifs at h with hnames
    obtain ⟨includePolicy, hpolicy, h⟩ := Option.bind_eq_some_iff.1 h
    obtain ⟨classDeclarationsAsIncludes, hclasses, h⟩ := Option.bind_eq_some_iff.1 h
    obtain ⟨ignorePaths, hrules, h⟩ := Option.bind_eq_some_iff.1 h
    obtain ⟨extension, hextension, h⟩ := Option.bind_eq_some_iff.1 h
    cases h
    exact {
      names := List.all_eq_true.1 hnames
      includePolicy := (field?_eq_some_iff IncludePolicy.ofJson?_eq_some_iff).1 hpolicy
      classDeclarationsAsIncludes := (field?_eq_some_iff bool?_eq_some_iff).1 hclasses
      ignorePaths := (field?_eq_some_iff IgnoreRules.ofJson?_eq_some_iff).1 hrules
      extension := (field?_eq_some_iff text?_eq_some_iff).1 hextension }
  · intro h
    rw [if_pos (List.all_eq_true.2 h.names),
      (field?_eq_some_iff IncludePolicy.ofJson?_eq_some_iff).2 h.includePolicy,
      (field?_eq_some_iff bool?_eq_some_iff).2 h.classDeclarationsAsIncludes,
      (field?_eq_some_iff IgnoreRules.ofJson?_eq_some_iff).2 h.ignorePaths,
      (field?_eq_some_iff text?_eq_some_iff).2 h.extension]
    rfl

end Settings

/-! ### Edits and repeated names -/

/-- One edit of the members of an object of ignore rules. -/
def IgnoreRules.Edit : List (Option String × Read) → List (Option String × Read) → Prop :=
  Read.Edit fieldNames fun _ _ _ => False

theorem IgnoreRules.ofJson?_eq_of_edit {members others : List (Option String × Read)} (h : Edit members others) :
    ofJson? (.object members) = ofJson? (.object others) := by
  have hfield : ∀ name ∈ fieldNames, field? texts? [] name members = field? texts? [] name others :=
    fun name hname => Read.Edit.field?_eq h hname nofun
  rw [ofJson?_object, ofJson?_object, Read.Edit.all_isSome_eq h, hfield "begin_with" (by decide),
    hfield "contains" (by decide)]

theorem IgnoreRules.ofJson?_eq_none_of_repeats {members : List (Option String × Read)} {name : String}
    (hname : name ∈ fieldNames) (h : Repeats name members) : ofJson? (.object members) = none := by
  rw [ofJson?_object]
  obtain rfl | rfl := List.mem_pair.1 hname
  · simp [field?_of_repeats h]
  · simp [field?_of_repeats h]

namespace Settings

/-- An object of ignore rules stands in place of another that differs from it by edits. -/
def EditRules (name : String) (value other : Read) : Prop :=
  name = "ignore_paths" ∧ ∃ members others, value = .object members ∧ other = .object others ∧
    Relation.EqvGen IgnoreRules.Edit members others

/-- One edit of the members of an object of settings, or of those of the ignore rules in it. -/
def Edit : List (Option String × Read) → List (Option String × Read) → Prop :=
  Read.Edit fieldNames EditRules

theorem ofJson?_eq_of_editRules {name : String} {value other : Read} (h : EditRules name value other) :
    IgnoreRules.ofJson? value = IgnoreRules.ofJson? other := by
  obtain ⟨-, members, others, rfl, rfl, h⟩ := h
  exact congrArg (Quot.lift (fun members => IgnoreRules.ofJson? (.object members)) fun _ _ => IgnoreRules.ofJson?_eq_of_edit)
    (Quot.eqvGen_sound h)

theorem ofJson?_eq_of_edit {members others : List (Option String × Read)} (h : Edit members others) :
    ofJson? (.object members) = ofJson? (.object others) := by
  have hfield : ∀ {α : Type} (read : Read → Option α) (default : α) (name : String), name ∈ fieldNames →
      name ≠ "ignore_paths" → field? read default name members = field? read default name others :=
    fun read default name hname hother => Read.Edit.field?_eq h hname fun _ _ hinside => absurd hinside.1 hother
  have hrules : field? IgnoreRules.ofJson? {} "ignore_paths" members = field? IgnoreRules.ofJson? {} "ignore_paths" others :=
    Read.Edit.field?_eq h (by decide) fun _ _ hinside => ofJson?_eq_of_editRules hinside
  rw [ofJson?_object, ofJson?_object, Read.Edit.all_isSome_eq h, hrules,
    hfield _ _ "include_policy" (by decide) (by decide),
    hfield _ _ "class_declarations_as_includes" (by decide) (by decide),
    hfield _ _ "extension" (by decide) (by decide)]

/-- Members are alike when edits lead from one to the other, in either direction. -/
def Alike : List (Option String × Read) → List (Option String × Read) → Prop :=
  Relation.EqvGen Edit

theorem ofJson?_eq_of_alike {members others : List (Option String × Read)} (h : Alike members others) :
    ofJson? (.object members) = ofJson? (.object others) :=
  congrArg (Quot.lift (fun members => ofJson? (.object members)) fun _ _ => ofJson?_eq_of_edit) (Quot.eqvGen_sound h)

theorem ofJson?_eq_none_of_repeats {members : List (Option String × Read)} {name : String} (hname : name ∈ fieldNames)
    (h : Repeats name members) : ofJson? (.object members) = none := by
  rw [ofJson?_object]
  simp only [fieldNames, List.mem_cons, List.not_mem_nil, or_false] at hname
  obtain rfl | rfl | rfl | rfl := hname
  all_goals simp [field?_of_repeats h]

theorem ofJson?_eq_none_of_rules {members inner : List (Option String × Read)} {name : String}
    (hinner : (some "ignore_paths", .object inner) ∈ members) (hname : name ∈ IgnoreRules.fieldNames)
    (h : Repeats name inner) : ofJson? (.object members) = none := by
  rw [ofJson?_object, field?_eq_none_of_mem hinner (IgnoreRules.ofJson?_eq_none_of_repeats hname h)]
  simp

/-! ### Texts -/

theorem ofJson?_of_spells {text : String} {value : Read} (h : Json.SpellsAll text.toList value.tokens) :
    (Json.read? text).bind ofJson? = ofJson? value := by
  rw [Read.read?_eq_some_iff.2 h, Option.bind_some]

variable {language : PatternLanguage}

theorem ofText_eq_ok_iff {text : String} {members : List (Option String × Read)} {settings : Settings}
    (htext : Json.SpellsAll text.toList (Read.tokens (.object members))) :
    ofText language text = .ok settings ↔ DenotedBy members settings ∧
      ∀ beginning ∈ settings.ignorePaths.beginWith, ∃ pattern, IgnoreFilter.anchored language beginning = .ok pattern := by
  rw [ofText, ofJson?_of_spells htext, ← ofJson?_object_eq_some_iff, ← IgnoreFilter.exists_ofRules_eq_ok_iff]
  cases ofJson? (.object members) with
  | none => simp
  | some found =>
    constructor
    · intro h
      obtain ⟨filter, hfilter, rfl⟩ := exists_of_map_eq_ok h
      exact ⟨rfl, filter, hfilter⟩
    · rintro ⟨⟨⟩, filter, hfilter⟩
      simp only [hfilter]
      rfl

theorem ofText_of_repeats {text : String} {members : List (Option String × Read)}
    (htext : Json.SpellsAll text.toList (Read.tokens (.object members)))
    (h : (∃ name ∈ fieldNames, Repeats name members) ∨
      ∃ inner, (some "ignore_paths", .object inner) ∈ members ∧ ∃ name ∈ IgnoreRules.fieldNames, Repeats name inner) :
    ofText language text = .error invalidText := by
  have hnone : ofJson? (.object members) = none := by
    obtain ⟨name, hname, h⟩ | ⟨inner, hinner, name, hname, h⟩ := h
    · exact ofJson?_eq_none_of_repeats hname h
    · exact ofJson?_eq_none_of_rules hinner hname h
  rw [ofText, ofJson?_of_spells htext, hnone]

/-- A text of an object means what its members with known names denote: texts with alike members mean the same, every setting has the value of its own member or its default, and a text in which a known name stands twice is refused. -/
theorem ofText_eq_of_known_members (language : PatternLanguage) {text : String} {members : List (Option String × Read)}
    (htext : Json.SpellsAll text.toList (Read.tokens (.object members))) :
    (∀ (other : String) (others : List (Option String × Read)), Json.SpellsAll other.toList (Read.tokens (.object others)) →
        Alike members others → ofText language other = ofText language text) ∧
      (∀ settings, ofText language text = .ok settings ↔ DenotedBy members settings ∧
        ∀ beginning ∈ settings.ignorePaths.beginWith, ∃ pattern, IgnoreFilter.anchored language beginning = .ok pattern) ∧
      ((∃ name ∈ fieldNames, Repeats name members) ∨ (∃ inner, (some "ignore_paths", .object inner) ∈ members ∧
        ∃ name ∈ IgnoreRules.fieldNames, Repeats name inner) →
          ofText language text = .error ⟨.settings, "Invalid config: this is not JSON with the known settings",
            some "The config file must be a JSON object", some 310⟩) := by
  refine ⟨?_, fun settings => ofText_eq_ok_iff htext, ofText_of_repeats htext⟩
  intro other others hother h
  rw [ofText, ofText, ofJson?_of_spells htext, ofJson?_of_spells hother, ofJson?_eq_of_alike h]

/-- The text `\x7b"ignore_paths":\x7b"contains":["a"]\x7d,"extension":"epp"\x7d`, where the escapes stand for braces. -/
def plainText : String :=
  "\x7b\"ignore_paths\":\x7b\"contains\":[\"a\"]\x7d,\"extension\":\"epp\"\x7d"

def plainMembers : List (Option String × Read) :=
  [(some "ignore_paths", .object [(some "contains", .array [.string (some "a")])]), (some "extension", .string (some "epp"))]

/-- The same settings in another order, with blanks and with members of unknown names, one of them no text. -/
def editedText : String :=
  "\x7b\"extension\" :\n\"epp\",\"later\":[\"\\ud800\"],\"ignore_paths\":\x7b\"contains\":[\"a\"], \"extension\":0\x7d\x7d"

def editedRules : List (Option String × Read) :=
  [(some "contains", .array [.string (some "a")]), (some "extension", .number "0")]

def editedMembers : List (Option String × Read) :=
  [(some "extension", .string (some "epp")), (some "later", .array [.string none]), (some "ignore_paths", .object editedRules)]

def repeatedText : String :=
  "\x7b\"extension\":\"epp\",\"\\u0065xtension\":\"epp\"\x7d"

def repeatedMembers : List (Option String × Read) :=
  [(some "extension", .string (some "epp")), (some "extension", .string (some "epp"))]

theorem alike_edited : Alike plainMembers editedMembers := by
  have hrules : EditRules "ignore_paths" (.object [(some "contains", .array [.string (some "a")])]) (.object editedRules) :=
    ⟨rfl, _, _, rfl, rfl, .rel _ _ (.add (by decide) [(some "contains", .array [.string (some "a")])] [] (.number "0"))⟩
  have hinside : Edit plainMembers [(some "ignore_paths", .object editedRules), (some "extension", .string (some "epp"))] :=
    .change hrules [] _
  have hadd : Edit [(some "ignore_paths", .object editedRules), (some "extension", .string (some "epp"))] editedMembers.reverse :=
    .add (by decide) [(some "ignore_paths", .object editedRules)] _ _
  have horder : Edit editedMembers.reverse editedMembers := .reorder (List.reverse_perm _)
  exact .trans _ _ _ (.rel _ _ hinside) (.trans _ _ _ (.rel _ _ hadd) (.rel _ _ horder))

theorem ofText_plainText_eq_editedText :
    Json.SpellsAll plainText.toList (Read.tokens (.object plainMembers)) ∧
      Json.SpellsAll editedText.toList (Read.tokens (.object editedMembers)) ∧ Alike plainMembers editedMembers ∧
      ofText .standard editedText = ofText .standard plainText ∧
      DenotedBy plainMembers ⟨.joined, false, ⟨[], ["a"]⟩, "epp"⟩ ∧
      ofText .standard repeatedText = .error ⟨.settings, "Invalid config: this is not JSON with the known settings",
        some "The config file must be a JSON object", some 310⟩ := by
  have hplain : Json.SpellsAll plainText.toList (Read.tokens (.object plainMembers)) := Read.read?_eq_some_iff.1 rfl
  have hedited : Json.SpellsAll editedText.toList (Read.tokens (.object editedMembers)) := Read.read?_eq_some_iff.1 rfl
  have hrepeated : Json.SpellsAll repeatedText.toList (Read.tokens (.object repeatedMembers)) :=
    Read.read?_eq_some_iff.1 rfl
  have hsettings : ofText .standard plainText = .ok ⟨.joined, false, ⟨[], ["a"]⟩, "epp"⟩ := rfl
  obtain ⟨halike, hdenoted, -⟩ := ofText_eq_of_known_members .standard hplain
  have hrefused := (ofText_eq_of_known_members .standard hrepeated).2.2 (.inl ⟨"extension", by decide, by decide⟩)
  exact ⟨hplain, hedited, alike_edited, halike _ _ hedited alike_edited, ((hdenoted _).1 hsettings).1, hrefused⟩

end Settings

end Outlining
