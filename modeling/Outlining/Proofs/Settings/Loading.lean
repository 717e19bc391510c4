import Outlining.Proofs.Discovery.Presence
import Outlining.Proofs.Settings.Fallback
import Outlining.Proofs.Settings.Members

/-!
# Settings that have been loaded

The rules of settings are checked when a text is read and made into a filter only when manifests are searched for. Both times it is the same filter, so settings that have been loaded, from wherever, are never refused later (`Loaded.usable`): a search fails only at a directory that cannot be read (`Discovery.manifests_eq_error_cases`), and a run reports trouble with settings only when its parser does. Which texts are refused, and why, is decided in two steps: the text must be JSON that describes settings (`describes_iff`), and then the first rule that is no pattern is named (`loaded_usable_refused_iff`).
-/

namespace Outlining

open Json (Read)

/-! ### Failures of a search -/

namespace Discovery

variable {language : PatternLanguage} {system : FileSystem} {extension : String} {failure : Diagnostic}

/-- A failure is the report of a directory that cannot be read. -/
def ReportsDirectory (system : FileSystem) (failure : Diagnostic) : Prop :=
  ∃ path fault, system.readDirectory path = .error fault ∧ failure = unreadableDirectory path fault

theorem mem_of_inTurn_eq_error {ε α : Type} {results : List (Except ε (List α))} {cause : ε}
    (h : inTurn results = .error cause) : .error cause ∈ results := by
  induction results with
  | nil => cases h
  | cons first rest ih =>
    rw [inTurn, bind_eq_error_iff] at h
    obtain hfirst | ⟨here, -, h⟩ := h
    · rw [hfirst]
      exact List.mem_cons_self
    · obtain hrest | ⟨later, -, h⟩ := bind_eq_error_iff.1 h
      · exact List.mem_cons_of_mem first (ih hrest)
      · cases h

theorem exists_of_inNameOrder_eq_error {path : String} {entries : List (String × FileTree)}
    (h : inNameOrder (belowEntries system extension path entries) = .error failure) :
    ∃ entry ∈ entries, belowEntry system extension (Path.join path entry.1) entry.1 entry.2 = .error failure := by
  rw [belowEntries_eq_map, inNameOrder_map] at h
  obtain ⟨entry, hentry, hbelow⟩ := List.mem_map.1 (mem_of_inTurn_eq_error h)
  exact ⟨entry, mem_sorted.1 hentry, hbelow⟩

mutual

theorem reportsDirectory_of_belowEntry {path name : String} (entry : FileTree)
    (h : belowEntry system extension path name entry = .error failure) : ReportsDirectory system failure := by
  cases entry with
  | file content =>
    rw [belowEntry] at h
    split at h <;> cases h
  | link target =>
    rw [belowEntry] at h
    split at h
    · cases h
    · split at h <;> cases h
  | directory entries =>
    rw [belowEntry] at h
    split at h
    · obtain ⟨entry, hentry, hbelow⟩ := exists_of_inNameOrder_eq_error h
      exact reportsDirectory_of_belowEntries entries entry hentry hbelow
    · rename_i fault hread
      cases h
      exact ⟨path, fault, hread, rfl⟩

theorem reportsDirectory_of_belowEntries {path : String} (entries : List (String × FileTree)) :
    ∀ entry ∈ entries, belowEntry system extension (Path.join path entry.1) entry.1 entry.2 = .error failure →
      ReportsDirectory system failure := by
  cases entries with
  | nil => exact nofun
  | cons first rest =>
    rw [List.forall_mem_cons]
    exact ⟨reportsDirectory_of_belowEntry first.2, reportsDirectory_of_belowEntries rest⟩

end

theorem reportsDirectory_of_ofArgument {argument : String} (h : ofArgument system extension argument = .error failure) :
    ReportsDirectory system failure := by
  rw [ofArgument] at h
  split at h
  · rename_i entries _
    obtain ⟨entry, hentry, hbelow⟩ := exists_of_inNameOrder_eq_error h
    exact reportsDirectory_of_belowEntries entries entry hentry hbelow
  · cases h
  · cases h

/-- A search fails because its rules are refused or because it comes to a directory that cannot be read. -/
theorem manifests_eq_error_cases {settings : Settings} {arguments : List String}
    (h : manifests language system settings arguments = .error failure) :
    IgnoreFilter.ofRules language settings.ignorePaths = .error failure ∨ ReportsDirectory system failure := by
  rw [manifests, bind_eq_error_iff] at h
  obtain hrules | ⟨filter, -, h⟩ := h
  · exact .inl hrules
  · obtain hfound | ⟨found, -, h⟩ := bind_eq_error_iff.1 h
    · obtain ⟨argument, -, hargument⟩ := List.mem_map.1 (mem_of_inTurn_eq_error hfound)
      exact .inr (reportsDirectory_of_ofArgument hargument)
    · cases h

theorem ReportsDirectory.origin_ne_settings (h : ReportsDirectory system failure) : failure.origin ≠ .settings := by
  obtain ⟨path, fault, -, rfl⟩ := h
  exact nofun

end Discovery

/-! ### Failures of a run -/

namespace Synopsis

variable {language : PatternLanguage} {system : FileSystem} {reader : DefinitionReader} {settings : Settings}
  {arguments : List String} {failure : Diagnostic}

/-- A failure is what the parser hands back for one of the manifests found. -/
def HandedBack (language : PatternLanguage) (system : FileSystem) (reader : DefinitionReader) (settings : Settings)
    (arguments : List String) (failure : Diagnostic) : Prop :=
  ∃ paths, Discovery.manifests language system settings arguments = .ok paths ∧
    ∃ path ∈ paths, ∃ text, system.readText path = .ok text ∧ reader text path = .error failure

theorem Trouble.exists_of_origin_eq_settings {path : String} (h : Trouble system reader settings path failure)
    (horigin : failure.origin = .settings) : ∃ text, system.readText path = .ok text ∧ reader text path = .error failure := by
  cases h with
  | unreadable hread => cases horigin
  | rejected hread hreader hruntime => cases horigin
  | @rejectedElsewhere text _ hread hreader hother => exact ⟨text, hread, hreader⟩
  | @incomplete _ _ definition _ hdefines hbefore houtline =>
    obtain ⟨violation, rfl⟩ := Definition.exists_violation_of_outline_eq_error houtline
    cases horigin

/-- Outlining never looks at the rules, so a run with rules that have a filter can only pass on trouble with settings. -/
theorem handedBack_of_origin_eq_settings {filter : IgnoreFilter language}
    (hfilter : IgnoreFilter.ofRules language settings.ignorePaths = .ok filter)
    (h : ofManifests language system reader settings arguments = .error failure) (horigin : failure.origin = .settings) :
    HandedBack language system reader settings arguments failure := by
  rw [ofManifests, bind_eq_error_iff] at h
  obtain hsearch | ⟨paths, hpaths, hrun⟩ := h
  · obtain hrules | hdirectory := Discovery.manifests_eq_error_cases hsearch
    · rw [hfilter] at hrules
      cases hrules
    · exact absurd horigin hdirectory.origin_ne_settings
  · obtain ⟨before, path, after, rfl, -, htrouble⟩ := addManifests_eq_error_iff.1 hrun
    exact ⟨_, hpaths, path, by simp, htrouble.exists_of_origin_eq_settings horigin⟩

end Synopsis

namespace Settings

/-! ### Loaded settings -/

variable {language : PatternLanguage}

/-- Settings that have been loaded: from a text, from a file, from the first of two files that can be read, or from the user's file. A user for whom no settings directory is known has the defaults. -/
inductive Loaded (language : PatternLanguage) : Settings → Prop
  | text {text : String} {settings : Settings} (h : ofText language text = .ok settings) : Loaded language settings
  | file {system : FileSystem} {path : String} {settings : Settings} (h : ofFile language system path = .ok settings) :
    Loaded language settings
  | fallback {system : FileSystem} {primary fallback : String} {settings : Settings}
    (h : ofFileOrFallback language system primary fallback = .ok settings) : Loaded language settings
  | user {system : FileSystem} {configHome : Option String} {home : String} {settings : Settings}
    (h : ofUser language system configHome home = .ok settings) : Loaded language settings
  | defaults : Loaded language {}

/-- Settings that can be used wherever settings are asked for: their rules have a filter, and neither a search nor a run, whether it is exported or not, reports trouble with settings that the parser has not reported. -/
structure Usable (language : PatternLanguage) (settings : Settings) : Prop where
  filter : ∃ filter, IgnoreFilter.ofRules language settings.ignorePaths = .ok filter
  manifests : ∀ system arguments failure, Discovery.manifests language system settings arguments = .error failure →
    failure.origin ≠ .settings
  ofManifests : ∀ system reader arguments failure,
    Synopsis.ofManifests language system reader settings arguments = .error failure →
      failure.origin = .settings → Synopsis.HandedBack language system reader settings arguments failure
  exportManifests : ∀ system reader arguments failure,
    Synopsis.exportManifests language system reader settings arguments = .error failure →
      failure.origin = .settings → Synopsis.HandedBack language system reader settings arguments failure

theorem usable_of_ofRules {settings : Settings} {filter : IgnoreFilter language}
    (hfilter : IgnoreFilter.ofRules language settings.ignorePaths = .ok filter) : Usable language settings where
  filter := ⟨filter, hfilter⟩
  manifests system arguments failure h := by
    obtain hrules | hdirectory := Discovery.manifests_eq_error_cases h
    · rw [hfilter] at hrules
      cases hrules
    · exact hdirectory.origin_ne_settings
  ofManifests system reader arguments failure := Synopsis.handedBack_of_origin_eq_settings hfilter
  exportManifests system reader arguments failure h :=
    Synopsis.handedBack_of_origin_eq_settings hfilter (map_eq_error_iff.1 h)

theorem exists_ofText_of_ofFile {system : FileSystem} {path : String} {settings : Settings}
    (h : ofFile language system path = .ok settings) : ∃ text, ofText language text = .ok settings := by
  obtain ⟨text, -, htext⟩ := exists_of_bind_eq_ok h
  exact ⟨text, htext⟩

/-- Whatever is loaded comes from a text, unless it is the defaults. -/
theorem Loaded.exists_ofText_or_eq {settings : Settings} (h : Loaded language settings) :
    (∃ text, ofText language text = .ok settings) ∨ settings = {} := by
  cases h with
  | @text text _ h => exact .inl ⟨text, h⟩
  | file h => exact .inl (exists_ofText_of_ofFile h)
  | @fallback system primary fallback _ h =>
    cases hread : system.readText primary with
    | ok text =>
      rw [ofFileOrFallback_of_readText hread] at h
      exact .inl ⟨text, h⟩
    | error fault =>
      rw [ofFileOrFallback_of_unreadable hread, mapError_eq_ok_iff] at h
      exact .inl (exists_ofText_of_ofFile h)
  | @user system configHome home _ h =>
    rw [ofUser] at h
    split at h
    · exact .inl (exists_ofText_of_ofFile h)
    · exact .inr (Except.ok.inj h).symm
  | defaults => exact .inr rfl

/-! ### Texts that describe settings -/

/-- Settings are denoted by an object with a member for each of them, or by an array that lists them in order and may stop early. -/
inductive Denotes : Read → Settings → Prop
  | object {members : List (Option String × Read)} {settings : Settings} (h : DenotedBy members settings) :
    Denotes (.object members) settings
  | array {items : List Read} {settings : Settings} (hlength : items.length ≤ fieldNames.length)
    (h : DenotedBy ((fieldNames.map some).zip items) settings) : Denotes (.array items) settings

/-- A text is JSON, and its value denotes settings; whether their rules are patterns is not asked. -/
def Describes (text : String) (settings : Settings) : Prop :=
  ∃ value : Read, Json.SpellsAll text.toList value.tokens ∧ Denotes value settings

/-- An array is read as the object that gives its items the names of the fields in order. -/
theorem ofJson?_array (items : List Read) :
    ofJson? (.array items) =
      if items.length ≤ fieldNames.length then ofJson? (.object ((fieldNames.map some).zip items)) else none := by
  match items with
  | [] => rfl
  | [_] => rfl
  | [_, _] => rfl
  | [_, _, _] => rfl
  | [_, _, _, _] => rfl
  | _ :: _ :: _ :: _ :: _ :: rest => simp [ofJson?, Read.fields?, fieldNames]

theorem ofJson?_eq_some_iff {value : Read} {settings : Settings} : ofJson? value = some settings ↔ Denotes value settings := by
  constructor
  · intro h
    cases value with
    | object members => exact .object (ofJson?_object_eq_some_iff.1 h)
    | array items =>
      rw [ofJson?_array] at h
      split_ifs at h with hlength
      exact .array hlength (ofJson?_object_eq_some_iff.1 h)
    | _ => cases h
  · intro h
    cases h with
    | object h => exact ofJson?_object_eq_some_iff.2 h
    | array hlength h => rw [ofJson?_array, if_pos hlength, ofJson?_object_eq_some_iff.2 h]

theorem describes_iff {text : String} {settings : Settings} :
    Describes text settings ↔ (Json.read? text).bind ofJson? = some settings := by
  simp only [Describes, ← Read.read?_eq_some_iff, ← ofJson?_eq_some_iff, Option.bind_eq_some_iff]

/-! ### What a text is refused for -/

theorem ofText_of_describes {text : String} {settings : Settings} (h : Describes text settings) :
    ofText language text = (IgnoreFilter.ofRules language settings.ignorePaths).map fun _ => settings := by
  rw [ofText, describes_iff.1 h]

theorem ofText_of_not_describes {text : String} (h : ∀ settings, ¬Describes text settings) :
    ofText language text = .error invalidText := by
  have hnone : (Json.read? text).bind ofJson? = none :=
    Option.eq_none_iff_forall_ne_some.2 fun settings hsome => h settings (describes_iff.2 hsome)
  rw [ofText, hnone]

theorem ofText_eq_ok_iff_describes {text : String} {settings : Settings} :
    ofText language text = .ok settings ↔
      Describes text settings ∧ ∃ filter, IgnoreFilter.ofRules language settings.ignorePaths = .ok filter := by
  constructor
  · intro h
    by_cases hdescribed : ∃ found, Describes text found
    · obtain ⟨found, hfound⟩ := hdescribed
      rw [ofText_of_describes hfound] at h
      obtain ⟨filter, hfilter, rfl⟩ := exists_of_map_eq_ok h
      exact ⟨hfound, filter, hfilter⟩
    · rw [ofText_of_not_describes (not_exists.1 hdescribed)] at h
      cases h
  · rintro ⟨hdescribed, filter, hfilter⟩
    rw [ofText_of_describes hdescribed, hfilter]
    rfl

theorem ofText_eq_error_iff {text : String} {failure : Diagnostic} :
    ofText language text = .error failure ↔
      (∀ settings, ¬Describes text settings) ∧ failure = invalidText ∨
        ∃ settings, Describes text settings ∧ IgnoreFilter.ofRules language settings.ignorePaths = .error failure := by
  constructor
  · intro h
    by_cases hdescribed : ∃ settings, Describes text settings
    · obtain ⟨settings, hsettings⟩ := hdescribed
      rw [ofText_of_describes hsettings, map_eq_error_iff] at h
      exact .inr ⟨settings, hsettings, h⟩
    · rw [not_exists] at hdescribed
      rw [ofText_of_not_describes hdescribed] at h
      exact .inl ⟨hdescribed, (Except.error.inj h).symm⟩
  · rintro (⟨hdescribed, rfl⟩ | ⟨settings, hsettings, hrules⟩)
    · exact ofText_of_not_describes hdescribed
    · rw [ofText_of_describes hsettings, map_eq_error_iff, hrules]

theorem Loaded.usable {settings : Settings} (h : Loaded language settings) : Usable language settings := by
  obtain ⟨text, htext⟩ | rfl := h.exists_ofText_or_eq
  · obtain ⟨-, filter, hfilter⟩ := ofText_eq_ok_iff_describes.1 htext
    exact usable_of_ofRules hfilter
  · exact @usable_of_ofRules language {} ⟨[], []⟩ rfl

/-- A text is refused for a rule exactly if it describes settings whose rules are refused. -/
theorem ofText_refuses_rule_iff {text : String} {failure : Diagnostic} :
    ofText language text = .error failure ∧ failure.code = some 311 ↔
      ∃ settings, Describes text settings ∧ IgnoreFilter.ofRules language settings.ignorePaths = .error failure := by
  rw [ofText_eq_error_iff]
  constructor
  · rintro ⟨⟨-, rfl⟩ | hrefused, hcode⟩
    · simp [invalidText] at hcode
    · exact hrefused
  · rintro ⟨settings, hdescribed, hrules⟩
    obtain ⟨_, _, _, _, _, _, _, rfl⟩ := IgnoreFilter.ofRules_eq_error_iff.1 hrules
    exact ⟨.inr ⟨settings, hdescribed, hrules⟩, rfl⟩

theorem ofText_eq_invalidText_iff {text : String} :
    ofText language text = .error invalidText ↔ ∀ settings, ¬Describes text settings := by
  rw [ofText_eq_error_iff]
  constructor
  · rintro (⟨hdescribed, -⟩ | ⟨settings, -, hrules⟩)
    · exact hdescribed
    · obtain ⟨before, beginning, after, fault, -, -, -, hreport⟩ := IgnoreFilter.ofRules_eq_error_iff.1 hrules
      simp [invalidText, IgnoreFilter.invalidPattern] at hreport
  · intro hdescribed
    exact .inl ⟨hdescribed, rfl⟩

/-- Settings that have been loaded can be used: their rules have a filter, and whatever there is to search and whatever the arguments are, trouble with settings is reported only if the parser reports it. A text is loaded exactly if it describes settings all of whose rules are patterns once they are anchored. It is refused for a rule exactly if it describes settings and one of their rules is no such pattern, and then the first of these is named. A text that describes no settings is refused as a whole, whatever rules it holds. -/
theorem loaded_usable_refused_iff (language : PatternLanguage) :
    (∀ settings, Loaded language settings → Usable language settings) ∧
    ∀ text,
      (∀ settings, ofText language text = .ok settings ↔ Describes text settings ∧
        ∀ beginning ∈ settings.ignorePaths.beginWith, ∃ pattern, IgnoreFilter.anchored language beginning = .ok pattern) ∧
      ((∃ failure, ofText language text = .error failure ∧ failure.code = some 311) ↔
        ∃ settings, Describes text settings ∧ ∃ beginning ∈ settings.ignorePaths.beginWith,
          ∀ pattern, IgnoreFilter.anchored language beginning ≠ .ok pattern) ∧
      (∀ failure, ofText language text = .error failure ∧ failure.code = some 311 ↔
        ∃ settings before beginning after fault, Describes text settings ∧
          settings.ignorePaths.beginWith = before ++ beginning :: after ∧
          (∀ earlier ∈ before, ∃ pattern, IgnoreFilter.anchored language earlier = .ok pattern) ∧
          IgnoreFilter.anchored language beginning = .error fault ∧
          failure = ⟨.settings, "Invalid ignore pattern '" ++ beginning ++ "': " ++ fault,
            some "begin_with entries are regular expressions", some 311⟩) ∧
      (ofText language text = .error ⟨.settings, "Invalid config: this is not JSON with the known settings",
          some "The config file must be a JSON object", some 310⟩ ↔ ∀ settings, ¬Describes text settings) := by
  refine ⟨fun settings h => h.usable, fun text => ⟨fun settings => ?_, ?_, fun failure => ?_, ?_⟩⟩
  · rw [← IgnoreFilter.exists_ofRules_eq_ok_iff]
    exact ofText_eq_ok_iff_describes
  · simp only [ofText_refuses_rule_iff, ← IgnoreFilter.exists_ofRules_eq_error_iff]
    rw [exists_comm]
    simp only [exists_and_left]
  · simp only [ofText_refuses_rule_iff, IgnoreFilter.ofRules_eq_error_iff, exists_and_left]
    rfl
  · exact ofText_eq_invalidText_iff

/-- The settings in the array `["always_new",false,[["e"]]]`. -/
def listedSettings : Settings where
  includePolicy := .separate
  ignorePaths := ⟨["e"], []⟩

/-- A parser that reports trouble with settings of its own. -/
def refusingReader : DefinitionReader := fun _ _ =>
  .error { origin := .settings, message := "unknown dialect", code := some 311 }

theorem loaded_listedSettings :
    Loaded .standard listedSettings ∧ Usable .standard listedSettings ∧
      (∀ failure, Discovery.manifests .standard (smallSite "" "db") listedSettings ["."] = .error failure →
        failure.origin ≠ .settings) ∧
      Synopsis.HandedBack .standard (smallSite "" "db") refusingReader listedSettings ["web.pp"]
        ⟨.settings, "unknown dialect", none, some 311⟩ ∧
      ofText .standard "[\"always_new\",false,[[\"e\",\"(\",\"[\"]]]" = .error ⟨.settings, "Invalid ignore pattern '(': " ++
        Pattern.Fault.unclosedGroup.message, some "begin_with entries are regular expressions", some 311⟩ ∧
      ofText .standard "[0,false,[[\"(\"]]]" = .error ⟨.settings, "Invalid config: this is not JSON with the known settings",
        some "The config file must be a JSON object", some 310⟩ := by
  obtain ⟨husable, htexts⟩ := loaded_usable_refused_iff .standard
  have hloaded : Loaded .standard listedSettings :=
    .text (show ofText .standard "[\"always_new\",false,[[\"e\"]]]" = .ok listedSettings from rfl)
  have hlisted := husable listedSettings hloaded
  have hrun : Synopsis.ofManifests .standard (smallSite "" "db") refusingReader listedSettings ["web.pp"] =
      .error ⟨.settings, "unknown dialect", none, some 311⟩ := rfl
  have hdescribed : Describes "[\"always_new\",false,[[\"e\",\"(\",\"[\"]]]"
      ⟨.separate, false, ⟨["e", "(", "["], []⟩, "pp"⟩ := describes_iff.2 rfl
  refine ⟨hloaded, hlisted, hlisted.manifests _ _, hlisted.ofManifests _ _ _ _ hrun rfl, ?_, ?_⟩
  · refine (((htexts _).2.2.1 _).2 ⟨_, ["e"], "(", ["["], Pattern.Fault.unclosedGroup.message, hdescribed, rfl, ?_,
      rfl, rfl⟩).1
    exact List.forall_mem_singleton.2 ⟨_, rfl⟩
  · refine (htexts _).2.2.2.2 fun settings hsettings => ?_
    cases (describes_iff.1 hsettings : none = some settings)

end Settings

end Outlining
