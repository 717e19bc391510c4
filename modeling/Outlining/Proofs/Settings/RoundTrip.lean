import Outlining.Proofs.IgnoreFilter
import Outlining.Proofs.Json.Reading
import Outlining.Settings.File

/-!
# Settings come back from their files

The JSON form of settings reads as the same settings, and no text in it gets lost on the way, whatever characters it has. What a file with that form can still be refused for is a rule that is no pattern, so settings whose rules are patterns are what their own file says, in either layout (`ofText_toJson`).
-/

namespace Outlining

open Json (Read)

/-! ### Texts and lists of texts -/

theorem Json.map_ofTexts (texts : List String) : (Json.ofTexts texts).map some = .ofTexts (texts.map some) := by
  rw [ofTexts, ofTexts, map]
  congr 1
  induction texts with
  | nil => rfl
  | cons text rest ih => exact congrArg (Json.string (some text) :: ·) ih

theorem Json.Read.texts?_ofTexts (texts : List String) : texts? (.ofTexts (texts.map some)) = some texts := by
  change ((texts.map some).map Json.string).mapM text? = some texts
  induction texts with
  | nil => rfl
  | cons text rest ih =>
    rw [List.map_cons, List.map_cons, List.mapM_cons, ih]
    rfl

theorem IncludePolicy.ofName?_name (policy : IncludePolicy) : ofName? policy.name = some policy := by
  cases policy <;> rfl

/-! ### Rules and settings -/

theorem IgnoreRules.ofJson?_toJson (rules : IgnoreRules) : ofJson? (rules.toJson.map some) = some rules := by
  have hfields : Read.fields? ["begin_with", "contains"] (rules.toJson.map some) =
      some [some (Json.ofTexts (rules.beginWith.map some)), some (Json.ofTexts (rules.contains.map some))] := by
    rw [← Json.map_ofTexts, ← Json.map_ofTexts]
    rfl
  rw [ofJson?, hfields]
  simp only [Read.orDefault, Read.texts?_ofTexts]
  rfl

theorem IgnoreRules.wellFormed_toJson (rules : IgnoreRules) : rules.toJson.WellFormed :=
  .object (by simp) (by simp [Json.wellFormed_ofTexts])

namespace Settings

theorem ofJson?_toJson (settings : Settings) : ofJson? (settings.toJson.map some) = some settings := by
  have hfields : Read.fields? ["include_policy", "class_declarations_as_includes", "ignore_paths", "extension"]
      (settings.toJson.map some) =
      some [some (.string (some settings.includePolicy.name)), some (.bool settings.classDeclarationsAsIncludes),
        some (settings.ignorePaths.toJson.map some), some (.string (some settings.extension))] := rfl
  rw [ofJson?, hfields]
  simp only [Read.orDefault, IncludePolicy.ofJson?, IncludePolicy.ofName?_name, IgnoreRules.ofJson?_toJson]
  rfl

theorem wellFormed_toJson (settings : Settings) : settings.toJson.WellFormed :=
  .object (by simp) (by simp [Json.WellFormed.string, Json.WellFormed.bool, settings.ignorePaths.wellFormed_toJson])

/-- A text that reads as the JSON form of settings is refused only for their rules. -/
theorem ofText_of_read? (language : PatternLanguage) {settings : Settings} {text : String}
    (h : Json.read? text = some (settings.toJson.map some)) :
    ofText language text = (IgnoreFilter.ofRules language settings.ignorePaths).map fun _ => settings := by
  rw [ofText, h, Option.bind_some, ofJson?_toJson]

/-- Settings whose rules are patterns are read back from their own JSON text, in either layout. -/
theorem ofText_toJson {language : PatternLanguage} {settings : Settings}
    (h : ∀ beginning ∈ settings.ignorePaths.beginWith, ∃ pattern, IgnoreFilter.anchored language beginning = .ok pattern) :
    ofText language settings.toJson.compact = .ok settings ∧ ofText language settings.toJson.pretty = .ok settings := by
  obtain ⟨filter, hfilter⟩ := IgnoreFilter.exists_ofRules_eq_ok_iff.2 h
  have hcompact := ofText_of_read? language (Json.read?_compact settings.wellFormed_toJson)
  have hpretty := ofText_of_read? language (Json.read?_pretty settings.wellFormed_toJson)
  rw [hfilter] at hcompact hpretty
  exact ⟨hcompact, hpretty⟩

/-- Settings that all differ from the defaults, with quote marks, line breaks and other control characters in their texts. -/
def unusual : Settings where
  includePolicy := .separate
  classDeclarationsAsIncludes := true
  ignorePaths := ⟨["a|b+", "\"\n"], ["", "\\u0041\x00\x1f\x7f", "😀"]⟩
  extension := "\t\"pp\""

theorem ofText_unusual :
    (∀ beginning ∈ unusual.ignorePaths.beginWith, ∃ pattern, IgnoreFilter.anchored .standard beginning = .ok pattern) ∧
      ofText .standard unusual.toJson.compact = .ok unusual ∧ ofText .standard unusual.toJson.pretty = .ok unusual := by
  have hpatterns : ∀ beginning ∈ unusual.ignorePaths.beginWith,
      ∃ pattern, IgnoreFilter.anchored .standard beginning = .ok pattern := by
    intro beginning hbeginning
    obtain rfl | rfl := List.mem_pair.1 hbeginning
    · exact ⟨_, rfl⟩
    · exact ⟨_, rfl⟩
  exact ⟨hpatterns, ofText_toJson hpatterns⟩

end Settings

end Outlining
