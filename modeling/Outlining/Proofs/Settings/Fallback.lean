import Outlining.Proofs.FileTree.Places
import Outlining.Proofs.IgnoreFilter
import Outlining.Settings.File

/-!
# Settings files with a fallback

A settings text is refused with reports about the settings, never with one about a file, so the fallback is asked for exactly when the primary file cannot be read (`ofFileOrFallback_of_readText`, `ofFileOrFallback_of_unreadable`). A file whose bytes are no text counts as one that cannot be read, and gives way to the fallback like a file that is not there (`ofFileOrFallback_undecodable`).
-/

namespace Outlining.Settings

variable {language : PatternLanguage} {system : FileSystem} {primary fallback path text : String} {fault : ReadFault}

theorem origin_of_ofText_eq_error {failure : Diagnostic} (h : ofText language text = .error failure) :
    failure.origin = .settings := by
  rw [ofText] at h
  split at h
  · cases h
    rfl
  · rename_i settings _
    cases hrules : IgnoreFilter.ofRules language settings.ignorePaths with
    | ok filter =>
      rw [hrules] at h
      cases h
    | error cause =>
      rw [hrules] at h
      cases h
      obtain ⟨_, _, _, _, _, _, _, rfl⟩ := IgnoreFilter.ofRules_eq_error_iff.1 hrules
      rfl

theorem ofFile_of_readText (h : system.readText path = .ok text) : ofFile language system path = ofText language text := by
  rw [ofFile, h]
  rfl

theorem ofFile_of_unreadable (h : system.readText path = .error fault) :
    ofFile language system path = .error (unreadableFile path fault) := by
  rw [ofFile, h]
  rfl

theorem ofFileOrFallback_of_readText (h : system.readText primary = .ok text) :
    ofFileOrFallback language system primary fallback = ofText language text := by
  rw [ofFileOrFallback, ofFile_of_readText h]
  split
  · rename_i hfailure
    cases origin_of_ofText_eq_error hfailure
  · rfl

/-- The report on the fallback file when the primary file has not been read: trouble with the file is placed at both paths, trouble with its content stays what it is. -/
def atBothPaths (primary fallback : String) (failure : Diagnostic) : Diagnostic :=
  match failure.origin with
  | .file _ => unreadableFiles primary fallback failure.message
  | _ => failure

theorem ofFileOrFallback_of_unreadable (h : system.readText primary = .error fault) :
    ofFileOrFallback language system primary fallback =
      (ofFile language system fallback).mapError (atBothPaths primary fallback) := by
  rw [ofFileOrFallback, ofFile_of_unreadable h]
  cases ofFile language system fallback with
  | ok settings => rfl
  | error failure =>
    obtain ⟨origin, message, hint, code⟩ := failure
    cases origin <;> rfl

/-- Settings in a primary file that is text are what that file says, valid or not, and do not change with the fallback: not with its path, and not with a file system in which the primary file has the same content. When the primary path leads to no file or to one that is not text, the settings are those of the fallback file, and if this cannot be read either, the report names both paths. -/
theorem ofFileOrFallback_eq_primary_or_fallback (language : PatternLanguage) (system : FileSystem)
    (primary fallback : String) :
    (∀ content text, system.resolve primary = .ok (.file content) → String.fromUTF8? content = some text →
      ofFileOrFallback language system primary fallback = ofFile language system primary ∧
        ∀ (changed : FileSystem) (other : String), changed.resolve primary = .ok (.file content) →
          ofFileOrFallback language changed primary other = ofFileOrFallback language system primary fallback) ∧
    ((∀ content, system.resolve primary = .ok (.file content) → String.fromUTF8? content = none) →
      ofFileOrFallback language system primary fallback = (ofFile language system fallback).mapError fun failure =>
        match failure.origin with
        | .file _ => {
            origin := .file (primary ++ " (fallback: " ++ fallback ++ ")")
            message := "Failed to load config from primary path '" ++ primary ++ "' or fallback path '" ++ fallback ++
              "': " ++ failure.message
            hint := some "Check that at least one of the config files exists"
            code := some 302 }
        | _ => failure) := by
  refine ⟨fun content text hcontent htext => ?_, fun hcontent => ?_⟩
  · have hloaded : ∀ (loaded : FileSystem) (other : String), loaded.resolve primary = .ok (.file content) →
        ofFileOrFallback language loaded primary other = ofText language text := fun loaded other h =>
      ofFileOrFallback_of_readText (FileSystem.readText_eq_ok_iff.2 ⟨content, h, htext⟩)
    have hread : system.readText primary = .ok text := FileSystem.readText_eq_ok_iff.2 ⟨content, hcontent, htext⟩
    refine ⟨?_, fun changed other hchanged => ?_⟩
    · rw [hloaded system fallback hcontent, ofFile_of_readText hread]
    · rw [hloaded system fallback hcontent, hloaded changed other hchanged]
  · cases hread : system.readText primary with
    | ok text =>
      obtain ⟨content, hfile, htext⟩ := FileSystem.readText_eq_ok_iff.1 hread
      rw [hcontent content hfile] at htext
      cases htext
    | error fault => exact ofFileOrFallback_of_unreadable hread

/-- A directory with two settings files. -/
def settingsSite (primary : ByteArray) : FileSystem where
  root := .directory [("primary.json", .file primary), ("fallback.json", .file "\x7b\x7d".toUTF8)]

theorem ofFileOrFallback_settingsSite :
    ofFileOrFallback .standard (settingsSite "no settings".toUTF8) "primary.json" "fallback.json" = .error invalidText ∧
      ofFileOrFallback .standard ⟨.directory [("primary.json", .file "no settings".toUTF8)], []⟩ "primary.json" "gone.json" =
        .error invalidText ∧
      ofFileOrFallback .standard (settingsSite .empty) "away.json" "fallback.json" = .ok {} ∧
      ofFileOrFallback .standard (settingsSite .empty) "away.json" "gone.json" =
        .error (unreadableFiles "away.json" "gone.json" (unreadableFile "gone.json" .notFound).message) := by
  have hcontent : (settingsSite "no settings".toUTF8).resolve "primary.json" = .ok (.file "no settings".toUTF8) := rfl
  have htext : String.fromUTF8? "no settings".toUTF8 = some "no settings" := rfl
  have haway : ∀ content, (settingsSite .empty).resolve "away.json" = .ok (.file content) →
      String.fromUTF8? content = none := nofun
  obtain ⟨hprimary, hchanged⟩ := (ofFileOrFallback_eq_primary_or_fallback .standard (settingsSite "no settings".toUTF8)
    "primary.json" "fallback.json").1 _ _ hcontent htext
  have hinvalid : ofFile .standard (settingsSite "no settings".toUTF8) "primary.json" = .error invalidText := rfl
  refine ⟨hprimary.trans hinvalid, ?_, ?_, ?_⟩
  · exact (hchanged _ "gone.json" rfl).trans (hprimary.trans hinvalid)
  · rw [(ofFileOrFallback_eq_primary_or_fallback .standard (settingsSite .empty) "away.json" "fallback.json").2 haway]
    rfl
  · rw [(ofFileOrFallback_eq_primary_or_fallback .standard (settingsSite .empty) "away.json" "gone.json").2 haway]
    rfl

/-- A file whose bytes are no text is invalid content, and still the fallback is asked: what is loaded changes with what is at the fallback path, and is not what the primary file alone gives. -/
theorem ofFileOrFallback_undecodable :
    (settingsSite ⟨#[0xff]⟩).resolve "primary.json" = .ok (.file ⟨#[0xff]⟩) ∧
      ofFile .standard (settingsSite ⟨#[0xff]⟩) "primary.json" = .error (unreadableFile "primary.json" .notUtf8) ∧
      ofFileOrFallback .standard (settingsSite ⟨#[0xff]⟩) "primary.json" "fallback.json" = .ok {} ∧
      ofFileOrFallback .standard ⟨.directory [("primary.json", .file ⟨#[0xff]⟩)], []⟩ "primary.json" "fallback.json" =
        .error (unreadableFiles "primary.json" "fallback.json" (unreadableFile "fallback.json" .notFound).message) :=
  ⟨rfl, rfl, rfl, rfl⟩

end Outlining.Settings
