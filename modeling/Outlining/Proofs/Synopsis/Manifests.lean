import Outlining.Manifests
import Outlining.Proofs.FileTree.Contents
import Outlining.Proofs.Synopsis.History
import Outlining.Proofs.Synopsis.Violations

/-!
# Synopses of manifests

Reading, parsing and outlining manifests one after the other gives the synopsis of everything they define, taken as one series of definitions (`addManifests_eq_addAll`). A run fails with the first trouble of the first manifest that has any, and each manifest's trouble is its own, whatever came before (`failure?_addManifests`). Only the texts at the paths that were found matter: files that no such path leads to can hold anything (`ofManifests_eq_ofDefinitions`).
-/

namespace Outlining

/-! ### What is found does not depend on contents -/

namespace Discovery

mutual

theorem belowEntry_withoutContents (system : FileSystem) (extension path name : String) (entry : FileTree) :
    belowEntry system.withoutContents extension path name entry.withoutContents =
      belowEntry system extension path name entry := by
  cases entry with
  | file content => rfl
  | link target => rw [FileTree.withoutContents, belowEntry, belowEntry, FileSystem.isDirectory_withoutContents]
  | directory entries =>
    rw [FileTree.withoutContents, belowEntry, belowEntry, FileSystem.readDirectory_withoutContents,
      belowEntries_withoutContents system extension path entries]
    cases system.readDirectory path <;> rfl

theorem belowEntries_withoutContents (system : FileSystem) (extension path : String) (entries : List (String × FileTree)) :
    belowEntries system.withoutContents extension path (FileTree.entriesWithoutContents entries) =
      belowEntries system extension path entries := by
  cases entries with
  | nil => rfl
  | cons entry rest =>
    rw [FileTree.entriesWithoutContents, belowEntries, belowEntries,
      belowEntry_withoutContents system extension (Path.join path entry.1) entry.1 entry.2,
      belowEntries_withoutContents system extension path rest]

end

theorem ofArgument_withoutContents (system : FileSystem) (extension argument : String) :
    ofArgument system.withoutContents extension argument = ofArgument system extension argument := by
  rw [ofArgument, ofArgument]
  simp only [FileSystem.resolve_withoutContents]
  cases system.resolve (Path.withoutTrailingSeparators argument) with
  | error fault => rfl
  | ok target =>
    cases target with
    | file content => rfl
    | link target => rfl
    | directory entries => exact congrArg inNameOrder (belowEntries_withoutContents system extension _ entries)

theorem manifests_withoutContents (language : PatternLanguage) (system : FileSystem) (settings : Settings)
    (arguments : List String) :
    manifests language system.withoutContents settings arguments = manifests language system settings arguments := by
  rw [manifests, manifests, funext (ofArgument_withoutContents system settings.extension)]

end Discovery

namespace Synopsis

/-! ### Manifests as one series of definitions -/

/-- The definitions that a parser finds in the manifest at a path. -/
def Defines (system : FileSystem) (reader : DefinitionReader) (path : String) (definitions : List Definition) : Prop :=
  ∃ text, system.readText path = .ok text ∧ reader text path = .ok definitions

variable {system : FileSystem} {reader : DefinitionReader} {settings : Settings}

theorem definitionsIn_eq_ok_iff {path : String} {definitions : List Definition} :
    definitionsIn system reader path = .ok definitions ↔ Defines system reader path definitions := by
  rw [definitionsIn, Defines]
  cases system.readText path with
  | error fault => exact ⟨nofun, nofun⟩
  | ok text =>
    refine mapError_eq_ok_iff.trans ⟨fun h => ⟨text, rfl, h⟩, ?_⟩
    rintro ⟨_, hread, hreader⟩
    cases hread
    exact hreader

theorem addAll_append (settings : Settings) (synopsis : Synopsis) (first second : List Definition) :
    addAll settings synopsis (first ++ second) =
      addAll settings synopsis first >>= fun extended => addAll settings extended second := by
  induction first generalizing synopsis with
  | nil => rfl
  | cons definition rest ih =>
    rw [List.cons_append, addAll, addAll]
    cases synopsis.add settings definition with
    | error failure => rfl
    | ok extended => exact ih extended

/-- Manifests that can be read and parsed count as one series of definitions. -/
theorem addManifests_eq_addAll {paths : List String} {definitions : List (List Definition)}
    (h : List.Forall₂ (Defines system reader) paths definitions) (synopsis : Synopsis) :
    addManifests system reader settings synopsis paths = addAll settings synopsis definitions.flatten := by
  induction h generalizing synopsis with
  | nil => rfl
  | cons hdefines _ ih =>
    rw [addManifests, definitionsIn_eq_ok_iff.2 hdefines, List.flatten_cons, addAll_append]
    exact congrArg _ (funext ih)

/-! ### The first trouble -/

/-- What goes wrong at one manifest: it cannot be read, its parser rejects it, or one of its definitions is the first that cannot be outlined. A parser's runtime trouble is placed in the manifest; other trouble stays as it is. -/
inductive Trouble (system : FileSystem) (reader : DefinitionReader) (settings : Settings) (path : String) :
    Diagnostic → Prop
  | unreadable {fault : ReadFault} (hread : system.readText path = .error fault) :
    Trouble system reader settings path ⟨.file path, "Failed to read file: " ++ fault.message, none, some 303⟩
  | rejected {text : String} {failure : Diagnostic} (hread : system.readText path = .ok text)
    (hreader : reader text path = .error failure) (horigin : failure.origin = .runtime) :
    Trouble system reader settings path ⟨.manifest path, failure.message, failure.hint, some 320⟩
  | rejectedElsewhere {text : String} {failure : Diagnostic} (hread : system.readText path = .ok text)
    (hreader : reader text path = .error failure) (horigin : failure.origin ≠ .runtime) :
    Trouble system reader settings path failure
  | incomplete {before after : List Definition} {definition : Definition} {failure : Diagnostic}
    (hdefines : Defines system reader path (before ++ definition :: after))
    (hbefore : ∀ earlier ∈ before, ∃ outline, earlier.outline settings = .ok outline)
    (houtline : definition.outline settings = .error failure) : Trouble system reader settings path failure

/-- What goes wrong at one manifest, whatever stands in the synopsis before it. -/
def trouble? (system : FileSystem) (reader : DefinitionReader) (settings : Settings) (path : String) : Option Diagnostic :=
  failure? (definitionsIn system reader path >>= addAll settings {})

theorem failure?_addManifests (synopsis : Synopsis) (paths : List String) :
    failure? (addManifests system reader settings synopsis paths) =
      paths.findSome? (trouble? system reader settings) := by
  induction paths generalizing synopsis with
  | nil => rfl
  | cons path rest ih =>
    rw [addManifests, List.findSome?_cons]
    cases hdefinitions : definitionsIn system reader path with
    | error failure =>
      rw [trouble?, hdefinitions]
      rfl
    | ok definitions =>
      have htrouble : trouble? system reader settings path = failure? (addAll settings synopsis definitions) := by
        rw [trouble?, hdefinitions, failure?_addAll]
        exact failure?_addAll settings {} definitions
      rw [htrouble]
      refine (failure?_bind fun extended => ih extended).trans ?_
      cases failure? (addAll settings synopsis definitions) <;> rfl

theorem inManifest_of_runtime {path : String} {failure : Diagnostic} (h : failure.origin = .runtime) :
    failure.inManifest path = ⟨.manifest path, failure.message, failure.hint, some 320⟩ := by
  rw [Diagnostic.inManifest, h]

theorem inManifest_of_ne_runtime {path : String} {failure : Diagnostic} (h : failure.origin ≠ .runtime) :
    failure.inManifest path = failure := by
  rw [Diagnostic.inManifest]
  split
  · exact absurd ‹_› h
  · rfl

theorem addAll_eq_error_iff_first {synopsis : Synopsis} {definitions : List Definition} {failure : Diagnostic} :
    addAll settings synopsis definitions = .error failure ↔
      ∃ before definition after, definitions = before ++ definition :: after ∧
        (∀ earlier ∈ before, ∃ outline, earlier.outline settings = .ok outline) ∧
          definition.outline settings = .error failure := by
  simp only [← failure?_eq_some_iff, ← failure?_eq_none_iff, failure?_addAll, List.findSome?_eq_some_iff]
  constructor
  · rintro ⟨before, definition, after, rfl, hdefinition, hbefore⟩
    exact ⟨before, definition, after, rfl, hbefore, hdefinition⟩
  · rintro ⟨before, definition, after, rfl, hbefore, hdefinition⟩
    exact ⟨before, definition, after, rfl, hdefinition, hbefore⟩

theorem definitionsIn_of_rejected {path text : String} {failure : Diagnostic} (hread : system.readText path = .ok text)
    (hreader : reader text path = .error failure) :
    definitionsIn system reader path = .error (failure.inManifest path) := by
  rw [definitionsIn, hread]
  exact congrArg (Except.mapError (Diagnostic.inManifest path)) hreader

theorem trouble_of_definitionsIn_eq_error {path : String} {diagnostic : Diagnostic}
    (h : definitionsIn system reader path = .error diagnostic) : Trouble system reader settings path diagnostic := by
  cases hread : system.readText path with
  | error fault =>
    rw [definitionsIn, hread] at h
    cases h
    exact .unreadable hread
  | ok text =>
    cases hreader : reader text path with
    | ok definitions =>
      rw [definitionsIn_eq_ok_iff.2 ⟨text, hread, hreader⟩] at h
      cases h
    | error failure =>
      rw [definitionsIn_of_rejected hread hreader] at h
      cases h
      by_cases horigin : failure.origin = .runtime
      · rw [inManifest_of_runtime horigin]
        exact .rejected hread hreader horigin
      · rw [inManifest_of_ne_runtime horigin]
        exact .rejectedElsewhere hread hreader horigin

theorem trouble?_eq_some_iff {path : String} {diagnostic : Diagnostic} :
    trouble? system reader settings path = some diagnostic ↔ Trouble system reader settings path diagnostic := by
  rw [trouble?, failure?_eq_some_iff, bind_eq_error_iff]
  constructor
  · rintro (h | ⟨definitions, hdefinitions, h⟩)
    · exact trouble_of_definitionsIn_eq_error h
    · obtain ⟨before, definition, after, rfl, hbefore, houtline⟩ := addAll_eq_error_iff_first.1 h
      exact .incomplete (definitionsIn_eq_ok_iff.1 hdefinitions) hbefore houtline
  · rintro (hread | ⟨hread, hreader, horigin⟩ | ⟨hread, hreader, horigin⟩ | ⟨hdefines, hbefore, houtline⟩)
    · left
      rw [definitionsIn, hread]
      rfl
    · rw [← inManifest_of_runtime horigin]
      exact .inl (definitionsIn_of_rejected hread hreader)
    · have hsame : diagnostic.inManifest path = diagnostic := inManifest_of_ne_runtime horigin
      rw [← hsame]
      exact .inl (definitionsIn_of_rejected hread hreader)
    · exact .inr ⟨_, definitionsIn_eq_ok_iff.2 hdefines,
        addAll_eq_error_iff_first.2 ⟨_, _, _, rfl, hbefore, houtline⟩⟩

theorem addManifests_eq_error_iff {synopsis : Synopsis} {paths : List String} {diagnostic : Diagnostic} :
    addManifests system reader settings synopsis paths = .error diagnostic ↔
      ∃ before path after, paths = before ++ path :: after ∧
        (∀ earlier ∈ before, ∀ failure, ¬Trouble system reader settings earlier failure) ∧
          Trouble system reader settings path diagnostic := by
  rw [← failure?_eq_some_iff, failure?_addManifests, List.findSome?_eq_some_iff]
  simp only [← trouble?_eq_some_iff, ← Option.eq_none_iff_forall_ne_some]
  constructor
  · rintro ⟨before, path, after, rfl, hpath, hbefore⟩
    exact ⟨before, path, after, rfl, hbefore, hpath⟩
  · rintro ⟨before, path, after, rfl, hbefore, hpath⟩
    exact ⟨before, path, after, rfl, hpath, hbefore⟩

/-! ### Only the texts that are found matter -/

theorem addManifests_congr {changed : FileSystem} {paths : List String}
    (h : ∀ path ∈ paths, changed.readText path = system.readText path) (synopsis : Synopsis) :
    addManifests changed reader settings synopsis paths = addManifests system reader settings synopsis paths := by
  induction paths generalizing synopsis with
  | nil => rfl
  | cons path rest ih =>
    rw [List.forall_mem_cons] at h
    rw [addManifests, addManifests, definitionsIn, definitionsIn, h.1]
    simp only [ih h.2]

end Synopsis

/-- When discovery fails, so does the whole run, in the same way. Otherwise manifests that can be read and parsed give what their definitions give one after the other, synopsis or error; the run fails exactly with the first trouble of the first manifest in trouble; and in a file system that differs only in the contents of files, without a change to the texts of the manifests found, the outcome is the same. -/
theorem ofManifests_eq_ofDefinitions (language : PatternLanguage) (system : FileSystem) (reader : DefinitionReader)
    (settings : Settings) (arguments : List String) :
    (∀ diagnostic, Discovery.manifests language system settings arguments = .error diagnostic →
      Synopsis.ofManifests language system reader settings arguments = .error diagnostic) ∧
    ∀ paths, Discovery.manifests language system settings arguments = .ok paths →
      (∀ definitions, List.Forall₂ (Synopsis.Defines system reader) paths definitions →
        Synopsis.ofManifests language system reader settings arguments =
          Synopsis.ofDefinitions settings definitions.flatten) ∧
      (∀ diagnostic, Synopsis.ofManifests language system reader settings arguments = .error diagnostic ↔
        ∃ before path after, paths = before ++ path :: after ∧
          (∀ earlier ∈ before, ∀ failure, ¬Synopsis.Trouble system reader settings earlier failure) ∧
            Synopsis.Trouble system reader settings path diagnostic) ∧
      ∀ changed : FileSystem, changed.withoutContents = system.withoutContents →
        (∀ path ∈ paths, changed.readText path = system.readText path) →
          Synopsis.ofManifests language changed reader settings arguments =
            Synopsis.ofManifests language system reader settings arguments := by
  constructor
  · intro diagnostic h
    rw [Synopsis.ofManifests, h]
    rfl
  · intro paths hpaths
    have hrun : Synopsis.ofManifests language system reader settings arguments =
        Synopsis.addManifests system reader settings {} paths := by
      rw [Synopsis.ofManifests, hpaths]
      rfl
    refine ⟨?_, ?_, ?_⟩
    · intro definitions hdefinitions
      rw [hrun, Synopsis.addManifests_eq_addAll hdefinitions, Synopsis.ofDefinitions]
    · intro diagnostic
      rw [hrun]
      exact Synopsis.addManifests_eq_error_iff
    · intro changed hsame hread
      have hfound : Discovery.manifests language changed settings arguments = .ok paths := by
        rw [← Discovery.manifests_withoutContents, hsame, Discovery.manifests_withoutContents, hpaths]
      rw [hrun, Synopsis.ofManifests, hfound]
      exact Synopsis.addManifests_congr hread {}

/-- A parser that takes a text for the name of a node and rejects a question mark. -/
def nodeReader : DefinitionReader := fun text _ =>
  if text = "?" then .error { origin := .runtime, message := "unexpected token" } else .ok [.ofNode ⟨text, none⟩]

/-- A directory with two manifests and a file that is none. -/
def smallSite (notes last : String) : FileSystem where
  root := .directory [("notes", .file notes.toUTF8), ("web.pp", .file "web".toUTF8), ("db.pp", .file last.toUTF8)]

theorem ofManifests_smallSite :
    Synopsis.ofManifests .standard (smallSite "old" "db") nodeReader {} ["web.pp", "away.pp", "db.pp"] =
      Synopsis.ofDefinitions {} [.ofNode ⟨"web", none⟩, .ofNode ⟨"db", none⟩] ∧
    Synopsis.ofManifests .standard (smallSite "old" "?") nodeReader {} ["web.pp", "away.pp", "db.pp"] =
      .error ⟨.manifest "db.pp", "unexpected token", none, some 320⟩ ∧
    Synopsis.ofManifests .standard (smallSite "new" "?") nodeReader {} ["web.pp", "away.pp", "db.pp"] =
      Synopsis.ofManifests .standard (smallSite "old" "?") nodeReader {} ["web.pp", "away.pp", "db.pp"] := by
  have hfound : ∀ last, Discovery.manifests .standard (smallSite "old" last) {} ["web.pp", "away.pp", "db.pp"] =
      .ok ["web.pp", "db.pp"] := fun _ => rfl
  have hweb : ∀ last, Synopsis.Defines (smallSite "old" last) nodeReader "web.pp" [.ofNode ⟨"web", none⟩] :=
    fun _ => ⟨"web", rfl, rfl⟩
  obtain ⟨-, hgood⟩ :=
    ofManifests_eq_ofDefinitions .standard (smallSite "old" "db") nodeReader {} ["web.pp", "away.pp", "db.pp"]
  obtain ⟨-, hbad⟩ :=
    ofManifests_eq_ofDefinitions .standard (smallSite "old" "?") nodeReader {} ["web.pp", "away.pp", "db.pp"]
  refine ⟨?_, ?_, ?_⟩
  · have hdb : Synopsis.Defines (smallSite "old" "db") nodeReader "db.pp" [.ofNode ⟨"db", none⟩] := ⟨"db", rfl, rfl⟩
    exact (hgood _ (hfound "db")).1 _ (.cons (hweb "db") (.cons hdb .nil))
  · refine ((hbad _ (hfound "?")).2.1 _).2 ⟨["web.pp"], "db.pp", [], rfl, ?_, ?_⟩
    · intro earlier hearlier failure htrouble
      rw [List.mem_singleton.1 hearlier] at htrouble
      have hnone : Synopsis.trouble? (smallSite "old" "?") nodeReader {} "web.pp" = none := rfl
      rw [← Synopsis.trouble?_eq_some_iff, hnone] at htrouble
      cases htrouble
    · have hreader : nodeReader "?" "db.pp" = .error { origin := .runtime, message := "unexpected token" } := rfl
      exact .rejected rfl hreader rfl
  · refine (hbad _ (hfound "?")).2.2 (smallSite "new" "?") rfl ?_
    have hweb : ∀ notes, (smallSite notes "?").readText "web.pp" = .ok "web" := fun _ => rfl
    have hdb : ∀ notes, (smallSite notes "?").readText "db.pp" = .ok "?" := fun _ => rfl
    intro path hpath
    rw [List.mem_pair] at hpath
    obtain rfl | rfl := hpath
    · rw [hweb, hweb]
    · rw [hdb, hdb]

end Outlining
