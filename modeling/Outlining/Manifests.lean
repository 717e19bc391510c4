import Outlining.Discovery
import Outlining.Export

/-!
# Outlining manifests

Manifests are found, read, parsed and outlined one after the other into one synopsis; the first trouble ends the run. The parser is given from outside: a function from the text and the path of a manifest to what it defines.
-/

namespace Outlining

/-- What turns the text of a manifest, found at a path, into definitions. -/
abbrev DefinitionReader := (text path : String) → Except Diagnostic (List Definition)

namespace Synopsis

def unreadableManifest (path : String) (fault : ReadFault) : Diagnostic where
  origin := .file path
  message := "Failed to read file: " ++ fault.message
  code := some 303

def definitionsIn (system : FileSystem) (reader : DefinitionReader) (path : String) : Except Diagnostic (List Definition) := do
  let text ← (system.readText path).mapError (unreadableManifest path)
  (reader text path).mapError (Diagnostic.inManifest path)

/-- Adds what the manifests at several paths define. -/
def addManifests (system : FileSystem) (reader : DefinitionReader) (settings : Settings) (synopsis : Synopsis) :
    List String → Except Diagnostic Synopsis
  | [] => .ok synopsis
  | path :: rest => do
    let definitions ← definitionsIn system reader path
    let extended ← synopsis.addAll settings definitions
    addManifests system reader settings extended rest

/-- The synopsis of all manifests that the arguments stand for. -/
def ofManifests (language : PatternLanguage) (system : FileSystem) (reader : DefinitionReader) (settings : Settings)
    (arguments : List String) : Except Diagnostic Synopsis := do
  let paths ← Discovery.manifests language system settings arguments
  addManifests system reader settings {} paths

/-- The exported synopsis of all manifests that the arguments stand for. -/
def exportManifests (language : PatternLanguage) (system : FileSystem) (reader : DefinitionReader) (settings : Settings)
    (arguments : List String) : Except Diagnostic String :=
  (ofManifests language system reader settings arguments).map exported

end Synopsis

end Outlining
