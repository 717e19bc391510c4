import Outlining.FileTree
import Outlining.IgnoreFilter
import Outlining.Settings.Json

/-!
# Settings files

Settings are read from a JSON text whose patterns must be valid, from a file with such a text, from the second of two files when the first cannot be read, or from the file in the user's configuration directory if there is one.
-/

namespace Outlining.Settings

/-- The report of a text that is not JSON with the known settings, which does not say where it goes wrong. -/
def invalidText : Diagnostic where
  origin := .settings
  message := "Invalid config: this is not JSON with the known settings"
  hint := some "The config file must be a JSON object"
  code := some 310

/-- The settings in a JSON text, if the ignore rules among them are patterns of the language. -/
def ofText (language : PatternLanguage) (text : String) : Except Diagnostic Settings :=
  match (Json.read? text).bind ofJson? with
  | none => .error invalidText
  | some settings => (IgnoreFilter.ofRules language settings.ignorePaths).map fun _ => settings

def unreadableFile (path : String) (fault : ReadFault) : Diagnostic where
  origin := .file path
  message := "Failed to read file: " ++ fault.message
  hint := some "Check that the file exists and is readable"
  code := some 301

def ofFile (language : PatternLanguage) (system : FileSystem) (path : String) : Except Diagnostic Settings := do
  let text ← (system.readText path).mapError (unreadableFile path)
  ofText language text

/-- The report that neither of two settings files can be read. -/
def unreadableFiles (primary fallback message : String) : Diagnostic where
  origin := .file (primary ++ " (fallback: " ++ fallback ++ ")")
  message := "Failed to load config from primary path '" ++ primary ++ "' or fallback path '" ++ fallback ++ "': " ++ message
  hint := some "Check that at least one of the config files exists"
  code := some 302

/-- The settings in the file at the primary path, or at the fallback path when the primary file cannot be read. -/
def ofFileOrFallback (language : PatternLanguage) (system : FileSystem) (primary fallback : String) :
    Except Diagnostic Settings :=
  match ofFile language system primary with
  | .error ⟨.file _, _, _, _⟩ =>
    match ofFile language system fallback with
    | .error ⟨.file _, message, _, _⟩ => .error (unreadableFiles primary fallback message)
    | loaded => loaded
  | loaded => loaded

/-- The path of the user's settings file. A configuration directory counts only when its path is absolute; otherwise it is in the home directory. -/
def userPath (configHome : Option String) (home : String) : String :=
  let directory := match configHome with
    | some directory => if Path.isAbsolute directory then directory else Path.join home ".config"
    | none => Path.join home ".config"
  Path.join (Path.join directory "manifest-outline") "config.json"

/-- The settings in the user's settings file, or the defaults when there is none. -/
def ofUser (language : PatternLanguage) (system : FileSystem) (configHome : Option String) (home : String) :
    Except Diagnostic Settings :=
  let path := userPath configHome home
  if system.pathExists path then ofFile language system path else .ok {}

end Outlining.Settings
