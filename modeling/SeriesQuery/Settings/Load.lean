import SeriesQuery.Files.Disk
import SeriesQuery.Settings.Document
import SeriesQuery.Text.Shown

/-!
Settings from files: from one that is named, or from the first of the usual places that holds a
document.
-/

set_option autoImplicit false

namespace SeriesQuery

inductive SettingsFailure where
  | unreadable (path reason : String)
  | malformed (path : String)
  deriving Repr, DecidableEq

def SettingsFailure.message : SettingsFailure → String
  | .unreadable path reason =>
    "Failed to read config file " ++ Text.shown path ++ ": " ++ reason
  | .malformed path => "Failed to parse config file " ++ Text.shown path ++ ": malformed document"

namespace Settings

variable {m : Type → Type} [Monad m]

def load (disk : Files.Disk m) (environment : Environment) (path : String) :
    ExceptT SettingsFailure m Settings := do
  match ← disk.read path with
  | .error reason => throw (.unreadable path reason)
  | .ok document =>
    match ofDocument? (standard environment) document with
    | some settings => return settings
    | none => throw (.malformed path)

def loadAndOverride (disk : Files.Disk m) (environment : Environment) (path : String) :
    ExceptT SettingsFailure m Settings := do
  return (← load disk environment path).override environment

def usualPlaces (environment : Environment) : List String :=
  (environment.configDirectory?.map fun directory =>
      Files.joinAll directory [programName, "config.toml"]).toList ++
    ["/etc/tsbridge/config.toml", "./tsbridge.toml"]

/-- The first file that can be read and understood, or the defaults; the environment overrides both.
-/
def loadFirst (disk : Files.Disk m) (environment : Environment) : List String → m Settings
  | [] => return ofEnvironment environment
  | path :: rest => do
    match ← (loadAndOverride disk environment path).run with
    | .ok settings => return settings
    | .error _ => loadFirst disk environment rest

def loadUsual (disk : Files.Disk m) (environment : Environment) : m Settings :=
  loadFirst disk environment (usualPlaces environment)

end Settings

end SeriesQuery
