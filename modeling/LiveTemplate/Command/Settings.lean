import LiveTemplate.Command.Error
import LiveTemplate.Command.Files
import LiveTemplate.Scene.Basic
import LiveTemplate.Yaml.Decode

/-!
Settings: which filters scenes start with, how values are printed, and what is logged.  They come from a
file, and variables of the environment go before the file.
-/

namespace LiveTemplate

/-- The settings of the commands. -/
structure Settings where
  builtinFilters : Bool
  prettyJson : Bool
  logLevel : String
  logFormat : String
deriving DecidableEq, Repr

/-- The variables of the environment that go before the settings file. -/
structure Overrides where
  logLevel : Option String
  logFormat : Option String
  builtinFilters : Option String

namespace Settings

/-- The settings without any file. -/
def default : Settings := ⟨true, false, "warn", "pretty"⟩

/-- The filters of a scene that does not choose any. -/
def filters (s : Settings) : FilterSet :=
  if s.builtinFilters then .builtin else .none

open Yaml Decode

/-- The logging settings that were read so far. -/
structure LoggingDraft where
  level : Option String := none
  format : Option String := none

/-- Reads the level and the format of the log. -/
def readLogging : Decoder (String × String) :=
  record "LoggingConfig" ({} : LoggingDraft)
    (fun d name p node => do
      if name = "level" then
        return { d with level := ← once name d.level (text "a string" p node) }
      else if name = "format" then
        return { d with format := ← once name d.format (text "a string" p node) }
      else unknownField d node)
    (fun d => do return (← required "level" d.level, ← required "format" d.format))

/-- The settings that were read so far. -/
structure Draft where
  builtinFilters : Option Bool := none
  prettyJson : Option Bool := none
  logging : Option (String × String) := none

/-- Reads settings.  What is left out stays as it is without any file. -/
def read : Decoder Settings :=
  record "Config" ({} : Draft)
    (fun d name p node => do
      if name = "builtin_filters" then
        return { d with builtinFilters := ← once name d.builtinFilters (bool p node) }
      else if name = "pretty_json" then
        return { d with prettyJson := ← once name d.prettyJson (bool p node) }
      else if name = "logging" then
        return { d with logging := ← once name d.logging (readLogging p node) }
      else unknownField d node)
    (fun d =>
      let (level, format) := d.logging.getD (default.logLevel, default.logFormat)
      return ⟨d.builtinFilters.getD default.builtinFilters, d.prettyJson.getD default.prettyJson,
        level, format⟩)

/-- The truth value that a variable is set to. -/
def readSwitch (s : String) : Except SettingsError Bool :=
  if s = "true" then .ok true
  else if s = "false" then .ok false
  else .error .notBool

/-- Settings with the variables of the environment put over them. -/
def override (s : Settings) (o : Overrides) : Except SettingsError Settings := do
  let builtinFilters ←
    match o.builtinFilters with
    | none => .ok s.builtinFilters
    | some text => readSwitch text
  return { s with
    builtinFilters := builtinFilters, logLevel := o.logLevel.getD s.logLevel,
    logFormat := o.logFormat.getD s.logFormat }

/-- The places where a settings file is looked for, in their order. -/
def standardPaths (home : Option String) : List String :=
  ["view-interpolate.yaml", "view-interpolate.yml", ".view-interpolate.yaml",
    ".view-interpolate.yml"] ++
    home.toList.map fun base => joinPath (joinPath base ".view-interpolate") "config.yaml"

variable {m : Type → Type} [Monad m]

/-- The first of some paths at which there is something. -/
def firstExisting? (files : Files m) : List String → m (Option String)
  | [] => return none
  | path :: rest => do
    if ← files.has path then return some path else firstExisting? files rest

/-- The settings of a file, or those without any if there is no file. -/
def ofFile (files : Files m) (path : String) : m (Except SettingsError Settings) := do
  if ← files.has path then
    match ← files.read path with
    | .error problem => return .error (.file problem)
    | .ok source => return (Yaml.decode read source).mapError .yaml
  else return .ok default

/-- Loads the settings from the file at a path, or else from the first standard place that has one. -/
def load (files : Files m) (home : Option String) (overrides : Overrides) (path : Option String) :
    m (Except SettingsError Settings) := do
  let path ←
    match path with
    | some path => pure (some path)
    | none => firstExisting? files (standardPaths home)
  let settings ←
    match path with
    | some path => ofFile files path
    | none => pure (.ok default)
  return settings.bind (·.override overrides)

end Settings

end LiveTemplate
