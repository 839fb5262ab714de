import LiveTemplate.Scene.Error

/-!
What makes a command fail, and what a command prints until then.
-/

namespace LiveTemplate

/-- Why the settings cannot be loaded. -/
inductive SettingsError where
  | file (problem : FileProblem)
  | yaml (error : Yaml.Error)
  | notBool

/-- The wording of a settings error. -/
def SettingsError.message : SettingsError → String
  | .file problem => problem.message
  | .yaml error => error.message
  | .notBool => "provided string was not \x60true\x60 or \x60false\x60"

/-- Why a command fails. -/
inductive CommandError where
  | settings (error : SettingsError)
  | assignment (text : String)
  | loading (error : SceneError)
  | instantiating (error : SceneError)
  | acting (error : SceneError)
  | rendering (error : SceneError)
  | binding (template view : String) (error : SceneError)
  | validating (error : SceneError)
  | invalid (scene : String) (errors warnings : Nat)
  | sceneExists (path : String)
  | file (problem : FileProblem)

/-- The wording of a command error. -/
def CommandError.message : CommandError → String
  | .settings error => error.message
  | .assignment text => s!"Invalid assignment format '{text}'. Expected 'key=value'"
  | .loading error => "Failed to load scene: " ++ error.message
  | .instantiating error => "Failed to instantiate scene: " ++ error.message
  | .acting error => error.message
  | .rendering error => "Interpolation failed: " ++ error.message
  | .binding template view error => s!"Failed to bind '{template}' on view '{view}': " ++ error.message
  | .validating error => "Scene validation failed: " ++ error.message
  | .invalid scene errors warnings =>
    s!"Scene '{scene}' is invalid: {errors} error(s), {warnings} warning(s)"
  | .sceneExists path => s!"Scene file already exists: {path}"
  | .file problem => problem.message

/-- What a command printed, line by line, and why it failed, if it did. -/
structure Transcript where
  lines : List String
  failure : Option CommandError

namespace Transcript

/-- Nothing printed, and no failure. -/
def empty : Transcript := ⟨[], none⟩

/-- The transcript of a failure before anything was printed. -/
def failed (error : CommandError) : Transcript := ⟨[], some error⟩

/-- Lines in front of a transcript. -/
def after (lines : List String) (t : Transcript) : Transcript :=
  { t with lines := lines ++ t.lines }

end Transcript

end LiveTemplate
