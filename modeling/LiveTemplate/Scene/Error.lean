import LiveTemplate.Data.FileProblem
import LiveTemplate.Text.Quoted
import LiveTemplate.World.Error
import LiveTemplate.Yaml.Error

/-!
What can be wrong with a scene: its file cannot be read, its parts do not fit together, or its templates
cannot be interpolated.
-/

namespace LiveTemplate

/-- Why the parts of a scene do not fit together. -/
inductive ValidationError where
  | emptyScene
  | unknownOwner (view owner : String)
  | ownerCycle (views : List String)
  | unknownBindingView (index : Nat) (view : String)
  | unknownUpdateView (index : Nat) (view : String)
  | unresolvedBinding (view template reason : String)
deriving DecidableEq, Repr

/-- The wording of a validation error. -/
def ValidationError.message : ValidationError → String
  | .emptyScene => "Empty scene: no views defined"
  | .unknownOwner view owner => s!"View '{view}' is owned by unknown view '{owner}'"
  | .ownerCycle views => "Ownership cycle detected involving views: " ++ Text.quotedList views
  | .unknownBindingView index view => s!"Binding #{index} refers to unknown view '{view}'"
  | .unknownUpdateView index view => s!"Update #{index} refers to unknown view '{view}'"
  | .unresolvedBinding view template reason =>
    s!"Template '{template}' on view '{view}' cannot be interpolated: {reason}"

/-- Why a scene cannot be read, made or acted on. -/
inductive SceneError where
  | file (problem : FileProblem)
  | yaml (error : Yaml.Error)
  | missingField (name : String)
  | unknownView (name : String)
  | validation (error : ValidationError)
  | view (error : ViewError)

/-- The wording of a scene error. -/
def SceneError.message : SceneError → String
  | .file problem => "Failed to read scene file: " ++ problem.message
  | .yaml error => "Failed to parse YAML: " ++ error.message
  | .missingField name => "Missing required field: " ++ name
  | .unknownView name => s!"Unknown view '{name}'"
  | .validation error => "Validation failed: " ++ error.message
  | .view error => "View error: " ++ error.message

end LiveTemplate
