import LiveTemplate.Scene.Instance

/-!
Validation of scenes.  Errors are what keeps a scene from working: owners and references that lead
nowhere, and templates that cannot be interpolated.  Warnings are what is likely a mistake.
-/

namespace LiveTemplate

/-- What validation says about a scene. -/
structure Report where
  errors : List ValidationError
  warnings : List String

namespace Report

/-- Whether a scene counts as valid.  Where validation is strict, warnings count as errors. -/
def isValid (r : Report) (strict : Bool) : Bool :=
  r.errors.isEmpty && (!strict || r.warnings.isEmpty)

end Report

namespace Scene

/-- The error in the ownership of the views. -/
def ownershipErrors (s : Scene) : List ValidationError :=
  match Ownership.creationOrder s.views with
  | .error e => [e]
  | .ok _ => []

/-- The bound templates and the updates that refer to views that are not declared. -/
def referenceErrors (s : Scene) : List ValidationError :=
  let bindings := s.bindings.zipIdx.filterMap fun (b, index) =>
    if s.views.contains b.view then none else some (.unknownBindingView index b.view)
  let updates := s.updates.zipIdx.filterMap fun (u, index) =>
    if s.views.contains u.view then none else some (.unknownUpdateView index u.view)
  bindings ++ updates

/-- The warnings about a bound template. -/
def templateWarnings (i : Instance) (b : BindingSpec) : List String :=
  let t := Template.parse b.template
  let blank :=
    if t.hasPlaceholders then []
    else [s!"Template '{b.template}' on view '{b.view}' has no placeholders"]
  blank ++ (t.filterNames.filter (!i.hasFilter ·)).map fun name =>
    s!"Template '{b.template}' uses unregistered filter '{name}'"

/-- The error of a bound template that cannot be interpolated. -/
def templateErrors (i : Instance) (b : BindingSpec) : List ValidationError :=
  match (i.run (Instance.render b.view b.template)).1 with
  | .ok _ => []
  | .error e => [.unresolvedBinding b.view b.template e.message]

/-- The warnings about views that no template, update or owned view refers to. -/
def unusedWarnings (s : Scene) : List String :=
  let used := s.bindings.map BindingSpec.view ++ s.updates.map Update.view ++
    s.views.values.filterMap ViewSpec.owner
  (s.viewNames.filter (· ∉ used)).map fun name => s!"View '{name}' is never referenced"

/-- Validates a scene with a set of filters.  Templates are only looked at where all references lead
somewhere. -/
def validate (s : Scene) (filters : FilterSet) : Except SceneError Report := do
  let errors := s.ownershipErrors ++ s.referenceErrors
  if errors.isEmpty then
    let i ← s.instantiate filters
    return ⟨s.bindings.flatMap (templateErrors i),
      s.bindings.flatMap (templateWarnings i) ++ s.unusedWarnings⟩
  else return ⟨errors, s.unusedWarnings⟩

end Scene

end LiveTemplate
