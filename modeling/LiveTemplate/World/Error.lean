/-!
What can go wrong when templates are interpolated and when views are set up.
-/

namespace LiveTemplate

/-- Why a template cannot be interpolated, or a filter not be registered. -/
inductive InterpolateError where
  | unresolvedIdentifier (identifier viewLabel : String)
  | invalidFilterName (name : String)
deriving DecidableEq, Repr

/-- The wording of an interpolation error. -/
def InterpolateError.message : InterpolateError → String
  | .unresolvedIdentifier identifier viewLabel =>
    s!"Unable to interpolate '{identifier}' in view {viewLabel}: not found in the state of " ++
      "the view or any of its owners (properties are never interpolated)"
  | .invalidFilterName name => s!"Invalid filter name: '{name}'"

/-- Why a view or its type refuses an operation. -/
inductive ViewError where
  | interpolationNotInstalled (typeName : String)
  | pluginAlreadyInstalled (plugin typeName : String)
  | destroyed (viewLabel : String)
  | ownerDestroyed (ownerLabel : String)
  | interpolate (error : InterpolateError)
deriving DecidableEq, Repr

/-- The wording of a view error. -/
def ViewError.message : ViewError → String
  | .interpolationNotInstalled typeName =>
    s!"Interpolation is not installed on view type '{typeName}'"
  | .pluginAlreadyInstalled plugin typeName =>
    s!"Plugin '{plugin}' is already installed on view type '{typeName}'"
  | .destroyed viewLabel => s!"View {viewLabel} has been destroyed"
  | .ownerDestroyed ownerLabel => s!"Owner view {ownerLabel} has been destroyed"
  | .interpolate error => "Interpolation error: " ++ error.message

end LiveTemplate
