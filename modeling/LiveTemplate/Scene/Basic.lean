import LiveTemplate.Data.OrderedMap
import LiveTemplate.Value.Basic

/-!
Scenes: a tree of views with their states, the templates that are bound on them, and the updates that
are played on them.
-/

namespace LiveTemplate

/-- The filters that a scene starts with: the built-in ones, or none. -/
inductive FilterSet where
  | builtin
  | none
deriving DecidableEq, Repr, Inhabited

/-- A view of a scene: the name of its owner, its state and its properties. -/
structure ViewSpec where
  owner : Option String
  state : OrderedMap Value
  props : OrderedMap Value
deriving Inhabited

/-- A template that is bound on a view. -/
structure BindingSpec where
  view : String
  template : String
deriving DecidableEq, Repr

/-- A change that is played on a view. -/
inductive Update where
  | set (view key : String) (value : Value)
  | destroy (view : String)

/-- The view that an update changes. -/
def Update.view : Update → String
  | .set view _ _ => view
  | .destroy view => view

/-- A scene. -/
structure Scene where
  name : String
  description : Option String
  filters : Option FilterSet
  views : OrderedMap ViewSpec
  bindings : List BindingSpec
  updates : List Update

namespace Scene

/-- The names of the views in the order of their declaration. -/
def viewNames (s : Scene) : List String :=
  s.views.keys

/-- The filters that a scene asks for, or else the given ones. -/
def filtersOr (s : Scene) (default : FilterSet) : FilterSet :=
  s.filters.getD default

end Scene

end LiveTemplate
