import LiveTemplate.Filter.Basic

/-!
Scripts: the steps that a program performs on view types, views, state containers, subscriptions and
bindings.  A step names what it works on by a handle.  Callbacks, handlers and filters carry scripts
of their own, so user code that runs in the middle of a step is again a list of steps.
-/

namespace LiveTemplate

/-- Steps that a callback, a handler or a filter performs when it is called: on one call, counted
from 1, or on every call. -/
structure Reaction (σ : Type) where
  call : Option Nat
  steps : List σ
deriving Inhabited

/-- A filter with what it performs before it computes its value. -/
structure FilterCode (σ : Type) where
  transform : Transform
  reactions : List (Reaction σ)
deriving Inhabited

/-- What can be installed on a view type: interpolation with an empty registry or with the built-in
filters, or a plugin that may register a filter. -/
inductive Plugin (σ : Type) where
  | plainInterpolation
  | builtinInterpolation
  | foreign (name : String) (filter : Option (String × FilterCode σ))
deriving Inhabited

/-- A state container, as the own state of a view or by a handle of its own. -/
inductive Target where
  | ofView (view : String)
  | state (handle : String)
deriving Repr

/-- Where a filter is looked up. -/
inductive FilterScope where
  | ofView (view : String)
  | ofType (type : String)
deriving Repr

/-- A step of a script. -/
inductive Step where
  | newType (type name : String) (plugin : Option (Plugin Step))
  | usePlugin (type : String) (plugin : Plugin Step)
  | typeName (type : String)
  | hasPlugin (type name : String)
  | registerFilter (type name : String) (code : FilterCode Step)
  | hasFilter (scope : FilterScope) (name : String)
  | filterNames (type : String)
  | sharesRegistry (first second : String)
  | create (type view : String) (name : Option String) (state props : List (String × Value))
      (owner : Option String)
  | createBlank (type view : String)
  | render (view template : String)
  | bind (view template label : String) (reactions : List (Reaction Step))
  | bindRaw (view template label binding : String) (reactions : List (Reaction Step))
  | release (binding : String)
  | dropBinding (binding : String)
  | bindingInfo (binding : String)
  | bindingOutline (binding : String)
  | observes (binding : String) (target : Target)
  | resolve (view identifier : String)
  | set (target : Target) (key : String) (value : Value)
  | get (target : Target) (key : String)
  | contains (target : Target) (key : String)
  | keys (target : Target)
  | snapshot (target : Target)
  | subscriberCount (target : Target)
  | subscribe (target : Target) (key subscription : String) (reactions : List (Reaction Step))
  | unsubscribe (subscription : String)
  | holdState (target : Target) (state : String)
  | newState (state : String) (values : List (String × Value))
  | dropState (state : String)
  | downgrade (target : Target) (weak : String)
  | upgrade (weak : String)
  | destroy (view : String)
  | dropView (view : String)
  | viewInfo (view : String)
  | props (view key : String)
  | viewOutline (view : String)
  | typeOutline (type : String)
  | stateOutline (target : Target)
  | unknown (word : String)
deriving Inhabited

/-- The word by which a script names a step. -/
def Step.word : Step → String
  | .newType .. => "type"
  | .usePlugin .. => "use"
  | .typeName .. => "type_name"
  | .hasPlugin .. => "has_plugin"
  | .registerFilter .. => "filter"
  | .hasFilter .. => "has_filter"
  | .filterNames .. => "filter_names"
  | .sharesRegistry .. => "shares_registry"
  | .create .. => "create"
  | .createBlank .. => "instance"
  | .render .. => "render"
  | .bind .. => "bind"
  | .bindRaw .. => "bind_raw"
  | .release .. => "release"
  | .dropBinding .. => "drop_binding"
  | .bindingInfo .. => "binding_info"
  | .bindingOutline .. => "binding_debug"
  | .observes .. => "observes"
  | .resolve .. => "resolve"
  | .set .. => "set"
  | .get .. => "get"
  | .contains .. => "contains"
  | .keys .. => "keys"
  | .snapshot .. => "snapshot"
  | .subscriberCount .. => "subscriber_count"
  | .subscribe .. => "subscribe"
  | .unsubscribe .. => "unsubscribe"
  | .holdState .. => "hold_state"
  | .newState .. => "new_state"
  | .dropState .. => "drop_state"
  | .downgrade .. => "downgrade"
  | .upgrade .. => "upgrade"
  | .destroy .. => "destroy"
  | .dropView .. => "drop_view"
  | .viewInfo .. => "info"
  | .props .. => "props"
  | .viewOutline .. => "view_debug"
  | .typeOutline .. => "type_debug"
  | .stateOutline .. => "state_debug"
  | .unknown word => word

end LiveTemplate
