import LiveTemplate.World.Basic

/-!
Outlines: one line that shows the parts of a thing for someone who looks for a fault.
-/

namespace LiveTemplate.World

/-- A name in quotes, or the word for none. -/
def quotedName? : Option String → String
  | some name => "Some(" ++ Text.quoted name ++ ")"
  | none => "None"

/-- The outline of a view. -/
def viewOutline (w : World) (v : ViewId) : String :=
  let x := w.view v
  "View \x7b id: <id>, name: " ++ quotedName? x.name ++ ", view_type: " ++
    Text.quoted (w.typeOf v).name ++ ", bindings: " ++ toString x.bindings.length ++
    ", destroyed: " ++ toString x.isDestroyed ++ " \x7d"

/-- The outline of a view type. -/
def typeOutline (w : World) (t : TypeId) : String :=
  "ViewType \x7b name: " ++ Text.quoted (w.type t).name ++ ", plugins: " ++
    Text.quotedList (w.type t).plugins ++ " \x7d"

/-- The outline of what interpolates for a view type. -/
def interpolatorOutline (w : World) (r : RegistryId) : String :=
  "Interpolator \x7b registry: " ++ (w.registry r).outline ++ " \x7d"

/-- The outline of a container. -/
def containerOutline (w : World) (c : ContainerId) : String :=
  let s := w.container c
  "State \x7b values: \x7b" ++ String.ofList (Value.outlineMembers s.values.entries) ++
    "\x7d, subscribers: " ++ toString s.subscribers.length ++ " \x7d"

/-- The outline of a binding. -/
def bindingOutline (w : World) (b : BindingId) : String :=
  let x := w.binding b
  "InterpolationBinding \x7b id: <id>, template: " ++ Text.quoted x.template.source ++
    ", subscriptions: " ++ toString x.subscriptions.length ++ ", active: " ++ toString x.isActive ++
    " \x7d"

end LiveTemplate.World
