import LiveTemplate.Scene.Ownership
import LiveTemplate.World.Perform

/-!
Scenes come alive: an instance is a world with the views of a scene in it, each under its name.  Its
callbacks only take note of the values they are called with.
-/

namespace LiveTemplate

/-- The views of a scene in a world of their own, and their type. -/
structure Instance where
  type : TypeId
  world : World

namespace Scene

/-- The plugin that installs a set of filters. -/
def plugin : FilterSet → Plugin Step
  | .builtin => .builtinInterpolation
  | .none => .plainInterpolation

/-- Makes a view of a scene whose owner was made before. -/
def addView (s : Scene) (t : TypeId) (w : World) (name : String) : Except SceneError World := do
  let spec := (s.views.find? name).getD default
  let owner ←
    match spec.owner with
    | none => .ok none
    | some owner =>
      match w.handles.views.find? owner with
      | some v => .ok (some v)
      | none => .error (.unknownView owner)
  let (v, w) ← (w.createView t (some name) spec.state spec.props owner).mapError .view
  return w.holdView name v

/-- The handles of the views, in the order in which the views are declared. -/
def declaredHandles (s : Scene) (w : World) : OrderedMap ViewId :=
  .ofList (s.viewNames.filterMap fun name => (w.handles.views.find? name).map fun v => (name, v))

/-- Makes the views of a scene, with a set of filters. -/
def instantiate (s : Scene) (filters : FilterSet) : Except SceneError Instance := do
  let (t, w) := World.empty.addType s.name
  let w ← (w.usePlugin t (plugin filters)).mapError .view
  let order ← (Ownership.creationOrder s.views).mapError .validation
  let w ← order.foldlM (s.addView t) w
  return ⟨t, w.modifyHandles fun h => { h with views := s.declaredHandles w }⟩

end Scene

/-- A call of a callback: its label and the value. -/
structure Call where
  label : String
  value : Value

/-- The calls that are noted in a journal. -/
def callsOf (journal : Array Moment) : List Call :=
  journal.toList.filterMap fun moment =>
    match moment.occurrence with
    | .called _ label _ value => some ⟨label, value⟩
    | _ => none

namespace Instance

/-- The names of the views. -/
def viewNames (i : Instance) : List String :=
  i.world.handles.views.keys

/-- Acts on an instance: the result, the calls of callbacks meanwhile, and the instance afterwards. -/
def run {α : Type} (i : Instance) (act : Act α) : α × List Call × Instance :=
  let (a, r) := act ⟨i.world, #[]⟩
  (a, callsOf r.journal, { i with world := r.world })

/-- Callbacks of an instance perform nothing. -/
def perform : Perform := fun _ => pure ()

/-- Acts on the view of a name. -/
def onView {α : Type} (name : String) (act : ViewId → Act (Except ViewError α)) :
    Act (Except SceneError α) := do
  match (← Act.world).handles.views.find? name with
  | none => return .error (.unknownView name)
  | some v => return (← act v).mapError .view

/-- Evaluates a template once. -/
def render (view template : String) : Act (Except SceneError Value) :=
  onView view fun v => interpolate perform v template

/-- Binds a template to a callback of a label. -/
def bind (b : BindingSpec) (label : String) : Act (Except SceneError Value) :=
  onView b.view fun v => interpolateWith perform v b.template label []

/-- Stores a value in the state of a view. -/
def store (view key : String) (value : Value) : Act (Except SceneError Unit) :=
  onView view fun v => do
    setValue perform ((← Act.world).view v).state key value
    return .ok ()

/-- Plays an update. -/
def apply : Update → Act (Except SceneError Unit)
  | .set view key value => store view key value
  | .destroy view => onView view fun v => do
    Act.change (·.destroy v)
    return .ok ()

/-- Whether the views have a filter under a name. -/
def hasFilter (i : Instance) (name : String) : Bool :=
  i.world.hasFilter i.type name

end Instance

end LiveTemplate
