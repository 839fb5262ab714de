import LiveTemplate.World.Script
import LiveTemplate.Filter.Registry
import LiveTemplate.Template.Basic

/-!
The world that scripts act on: view types with their filter registries, views, state containers with
their subscribers, callbacks, and bindings.  Everything that was ever made keeps its number, so numbers
are never used twice.  Handles and running calls decide what is still alive.
-/

namespace LiveTemplate

/-- The number of a view type. -/
abbrev TypeId := Nat

/-- The number of a filter registry. -/
abbrev RegistryId := Nat

/-- The number of a filter. -/
abbrev FilterId := Nat

/-- The number of a view. -/
abbrev ViewId := Nat

/-- The number of a state container. -/
abbrev ContainerId := Nat

/-- The number of a callback or handler. -/
abbrev ListenerId := Nat

/-- The number of a binding. -/
abbrev BindingId := Nat

/-- What a subscription runs: a handler of the program, or the re-evaluation of a binding. -/
inductive Handler where
  | listener (listener : ListenerId)
  | binding (binding : BindingId)
deriving DecidableEq, Repr

/-- An entry in the subscriber list of a container. -/
structure Subscriber where
  id : Nat
  key : String
  handler : Handler
deriving DecidableEq, Repr

/-- A state container: values under keys, and who is told when a key is set.  Subscriptions are numbered
in the order in which they are made. -/
structure Container where
  values : OrderedMap Value
  subscribers : List Subscriber
  nextId : Nat
deriving Inhabited

/-- A view type: what is installed on it applies to all its views. -/
structure ViewType where
  name : String
  plugins : List String
  registry : Option RegistryId
deriving Inhabited

/-- A registered filter, and how often it was called. -/
structure FilterCell where
  code : FilterCode Step
  calls : Nat
deriving Inhabited

/-- A callback or a handler of the program, and how often it was called. -/
structure Listener where
  label : String
  reactions : List (Reaction Step)
  calls : Nat
deriving Inhabited

/-- A view: its own state, its properties, its owner and its bindings. -/
structure View where
  name : Option String
  type : TypeId
  state : ContainerId
  props : OrderedMap Value
  owner : Option ViewId
  bindings : List BindingId
  isDestroyed : Bool
deriving Inhabited

/-- The container that each identifier of a template was found in. -/
abbrev Sources := List (String × ContainerId)

/-- A template that is evaluated again whenever one of its sources is set, until it is released. -/
structure Binding where
  template : Template
  registry : RegistryId
  viewLabel : String
  sources : Sources
  subscriptions : List (ContainerId × Nat)
  isActive : Bool
  listener : ListenerId

instance : Inhabited Binding := ⟨⟨.parse "", 0, "", [], [], false, 0⟩⟩

/-- What a program holds, by the names it gave. -/
structure Handles where
  types : OrderedMap TypeId
  views : OrderedMap ViewId
  states : OrderedMap ContainerId
  weaks : OrderedMap ContainerId
  subscriptions : OrderedMap (ContainerId × Nat)
  bindings : OrderedMap BindingId
deriving Inhabited

/-- Everything that was made so far, what the program holds, and what running calls hold. -/
structure World where
  types : Array ViewType
  registries : Array (Registry FilterId)
  filters : Array FilterCell
  views : Array View
  containers : Array Container
  listeners : Array Listener
  bindings : Array Binding
  handles : Handles
  pinnedViews : List ViewId
  pinnedContainers : List ContainerId
deriving Inhabited

namespace World

/-- The world in which nothing was made yet. -/
def empty : World :=
  { types := #[], registries := #[], filters := #[], views := #[], containers := #[], listeners := #[],
    bindings := #[], handles := default, pinnedViews := [], pinnedContainers := [] }

/-! Looking things up by number. -/

/-- The view type of a number. -/
def type (w : World) (t : TypeId) : ViewType := w.types.getD t default

/-- The registry of a number. -/
def registry (w : World) (r : RegistryId) : Registry FilterId := w.registries.getD r default

/-- The filter of a number. -/
def filter (w : World) (f : FilterId) : FilterCell := w.filters.getD f default

/-- The view of a number. -/
def view (w : World) (v : ViewId) : View := w.views.getD v default

/-- The container of a number. -/
def container (w : World) (c : ContainerId) : Container := w.containers.getD c default

/-- The callback or handler of a number. -/
def listener (w : World) (l : ListenerId) : Listener := w.listeners.getD l default

/-- The binding of a number. -/
def binding (w : World) (b : BindingId) : Binding := w.bindings.getD b default

/-- The view type of a view. -/
def typeOf (w : World) (v : ViewId) : ViewType := w.type (w.view v).type

/-- The own state of a view. -/
def stateOf (w : World) (v : ViewId) : Container := w.container (w.view v).state

/-- How messages call a view: by its name in quotes, or by its type and its identity, which is shown
as a fixed mark. -/
def label (w : World) (v : ViewId) : String :=
  match (w.view v).name with
  | some name => s!"'{name}'"
  | none => (w.typeOf v).name ++ "#<id>"

/-! Changing what was made. -/

/-- Changes a view type. -/
def modifyType (w : World) (t : TypeId) (f : ViewType → ViewType) : World :=
  { w with types := w.types.modify t f }

/-- Changes a registry. -/
def modifyRegistry (w : World) (r : RegistryId) (f : Registry FilterId → Registry FilterId) : World :=
  { w with registries := w.registries.modify r f }

/-- Changes a view. -/
def modifyView (w : World) (v : ViewId) (f : View → View) : World :=
  { w with views := w.views.modify v f }

/-- Changes a container. -/
def modifyContainer (w : World) (c : ContainerId) (f : Container → Container) : World :=
  { w with containers := w.containers.modify c f }

/-- Changes a binding. -/
def modifyBinding (w : World) (b : BindingId) (f : Binding → Binding) : World :=
  { w with bindings := w.bindings.modify b f }

/-- Changes what the program holds. -/
def modifyHandles (w : World) (f : Handles → Handles) : World :=
  { w with handles := f w.handles }

/-- Counts a call of a filter. -/
def countFilterCall (w : World) (f : FilterId) : World :=
  { w with filters := w.filters.modify f fun cell => { cell with calls := cell.calls + 1 } }

/-- Counts a call of a callback or handler. -/
def countListenerCall (w : World) (l : ListenerId) : World :=
  { w with listeners := w.listeners.modify l fun cell => { cell with calls := cell.calls + 1 } }

/-! Making things.  Each answers with the number of what it made. -/

/-- Makes a view type without plugins. -/
def addType (w : World) (name : String) : TypeId × World :=
  (w.types.size, { w with types := w.types.push ⟨name, [], none⟩ })

/-- Makes a filter. -/
def addFilter (w : World) (code : FilterCode Step) : FilterId × World :=
  (w.filters.size, { w with filters := w.filters.push ⟨code, 0⟩ })

/-- Makes a container of values. -/
def addContainer (w : World) (values : OrderedMap Value) : ContainerId × World :=
  (w.containers.size, { w with containers := w.containers.push ⟨values, [], 0⟩ })

/-- Makes a callback or handler. -/
def addListener (w : World) (label : String) (reactions : List (Reaction Step)) : ListenerId × World :=
  (w.listeners.size, { w with listeners := w.listeners.push ⟨label, reactions, 0⟩ })

/-- Makes a view with a state of its own. -/
def addView (w : World) (type : TypeId) (name : Option String) (state props : OrderedMap Value)
    (owner : Option ViewId) : ViewId × World :=
  let (container, w) := w.addContainer state
  (w.views.size, { w with views := w.views.push ⟨name, type, container, props, owner, [], false⟩ })

/-- Makes an empty registry. -/
def addRegistry (w : World) : RegistryId × World :=
  (w.registries.size, { w with registries := w.registries.push .empty })

/-- Makes a filter and registers it, if the name is one. -/
def register? (w : World) (r : RegistryId) (name : String) (code : FilterCode Step) :
    Option World := do
  let (f, w) := w.addFilter code
  let registry ← (w.registry r).register? name f
  return w.modifyRegistry r fun _ => registry

/-- Makes the built-in filters and registers them. -/
def registerBuiltins (w : World) (r : RegistryId) : World :=
  Builtin.all.foldl
    (fun w filter => (w.register? r filter.name ⟨.builtin filter, []⟩).getD w) w

/-! Values, subscriptions and bindings. -/

/-- Stores a value under a key of a container. -/
def store (w : World) (c : ContainerId) (key : String) (value : Value) : World :=
  w.modifyContainer c fun s => { s with values := s.values.insert key value }

/-- The subscribers to a key of a container, in the order of their subscription. -/
def subscribersTo (w : World) (c : ContainerId) (key : String) : List Subscriber :=
  (w.container c).subscribers.filter (·.key == key)

/-- Adds a subscriber to the end of a container's list; also the number of the subscription. -/
def subscribe (w : World) (c : ContainerId) (key : String) (handler : Handler) : Nat × World :=
  let id := (w.container c).nextId
  (id, w.modifyContainer c fun s =>
    { s with subscribers := s.subscribers ++ [⟨id, key, handler⟩], nextId := id + 1 })

/-- Removes a subscriber from a container's list. -/
def unsubscribe (w : World) (c : ContainerId) (id : Nat) : World :=
  w.modifyContainer c fun s => { s with subscribers := s.subscribers.filter (·.id != id) }

/-- Whether a container's list has a subscriber of a number. -/
def isSubscribed (w : World) (c : ContainerId) (id : Nat) : Bool :=
  (w.container c).subscribers.any (·.id == id)

/-- Subscribes a binding to each of the sources in order. -/
def subscribeAll (w : World) (b : BindingId) : Sources → List (ContainerId × Nat) × World
  | [] => ([], w)
  | (identifier, c) :: rest =>
    let (id, w) := w.subscribe c identifier (.binding b)
    let (subscriptions, w) := w.subscribeAll b rest
    ((c, id) :: subscriptions, w)

/-- Makes an active binding, subscribed to its sources. -/
def addBinding (w : World) (template : Template) (registry : RegistryId) (viewLabel : String)
    (sources : Sources) (listener : ListenerId) : BindingId × World :=
  let b := w.bindings.size
  let (subscriptions, w) := w.subscribeAll b sources
  (b, { w with
    bindings := w.bindings.push
      ⟨template, registry, viewLabel, sources, subscriptions, true, listener⟩ })

/-- Releases a binding: it is no longer active and has no subscriptions left. -/
def release (w : World) (b : BindingId) : World :=
  let subscriptions := (w.binding b).subscriptions
  let w := w.modifyBinding b fun x => { x with isActive := false, subscriptions := [] }
  subscriptions.foldl (fun w subscription => w.unsubscribe subscription.1 subscription.2) w

/-- Releases every binding of a view and forgets them. -/
def releaseBindings (w : World) (v : ViewId) : World :=
  let bindings := (w.view v).bindings
  bindings.foldl release (w.modifyView v fun x => { x with bindings := [] })

/-- Gives a binding to the view that it was made on; if that view was destroyed in the meantime, the
binding is released at once. -/
def recordBinding (w : World) (v : ViewId) (b : BindingId) : World :=
  if (w.view v).isDestroyed then w.release b
  else w.modifyView v fun x => { x with bindings := x.bindings ++ [b] }

/-- Destroys a view.  To do so again changes nothing. -/
def destroy (w : World) (v : ViewId) : World :=
  if (w.view v).isDestroyed then w
  else (w.modifyView v fun x => { x with isDestroyed := true }).releaseBindings v

end World

end LiveTemplate
