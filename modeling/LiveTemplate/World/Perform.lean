import LiveTemplate.World.Interpolate
import LiveTemplate.World.Outline

/-!
Performing scripts.  `performStep` does one step, given how the steps of user code are run; `performAt`
closes the circle, down to a limit on how deep steps may nest.
-/

namespace LiveTemplate

/-- How deep steps may nest. -/
def nestingLimit : Nat := 20

namespace World

/-! Handles. -/

/-- The view type of a handle. -/
def findType (w : World) (handle : String) : Except Fault TypeId :=
  match w.handles.types.find? handle with
  | some t => .ok t
  | none => .error (.noHandle .types)

/-- The view of a handle. -/
def findView (w : World) (handle : String) : Except Fault ViewId :=
  match w.handles.views.find? handle with
  | some v => .ok v
  | none => .error (.noHandle .views)

/-- The binding of a handle. -/
def findBinding (w : World) (handle : String) : Except Fault BindingId :=
  match w.handles.bindings.find? handle with
  | some b => .ok b
  | none => .error (.noHandle .bindings)

/-- The container that a target names. -/
def findTarget (w : World) (target : Target) : Except Fault ContainerId :=
  let found :=
    match target with
    | .ofView view => (w.handles.views.find? view).map fun v => (w.view v).state
    | .state handle => w.handles.states.find? handle
  match found with
  | some c => .ok c
  | none => .error (.noHandle .states)

/-- The least of some names. -/
def leastName? : List String → Option String
  | [] => none
  | name :: rest =>
    match leastName? rest with
    | some other => some (if other < name then other else name)
    | none => some name

/-- The first handle by name that is on a thing. -/
def handleOf? (handles : OrderedMap Nat) (id : Nat) : Option String :=
  leastName? ((handles.entries.filter (·.2 == id)).map Prod.fst)

/-- How answers call a view that is not named: by its first handle. -/
def viewHandle (w : World) (v : ViewId) : String :=
  (handleOf? w.handles.views v).getD "?"

/-- How answers call a container: by the first handle on a view whose state it is, or else by its own. -/
def containerHandle (w : World) (c : ContainerId) : String :=
  let views := w.handles.views.entries.filter fun entry => (w.view entry.2).state == c
  ((leastName? (views.map Prod.fst)).or (handleOf? w.handles.states c)).getD "?"

/-! View types. -/

/-- The name under which interpolation is installed. -/
def interpolationName : String := "interpolate"

/-- The name under which a plugin is installed. -/
def pluginName : Plugin Step → String
  | .plainInterpolation => interpolationName
  | .builtinInterpolation => interpolationName
  | .foreign name _ => name

/-- Registers a filter on a view type. -/
def registerOn (w : World) (t : TypeId) (name : String) (code : FilterCode Step) :
    Except ViewError World :=
  match (w.type t).registry with
  | none => .error (.interpolationNotInstalled (w.type t).name)
  | some r =>
    match w.register? r name code with
    | none => .error (.interpolate (.invalidFilterName name))
    | some w => .ok w

/-- Gives a view type a registry of its own. -/
def installInterpolation (w : World) (t : TypeId) (hasBuiltins : Bool) : World :=
  let (r, w) := w.addRegistry
  let w := if hasBuiltins then w.registerBuiltins r else w
  w.modifyType t fun x => { x with registry := some r }

/-- Does what a plugin does when it is installed. -/
def runInstall (w : World) (t : TypeId) : Plugin Step → Except ViewError World
  | .plainInterpolation => .ok (w.installInterpolation t false)
  | .builtinInterpolation => .ok (w.installInterpolation t true)
  | .foreign _ none => .ok w
  | .foreign _ (some (name, code)) => w.registerOn t name code

/-- Installs a plugin on a view type, once. -/
def usePlugin (w : World) (t : TypeId) (plugin : Plugin Step) : Except ViewError World :=
  let name := pluginName plugin
  if name ∈ (w.type t).plugins then .error (.pluginAlreadyInstalled name (w.type t).name)
  else do
    let w ← w.runInstall t plugin
    return w.modifyType t fun x => { x with plugins := x.plugins ++ [name] }

/-- Whether a view type has a filter under a name. -/
def hasFilter (w : World) (t : TypeId) (name : String) : Bool :=
  (w.type t).registry.any fun r => (w.registry r).has name

/-! Views. -/

/-- Makes a view, whose owner must not be destroyed. -/
def createView (w : World) (t : TypeId) (name : Option String) (state props : OrderedMap Value)
    (owner : Option ViewId) : Except ViewError (ViewId × World) :=
  match owner with
  | some o =>
    if (w.view o).isDestroyed then .error (.ownerDestroyed (w.label o))
    else .ok (w.addView t name state props owner)
  | none => .ok (w.addView t name state props none)

/-- What an answer tells about a view. -/
def viewInfo (w : World) (v : ViewId) : ViewInfo where
  name := (w.view v).name
  typeName := (w.typeOf v).name
  label := w.label v
  isDestroyed := (w.view v).isDestroyed
  bindings := (w.view v).bindings.length
  subscribers := (w.stateOf v).subscribers.length
  owner := (w.owner? v).map w.viewHandle

/-- What an answer tells about the properties of a view. -/
def propsInfo (w : World) (v : ViewId) (key : String) : PropsInfo :=
  let props := (w.view v).props
  ⟨props.keys, props.contains key, props.find? key⟩

/-! Subscriptions of the program. -/

/-- Subscribes a new handler to a key of a container, under a handle. -/
def listen (w : World) (target : Target) (key subscription : String)
    (reactions : List (Reaction Step)) : Except Fault (Answer × World) := do
  let c ← w.findTarget target
  let (l, w) := w.addListener subscription reactions
  let (id, w) := w.subscribe c key (.listener l)
  let w := w.modifyHandles fun h =>
    { h with subscriptions := h.subscriptions.insert subscription (c, id) }
  return (.text s!"SubscriptionId({id})", w)

/-- Ends the subscription of a handle.  The handle stays. -/
def unlisten (w : World) (subscription : String) : Except Fault (Answer × World) :=
  match w.handles.subscriptions.find? subscription with
  | none => .error (.noHandle .subscriptions)
  | some (c, id) => .ok (.flag (w.isSubscribed c id), w.unsubscribe c id)

end World

/-! Steps. -/

/-- A step that only looks. -/
def look (f : World → Except Fault Answer) : Act Outcome := do
  return f (← Act.world)

/-- A step that changes the world without user code, or has a fault and changes nothing. -/
def alter (f : World → Except Fault (Answer × World)) : Act Outcome := do
  match f (← Act.world) with
  | .error fault => return .error fault
  | .ok (answer, w) =>
    Act.change fun _ => w
    return .ok answer

/-- A step in which user code may run, on a view that is held in the meantime. -/
def onView (view : String) (act : ViewId → Act Outcome) : Act Outcome := do
  match (← Act.world).findView view with
  | .error fault => return .error fault
  | .ok v =>
    Act.change (·.pinView v)
    let outcome ← act v
    Act.change World.unpinView
    return outcome

/-- The result of a step with an error of the view as its fault. -/
def ofView {α : Type} (f : α → Answer) (result : Except ViewError α) : Outcome :=
  match result with
  | .ok a => .ok (f a)
  | .error e => .error (.view e)

/-- Makes a view type under a handle and installs a plugin, if one is given.  The type stays when the
plugin is refused. -/
def performNewType (handle name : String) (plugin : Option (Plugin Step)) : Act Outcome := do
  let t ← Act.changeWith (·.addType name)
  Act.change (·.modifyHandles fun h => { h with types := h.types.insert handle t })
  match plugin with
  | none => return .ok .done
  | some plugin => alter fun w =>
    match w.usePlugin t plugin with
    | .ok w => .ok (.done, w)
    | .error e => .error (.view e)

/-- Makes a view under a handle. -/
def performCreate (type view : String) (name : Option String) (state props : List (String × Value))
    (owner : Option String) : Act Outcome :=
  alter fun w => do
    let t ← w.findType type
    let o ← owner.mapM w.findView
    match w.createView t name (.ofList state) (.ofList props) o with
    | .error e => .error (.view e)
    | .ok (v, w) => return (.text (w.label v), w.holdView view v)

variable (perform : Perform)

/-- Binds a template on a view directly through the view's type; the binding belongs to the program. -/
def bindRaw (v : ViewId) (template label binding : String) (reactions : List (Reaction Step)) :
    Act Outcome := do
  match ((← Act.world).typeOf v).registry with
  | none => return .error (.noHandle .interpolator)
  | some r =>
    match ← bindWith perform r v template label reactions with
    | .error e => return .error (.interpolate e)
    | .ok (value, b) =>
      Act.change (·.holdBinding binding b)
      return .ok (.value value)

/-- Stores a value in a container, which is held in the meantime. -/
def performSet (target : Target) (key : String) (value : Value) : Act Outcome := do
  match (← Act.world).findTarget target with
  | .error fault => return .error fault
  | .ok c =>
    Act.change (·.pinContainers [c])
    setValue perform c key value
    Act.change (·.unpinContainers 1)
    return .ok .done

/-- Performs one step, given how the steps of user code are run. -/
def performStep : Step → Act Outcome
  | .newType handle name plugin => performNewType handle name plugin
  | .usePlugin type plugin => alter fun w => do
    let t ← w.findType type
    match w.usePlugin t plugin with
    | .ok w => return (.flag true, w)
    | .error e => .error (.view e)
  | .typeName type => look fun w => return .text (w.type (← w.findType type)).name
  | .hasPlugin type name => look fun w => do
    return .flag ((w.type (← w.findType type)).plugins.contains name)
  | .registerFilter type name code => alter fun w => do
    let t ← w.findType type
    match w.registerOn t name code with
    | .ok w => return (.done, w)
    | .error e => .error (.view e)
  | .hasFilter (.ofView view) name => look fun w => do
    return .flag (w.hasFilter (w.view (← w.findView view)).type name)
  | .hasFilter (.ofType type) name => look fun w => do
    return .flag (w.hasFilter (← w.findType type) name)
  | .filterNames type => look fun w => do
    return .names? ((w.type (← w.findType type)).registry.map fun r => (w.registry r).names)
  | .sharesRegistry first second => look fun w => do
    let a := (w.type (← w.findType first)).registry
    let b := (w.type (← w.findType second)).registry
    return .flag? (do return (← a) == (← b))
  | .create type view name state props owner => performCreate type view name state props owner
  | .createBlank type view => performCreate type view none [] [] none
  | .render view template => onView view fun v => do
    return ofView .value (← interpolate perform v template)
  | .bind view template label reactions => onView view fun v => do
    return ofView .value (← interpolateWith perform v template label reactions)
  | .bindRaw view template label binding reactions => onView view fun v =>
    bindRaw perform v template label binding reactions
  | .release binding => alter fun w => do
    return (.done, w.release (← w.findBinding binding))
  | .dropBinding binding => alter fun w =>
    .ok (.flag (w.handles.bindings.contains binding), w.dropBinding binding)
  | .bindingInfo binding => look fun w => do
    let b := w.binding (← w.findBinding binding)
    return .binding b.template.source b.subscriptions.length b.isActive
  | .bindingOutline binding => look fun w => do
    return .text (w.bindingOutline (← w.findBinding binding))
  | .observes binding target => look fun w => do
    let b := w.binding (← w.findBinding binding)
    let c ← w.findTarget target
    return .flag (b.subscriptions.any (·.1 == c))
  | .resolve view identifier => look fun w => do
    let v ← w.findView view
    return .resolved ((w.resolve identifier v).map fun found =>
      ⟨found.value, found.depth, w.containerHandle found.container⟩)
  | .set target key value => performSet perform target key value
  | .get target key => look fun w => do
    return .value? ((w.container (← w.findTarget target)).values.find? key)
  | .contains target key => look fun w => do
    return .flag ((w.container (← w.findTarget target)).values.contains key)
  | .keys target => look fun w => do
    return .names (w.container (← w.findTarget target)).values.keys
  | .snapshot target => look fun w => do
    return .fields (w.container (← w.findTarget target)).values.entries
  | .subscriberCount target => look fun w => do
    return .count (w.container (← w.findTarget target)).subscribers.length
  | .subscribe target key subscription reactions =>
    alter fun w => w.listen target key subscription reactions
  | .unsubscribe subscription => alter fun w => w.unlisten subscription
  | .holdState target state => alter fun w => do
    return (.done, w.holdState state (← w.findTarget target))
  | .newState state values => alter fun w =>
    let (c, w) := w.addContainer (.ofList values)
    .ok (.done, w.holdState state c)
  | .dropState state => alter fun w =>
    .ok (.flag (w.handles.states.contains state),
      w.modifyHandles fun h => { h with states := h.states.erase state })
  | .downgrade target weak => alter fun w => do
    let c ← w.findTarget target
    return (.done, w.modifyHandles fun h => { h with weaks := h.weaks.insert weak c })
  | .upgrade weak => look fun w =>
    match w.handles.weaks.find? weak with
    | none => .error (.noHandle .weaks)
    | some c => .ok (.fields? (if w.isHeld c then some (w.container c).values.entries else none))
  | .destroy view => alter fun w => do
    return (.done, w.destroy (← w.findView view))
  | .dropView view => alter fun w =>
    .ok (.flag (w.handles.views.contains view), w.dropView view)
  | .viewInfo view => look fun w => do
    return .view (w.viewInfo (← w.findView view))
  | .props view key => look fun w => do
    return .props (w.propsInfo (← w.findView view) key)
  | .viewOutline view => look fun w => do
    return .text (w.viewOutline (← w.findView view))
  | .typeOutline type => look fun w => do
    let t ← w.findType type
    return .outlines (w.typeOutline t) ((w.type t).registry.map w.interpolatorOutline)
  | .stateOutline target => look fun w => do
    return .text (w.containerOutline (← w.findTarget target))
  | .unknown word => pure (.error (.unknownStep word))

/-- Performs steps one after the other, with an entry in the journal after each. -/
def performAll (act : Step → Act Outcome) (steps : List Step) : Act Unit :=
  steps.forM fun s => do Act.record (.nested s (← act s))

/-- Performs a step that may still nest `room` deep. -/
def performAt : (room : Nat) → Step → Act Outcome
  | 0, _ => pure (.error .depthLimit)
  | room + 1, step => performStep (performAll (performAt room)) step

/-- Performs a step of the program itself. -/
def performTop (step : Step) : Act Outcome :=
  performAt nestingLimit step

/-- The run of a whole program from the world in which nothing was made yet, with steps that nest `room`
deep. -/
def session (room : Nat) (script : List Step) : Run :=
  (performAll (performAt room) script ⟨.empty, #[]⟩).2

end LiveTemplate
