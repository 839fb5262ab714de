import LiveTemplate.World.Journal

/-!
Interpolation in a world: evaluating templates, telling subscribers that a key was set, and binding a
template to a callback.  User code runs in the middle of all of these, so they are stated over what it
does: `perform` runs the steps of a reaction.
-/

namespace LiveTemplate

/-- How the steps of a reaction are run. -/
abbrev Perform := List Step → Act Unit

variable (perform : Perform)

/-- Runs what user code does on its `call`-th call. -/
def react (reactions : List (Reaction Step)) (call : Nat) : Act Unit :=
  reactions.forM fun reaction =>
    if reaction.call.all (· == call) then perform reaction.steps else pure ()

/-- Calls a callback or handler, after an entry in the journal. -/
def callListener (l : ListenerId) (occurrence : String → Nat → Occurrence) : Act Unit := do
  let listener := (← Act.world).listener l
  let call := listener.calls + 1
  Act.change (·.countListenerCall l)
  Act.record (occurrence listener.label call)
  react perform listener.reactions call

/-- Calls a filter: its reactions first, then its function. -/
def callFilter (f : FilterId) (value : Value) : Act Value := do
  let cell := (← Act.world).filter f
  Act.change (·.countFilterCall f)
  Act.record (.filtered f value)
  react perform cell.code.reactions (cell.calls + 1)
  return cell.code.transform.apply value

/-- Passes a value through the filters of some names, each looked up when its turn comes. -/
def applyFilters (r : RegistryId) : List String → Value → Act Value
  | [], value => pure value
  | name :: rest, value => do
    match ((← Act.world).registry r).find? name with
    | some f => applyFilters r rest (← callFilter perform f value)
    | none => applyFilters r rest value

/-- What a template is evaluated with: a registry, the sources of its identifiers, and the view's label
for the error of an identifier without value. -/
structure Scope where
  registry : RegistryId
  sources : Sources
  viewLabel : String

/-- The filtered value of a placeholder. -/
def evaluatePlaceholder (scope : Scope) (p : Placeholder) : Act (Except InterpolateError Value) := do
  match (← Act.world).read? scope.sources p.identifier with
  | none => return .error (.unresolvedIdentifier p.identifier scope.viewLabel)
  | some value => return .ok (← applyFilters perform scope.registry p.filters value)

/-- The text of segments, with the text of each placeholder's value in its place. -/
def evaluateSegments (scope : Scope) : List Segment → Act (Except InterpolateError String)
  | [] => return .ok ""
  | .literal text :: rest => do
    return (← evaluateSegments scope rest).map (text ++ ·)
  | .placeholder p :: rest => do
    match ← evaluatePlaceholder perform scope p with
    | .error e => return .error e
    | .ok value => return (← evaluateSegments scope rest).map (value.toText ++ ·)

/-- The value of a template: of a bare one that of its placeholder, of any other a text. -/
def evaluate (scope : Scope) (t : Template) : Act (Except InterpolateError Value) :=
  match t.isBare, t.placeholders with
  | true, p :: _ => evaluatePlaceholder perform scope p
  | _, _ => return (← evaluateSegments perform scope t.segments).map .string

/-- Evaluates an active binding again and calls its callback with the value.  If a source has vanished
in the meantime nothing is called. -/
def refresh (b : BindingId) : Act Unit := do
  let binding := (← Act.world).binding b
  if binding.isActive then
    Act.record (.refreshed b)
    match ← evaluate perform ⟨binding.registry, binding.sources, binding.viewLabel⟩ binding.template with
    | .ok value => callListener perform binding.listener (.called binding.listener · · value)
    | .error _ => pure ()

/-- Tells one subscriber that a key was set. -/
def notify (key : String) (value : Value) (s : Subscriber) : Act Unit :=
  match s.handler with
  | .listener l => callListener perform l (.notified l · · key value)
  | .binding b => refresh perform b

/-- Stores a value under a key of a container and tells the subscribers of that key, as the list stands
right then, in the order of their subscription. -/
def setValue (c : ContainerId) (key : String) (value : Value) : Act Unit := do
  Act.change (·.store c key value)
  let subscribers := (← Act.world).subscribersTo c key
  Act.record (.stored c key value subscribers)
  subscribers.forM (notify perform key value)

/-- Evaluates a template once on a view. -/
def renderWith (r : RegistryId) (v : ViewId) (template : String) :
    Act (Except InterpolateError Value) := do
  let t := Template.parse template
  let w ← Act.world
  match w.resolveAll v t.identifiers with
  | .error e => return .error e
  | .ok sources =>
    Act.change (·.pinContainers (sources.map Prod.snd))
    let result ← evaluate perform ⟨r, sources, w.label v⟩ t
    Act.change (·.unpinContainers sources.length)
    return result

/-- Binds a template on a view to a callback.  The callback is called with the first value, and only then
the binding is made and subscribed to the sources that were found at the start. -/
def bindWith (r : RegistryId) (v : ViewId) (template label : String)
    (reactions : List (Reaction Step)) : Act (Except InterpolateError (Value × BindingId)) := do
  let t := Template.parse template
  let w ← Act.world
  match w.resolveAll v t.identifiers with
  | .error e => return .error e
  | .ok sources =>
    Act.change (·.pinContainers (sources.map Prod.snd))
    match ← evaluate perform ⟨r, sources, w.label v⟩ t with
    | .error e =>
      Act.change (·.unpinContainers sources.length)
      return .error e
    | .ok value =>
      let l ← Act.changeWith (·.addListener label reactions)
      callListener perform l (.called l · · value)
      let b ← Act.changeWith (·.addBinding t r (w.label v) sources l)
      Act.change (·.unpinContainers sources.length)
      return .ok (value, b)

/-- The registry that a view's templates are filtered with, if the view still takes templates. -/
def World.requireRegistry (w : World) (v : ViewId) : Except ViewError RegistryId :=
  if (w.view v).isDestroyed then .error (.destroyed (w.label v))
  else
    match (w.typeOf v).registry with
    | none => .error (.interpolationNotInstalled (w.typeOf v).name)
    | some r => .ok r

/-- Evaluates a template once on a view that is not destroyed. -/
def interpolate (v : ViewId) (template : String) : Act (Except ViewError Value) := do
  match (← Act.world).requireRegistry v with
  | .error e => return .error e
  | .ok r => return (← renderWith perform r v template).mapError .interpolate

/-- Binds a template on a view that is not destroyed; the binding belongs to the view and ends with it. -/
def interpolateWith (v : ViewId) (template label : String) (reactions : List (Reaction Step)) :
    Act (Except ViewError Value) := do
  match (← Act.world).requireRegistry v with
  | .error e => return .error e
  | .ok r =>
    match ← bindWith perform r v template label reactions with
    | .error e => return .error (.interpolate e)
    | .ok (value, b) =>
      Act.change (·.recordBinding v b)
      return .ok value

end LiveTemplate
