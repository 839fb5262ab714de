import LiveTemplate.World.Basic
import LiveTemplate.World.Error

/-!
What is alive.  A view lives while the program has a handle on it or a running call works on it; its
link to its owner does not keep the owner alive.  A container lives while it is the state of a living
view, while the program holds it or a subscription to it, while an active binding is subscribed to it,
or while a running call works on it.
-/

namespace LiveTemplate.World

/-- Whether a view is alive. -/
def isAlive (w : World) (v : ViewId) : Bool :=
  w.handles.views.values.contains v || w.pinnedViews.contains v

/-- Whether a container is the state of a living view. -/
def isLiveState (w : World) (c : ContainerId) : Bool :=
  (List.range w.views.size).any fun v => w.isAlive v && (w.view v).state == c

/-- Whether a container is alive. -/
def isHeld (w : World) (c : ContainerId) : Bool :=
  w.pinnedContainers.contains c || w.isLiveState c ||
    w.handles.states.values.contains c ||
    w.handles.subscriptions.values.any (·.1 == c) ||
    w.bindings.any fun b => b.subscriptions.any (·.1 == c)

/-- The owner of a view, if it is still alive. -/
def owner? (w : World) (v : ViewId) : Option ViewId :=
  (w.view v).owner.filter w.isAlive

/-- Releases the bindings of a view that is no longer alive. -/
def settle (w : World) (v : ViewId) : World :=
  if w.isAlive v then w else w.releaseBindings v

/-- Lets a running call hold a view. -/
def pinView (w : World) (v : ViewId) : World :=
  { w with pinnedViews := v :: w.pinnedViews }

/-- Ends the hold that was taken last on a view. -/
def unpinView (w : World) : World :=
  match w.pinnedViews with
  | [] => w
  | v :: rest => { w with pinnedViews := rest }.settle v

/-- Lets a running call hold containers. -/
def pinContainers (w : World) (cs : List ContainerId) : World :=
  { w with pinnedContainers := cs ++ w.pinnedContainers }

/-- Ends the holds that were taken last on a number of containers. -/
def unpinContainers (w : World) (count : Nat) : World :=
  { w with pinnedContainers := w.pinnedContainers.drop count }

/-! What the program holds. -/

/-- Gives a view a handle; a view that loses the handle may end. -/
def holdView (w : World) (handle : String) (v : ViewId) : World :=
  let previous := w.handles.views.find? handle
  let w := w.modifyHandles fun h => { h with views := h.views.insert handle v }
  match previous with
  | some u => w.settle u
  | none => w

/-- Takes a handle from a view, which may end. -/
def dropView (w : World) (handle : String) : World :=
  match w.handles.views.find? handle with
  | some v => (w.modifyHandles fun h => { h with views := h.views.erase handle }).settle v
  | none => w

/-- Gives a container a handle. -/
def holdState (w : World) (handle : String) (c : ContainerId) : World :=
  w.modifyHandles fun h => { h with states := h.states.insert handle c }

/-- Gives a binding a handle; a binding that loses the handle is released. -/
def holdBinding (w : World) (handle : String) (b : BindingId) : World :=
  let previous := w.handles.bindings.find? handle
  let w := w.modifyHandles fun h => { h with bindings := h.bindings.insert handle b }
  match previous with
  | some old => w.release old
  | none => w

/-- Takes the handle from a binding, which is released. -/
def dropBinding (w : World) (handle : String) : World :=
  match w.handles.bindings.find? handle with
  | some b => (w.modifyHandles fun h => { h with bindings := h.bindings.erase handle }).release b
  | none => w

/-! Finding identifiers. -/

/-- A view and its owners from the nearest on, as far as they are alive; at most `fuel` of them. -/
def chainFrom (w : World) : (fuel : Nat) → ViewId → List ViewId
  | 0, _ => []
  | fuel + 1, v =>
    v ::
      match w.owner? v with
      | some owner => chainFrom w fuel owner
      | none => []

/-- A view and its owners from the nearest on, as far as they are alive.  An owner is older than the
view it owns, so its number is smaller and there are at most as many views as the number says. -/
def chain (w : World) (v : ViewId) : List ViewId :=
  w.chainFrom (v + 1) v

/-- Where an identifier was found: its value, the container that has it, and the number of owner links
that lead there. -/
structure Resolved where
  value : Value
  container : ContainerId
  depth : Nat

/-- Looks an identifier up in the states of views, which are `depth` links away and more. -/
def resolveIn (w : World) (identifier : String) (depth : Nat) : List ViewId → Option Resolved
  | [] => none
  | v :: rest =>
    match (w.stateOf v).values.find? identifier with
    | some value => some ⟨value, (w.view v).state, depth⟩
    | none => resolveIn w identifier (depth + 1) rest

/-- Looks an identifier up in the state of a view and of its owners; the nearest state that has it
counts. -/
def resolve (w : World) (identifier : String) (v : ViewId) : Option Resolved :=
  w.resolveIn identifier 0 (w.chain v)

/-- The sources of identifiers, or the error of the first one that is not found. -/
def resolveAll (w : World) (v : ViewId) : List String → Except InterpolateError Sources
  | [] => .ok []
  | identifier :: rest =>
    match w.resolve identifier v with
    | none => .error (.unresolvedIdentifier identifier (w.label v))
    | some found => (w.resolveAll v rest).map ((identifier, found.container) :: ·)

/-- The value of an identifier in its source, if that is still alive. -/
def read? (w : World) (sources : Sources) (identifier : String) : Option Value := do
  let c ← sources.lookup identifier
  if w.isHeld c then (w.container c).values.find? identifier else none

end LiveTemplate.World
