import LiveTemplate.Scene.Basic
import LiveTemplate.Scene.Error

/-!
Ownership among the views of a scene, and the order in which they can be made: every owner before the
views it owns.  There is such an order if every owner is declared and no view owns itself, directly or
through others.
-/

namespace LiveTemplate.Ownership

/-- The views of a scene. -/
abbrev Views := OrderedMap ViewSpec

/-- The owner that a view names. -/
def owner? (views : Views) (name : String) : Option String :=
  (views.find? name).bind ViewSpec.owner

/-- The views that name a view as their owner, in the order of their declaration. -/
def ownedBy (views : Views) (owner : String) : List String :=
  (views.entries.filter fun entry => entry.2.owner == some owner).map Prod.fst

/-- The first view whose owner is not declared, with that owner. -/
def undeclared? (views : Views) : Option (String × String) :=
  views.entries.findSome? fun (name, spec) =>
    match spec.owner with
    | some owner => if views.contains owner then none else some (name, owner)
    | none => none

/-- The state of a search through the views: those that were reached, and those that were left again,
the last one first. -/
structure Search where
  reached : List String
  order : List String

/-- Reaches a view and everything it owns before it leaves the view again.  A view that owns itself ends
the search.  The fuel counts views: every view is reached once. -/
def explore (views : Views) : (fuel : Nat) → Search → String → Except String Search
  | 0, s, _ => .ok s
  | fuel + 1, s, name =>
    if name ∈ s.reached then .ok s
    else if owner? views name = some name then .error name
    else do
      let s ← (ownedBy views name).foldlM (explore views fuel) ⟨name :: s.reached, s.order⟩
      return ⟨s.reached, name :: s.order⟩

/-- Reaches all views in the order of their declaration. -/
def exploreAll (views : Views) : Except String Search :=
  views.keys.foldlM (explore views views.size) ⟨[], []⟩

/-- The first owner in a list of views that does not stand before the view it owns. -/
def misplacedOwner? (views : Views) (placed : List String) : List String → Option String
  | [] => none
  | name :: rest =>
    match owner? views name with
    | some owner => if owner ∈ placed then misplacedOwner? views (name :: placed) rest else some owner
    | none => misplacedOwner? views (name :: placed) rest

/-- The views on the way from a view to its owners, up to the first one that was passed before.  The fuel
counts views. -/
def ownerWalk (views : Views) (passed : List String) : (fuel : Nat) → String → List String
  | 0, _ => passed.reverse
  | fuel + 1, name =>
    if name ∈ passed then passed.reverse
    else
      match owner? views name with
      | some owner => ownerWalk views (name :: passed) fuel owner
      | none => (name :: passed).reverse

/-- The error of a cycle that a view belongs to. -/
def cycleError (views : Views) (start : String) : ValidationError :=
  .ownerCycle (ownerWalk views [] (views.size + 1) start)

/-- The views in an order in which they can be made. -/
def creationOrder (views : Views) : Except ValidationError (List String) :=
  match undeclared? views with
  | some (view, owner) => .error (.unknownOwner view owner)
  | none =>
    match exploreAll views with
    | .error start => .error (cycleError views start)
    | .ok s =>
      match misplacedOwner? views [] s.order with
      | some start => .error (cycleError views start)
      | none => .ok s.order

end LiveTemplate.Ownership
