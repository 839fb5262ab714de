import LiveTemplate.Proofs.OrderedMap
import LiveTemplate.Scene.Ownership

/-!
What the order of creation depends on: the names of the views and the owners that they name, in the order of their
declaration, and nothing else that is declared.
-/

namespace LiveTemplate.Ownership

/-- The owners that views name. -/
def owners (views : Views) : OrderedMap (Option String) :=
  views.mapValues ViewSpec.owner

/-- The owner of a view is read off the map of owners. -/
theorem owner?_eq (views : Views) (name : String) : owner? views name = ((owners views).find? name).join := by
  rw [owner?, owners, OrderedMap.find?_mapValues]
  cases views.find? name <;> rfl

/-- The views that an owner has are read off the map of owners. -/
theorem ownedBy_eq (views : Views) (owner : String) :
    ownedBy views owner = ((owners views).entries.filter (·.2 == some owner)).map Prod.fst := by
  simp only [ownedBy, owners, OrderedMap.mapValues, List.filter_map, List.map_map]
  rfl

/-- The first undeclared owner is read off the map of owners. -/
theorem undeclared?_eq (views : Views) :
    undeclared? views = (owners views).entries.findSome? fun entry =>
      entry.2.bind fun owner => if (owners views).contains owner then none else some (entry.1, owner) := by
  have contained : (owners views).contains = views.contains :=
    funext (OrderedMap.contains_mapValues ViewSpec.owner views)
  simp only [undeclared?, contained]
  simp only [owners, OrderedMap.mapValues, List.findSome?_map]
  congr 1
  funext entry
  simp only [Function.comp_apply]
  cases entry.2.owner <;> rfl

section

variable {views views' : Views} (same : owners views = owners views')

include same

/-- The views have the same owners. -/
theorem owner?_congr : owner? views = owner? views' := by
  funext name
  rw [owner?_eq, same, owner?_eq]

/-- Every owner has the same views. -/
theorem ownedBy_congr : ownedBy views = ownedBy views' := by
  funext owner
  rw [ownedBy_eq, same, ownedBy_eq]

/-- The same owner is the first that is not declared. -/
theorem undeclared?_congr : undeclared? views = undeclared? views' := by
  rw [undeclared?_eq, same, undeclared?_eq]

theorem keys_congr : views.keys = views'.keys := by
  rw [← OrderedMap.keys_mapValues ViewSpec.owner views]
  exact (congrArg OrderedMap.keys same).trans (OrderedMap.keys_mapValues _ _)

theorem size_congr : views.size = views'.size := by
  rw [← OrderedMap.size_mapValues ViewSpec.owner views]
  exact (congrArg OrderedMap.size same).trans (OrderedMap.size_mapValues _ _)

theorem contains_congr : views.contains = views'.contains := by
  funext name
  rw [← OrderedMap.contains_mapValues ViewSpec.owner views]
  exact (congrArg (·.contains name) same).trans (OrderedMap.contains_mapValues _ _ name)

/-- The depth-first search goes the same way. -/
theorem explore_congr (fuel : Nat) : explore views fuel = explore views' fuel := by
  induction fuel with
  | zero => rfl
  | succ fuel inductionHypothesis =>
      funext s name
      rw [explore, explore, owner?_congr same, ownedBy_congr same, inductionHypothesis]

/-- The same view is the first that would come before its owner. -/
theorem misplacedOwner?_congr (placed names : List String) :
    misplacedOwner? views placed names = misplacedOwner? views' placed names := by
  induction names generalizing placed with
  | nil => rfl
  | cons name rest inductionHypothesis =>
      simp only [misplacedOwner?, owner?_congr same, inductionHypothesis]

/-- The walk from owner to owner goes the same way. -/
theorem ownerWalk_congr (passed : List String) (fuel : Nat) (name : String) :
    ownerWalk views passed fuel name = ownerWalk views' passed fuel name := by
  induction fuel generalizing passed name with
  | zero => rfl
  | succ fuel inductionHypothesis =>
      simp only [ownerWalk, owner?_congr same, inductionHypothesis]

/-- Views are made in the same order, or cannot be made for the same reason, where they name the same owners. -/
theorem creationOrder_congr : creationOrder views = creationOrder views' := by
  simp only [creationOrder, exploreAll, cycleError, undeclared?_congr same, keys_congr same, size_congr same,
    explore_congr same, misplacedOwner?_congr same, ownerWalk_congr same]

end

end LiveTemplate.Ownership
