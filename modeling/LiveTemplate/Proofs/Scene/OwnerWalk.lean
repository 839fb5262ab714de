import LiveTemplate.Proofs.Scene.Cycle

/-!
What is reported of views that own themselves.  The walk along the owners ends wherever it begins, as every view
that it goes on from is declared and none is passed twice.  On a cycle it passes all views that own the first one
and are owned by it, so what is reported is a whole cycle; a view that is only owned by a cycle has no part in it.
-/

namespace LiveTemplate.Ownership

open Relation (TransGen)

variable {views : Views} {passed members : List String} {name owner start : String}

instance (views : Views) (owner name : String) : Decidable (Owns views owner name) :=
  inferInstanceAs (Decidable (_ = _))

/-!
### The walk without a bound
-/

/-- A walk along the owners, from a view and with the views that were passed before it, the last one first.  It
ends at a view that was passed already, or at one without an owner. -/
inductive Walks (views : Views) : (passed : List String) → (name : String) → (members : List String) → Prop
  | around {passed : List String} {name : String} (again : name ∈ passed) : Walks views passed name passed.reverse
  | top {passed : List String} {name : String} (isNew : name ∉ passed) (unowned : owner? views name = none) :
      Walks views passed name (name :: passed).reverse
  | up {passed : List String} {name owner : String} {members : List String} (isNew : name ∉ passed)
      (owns : Owns views owner name) (onward : Walks views (name :: passed) owner members) :
      Walks views passed name members

/-- A walk passes the same views whenever it is made. -/
theorem Walks.unique {others : List String} (one : Walks views passed name members)
    (other : Walks views passed name others) : members = others := by
  induction one generalizing others with
  | around again =>
      cases other with
      | around => rfl
      | top isNew => exact absurd again isNew
      | up isNew => exact absurd again isNew
  | top isNew unowned =>
      cases other with
      | around again => exact absurd again isNew
      | top => rfl
      | up _ owns => cases unowned.symm.trans owns
  | up isNew owns _ inductionHypothesis =>
      cases other with
      | around again => exact absurd again isNew
      | top _ unowned => cases unowned.symm.trans owns
      | up _ owns' onward =>
          cases Option.some.inj (owns.symm.trans owns')
          exact inductionHypothesis onward

/-- The bound cuts no walk off: the views that a walk goes on from are declared, and there are no more of them
than views. -/
theorem ownerWalk_walks {fuel : Nat} (once : passed.Nodup) (declared : passed ⊆ views.keys)
    (enough : views.size < fuel + passed.length) : Walks views passed name (ownerWalk views passed fuel name) := by
  induction fuel generalizing passed name with
  | zero =>
      have bounded : passed.length ≤ views.keys.length := (once.subperm declared).length_le
      simp only [OrderedMap.keys, List.length_map] at bounded
      have size : views.size = views.entries.length := rfl
      omega
  | succ fuel inductionHypothesis =>
      rw [ownerWalk]
      split
      · next again => exact .around again
      · next isNew =>
        cases owned : owner? views name with
        | none => exact .top isNew owned
        | some owner =>
            have isDeclared : name ∈ views.keys := OrderedMap.mem_keys_iff.mpr (Owns.contains owned)
            have fits : views.size < fuel + (name :: passed).length := by
              rw [List.length_cons]
              omega
            have stillDeclared : name :: passed ⊆ views.keys := List.cons_subset.mpr ⟨isDeclared, declared⟩
            exact .up isNew owned (inductionHypothesis (once.cons isNew) stillDeclared fits)

/-- Every walk ends, and passes the views of the error. -/
theorem cycleError_walks (views : Views) (start : String) :
    ∃ members, Walks views [] start members ∧ cycleError views start = .ownerCycle members :=
  ⟨_, ownerWalk_walks List.nodup_nil (List.nil_subset _) (Nat.lt_succ_self _), rfl⟩

/-!
### The views of a cycle
-/

namespace IsCycle

/-- The owner of a view on a cycle is the next one, or else the first one. -/
theorem exists_owner (isCycle : IsCycle views members) (mem : name ∈ members) :
    ∃ next ∈ members, Owns views next name := by
  obtain ⟨first, isFirst⟩ := Option.isSome_iff_exists.mp (List.isSome_head?.mpr isCycle.notEmpty)
  have owners := isCycle.owners
  rw [isFirst, Option.toList_some] at owners
  obtain ⟨before, after, split⟩ := List.append_of_mem mem
  cases after with
  | nil =>
      rw [split, List.append_assoc, List.singleton_append, List.isChain_append_cons_cons] at owners
      exact ⟨first, List.mem_of_mem_head? isFirst, owners.2.1⟩
  | cons next after =>
      rw [split, List.append_assoc, List.cons_append, List.cons_append, List.isChain_append_cons_cons] at owners
      refine ⟨next, ?_, owners.2.1⟩
      rw [split]
      exact List.mem_append_right before (List.mem_cons_of_mem name List.mem_cons_self)

/-- The owner of a view on a cycle is on the cycle. -/
theorem owner_mem (isCycle : IsCycle views members) (mem : name ∈ members) (owns : Owns views owner name) :
    owner ∈ members := by
  obtain ⟨next, isMember, ownsToo⟩ := isCycle.exists_owner mem
  cases Option.some.inj (owns.symm.trans ownsToo)
  exact isMember

/-- So is every view above it. -/
theorem mem_of_transGen (isCycle : IsCycle views members) (mem : name ∈ members)
    (owns : TransGen (Owns views) owner name) : owner ∈ members := by
  induction owns using TransGen.head_induction_on with
  | single owns => exact isCycle.owner_mem mem owns
  | head owns _ inductionHypothesis => exact isCycle.owner_mem inductionHypothesis owns

/-- The first view of a cycle owns each of them, and each of them owns the first, directly or through others. -/
theorem transGen_first (isCycle : IsCycle views members) {first : String} (isFirst : members.head? = some first)
    (mem : name ∈ members) : TransGen (Owns views) first name ∧ TransGen (Owns views) name first := by
  obtain ⟨rest, rfl⟩ := List.head?_eq_some_iff.mp isFirst
  have owners := isCycle.owners.imp fun _ _ owns => TransGen.single (r := Function.swap (Owns views)) owns
  have ordered := List.isChain_iff_pairwise.mp owners
  have below : TransGen (Owns views) first name := by
    have last := (List.pairwise_append.mp ordered).2.2 name mem first (List.mem_singleton_self first)
    exact Relation.transGen_swap.mp last
  refine ⟨below, ?_⟩
  rcases List.mem_cons.mp mem with rfl | inRest
  · exact below
  · have above := (List.pairwise_cons.mp ordered).1 name (List.mem_append_left _ inRest)
    exact Relation.transGen_swap.mp above

/-- The views of a cycle are those that own one of them and are owned by it. -/
theorem mem_iff (isCycle : IsCycle views members) (mem : name ∈ members) {other : String} :
    other ∈ members ↔ TransGen (Owns views) other name ∧ TransGen (Owns views) name other := by
  constructor
  · intro isMember
    obtain ⟨first, isFirst⟩ := Option.isSome_iff_exists.mp (List.isSome_head?.mpr isCycle.notEmpty)
    obtain ⟨below, above⟩ := isCycle.transGen_first isFirst mem
    obtain ⟨belowOther, aboveOther⟩ := isCycle.transGen_first isFirst isMember
    exact ⟨aboveOther.trans below, above.trans belowOther⟩
  · rintro ⟨owns, _⟩
    exact isCycle.mem_of_transGen mem owns

end IsCycle

/-!
### The error
-/

/-- What is reported of views that own themselves: the views of a cycle, each once and before its owner, in the
order in which a walk along the owners passes them. -/
structure ReportsCycle (views : Views) (members : List String) : Prop where
  error : creationOrder views = .error (.ownerCycle members)
  isCycle : IsCycle views members
  /-- The cycle is whole, and no view that is only owned by it is among them. -/
  whole : ∀ name ∈ members, ∀ other,
    other ∈ members ↔ TransGen (Owns views) other name ∧ TransGen (Owns views) name other
  walked : ∃ start, Walks views [] start members

/-- Where all owners are declared and a view owns itself, the views of one cycle are reported.  The walk that
finds them ends, wherever it begins. -/
theorem creationOrder_reportsCycle (declared : OwnersDeclared views) (cyclic : ¬ Acyclic views) :
    (∃ members, ReportsCycle views members) ∧
      ∀ start, ∃ members, Walks views [] start members ∧ cycleError views start = .ownerCycle members ∧
        ∀ others, Walks views [] start others → others = members := by
  constructor
  · rcases creationOrder_cases declared with ⟨order, done⟩ | ⟨start, around, failed⟩
    · exact absurd (isCreationOrder_of_creationOrder done).acyclic cyclic
    · obtain ⟨members, isCycle, error⟩ := isCycle_of_cyclic around
      obtain ⟨passed, walks, same⟩ := cycleError_walks views start
      cases ValidationError.ownerCycle.inj (same.symm.trans error)
      exact ⟨members, failed.trans (congrArg Except.error error), isCycle, fun _ mem _ => isCycle.mem_iff mem,
        start, walks⟩
  · intro start
    obtain ⟨members, walks, error⟩ := cycleError_walks views start
    exact ⟨members, walks, error, fun _ other => other.unique walks⟩

/-- A view with an owner and nothing else. -/
def onlyOwned (owner : String) : ViewSpec :=
  ⟨some owner, .empty, .empty⟩

/-- Two cycles, with views below them that are declared before and between the views of the cycles. -/
def tangled : Views := .ofList [
  ("below", onlyOwned "left"),
  ("left", onlyOwned "right"),
  ("lowest", onlyOwned "below"),
  ("right", onlyOwned "left"),
  ("under", onlyOwned "last"),
  ("last", onlyOwned "middle"),
  ("middle", onlyOwned "under")]

theorem creationOrder_reportsCycle_tangled :
    OwnersDeclared tangled ∧ ¬ Acyclic tangled ∧ (∃ members, ReportsCycle tangled members) ∧
      creationOrder tangled = .error (.ownerCycle ["last", "middle", "under"]) :=
  have declared : OwnersDeclared tangled := undeclared?_eq_none_iff.mp (by decide +kernel)
  have right : Owns tangled "right" "left" := by decide +kernel
  have left : Owns tangled "left" "right" := by decide +kernel
  have cyclic : ¬ Acyclic tangled := fun acyclic => acyclic "left" (.tail (.single left) right)
  ⟨declared, cyclic, (creationOrder_reportsCycle declared cyclic).1, by decide +kernel⟩

end LiveTemplate.Ownership
