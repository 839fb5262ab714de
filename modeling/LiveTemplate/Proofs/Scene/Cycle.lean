import LiveTemplate.Proofs.Scene.Order
import LiveTemplate.Proofs.OrderedMap
import Mathlib.Dynamics.PeriodicPts.Defs
import Mathlib.Logic.Relation

/-!
When there is an order in which the views of a scene can be made, and what is reported when there is
none.  A search that leaves a view again has listed everything that the view owns, unless it came to the
view from there; so where an owner is misplaced, it owns itself through others.  From a view that owns
itself the walk along the owners comes back to it, and passes the views of one cycle.
-/

namespace LiveTemplate.Ownership

open World (exists_of_bind_eq_ok)
open Relation (TransGen)

variable {views : Views} {s s' : Search} {name owner start : String}

/-- One view owns another. -/
def Owns (views : Views) (owner name : String) : Prop :=
  owner? views name = some owner

/-- Every owner that a view names is declared. -/
def OwnersDeclared (views : Views) : Prop :=
  ∀ owner name, Owns views owner name → views.contains owner

/-- No view owns itself, directly or through others. -/
def Acyclic (views : Views) : Prop :=
  ∀ name, ¬ TransGen (Owns views) name name

/-- The first view in the order of declaration that names an owner which is not declared. -/
def FirstUndeclared (views : Views) (view owner : String) : Prop :=
  ∃ before spec after, views.entries = before ++ (view, spec) :: after ∧ spec.owner = some owner ∧
    ¬ views.contains owner ∧
    ∀ entry ∈ before, ∀ owner, entry.2.owner = some owner → views.contains owner

/-- Views of which each is owned by the next one, and the last one by the first. -/
structure IsCycle (views : Views) (members : List String) : Prop where
  notEmpty : members ≠ []
  nodup : members.Nodup
  owners : (members ++ members.head?.toList).IsChain fun view owner => Owns views owner view

/-!
### Owners that are not declared
-/

theorem owns_iff : Owns views owner name ↔ ∃ spec, (name, spec) ∈ views.entries ∧ spec.owner = some owner := by
  simp only [Owns, owner?, Option.bind_eq_some_iff, OrderedMap.find?_eq_some_iff]

theorem Owns.contains (owns : Owns views owner name) : views.contains name := by
  obtain ⟨spec, mem, _⟩ := owns_iff.mp owns
  exact OrderedMap.mem_keys_iff.mp (List.mem_map_of_mem mem)

theorem undeclared?_eq_none_iff : undeclared? views = none ↔ OwnersDeclared views := by
  rw [undeclared?, List.findSome?_eq_none_iff]
  constructor
  · intro none owner name owns
    obtain ⟨spec, mem, names⟩ := owns_iff.mp owns
    have declared := none _ mem
    simp only [names] at declared
    split at declared
    · next contained => exact contained
    · cases declared
  · rintro declared ⟨name, spec⟩ mem
    cases names : spec.owner with
    | none => simp only [names]
    | some owner =>
        have contained : views.contains owner := declared owner name (owns_iff.mpr ⟨spec, mem, names⟩)
        simp only [names, if_pos contained]

theorem firstUndeclared_of_undeclared? {view : String} (found : undeclared? views = some (view, owner)) :
    FirstUndeclared views view owner := by
  obtain ⟨before, ⟨name, spec⟩, after, split, undeclared, earlier⟩ := List.findSome?_eq_some_iff.mp found
  simp only at undeclared
  split at undeclared
  · next other names =>
    split at undeclared
    · cases undeclared
    · next absent =>
      cases undeclared
      refine ⟨before, spec, after, split, names, absent, ?_⟩
      intro entry mem owner' names'
      have passed := earlier entry mem
      simp only [names'] at passed
      split at passed
      · next contained => exact contained
      · cases passed
  · cases undeclared

/-!
### Where an order is a proof that there is no cycle
-/

/-- An owner stands before everything that it owns, directly or through others. -/
theorem IsCreationOrder.idxOf_lt {order : List String} (isOrder : IsCreationOrder views order)
    (owns : TransGen (Owns views) owner name) : order.idxOf owner < order.idxOf name := by
  have direct : ∀ {owner name}, Owns views owner name → order.idxOf owner < order.idxOf name := by
    intro owner name owns
    have mem : name ∈ order := isOrder.perm.mem_iff.mpr (OrderedMap.mem_keys_iff.mpr owns.contains)
    obtain ⟨before, after, split, fresh⟩ := List.eq_append_cons_of_mem mem
    have earlier : owner ∈ before := isOrder.owners before name after split owner owns
    rw [split, List.idxOf_append_of_mem earlier, List.idxOf_append_of_notMem fresh]
    exact Nat.lt_add_right _ (List.idxOf_lt_length_of_mem earlier)
  induction owns with
  | single owns => exact direct owns
  | tail _ owns inductionHypothesis => exact Nat.lt_trans inductionHypothesis (direct owns)

theorem IsCreationOrder.acyclic {order : List String} (isOrder : IsCreationOrder views order) :
    Acyclic views :=
  fun _ cycle => Nat.lt_irrefl _ (isOrder.idxOf_lt cycle)

/-!
### What a search finds out
-/

/-- A search on its way down: what it has reached and not yet left are the views it came through, and
of what it has left, everything that a view owns was left before the view, unless the view owns itself
through it. -/
structure Search.Descends (views : Views) (through : List String) (s : Search) : Prop where
  reached : s.reached.Perm (through ++ s.order)
  owned : ∀ before x after, s.order = before ++ x :: after → ∀ c, Owns views x c →
    c ∈ after ∨ TransGen (Owns views) c x

/-- A search that fails, fails at one of its steps. -/
theorem exists_of_foldlM_eq_error {step : Search → String → Except String Search} {names : List String}
    (failed : names.foldlM step s = .error start) : ∃ s x, x ∈ names ∧ step s x = .error start := by
  induction names generalizing s with
  | nil => cases failed
  | cons x rest inductionHypothesis =>
      rw [List.foldlM_cons] at failed
      cases first : step s x with
      | error e =>
          rw [first] at failed
          cases failed
          exact ⟨s, x, List.mem_cons_self, first⟩
      | ok middle =>
          rw [first] at failed
          obtain ⟨s, y, mem, error⟩ := inductionHypothesis failed
          exact ⟨s, y, List.mem_cons_of_mem x mem, error⟩

/-- A search ends early at a view that owns itself. -/
theorem owns_of_explore {fuel : Nat} (failed : explore views fuel s name = .error start) :
    Owns views start start := by
  induction fuel generalizing s name with
  | zero => cases failed
  | succ fuel inductionHypothesis =>
      simp only [explore] at failed
      split at failed
      · cases failed
      · split at failed
        · next owns =>
          cases failed
          exact owns
        · cases inner : (ownedBy views name).foldlM (explore views fuel) ⟨name :: s.reached, s.order⟩ with
          | ok s' => simp [inner] at failed
          | error e =>
              have same : e = start := by simpa [inner] using failed
              obtain ⟨_, _, _, error⟩ := exists_of_foldlM_eq_error inner
              exact inductionHypothesis (same ▸ error)

theorem mem_ownedBy_iff : name ∈ ownedBy views owner ↔ Owns views owner name := by
  simp [ownedBy, owns_iff]

/-- A view that is left again with everything it owns. -/
theorem Search.Descends.leave {through : List String} (notSelf : ¬ Owns views name name)
    (above : ∀ x ∈ through, TransGen (Owns views) x name) (inner : s.Descends views (name :: through))
    (owned : ownedBy views name ⊆ s.reached) : Search.Descends views through ⟨s.reached, name :: s.order⟩ where
  reached := inner.reached.trans List.perm_middle.symm
  owned := by
    intro before x after split c owns
    cases before with
    | cons first before =>
        obtain ⟨_, splitInner⟩ := List.cons.inj split
        exact inner.owned before x after splitInner c owns
    | nil =>
        obtain ⟨rfl, rfl⟩ := List.cons.inj split
        have reached : c ∈ name :: through ++ s.order :=
          inner.reached.mem_iff.mp (owned (mem_ownedBy_iff.mpr owns))
        rcases List.mem_append.mp reached with isThrough | left
        · rcases List.mem_cons.mp isThrough with rfl | mem
          · exact absurd owns notSelf
          · exact Or.inr (above c mem)
        · exact Or.inl left

/-- Searches from views that are owned by all the search came through, one after the other. -/
theorem foldlM_descends {fuel : Nat} {names through : List String}
    (each : ∀ s s' : Search, s.Sound views → s.Descends views through → ∀ x ∈ names,
      views.size ≤ fuel + s.reached.length → explore views fuel s x = .ok s' → s'.Descends views through)
    (sound : s.Sound views) (descends : s.Descends views through)
    (fits : views.size ≤ fuel + s.reached.length) (declared : names ⊆ views.keys)
    (done : names.foldlM (explore views fuel) s = .ok s') : s'.Descends views through := by
  induction names generalizing s with
  | nil =>
      cases done
      exact descends
  | cons x rest inductionHypothesis =>
      obtain ⟨isDeclared, declaredRest⟩ := List.cons_subset.mp declared
      obtain ⟨middle, first, others⟩ := exists_of_bind_eq_ok done
      have reaches := explore_reaches sound fits isDeclared first
      have fitsMiddle : views.size ≤ fuel + middle.reached.length :=
        Nat.le_trans fits (Nat.add_le_add_left reaches.extend.length_le fuel)
      have descendsMiddle := each s middle sound descends x List.mem_cons_self fits first
      exact inductionHypothesis (fun s s' soundS descendsS y mem => each s s' soundS descendsS y
        (List.mem_cons_of_mem x mem)) reaches.sound descendsMiddle fitsMiddle declaredRest others

/-- A search from a view that is owned by all it came through. -/
theorem explore_descends {fuel : Nat} {through : List String} (sound : s.Sound views)
    (descends : s.Descends views through) (above : ∀ x ∈ through, TransGen (Owns views) x name)
    (fits : views.size ≤ fuel + s.reached.length) (declared : name ∈ views.keys)
    (done : explore views fuel s name = .ok s') : s'.Descends views through := by
  induction fuel generalizing s s' name through with
  | zero =>
      cases done
      exact descends
  | succ fuel inductionHypothesis =>
      simp only [explore] at done
      split at done
      · cases done
        exact descends
      · next isNew =>
        split at done
        · cases done
        · next notSelf =>
          obtain ⟨inner, isInner, rest⟩ := exists_of_bind_eq_ok done
          cases rest
          have entered : Search.Sound views ⟨name :: s.reached, s.order⟩ := sound.enter isNew declared
          have descended : Search.Descends views (name :: through) ⟨name :: s.reached, s.order⟩ :=
            ⟨descends.reached.cons name, descends.owned⟩
          have fitsInner : views.size ≤ fuel + (name :: s.reached).length := by
            simp only [List.length_cons]
            omega
          have owned : ownedBy views name ⊆ views.keys := fun _ => mem_keys_of_mem_ownedBy
          have below : ∀ x ∈ ownedBy views name, ∀ y ∈ name :: through, TransGen (Owns views) y x := by
            intro x mem y isThrough
            have owns : Owns views name x := mem_ownedBy_iff.mp mem
            rcases List.mem_cons.mp isThrough with rfl | isAbove
            · exact .single owns
            · exact (above y isAbove).tail owns
          refine Search.Descends.leave notSelf above ?_
            (foldlM_explore_reaches entered fitsInner owned isInner).reached
          exact foldlM_descends (fun t t' soundT descendsT x mem fitsT doneX =>
            inductionHypothesis soundT descendsT (below x mem) fitsT (owned mem) doneX)
            entered descended fitsInner owned isInner

/-- After a search through all views, everything that a view owns was left before the view, unless the
view owns itself through it. -/
theorem exploreAll_descends (done : exploreAll views = .ok s) : s.Descends views [] := by
  have begun : Search.Descends views [] ⟨[], []⟩ := by
    refine ⟨.refl _, ?_⟩
    intro before x after split
    exact absurd split.symm (by simp)
  refine foldlM_descends (fun t t' soundT descendsT x mem fitsT doneX => ?_) (.start views) begun
    (Nat.le_add_right _ _) (List.Subset.refl _) done
  exact explore_descends soundT descendsT (fun y mem => absurd mem List.not_mem_nil) fitsT mem doneX

/-- An owner that is misplaced stands in the list, but not before the view that it owns. -/
theorem split_of_misplacedOwner? {placed rest : List String} (found : misplacedOwner? views placed rest = some start) :
    ∃ before name after, rest = before ++ name :: after ∧ Owns views start name ∧
      start ∉ before ∧ start ∉ placed := by
  induction rest generalizing placed with
  | nil => cases found
  | cons name rest inductionHypothesis =>
      have later (found' : misplacedOwner? views (name :: placed) rest = some start) :
          ∃ before other after, name :: rest = before ++ other :: after ∧ Owns views start other ∧
            start ∉ before ∧ start ∉ placed := by
        obtain ⟨before, other, after, split, owns, notBefore, notPlaced⟩ := inductionHypothesis found'
        refine ⟨name :: before, other, after, by rw [split, List.cons_append], owns, ?_, ?_⟩
        · intro mem
          rcases List.mem_cons.mp mem with rfl | inBefore
          · exact notPlaced List.mem_cons_self
          · exact notBefore inBefore
        · exact fun mem => notPlaced (List.mem_cons_of_mem name mem)
      simp only [misplacedOwner?] at found
      split at found
      · next owner owns =>
        split at found
        · exact later found
        · next absent =>
          cases found
          exact ⟨[], name, rest, rfl, owns, List.not_mem_nil, absent⟩
      · exact later found

/-- An owner that is misplaced after a search through all views owns itself. -/
theorem cyclic_of_misplacedOwner? (declared : OwnersDeclared views) (done : exploreAll views = .ok s)
    (found : misplacedOwner? views [] s.order = some start) : TransGen (Owns views) start start := by
  obtain ⟨before, name, after, split, owns, notBefore, _⟩ := split_of_misplacedOwner? found
  have perm := exploreAll_perm done
  have nodup : s.order.Nodup := perm.nodup_iff.mpr views.nodup
  have mem : start ∈ s.order := perm.mem_iff.mpr (OrderedMap.mem_keys_iff.mpr (declared start name owns))
  rw [split] at nodup mem
  rcases List.mem_cons.mp ((List.mem_append.mp mem).resolve_left notBefore) with rfl | inAfter
  · exact .single owns
  · obtain ⟨first, last, rfl⟩ := List.append_of_mem inAfter
    have splitAtStart : s.order = (before ++ name :: first) ++ start :: last := by simp [split]
    rcases (exploreAll_descends done).owned _ start last splitAtStart name owns with inLast | through
    · have twice : name ∉ first ++ start :: last := (List.nodup_cons.mp (List.nodup_append.mp nodup).2.1).1
      exact absurd (List.mem_append_right first (List.mem_cons_of_mem start inLast)) twice
    · exact through.head owns

/-!
### The walk along a cycle
-/

/-- The owner of a view, or else the view itself. -/
def above (views : Views) (name : String) : String :=
  (owner? views name).getD name

theorem Owns.above_eq (owns : Owns views owner name) : above views name = owner := by
  rw [above, show owner? views name = some owner from owns, Option.getD_some]

theorem exists_iterate_of_transGen (under : TransGen (Owns views) owner name) :
    ∃ n, (above views)^[n + 1] name = owner := by
  induction under using TransGen.head_induction_on with
  | single owns => exact ⟨0, owns.above_eq⟩
  | head owns _ inductionHypothesis =>
      obtain ⟨n, reached⟩ := inductionHypothesis
      exact ⟨n + 1, by rw [Function.iterate_succ_apply', reached, owns.above_eq]⟩

/-- The owner of a view on a cycle, which is on the cycle as well. -/
theorem owns_above_of_cyclic (cyclic : TransGen (Owns views) name name) :
    Owns views (above views name) name ∧ TransGen (Owns views) (above views name) (above views name) := by
  obtain ⟨owner, around, owns⟩ := TransGen.tail'_iff.mp cyclic
  rw [owns.above_eq]
  exact ⟨owns, TransGen.head' owns around⟩

/-- All views above a view on a cycle. -/
theorem owns_iterate_above (cyclic : TransGen (Owns views) start start) (i : Nat) :
    Owns views ((above views)^[i + 1] start) ((above views)^[i] start) := by
  have onCycle : TransGen (Owns views) ((above views)^[i] start) ((above views)^[i] start) := by
    induction i with
    | zero => exact cyclic
    | succ i inductionHypothesis =>
        rw [Function.iterate_succ_apply']
        exact (owns_above_of_cyclic inductionHypothesis).2
  rw [Function.iterate_succ_apply']
  exact (owns_above_of_cyclic onCycle).1

/-- The first views on the way up. -/
def climb (views : Views) (start : String) (count : Nat) : List String :=
  (List.range count).map fun i => (above views)^[i] start

theorem climb_succ (count : Nat) :
    climb views start (count + 1) = climb views start count ++ [(above views)^[count] start] := by
  simp [climb, List.range_succ]

/-- The way up passes no view twice before it has come around. -/
theorem nodup_climb {count : Nat} (once : count ≤ Function.minimalPeriod (above views) start) :
    (climb views start count).Nodup := by
  refine (List.nodup_map_iff_inj_on List.nodup_range).mpr ?_
  intro i inRange j inRange' same
  have iBefore := Nat.lt_of_lt_of_le (List.mem_range.mp inRange) once
  have jBefore := Nat.lt_of_lt_of_le (List.mem_range.mp inRange') once
  exact Function.iterate_injOn_Iio_minimalPeriod iBefore jBefore same

/-- A walk from a view on a cycle ends where it has come around. -/
theorem ownerWalk_climb (cyclic : TransGen (Owns views) start start) {fuel rest : Nat} (passed : Nat)
    (around : passed + rest = Function.minimalPeriod (above views) start) (positive : 0 < passed + rest)
    (fits : rest < fuel) :
    ownerWalk views (climb views start passed).reverse fuel ((above views)^[passed] start) =
      climb views start (Function.minimalPeriod (above views) start) := by
  induction rest generalizing fuel passed with
  | zero =>
      obtain ⟨fuel, rfl⟩ := Nat.exists_eq_succ_of_ne_zero (Nat.ne_of_gt fits)
      have back : (above views)^[passed] start = start := by
        rw [← Nat.add_zero passed, around]
        exact Function.iterate_minimalPeriod
      have mem : start ∈ (climb views start passed).reverse := by
        rw [List.mem_reverse]
        exact List.mem_map.mpr ⟨0, List.mem_range.mpr positive, rfl⟩
      rw [back, ownerWalk, if_pos mem, List.reverse_reverse, ← around, Nat.add_zero]
  | succ rest inductionHypothesis =>
      obtain ⟨fuel, rfl⟩ := Nat.exists_eq_succ_of_ne_zero (Nat.ne_of_gt (Nat.zero_lt_of_lt fits))
      have nodup : (climb views start (passed + 1)).Nodup := nodup_climb (by omega)
      rw [climb_succ] at nodup
      have isNew : (above views)^[passed] start ∉ (climb views start passed).reverse := fun mem =>
        (List.nodup_append.mp nodup).2.2 _ (List.mem_reverse.mp mem) _ (List.mem_singleton.mpr rfl) rfl
      have owned : owner? views ((above views)^[passed] start) = some ((above views)^[passed + 1] start) :=
        owns_iterate_above cyclic passed
      have onward := inductionHypothesis (passed + 1) (by omega) (by omega) (Nat.lt_of_succ_lt_succ fits)
      rw [climb_succ, List.reverse_append, List.reverse_singleton, List.singleton_append] at onward
      rw [ownerWalk, if_neg isNew, owned]
      exact onward

/-- The walk from a view that owns itself passes the views of a cycle. -/
theorem isCycle_of_cyclic (cyclic : TransGen (Owns views) start start) :
    ∃ members, IsCycle views members ∧ cycleError views start = .ownerCycle members := by
  obtain ⟨n, back⟩ := exists_iterate_of_transGen cyclic
  have positive : 0 < Function.minimalPeriod (above views) start :=
    Function.IsPeriodicPt.minimalPeriod_pos (Nat.succ_pos n) back
  generalize isPeriod : Function.minimalPeriod (above views) start = period at positive
  have nodup : (climb views start period).Nodup := nodup_climb (Nat.le_of_eq isPeriod.symm)
  have declared : climb views start period ⊆ views.keys := by
    intro x mem
    obtain ⟨i, _, rfl⟩ := List.mem_map.mp mem
    exact OrderedMap.mem_keys_iff.mpr (owns_iterate_above cyclic i).contains
  have fits : period < views.size + 1 := by
    have bounded : (climb views start period).length ≤ views.keys.length := (nodup.subperm declared).length_le
    simp only [climb, List.length_map, List.length_range, OrderedMap.keys] at bounded
    exact Nat.lt_succ_of_le bounded
  refine ⟨climb views start period, ⟨?_, nodup, ?_⟩, ?_⟩
  · simp [climb, Nat.ne_of_gt positive]
  · have first : (climb views start period).head? = some start := by
      obtain ⟨less, rfl⟩ := Nat.exists_eq_succ_of_ne_zero (Nat.ne_of_gt positive)
      simp [climb, List.range_succ_eq_map]
    have around : climb views start (period + 1) = climb views start period ++ [start] := by
      rw [climb_succ, ← isPeriod, Function.iterate_minimalPeriod]
    rw [first, Option.toList_some, ← around, climb, List.isChain_map, List.isChain_range_succ]
    exact fun i _ => owns_iterate_above cyclic i
  · have walk := ownerWalk_climb cyclic 0 (by omega) (by omega) fits
    rw [isPeriod] at walk
    exact congrArg ValidationError.ownerCycle walk

/-!
### The outcome
-/

/-- A sort of views by their owners: there is an order just if every owner is declared and no view owns
itself; an owner that is not declared is reported before any cycle, and a cycle with its views. -/
structure Sorts (views : Views) (outcome : Except ValidationError (List String)) : Prop where
  ok_iff : (∃ order, outcome = .ok order) ↔ OwnersDeclared views ∧ Acyclic views
  order : ∀ order, outcome = .ok order → IsCreationOrder views order
  unknownOwner : ¬ OwnersDeclared views → ∃ view owner, FirstUndeclared views view owner ∧
    outcome = .error (.unknownOwner view owner)
  ownerCycle : OwnersDeclared views → ¬ Acyclic views → ∃ members, IsCycle views members ∧
    outcome = .error (.ownerCycle members)

/-- Where every owner is declared, there is an order or a view that owns itself. -/
theorem creationOrder_cases (declared : OwnersDeclared views) :
    (∃ order, creationOrder views = .ok order) ∨
      ∃ start, TransGen (Owns views) start start ∧ creationOrder views = .error (cycleError views start) := by
  simp only [creationOrder, undeclared?_eq_none_iff.mpr declared]
  cases searched : exploreAll views with
  | error start =>
      obtain ⟨_, _, _, failed⟩ := exists_of_foldlM_eq_error searched
      exact Or.inr ⟨start, .single (owns_of_explore failed), rfl⟩
  | ok s =>
      cases misplaced : misplacedOwner? views [] s.order with
      | none => exact Or.inl ⟨s.order, by simp only [misplaced]⟩
      | some start =>
          have cyclic := cyclic_of_misplacedOwner? declared searched misplaced
          exact Or.inr ⟨start, cyclic, by simp only [misplaced]⟩

/-- The owners of views in an order are declared. -/
theorem ownersDeclared_of_creationOrder {order : List String} (done : creationOrder views = .ok order) :
    OwnersDeclared views := by
  rw [← undeclared?_eq_none_iff]
  cases undeclared : undeclared? views with
  | none => rfl
  | some first => simp [creationOrder, undeclared] at done

/-- There is an order just if every owner is declared and no view owns itself. -/
theorem exists_creationOrder_iff :
    (∃ order, creationOrder views = .ok order) ↔ OwnersDeclared views ∧ Acyclic views := by
  constructor
  · rintro ⟨order, done⟩
    exact ⟨ownersDeclared_of_creationOrder done, (isCreationOrder_of_creationOrder done).acyclic⟩
  · rintro ⟨declared, acyclic⟩
    rcases creationOrder_cases declared with done | ⟨start, cyclic, _⟩
    · exact done
    · exact absurd cyclic (acyclic start)

theorem owner?_eq_of_perm {views' : Views} (perm : views.entries.Perm views'.entries) :
    owner? views = owner? views' := by
  funext name
  rw [owner?, owner?, OrderedMap.find?_eq_of_perm perm]

/-- Whether there is an order does not depend on the order of declaration. -/
theorem exists_creationOrder_of_perm {views' : Views} (perm : views.entries.Perm views'.entries) :
    (∃ order, creationOrder views = .ok order) ↔ ∃ order, creationOrder views' = .ok order := by
  have owns : Owns views = Owns views' := by
    funext owner name
    rw [Owns, Owns, owner?_eq_of_perm perm]
  rw [exists_creationOrder_iff, exists_creationOrder_iff, OwnersDeclared, OwnersDeclared, Acyclic, Acyclic, owns,
    OrderedMap.contains_eq_of_perm perm]

/-- The order in which views can be made sorts them by their owners. -/
theorem creationOrder_sorts (views : Views) : Sorts views (creationOrder views) where
  ok_iff := exists_creationOrder_iff
  order := fun _ => isCreationOrder_of_creationOrder
  unknownOwner := by
    intro notDeclared
    cases undeclared : undeclared? views with
    | none => exact absurd (undeclared?_eq_none_iff.mp undeclared) notDeclared
    | some first =>
        obtain ⟨view, owner⟩ := first
        exact ⟨view, owner, firstUndeclared_of_undeclared? undeclared, by simp only [creationOrder, undeclared]⟩
  ownerCycle := by
    intro declared notAcyclic
    rcases creationOrder_cases declared with ⟨order, done⟩ | ⟨start, cyclic, failed⟩
    · exact absurd (isCreationOrder_of_creationOrder done).acyclic notAcyclic
    · obtain ⟨members, isCycle, error⟩ := isCycle_of_cyclic cyclic
      exact ⟨members, isCycle, failed.trans (congrArg Except.error error)⟩

end LiveTemplate.Ownership
