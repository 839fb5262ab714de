import LiveTemplate.Proofs.World.Sound

/-!
The way from a view along its owners, and what is found on it.  An owner is made before the views that it
owns, and no operation changes the owner that a view was made with; so the way ends, whichever owners were
dropped or destroyed.  Looking an identifier up follows the way to the first state that has it.

The lookup is stated a second time as the walk that it is: a state, the owner that comes next and the number
of links so far are carried along, one link at a time, without a bound on their number.
-/

namespace LiveTemplate.World

/-- Every owner was made before the views that it owns. -/
def OwnersFirst (w : World) : Prop :=
  ∀ v o, (w.view v).owner = some o → o < v

variable {w w' : World}

/-! ### Owners are older -/

namespace OwnersFirst

theorem empty : World.empty.OwnersFirst := nofun

/-- Views keep their owners, so only those that are new have to be looked at. -/
theorem of_grows (h : w.OwnersFirst) (grows : Grows w w')
    (older : ∀ v, w.views.size ≤ v → ∀ o, (w'.view v).owner = some o → o < v) : w'.OwnersFirst := by
  intro v o owned
  by_cases old : v < w.views.size
  · have same : (w'.view v).core.owner = (w.view v).core.owner := by rw [(grows.view v old).1]
    exact h v o (same.symm.trans owned)
  · exact older v (Nat.le_of_not_lt old) o owned

/-- Where as many views are as there were, none is new. -/
theorem of_viewCount (h : w.OwnersFirst) (grows : Grows w w') (count : w'.views.size = w.views.size) :
    w'.OwnersFirst := by
  apply h.of_grows grows
  intro v new o owned
  rw [view_of_le w' (count ▸ new)] at owned
  cases owned

theorem change (h : w.OwnersFirst) (change : Change w w') : w'.OwnersFirst := by
  rcases change.kinds with letsGo | adds | ⟨template, registry, viewLabel, sources, listener,
      bindable, letsGo⟩
  · obtain ⟨bs, releases⟩ := letsGo.releases
    exact h.of_viewCount change.grows releases.viewCount
  · exact h.of_grows change.grows adds.older
  · obtain ⟨bs, releases⟩ := letsGo.releases
    obtain ⟨_, _, frame, _⟩ :=
      addBinding_spec template registry viewLabel sources listener w bindable.made
    refine h.of_viewCount change.grows (releases.viewCount.trans ?_)
    rw [frame]

theorem deed (h : w.OwnersFirst) {step : Step} {answer : Answer} (deed : Deed w step answer w') :
    w'.OwnersFirst :=
  h.of_viewCount deed.grows (congrArg Array.size deed.same.1)

theorem store (h : w.OwnersFirst) (c : ContainerId) (key : String) (value : Value) :
    (w.store c key value).OwnersFirst :=
  h.of_viewCount (.store w c key value) rfl

end OwnersFirst

/-! ### The way along the owners -/

/-- The view that a number of owner links lead to, as far as the owners are still alive. -/
def ancestor? (w : World) (v : ViewId) : (links : Nat) → Option ViewId
  | 0 => some v
  | links + 1 => (w.ancestor? v links).bind w.owner?

/-- The first link may be taken apart from the others. -/
theorem ancestor?_succ (w : World) (v : ViewId) (links : Nat) :
    w.ancestor? v (links + 1) = (w.owner? v).bind (w.ancestor? · links) := by
  induction links with
  | zero => exact (Option.bind_fun_some (w.owner? v)).symm
  | succ links inductionHypothesis =>
      rw [ancestor?, inductionHypothesis, Option.bind_assoc]
      rfl

theorem OwnersFirst.owner?_lt (h : w.OwnersFirst) {v o : ViewId} (owned : w.owner? v = some o) : o < v :=
  h v o (Option.filter_eq_some_iff.mp owned).1

/-- Every link leads to an older view. -/
theorem OwnersFirst.ancestor?_add_le (h : w.OwnersFirst) {v u : ViewId} {links : Nat}
    (reached : w.ancestor? v links = some u) : u + links ≤ v := by
  induction links generalizing u with
  | zero =>
      cases reached
      exact Nat.le_refl _
  | succ links inductionHypothesis =>
      obtain ⟨below, reachedBelow, owned⟩ := Option.bind_eq_some_iff.mp reached
      calc
        u + (links + 1) = u + 1 + links := (Nat.succ_add_eq_add_succ u links).symm
        _ ≤ below + links := Nat.add_le_add_right (h.owner?_lt owned) links
        _ ≤ v := inductionHypothesis reachedBelow

/-- The way ends. -/
theorem OwnersFirst.ancestor?_end (h : w.OwnersFirst) (v : ViewId) : w.ancestor? v (v + 1) = none := by
  apply Option.eq_none_iff_forall_ne_some.mpr
  intro u reached
  have bounded : v + 1 ≤ v := Nat.le_trans (Nat.le_add_left (v + 1) u) (h.ancestor?_add_le reached)
  exact Nat.not_succ_le_self v bounded

/-- The bound on the length of a chain cuts nothing off. -/
theorem OwnersFirst.getElem?_chain (h : w.OwnersFirst) (v : ViewId) (links : Nat) :
    (w.chain v)[links]? = w.ancestor? v links := by
  have each : ∀ fuel u, u < fuel → ∀ links, (w.chainFrom fuel u)[links]? = w.ancestor? u links := by
    intro fuel
    induction fuel with
    | zero => exact fun u none => absurd none (Nat.not_lt_zero u)
    | succ fuel inductionHypothesis =>
        intro u enough links
        cases links with
        | zero => rfl
        | succ links =>
            rw [ancestor?_succ, chainFrom, List.getElem?_cons_succ]
            cases owned : w.owner? u with
            | none => rfl
            | some o =>
                have fits : o < fuel := Nat.lt_of_lt_of_le (h.owner?_lt owned) (Nat.le_of_lt_succ enough)
                exact inductionHypothesis o fits links
  exact each (v + 1) v (Nat.lt_succ_self v) links

/-! ### Worlds that look alike from a view -/

/-- An identifier is found alike where the links to owners are the same, and the views have the same
states with the same values. -/
theorem resolve_congr {w' : World} (owner : w'.owner? = w.owner?)
    (state : ∀ u, (w'.view u).state = (w.view u).state)
    (values : ∀ u, (w'.stateOf u).values = (w.stateOf u).values) (x : String) (v : ViewId) :
    w'.resolve x v = w.resolve x v := by
  have chainFrom : ∀ fuel u, w'.chainFrom fuel u = w.chainFrom fuel u := by
    intro fuel
    induction fuel with
    | zero => exact fun _ => rfl
    | succ fuel inductionHypothesis =>
        intro u
        simp only [World.chainFrom, owner, inductionHypothesis]
  have resolveIn : ∀ views depth, w'.resolveIn x depth views = w.resolveIn x depth views := by
    intro views
    induction views with
    | nil => exact fun _ => rfl
    | cons u rest inductionHypothesis =>
        intro depth
        simp only [World.resolveIn, state, values, inductionHypothesis]
  simp only [resolve, chain, chainFrom, resolveIn]

/-- So are all the sources of identifiers, and the errors name the view alike. -/
theorem resolveAll_congr {w' : World} {v : ViewId} (resolve : ∀ x, w'.resolve x v = w.resolve x v)
    (label : w'.label v = w.label v) (identifiers : List String) :
    w'.resolveAll v identifiers = w.resolveAll v identifiers := by
  induction identifiers with
  | nil => rfl
  | cons identifier rest inductionHypothesis =>
      simp only [resolveAll, resolve, label, inductionHypothesis]

/-! ### The nearest state -/

/-- An identifier has its value from a view: this many links lead there, and no state on the way has the
identifier. -/
structure Nearest (w : World) (x : String) (v u : ViewId) (found : Resolved) : Prop where
  reached : w.ancestor? v found.depth = some u
  own : found.container = (w.view u).state
  current : (w.stateOf u).values.find? x = some found.value
  first : ∀ links < found.depth, ∀ o, w.ancestor? v links = some o →
    (w.stateOf o).values.find? x = none

/-- An identifier is found in a list of views where the first of them is that has it. -/
theorem resolveIn_eq_some_iff {x : String} {views : List ViewId} {depth : Nat} {found : Resolved} :
    w.resolveIn x depth views = some found ↔
      ∃ links u, found.depth = depth + links ∧ views[links]? = some u ∧
        found.container = (w.view u).state ∧ (w.stateOf u).values.find? x = some found.value ∧
        ∀ earlier < links, ∀ o, views[earlier]? = some o → (w.stateOf o).values.find? x = none := by
  induction views generalizing depth with
  | nil => simp [resolveIn]
  | cons v rest inductionHypothesis =>
      rw [resolveIn]
      cases here : (w.stateOf v).values.find? x with
      | some value =>
          constructor
          · intro same
            cases same
            exact ⟨0, v, rfl, rfl, rfl, here, fun _ none => absurd none (Nat.not_lt_zero _)⟩
          · rintro ⟨links, u, depths, isView, own, current, first⟩
            cases links with
            | zero =>
                cases isView
                rw [here] at current
                obtain ⟨foundValue, foundContainer, foundDepth⟩ := found
                cases current
                cases own
                cases depths
                rfl
            | succ links => cases here.symm.trans (first 0 (Nat.succ_pos _) v rfl)
      | none =>
          simp only [inductionHypothesis]
          constructor
          · rintro ⟨links, u, depths, isView, own, current, first⟩
            refine ⟨links + 1, u, by omega, isView, own, current, fun earlier before o isEarlier => ?_⟩
            cases earlier with
            | zero => cases isEarlier; exact here
            | succ earlier => exact first earlier (by omega) o isEarlier
          · rintro ⟨links, u, depths, isView, own, current, first⟩
            cases links with
            | zero => cases isView; cases here.symm.trans current
            | succ links =>
                refine ⟨links, u, by omega, isView, own, current, fun earlier before o isEarlier => ?_⟩
                exact first (earlier + 1) (by omega) o isEarlier

/-- Looking an identifier up finds the nearest state that has it. -/
theorem OwnersFirst.resolve_eq_some_iff (h : w.OwnersFirst) {x : String} {v : ViewId} {found : Resolved} :
    w.resolve x v = some found ↔ ∃ u, w.Nearest x v u found := by
  simp only [resolve, resolveIn_eq_some_iff, h.getElem?_chain, Nat.zero_add]
  constructor
  · rintro ⟨links, u, rfl, reached, own, current, first⟩
    exact ⟨u, reached, own, current, first⟩
  · rintro ⟨u, reached, own, current, first⟩
    exact ⟨found.depth, u, rfl, reached, own, current, first⟩

/-- Nothing is found just if no state on the way has the identifier. -/
theorem OwnersFirst.resolve_eq_none_iff (h : w.OwnersFirst) {x : String} {v : ViewId} :
    w.resolve x v = none ↔
      ∀ links u, w.ancestor? v links = some u → (w.stateOf u).values.find? x = none := by
  have each : ∀ depth views, w.resolveIn x depth views = none ↔
      ∀ u ∈ views, (w.stateOf u).values.find? x = none := by
    intro depth views
    induction views generalizing depth with
    | nil => simp [resolveIn]
    | cons v rest inductionHypothesis =>
        rw [resolveIn]
        cases here : (w.stateOf v).values.find? x with
        | some value => simp [here]
        | none => simp [here, inductionHypothesis]
  rw [resolve, each]
  simp only [← h.getElem?_chain, List.mem_iff_getElem?]
  exact ⟨fun none links u isView => none u ⟨links, isView⟩,
    fun none u isView => none isView.choose u isView.choose_spec⟩

/-! ### The sources of identifiers -/

/-- Looking identifiers up succeeds with the containers in which they are found, one for each. -/
theorem resolveAll_eq_ok_iff {v : ViewId} {identifiers : List String} {sources : Sources} :
    w.resolveAll v identifiers = .ok sources ↔
      sources.map Prod.fst = identifiers ∧
        ∀ p ∈ sources, (w.resolve p.1 v).map (·.container) = some p.2 := by
  induction identifiers generalizing sources with
  | nil =>
      constructor
      · intro resolved
        cases resolved
        exact ⟨rfl, nofun⟩
      · rintro ⟨names, _⟩
        rw [List.map_eq_nil_iff.mp names]
        rfl
  | cons identifier rest inductionHypothesis =>
      rw [resolveAll]
      constructor
      · intro resolved
        cases isFound : w.resolve identifier v with
        | none => rw [isFound] at resolved; cases resolved
        | some found =>
            rw [isFound] at resolved
            cases others : w.resolveAll v rest with
            | error e => rw [others] at resolved; cases resolved
            | ok sourcesOfRest =>
                rw [others] at resolved
                cases resolved
                obtain ⟨names, each⟩ := inductionHypothesis.mp others
                refine ⟨by rw [List.map_cons, names], List.forall_mem_cons.mpr ⟨?_, each⟩⟩
                rw [isFound, Option.map_some]
      · rintro ⟨names, each⟩
        obtain ⟨source, others, rfl, rfl, others_names⟩ := List.map_eq_cons_iff.mp names
        obtain ⟨here, each⟩ := List.forall_mem_cons.mp each
        obtain ⟨found, isFound, isSource⟩ := Option.map_eq_some_iff.mp here
        rw [isFound, inductionHypothesis.mpr ⟨others_names, each⟩]
        simp only [Except.map, isSource]

/-- It fails with the first one that is not found. -/
theorem resolveAll_eq_error_iff {v : ViewId} {identifiers : List String} {cause : InterpolateError} :
    w.resolveAll v identifiers = .error cause ↔
      ∃ x, identifiers.find? (fun y => (w.resolve y v).isNone) = some x ∧
        cause = .unresolvedIdentifier x (w.label v) := by
  induction identifiers with
  | nil => simp [resolveAll]
  | cons identifier rest inductionHypothesis =>
      rw [resolveAll, List.find?_cons]
      cases isFound : w.resolve identifier v with
      | none => simp [eq_comm]
      | some found =>
          simp only [Option.isNone_some, ← inductionHypothesis]
          cases w.resolveAll v rest <;> simp [Except.map]

/-- So it succeeds if each is found. -/
theorem resolveAll_ok_iff {v : ViewId} {identifiers : List String} :
    (∃ sources, w.resolveAll v identifiers = .ok sources) ↔
      ∀ x ∈ identifiers, (w.resolve x v).isSome := by
  cases result : w.resolveAll v identifiers with
  | error cause =>
      obtain ⟨x, isFirst, _⟩ := resolveAll_eq_error_iff.mp result
      have missing := List.find?_some isFirst
      simp only [reduceCtorEq, exists_false, false_iff]
      intro each
      have found := each x (List.mem_of_find?_eq_some isFirst)
      rw [Option.isNone_iff_eq_none.mp missing] at found
      cases found
  | ok sources =>
      obtain ⟨rfl, each⟩ := resolveAll_eq_ok_iff.mp result
      refine iff_of_true ⟨sources, rfl⟩ fun x mem => ?_
      obtain ⟨p, inSources, rfl⟩ := List.mem_map.mp mem
      rw [← Option.isSome_map, each p inSources, Option.isSome_some]

/-! ### The walk -/

/-- Where a lookup stands: the state to look at, the owner to go on to, and the number of links so far. -/
structure Walk where
  container : ContainerId
  owner : Option ViewId
  depth : Nat

/-- A lookup that has come to a view. -/
def walkAt (w : World) (v : ViewId) (depth : Nat) : Walk :=
  ⟨(w.view v).state, w.owner? v, depth⟩

/-- What a lookup comes to from where it stands, if it ends. -/
inductive Walks (w : World) (x : String) : Walk → Option Resolved → Prop
  | found {walk : Walk} {value : Value}
      (has : (w.container walk.container).values.find? x = some value) :
      Walks w x walk (some ⟨value, walk.container, walk.depth⟩)
  | nowhere {walk : Walk} (lacks : (w.container walk.container).values.find? x = none)
      (last : walk.owner = none) : Walks w x walk none
  | above {walk : Walk} {owner : ViewId} {result : Option Resolved}
      (lacks : (w.container walk.container).values.find? x = none) (owned : walk.owner = some owner)
      (further : Walks w x (w.walkAt owner (walk.depth + 1)) result) : Walks w x walk result

/-- A lookup comes to no more than one result. -/
theorem Walks.unique {x : String} {walk : Walk} {result other : Option Resolved}
    (walks : w.Walks x walk result) (walksOther : w.Walks x walk other) : result = other := by
  induction walks with
  | found has =>
      cases walksOther with
      | found hasOther => rw [Option.some.inj (has.symm.trans hasOther)]
      | nowhere lacks | above lacks => cases has.symm.trans lacks
  | nowhere lacks last =>
      cases walksOther with
      | found has => cases lacks.symm.trans has
      | nowhere => rfl
      | above _ owned => cases last.symm.trans owned
  | above lacks owned _ inductionHypothesis =>
      cases walksOther with
      | found has => cases lacks.symm.trans has
      | nowhere _ last => cases last.symm.trans owned
      | above _ ownedOther further =>
          cases owned.symm.trans ownedOther
          exact inductionHypothesis further

/-- The walk from any view on ends, with what looking through the chain of its owners comes to. -/
theorem OwnersFirst.walks (h : w.OwnersFirst) (x : String) {fuel : Nat} {v : ViewId} (enough : v < fuel)
    (depth : Nat) : w.Walks x (w.walkAt v depth) (w.resolveIn x depth (w.chainFrom fuel v)) := by
  induction fuel generalizing v depth with
  | zero => exact absurd enough (Nat.not_lt_zero v)
  | succ fuel inductionHypothesis =>
      rw [chainFrom, resolveIn]
      cases here : (w.stateOf v).values.find? x with
      | some value => exact .found here
      | none =>
          cases owned : w.owner? v with
          | none => exact .nowhere here owned
          | some o =>
              have fits : o < fuel := Nat.lt_of_lt_of_le (h.owner?_lt owned) (Nat.le_of_lt_succ enough)
              exact .above here owned (inductionHypothesis fits (depth + 1))

end LiveTemplate.World
