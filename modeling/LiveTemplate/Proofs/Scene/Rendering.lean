import LiveTemplate.Proofs.Scene.Cycle
import LiveTemplate.Proofs.Scene.Instantiation

/-!
Instances realise what a scene declares.  A scene comes alive just if its views can be made in some order;
then every view is there as it was declared, and what a template on it comes to can be told from the
declarations alone.  So the order in which the views are declared makes no difference to any template.
-/

namespace LiveTemplate

/-! ### Acting on an instance -/

namespace Instance

variable {α : Type} {i : Instance} {r r' : Run} {name : String} {act : ViewId → Act (Except ViewError α)}

/-- What acting on an instance comes to. -/
theorem run_of_eq {act : Act α} {a : α} (done : act ⟨i.world, #[]⟩ = (a, r')) :
    i.run act = (a, callsOf r'.journal, { i with world := r'.world }) := by
  simp only [run, done]

theorem onView_of_found {v : ViewId} (found : r.world.handles.views.find? name = some v)
    {outcome : Except ViewError α} (done : act v r = (outcome, r')) :
    onView name act r = (outcome.mapError .view, r') := by
  simp only [onView, Act.run_bind, Act.run_world, found, done]
  rfl

theorem onView_of_unknown (unknown : r.world.handles.views.find? name = none) :
    onView name act r = (.error (.unknownView name), r) := by
  simp only [onView, Act.run_bind, Act.run_world, unknown]
  rfl

end Instance

namespace Scene

variable {s s' : Scene} {filters : FilterSet} {q : RegistryId} {h : Holdings} {destroyed : List String}
variable {bound : List BindingSpec} {w : World} {i : Instance} {b : BindingSpec}

/-! ### Views that take templates -/

/-- A view of a scene takes templates until it is destroyed. -/
theorem Plays.requireRegistry (plays : s.Plays filters q h destroyed bound w) {name : String} {v : ViewId}
    (found : w.handles.views.find? name = some v) (alive : destroyed.contains name = false) :
    w.requireRegistry v = .ok q := by
  have isAlive : (w.view v).isDestroyed = false := (plays.ended name v found).trans alive
  rw [World.requireRegistry, isAlive, if_neg Bool.false_ne_true,
    plays.cast.registry v (plays.cast.made name v found)]

/-- A template has its sources just if they are found in the world. -/
theorem Plays.resolves_iff (plays : s.Plays filters q s.declared destroyed bound w) : s.Resolves b ↔
    ∃ v sources, w.handles.views.find? b.view = some v ∧
      w.resolveAll v (Template.parse b.template).identifiers = .ok sources := by
  rw [Resolves, ← plays.cast.found, Option.isSome_iff_exists]
  constructor
  · rintro ⟨⟨v, found⟩, each⟩
    obtain ⟨sources, resolved⟩ := (plays.cast.resolveAll_ok_iff plays.held found _).mpr each
    exact ⟨v, sources, found, resolved⟩
  · rintro ⟨v, sources, found, resolved⟩
    exact ⟨⟨v, found⟩, (plays.cast.resolveAll_ok_iff plays.held found _).mp ⟨sources, resolved⟩⟩

/-! ### The nearest state -/

/-- The view with the nearest state that has an identifier, on the way from a view to its owners as they are
declared. -/
inductive Nearest (s : Scene) (x : String) : String → String → Prop
  | here {view : String} (holds : (s.declared view).contains x) : Nearest s x view view
  | above {view owner source : String} (lacks : ¬ (s.declared view).contains x)
      (owns : Ownership.Owns s.views owner view) (nearest : Nearest s x owner source) : Nearest s x view source

/-- An identifier is read from the view itself, or else from where its owner reads it. -/
theorem source?_eq {order : List String} (isOrder : Ownership.IsCreationOrder s.views order) {view : String}
    (declared : s.views.contains view) (x : String) :
    s.source? view x =
      if (s.declared view).contains x then some view
      else (Ownership.owner? s.views view).bind fun owner => s.source? owner x := by
  rw [source?, path_eq isOrder declared, List.find?_cons]
  cases (s.declared view).contains x with
  | true => rfl
  | false => cases Ownership.owner? s.views view <;> rfl

/-- The source of an identifier is the view with the nearest state that has it. -/
theorem source?_eq_some_iff {order : List String} (ordered : Ownership.creationOrder s.views = .ok order)
    {view x source : String} (declared : s.views.contains view) :
    s.source? view x = some source ↔ s.Nearest x view source := by
  have isOrder := Ownership.isCreationOrder_of_creationOrder ordered
  have ownersDeclared := Ownership.ownersDeclared_of_creationOrder ordered
  constructor
  · -- by induction on the path, whose first view is this one
    intro isSource
    generalize isPath : s.path view = names
    induction names generalizing view with
    | nil =>
        rw [path_eq isOrder declared] at isPath
        cases isPath
    | cons name rest inductionHypothesis =>
        rw [source?_eq isOrder declared] at isSource
        rw [path_eq isOrder declared] at isPath
        split at isSource
        · next holds =>
          cases isSource
          exact .here holds
        · next lacks =>
          obtain ⟨owner, owns, isAbove⟩ := Option.bind_eq_some_iff.mp isSource
          rw [owns] at isPath
          exact .above lacks owns (inductionHypothesis (ownersDeclared owner view owns) isAbove (List.cons.inj isPath).2)
  · intro nearest
    induction nearest with
    | here holds => rw [source?_eq isOrder declared, if_pos holds]
    | above lacks owns _ inductionHypothesis =>
        rw [source?_eq isOrder declared, if_neg lacks, show Ownership.owner? s.views _ = some _ from owns]
        exact inductionHypothesis (ownersDeclared _ _ owns)

/-! ### Evaluating a template once -/

/-- What a template on a view comes to, by the declarations alone: each identifier is read from the nearest
declared state along the declared owners. -/
inductive Renders (s : Scene) (filters : FilterSet) (view template : String) : Except SceneError Value → Prop
  | unknownView (undeclared : ¬ s.views.contains view) : Renders s filters view template (.error (.unknownView view))
  | unresolved (before : List String) (x : String) (after : List String) (declared : s.views.contains view)
      (split : (Template.parse template).identifiers = before ++ x :: after)
      (found : ∀ y ∈ before, (s.source? view y).isSome) (missing : s.source? view x = none) :
      Renders s filters view template (.error (.view (.interpolate (.unresolvedIdentifier x s!"'{view}'"))))
  | value (value : Value) (resolves : s.Resolves ⟨view, template⟩)
      (isValue : s.valueOf? filters s.declared ⟨view, template⟩ = some value) :
      Renders s filters view template (.ok value)

/-- A template that has its sources has a value. -/
theorem Resolves.isSome_valueOf? (resolves : s.Resolves b) (filters : FilterSet) :
    (s.valueOf? filters s.declared b).isSome := by
  apply Template.isSome_compose
  intro x mem
  obtain ⟨view, isSource⟩ := Option.isSome_iff_exists.mp (resolves.2 x mem)
  have holds := List.find?_some isSource
  rw [OrderedMap.contains_eq] at holds
  rw [isSource, Option.bind_some]
  exact holds

/-- Every template comes to something on every view. -/
theorem exists_renders (s : Scene) (filters : FilterSet) (view template : String) :
    ∃ outcome, s.Renders filters view template outcome := by
  by_cases declared : s.views.contains view
  · cases missing : (Template.parse template).identifiers.find? fun x => (s.source? view x).isNone with
    | some x =>
        obtain ⟨isMissing, before, after, split, found⟩ := List.find?_eq_some_iff_append.mp missing
        refine ⟨_, .unresolved before x after declared split ?_ (Option.isNone_iff_eq_none.mp isMissing)⟩
        exact fun y mem => by simpa using found y mem
    | none =>
        have resolves : s.Resolves ⟨view, template⟩ :=
          ⟨declared, fun x mem => by simpa [Option.isSome_iff_ne_none] using List.find?_eq_none.mp missing x mem⟩
        obtain ⟨value, isValue⟩ := Option.isSome_iff_exists.mp (resolves.isSome_valueOf? filters)
        exact ⟨_, .value value resolves isValue⟩
  · exact ⟨_, .unknownView declared⟩

/-- A template whose identifiers have their sources in the world comes to its value. -/
theorem Plays.run_render_value (plays : s.Plays filters q s.declared [] bound i.world) (resolves : s.Resolves b) :
    ∃ value, (i.run (Instance.render b.view b.template)).1 = .ok value ∧
      s.valueOf? filters s.declared b = some value := by
  obtain ⟨v, sources, found, resolved⟩ := plays.resolves_iff.mp resolves
  have required := plays.requireRegistry found rfl
  have pinning : World.Idles i.world (i.world.pinContainers (sources.map Prod.snd)) := .pinContainers _ _
  obtain ⟨value, evaluated, result, composed, _⟩ := Instance.evaluate_spec
    (r := (⟨i.world, #[]⟩ : Run).turn (i.world.pinContainers (sources.map Prod.snd)))
    ((pinning.sound plays.sound).computes (pinning.quiet plays.cast.quiet))
    (fun x mem => World.pins_of_resolveAll resolved mem) q (i.world.label v)
  have done : interpolate Instance.perform v b.template ⟨i.world, #[]⟩ =
      (.ok value, evaluated.turn (evaluated.world.unpinContainers sources.length)) := by
    simp only [interpolate, renderWith, Act.run_bind, Act.run_world, required, resolved, Act.run_change]
    rw [result]
    rfl
  refine ⟨value, by rw [Instance.render, Instance.run_of_eq (Instance.onView_of_found found done)]; rfl, ?_⟩
  rw [← plays.cast.compose_eq plays.held resolves.1 fun x mem => plays.cast.lookup_eq plays.held found resolved mem]
  exact composed

/-- A template with an identifier that is not found comes to the error of that identifier. -/
theorem Plays.run_render_error (plays : s.Plays filters q s.declared [] bound i.world) {v : ViewId}
    {e : InterpolateError} (found : i.world.handles.views.find? b.view = some v)
    (unresolved : i.world.resolveAll v (Template.parse b.template).identifiers = .error e) :
    (i.run (Instance.render b.view b.template)).1 = .error (.view (.interpolate e)) := by
  have required := plays.requireRegistry found rfl
  have done : interpolate Instance.perform v b.template ⟨i.world, #[]⟩ =
      (.error (.interpolate e), ⟨i.world, #[]⟩) := by
    simp only [interpolate, renderWith, Act.run_bind, Act.run_world, required, unresolved]
    rfl
  rw [Instance.render, Instance.run_of_eq (Instance.onView_of_found found done)]
  rfl

/-- Evaluating a template once comes to a value just if it has its sources. -/
theorem Plays.run_render (plays : s.Plays filters q s.declared [] bound i.world) :
    (∃ value, (i.run (Instance.render b.view b.template)).1 = .ok value) ↔ s.Resolves b := by
  constructor
  · rintro ⟨value, isValue⟩
    cases found : i.world.handles.views.find? b.view with
    | none =>
        rw [Instance.render, Instance.run_of_eq (Instance.onView_of_unknown found)] at isValue
        cases isValue
    | some v =>
        cases resolved : i.world.resolveAll v (Template.parse b.template).identifiers with
        | error e => cases (plays.run_render_error found resolved).symm.trans isValue
        | ok sources => exact plays.resolves_iff.mpr ⟨v, sources, found, resolved⟩
  · intro resolves
    obtain ⟨value, isValue, _⟩ := plays.run_render_value resolves
    exact ⟨value, isValue⟩

/-- Evaluating a template once comes to what the declarations say, where the views are known by their
names. -/
theorem Plays.run_render_of_renders (plays : s.Plays filters q s.declared [] bound i.world)
    (labels : ∀ name v, i.world.handles.views.find? name = some v → i.world.label v = s!"'{name}'")
    {view template : String} {outcome : Except SceneError Value} (renders : s.Renders filters view template outcome) :
    (i.run (Instance.render view template)).1 = outcome := by
  cases renders with
  | unknownView undeclared =>
      have unknown : i.world.handles.views.find? view = none := by
        simpa [undeclared] using plays.cast.found view
      rw [Instance.render, Instance.run_of_eq (Instance.onView_of_unknown unknown)]
  | unresolved before x after declared split found missing =>
      obtain ⟨v, isView⟩ := Option.isSome_iff_exists.mp ((plays.cast.found view).trans declared)
      have resolved (y : String) : (i.world.resolve y v).isSome = (s.source? view y).isSome :=
        plays.cast.isSome_resolve plays.held isView y
      have isFirst : (before ++ x :: after).find? (fun y => (i.world.resolve y v).isNone) = some x := by
        refine List.find?_eq_some_iff_append.mpr ⟨?_, before, after, rfl, fun y mem => ?_⟩
        · simp [← Option.not_isSome, resolved, missing]
        · simp [← Option.not_isSome, resolved, found y mem]
      have unresolved : i.world.resolveAll v (Template.parse template).identifiers =
          .error (.unresolvedIdentifier x s!"'{view}'") := by
        rw [split, ← labels view v isView]
        exact World.resolveAll_eq_error_iff.mpr ⟨x, isFirst, rfl⟩
      exact plays.run_render_error (b := ⟨view, template⟩) isView unresolved
  | value value resolves isValue =>
      obtain ⟨given, rendered, isGiven⟩ := plays.run_render_value resolves
      rw [isValue] at isGiven
      rw [rendered, Option.some.inj isGiven]

/-! ### The views of an instance -/

/-- A view of a world is what was declared under a name. -/
structure Stands (w : World) (name : String) (spec : ViewSpec) (v : ViewId) : Prop where
  found : w.handles.views.find? name = some v
  named : (w.view v).name = some name
  state : (w.stateOf v).values = spec.state
  props : (w.view v).props = spec.props
  alive : (w.view v).isDestroyed = false
  /-- Its owner is the view of the name that it declares as its owner, which is there. -/
  owner : w.owner? v = spec.owner.bind w.handles.views.find?
  owned : (w.owner? v).isSome = spec.owner.isSome

/-- An instance realises a scene: it lists the views as they are declared, there are no others, each is what
was declared, every identifier has its source in the nearest declared state, and every template comes to what
the declarations say. -/
structure Realised (s : Scene) (filters : FilterSet) (i : Instance) : Prop where
  viewNames : i.viewNames = s.viewNames
  viewCount : i.world.views.size = s.views.size
  views : ∀ name spec, (name, spec) ∈ s.views.entries → ∃ v, Stands i.world name spec v
  source : ∀ view x source, s.views.contains view → (s.source? view x = some source ↔ s.Nearest x view source)
  render : ∀ view template outcome,
    (i.run (Instance.render view template)).1 = outcome ↔ s.Renders filters view template outcome

/-- A view is known by its name. -/
theorem label_of_named {name : String} {v : ViewId} (named : (w.view v).name = some name) :
    w.label v = s!"'{name}'" := by
  simp only [World.label, named]

/-- Views that are what was declared under their names have these names. -/
theorem Cast.named (cast : s.Cast filters q w)
    (views : ∀ name spec, (name, spec) ∈ s.views.entries → ∃ v, Stands w name spec v) {name : String} {v : ViewId}
    (found : w.handles.views.find? name = some v) : (w.view v).name = some name := by
  have contained : s.views.contains name := (cast.found name).symm.trans (by rw [found]; rfl)
  obtain ⟨spec, isSpec⟩ := Option.isSome_iff_exists.mp (OrderedMap.contains_eq _ _ ▸ contained)
  obtain ⟨u, stands⟩ := views name spec (OrderedMap.find?_eq_some_iff.mp isSpec)
  rw [← Option.some.inj (stands.found.symm.trans found)]
  exact stands.named

/-- The views of a scene that has just come alive are what was declared. -/
theorem Placed.stands {order : List String} {t : TypeId} (all : s.Placed filters t q order w)
    (plays : s.Plays filters q s.declared [] [] i.world)
    (handles : i.world.handles.views.find? = w.handles.views.find?) (views : i.world.views = w.views)
    {name : String} {spec : ViewSpec} (declared : (name, spec) ∈ s.views.entries) :
    ∃ v, Stands i.world name spec v := by
  have isSpec : s.views.find? name = some spec := OrderedMap.find?_eq_some_iff.mpr declared
  have contained : s.views.contains name := by
    rw [OrderedMap.contains_eq, isSpec]
    rfl
  obtain ⟨v, found⟩ := Option.isSome_iff_exists.mp ((plays.cast.found name).trans contained)
  have view : i.world.view v = ⟨some name, t, v, ((s.views.find? name).getD default).props,
      (Ownership.owner? s.views name).bind w.handles.views.find?, [], false⟩ := by
    rw [World.view, views]
    exact all.view name v ((all.found name v).mp (handles ▸ found))
  have owns : Ownership.owner? s.views name = spec.owner := by
    rw [Ownership.owner?, isSpec]
    rfl
  have owner : i.world.owner? v = spec.owner.bind i.world.handles.views.find? := by
    rw [plays.cast.owner?_eq found, owns]
  refine ⟨v, found, by rw [view], ?_, by rw [view, isSpec]; rfl, by rw [view], owner, ?_⟩
  · rw [World.stateOf, plays.cast.state v (plays.cast.made name v found), plays.held name v found, Scene.declared,
      isSpec]
    rfl
  · rw [owner]
    cases named : spec.owner with
    | none => rfl
    | some other =>
        obtain ⟨u, _, isOwner⟩ := plays.cast.older name v found other (owns.trans named)
        rw [Option.bind_some, isOwner]
        rfl

/-- A scene whose views can be made comes alive, and what comes alive realises it. -/
theorem instantiate_realised (filters : FilterSet) {order : List String}
    (ordered : Ownership.creationOrder s.views = .ok order) :
    ∃ i, s.instantiate filters = .ok i ∧ s.Realised filters i := by
  obtain ⟨w, all, instantiated⟩ := instantiate_placed filters ordered
  have playsPlaced := all.plays (Ownership.isCreationOrder_of_creationOrder ordered)
  have handles := playsPlaced.find?_declaredHandles
  have plays := playsPlaced.relist (congrFun handles)
  let i : Instance := ⟨0, w.modifyHandles fun h => { h with views := s.declaredHandles w }⟩
  have views : ∀ name spec, (name, spec) ∈ s.views.entries → ∃ v, Stands i.world name spec v :=
    fun name spec mem => all.stands (i := i) plays handles rfl mem
  have labels : ∀ name v, i.world.handles.views.find? name = some v → i.world.label v = s!"'{name}'" :=
    fun _ _ found => label_of_named (plays.cast.named views found)
  refine ⟨i, instantiated, ?_, ?_, views, fun _ _ _ => source?_eq_some_iff ordered, ?_⟩
  · apply keys_declaredHandles
    intro name mem
    rw [← handles]
    exact (plays.cast.found name).trans (OrderedMap.mem_keys_iff.mp mem)
  · exact plays.cast.count
  · intro view template outcome
    obtain ⟨given, renders⟩ := s.exists_renders filters view template
    have rendered := plays.run_render_of_renders labels renders
    constructor
    · rintro rfl
      exact rendered.symm ▸ renders
    · exact plays.run_render_of_renders labels

/-! ### The order of declaration -/

theorem declared_eq_of_perm (perm : s.views.entries.Perm s'.views.entries) : s.declared = s'.declared := by
  funext name
  rw [Scene.declared, Scene.declared, OrderedMap.find?_eq_of_perm perm]

theorem pathFrom_eq_of_perm (perm : s.views.entries.Perm s'.views.entries) (fuel : Nat) (name : String) :
    s.pathFrom fuel name = s'.pathFrom fuel name := by
  induction fuel generalizing name with
  | zero => rfl
  | succ fuel inductionHypothesis =>
      rw [pathFrom, pathFrom, Ownership.owner?_eq_of_perm perm]
      cases Ownership.owner? s'.views name with
      | none => rfl
      | some owner => exact congrArg (name :: ·) (inductionHypothesis owner)

/-- Identifiers have the same sources in whatever order the views are declared. -/
theorem source?_eq_of_perm (perm : s.views.entries.Perm s'.views.entries) : s.source? = s'.source? := by
  funext view x
  have size : s.views.size = s'.views.size := perm.length_eq
  rw [source?, source?, path, path, size, pathFrom_eq_of_perm perm, declared_eq_of_perm perm]

/-- Templates come to the same in whatever order the views are declared. -/
theorem Renders.of_perm (perm : s.views.entries.Perm s'.views.entries) {view template : String}
    {outcome : Except SceneError Value} (renders : s.Renders filters view template outcome) :
    s'.Renders filters view template outcome := by
  have contains := OrderedMap.contains_eq_of_perm perm
  have sources := source?_eq_of_perm perm
  cases renders with
  | unknownView undeclared => exact .unknownView (contains ▸ undeclared)
  | unresolved before x after declared split found missing =>
      exact .unresolved before x after (contains ▸ declared) split (sources ▸ found) (sources ▸ missing)
  | value value resolves isValue =>
      refine .value value ⟨contains ▸ resolves.1, sources ▸ resolves.2⟩ ?_
      rw [← isValue, valueOf?, valueOf?, sources, declared_eq_of_perm perm]

/-- Scenes of the same views, declared in whatever order, come alive alike, and every template comes to the
same in both. -/
structure Alike (s s' : Scene) (filters : FilterSet) : Prop where
  ok_iff : (∃ i, s.instantiate filters = .ok i) ↔ ∃ i', s'.instantiate filters = .ok i'
  render : ∀ i i', s.instantiate filters = .ok i → s'.instantiate filters = .ok i' → ∀ view template,
    (i.run (Instance.render view template)).1 = (i'.run (Instance.render view template)).1

/-- What comes of bringing a scene to life: it fails just if the views cannot be made in any order, with the
error of that; otherwise the instance realises the scene, and the order of declaration does not matter. -/
structure ComesAlive (s : Scene) (filters : FilterSet) : Prop where
  ok_iff : (∃ i, s.instantiate filters = .ok i) ↔ ∃ order, Ownership.creationOrder s.views = .ok order
  error_iff : ∀ e, s.instantiate filters = .error e ↔
    ∃ cause, Ownership.creationOrder s.views = .error cause ∧ e = .validation cause
  realised : ∀ i, s.instantiate filters = .ok i → s.Realised filters i
  permuted : ∀ s' : Scene, s.views.entries.Perm s'.views.entries → s.Alike s' filters

theorem realised_of_instantiate (instantiated : s.instantiate filters = .ok i) : s.Realised filters i := by
  cases ordered : Ownership.creationOrder s.views with
  | error cause => cases instantiated.symm.trans (instantiate_error filters ordered)
  | ok order =>
      obtain ⟨given, isGiven, realised⟩ := instantiate_realised filters ordered
      cases instantiated.symm.trans isGiven
      exact realised

theorem exists_instantiate_iff :
    (∃ i, s.instantiate filters = .ok i) ↔ ∃ order, Ownership.creationOrder s.views = .ok order := by
  cases ordered : Ownership.creationOrder s.views with
  | error cause => simp [instantiate_error filters ordered]
  | ok order =>
      obtain ⟨i, instantiated, _⟩ := instantiate_realised filters ordered
      simp [instantiated]

/-- Bringing a scene to life realises its declarations. -/
theorem instantiate_comesAlive (s : Scene) (filters : FilterSet) : s.ComesAlive filters where
  ok_iff := exists_instantiate_iff
  error_iff := by
    intro e
    cases ordered : Ownership.creationOrder s.views with
    | error cause => simp [instantiate_error filters ordered, eq_comm]
    | ok order =>
        obtain ⟨i, instantiated, _⟩ := instantiate_realised filters ordered
        simp [instantiated]
  realised := fun _ => realised_of_instantiate
  permuted := by
    intro s' perm
    constructor
    · rw [exists_instantiate_iff, exists_instantiate_iff]
      exact Ownership.exists_creationOrder_of_perm perm
    · intro i i' instantiated instantiated' view template
      have rendered := ((realised_of_instantiate instantiated).render view template _).mp rfl
      exact (((realised_of_instantiate instantiated').render view template _).mpr (rendered.of_perm perm)).symm

end Scene

end LiveTemplate
