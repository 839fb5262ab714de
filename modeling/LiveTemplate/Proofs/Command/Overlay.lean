import LiveTemplate.Command.Run
import LiveTemplate.Proofs.Command.Assignment
import LiveTemplate.Proofs.Command.Watch
import LiveTemplate.Proofs.Scene.Ownership
import LiveTemplate.Proofs.Scene.Standing

/-!
Assigning values before a template is evaluated.  To store them in a view that has come alive comes to the same as to
declare them with the view: the owners of the views are the same, so the views are made alike; and nothing is bound
yet, so storing a value changes what the view holds and nothing else.
-/

namespace LiveTemplate

/-! ### Edited declarations -/

/-- A state with assigned values over what it holds, one after the other. -/
def overlay (state : OrderedMap Value) (assignments : List (String × Value)) : OrderedMap Value :=
  assignments.foldl (fun state a => state.insert a.1 a.2) state

/-- Under an assigned key there is the value that was assigned last. -/
theorem find?_overlay (state : OrderedMap Value) (assignments : List (String × Value)) (key : String) :
    (overlay state assignments).find? key = (assignments.reverse.lookup key).or (state.find? key) := by
  induction assignments generalizing state with
  | nil => rfl
  | cons a rest inductionHypothesis =>
      rw [show overlay state (a :: rest) = overlay (state.insert a.1 a.2) rest from rfl, inductionHypothesis,
        OrderedMap.find?_insert, List.reverse_cons, List.lookup_append, Option.or_assoc]
      congr 1
      obtain ⟨other, value⟩ := a
      by_cases here : key = other
      · simp [here]
      · have differs : (key == other) = false := by simpa using here
        simp [here, List.lookup_cons, differs]

/-- A scene in which values are declared over the state of a view, if it has that view. -/
def Scene.overlaid (s : Scene) (view : String) (assignments : List (String × Value)) : Scene :=
  match s.views.find? view with
  | some spec => { s with views := s.views.insert view { spec with state := overlay spec.state assignments } }
  | none => s

/-- What the views hold when values were assigned to one of them. -/
def Holdings.overlay (h : Holdings) (view : String) (assignments : List (String × Value)) : Holdings :=
  fun name => if name = view then LiveTemplate.overlay (h name) assignments else h name

theorem Holdings.overlay_nil (h : Holdings) (view : String) : h.overlay view [] = h :=
  funext fun _ => ite_self _

theorem Holdings.overlay_cons (h : Holdings) (view : String) (a : String × Value) (rest : List (String × Value)) :
    h.overlay view (a :: rest) = (h.store view a.1 a.2).overlay view rest := by
  funext name
  simp only [overlay, store]
  split <;> rfl

namespace Scene

variable {s s' : Scene} {filters : FilterSet} {q : RegistryId} {h : Holdings} {destroyed : List String}
variable {bound : List BindingSpec} {w : World} {i : Instance} {view template : String}
variable (assignments : List (String × Value))

theorem owners_overlaid (s : Scene) (view : String) :
    Ownership.owners (s.overlaid view assignments).views = Ownership.owners s.views := by
  rw [overlaid]
  split
  · next spec found => exact OrderedMap.mapValues_insert found rfl
  · rfl

theorem filtersOr_overlaid (s : Scene) (view : String) :
    (s.overlaid view assignments).filtersOr = s.filtersOr := by
  rw [overlaid]
  split <;> rfl

theorem declared_overlaid (declared : s.views.contains view) :
    (s.overlaid view assignments).declared = s.declared.overlay view assignments := by
  obtain ⟨spec, found⟩ := Option.isSome_iff_exists.mp (OrderedMap.contains_eq _ _ ▸ declared)
  funext name
  rw [Holdings.overlay, overlaid, found, Scene.declared, Scene.declared, OrderedMap.find?_insert]
  split
  · next here =>
    rw [here, found]
    rfl
  · rfl

/-! ### Scenes with the same owners -/

/-- The views of a scene are those of any scene whose views name the same owners. -/
theorem Cast.of_owners (cast : s.Cast filters q w) (same : Ownership.owners s.views = Ownership.owners s'.views) :
    s'.Cast filters q w where
  count := cast.count.trans (Ownership.size_congr same)
  found name := (cast.found name).trans (congrFun (Ownership.contains_congr same) name)
  made := cast.made
  injective := cast.injective
  state := cast.state
  registry := cast.registry
  owner := Ownership.owner?_congr same ▸ cast.owner
  older := Ownership.owner?_congr same ▸ cast.older
  pass := cast.pass
  quiet := cast.quiet

/-- As long as no template is bound, what is played is any scene whose views name the same owners. -/
theorem Plays.of_owners (plays : s.Plays filters q h destroyed [] w)
    (same : Ownership.owners s.views = Ownership.owners s'.views) : s'.Plays filters q h destroyed [] w where
  cast := plays.cast.of_owners same
  sound := plays.sound
  held := plays.held
  ended := plays.ended
  count := plays.count
  carried _ _ := nofun
  kept := plays.kept
  handlers := plays.handlers
  sorted := plays.sorted

/-! ### Storing -/

/-- Storing a value leaves the views and their handles as they are. -/
theorem views_run_store (i : Instance) (view key : String) (value : Value) :
    let w := (i.run (Instance.store view key value)).2.2.world
    w.views = i.world.views ∧ w.handles = i.world.handles := by
  cases found : i.world.handles.views.find? view with
  | none =>
      rw [Instance.store, Instance.run_of_eq (Instance.onView_of_unknown found)]
      exact ⟨rfl, rfl⟩
  | some v =>
      have stands := Instance.setValue_stands (i.world.view v).state key value ⟨i.world, #[]⟩
      obtain ⟨_, _, views, _, _, handles, _⟩ := stands.world.same
      rw [Instance.store, Instance.run_of_eq (Instance.onView_of_found found rfl)]
      exact ⟨views, handles⟩

/-- Values are stored one after the other in a view that is there. -/
theorem Plays.storeAll_spec (plays : s.Plays filters q h destroyed bound i.world)
    (declared : s.views.contains view) : ∃ w, storeAll view i assignments = .ok { i with world := w } ∧
      s.Plays filters q (h.overlay view assignments) destroyed bound w ∧
      w.views = i.world.views ∧ w.handles = i.world.handles := by
  induction assignments generalizing h i with
  | nil => exact ⟨i.world, rfl, by rwa [Holdings.overlay_nil], rfl, rfl⟩
  | cons a rest inductionHypothesis =>
      obtain ⟨key, value⟩ := a
      obtain ⟨w, calls, stored, plays, -⟩ := plays.run_set declared key value
      rw [Instance.apply] at stored
      have frame := views_run_store i view key value
      rw [stored] at frame
      obtain ⟨w', done, plays', views, handles⟩ := inductionHypothesis (i := { i with world := w }) plays
      refine ⟨w', ?_, by rwa [Holdings.overlay_cons], views.trans frame.1, handles.trans frame.2⟩
      rw [storeAll, stored]
      exact done

/-! ### Rendering -/

/-- Nothing is rendered on a scene whose views cannot be made. -/
theorem renderScene_unordered {e : ValidationError} (unordered : Ownership.creationOrder s.views = .error e) :
    renderScene s filters view template assignments = .error (.instantiating (.validation e)) := by
  rw [renderScene, instantiate_error filters unordered]
  rfl

/-- On a scene that comes alive, the view is looked up, the values are stored, and the template is evaluated. -/
theorem renderScene_of_instantiate (instantiated : s.instantiate filters = .ok i) :
    renderScene s filters view template assignments =
      if i.viewNames.contains view then
        ((storeAll view i assignments).mapError CommandError.acting).bind fun i =>
          ((i.run (Instance.render view template)).1).mapError .rendering
      else .error (.acting (.unknownView view)) := by
  rw [renderScene, instantiated]
  show (if !i.viewNames.contains view then _ else _) = _
  cases i.viewNames.contains view <;> rfl

/-- Nothing is rendered on a view that is not there. -/
theorem renderScene_undeclared {order : List String} (ordered : Ownership.creationOrder s.views = .ok order)
    (undeclared : s.views.contains view = false) :
    renderScene s filters view template assignments = .error (.acting (.unknownView view)) := by
  obtain ⟨i, instantiated, realised⟩ := instantiate_realised filters ordered
  have unlisted : i.viewNames.contains view = false := by
    rw [realised.viewNames]
    simpa [viewNames, OrderedMap.mem_keys_iff] using undeclared
  rw [renderScene_of_instantiate assignments instantiated, unlisted, if_neg Bool.false_ne_true]

/-- A template on a view to which values were assigned comes to what the edited declarations say. -/
theorem renderScene_renders {order : List String} (ordered : Ownership.creationOrder s.views = .ok order)
    (declared : s.views.contains view) (owners : Ownership.owners s.views = Ownership.owners s'.views)
    (states : s.declared.overlay view assignments = s'.declared) {outcome : Except SceneError Value}
    (renders : s'.Renders filters view template outcome) :
    renderScene s filters view template assignments = outcome.mapError .rendering := by
  obtain ⟨i, instantiated, plays⟩ := instantiate_ok filters ordered
  have realised := realised_of_instantiate instantiated
  have listed : i.viewNames.contains view := by
    rw [realised.viewNames]
    simpa [viewNames, OrderedMap.mem_keys_iff] using declared
  obtain ⟨w, stored, plays', views, handles⟩ := plays.storeAll_spec assignments declared
  have edited := plays'.of_owners owners
  rw [states] at edited
  have labels : ∀ name v, w.handles.views.find? name = some v → w.label v = s!"'{name}'" := by
    intro name v found
    rw [handles] at found
    apply label_of_named
    rw [World.view, views]
    exact plays.cast.named realised.views found
  have rendered := edited.run_render_of_renders (i := { i with world := w }) labels renders
  rw [renderScene_of_instantiate assignments instantiated, if_pos listed, stored]
  exact congrArg (Except.mapError CommandError.rendering) rendered

/-- A template comes to the same on a view to which values were assigned as on one that declares them. -/
theorem renderScene_overlaid (s : Scene) (filters : FilterSet) (view template : String) :
    renderScene s filters view template assignments =
      renderScene (s.overlaid view assignments) filters view template [] := by
  have owners := s.owners_overlaid assignments view
  have sameOrder := Ownership.creationOrder_congr owners
  cases ordered : Ownership.creationOrder s.views with
  | error e =>
      rw [renderScene_unordered assignments ordered, renderScene_unordered [] (sameOrder.trans ordered)]
  | ok order =>
      cases declared : s.views.contains view with
      | false =>
          have undeclared := (congrFun (Ownership.contains_congr owners) view).trans declared
          rw [renderScene_undeclared assignments ordered declared,
            renderScene_undeclared [] (sameOrder.trans ordered) undeclared]
      | true =>
          have stillDeclared := (congrFun (Ownership.contains_congr owners) view).trans declared
          obtain ⟨outcome, renders⟩ := (s.overlaid view assignments).exists_renders filters view template
          have assigned := renderScene_renders assignments ordered declared owners.symm
            (declared_overlaid assignments declared).symm renders
          have edited := renderScene_renders [] (sameOrder.trans ordered) stillDeclared rfl
            (Holdings.overlay_nil _ view) renders
          exact assigned.trans edited.symm

end Scene

/-! ### The command -/

/-- What is printed of the scene that was loaded, or of the reason why none was, when values are assigned to a
view. -/
def renderLoaded (settings : Settings) (view template : String) (assignments : List (String × Value)) :
    Except SceneError Scene → Transcript
  | .error e => .failed (.loading e)
  | .ok s =>
    match renderScene s (s.filtersOr settings.filters) view template assignments with
    | .error e => .failed e
    | .ok value => ⟨[formatValue settings.prettyJson value], none⟩

theorem renderLoaded_overlaid (settings : Settings) (view template : String)
    (assignments : List (String × Value)) (loaded : Except SceneError Scene) :
    renderLoaded settings view template assignments loaded =
      renderLoaded settings view template [] (loaded.map (·.overlaid view assignments)) := by
  cases loaded with
  | error e => rfl
  | ok s =>
      simp only [renderLoaded, Except.map, Scene.filtersOr_overlaid, ← Scene.renderScene_overlaid]

/-- Rendering loads the scene and prints what comes of it. -/
theorem runRender_eq {m : Type → Type} [Monad m] [LawfulMonad m] {sets : List String}
    {assignments : List (String × Value)} (read : readAssignments sets = .ok assignments) (files : Files m)
    (settings : Settings) (path view template : String) :
    runRender files settings path view template sets =
      renderLoaded settings view template assignments <$> loadScene files path := by
  rw [runRender, read, map_eq_pure_bind]
  apply bind_congr
  intro loaded
  cases loaded with
  | error e => rfl
  | ok s =>
      simp only [renderLoaded]
      cases renderScene s (s.filtersOr settings.filters) view template assignments <;> rfl

/-- Rendering with assignments comes to what rendering comes to on the edited scene.  Each text assigns what stands
behind its first equals sign to the key in front of it; the edited scene declares these values over the state of the
view, where the last one assigned to a key counts; and what is printed for the scene, or for whatever else was
loaded, is what is printed without assignments for the scene after it was edited. -/
theorem render_assigned_eq_edited {sets : List String} (assigned : ∀ set ∈ sets, '=' ∈ set.toList) :
    ∃ given : List (String × String), List.Forall₂ Assigns sets given ∧
      let values := given.map fun a => (a.1, valueOfText a.2)
      (∀ state key, (overlay state values).find? key = (values.reverse.lookup key).or (state.find? key)) ∧
      (∀ s filters view template, renderScene s filters view template values =
        renderScene (Scene.overlaid s view values) filters view template []) ∧
      ∀ {m : Type → Type} [Monad m] [LawfulMonad m] (files : Files m) (settings : Settings)
        (path view template : String),
        runRender files settings path view template [] =
          renderLoaded settings view template [] <$> loadScene files path ∧
        runRender files settings path view template sets =
          (fun loaded => renderLoaded settings view template [] (loaded.map (·.overlaid view values))) <$>
            loadScene files path := by
  obtain ⟨given, assigns⟩ := exists_forall₂_assigns assigned
  have read := readAssignments_eq assigns
  refine ⟨given, assigns, fun state => find?_overlay state _, Scene.renderScene_overlaid _,
    fun files settings path view template => ?_⟩
  refine ⟨runRender_eq rfl files settings path view template, ?_⟩
  rw [runRender_eq read files settings path view template]
  exact congrArg (· <$> _) (funext (renderLoaded_overlaid settings view template _))

theorem render_assigned_eq_edited_twice :
    (∀ set ∈ ["title=1", "title=a=b"], '=' ∈ set.toList) ∧
    ∃ given : List (String × String), List.Forall₂ Assigns ["title=1", "title=a=b"] given ∧
      ∀ s filters view template,
        let values := given.map fun a => (a.1, valueOfText a.2)
        renderScene s filters view template values =
          renderScene (Scene.overlaid s view values) filters view template [] :=
  have assigned : ∀ set ∈ ["title=1", "title=a=b"], '=' ∈ set.toList := by decide
  have ⟨given, assigns, _, rendered, _⟩ := render_assigned_eq_edited assigned
  ⟨assigned, given, assigns, rendered⟩

end LiveTemplate
