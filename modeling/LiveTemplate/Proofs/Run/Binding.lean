import LiveTemplate.Proofs.Run.Dispatch
import LiveTemplate.Proofs.World.Ancestry

/-!
Binding a template.  The identifiers are looked up before anything happens, and the containers where they
were found stay pinned until the binding is made; so the first evaluation always comes to a value, and a
bind fails only where it has done nothing yet.  When it succeeds, the binding is made in the world that the
callback left behind, from the sources that were found at the start.
-/

namespace LiveTemplate

namespace World

variable {w w' : World}

/-- What is found is a value of its container. -/
theorem find?_of_resolve {x : String} {v : ViewId} {found : Resolved} (resolved : w.resolve x v = some found) :
    (w.container found.container).values.find? x = some found.value := by
  obtain ⟨_, u, _, _, own, current, _⟩ := resolveIn_eq_some_iff.mp resolved
  rwa [own]

/-- The sources of identifiers: one for each, in order, and each has a value. -/
theorem resolveAll_spec {v : ViewId} {identifiers : List String} {sources : Sources}
    (resolved : w.resolveAll v identifiers = .ok sources) :
    sources.map Prod.fst = identifiers ∧
      ∀ p ∈ sources, ((w.container p.2).values.find? p.1).isSome := by
  obtain ⟨names, each⟩ := resolveAll_eq_ok_iff.mp resolved
  refine ⟨names, fun p mem => ?_⟩
  obtain ⟨found, isFound, isSource⟩ := Option.map_eq_some_iff.mp (each p mem)
  rw [← isSource, find?_of_resolve isFound, Option.isSome_some]

/-- Sources that were just looked up can be pinned. -/
theorem pins_of_resolveAll {v : ViewId} {identifiers : List String} {sources : Sources}
    (resolved : w.resolveAll v identifiers = .ok sources) {x : String} (mem : x ∈ identifiers) :
    (w.pinContainers (sources.map Prod.snd)).Pins sources x := by
  obtain ⟨names, present⟩ := resolveAll_spec resolved
  rw [← names] at mem
  obtain ⟨c, found, inSources⟩ := exists_lookup mem
  refine ⟨c, found, ?_, present (x, c) inSources⟩
  exact List.mem_append_left _ (List.mem_map_of_mem inSources)

/-- Containers that were pinned are unpinned again. -/
theorem Returns.unpinContainers {cs : List ContainerId} (returns : Returns (w.pinContainers cs) w') :
    Returns w (w'.unpinContainers cs.length) where
  pinnedViews := returns.pinnedViews
  pinnedContainers := by
    show w'.pinnedContainers.drop cs.length = w.pinnedContainers
    rw [returns.pinnedContainers]
    exact List.drop_left
  fresh := returns.fresh

/-- What was made, when a binding was made and some were released. -/
theorem binding_of_addBinding {before : World} {template : Template} {registry : RegistryId}
    {viewLabel : String} {sources : Sources} {l : ListenerId}
    (bindable : before.Bindable template registry sources l) {count : Nat} {bs : List BindingId}
    (releases : Releases ((before.addBinding template registry viewLabel sources l).2.unpinContainers
      count) bs w') :
    w'.bindings.size = before.bindings.size + 1 ∧
      ∀ b, (w'.binding b).released =
        if b = before.bindings.size then ⟨template, registry, viewLabel, sources, [], false, l⟩
        else (before.binding b).released := by
  obtain ⟨_, _, frame, _, bindings, _⟩ :=
    addBinding_spec template registry viewLabel sources l before bindable.made
  constructor
  · rw [releases.bindingCount]
    show (before.addBinding template registry viewLabel sources l).2.bindings.size = _
    rw [frame]
    exact Array.size_push _
  · intro b
    have same : (w'.binding b).released =
        ((before.addBinding template registry viewLabel sources l).2.binding b).released := by
      simp only [releases.binding]
      split <;> rfl
    rw [same, bindings]
    split <;> rfl

/-- The binding that is made at the end has a fresh callback, like those made on the way. -/
private theorem Returns.bound {before : World} {cs : List ContainerId}
    (returns : Returns (w.pinContainers cs) before) {template : Template} {registry : RegistryId}
    {viewLabel : String} {sources : Sources} {l : ListenerId}
    (bindable : before.Bindable template registry sources l) (fresh : w.listeners.size ≤ l)
    {bs : List BindingId}
    (releases : Releases ((before.addBinding template registry viewLabel sources l).2.unpinContainers
      cs.length) bs w')
    (pinnedViews : w'.pinnedViews = before.pinnedViews)
    (pinnedContainers : w'.pinnedContainers = before.pinnedContainers.drop cs.length) :
    Returns w w' := by
  obtain ⟨count, bindings⟩ := binding_of_addBinding bindable releases
  refine ⟨pinnedViews.trans returns.pinnedViews, ?_, ?_⟩
  · rw [pinnedContainers, returns.pinnedContainers]
    exact List.drop_left
  · intro b new made
    have same := bindings b
    split at same
    · have listener : (w'.binding b).listener = l := congrArg Binding.listener same
      simp only [listener]
      exact fresh
    · next other =>
      have listener := congrArg Binding.listener same
      rw [count] at made
      rw [show (w'.binding b).listener = (before.binding b).listener from listener]
      exact returns.fresh b new (Nat.lt_of_le_of_ne (Nat.le_of_lt_succ made) other)

/-- A binding that was made is given to its keeper, by which others may be released. -/
structure Gives (w w' : World) : Prop where
  releases : ∃ bs, Releases w bs w'
  heldViews : w'.handles.views = w.handles.views
  pinnedViews : w'.pinnedViews = w.pinnedViews
  pinnedContainers : w'.pinnedContainers = w.pinnedContainers

theorem Gives.recordBinding (w : World) (v : ViewId) (b : BindingId) : Gives w (w.recordBinding v b) where
  releases := ⟨_, recordBinding_releases w v b⟩
  heldViews := by rw [(recordBinding_frame w v b).1]
  pinnedViews := (recordBinding_frame w v b).2.1
  pinnedContainers := (recordBinding_frame w v b).2.2

theorem Gives.holdBinding (w : World) (handle : String) (b : BindingId) : Gives w (w.holdBinding handle b) where
  releases := ⟨_, holdBinding_releases w handle b⟩
  heldViews := by rw [(holdBinding_frame w handle b).1]
  pinnedViews := (holdBinding_frame w handle b).2.1
  pinnedContainers := (holdBinding_frame w handle b).2.2

end World

variable {R : Run → Run → Prop} {perform : Perform} {r : Run}

/-- A one-shot evaluation of a template, with its sources pinned in the meantime. -/
theorem renderWith_follows (steady : Run.Steady R) (follows : perform.Follows R) (q : RegistryId)
    (v : ViewId) (template : String) : (renderWith perform q v template).Follows R := by
  intro r sound
  simp only [renderWith]
  apply Act.GoesFrom.world
  split
  · exact .pure steady _
  · next sources _ =>
    have pinning := World.Calm.pinContainers r.world (sources.map Prod.snd)
    have goes := evaluate_follows steady follows ⟨q, sources, r.world.label v⟩
      (Template.parse template) (r.turn (r.world.pinContainers (sources.map Prod.snd)))
      (pinning.sound sound)
    constructor
    · exact steady.between sound pinning goes.related (.unpinContainers _ sources.length)
    · have returns := goes.returns.unpinContainers
      rw [List.length_map] at returns
      exact returns

/-- The run after the first call of the callback of a template that is being bound, given the run in which
its value was found. -/
def Run.introduced (perform : Perform) (label : String) (reactions : List (Reaction Step)) (value : Value)
    (evaluated : Run) : Run :=
  let l := evaluated.world.listeners.size
  (callListener perform l (.called l · · value)
    (evaluated.turn (evaluated.world.addListener label reactions).2)).2

/-- The first call of a new callback can be made with the value that its template was evaluated to. -/
theorem introduced_allowed (follows : perform.Follows R) (sound : r.world.Sound) {began : Run}
    (soundBegan : began.world.Sound) {scope : Scope} {t : Template} {value : Value}
    (result : evaluate perform scope t began = (.ok value, r)) (label : String)
    (reactions : List (Reaction Step)) (name : String) (call : Nat) :
    (r.turn ((r.world.addListener label reactions).2.countListenerCall
      r.world.listeners.size)).Allows (.called r.world.listeners.size name call value) := by
  constructor
  · intro _ b made same
    exact absurd same (Nat.ne_of_lt (sound.numbered.bound b made).2)
  · intro _ _ _ given isCalled
    obtain ⟨room, rfl⟩ := follows.nests
    cases isCalled
    exact .first room began r scope t label reactions soundBegan result rfl rfl

/-- The first call of a new callback goes along a relation that the entry for it goes along. -/
theorem introduced_goes (steady : Run.Steady R) (follows : perform.Follows R)
    (sound : r.world.Sound) (label : String) (reactions : List (Reaction Step)) {value : Value}
    (noted : let l := r.world.listeners.size
      let counted := r.turn ((r.world.addListener label reactions).2.countListenerCall l)
      ∀ name call, R counted (counted.note (.called l name call value))) :
    R r (r.introduced perform label reactions value) ∧
      World.Returns r.world (r.introduced perform label reactions value).world := by
  have adding := World.Calm.addListener r.world label reactions
  have goes : (callListener perform r.world.listeners.size
      (.called r.world.listeners.size · · value)).GoesFrom R
        (r.turn (r.world.addListener label reactions).2) :=
    callListener_goesFrom steady follows (adding.sound sound) _ noted
  have added : World.Returns r.world (r.world.addListener label reactions).2 := .of_eq rfl rfl rfl
  exact ⟨steady.trans (steady.change sound adding) goes.related,
    added.trans goes.returns adding.grows (goes.grows steady)⟩

/-- A relation that holds along every move that stores no value and tells no subscriber, and along the first
calls of callbacks. -/
structure Run.Introducing (R : Run → Run → Prop) : Prop extends Run.Steady R where
  introduces : ∀ {perform : Perform} {r began : Run} {scope : Scope} {t : Template} {value : Value},
    perform.Follows R → r.world.Sound → began.world.Sound →
      evaluate perform scope t began = (.ok value, r) →
        ∀ label reactions, R r (r.introduced perform label reactions value)

/-- A relation that holds along every move that stores no value, the calls of callbacks that are told of a
change apart. -/
structure Run.Compatible (R : Run → Run → Prop) : Prop extends Run.Uncalled R where
  introduces : ∀ {perform : Perform} {r began : Run} {scope : Scope} {t : Template} {value : Value},
    perform.Follows R → r.world.Sound → began.world.Sound →
      evaluate perform scope t began = (.ok value, r) →
        ∀ label reactions, R r (r.introduced perform label reactions value)

/-- A closed relation holds along the first calls of callbacks. -/
theorem Run.Closed.compatible (closed : Run.Closed R) : Run.Compatible R where
  toUncalled := closed.toUncalled
  introduces := by
    intro perform r began scope t value follows sound soundBegan result label reactions
    refine (introduced_goes closed follows sound label reactions fun name call => ?_).1
    have adding := World.Calm.addListener r.world label reactions
    have counting := World.Calm.countListenerCall (r.world.addListener label reactions).2 r.world.listeners.size
    exact closed.called (counting.sound (adding.sound sound))
      (introduced_allowed follows sound soundBegan result label reactions name call) rfl

instance : Coe (Run.Closed R) (Run.Compatible R) := ⟨Run.Closed.compatible⟩

theorem Run.Compatible.introducing (compatible : Run.Compatible R) : Run.Introducing R where
  toSteady := compatible.toSteady
  introduces := compatible.introduces

instance : Coe (Run.Introducing R) (Run.Steady R) := ⟨Run.Introducing.toSteady⟩

instance : Coe (Run.Compatible R) (Run.Introducing R) := ⟨Run.Compatible.introducing⟩

/-- The first call of a new callback, before its binding is made.  No binding has this callback, neither
then nor after the call. -/
theorem introduced_spec (follows : perform.Follows Run.Reaches) (sound : r.world.Sound) {began : Run}
    (soundBegan : began.world.Sound) {scope : Scope} {t : Template} {value : Value}
    (result : evaluate perform scope t began = (.ok value, r)) (label : String)
    (reactions : List (Reaction Step)) :
    let l := r.world.listeners.size
    let called := r.introduced perform label reactions value
    Run.Reaches r called ∧ World.Returns r.world called.world ∧ l < called.world.listeners.size ∧
      ∀ b < called.world.bindings.size, (called.world.binding b).listener ≠ l := by
  intro l called
  let added := r.turn (r.world.addListener label reactions).2
  have adding : World.Change r.world added.world := .addListener _ _
  have noted := fun name call => Run.reaches_closed.called
    ((sound.change adding).change (.countListenerCall _))
    (introduced_allowed follows sound soundBegan result label reactions name call) rfl
  have goes : (callListener perform l (.called l · · value)).GoesFrom Run.Reaches added :=
    callListener_goesFrom Run.reaches_closed follows (sound.change adding) l noted
  have grows := goes.related.grows
  have count : added.world.listeners.size = l + 1 := Array.size_push _
  obtain ⟨related, returns⟩ :=
    introduced_goes Run.reaches_closed follows sound label reactions noted
  refine ⟨related, returns, ?_, ?_⟩
  · exact Nat.lt_of_lt_of_le (Nat.lt_of_lt_of_eq (Nat.lt_succ_self l) count.symm) grows.listenerCount
  · intro b made same
    by_cases early : b < r.world.bindings.size
    · have below := (sound.numbered.bound b early).2
      have kept := grows.listener_eq (b := b) early
      exact absurd (kept.symm.trans same) (Nat.ne_of_lt below)
    · have later := goes.returns.fresh b (Nat.le_of_not_lt early) made
      have above := Nat.lt_of_lt_of_le (Nat.lt_of_lt_of_eq (Nat.lt_succ_self l) count.symm) later
      exact absurd same.symm (Nat.ne_of_lt above)

/-- A bind whose template was evaluated calls the callback with the value and makes the binding. -/
theorem bindWith_of_evaluate {q : RegistryId} {v : ViewId} {template : String} {sources : Sources}
    {value : Value} {evaluated : Run}
    (resolved : r.world.resolveAll v (Template.parse template).identifiers = .ok sources)
    (result : evaluate perform ⟨q, sources, r.world.label v⟩ (Template.parse template)
      (r.turn (r.world.pinContainers (sources.map Prod.snd))) = (.ok value, evaluated))
    (label : String) (reactions : List (Reaction Step)) :
    bindWith perform q v template label reactions r =
      let before := evaluated.introduced perform label reactions value
      (.ok (value, before.world.bindings.size),
        before.turn ((before.world.addBinding (Template.parse template) q (r.world.label v) sources
          evaluated.world.listeners.size).2.unpinContainers sources.length)) := by
  simp only [bindWith, Act.run_bind, Act.run_world, resolved, Act.run_change]
  rw [result]
  rfl

/-- A bind whose identifiers all have sources evaluates its template, and goes on from there. -/
theorem bindWith_run (chained : Run.Chained R) (follows : perform.Follows R) (sound : r.world.Sound)
    (q : RegistryId) {v : ViewId} {template : String} {sources : Sources}
    (resolved : r.world.resolveAll v (Template.parse template).identifiers = .ok sources)
    (label : String) (reactions : List (Reaction Step)) :
    ∃ value evaluated,
      evaluate perform ⟨q, sources, r.world.label v⟩ (Template.parse template)
          (r.turn (r.world.pinContainers (sources.map Prod.snd))) = (.ok value, evaluated) ∧
        bindWith perform q v template label reactions r =
          let before := evaluated.introduced perform label reactions value
          (.ok (value, before.world.bindings.size),
            before.turn ((before.world.addBinding (Template.parse template) q (r.world.label v) sources
              evaluated.world.listeners.size).2.unpinContainers sources.length)) := by
  have pinning : World.Change r.world (r.world.pinContainers (sources.map Prod.snd)) :=
    .pinContainers _
  obtain ⟨value, result⟩ := evaluate_ok chained follows ⟨q, sources, r.world.label v⟩
    (r := r.turn (r.world.pinContainers (sources.map Prod.snd))) (sound.change pinning)
    fun x mem => World.pins_of_resolveAll resolved mem
  obtain ⟨evaluated, isEvaluated⟩ : ∃ evaluated,
      evaluate perform ⟨q, sources, r.world.label v⟩ (Template.parse template)
        (r.turn (r.world.pinContainers (sources.map Prod.snd))) = (.ok value, evaluated) :=
    ⟨_, Prod.ext result rfl⟩
  exact ⟨value, evaluated, isEvaluated, bindWith_of_evaluate resolved isEvaluated label reactions⟩

/-- A bind has gone along a relation to where nothing is left to do but to make the binding. -/
structure Act.Ready (R : Run → Run → Prop) (r : Run) (v : ViewId) (template : String) (q : RegistryId)
    (sources : Sources) (l : ListenerId) (before : Run) : Prop where
  goes : R r before
  returns : World.Returns (r.world.pinContainers (sources.map Prod.snd)) before.world
  resolved : r.world.resolveAll v (Template.parse template).identifiers = .ok sources
  fresh : r.world.listeners.size ≤ l
  bindable : before.world.Bindable (Template.parse template) q sources l

/-- What a bind comes to.  It fails where it has done nothing; or it goes on to a run in which the binding
can be made, and makes it. -/
theorem bindWith_spec (introducing : Run.Introducing R) (follows : perform.Follows R) (sound : r.world.Sound)
    {q : RegistryId} (hasRegistry : q < r.world.registries.size) (v : ViewId)
    (template label : String) (reactions : List (Reaction Step)) :
    (∃ e, bindWith perform q v template label reactions r = (.error e, r)) ∨
      ∃ before sources l value, Act.Ready R r v template q sources l before ∧
        bindWith perform q v template label reactions r =
          (.ok (value, before.world.bindings.size),
            before.turn ((before.world.addBinding (Template.parse template) q (r.world.label v)
              sources l).2.unpinContainers sources.length)) := by
  cases resolved : r.world.resolveAll v (Template.parse template).identifiers with
  | error e =>
      refine Or.inl ⟨e, ?_⟩
      simp only [bindWith, Act.run_bind, Act.run_world, resolved]
      rfl
  | ok sources =>
      right
      obtain ⟨names, present⟩ := World.resolveAll_spec resolved
      obtain ⟨value, evaluated, isEvaluated, bound⟩ :=
        bindWith_run introducing.toChained follows sound q resolved label reactions
      let pinned := r.turn (r.world.pinContainers (sources.map Prod.snd))
      let scope : Scope := ⟨q, sources, r.world.label v⟩
      have pinning : World.Calm r.world pinned.world := .pinContainers _ _
      have soundPinned : pinned.world.Sound := pinning.sound sound
      obtain ⟨toEvaluated, returnsEvaluated⟩ : R pinned evaluated ∧
          World.Returns pinned.world evaluated.world := by
        have goes := evaluate_follows introducing.toChained follows scope (Template.parse template) pinned
          soundPinned
        have after : (evaluate perform scope (Template.parse template) pinned).2 = evaluated := by
          rw [isEvaluated]
        exact ⟨after ▸ goes.related, after ▸ goes.returns⟩
      have reaches := introducing.reaches toEvaluated
      have related := introducing.introduces follows (reaches.sound soundPinned) soundPinned isEvaluated
        label reactions
      obtain ⟨reachesOn, returns, hasListener, unshared⟩ := introduced_spec
        (follows.reaches introducing.toChained) (reaches.sound soundPinned) soundPinned isEvaluated label
        reactions
      have grows := reaches.grows.trans reachesOn.grows
      refine ⟨evaluated.introduced perform label reactions value, sources,
        evaluated.world.listeners.size, value, ?_, bound⟩
      exact {
        goes := introducing.trans (introducing.change sound pinning) (introducing.trans toEvaluated related)
        returns := returnsEvaluated.trans returns reaches.grows reachesOn.grows
        resolved := resolved
        fresh := reaches.grows.listenerCount
        bindable := ⟨names, fun p mem => grows.keys p.2 p.1 (present p mem),
          Nat.lt_of_lt_of_le hasRegistry grows.registryCount, hasListener, unshared⟩ }

/-- A template on a view is filtered with the registry of the view's type. -/
theorem World.registry_of_requireRegistry {w : World} {v : ViewId} {q : RegistryId}
    (required : w.requireRegistry v = .ok q) : (w.typeOf v).registry = some q := by
  simp only [World.requireRegistry] at required
  split at required
  · cases required
  · split at required
    · cases required
    · next registry found =>
      rw [← Except.ok.inj required]
      exact found

/-- The registry of a view was made. -/
theorem World.Numbered.requireRegistry_lt {w : World} (numbered : w.Numbered) {v : ViewId}
    {q : RegistryId} (required : w.requireRegistry v = .ok q) : q < w.registries.size :=
  numbered.typed _ _ (registry_of_requireRegistry required)

/-- Evaluating a template once goes along whatever the user code of filters goes along. -/
theorem interpolate_follows (steady : Run.Steady R) (follows : perform.Follows R) (v : ViewId)
    (template : String) : (interpolate perform v template).Follows R := by
  intro r sound
  simp only [interpolate]
  apply Act.GoesFrom.world
  split
  · exact .pure steady _
  · exact (renderWith_follows steady follows _ v template).bind steady (fun _ => .pure steady _) r sound

/-- A binding was made with a keeper at the end of a run that had gone along a relation until then. -/
structure Act.Made (R : Run → Run → Prop) (r : Run) (v : ViewId) (template : String) (k : Keeper)
    (r' : Run) : Prop where
  goes : ∃ before : Run, R r before ∧ before.journal = r'.journal ∧ World.Spares before.world r'.world ∧
    r'.world.bindings.size = before.world.bindings.size + 1
  returns : World.Returns r.world r'.world
  makes : ∃ b sources, r.world.Makes v (Template.parse template) sources k b r'.world

/-- A run in which a binding was made was come to by moves alone. -/
theorem Act.Made.reaches {v : ViewId} {template : String} {k : Keeper} {r' : Run}
    (made : Act.Made R r v template k r') (chained : Run.Chained R) : Run.Reaches r r' := by
  obtain ⟨before, goes, journal, spares, _⟩ := made.goes
  have same : before.turn r'.world = r' := by rw [Run.turn, journal]
  rw [← same]
  exact (chained.reaches goes).trans (Run.Reaches.of_changes spares.changes)

/-- The binding that a bind leaves behind, whoever keeps it. -/
theorem Act.Ready.made {v : ViewId} {template : String} {q : RegistryId} {sources : Sources}
    {l : ListenerId} {before : Run} (ready : Act.Ready R r v template q sources l before)
    (chained : Run.Chained R) (sound : r.world.Sound) (typed : (r.world.typeOf v).registry = some q)
    {w' : World} (change : World.Change before.world w') {viewLabel : String}
    (gives : World.Gives ((before.world.addBinding (Template.parse template) q viewLabel sources
      l).2.unpinContainers sources.length) w') {k : Keeper} (keeperMade : k.IsMade w')
    (kept : before.world.Sound → w'.KeptBy before.world.bindings.size k False) :
    Act.Made R r v template k (before.turn w') := by
  have reaches := chained.reaches ready.goes
  obtain ⟨⟨bs, releases⟩, heldViews, pinnedViews, pinnedContainers⟩ := gives
  obtain ⟨count, bindings⟩ := World.binding_of_addBinding ready.bindable releases
  have new := bindings before.world.bindings.size
  rw [if_pos rfl] at new
  obtain ⟨active, has⟩ := kept (reaches.sound sound)
  obtain ⟨_, _, frame, _⟩ := World.addBinding_spec (Template.parse template) q viewLabel sources l
    before.world ready.bindable.made
  rw [World.unpinContainers, frame] at heldViews pinnedViews pinnedContainers
  refine ⟨⟨before, ready.goes, rfl, .bind change count heldViews pinnedViews, count⟩, ?_,
    before.world.bindings.size, sources, ?_⟩
  · rw [← List.length_map Prod.snd] at releases pinnedContainers
    exact ready.returns.bound ready.bindable ready.fresh releases pinnedViews pinnedContainers
  · exact {
      isNew := reaches.grows.bindingCount
      isLast := count
      resolved := ready.resolved
      isTemplate := congrArg Binding.template new
      isSources := congrArg Binding.sources new
      typed := typed.trans (congrArg (some ∘ Binding.registry) new).symm
      keeperMade := keeperMade
      active := active.trans (and_iff_left id)
      has := has }

/-- What binding a template on a view comes to, as long as the view is held: an error and nothing else, or
one more binding. -/
theorem interpolateWith_spec (introducing : Run.Introducing R) (follows : perform.Follows R)
    (sound : r.world.Sound) {v : ViewId} (made : v < r.world.views.size)
    (pinned : v ∈ r.world.pinnedViews) (template label : String)
    (reactions : List (Reaction Step)) :
    (∃ e, interpolateWith perform v template label reactions r = (.error e, r)) ∨
      ∃ value r', interpolateWith perform v template label reactions r = (.ok value, r') ∧
        Act.Made R r v template (.view v) r' := by
  simp only [interpolateWith, Act.run_bind, Act.run_world]
  cases required : r.world.requireRegistry v with
  | error e => exact Or.inl ⟨e, rfl⟩
  | ok q =>
      rcases bindWith_spec introducing follows sound (sound.numbered.requireRegistry_lt required) v template
        label reactions with ⟨e, failed⟩ | ⟨before, sources, l, value, ready, bound⟩
      · refine Or.inl ⟨.interpolate e, ?_⟩
        simp only [Act.run_bind, failed]
        rfl
      · right
        have grows := (introducing.reaches ready.goes).grows
        have alive : before.world.isAlive v := by
          rw [World.isAlive_iff, ready.returns.pinnedViews]
          exact Or.inr pinned
        have madeThen := Nat.lt_of_lt_of_le made grows.viewCount
        have change := World.Change.bindOnView (r.world.label v) ready.bindable madeThen alive
        refine ⟨value, _, ?_, ready.made introducing.toChained sound
          (World.registry_of_requireRegistry required) change (.recordBinding _ _ _) ?_ fun soundBefore => ?_⟩
        · simp only [Act.run_bind, bound]
          rfl
        · exact Nat.lt_of_lt_of_le madeThen change.grows.viewCount
        · exact soundBefore.keptBy_bindOnView (r.world.label v) ready.bindable madeThen alive

end LiveTemplate
