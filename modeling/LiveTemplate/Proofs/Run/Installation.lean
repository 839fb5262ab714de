import LiveTemplate.Proofs.Run.Callbacks
import LiveTemplate.Proofs.Run.Owners

/-!
What a callback has been told when its binding is made.  A bind looks its sources up, evaluates the template
and calls the callback, all before the binding is subscribed to anything.  So the callback is called exactly
once, with the composition as it stood when the bind began; and a source that is set meanwhile, by the
callback itself for one, is a change that the binding never hears of.
-/

namespace LiveTemplate

namespace Run

variable {l : ListenerId} {r r' : Run} {room : Nat}

/-- What a bind of a template on a view has done when it comes to a value. -/
structure Installs (r : Run) (v : ViewId) (q : RegistryId) (template : String) (value : Value)
    (b : BindingId) (r' : Run) : Prop where
  isNew : r.world.bindings.size ≤ b ∧ b < r'.world.bindings.size
  isTemplate : (r'.world.binding b).template = Template.parse template
  isRegistry : (r'.world.binding b).registry = q
  /-- The sources are those that were found when the bind began. -/
  sources : r.world.resolveAll v (Template.parse template).identifiers =
    .ok (r'.world.binding b).sources
  /-- The value is the composition of the template as it stood then. -/
  composed : (Template.parse template).compose (r.world.valueIn (r'.world.binding b).sources)
    (r.world.pass q) = some value
  /-- The callback was called with it, and was not called again. -/
  once : (r'.since r).filterMap (·.given? (r'.world.binding b).listener) = [value]
  lastGiven : r'.lastGiven? (r'.world.binding b).listener = some value
  /-- As long as no source was set meanwhile and no filter registered, this is still the composition. -/
  upToDate : (∀ m ∈ r'.since r, m.storesTo (r'.world.binding b).sources = false ∧
    m.registersFilter = false) → r'.world.composed b = some value

/-- What a callback was called with last, given all that it was called with since some run. -/
theorem lastGiven?_of_since (reaches : Reaches r r') (earlier : List Value) {value : Value}
    (given : (r'.since r).filterMap (·.given? l) = earlier ++ [value]) :
    r'.lastGiven? l = some value := by
  simp only [lastGiven?, ← List.head?_filterMap, List.filterMap_reverse, List.head?_reverse,
    reaches.journal_eq, List.filterMap_append, given]
  simp

end Run

/-- Making a binding, and releasing some, leaves what templates are composed to. -/
private theorem World.same_of_addBinding {before w' : World} {template : Template} {q : RegistryId}
    {viewLabel : String} {sources : Sources} {l : ListenerId}
    (bindable : before.Bindable template q sources l) {count : Nat} {bs : List BindingId}
    (releases : Releases ((before.addBinding template q viewLabel sources l).2.unpinContainers
      count) bs w') :
    w'.filters = before.filters ∧ w'.valueIn = before.valueIn ∧ w'.pass = before.pass := by
  obtain ⟨_, _, frame, _, _, lists⟩ :=
    addBinding_spec template q viewLabel sources l before bindable.made
  have registries : w'.registries = before.registries := by
    rw [releases.registries, unpinContainers, frame]
  have filters : w'.filters = before.filters := by
    rw [releases.filters, unpinContainers, frame]
  have values : ∀ c, (w'.container c).values = (before.container c).values := by
    intro c
    rw [releases.container, Container.values_keep]
    exact (lists c).1
  refine ⟨filters, ?_, ?_⟩
  · funext sources x
    simp only [valueIn, values]
  · funext r
    exact pass_congr (by rw [registry, registries]; rfl) fun _ f _ => by rw [filter, filters]; rfl

namespace Run

variable {room : Nat}

/-- The first call of a callback is its only one until its binding is made. -/
theorem introduced_once {began : Run} (soundBegan : began.world.Sound) {scope : Scope} {t : Template}
    {value : Value} {evaluated : Run}
    (result : evaluate (performAll (performAt room)) scope t began = (.ok value, evaluated))
    (label : String) (reactions : List (Reaction Step)) :
    ((evaluated.introduced (performAll (performAt room)) label reactions value).since began).filterMap
      (·.given? evaluated.world.listeners.size) = [value] := by
  let l := evaluated.world.listeners.size
  let perform := performAll (performAt room)
  have follows := performAll_follows reaches_closed reaches_dispatches room
  have toEvaluated : Reaches began evaluated := .of_evaluate soundBegan result
  have sound := toEvaluated.sound soundBegan
  let added := (evaluated.world.addListener label reactions).2
  let noted := (evaluated.turn (added.countListenerCall l)).note
    (.called l (added.listener l).label ((added.listener l).calls + 1) value)
  have adding : World.Change evaluated.world added := .addListener label reactions
  have counting : World.Change added (added.countListenerCall l) := .countListenerCall l
  have allowed := introduced_allowed follows sound soundBegan result label reactions
    (added.listener l).label ((added.listener l).calls + 1)
  have toNoted : Reaches evaluated noted :=
    .head (.move (.change adding)) (.head (.move (.change counting)) (.single (.move (.entry allowed))))
  have soundNoted := toNoted.sound sound
  -- what the callback performs on its first call
  have reacted : CallsOwned l noted (evaluated.introduced perform label reactions value) :=
    (react_follows (CallsOwned.uncalled l) (performAll_owned l room) (added.listener l).reactions
      ((added.listener l).calls + 1) noted soundNoted).related
  obtain ⟨_, _, _, unshared⟩ :=
    introduced_spec follows sound soundBegan result label reactions
  have before : (evaluated.since began).filterMap (·.given? l) = [] := by
    refine List.filterMap_eq_nil_iff.mpr fun m mem => Option.eq_none_iff_forall_not_mem.mpr ?_
    intro given isGiven
    have made := toEvaluated.called_made mem (Option.isSome_of_mem isGiven)
    exact absurd (toEvaluated.grows_moment mem).listenerCount (Nat.not_le.mpr made)
  have calling : (noted.since evaluated).filterMap (·.given? l) = [value] := by
    rw [since_of_push rfl]
    simp [Moment.given?]
  have after : ((evaluated.introduced perform label reactions value).since noted).filterMap
      (·.given? l) = [] := by
    refine List.filterMap_eq_nil_iff.mpr fun m mem => Option.eq_none_iff_forall_not_mem.mpr ?_
    intro given isGiven
    have made : l < noted.world.listeners.size := (allowed.evaluated l _ _ value rfl).made
    obtain ⟨b, hasBinding, own⟩ := reacted.owned made m mem (Option.isSome_of_mem isGiven)
    have grows := reacted.reaches.grows_moment mem
    refine unshared b (Nat.lt_of_lt_of_le hasBinding grows.bindingCount) ?_
    exact (grows.listener_eq hasBinding).trans own
  rw [toEvaluated.since_trans (toNoted.trans reacted.reaches), toNoted.since_trans reacted.reaches,
    List.filterMap_append, List.filterMap_append, before, calling, after]
  rfl

/-- A bind that comes to a value has called the callback once with it, and then makes the binding. -/
private theorem bindWith_once (sound : r.world.Sound) {q : RegistryId}
    (hasRegistry : q < r.world.registries.size) {v : ViewId} {template label : String}
    {reactions : List (Reaction Step)} {value : Value} {b : BindingId} {after : Run}
    (bound : bindWith (performAll (performAt room)) q v template label reactions r =
      (.ok (value, b), after)) :
    ∃ (sources : Sources) (l : ListenerId) (before : Run),
      r.world.resolveAll v (Template.parse template).identifiers = .ok sources ∧
      Reaches r before ∧
      before.world.Bindable (Template.parse template) q sources l ∧
      (before.since r).filterMap (·.given? l) = [value] ∧
      (before.world.FiltersQuiet → (Template.parse template).compose (r.world.valueIn sources)
        (r.world.pass q) = some value) ∧
      b = before.world.bindings.size ∧
      after = before.turn ((before.world.addBinding (Template.parse template) q (r.world.label v)
        sources l).2.unpinContainers sources.length) := by
  have follows := performAll_follows reaches_closed reaches_dispatches room
  cases resolved : r.world.resolveAll v (Template.parse template).identifiers with
  | error e =>
      simp only [bindWith, Act.run_bind, Act.run_world, resolved] at bound
      cases bound
  | ok sources =>
      obtain ⟨value', evaluated, result, run⟩ :=
        bindWith_run reaches_closed follows sound q resolved label reactions
      rw [run] at bound
      cases bound
      have pinning : World.Change r.world (r.world.pinContainers (sources.map Prod.snd)) :=
        .pinContainers _
      have soundPinned := sound.change pinning
      have toEvaluated := Reaches.of_evaluate soundPinned result
      obtain ⟨toBefore, _, made, unshared⟩ := introduced_spec follows
        (toEvaluated.sound soundPinned) soundPinned result label reactions
      have reaches : Reaches _ _ := toEvaluated.trans toBefore
      have grows := reaches.grows
      obtain ⟨names, present⟩ := World.resolveAll_spec resolved
      refine ⟨sources, _, _, rfl, .head (.move (.change pinning)) reaches, ?_,
        introduced_once soundPinned result label reactions, ?_, rfl, rfl⟩
      · exact ⟨names, fun p mem => grows.keys p.2 p.1 (present p mem),
          Nat.lt_of_lt_of_le hasRegistry grows.registryCount, made, unshared⟩
      · intro quiet
        obtain ⟨_, _, evaluates, composed, _⟩ := evaluate_pinned
          (r := r.turn (r.world.pinContainers (sources.map Prod.snd))) follows.nothing
          ((soundPinned.computes (quiet.of_grows reaches.grows)).quietOn q _)
          (fun x mem => World.pins_of_resolveAll resolved mem) (r.world.label v)
        cases result.symm.trans evaluates
        exact composed

/-- What a bind that comes to a value has done, whoever keeps the binding; it may have been released
since. -/
private theorem installs_of_releases (sound : r.world.Sound) {q : RegistryId}
    (hasRegistry : q < r.world.registries.size) {v : ViewId} {template label : String}
    {reactions : List (Reaction Step)} {value : Value} {b : BindingId} {after : Run}
    (bound : bindWith (performAll (performAt room)) q v template label reactions r =
      (.ok (value, b), after)) {w' : World} {bs : List BindingId}
    (releases : World.Releases after.world bs w') (quiet : w'.FiltersQuiet) :
    Installs r v q template value b (after.turn w') := by
  obtain ⟨sources, l, before, resolved, reaches, bindable, once, composed, rfl, rfl⟩ :=
    bindWith_once sound hasRegistry bound
  obtain ⟨sameFilters, sameValues, samePass⟩ := World.same_of_addBinding bindable releases
  have quietBefore : before.world.FiltersQuiet := by
    simpa only [World.FiltersQuiet, World.filter, sameFilters] using quiet
  obtain ⟨count, bindings⟩ := World.binding_of_addBinding bindable releases
  have new := bindings before.world.bindings.size
  rw [if_pos rfl] at new
  have isTemplate : (w'.binding before.world.bindings.size).template = Template.parse template :=
    congrArg Binding.template new
  have isRegistry : (w'.binding before.world.bindings.size).registry = q :=
    congrArg Binding.registry new
  have isSources : (w'.binding before.world.bindings.size).sources = sources :=
    congrArg Binding.sources new
  have isListener : (w'.binding before.world.bindings.size).listener = l :=
    congrArg Binding.listener new
  refine ⟨⟨reaches.grows.bindingCount, Nat.lt_of_lt_of_eq (Nat.lt_succ_self _) count.symm⟩,
    isTemplate, isRegistry, ?_, ?_, ?_, ?_, ?_⟩ <;> simp only [world_turn, isSources, isListener]
  · exact resolved
  · exact composed quietBefore
  · exact once
  · exact lastGiven?_of_since reaches [] once
  · intro calm
    rw [World.composed, isTemplate, isRegistry, isSources, sameValues, samePass,
      ← composed quietBefore]
    exact reaches.compose_eq sound _ hasRegistry (World.resolveAll_spec resolved).2 fun m mem =>
      ⟨(calm m mem).1, Moment.registersIn_eq_false (calm m mem).2 q⟩

end Run

/-- Wherever a run has come to, and whatever the callback performs: when a template was bound, and filters
only compute, the callback was called exactly once, with the composition as it stood when the bind began.
This is still the composition if nothing set a source or registered a filter in the meantime. -/
theorem callback_called_once (reached : Run.Reaches .start r) (room : Nat) (v : ViewId)
    (template label : String) (reactions : List (Reaction Step)) :
    let perform := performAll (performAt room)
    (∀ q < r.world.registries.size, ∀ value b r',
      bindWith perform q v template label reactions r = (.ok (value, b), r') →
      r'.world.FiltersQuiet → r.Installs v q template value b r') ∧
    ∀ value r', interpolateWith perform v template label reactions r = (.ok value, r') →
      r'.world.FiltersQuiet →
      ∃ q b, r.world.requireRegistry v = .ok q ∧ r.Installs v q template value b r' := by
  have sound := reached.sound World.Sound.empty
  constructor
  · intro q hasRegistry value b r' bound quiet
    exact Run.installs_of_releases sound hasRegistry bound
      (.of_eq rfl rfl rfl rfl rfl rfl rfl) quiet
  · intro value r' bound quiet
    simp only [interpolateWith, Act.run_bind, Act.run_world] at bound
    cases required : r.world.requireRegistry v with
    | error e => rw [required] at bound; cases bound
    | ok q =>
        simp only [required, Act.run_bind] at bound
        cases result : bindWith (performAll (performAt room)) q v template label reactions r with
        | mk outcome after =>
            rw [result] at bound
            cases outcome with
            | error e => cases bound
            | ok made =>
                cases bound
                exact ⟨q, made.2, rfl, Run.installs_of_releases sound
                  (sound.numbered.requireRegistry_lt required) result
                  (World.recordBinding_releases _ v made.2) quiet⟩

/-- A view that is owned by another one. -/
def ownedCounter : List Step := [
  .newType "T" "T" (some .plainInterpolation),
  .create "T" "parent" none [("x", .bool true)] [] none,
  .create "T" "v" none [("calls", .null)] [] (some "parent")]

/-- Binding a template with a source on either, to a callback that sets another key. -/
def counterBound : Except ViewError Value × Run :=
  interpolateWith (performAll (performAt 2)) 1 "{{x}} {{calls}}" "cb"
    [⟨some 1, [.set (.ofView "v") "z" .null]⟩] (session 2 ownedCounter)

theorem callback_called_once_ownedCounter :
    counterBound.2.world.FiltersQuiet ∧ ∃ value, counterBound = (.ok value, counterBound.2) ∧
      ∃ q b, (session 2 ownedCounter).world.requireRegistry 1 = .ok q ∧
        (session 2 ownedCounter).Installs 1 q "{{x}} {{calls}}" value b counterBound.2 := by
  have quiet : counterBound.2.world.FiltersQuiet := by decide +kernel
  obtain ⟨value, result⟩ := Act.exists_ok counterBound (by decide +kernel)
  exact ⟨quiet, value, result, (callback_called_once (session_reaches 2 ownedCounter) 2 1
    "{{x}} {{calls}}" "cb" [⟨some 1, [.set (.ofView "v") "z" .null]⟩]).2 value counterBound.2
      result quiet⟩

/-- It is not so that callbacks are up to date when a binding has been made. -/
theorem change_lost_while_binding :
    ¬ ∀ (script : List Step) (view template label : String) (reactions : List (Reaction Step)),
      let r := session nestingLimit (script ++ [.bind view template label reactions])
      r.world.FiltersQuiet →
        ∀ b, (session nestingLimit script).world.bindings.size ≤ b → (r.world.binding b).isActive →
          r.lastGiven? (r.world.binding b).listener = r.world.composed b := by
  intro always
  have upToDate := always
    [.newType "T" "T" (some .plainInterpolation),
      .create "T" "v" none [("x", .bool false)] [] none]
    "v" "{{x}}" "cb" [⟨some 1, [.set (.ofView "v") "x" (.bool true)]⟩] (by decide +kernel) 0
    (by decide +kernel) (by decide +kernel)
  exact absurd (congrArg (Option.map Value.toText) upToDate) (by decide +kernel)

end LiveTemplate
