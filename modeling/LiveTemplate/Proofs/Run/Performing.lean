import LiveTemplate.Proofs.Run.Binding

/-!
Steps, scripts and whole runs.  A step that looks changes nothing; a step that alters the world does so by
changes that release no binding in person, or releases one, or is a deed; a step in which user code runs goes along
whatever user code goes along, with its view or container pinned in the meantime, and if it binds it makes the
binding at its very end.

Main statement: a relation that holds along every move but the storing of values and the calls that it leads
to, and along a dispatch whenever it holds along what user code does, holds along every script at every depth
of nesting.
-/

namespace LiveTemplate

namespace World

variable {w w' : World}

/-- A view that the program can name was made, and it has a handle. -/
theorem findView_lt_size (numbered : w.Numbered) {view : String} {v : ViewId}
    (found : w.findView view = .ok v) : v < w.views.size ∧ v ∈ w.handles.views.values := by
  simp only [findView] at found
  split at found
  · next u isFound =>
    rw [← Except.ok.inj found]
    have mem := OrderedMap.mem_values_of_find? isFound
    exact ⟨numbered.heldViews u mem, mem⟩
  · cases found

/-- A binding that the program can name was made. -/
theorem findBinding_lt_size (numbered : w.Numbered) {binding : String} {b : BindingId}
    (found : w.findBinding binding = .ok b) : b < w.bindings.size := by
  simp only [findBinding] at found
  split at found
  · next a isFound =>
    rw [← Except.ok.inj found]
    exact numbered.heldBindings a (OrderedMap.mem_values_of_find? isFound)
  · cases found

/-- A view that was pinned is unpinned again. -/
theorem Returns.unpinView {v : ViewId} (returns : Returns (w.pinView v) w') :
    Returns w w'.unpinView := by
  have pinned : w'.pinnedViews = v :: w.pinnedViews := returns.pinnedViews
  obtain ⟨bs, releases⟩ := unpinView_releases w'
  have frame : w'.unpinView.pinnedViews = w.pinnedViews ∧
      w'.unpinView.pinnedContainers = w'.pinnedContainers := by
    simp only [World.unpinView, pinned]
    exact ⟨(settle_frame _ _).2.1, (settle_frame _ _).2.2.1⟩
  refine ⟨frame.1, frame.2.trans returns.pinnedContainers, ?_⟩
  intro b new made
  rw [releases.bindingCount] at made
  rw [(Grows.of_releases releases).listener_eq made]
  exact returns.fresh b new made

/-- Pinning a view that is alive leaves what is found where. -/
private theorem resolveAll_pinView {v : ViewId} (alive : w.isAlive v) (u : ViewId)
    (identifiers : List String) : (w.pinView v).resolveAll u identifiers = w.resolveAll u identifiers := by
  have owner : (w.pinView v).owner? = w.owner? := by
    funext u
    simp only [owner?]
    congr 1
    funext o
    exact isAlive_pinView alive o
  exact resolveAll_congr (fun x => resolve_congr owner (fun _ => rfl) (fun _ => rfl) x u) rfl identifiers

/-- Pinning a view that has a handle, and unpinning it, changes nothing. -/
theorem unpinView_pinView {v : ViewId} (held : v ∈ w.handles.views.values) :
    (w.pinView v).unpinView = w := by
  have alive : w.isAlive v := isAlive_iff.mpr (Or.inl held)
  show World.settle w v = w
  simp only [settle, if_pos alive]

end World

variable {R : Run → Run → Prop} {perform : Perform} {r : Run}

/-! ### Kinds of steps -/

/-- A step that only looks goes along every relation. -/
theorem look_follows (steady : Run.Steady R) (f : World → Except Fault Answer) :
    (look f).Follows R := fun _ _ => .world (.pure steady _)

/-- A step that alters the world fails and leaves the run as it was, or it alters the world alone. -/
theorem alter_run (f : World → Except Fault (Answer × World)) (r : Run) :
    (∃ fault, f r.world = .error fault ∧ alter f r = (.error fault, r)) ∨
      ∃ answer w', f r.world = .ok (answer, w') ∧ alter f r = (.ok answer, r.turn w') := by
  simp only [alter, Act.run_bind, Act.run_world]
  cases result : f r.world with
  | error fault => exact Or.inl ⟨fault, rfl, rfl⟩
  | ok pair => exact Or.inr ⟨pair.1, pair.2, rfl, rfl⟩

/-- A step that works on the view type of a handle, and fails where this fails. -/
theorem alter_findType_run (type : String) (f : World → TypeId → Except ViewError World) (answer : Answer)
    (r : Run) :
    let act := alter fun w => do
      let t ← w.findType type
      match f w t with
      | .ok w => return (answer, w)
      | .error e => .error (.view e)
    (∃ t w', r.world.findType type = .ok t ∧ f r.world t = .ok w' ∧ act r = (.ok answer, r.turn w')) ∨
      ∃ fault, act r = (.error fault, r) := by
  intro act
  rcases alter_run _ r with ⟨fault, _, run⟩ | ⟨_, w', result, run⟩
  · exact Or.inr ⟨fault, run⟩
  · left
    obtain ⟨t, found, done⟩ := World.exists_of_bind_eq_ok result
    cases worked : f r.world t with
    | error e => rw [worked] at done; cases done
    | ok w =>
        rw [worked] at done
        cases done
        exact ⟨t, _, found, worked, run⟩

/-- A step that alters the world by changes, if at all. -/
theorem alter_goesFrom (steady : Run.Steady R) (sound : r.world.Sound)
    {f : World → Except Fault (Answer × World)}
    (alters : ∀ answer w', f r.world = .ok (answer, w') →
      World.Calm r.world w' ∧ World.Returns r.world w') :
    (alter f).GoesFrom R r := by
  rcases alter_run f r with ⟨fault, _, run⟩ | ⟨answer, w', result, run⟩
  · exact .unchanged steady (by rw [run])
  · obtain ⟨calm, returns⟩ := alters answer w' result
    constructor <;> rw [run]
    · exact steady.change sound calm
    · exact returns

theorem alter_follows (steady : Run.Steady R) {f : World → Except Fault (Answer × World)}
    (alters : ∀ r : Run, r.world.Sound → ∀ answer w', f r.world = .ok (answer, w') →
      World.Calm r.world w' ∧ World.Returns r.world w') :
    (alter f).Follows R := by
  intro r sound
  exact alter_goesFrom steady sound (alters r sound)

/-- A step on a view fails where the view has no handle, or works on it while it is pinned. -/
theorem onView_run (view : String) (act : ViewId → Act Outcome) (r : Run) :
    (∃ fault, onView view act r = (.error fault, r)) ∨
      ∃ v, r.world.findView view = .ok v ∧
        onView view act r =
          ((act v (r.turn (r.world.pinView v))).1,
            (act v (r.turn (r.world.pinView v))).2.turn
              (act v (r.turn (r.world.pinView v))).2.world.unpinView) := by
  simp only [onView, Act.run_bind, Act.run_world]
  cases found : r.world.findView view with
  | error fault => exact Or.inl ⟨fault, rfl⟩
  | ok v => exact Or.inr ⟨v, rfl, rfl⟩

/-- A step on a view that is pinned in the meantime. -/
theorem onView_follows (steady : Run.Steady R) (view : String) {act : ViewId → Act Outcome}
    (acts : ∀ v, (act v).Follows R) : (onView view act).Follows R := by
  intro r sound
  rcases onView_run view act r with ⟨fault, run⟩ | ⟨v, found, run⟩
  · exact .unchanged steady (by rw [run])
  · have held := (World.findView_lt_size sound.numbered found).2
    have pinning : World.Calm r.world (r.world.pinView v) := .pinView (World.isAlive_iff.mpr (Or.inl held))
    have goes := acts v (r.turn (r.world.pinView v)) (pinning.sound sound)
    constructor <;> rw [run]
    · exact steady.between sound pinning goes.related (.unpinView _)
    · exact goes.returns.unpinView

/-- A bind on a view that is pinned in the meantime fails and leaves the run as it was, or it makes a
binding. -/
theorem onView_made (steady : Run.Steady R) (sound : r.world.Sound) {view template : String}
    {act : ViewId → Act Outcome} {k : ViewId → Keeper}
    (acts : ∀ v (r : Run), r.world.Sound → v < r.world.views.size → v ∈ r.world.pinnedViews →
      (∃ fault, act v r = (.error fault, r)) ∨
        ∃ answer r', act v r = (.ok answer, r') ∧ Act.Made R r v template (k v) r') :
    (∃ fault, onView view act r = (.error fault, r)) ∨
      ∃ answer r' v, onView view act r = (.ok answer, r') ∧ r.world.findView view = .ok v ∧
        Act.Made R r v template (k v) r' := by
  rcases onView_run view act r with ⟨fault, run⟩ | ⟨v, found, run⟩
  · exact Or.inl ⟨fault, run⟩
  · obtain ⟨made, held⟩ := World.findView_lt_size sound.numbered found
    have alive : r.world.isAlive v := World.isAlive_iff.mpr (Or.inl held)
    have pinning : World.Calm r.world (r.world.pinView v) := .pinView alive
    rcases acts v (r.turn (r.world.pinView v)) (pinning.sound sound) made List.mem_cons_self with
      ⟨fault, failed⟩ | ⟨answer, r', done, binding⟩
    · refine Or.inl ⟨fault, ?_⟩
      simp only [run, failed]
      show (_, Run.turn _ (r.world.pinView v).unpinView) = _
      rw [World.unpinView_pinView held]
      rfl
    · obtain ⟨b, sources, makes⟩ := binding.makes
      obtain ⟨before, goes, journal, spares, count⟩ := binding.goes
      have isMade : b < r'.world.bindings.size := Nat.lt_of_lt_of_eq (Nat.lt_succ_self b) makes.isLast.symm
      have resolved := makes.resolved
      rw [Run.world_turn, World.resolveAll_pinView alive] at resolved
      have soundThen := (binding.reaches steady).sound (pinning.sound sound)
      have unpinning := World.Calm.unpinView r'.world
      have grows := unpinning.grows
      have kept := makes.keptBy.spares (unpinning.sound soundThen) unpinning.toSpares isMade makes.keeperMade
      refine Or.inr ⟨answer, r'.turn r'.world.unpinView, v, by rw [run, done], found,
        ⟨before, steady.trans (steady.change sound pinning) goes, journal,
          spares.trans unpinning.toSpares, unpinning.bindingCount.trans count⟩,
        binding.returns.unpinView, b, sources, ?_⟩
      exact {
        isNew := makes.isNew
        isLast := unpinning.bindingCount.trans makes.isLast
        resolved := resolved
        isTemplate := (grows.template_eq isMade).trans makes.isTemplate
        isSources := (grows.sources_eq isMade).trans makes.isSources
        typed := makes.typed.trans (congrArg some (grows.registry_eq isMade)).symm
        keeperMade := makes.keeperMade.of_grows grows
        active := kept.active.trans (and_iff_left id)
        has := kept.has }

/-! ### Steps in which user code runs -/

/-- What binding a template for the program comes to: an error and nothing else, or one more binding. -/
theorem bindRaw_spec (introducing : Run.Introducing R) (follows : perform.Follows R)
    (sound : r.world.Sound) (v : ViewId) (template label binding : String)
    (reactions : List (Reaction Step)) :
    (∃ fault, bindRaw perform v template label binding reactions r = (.error fault, r)) ∨
      ∃ answer r', bindRaw perform v template label binding reactions r = (.ok answer, r') ∧
        Act.Made R r v template (.handle binding) r' := by
  simp only [bindRaw, Act.run_bind, Act.run_world]
  cases registry : (r.world.typeOf v).registry with
  | none => exact Or.inl ⟨_, rfl⟩
  | some q =>
      rcases bindWith_spec introducing follows sound (sound.numbered.typed _ q registry) v template label
        reactions with ⟨e, failed⟩ | ⟨before, sources, l, value, ready, bound⟩
      · refine Or.inl ⟨.interpolate e, ?_⟩
        simp only [Act.run_bind, failed]
        rfl
      · right
        have change := World.Change.bindUnderHandle (r.world.label v) ready.bindable binding
        refine ⟨.value value, _, ?_, ready.made introducing.toChained sound registry change
          (.holdBinding _ _ _) trivial fun soundBefore => ?_⟩
        · simp only [Act.run_bind, bound]
          rfl
        · exact soundBefore.keptBy_bindUnderHandle (r.world.label v) ready.bindable binding

/-- The same of binding a template on a view. -/
private theorem interpolateWith_made (introducing : Run.Introducing R) (follows : perform.Follows R)
    (sound : r.world.Sound) {v : ViewId} (made : v < r.world.views.size)
    (pinned : v ∈ r.world.pinnedViews) (template label : String) (reactions : List (Reaction Step)) :
    let act : Act Outcome := do return ofView .value (← interpolateWith perform v template label reactions)
    (∃ fault, act r = (.error fault, r)) ∨
      ∃ answer r', act r = (.ok answer, r') ∧ Act.Made R r v template (.view v) r' := by
  rcases interpolateWith_spec introducing follows sound made pinned template label reactions with
    ⟨e, run⟩ | ⟨value, r', run, isMade⟩
  · exact Or.inl ⟨.view e, by rw [Act.run_bind, run]; rfl⟩
  · exact Or.inr ⟨.value value, r', by rw [Act.run_bind, run]; rfl, isMade⟩

/-- A step that sets a value goes along what dispatches go along. -/
theorem performSet_follows (steady : Run.Steady R) (dispatches : Run.Dispatches R)
    (follows : perform.Follows R) (target : Target) (key : String) (value : Value) :
    (performSet perform target key value).Follows R := by
  intro r sound
  simp only [performSet]
  apply Act.GoesFrom.world
  split
  · exact .pure steady _
  · next c _ =>
    have pinning := World.Calm.pinContainers r.world [c]
    have goes := dispatches follows c key value (r.turn (r.world.pinContainers [c]))
      (pinning.sound sound)
    constructor
    · exact steady.between sound pinning goes.related (.unpinContainers _ 1)
    · exact goes.returns.unpinContainers

/-! ### Steps that alter the world -/

/-- A plugin cannot register a filter on a type that has no registry. -/
private theorem usePlugin_of_no_registry {w w' : World} {t : TypeId} {plugin : Plugin Step}
    (none : (w.type t).registry = none) (done : w.usePlugin t plugin = .ok w') :
    plugin.registersFilter = false := by
  cases plugin with
  | plainInterpolation => rfl
  | builtinInterpolation => rfl
  | foreign name filter =>
      cases filter with
      | none => rfl
      | some filter =>
          simp only [World.usePlugin] at done
          split at done
          · cases done
          · simp only [World.runInstall, World.registerOn, none] at done
            cases done

/-- A type is made and named, and a plugin without filters is installed on it. -/
theorem performNewType_follows (steady : Run.Steady R) (handle name : String)
    (plugin : Option (Plugin Step)) : (performNewType handle name plugin).Follows R := by
  intro r sound
  let t := r.world.types.size
  let named := (r.world.addType name).2.modifyHandles fun h =>
    { h with types := h.types.insert handle t }
  have adding : World.Calm r.world (r.world.addType name).2 := .of_same (.addType name) rfl rfl rfl
  have naming : World.Calm (r.world.addType name).2 named :=
    .of_same (.hold rfl rfl rfl fun _ => Or.inl) rfl rfl rfl
  have soundAdded := adding.sound sound
  have soundNamed : named.Sound := naming.sound soundAdded
  have added : (Act.changeWith (·.addType name)).GoesFrom R r :=
    ⟨steady.change sound adding, .of_eq rfl rfl rfl⟩
  have isNamed : (Act.change (·.modifyHandles fun h =>
      { h with types := h.types.insert handle t })).GoesFrom R (r.turn (r.world.addType name).2) :=
    .change steady soundAdded naming (.of_eq rfl rfl rfl)
  simp only [performNewType]
  refine added.bind steady (isNamed.bind steady ?_)
  cases plugin with
  | none => exact .pure steady _
  | some plugin =>
      apply alter_goesFrom steady soundNamed
      intro answer w' result
      have registry : (named.type t).registry = none := by
        show ((r.world.addType name).2.type r.world.types.size).registry = none
        rw [World.type_addType, if_pos rfl]
      split at result
      · next w isUsed =>
          have used : named.usePlugin t plugin = .ok w := isUsed
          cases result
          obtain ⟨_, _, _, bindings, handles, pinnedViews, pinnedContainers⟩ :=
            (World.Equips.usePlugin used).1.same
          have installing : World.Change named _ := .install used (usePlugin_of_no_registry registry used)
          exact ⟨.of_same installing bindings (congrArg Handles.views handles) pinnedViews,
            .of_eq pinnedViews pinnedContainers (congrArg Array.size bindings)⟩
      · cases result

/-- A view is made and given its handle. -/
theorem performCreate_follows (steady : Run.Steady R) (type view : String) (name : Option String)
    (state props : List (String × Value)) (owner : Option String) :
    (performCreate type view name state props owner).Follows R := by
  apply alter_follows steady
  intro r sound answer w' result
  -- whatever the owner is, a view is added and then given its handle
  have created : ∀ t (o : Option ViewId), (∀ u, o = some u → u < r.world.views.size) → ∀ v w,
      r.world.createView t name (.ofList state) (.ofList props) o = .ok (v, w) →
        World.Calm r.world (w.holdView view v) ∧ World.Returns r.world (w.holdView view v) := by
    intro t o ownerMade v w isCreated
    obtain ⟨made, rfl⟩ : v = r.world.views.size ∧
        w = (r.world.addView t name (.ofList state) (.ofList props) o).2 := by
      cases o with
      | none =>
          cases isCreated
          exact ⟨rfl, rfl⟩
      | some owner =>
          simp only [World.createView] at isCreated
          split at isCreated
          · cases isCreated
          · cases isCreated
            exact ⟨rfl, rfl⟩
    let added := (r.world.addView t name (.ofList state) (.ofList props) o).2
    refine ⟨made ▸ .create r.world t name _ _ ownerMade view, ?_⟩
    obtain ⟨bs, releases⟩ := World.holdView_releases added view v
    exact .of_eq (World.holdView_frame added view v).1 (World.holdView_frame added view v).2
      releases.bindingCount
  obtain ⟨t, _, withType⟩ := World.exists_of_bind_eq_ok result
  obtain ⟨o, isOwner, withOwner⟩ := World.exists_of_bind_eq_ok withType
  have ownerMade : ∀ u, o = some u → u < r.world.views.size := by
    rintro u rfl
    cases owner with
    | none => cases isOwner
    | some handle =>
        obtain ⟨v, found, same⟩ := World.exists_of_bind_eq_ok isOwner
        cases same
        exact (World.findView_lt_size sound.numbered found).1
  cases isCreated : r.world.createView t name (.ofList state) (.ofList props) o with
  | error e => rw [isCreated] at withOwner; cases withOwner
  | ok pair =>
      rw [isCreated] at withOwner
      cases withOwner
      exact created t o ownerMade pair.1 pair.2 isCreated

/-! ### Every step -/

/-- A deed is done, or it fails and the run is as it was. -/
theorem performStep_deed (perform : Perform) {step : Step} (isDeed : step.isDeed) (r : Run) :
    (∃ answer w', performStep perform step r = (.ok answer, r.turn w') ∧
        World.Deed r.world step answer w') ∨
      ∃ fault, performStep perform step r = (.error fault, r) := by
  cases step with
  | subscribe target key subscription reactions =>
      rcases alter_run (fun w => w.listen target key subscription reactions) r with
        ⟨fault, _, run⟩ | ⟨answer, w', result, run⟩
      · exact Or.inr ⟨fault, run⟩
      · exact Or.inl ⟨answer, w', run, .subscribe result⟩
  | unsubscribe subscription =>
      rcases alter_run (fun w => w.unlisten subscription) r with
        ⟨fault, _, run⟩ | ⟨answer, w', result, run⟩
      · exact Or.inr ⟨fault, run⟩
      · exact Or.inl ⟨answer, w', run, .unsubscribe result⟩
  | registerFilter type name code =>
      rcases alter_findType_run type (·.registerOn · name code) .done r with
        ⟨t, w', _, registered, run⟩ | ⟨fault, run⟩
      · exact Or.inl ⟨_, w', run, .registerFilter registered⟩
      · exact Or.inr ⟨fault, run⟩
  | usePlugin type plugin =>
      rcases alter_findType_run type (·.usePlugin · plugin) (.flag true) r with
        ⟨t, w', _, used, run⟩ | ⟨fault, run⟩
      · exact Or.inl ⟨_, w', run, .usePlugin used⟩
      · exact Or.inr ⟨fault, run⟩
  | _ => cases isDeed

/-- A step of the other kinds, which releases no binding in person and makes none, goes along whatever user code
goes along. -/
theorem performStep_follows (introducing : Run.Introducing R) (dispatches : Run.Dispatches R)
    (follows : perform.Follows R) {step : Step} (notDeed : step.isDeed = false)
    (notRelease : step.released? = none) (notBind : step.bound? = none) :
    (performStep perform step).Follows R := by
  cases step with
  | subscribe | unsubscribe | registerFilter | usePlugin => cases notDeed
  | release => cases notRelease
  | bind | bindRaw => cases notBind
  | newType handle name plugin => exact performNewType_follows introducing handle name plugin
  | create type view name state props owner =>
      exact performCreate_follows introducing type view name state props owner
  | createBlank type view => exact performCreate_follows introducing type view none [] [] none
  | render view template =>
      apply onView_follows introducing view
      intro v
      exact (interpolate_follows introducing follows v template).bind introducing fun _ =>
        .pure introducing _
  | set target key value => exact performSet_follows introducing dispatches follows target key value
  | dropBinding binding =>
      simp only [performStep]
      apply alter_follows introducing
      intro r sound answer w' result
      cases result
      exact ⟨.dropBinding r.world binding, .of_eq (by simp) (by simp)
        (World.dropBinding_releases r.world binding).bindingCount⟩
  | holdState target state =>
      simp only [performStep]
      apply alter_follows introducing
      intro r sound answer w' result
      obtain ⟨c, found, done⟩ := World.exists_of_bind_eq_ok result
      cases done
      refine ⟨.of_same (.hold rfl rfl rfl ?_) rfl rfl rfl, .of_eq rfl rfl rfl⟩
      intro d mem
      rcases OrderedMap.mem_values_insert mem with rfl | old
      · exact Or.inr (World.findTarget_lt_size sound.numbered found)
      · exact Or.inl old
  | newState state values =>
      simp only [performStep]
      apply alter_follows introducing
      intro r sound answer w' result
      cases result
      have adding : World.Calm r.world (r.world.addContainer (.ofList values)).2 :=
        .of_same (.addContainer _) rfl rfl rfl
      refine ⟨adding.trans (.of_same (.hold rfl rfl rfl ?_) rfl rfl rfl), .of_eq rfl rfl rfl⟩
      intro d mem
      rcases OrderedMap.mem_values_insert mem with rfl | old
      · exact Or.inr (Nat.lt_of_lt_of_eq (Nat.lt_succ_self _) (Array.size_push _).symm)
      · exact Or.inl old
  | dropState state =>
      simp only [performStep]
      apply alter_follows introducing
      intro r sound answer w' result
      cases result
      refine ⟨.of_same (.hold rfl rfl rfl ?_) rfl rfl rfl, .of_eq rfl rfl rfl⟩
      intro d mem
      exact Or.inl (OrderedMap.mem_values_erase mem)
  | downgrade target weak =>
      simp only [performStep]
      apply alter_follows introducing
      intro r sound answer w' result
      obtain ⟨c, found, done⟩ := World.exists_of_bind_eq_ok result
      cases done
      exact ⟨.of_same (.hold rfl rfl rfl fun _ => Or.inl) rfl rfl rfl, .of_eq rfl rfl rfl⟩
  | destroy view =>
      simp only [performStep]
      apply alter_follows introducing
      intro r sound answer w' result
      obtain ⟨v, found, done⟩ := World.exists_of_bind_eq_ok result
      cases done
      exact ⟨.destroy r.world v, .of_eq (by simp) (by simp) (World.destroy_releases r.world v).bindingCount⟩
  | dropView view =>
      simp only [performStep]
      apply alter_follows introducing
      intro r sound answer w' result
      cases result
      obtain ⟨bs, releases⟩ := World.dropView_releases r.world view
      exact ⟨.dropView r.world view, .of_eq (by simp) (by simp) releases.bindingCount⟩
  | hasFilter scope name => cases scope <;> exact look_follows introducing _
  | unknown word => exact .pure introducing _
  | _ => exact look_follows introducing _

/-- How a step ends that is performed from a run.  It fails and leaves the run as it was; or it is a deed, or
releases a binding in person, or makes one; or it goes along a relation and does none of these. -/
inductive Act.Ends (R : Run → Run → Prop) (act : Act Outcome) (r : Run) : Step → Prop where
  | fails {step : Step} {fault : Fault} (run : act r = (.error fault, r)) : Ends R act r step
  | deed {step : Step} {answer : Answer} {w' : World} (run : act r = (.ok answer, r.turn w'))
      (deed : World.Deed r.world step answer w') : Ends R act r step
  | release {binding : String} {b : BindingId} (run : act r = (.ok .done, r.turn (r.world.release b)))
      (found : r.world.findBinding binding = .ok b) : Ends R act r (.release binding)
  | bind {step : Step} {view template : String} {answer : Answer} {r' : Run} {v : ViewId}
      (run : act r = (.ok answer, r')) (isBind : step.bound? = some (view, template))
      (found : r.world.findView view = .ok v) (made : Act.Made R r v template (step.keeper v) r') :
      Ends R act r step
  | other {step : Step} (goes : act.GoesFrom R r) (notDeed : step.isDeed = false)
      (notRelease : step.released? = none) (notBind : step.bound? = none) : Ends R act r step

/-- Every step ends in one of these ways, if user code goes along the relation. -/
theorem performStep_ends (introducing : Run.Introducing R) (dispatches : Run.Dispatches R)
    (follows : perform.Follows R) (sound : r.world.Sound) (step : Step) :
    Act.Ends R (performStep perform step) r step := by
  cases isDeed : step.isDeed with
  | true =>
      rcases performStep_deed perform isDeed r with ⟨answer, w', run, deed⟩ | ⟨fault, run⟩
      · exact .deed run deed
      · exact .fails run
  | false =>
      have other := performStep_follows introducing dispatches follows isDeed
      cases step with
      | release binding =>
          rcases alter_run (fun w => do return (.done, w.release (← w.findBinding binding))) r with
            ⟨fault, _, run⟩ | ⟨answer, w', result, run⟩
          · exact .fails run
          · obtain ⟨b, found, done⟩ := World.exists_of_bind_eq_ok result
            cases done
            exact .release run found
      | bind view template label reactions =>
          rcases onView_made introducing.toSteady sound fun v r sound made pinned =>
            interpolateWith_made introducing follows sound made pinned template label reactions
          with ⟨fault, run⟩ | ⟨answer, r', v, run, found, made⟩
          · exact .fails run
          · exact .bind run rfl found made
      | bindRaw view template label binding reactions =>
          rcases onView_made introducing.toSteady sound fun v r sound _ _ =>
            bindRaw_spec introducing follows sound v template label binding reactions
          with ⟨fault, run⟩ | ⟨answer, r', v, run, found, made⟩
          · exact .fails run
          · exact .bind run rfl found made
      | _ => exact .other (other rfl rfl r sound) isDeed rfl rfl

/-- A step and the entry that follows it. -/
private theorem record_nested_follows (steady : Run.Steady R) (room : Nat) {step : Step}
    (ends : ∀ r : Run, r.world.Sound → Act.Ends R (performAt room step) r step) :
    (do Act.record (.nested step (← performAt room step))).Follows R := by
  intro r sound
  constructor <;> simp only [Act.run_bind, Act.run_record]
  · cases ends r sound with
    | fails run =>
        rw [run]
        exact steady.entry sound ⟨nofun, nofun⟩ rfl rfl rfl
    | deed run deed =>
        rw [run]
        exact steady.deed sound deed
    | release run found =>
        rw [run]
        exact steady.release sound found
    | @bind step view template answer r' v run isBind found made =>
        obtain ⟨before, goes, journal, spares, count⟩ := made.goes
        obtain ⟨b, sources, makes⟩ := made.makes
        have same : before.turn r'.world = r' := by rw [Run.turn, journal]
        rw [run, ← same]
        rw [← same] at run makes
        exact steady.bind sound goes spares count run ⟨view, template, v, sources, isBind, found, rfl, makes⟩
    | other goes notDeed notRelease notBind =>
        apply steady.trans goes.related
        refine steady.entry (goes.sound steady sound) (Run.allows_of_not_deed notDeed) rfl rfl ?_
        cases (performAt room step r).1 with
        | error => rfl
        | ok => simp only [Occurrence.isReckoned, notRelease, notBind, Option.isSome_none, Bool.or_self]
  · cases ends r sound with
    | fails run => rw [run]; exact .refl _
    | deed run deed =>
        obtain ⟨_, bindings, pinnedViews, pinnedContainers⟩ := deed.same
        rw [run]
        exact .of_eq pinnedViews pinnedContainers (congrArg Array.size bindings)
    | release run => rw [run]; exact .of_eq (by simp) (by simp) (by simp)
    | bind run _ _ made => rw [run]; exact made.returns
    | other goes => exact goes.returns

/-- Scripts at any depth of nesting go along a relation that holds along the storing of values and along
every other move, the calls of callbacks that are told of it apart. -/
theorem performAll_follows (introducing : Run.Introducing R) (dispatches : Run.Dispatches R) (room : Nat) :
    Perform.Follows R (performAll (performAt room)) := by
  induction room with
  | zero =>
      refine ⟨⟨_, rfl⟩, fun steps => .forM introducing steps ?_⟩
      intro step _
      exact record_nested_follows introducing 0 fun r _ => .fails rfl
  | succ room inductionHypothesis =>
      refine ⟨⟨_, rfl⟩, fun steps => .forM introducing steps ?_⟩
      intro step _
      exact record_nested_follows introducing (room + 1) fun r sound =>
        performStep_ends introducing dispatches inductionHypothesis sound step

/-- Every step that is performed from a sound run ends in one of these ways. -/
theorem performAt_ends (introducing : Run.Introducing R) (dispatches : Run.Dispatches R)
    (sound : r.world.Sound) (room : Nat) (step : Step) : Act.Ends R (performAt room step) r step := by
  cases room with
  | zero => exact .fails rfl
  | succ room =>
      have follows := performAll_follows introducing dispatches room
      exact performStep_ends introducing dispatches follows sound step

/-- A whole run, and all that is run on from it, goes by moves alone. -/
theorem performAll_reaches (room : Nat) (steps : List Step) {r : Run} (sound : r.world.Sound) :
    Run.Reaches r (performAll (performAt room) steps r).2 :=
  ((performAll_follows Run.reaches_closed Run.reaches_dispatches room).steps steps r sound).related

/-- No step takes entries away. -/
theorem performAt_size_journal (room : Nat) (step : Step) {r : Run} (sound : r.world.Sound) :
    r.journal.size ≤ (performAt room step r).2.journal.size := by
  cases performAt_ends Run.reaches_closed Run.reaches_dispatches sound room step with
  | fails run => simp only [run, Nat.le_refl]
  | deed run => simp only [run, Run.journal_turn, Nat.le_refl]
  | release run => simp only [run, Run.journal_turn, Nat.le_refl]
  | bind run _ _ made => rw [run]; exact (made.reaches Run.reaches_closed).size_journal_le
  | other goes => exact goes.related.size_journal_le

/-- A step that binds fails and leaves the run as it was, or it makes a binding. -/
theorem performAt_made {r : Run} (sound : r.world.Sound) (room : Nat) {step : Step}
    {view template : String} (isBind : step.bound? = some (view, template)) :
    (∃ fault, performAt room step r = (.error fault, r)) ∨
      ∃ answer r' v, performAt room step r = (.ok answer, r') ∧ r.world.findView view = .ok v ∧
        Act.Made Run.Reaches r v template (step.keeper v) r' := by
  cases performAt_ends Run.reaches_closed Run.reaches_dispatches sound room step with
  | fails run => exact Or.inl ⟨_, run⟩
  | deed _ deed => cases deed <;> cases isBind
  | release => cases isBind
  | bind run isBound found made =>
      cases isBound.symm.trans isBind
      exact Or.inr ⟨_, _, _, run, found, made⟩
  | other _ _ _ notBind =>
      rw [notBind] at isBind
      cases isBind

/-- The run in which nothing has happened yet. -/
def Run.start : Run := ⟨.empty, #[]⟩

/-- A session goes by moves alone. -/
theorem session_reaches (room : Nat) (script : List Step) :
    Run.Reaches .start (session room script) :=
  performAll_reaches room script World.Sound.empty

/-- The worlds of a session are sound. -/
theorem session_sound (room : Nat) (script : List Step) : (session room script).world.Sound :=
  (session_reaches room script).sound World.Sound.empty

/-- A session goes on from where a shorter one ended. -/
theorem session_append (room : Nat) (script more : List Step) :
    session room (script ++ more) =
      (performAll (performAt room) more (session room script)).2 := by
  simp only [session, performAll, List.forM_eq_forM, List.forM_append]
  rfl

end LiveTemplate
