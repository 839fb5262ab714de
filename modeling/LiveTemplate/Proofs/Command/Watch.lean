import LiveTemplate.Proofs.Scene.Rendering

/-!
Watching a scene.  Binding a template and playing an update lead from a scene that is being played to one that
still is, and call what the replay says; so a scene is watched to its end just if it works, and then the lines
are those of the replay.
-/

namespace LiveTemplate

namespace Scene

variable {s : Scene} {filters : FilterSet} {q : RegistryId} {h : Holdings} {destroyed : List String}
variable {bound : List BindingSpec} {w : World} {r : Run} {i : Instance}

/-! ### Telling -/

/-- Bindings that are told of a key call what the replay says. -/
theorem Plays.tell (plays : s.Plays filters q h destroyed bound r.world) (key : String) (value : Value)
    {subscribers : List Subscriber}
    (each : ∀ x ∈ subscribers, ∃ n b, x.handler = .binding n ∧ bound[n]? = some b ∧
      destroyed.contains b.view = false) :
    ∃ r' calls, subscribers.forM (notify Instance.perform key value) r = ((), r') ∧
      s.Plays filters q h destroyed bound r'.world ∧ callsOf r'.journal = callsOf r.journal ++ calls ∧
      ((subscribers.filterMap (·.handler.binding?)).filterMap (bound[·]?)).mapM (s.call? filters h) =
        some calls := by
  induction subscribers generalizing r with
  | nil => exact ⟨r, [], rfl, plays, (List.append_nil _).symm, rfl⟩
  | cons x rest inductionHypothesis =>
      obtain ⟨n, b, own, isBound, alive⟩ := each x List.mem_cons_self
      have carried := plays.carried n b isBound
      have active : (r.world.binding n).isActive := by
        rw [carried.active, alive]
        rfl
      obtain ⟨composed, middle, refreshed, isComposed, idles, called⟩ :=
        Instance.refresh_spec plays.sound plays.cast.quiet active
      obtain ⟨r', calls, told, plays', calledRest, isReplay⟩ := inductionHypothesis (plays.idles idles)
        fun y mem => each y (List.mem_cons_of_mem _ mem)
      refine ⟨r', ⟨bindingLabel b, composed⟩ :: calls, ?_, plays', ?_, ?_⟩
      · have first : notify Instance.perform key value x = refresh Instance.perform n := by
          simp only [notify, own]
        show (notify Instance.perform key value x >>= fun _ =>
          rest.forM (notify Instance.perform key value)) r = _
        rw [first, Act.run_bind, refreshed]
        exact told
      · rw [calledRest, called, carried.label, List.append_assoc]
        rfl
      · have isCall : s.call? filters h b = some ⟨bindingLabel b, composed⟩ := by
          rw [call?, ← plays.composed_eq isBound, isComposed]
          rfl
        have first : (x.handler.binding?).bind (bound[·]?) = some b := by
          rw [own]
          exact isBound
        rw [List.filterMap_filterMap] at isReplay ⊢
        rw [List.filterMap_cons, first]
        simp only [List.mapM_cons, isCall, isReplay]
        rfl

/-- Setting a key of a view calls what the replay says. -/
theorem Plays.dispatch (plays : s.Plays filters q h destroyed bound r.world) {view : String} {v : ViewId}
    (found : r.world.handles.views.find? view = some v) (key : String) (value : Value) :
    ∃ r' calls, setValue Instance.perform v key value r = ((), r') ∧
      s.Plays filters q (h.store view key value) destroyed bound r'.world ∧
      callsOf r'.journal = callsOf r.journal ++ calls ∧
      (bound.filter (s.isTold destroyed view key)).mapM (s.call? filters (h.store view key value)) =
        some calls := by
  have stored : s.Plays filters q (h.store view key value) destroyed bound (r.stored v key value).world :=
    plays.store found key value
  have each : ∀ x ∈ (r.stored v key value).world.subscribersTo v key, ∃ n b, x.handler = .binding n ∧
      bound[n]? = some b ∧ destroyed.contains b.view = false := by
    intro x mem
    obtain ⟨n, own⟩ := stored.handlers v x (List.mem_filter.mp mem).1
    obtain ⟨b, isBound, told⟩ := (stored.mem_subscribersTo found).mp ⟨x, mem, own⟩
    exact ⟨n, b, own, isBound, (isTold_iff.mp told).1⟩
  obtain ⟨r', calls, told, plays', called, isReplay⟩ := stored.tell key value each
  refine ⟨r', calls, ?_, plays', ?_, ?_⟩
  · rw [setValue_run]
    exact told
  · rw [called]
    exact congrArg (· ++ calls) ((callsOf_push _ _).trans (List.append_nil _))
  · rw [stored.told_eq found key] at isReplay
    exact isReplay

end Scene

namespace Scene

variable {s : Scene} {filters : FilterSet} {q : RegistryId} {h : Holdings} {destroyed : List String}
variable {bound : List BindingSpec} {w : World} {i : Instance} {b : BindingSpec}

/-- How the binding of a template goes: its callback is made and called with the value, and then the binding is
made and given to the view. -/
theorem Plays.bind_eq (plays : s.Plays filters q s.declared [] bound i.world) {v : ViewId}
    (found : i.world.handles.views.find? b.view = some v) {sources : Sources}
    (resolved : i.world.resolveAll v (Template.parse b.template).identifiers = .ok sources) (label : String) :
    let l := i.world.listeners.size
    ∃ (value : Value) (before : Run), Instance.bind b label ⟨i.world, #[]⟩ =
        (.ok value, before.turn (((before.world.addBinding (Template.parse b.template) q (i.world.label v)
          sources l).2.unpinContainers sources.length).recordBinding v before.world.bindings.size)) ∧
      (Template.parse b.template).compose (i.world.valueIn sources) (i.world.pass q) = some value ∧
      World.Idles i.world before.world ∧ before.world.Bindable (Template.parse b.template) q sources l ∧
      (before.world.listener l).label = label ∧ callsOf before.journal = [⟨label, value⟩] := by
  have required : i.world.requireRegistry v = .ok q := plays.requireRegistry found rfl
  obtain ⟨value, before, made, composed, idles, bindable, label', called⟩ :=
    Instance.bindWith_spec (r := ⟨i.world, #[]⟩) plays.sound plays.cast.quiet
      (plays.sound.numbered.requireRegistry_lt required) resolved label []
  have done : interpolateWith Instance.perform v b.template label [] ⟨i.world, #[]⟩ =
      (.ok value, before.turn (((before.world.addBinding (Template.parse b.template) q (i.world.label v)
        sources i.world.listeners.size).2.unpinContainers sources.length).recordBinding v
          before.world.bindings.size)) := by
    simp only [interpolateWith, Act.run_bind, Act.run_world, required, made]
    rfl
  refine ⟨value, before, ?_, composed, idles, bindable, label', called⟩
  rw [Instance.bind, Instance.onView_of_found found done]
  rfl

/-- Binding a template that has its sources calls its callback with its value. -/
theorem Plays.run_bind (plays : s.Plays filters q s.declared [] bound i.world) (resolves : s.Resolves b) :
    ∃ value w', i.run (Instance.bind b (bindingLabel b)) =
        (.ok value, [⟨bindingLabel b, value⟩], { i with world := w' }) ∧
      s.call? filters s.declared b = some ⟨bindingLabel b, value⟩ ∧
      s.Plays filters q s.declared [] (bound ++ [b]) w' := by
  obtain ⟨v, sources, found, resolved⟩ := plays.resolves_iff.mp resolves
  obtain ⟨value, before, done, composed, idles, bindable, label, called⟩ :=
    plays.bind_eq found resolved (bindingLabel b)
  have given : ∀ x ∈ (Template.parse b.template).identifiers,
      sources.lookup x = (s.source? b.view x).bind i.world.handles.views.find? :=
    fun x mem => plays.cast.lookup_eq plays.held found resolved mem
  have handles := idles.same.2.2.2.2.2.1
  have plays' := (plays.idles idles).bind (by rw [handles]; exact found) rfl bindable
    (by rw [handles]; exact given) label (i.world.label v)
  have isCall : s.call? filters s.declared b = some ⟨bindingLabel b, value⟩ := by
    rw [call?, ← plays.cast.compose_eq plays.held resolves.1 given, composed]
    rfl
  refine ⟨value, _, ?_, isCall, plays'⟩
  rw [Instance.run_of_eq done]
  show (_, callsOf before.journal, _) = _
  rw [called]
  rfl

/-- Binding a template leaves the registries as they are. -/
theorem Plays.registries_run_bind (plays : s.Plays filters q s.declared [] bound i.world)
    (resolves : s.Resolves b) (label : String) :
    (i.run (Instance.bind b label)).2.2.world.registries = i.world.registries := by
  obtain ⟨v, sources, found, resolved⟩ := plays.resolves_iff.mp resolves
  obtain ⟨_, before, done, _, idles, bindable, _⟩ := plays.bind_eq found resolved label
  have playsBefore := plays.idles idles
  have isFound : before.world.handles.views.find? b.view = some v := by
    rw [idles.same.2.2.2.2.2.1]
    exact found
  obtain ⟨_, w', isBound, after⟩ := World.bindOnView_spec bindable (playsBefore.cast.made b.view v isFound)
    (playsBefore.ended b.view v isFound) (i.world.label v)
  rw [Instance.run_of_eq done]
  show (World.recordBinding _ _ _).registries = _
  rw [← isBound, after.registries, idles.same.2.1]

/-- A template that lacks a source: its view is not there, or one of its identifiers is not found. -/
theorem Plays.unresolved (plays : s.Plays filters q s.declared destroyed bound w)
    (unresolved : ¬ s.Resolves b) : w.handles.views.find? b.view = none ∨
      ∃ v e, w.handles.views.find? b.view = some v ∧
        w.resolveAll v (Template.parse b.template).identifiers = .error e := by
  cases found : w.handles.views.find? b.view with
  | none => exact Or.inl rfl
  | some v =>
      cases resolved : w.resolveAll v (Template.parse b.template).identifiers with
      | error e => exact Or.inr ⟨v, e, rfl, resolved⟩
      | ok sources => exact absurd (plays.resolves_iff.mpr ⟨v, sources, found, resolved⟩) unresolved

/-- Binding a template that lacks a source fails. -/
theorem Plays.run_bind_error (plays : s.Plays filters q s.declared [] bound i.world)
    (unresolved : ¬ s.Resolves b) (label : String) : ∃ e, (i.run (Instance.bind b label)).1 = .error e := by
  rcases plays.unresolved unresolved with unknown | ⟨v, e, found, resolved⟩
  · exact ⟨_, by rw [Instance.bind, Instance.run_of_eq (Instance.onView_of_unknown unknown)]⟩
  · have required := plays.requireRegistry found rfl
    have done : interpolateWith Instance.perform v b.template label [] ⟨i.world, #[]⟩ =
        (.error (.interpolate e), ⟨i.world, #[]⟩) := by
      simp only [interpolateWith, bindWith, Act.run_bind, Act.run_world, required, resolved]
      rfl
    exact ⟨_, by rw [Instance.bind, Instance.run_of_eq (Instance.onView_of_found found done)]; rfl⟩

/-- Setting a key of a view calls what the replay says. -/
theorem Plays.run_set (plays : s.Plays filters q h destroyed bound i.world) {view : String}
    (declared : s.views.contains view) (key : String) (value : Value) :
    ∃ w' calls, i.run (Instance.apply (.set view key value)) = (.ok (), calls, { i with world := w' }) ∧
      s.Plays filters q (h.store view key value) destroyed bound w' ∧
      (bound.filter (s.isTold destroyed view key)).mapM (s.call? filters (h.store view key value)) =
        some calls := by
  obtain ⟨v, found⟩ := Option.isSome_iff_exists.mp ((plays.cast.found view).trans declared)
  have state := plays.cast.state v (plays.cast.made view v found)
  obtain ⟨r', calls, told, plays', called, isReplay⟩ :=
    Plays.dispatch (r := ⟨i.world, #[]⟩) plays found key value
  refine ⟨r'.world, calls, ?_, plays', isReplay⟩
  have done : (do
      setValue Instance.perform ((← Act.world).view v).state key value
      return .ok () : Act (Except ViewError Unit)) ⟨i.world, #[]⟩ = (.ok (), r') := by
    simp only [Act.run_bind, Act.run_world, state, told]
    rfl
  rw [Instance.apply, Instance.store, Instance.run_of_eq (Instance.onView_of_found found done), called]
  rfl

/-- Destroying a view calls nobody. -/
theorem Plays.run_destroy (plays : s.Plays filters q h destroyed bound i.world) {view : String}
    (declared : s.views.contains view) :
    ∃ w', i.run (Instance.apply (.destroy view)) = (.ok (), [], { i with world := w' }) ∧
      s.Plays filters q h (view :: destroyed) bound w' := by
  obtain ⟨v, found⟩ := Option.isSome_iff_exists.mp ((plays.cast.found view).trans declared)
  refine ⟨i.world.destroy v, ?_, plays.destroy found⟩
  have done : (do
      Act.change (·.destroy v)
      return .ok () : Act (Except ViewError Unit)) ⟨i.world, #[]⟩ = (.ok (), ⟨i.world.destroy v, #[]⟩) := rfl
  rw [Instance.apply, Instance.run_of_eq (Instance.onView_of_found found done)]
  rfl

/-- An update of a view that is not declared fails. -/
theorem Plays.run_apply_error (plays : s.Plays filters q h destroyed bound i.world) {u : Update}
    (undeclared : s.views.contains u.view = false) : ∃ e, (i.run (Instance.apply u)).1 = .error e := by
  have unknown : i.world.handles.views.find? u.view = none := by
    simpa [undeclared] using plays.cast.found u.view
  cases u with
  | set view key value =>
      exact ⟨_, congrArg Prod.fst (Instance.run_of_eq (Instance.onView_of_unknown unknown))⟩
  | destroy view =>
      exact ⟨_, congrArg Prod.fst (Instance.run_of_eq (Instance.onView_of_unknown unknown))⟩

/-! ### Watching -/

variable (prettyJson : Bool)

/-- The lines of calls. -/
private theorem mapM_bindingLine? {bs : List BindingSpec} {calls : List Call}
    (called : bs.mapM (s.call? filters h) = some calls) :
    bs.mapM (s.bindingLine? filters prettyJson h) = some (calls.map (callLine prettyJson)) := by
  induction bs generalizing calls with
  | nil =>
      cases called
      rfl
  | cons b rest inductionHypothesis =>
      simp only [List.mapM_cons, Option.bind_eq_bind, Option.bind_eq_some_iff, Option.pure_def,
        Option.some.injEq] at called
      obtain ⟨call, first, others, later, rfl⟩ := called
      simp only [List.mapM_cons, bindingLine?, first, Option.map_some, inductionHypothesis later]
      rfl

/-- Updates are played to the end just if they are of views that are declared, and then the lines are those of
the replay. -/
theorem Plays.playAll_spec (plays : s.Plays filters q h destroyed s.bindings i.world)
    (updates : List Update) : let played := playAll prettyJson i updates
    (played.failure = none ↔ ∀ u ∈ updates, s.views.contains u.view) ∧
      (played.failure = none →
        s.replayAll? filters prettyJson h destroyed updates = some played.lines) := by
  induction updates generalizing h destroyed i with
  | nil => exact ⟨iff_of_true rfl nofun, fun _ => rfl⟩
  | cons u rest inductionHypothesis =>
      simp only [playAll, List.forall_mem_cons]
      cases declared : s.views.contains u.view with
      | false =>
          obtain ⟨e, failed⟩ := plays.run_apply_error declared
          rw [failed]
          exact ⟨iff_of_false nofun (by simp), nofun⟩
      | true =>
          cases u with
          | set view key value =>
              have isView : s.views.contains view := declared
              obtain ⟨w', calls, applied, plays', isReplay⟩ := plays.run_set isView key value
              obtain ⟨ends, isReplayed⟩ := inductionHypothesis (i := { i with world := w' }) plays'
              rw [applied]
              refine ⟨by simpa [Transcript.after] using ends, fun succeeds => ?_⟩
              simp only [replayAll?, mapM_bindingLine? prettyJson isReplay, isReplayed succeeds]
              rfl
          | destroy view =>
              have isView : s.views.contains view := declared
              obtain ⟨w', applied, plays'⟩ := plays.run_destroy isView
              obtain ⟨ends, isReplayed⟩ := inductionHypothesis (i := { i with world := w' }) plays'
              rw [applied]
              refine ⟨by simpa [Transcript.after] using ends, fun succeeds => ?_⟩
              simp only [replayAll?, isReplayed succeeds]
              rfl

/-- Templates that have their sources are bound one after the other, with the lines of the replay. -/
theorem Plays.bindAll_ok (plays : s.Plays filters q s.declared [] bound i.world)
    (next : Instance → Transcript) {rest : List BindingSpec} (resolves : ∀ b ∈ rest, s.Resolves b) :
    ∃ i' lines, bindAll prettyJson next i rest = (next i').after lines ∧
      s.Plays filters q s.declared [] (bound ++ rest) i'.world ∧
      rest.mapM (s.bindingLine? filters prettyJson s.declared) = some lines := by
  induction rest generalizing bound i with
  | nil => exact ⟨i, [], rfl, by rw [List.append_nil]; exact plays, rfl⟩
  | cons b rest inductionHypothesis =>
      obtain ⟨value, w', made, isCall, plays'⟩ := plays.run_bind (resolves b List.mem_cons_self)
      obtain ⟨i', lines, others, playsRest, later⟩ := inductionHypothesis (i := { i with world := w' }) plays'
        fun b mem => resolves b (List.mem_cons_of_mem _ mem)
      refine ⟨i', callLine prettyJson ⟨bindingLabel b, value⟩ :: lines, ?_, ?_, ?_⟩
      · simp only [bindAll, made, others]
        rfl
      · rw [List.append_assoc] at playsRest
        exact playsRest
      · simp only [List.mapM_cons, bindingLine?, isCall, Option.map_some, later]
        rfl

/-- Binding templates ends with a failure if one of them lacks a source. -/
theorem Plays.bindAll_error (plays : s.Plays filters q s.declared [] bound i.world)
    (next : Instance → Transcript) {rest : List BindingSpec} (mem : b ∈ rest) (unresolved : ¬ s.Resolves b) :
    (bindAll prettyJson next i rest).failure ≠ none := by
  induction rest generalizing bound i with
  | nil => cases mem
  | cons first rest inductionHypothesis =>
      by_cases resolves : s.Resolves first
      · obtain ⟨value, w', made, _, plays'⟩ := plays.run_bind resolves
        have inRest : b ∈ rest := by
          rcases List.mem_cons.mp mem with rfl | inRest
          · exact absurd resolves unresolved
          · exact inRest
        simp only [bindAll, made]
        exact inductionHypothesis (i := { i with world := w' }) plays' inRest
      · obtain ⟨e, failed⟩ := plays.run_bind_error resolves (bindingLabel first)
        simp only [bindAll, failed]
        exact nofun

/-- Templates are bound and updates are played to the end just if every template has its sources and every
update is of a view that is declared, and then the lines are those of the replay, short of the summary. -/
theorem Plays.bindAll_spec (plays : s.Plays filters q s.declared [] [] i.world) :
    let played := bindAll prettyJson (fun i => playAll prettyJson i s.updates) i s.bindings
    (played.failure = none ↔
        (∀ b ∈ s.bindings, s.Resolves b) ∧ ∀ u ∈ s.updates, s.views.contains u.view) ∧
      (played.failure = none →
        s.replay? filters prettyJson = some (played.lines ++ [summaryLine s])) := by
  intro played
  by_cases resolves : ∀ b ∈ s.bindings, s.Resolves b
  · obtain ⟨i', first, boundAll, plays', isFirst⟩ :=
      plays.bindAll_ok prettyJson (fun i => playAll prettyJson i s.updates) resolves
    obtain ⟨ends, isReplayed⟩ := Plays.playAll_spec prettyJson (i := i') plays' s.updates
    have isPlayed : played = (playAll prettyJson i' s.updates).after first := boundAll
    rw [isPlayed]
    constructor
    · exact ends.trans (and_iff_right resolves).symm
    · intro succeeds
      simp only [replay?, isFirst, isReplayed succeeds]
      rfl
  · obtain ⟨b, mem, unresolved⟩ : ∃ b ∈ s.bindings, ¬ s.Resolves b := by
      by_contra all
      exact resolves fun b mem => by_contra fun unresolved => all ⟨b, mem, unresolved⟩
    have fails : played.failure ≠ none :=
      plays.bindAll_error prettyJson (fun i => playAll prettyJson i s.updates) mem unresolved
    exact ⟨iff_of_false fails fun both => resolves both.1, fun succeeds => absurd succeeds fails⟩

/-- A scene is watched to its end just if it works, and then the lines are those of the replay. -/
theorem watch_spec (s : Scene) (filters : FilterSet) : let watched := watchScene s filters prettyJson
    (watched.failure = none ↔ s.Works) ∧
      (watched.failure = none → s.replay? filters prettyJson = some watched.lines) := by
  intro watched
  cases ordered : Ownership.creationOrder s.views with
  | error e =>
      have fails : watched.failure ≠ none := by
        simp only [watched, watchScene, instantiate_error filters ordered]
        exact nofun
      refine ⟨iff_of_false fails fun works => ?_, fun succeeds => absurd succeeds fails⟩
      obtain ⟨order, isOrder⟩ := works.ordered
      rw [ordered] at isOrder
      cases isOrder
  | ok order =>
      obtain ⟨i, instantiated, plays⟩ := instantiate_ok filters ordered
      obtain ⟨ends, isReplayed⟩ := plays.bindAll_spec prettyJson
      have works : s.Works ↔
          (∀ b ∈ s.bindings, s.Resolves b) ∧ ∀ u ∈ s.updates, s.views.contains u.view :=
        ⟨fun h => ⟨h.bound, h.updated⟩, fun h => ⟨⟨order, ordered⟩, h.1, h.2⟩⟩
      rw [works, ← ends]
      simp only [watched, watchScene, instantiated]
      split
      · next failed =>
        exact ⟨Iff.rfl, fun succeeds => nomatch failed.symm.trans succeeds⟩
      · next succeeds =>
        exact ⟨iff_of_true succeeds succeeds, fun _ => isReplayed succeeds⟩

end Scene

/-- The lines of a scene that is watched to its end are those of the replay. -/
theorem watch_replays (s : Scene) (filters : FilterSet) (prettyJson : Bool)
    (succeeds : (watchScene s filters prettyJson).failure = none) :
    s.replay? filters prettyJson = some (watchScene s filters prettyJson).lines :=
  (Scene.watch_spec prettyJson s filters).2 succeeds

example : Scene.replay? ⟨"page", none, none,
      .ofList [("app", ⟨none, .ofList [("title", .string "a")], .ofList []⟩),
        ("page", ⟨some "app", .ofList [], .ofList []⟩)],
      [⟨"page", "<{{title|upper}}>"⟩, ⟨"app", "{{title}}"⟩],
      [.set "page" "title" (.bool true), .set "app" "title" (.bool false), .destroy "page",
        .set "app" "title" .null]⟩ .builtin false =
    some ["[page] <{{title|upper}}> => <A>", "[app] {{title}} => a", "-- set page.title = true",
      "-- set app.title = false", "[page] <{{title|upper}}> => <false>", "[app] {{title}} => false",
      "-- destroy page", "-- set app.title = null", "[app] {{title}} => null",
      "Scene 'page': 2 binding(s), 4 update(s)"] := by
  decide +kernel

/-- A view and its owner, with a template on each.  A key of the owner is shadowed after the templates were
bound, and set; then the owner is destroyed, and the key is set again. -/
def shadowedScene : Scene where
  name := "shadow"
  description := none
  filters := none
  views := .ofList [
    ("app", ⟨none, .ofList [("title", .string "a"), ("user", .string "u")], .ofList []⟩),
    ("page", ⟨some "app", .ofList [("user", .string "p")], .ofList []⟩)]
  bindings := [⟨"page", "{{title}}/{{user}}"⟩, ⟨"app", "{{title|upper}}"⟩]
  updates := [.set "page" "title" (.string "x"), .set "app" "user" (.string "v"),
    .set "app" "title" (.string "b"), .destroy "app", .set "app" "title" (.string "c")]

theorem watch_replays_shadowedScene :
    (watchScene shadowedScene .builtin false).failure = none ∧
      shadowedScene.replay? .builtin false = some (watchScene shadowedScene .builtin false).lines :=
  ⟨by decide +kernel, watch_replays shadowedScene .builtin false (by decide +kernel)⟩

end LiveTemplate
