import LiveTemplate.Proofs.World.Keepers
import LiveTemplate.Proofs.World.References

/-!
The changes that steps make to a world.  A step is a sequence of changes with user code in between, so what
every change preserves holds wherever user code runs.  Three operations are not among these changes: storing
a value, which runs user code at once, and the steps of a program that subscribe, unsubscribe and register,
which are told apart because accounts are kept of them.

Whatever a change does, it does one of three things: it lets go of something that was held, which may
release bindings; or it adds things that nothing refers to yet; or it makes one binding.
-/

namespace LiveTemplate.World

/-- What a new binding is made from: a source with a value for each identifier of the template, a registry
that was made, and a callback that no other binding has. -/
structure Bindable (w : World) (template : Template) (registry : RegistryId) (sources : Sources)
    (listener : ListenerId) : Prop where
  identified : sources.map Prod.fst = template.identifiers
  present : ∀ p ∈ sources, ((w.container p.2).values.find? p.1).isSome
  hasRegistry : registry < w.registries.size
  hasListener : listener < w.listeners.size
  unshared : ∀ b < w.bindings.size, (w.binding b).listener ≠ listener

/-- One change.  A binding is made and given to its keeper in a single change, as no user code runs in
between. -/
inductive Change (w : World) : World → Prop where
  | addType (name : String) : Change w (w.addType name).2
  | install {t : TypeId} {plugin : Plugin Step} {w' : World} (done : w.usePlugin t plugin = .ok w')
      (fresh : plugin.registersFilter = false) : Change w w'
  | addView (type : TypeId) (name : Option String) (state props : OrderedMap Value)
      {owner : Option ViewId} (made : ∀ o, owner = some o → o < w.views.size) :
      Change w (w.addView type name state props owner).2
  | addContainer (values : OrderedMap Value) : Change w (w.addContainer values).2
  | addListener (label : String) (reactions : List (Reaction Step)) :
      Change w (w.addListener label reactions).2
  | countListenerCall (l : ListenerId) : Change w (w.countListenerCall l)
  | countFilterCall (f : FilterId) : Change w (w.countFilterCall f)
  | hold {handles : Handles} (views : handles.views = w.handles.views)
      (bindings : handles.bindings = w.handles.bindings)
      (subscriptions : handles.subscriptions = w.handles.subscriptions)
      (states : ∀ c ∈ handles.states.values, c ∈ w.handles.states.values ∨ c < w.containers.size) :
      Change w { w with handles := handles }
  | holdView (handle : String) {v : ViewId} (made : v < w.views.size) :
      Change w (w.holdView handle v)
  | dropView (handle : String) : Change w (w.dropView handle)
  | pinView (v : ViewId) : Change w (w.pinView v)
  | unpinView : Change w w.unpinView
  | pinContainers (cs : List ContainerId) : Change w (w.pinContainers cs)
  | unpinContainers (count : Nat) : Change w (w.unpinContainers count)
  | destroy (v : ViewId) : Change w (w.destroy v)
  | release (b : BindingId) : Change w (w.release b)
  | dropBinding (handle : String) : Change w (w.dropBinding handle)
  | bindOnView {template : Template} {registry : RegistryId} (viewLabel : String)
      {sources : Sources} {listener : ListenerId}
      (bindable : w.Bindable template registry sources listener) {v : ViewId}
      (made : v < w.views.size) (alive : w.isAlive v) :
      Change w (((w.addBinding template registry viewLabel sources listener).2.unpinContainers
        sources.length).recordBinding v w.bindings.size)
  | bindUnderHandle {template : Template} {registry : RegistryId} (viewLabel : String)
      {sources : Sources} {listener : ListenerId}
      (bindable : w.Bindable template registry sources listener) (handle : String) :
      Change w (((w.addBinding template registry viewLabel sources listener).2.unpinContainers
        sources.length).holdBinding handle w.bindings.size)

variable {w w' : World}

/-- A change of what is held, which may release bindings. -/
structure LetsGo (w w' : World) : Prop where
  releases : ∃ bs, Releases w bs w'
  subscriptions : w'.handles.subscriptions = w.handles.subscriptions
  heldViews : ∀ v ∈ w'.handles.views.values, v ∈ w.handles.views.values ∨ v < w'.views.size
  heldStates : ∀ c ∈ w'.handles.states.values,
    c ∈ w.handles.states.values ∨ c < w'.containers.size
  heldBindings : ∀ b ∈ w'.handles.bindings.values,
    b ∈ w.handles.bindings.values ∨ b < w'.bindings.size

/-- Things are added that nothing refers to yet. -/
structure Adds (w w' : World) : Prop where
  grows : Grows w w'
  handles : w'.handles = w.handles
  bindings : w'.bindings = w.bindings
  subscribers : ∀ c, (w'.container c).subscribers = (w.container c).subscribers
  nextId : ∀ c, (w'.container c).nextId = (w.container c).nextId
  values : ∀ c < w.containers.size, (w'.container c).values = (w.container c).values
  older : ∀ v, w.views.size ≤ v → ∀ o, (w'.view v).owner = some o → o < v
  registries : KeepsRegistries w w'
  numbered : w.Numbered → w'.Numbered

/-- The containers of the sources were made. -/
theorem Bindable.made {template : Template} {registry : RegistryId} {sources : Sources}
    {listener : ListenerId} (bindable : w.Bindable template registry sources listener) :
    ∀ p ∈ sources, p.2 < w.containers.size :=
  fun p mem => lt_size_of_find? w (bindable.present p mem)

namespace LetsGo

/-- Handles are all that may differ, apart from what is released. -/
theorem of_handles_eq {bs : List BindingId} (releases : Releases w bs w')
    (handles : w'.handles = w.handles) : LetsGo w w' where
  releases := ⟨bs, releases⟩
  subscriptions := by rw [handles]
  heldViews v mem := by rw [handles] at mem; exact Or.inl mem
  heldStates c mem := by rw [handles] at mem; exact Or.inl mem
  heldBindings b mem := by rw [handles] at mem; exact Or.inl mem

/-- What lets go, one after the other, lets go. -/
theorem trans {w'' : World} (first : LetsGo w w') (second : LetsGo w' w'') : LetsGo w w'' := by
  obtain ⟨as, releasesFirst⟩ := first.releases
  obtain ⟨bs, releasesSecond⟩ := second.releases
  refine ⟨⟨_, releasesFirst.trans releasesSecond⟩,
    second.subscriptions.trans first.subscriptions, ?_, ?_, ?_⟩
  · intro v mem
    rw [releasesSecond.viewCount]
    rcases second.heldViews v mem with before | made
    · exact first.heldViews v before
    · rw [releasesSecond.viewCount] at made
      exact Or.inr made
  · intro c mem
    rw [releasesSecond.containerCount]
    rcases second.heldStates c mem with before | made
    · exact first.heldStates c before
    · rw [releasesSecond.containerCount] at made
      exact Or.inr made
  · intro b mem
    rw [releasesSecond.bindingCount]
    rcases second.heldBindings b mem with before | made
    · exact first.heldBindings b before
    · rw [releasesSecond.bindingCount] at made
      exact Or.inr made

/-- A handle that is put on a view is taken off another. -/
theorem holdView (handle : String) {v : ViewId} (made : v < w.views.size) :
    LetsGo w (w.holdView handle v) := by
  obtain ⟨bs, releases⟩ := holdView_releases w handle v
  have handles := handles_holdView w handle v
  refine ⟨⟨bs, releases⟩, by rw [handles], fun u mem => ?_, fun c mem => ?_, fun b mem => ?_⟩
  · rw [handles] at mem
    rw [releases.viewCount]
    rcases OrderedMap.mem_values_insert mem with new | old
    · rw [new]
      exact Or.inr made
    · exact Or.inl old
  · rw [handles] at mem
    exact Or.inl mem
  · rw [handles] at mem
    exact Or.inl mem

/-- Taking a handle off a view lets go of the view. -/
theorem dropView (handle : String) : LetsGo w (w.dropView handle) := by
  obtain ⟨bs, releases⟩ := dropView_releases w handle
  rcases handles_dropView w handle with erased | same
  · refine ⟨⟨bs, releases⟩, by rw [erased], fun u mem => ?_, fun c mem => ?_, fun b mem => ?_⟩
    · rw [erased] at mem
      exact Or.inl (OrderedMap.mem_values_erase mem)
    · rw [erased] at mem
      exact Or.inl mem
    · rw [erased] at mem
      exact Or.inl mem
  · exact of_handles_eq releases same

/-- A running call lets go of the view that it held last. -/
theorem unpinView : LetsGo w w.unpinView := by
  obtain ⟨bs, releases⟩ := unpinView_releases w
  exact of_handles_eq releases (handles_unpinView w)

/-- Taking a handle off a binding lets go of the binding. -/
theorem dropBinding (handle : String) : LetsGo w (w.dropBinding handle) := by
  have releases := dropBinding_releases w handle
  rcases handles_dropBinding w handle with erased | same
  · refine ⟨⟨_, releases⟩, by rw [erased], fun v mem => ?_, fun c mem => ?_, fun b mem => ?_⟩
    · rw [erased] at mem
      exact Or.inl mem
    · rw [erased] at mem
      exact Or.inl mem
    · rw [erased] at mem
      exact Or.inl (OrderedMap.mem_values_erase mem)
  · exact of_handles_eq releases same

/-- A handle that is put on a binding is taken off another. -/
theorem holdBinding (handle : String) {b : BindingId} (made : b < w.bindings.size) :
    LetsGo w (w.holdBinding handle b) := by
  have releases := holdBinding_releases w handle b
  have handles := (holdBinding_frame w handle b).1
  refine ⟨⟨_, releases⟩, by rw [handles], fun v mem => ?_, fun c mem => ?_, fun a mem => ?_⟩
  · rw [handles] at mem
    exact Or.inl mem
  · rw [handles] at mem
    exact Or.inl mem
  · rw [handles] at mem
    rw [releases.bindingCount]
    rcases OrderedMap.mem_values_insert mem with rfl | old
    · exact Or.inr made
    · exact Or.inl old

theorem recordBinding (v : ViewId) (b : BindingId) : LetsGo w (w.recordBinding v b) :=
  of_handles_eq (recordBinding_releases w v b) (recordBinding_frame w v b).1

theorem unpinContainers (count : Nat) : LetsGo w (w.unpinContainers count) :=
  of_handles_eq (.of_eq rfl rfl rfl rfl rfl rfl rfl) rfl

end LetsGo

namespace Adds

/-- Where no view was added, none has an owner that is not older. -/
private theorem older_of_views_eq (views : w'.views = w.views) (v : ViewId) (new : w.views.size ≤ v)
    (o : ViewId) (owned : (w'.view v).owner = some o) : o < v := by
  rw [view_of_le w' (views ▸ new)] at owned
  cases owned

/-- Registering filters adds them. -/
theorem equips (equips : Equips w w') (kept : KeepsRegistries w w') : Adds w w' := by
  obtain ⟨views, containers, _, bindings, handles, _⟩ := equips.same
  refine ⟨.of_equips equips, handles, bindings, fun c => ?_, fun c => ?_, fun c _ => ?_,
    older_of_views_eq views, kept, fun numbered => numbered.equips equips⟩ <;>
      simp only [container, containers]

/-- A view is added, whose owner was made before. -/
theorem addView (type : TypeId) (name : Option String) (state props : OrderedMap Value)
    {owner : Option ViewId} (made : ∀ o, owner = some o → o < w.views.size) :
    Adds w (w.addView type name state props owner).2 := by
  have lists : ∀ c, ((w.addView type name state props owner).2.container c).subscribers =
        (w.container c).subscribers ∧
      ((w.addView type name state props owner).2.container c).nextId =
        (w.container c).nextId := by
    intro c
    rw [container_addView]
    split
    · next new => rw [container_of_le w (Nat.le_of_eq new.symm)]; exact ⟨rfl, rfl⟩
    · exact ⟨rfl, rfl⟩
  refine ⟨.addView .., rfl, rfl, fun c => (lists c).1, fun c => (lists c).2, ?_, ?_,
    fun _ _ => rfl, fun numbered => numbered.addView ..⟩
  · intro c old
    rw [container_addView, if_neg (Nat.ne_of_lt old)]
  · intro v new o owned
    rw [view_addView] at owned
    split at owned
    · next last => rw [last]; exact made o owned
    · rw [view_of_le w new] at owned
      cases owned

theorem addContainer (values : OrderedMap Value) : Adds w (w.addContainer values).2 := by
  have lists : ∀ c, ((w.addContainer values).2.container c).subscribers =
        (w.container c).subscribers ∧
      ((w.addContainer values).2.container c).nextId = (w.container c).nextId := by
    intro c
    rw [container_addContainer]
    split
    · next new => rw [container_of_le w (Nat.le_of_eq new.symm)]; exact ⟨rfl, rfl⟩
    · exact ⟨rfl, rfl⟩
  refine ⟨.addContainer .., rfl, rfl, fun c => (lists c).1, fun c => (lists c).2, ?_,
    older_of_views_eq rfl, fun _ _ => rfl, fun numbered => numbered.addContainer _⟩
  intro c made
  rw [container_addContainer, if_neg (Nat.ne_of_lt made)]

/-- Only listeners and calls are added. -/
private theorem of_grows (grows : Grows w w') (handles : w'.handles = w.handles)
    (views : w'.views = w.views) (types : w'.types = w.types)
    (registries : w'.registries = w.registries) (bindings : w'.bindings = w.bindings)
    (containers : w'.containers = w.containers) : Adds w w' := by
  have same : ∀ c, w'.container c = w.container c := fun c => by rw [container, containers]; rfl
  refine ⟨grows, handles, bindings, fun c => by rw [same], fun c => by rw [same],
    fun c _ => by rw [same], older_of_views_eq views, fun r _ => by rw [registry, registries]; rfl,
    fun numbered => ?_⟩
  exact numbered.of_lists_eq grows handles views types registries bindings fun c => by rw [same]

theorem addListener (label : String) (reactions : List (Reaction Step)) :
    Adds w (w.addListener label reactions).2 :=
  of_grows (.addListener ..) rfl rfl rfl rfl rfl rfl

theorem countListenerCall (l : ListenerId) : Adds w (w.countListenerCall l) :=
  of_grows (.countListenerCall ..) rfl rfl rfl rfl rfl rfl

theorem countFilterCall (f : FilterId) : Adds w (w.countFilterCall f) :=
  of_grows (.countFilterCall ..) rfl rfl rfl rfl rfl rfl

end Adds

namespace Change

/-- Whatever a change does, it does one of three things. -/
theorem kinds (change : Change w w') :
    LetsGo w w' ∨ Adds w w' ∨
      ∃ template registry viewLabel sources listener,
        w.Bindable template registry sources listener ∧
          LetsGo (w.addBinding template registry viewLabel sources listener).2 w' := by
  cases change with
  | addType name =>
      exact Or.inr (Or.inl (.equips (.addType w name) fun _ _ => rfl))
  | install done fresh =>
      have equips := Equips.usePlugin done
      have kept : KeepsRegistries w w' := by
        intro q made
        apply (equips.2 q made).resolve_right
        simp only [fresh, Bool.false_eq_true, false_and, not_false_eq_true]
      exact Or.inr (Or.inl (.equips equips.1 kept))
  | addView _ _ _ _ made => exact Or.inr (Or.inl (.addView _ _ _ _ made))
  | addContainer => exact Or.inr (Or.inl (.addContainer ..))
  | addListener => exact Or.inr (Or.inl (.addListener ..))
  | countListenerCall => exact Or.inr (Or.inl (.countListenerCall _))
  | countFilterCall => exact Or.inr (Or.inl (.countFilterCall _))
  | hold views bindings subscriptions states =>
      refine Or.inl ⟨⟨_, .of_eq rfl rfl rfl rfl rfl rfl rfl⟩, subscriptions, ?_, states, ?_⟩
      · intro v mem
        exact Or.inl (views ▸ mem)
      · intro b mem
        exact Or.inl (bindings ▸ mem)
  | holdView handle made => exact Or.inl (.holdView handle made)
  | dropView => exact Or.inl (.dropView _)
  | pinView => exact Or.inl (.of_handles_eq (.of_eq rfl rfl rfl rfl rfl rfl rfl) rfl)
  | unpinView => exact Or.inl .unpinView
  | pinContainers => exact Or.inl (.of_handles_eq (.of_eq rfl rfl rfl rfl rfl rfl rfl) rfl)
  | unpinContainers => exact Or.inl (.unpinContainers _)
  | destroy v => exact Or.inl (.of_handles_eq (destroy_releases w v) (destroy_frame w v).1)
  | release b =>
      exact Or.inl (.of_handles_eq (release_releases w b) (release_frame w b).2.2.2.2.2.1)
  | dropBinding => exact Or.inl (.dropBinding _)
  | bindOnView viewLabel bindable =>
      exact Or.inr (Or.inr ⟨_, _, viewLabel, _, _, bindable,
        (LetsGo.unpinContainers _).trans (.recordBinding _ _)⟩)
  | @bindUnderHandle template registry viewLabel sources listener bindable handle =>
      obtain ⟨_, _, frame, _⟩ :=
        addBinding_spec template registry viewLabel sources listener w bindable.made
      refine Or.inr (Or.inr ⟨_, _, viewLabel, _, _, bindable,
        (LetsGo.unpinContainers _).trans (.holdBinding handle ?_)⟩)
      rw [World.unpinContainers, frame]
      exact Nat.lt_of_lt_of_eq (Nat.lt_succ_self _) (Array.size_push _).symm

/-- Whatever a change does, everything is still there. -/
theorem grows (change : Change w w') : Grows w w' := by
  rcases change.kinds with letsGo | adds | ⟨template, registry, viewLabel, sources, listener,
      bindable, letsGo⟩
  · obtain ⟨bs, releases⟩ := letsGo.releases
    exact .of_releases releases
  · exact adds.grows
  · obtain ⟨bs, releases⟩ := letsGo.releases
    exact (Grows.addBinding w template registry viewLabel listener bindable.made).trans
      (.of_releases releases)

/-- A change stores no values. -/
theorem values_eq (change : Change w w') {c : ContainerId} (made : c < w.containers.size) :
    (w'.container c).values = (w.container c).values := by
  rcases change.kinds with letsGo | adds | ⟨template, registry, viewLabel, sources, listener,
      bindable, letsGo⟩
  · obtain ⟨bs, releases⟩ := letsGo.releases
    simp only [releases.container, Container.values_keep]
  · exact adds.values c made
  · obtain ⟨bs, releases⟩ := letsGo.releases
    obtain ⟨_, _, _, _, _, lists⟩ :=
      addBinding_spec template registry viewLabel sources listener w bindable.made
    simp only [releases.container, Container.values_keep, (lists c).1]

/-- A change registers no filters in a registry that was there. -/
theorem keepsRegistries (change : Change w w') : KeepsRegistries w w' := by
  rcases change.kinds with letsGo | adds | ⟨template, registry, viewLabel, sources, listener,
      bindable, letsGo⟩
  · obtain ⟨bs, releases⟩ := letsGo.releases
    intro r _
    rw [World.registry, releases.registries]
    rfl
  · exact adds.registries
  · obtain ⟨bs, releases⟩ := letsGo.releases
    obtain ⟨_, _, frame, _⟩ :=
      addBinding_spec template registry viewLabel sources listener w bindable.made
    intro r _
    rw [World.registry, releases.registries, frame]
    rfl

/-- The lists stay in order through a change. -/
theorem subscribed (change : Change w w') (h : w.Subscribed) : w'.Subscribed := by
  rcases change.kinds with letsGo | adds | ⟨template, registry, viewLabel, sources, listener,
      bindable, letsGo⟩
  · obtain ⟨bs, releases⟩ := letsGo.releases
    exact h.releases releases
  · exact h.of_lists_eq (fun b => by rw [binding, adds.bindings]; rfl) adds.subscribers adds.nextId
      adds.grows.keys
  · obtain ⟨bs, releases⟩ := letsGo.releases
    exact (h.addBinding registry viewLabel listener bindable.identified bindable.present).releases
      releases

/-- All that is referred to was made, also after a change. -/
theorem numbered (change : Change w w') (h : w.Numbered) : w'.Numbered := by
  rcases change.kinds with letsGo | adds | ⟨template, registry, viewLabel, sources, listener,
      bindable, letsGo⟩
  · obtain ⟨bs, releases⟩ := letsGo.releases
    exact h.releases releases letsGo.heldViews letsGo.heldStates letsGo.heldBindings
  · exact adds.numbered h
  · obtain ⟨bs, releases⟩ := letsGo.releases
    exact (h.addBinding template viewLabel bindable.made bindable.hasRegistry
      bindable.hasListener bindable.unshared).releases releases letsGo.heldViews letsGo.heldStates
      letsGo.heldBindings

/-- The program has the subscriptions that it was given, also after a change. -/
theorem receipted (change : Change w w') (h : w.Receipted) : w'.Receipted := by
  apply h.of_grows change.grows
  rcases change.kinds with letsGo | adds | ⟨template, registry, viewLabel, sources, listener,
      bindable, letsGo⟩
  · exact letsGo.subscriptions
  · rw [adds.handles]
  · obtain ⟨_, _, frame, _⟩ :=
      addBinding_spec template registry viewLabel sources listener w bindable.made
    rw [letsGo.subscriptions, frame]

/-- A binding that was made and is given to nobody yet. -/
theorem loose {template : Template} {registry : RegistryId} (viewLabel : String)
    {sources : Sources} {listener : ListenerId}
    (bindable : w.Bindable template registry sources listener) :
    Kept.Loose w ((w.addBinding template registry viewLabel sources listener).2.unpinContainers
      sources.length) := by
  obtain ⟨_, _, frame, _, bindings, _⟩ :=
    addBinding_spec template registry viewLabel sources listener w bindable.made
  refine ⟨?_, ?_, ?_, ?_, ?_⟩
  · rw [World.unpinContainers, frame]
  · rw [World.unpinContainers, frame]
  · rw [World.unpinContainers, frame]
  · rw [World.unpinContainers, frame]
    exact Array.size_push _
  · intro b other
    exact (bindings b).trans (if_neg other)

/-- Every active binding has a keeper, also after a change. -/
theorem kept (change : Change w w') (h : w.Kept) : w'.Kept := by
  cases change with
  | addType => exact h.of_same rfl rfl rfl rfl rfl
  | install done fresh =>
      obtain ⟨views, _, _, bindings, handles, pinned, _⟩ := (Equips.usePlugin done).1.same
      exact h.of_same views (by rw [handles]) pinned bindings (by rw [handles])
  | addView => exact h.addView ..
  | addContainer => exact h.of_same rfl rfl rfl rfl rfl
  | addListener => exact h.of_same rfl rfl rfl rfl rfl
  | countListenerCall => exact h.of_same rfl rfl rfl rfl rfl
  | countFilterCall => exact h.of_same rfl rfl rfl rfl rfl
  | hold views bindings subscriptions states => exact h.of_same rfl views rfl rfl bindings
  | holdView handle made => exact h.holdView handle _
  | dropView => exact h.dropView _
  | pinView => exact h.pinView _
  | unpinView => exact h.unpinView
  | pinContainers => exact h.of_same rfl rfl rfl rfl rfl
  | unpinContainers => exact h.of_same rfl rfl rfl rfl rfl
  | destroy => exact h.destroy _
  | release => exact h.release _
  | dropBinding => exact h.dropBinding _
  | bindOnView viewLabel bindable made alive =>
      exact h.recordBinding (loose viewLabel bindable) made alive
  | bindUnderHandle viewLabel bindable handle =>
      exact h.holdBinding (loose viewLabel bindable) handle

/-- Making a binding gives it to no view yet. -/
theorem view_addBinding {template : Template} {registry : RegistryId} (viewLabel : String)
    {sources : Sources} {listener : ListenerId}
    (bindable : w.Bindable template registry sources listener) (v : ViewId) :
    ((w.addBinding template registry viewLabel sources listener).2.unpinContainers sources.length).view v =
      w.view v := by
  simp only [view, (loose viewLabel bindable).views]

/-- Views keep their bindings through a change. -/
theorem keeps (change : Change w w') : Keeps w w' := by
  cases change with
  | addType => exact .of_views_eq rfl
  | install done fresh => exact .of_views_eq (Equips.usePlugin done).1.same.1
  | addView => exact .addView w _ _ _ _ _
  | addContainer => exact .of_views_eq rfl
  | addListener => exact .of_views_eq rfl
  | countListenerCall => exact .of_views_eq rfl
  | countFilterCall => exact .of_views_eq rfl
  | hold => exact .of_views_eq rfl
  | holdView handle made => exact .holdView w handle _
  | dropView handle => exact .dropView w handle
  | pinView => exact .of_views_eq rfl
  | unpinView => exact .unpinView w
  | pinContainers => exact .of_views_eq rfl
  | unpinContainers => exact .of_views_eq rfl
  | destroy v => exact .destroy w v
  | release b => exact .of_views_eq (release_frame w b).2.2.2.1
  | dropBinding handle => exact .dropBinding w handle
  | bindOnView viewLabel bindable =>
      intro u b old _
      rw [← view_addBinding viewLabel bindable]
      constructor
      · intro mem
        apply (mem_bindings_recordBinding mem).resolve_right
        rintro ⟨new, _⟩
        exact Nat.ne_of_lt old new
      · exact mem_bindings_of_recordBinding _ _
  | bindUnderHandle viewLabel bindable handle =>
      intro u b _ _
      rw [← view_addBinding viewLabel bindable, view, views_holdBinding]
      rfl

end Change

end LiveTemplate.World
