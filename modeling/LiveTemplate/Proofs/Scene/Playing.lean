import LiveTemplate.Proofs.Run.Accounts
import LiveTemplate.Proofs.Scene.Acting
import LiveTemplate.Proofs.Scene.Stage
import Mathlib.Data.List.Sort

/-!
A scene that is being played.  Its views hold what was stored in them, some of them were destroyed, and the
bindings of the world are the templates that were bound, in the order in which they were bound, each with the
sources that the declarations give.  One lemma for each way in which such a world goes on says that it stays
one; and whoever sets a key tells exactly the templates that read it, in that order.
-/

namespace LiveTemplate

/-- The binding that a subscription evaluates. -/
def Handler.binding? : Handler → Option BindingId
  | .listener _ => none
  | .binding b => some b

theorem binding?_eq_some {handler : Handler} {b : BindingId} :
    handler.binding? = some b ↔ handler = .binding b := by
  cases handler <;> simp [Handler.binding?]

/-- What stands at places that ascend, if these are the places of what passes a test. -/
private theorem filterMap_getElem?_of_sorted {α : Type} {xs : List α} {p : α → Bool} {places : List Nat}
    (ascending : places.Pairwise (· < ·)) (all : ∀ n, n ∈ places ↔ ∃ x, xs[n]? = some x ∧ p x) :
    places.filterMap (xs[·]?) = xs.filter p := by
  have isRange : places = (List.range xs.length).filter fun n => (xs[n]?).any p := by
    refine ascending.eq_of_mem_iff (List.pairwise_lt_range.filter _) fun n => ?_
    rw [all, List.mem_filter, List.mem_range, Option.any_eq_true]
    constructor
    · rintro ⟨x, found, passes⟩
      exact ⟨(List.getElem?_eq_some_iff.mp found).1, x, found, passes⟩
    · exact fun found => found.2
  have range : (List.range xs.length).map (xs[·]?) = xs.map some := by
    apply List.ext_getElem?
    intro n
    by_cases inside : n < xs.length <;> simp [inside]
  calc places.filterMap (xs[·]?)
      = ((List.range xs.length).map (xs[·]?)).filterMap (Option.filter p) := by
        rw [isRange, List.filterMap_filter, List.filterMap_map]
        congr 1
        funext n
        cases found : xs[n]? <;> simp [found, Option.filter]
    _ = xs.filter p := by
        rw [range, List.filterMap_map, ← List.filterMap_eq_filter]
        rfl

namespace World

variable {w w' : World}

/-- What is left behind when a binding was made and given to a view that was not destroyed. -/
structure Bound (w : World) (v : ViewId) (x : Binding) (w' : World) : Prop where
  types : w'.types = w.types
  registries : w'.registries = w.registries
  filters : w'.filters = w.filters
  listeners : w'.listeners = w.listeners
  handles : w'.handles = w.handles
  viewCount : w'.views.size = w.views.size
  bindingCount : w'.bindings.size = w.bindings.size + 1
  view : ∀ u, w'.view u =
    if u = v then { w.view v with bindings := (w.view v).bindings ++ [w.bindings.size] } else w.view u
  binding : ∀ b, w'.binding b = if b = w.bindings.size then x else w.binding b
  values : ∀ c, (w'.container c).values = (w.container c).values
  subscribers : ∀ c, (w'.container c).subscribers =
    (w.container c).subscribers ++ entriesOf w.bindings.size x.sources x.subscriptions c
  /-- No two of the new entries in a list are about the same key. -/
  keys : ∀ c, (entriesOf w.bindings.size x.sources x.subscriptions c).Pairwise fun s t => s.key ≠ t.key

theorem bindOnView_spec {template : Template} {q : RegistryId} {sources : Sources} {l : ListenerId}
    (bindable : w.Bindable template q sources l) {v : ViewId} (made : v < w.views.size)
    (alive : (w.view v).isDestroyed = false) (viewLabel : String) :
    ∃ subscriptions w', w' = ((w.addBinding template q viewLabel sources l).2.unpinContainers
        sources.length).recordBinding v w.bindings.size ∧
      Bound w v ⟨template, q, viewLabel, sources, subscriptions, true, l⟩ w' := by
  obtain ⟨subscriptions, matched, frame, _, bindings, lists⟩ :=
    addBinding_spec template q viewLabel sources l w bindable.made
  generalize (w.addBinding template q viewLabel sources l).2 = w₁ at *
  have views : (w₁.unpinContainers sources.length).views = w.views := by rw [unpinContainers, frame]
  have view : ∀ u, (w₁.unpinContainers sources.length).view u = w.view u := fun u => by
    rw [World.view, views]; rfl
  refine ⟨subscriptions, _, rfl, ?_⟩
  rw [recordBinding, view, alive, if_neg Bool.false_ne_true]
  constructor
  · rw [frame]; rfl
  · rw [frame]; rfl
  · rw [frame]; rfl
  · rw [frame]; rfl
  · rw [frame]; rfl
  · rw [modifyView, Array.size_modify, views]
  · rw [frame]
    exact Array.size_push _
  · intro u
    rw [view_modifyView, view, view, views]
    simp only [made, and_true]
  · exact bindings
  · exact fun c => (lists c).1
  · exact fun c => (lists c).2.2.2.1
  · intro c
    have sameLength : sources.length = subscriptions.length := by
      simpa using (congrArg List.length matched).symm
    have nodup : ((entriesOf w.bindings.size sources subscriptions c).map (·.key)).Nodup := by
      rw [map_key_entriesOf c sameLength]
      have identifiers := bindable.identified ▸ Template.nodup_identifiers template
      exact identifiers.sublist (List.filter_sublist.map _)
    exact List.pairwise_map.mp nodup

end World

namespace Scene

/-- A binding of a world is a bound template of a scene. -/
structure Carries (s : Scene) (q : RegistryId) (destroyed : List String) (w : World) (n : BindingId)
    (b : BindingSpec) : Prop where
  declared : s.views.contains b.view
  template : (w.binding n).template = Template.parse b.template
  registry : (w.binding n).registry = q
  /-- The sources are those of the declarations. -/
  sources : ∀ x ∈ (Template.parse b.template).identifiers,
    (w.binding n).sources.lookup x = (s.source? b.view x).bind w.handles.views.find?
  active : (w.binding n).isActive = !destroyed.contains b.view
  label : (w.listener (w.binding n).listener).label = bindingLabel b

/-- A scene is being played in a world. -/
structure Plays (s : Scene) (filters : FilterSet) (q : RegistryId) (h : Holdings)
    (destroyed : List String) (bound : List BindingSpec) (w : World) : Prop where
  cast : s.Cast filters q w
  sound : w.Sound
  held : h.HeldIn w
  ended : ∀ name v, w.handles.views.find? name = some v →
    (w.view v).isDestroyed = destroyed.contains name
  count : w.bindings.size = bound.length
  carried : ∀ (n : BindingId) b, bound[n]? = some b → s.Carries q destroyed w n b
  /-- A view that was not destroyed keeps the templates that were bound on it. -/
  kept : ∀ name v, w.handles.views.find? name = some v → ∀ n, n ∈ (w.view v).bindings ↔
    destroyed.contains name = false ∧ ∃ b, bound[n]? = some b ∧ b.view = name
  /-- Nobody but bindings has subscribed. -/
  handlers : ∀ c, ∀ x ∈ (w.container c).subscribers, ∃ n, x.handler = .binding n
  /-- Those that are told of a key stand in the order in which they were bound, each once. -/
  sorted : ∀ c, (w.container c).subscribers.Pairwise fun x y =>
    x.key = y.key → ∀ a b, x.handler = .binding a → y.handler = .binding b → a < b

variable {s : Scene} {filters : FilterSet} {q : RegistryId} {h : Holdings} {destroyed : List String}
variable {bound : List BindingSpec} {w w' : World}

theorem isTold_iff {view key : String} {b : BindingSpec} : s.isTold destroyed view key b ↔
    destroyed.contains b.view = false ∧ key ∈ (Template.parse b.template).identifiers ∧
      s.source? b.view key = some view := by
  simp [isTold, and_assoc]

/-- The views of a scene stay where views keep what they were made with. -/
theorem Cast.of_core (cast : s.Cast filters q w)
    (handles : w'.handles.views.find? = w.handles.views.find?) (types : w'.types = w.types)
    (count : w'.views.size = w.views.size) (core : ∀ v, (w'.view v).core = (w.view v).core)
    (pass : w'.pass q = w.pass q) (quiet : w'.FiltersQuiet) : s.Cast filters q w' where
  count := count.trans cast.count
  found name := by rw [handles]; exact cast.found name
  made name v found := by
    rw [count]
    rw [handles] at found
    exact cast.made name v found
  injective name other v found found' := by
    rw [handles] at found found'
    exact cast.injective name other v found found'
  state v made := by
    rw [count] at made
    exact (congrArg View.state (core v)).trans (cast.state v made)
  registry v made := by
    rw [count] at made
    have type : (w'.view v).type = (w.view v).type := (congrArg View.type (core v) :)
    rw [World.typeOf, type, World.type, types]
    exact cast.registry v made
  owner name v found := by
    rw [handles] at found ⊢
    exact (congrArg View.owner (core v)).trans (cast.owner name v found)
  older name v found owner owns := by
    rw [handles] at found ⊢
    exact cast.older name v found owner owns
  pass := pass.trans cast.pass
  quiet := quiet

/-- The views of a scene stay where, besides, the filters and the registries are as they were. -/
theorem Cast.of_frame (cast : s.Cast filters q w) (handles : w'.handles = w.handles)
    (types : w'.types = w.types) (registries : w'.registries = w.registries)
    (transforms : w'.filters = w.filters) (count : w'.views.size = w.views.size)
    (core : ∀ v, (w'.view v).core = (w.view v).core) : s.Cast filters q w' := by
  have filter : ∀ f, w'.filter f = w.filter f := fun f => by rw [World.filter, transforms]; rfl
  apply cast.of_core (by rw [handles]) types count core
  · exact World.pass_congr (by rw [World.registry, registries]; rfl) fun _ f _ => by rw [filter]
  · intro f made
    rw [filter]
    exact cast.quiet f (transforms ▸ made)

/-- Views are the same just if their names are. -/
theorem Cast.eq_iff (cast : s.Cast filters q w) {name other : String} {u v : ViewId}
    (found : w.handles.views.find? name = some u) (isOther : w.handles.views.find? other = some v) :
    u = v ↔ name = other := by
  constructor
  · rintro rfl
    exact cast.injective name other u found isOther
  · rintro rfl
    exact Option.some.inj (found.symm.trans isOther)

/-- What a template is composed to from sources that the declarations give. -/
theorem Cast.compose_eq (cast : s.Cast filters q w) (held : h.HeldIn w) {b : BindingSpec}
    (declared : s.views.contains b.view) {sources : Sources}
    (given : ∀ x ∈ (Template.parse b.template).identifiers,
      sources.lookup x = (s.source? b.view x).bind w.handles.views.find?) :
    (Template.parse b.template).compose (w.valueIn sources) (w.pass q) = s.valueOf? filters h b := by
  apply Template.compose_congr cast.pass
  intro x mem
  rw [World.valueIn, given x mem]
  cases isSource : s.source? b.view x with
  | none => rfl
  | some name =>
      obtain ⟨v, isView⟩ := Option.isSome_iff_exists.mp ((cast.found b.view).trans declared)
      have onPath : name ∈ s.path b.view := List.mem_of_find?_eq_some isSource
      obtain ⟨u, found⟩ := Option.isSome_iff_exists.mp (cast.found_of_mem_path isView onPath)
      simp only [Option.bind_some, found, held name u found]

/-- Sources that are looked up while the views hold what they declare are those of the declarations. -/
theorem Cast.lookup_eq (cast : s.Cast filters q w) (held : s.declared.HeldIn w) {name : String} {v : ViewId}
    (found : w.handles.views.find? name = some v) {identifiers : List String} {sources : Sources}
    (resolved : w.resolveAll v identifiers = .ok sources) {x : String} (mem : x ∈ identifiers) :
    sources.lookup x = (s.source? name x).bind w.handles.views.find? := by
  rw [← (World.resolveAll_spec resolved).1] at mem
  obtain ⟨c, isSource, inSources⟩ := World.exists_lookup mem
  rw [isSource, ← cast.resolve held found x]
  exact ((World.resolveAll_eq_ok_iff.mp resolved).2 _ inSources).symm

/-- A binding goes on carrying its template, or is over, where nothing else of it has changed. -/
theorem Carries.of_released_eq {n : BindingId} {b : BindingSpec} (carried : s.Carries q destroyed w n b)
    {destroyed' : List String} (same : (w'.binding n).released = (w.binding n).released)
    (handles : w'.handles.views.find? = w.handles.views.find?)
    (label : (w'.listener (w.binding n).listener).label = (w.listener (w.binding n).listener).label)
    (active : (w'.binding n).isActive = !destroyed'.contains b.view) :
    s.Carries q destroyed' w' n b where
  declared := carried.declared
  template := (congrArg Binding.template same :).trans carried.template
  registry := (congrArg Binding.registry same :).trans carried.registry
  sources := by
    have sources : (w'.binding n).sources = (w.binding n).sources := (congrArg Binding.sources same :)
    rw [sources, handles]
    exact carried.sources
  active := active
  label := by
    have listener : (w'.binding n).listener = (w.binding n).listener := (congrArg Binding.listener same :)
    rw [listener, label]
    exact carried.label

namespace Plays

theorem made (plays : s.Plays filters q h destroyed bound w) {n : BindingId} {b : BindingSpec}
    (isBound : bound[n]? = some b) : n < w.bindings.size :=
  plays.count ▸ (List.getElem?_eq_some_iff.mp isBound).1

/-- The composition of a binding is the value of its template. -/
theorem composed_eq (plays : s.Plays filters q h destroyed bound w) {n : BindingId} {b : BindingSpec}
    (isBound : bound[n]? = some b) : w.composed n = s.valueOf? filters h b := by
  have carried := plays.carried n b isBound
  rw [World.composed, carried.template, carried.registry]
  exact plays.cast.compose_eq plays.held carried.declared carried.sources

/-- A scene is played on where its views, what they hold and its bindings are the same. -/
theorem of_same (plays : s.Plays filters q h destroyed bound w) (sound : w'.Sound)
    (handles : w'.handles.views.find? = w.handles.views.find?) (types : w'.types = w.types)
    (views : w'.views = w.views) (containers : w'.containers = w.containers)
    (bindings : w'.bindings = w.bindings)
    (labels : ∀ l < w.listeners.size, (w'.listener l).label = (w.listener l).label)
    (pass : w'.pass q = w.pass q) (quiet : w'.FiltersQuiet) : s.Plays filters q h destroyed bound w' := by
  have view : ∀ v, w'.view v = w.view v := fun v => by rw [World.view, views]; rfl
  have container : ∀ c, w'.container c = w.container c := fun c => by rw [World.container, containers]; rfl
  have binding : ∀ n, w'.binding n = w.binding n := fun n => by rw [World.binding, bindings]; rfl
  constructor
  · exact plays.cast.of_core handles types (by rw [views]) (fun v => by rw [view]) pass quiet
  · exact sound
  · intro name v found
    rw [handles] at found
    rw [container]
    exact plays.held name v found
  · intro name v found
    rw [handles] at found
    rw [view]
    exact plays.ended name v found
  · rw [bindings]
    exact plays.count
  · intro n b isBound
    have carried := plays.carried n b isBound
    have listener := (plays.sound.numbered.bound n (plays.made isBound)).2
    apply carried.of_released_eq (by rw [binding]) handles (labels _ listener)
    rw [binding]
    exact carried.active
  · intro name v found n
    rw [handles] at found
    rw [view]
    exact plays.kept name v found n
  · intro c
    rw [container]
    exact plays.handlers c
  · intro c
    rw [container]
    exact plays.sorted c

/-- Nothing changes while the world stands still. -/
theorem idles (plays : s.Plays filters q h destroyed bound w) (idles : World.Idles w w') :
    s.Plays filters q h destroyed bound w' := by
  obtain ⟨types, _, views, containers, bindings, handles, _⟩ := idles.same
  apply plays.of_same (idles.sound plays.sound) (by rw [handles]) types views containers bindings
  · exact fun l made => (idles.grows.listener l made).1
  · exact idles.pass_eq plays.sound q
  · exact idles.quiet plays.cast.quiet

/-- A value was stored in a view. -/
theorem store (plays : s.Plays filters q h destroyed bound w) {view : String} {v : ViewId}
    (found : w.handles.views.find? view = some v) (key : String) (value : Value) :
    s.Plays filters q (h.store view key value) destroyed bound (w.store v key value) := by
  have lists : ∀ c, ((w.store v key value).container c).subscribers = (w.container c).subscribers := by
    intro c
    rw [World.container_store]
    split
    · next here => rw [here.1]
    · rfl
  have made : v < w.containers.size := by
    have isView := plays.cast.made view v found
    exact plays.cast.state v isView ▸ plays.sound.numbered.stated v isView
  constructor
  · exact plays.cast.of_frame rfl rfl rfl rfl rfl fun _ => rfl
  · exact plays.sound.store v key value
  · intro name u isFound
    have isView := plays.cast.eq_iff isFound found
    rw [World.container_store, Holdings.store]
    by_cases here : u = v
    · have same := isView.mp here
      rw [if_pos ⟨here, made⟩, if_pos same, same, ← plays.held view v found]
    · rw [if_neg fun both => here both.1, if_neg (here ∘ isView.mpr)]
      exact plays.held name u isFound
  · exact plays.ended
  · exact plays.count
  · intro n b isBound
    have carried := plays.carried n b isBound
    exact carried.of_released_eq rfl rfl rfl carried.active
  · exact plays.kept
  · intro c
    rw [lists]
    exact plays.handlers c
  · intro c
    rw [lists]
    exact plays.sorted c

/-- A view was destroyed, and its templates with it. -/
theorem destroy (plays : s.Plays filters q h destroyed bound w) {view : String} {v : ViewId}
    (found : w.handles.views.find? view = some v) :
    s.Plays filters q h (view :: destroyed) bound (w.destroy v) := by
  have made := plays.cast.made view v found
  have handles : (w.destroy v).handles = w.handles := (World.destroy_frame w v).1
  obtain ⟨releases, views⟩ := plays.sound.kept.destroy_spec made
  have contains : ∀ name, (view :: destroyed).contains name =
      (decide (name = view) || destroyed.contains name) := by
    intro name
    simp
  have lists : ∀ c, ∃ p, ((w.destroy v).container c).subscribers = (w.container c).subscribers.filter p := by
    intro c
    exact ⟨_, congrArg Container.subscribers (releases.container c)⟩
  constructor
  · exact plays.cast.of_frame handles releases.types releases.registries releases.filters
      releases.viewCount fun u => (releases.view u).1
  · exact plays.sound.change (.destroy v)
  · intro name u isFound
    rw [handles] at isFound
    rw [releases.container, Container.values_keep]
    exact plays.held name u isFound
  · intro name u isFound
    rw [handles] at isFound
    have isView := plays.cast.eq_iff isFound found
    rw [views, contains, ← plays.ended name u isFound]
    by_cases here : u = v
    · rw [if_pos here, decide_eq_true (isView.mp here)]
      rfl
    · rw [if_neg here, decide_eq_false (here ∘ isView.mpr)]
      rfl
  · exact releases.bindingCount.trans plays.count
  · intro n b isBound
    have carried := plays.carried n b isBound
    have ours : n ∈ (w.view v).bindings ↔ destroyed.contains view = false ∧ b.view = view := by
      rw [plays.kept view v found n, isBound]
      simp
    apply carried.of_released_eq
    · rw [releases.binding]
      split <;> rfl
    · rw [handles]
    · rw [World.listener, releases.listeners]
      rfl
    · rw [releases.binding, contains]
      split
      · next released =>
        rw [decide_eq_true (ours.mp released).2]
        rfl
      · next stays =>
        rw [carried.active]
        by_cases here : b.view = view
        · have gone : destroyed.contains view = true := by
            by_contra alive
            exact stays (ours.mpr ⟨by simpa using alive, here⟩)
          rw [here, gone, Bool.or_true]
        · rw [decide_eq_false here, Bool.false_or]
  · intro name u isFound n
    rw [handles] at isFound
    have isView := plays.cast.eq_iff isFound found
    rw [views, contains]
    by_cases here : u = v
    · rw [if_pos here, decide_eq_true (isView.mp here)]
      simp
    · rw [if_neg here, decide_eq_false (here ∘ isView.mpr)]
      exact plays.kept name u isFound n
  · intro c x mem
    obtain ⟨p, list⟩ := lists c
    rw [list] at mem
    exact plays.handlers c x (List.mem_filter.mp mem).1
  · intro c
    obtain ⟨p, list⟩ := lists c
    rw [list]
    exact (plays.sorted c).filter p

/-- One more template was bound. -/
theorem bind (plays : s.Plays filters q h destroyed bound w) {b : BindingSpec} {v : ViewId}
    (found : w.handles.views.find? b.view = some v) (alive : destroyed.contains b.view = false)
    {sources : Sources} {l : ListenerId} (bindable : w.Bindable (Template.parse b.template) q sources l)
    (given : ∀ x ∈ (Template.parse b.template).identifiers,
      sources.lookup x = (s.source? b.view x).bind w.handles.views.find?)
    (label : (w.listener l).label = bindingLabel b) (viewLabel : String) :
    s.Plays filters q h destroyed (bound ++ [b])
      (((w.addBinding (Template.parse b.template) q viewLabel sources l).2.unpinContainers
        sources.length).recordBinding v w.bindings.size) := by
  have made := plays.cast.made b.view v found
  have isAlive : (w.view v).isDestroyed = false := (plays.ended b.view v found).trans alive
  have sound := plays.sound.change (.bindOnView viewLabel bindable made (World.isAlive_of_find? found))
  obtain ⟨subscriptions, w', isBound, after⟩ := World.bindOnView_spec bindable made isAlive viewLabel
  rw [← isBound] at sound ⊢
  have listener : ∀ l, w'.listener l = w.listener l := fun l => by rw [World.listener, after.listeners]; rfl
  constructor
  · apply plays.cast.of_frame after.handles after.types after.registries after.filters after.viewCount
    intro u
    rw [after.view]
    split
    · next here => rw [here]; rfl
    · rfl
  · exact sound
  · intro name u isFound
    rw [after.handles] at isFound
    rw [after.values]
    exact plays.held name u isFound
  · intro name u isFound
    rw [after.handles] at isFound
    rw [after.view, ← plays.ended name u isFound]
    split
    · next here => rw [here]
    · rfl
  · rw [after.bindingCount, List.length_append, List.length_singleton, ← plays.count]
  · intro m b' isBound
    rcases getElem?_append_singleton.mp isBound with old | ⟨isNew, rfl⟩
    · have carried := plays.carried m b' old
      have same : w'.binding m = w.binding m := by
        rw [after.binding, if_neg (Nat.ne_of_lt (plays.made old))]
      apply carried.of_released_eq (by rw [same]) (by rw [after.handles]) (by rw [listener])
      rw [same]
      exact carried.active
    · have new := after.binding m
      rw [if_pos (isNew.trans plays.count.symm)] at new
      constructor
      · rw [← plays.cast.found, found]; rfl
      · rw [new]
      · rw [new]
      · rw [new, after.handles]; exact given
      · rw [new, alive]; rfl
      · rw [new, listener]; exact label
  · intro name u isFound m
    rw [after.handles] at isFound
    have before := plays.kept name u isFound m
    have isName : u = v ↔ b.view = name := (plays.cast.eq_iff isFound found).trans eq_comm
    have isNew : m ∈ (w'.view u).bindings ↔ m ∈ (w.view u).bindings ∨ (m = bound.length ∧ b.view = name) := by
      rw [after.view, ← isName, ← plays.count]
      split
      · next here => simp [here]
      · next other => simp [other]
    rw [isNew, before]
    simp only [getElem?_append_singleton]
    constructor
    · rintro (⟨stays, b', old, isView⟩ | ⟨last, rfl⟩)
      · exact ⟨stays, b', Or.inl old, isView⟩
      · exact ⟨alive, b, Or.inr ⟨last, rfl⟩, rfl⟩
    · rintro ⟨stays, b', old | ⟨last, rfl⟩, isView⟩
      · exact Or.inl ⟨stays, b', old, isView⟩
      · exact Or.inr ⟨last, isView⟩
  · intro c x mem
    rw [after.subscribers] at mem
    rcases List.mem_append.mp mem with old | new
    · exact plays.handlers c x old
    · exact ⟨_, handler_of_mem_entriesOf new⟩
  · intro c
    rw [after.subscribers, List.pairwise_append]
    refine ⟨plays.sorted c, ?_, ?_⟩
    · exact (after.keys c).imp fun other same => absurd same other
    · intro x old y new _ a a' isHandler isNew
      rw [handler_of_mem_entriesOf new] at isNew
      rw [← Handler.binding.inj isNew]
      exact World.lt_size_of_isActive w (plays.sound.subscribed.isActive_of_mem old isHandler)

/-! ### Who is told -/

/-- A binding has an entry for a key in the list of a view just if its template reads the key from there. -/
theorem mem_subscribersTo (plays : s.Plays filters q h destroyed bound w) {view : String} {v : ViewId}
    (found : w.handles.views.find? view = some v) {key : String} {n : BindingId} :
    (∃ x ∈ w.subscribersTo v key, x.handler = .binding n) ↔
      ∃ b, bound[n]? = some b ∧ s.isTold destroyed view key b := by
  have isKey : (∃ x ∈ w.subscribersTo v key, x.handler = .binding n) ↔ key ∈ w.bindingKeys n v := by
    simp only [World.subscribersTo, World.bindingKeys, List.mem_map, List.mem_filter, beq_iff_eq,
      decide_eq_true_eq]
    constructor
    · rintro ⟨x, ⟨mem, isKey⟩, own⟩
      exact ⟨x, ⟨mem, own⟩, isKey⟩
    · rintro ⟨x, ⟨mem, own⟩, isKey⟩
      exact ⟨x, ⟨mem, isKey⟩, own⟩
  -- the source of the key is the view just if it has the view's number
  have isSource : ∀ name, (s.source? name key).bind w.handles.views.find? = some v ↔
      s.source? name key = some view := by
    intro name
    cases s.source? name key with
    | none => simp
    | some other =>
        simp only [Option.bind_some, Option.some.injEq]
        constructor
        · exact fun isFound => (plays.cast.eq_iff isFound found).mp rfl
        · rintro rfl
          exact found
  rw [isKey, plays.sound.subscribed.bindingKeys_eq]
  constructor
  · intro mem
    split at mem
    · next active =>
      have made := plays.count ▸ World.lt_size_of_isActive w active
      have isBound := List.getElem?_eq_getElem made
      have carried := plays.carried n _ isBound
      rw [carried.template] at mem
      obtain ⟨isRead, isHere⟩ := List.mem_filter.mp mem
      have source := of_decide_eq_true isHere
      rw [carried.sources key isRead, isSource] at source
      rw [carried.active, Bool.not_eq_true'] at active
      exact ⟨_, isBound, isTold_iff.mpr ⟨active, isRead, source⟩⟩
    · cases mem
  · rintro ⟨b, isBound, told⟩
    have carried := plays.carried n b isBound
    obtain ⟨alive, isRead, source⟩ := isTold_iff.mp told
    rw [carried.active, alive, Bool.not_false, if_pos rfl, carried.template]
    refine List.mem_filter.mpr ⟨isRead, decide_eq_true ?_⟩
    rw [carried.sources key isRead, isSource]
    exact source

/-- Those that are told of a key are the templates that read it, in the order in which they were bound. -/
theorem told_eq (plays : s.Plays filters q h destroyed bound w) {view : String} {v : ViewId}
    (found : w.handles.views.find? view = some v) (key : String) :
    ((w.subscribersTo v key).filterMap (·.handler.binding?)).filterMap (bound[·]?) =
      bound.filter (s.isTold destroyed view key) := by
  apply filterMap_getElem?_of_sorted
  · refine List.pairwise_filterMap.mpr (List.pairwise_filter.mpr ((plays.sorted v).imp ?_))
    intro x y less isKey isKey' a isHandler b isHandler'
    exact less ((eq_of_beq isKey).trans (eq_of_beq isKey').symm) a b (binding?_eq_some.mp isHandler)
      (binding?_eq_some.mp isHandler')
  · intro n
    rw [← plays.mem_subscribersTo found]
    simp only [List.mem_filterMap, binding?_eq_some]

end Plays

end Scene

end LiveTemplate
