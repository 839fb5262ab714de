import LiveTemplate.Proofs.World.Growth

/-!
Numbers refer to things that were made.  Handles, views, types, registries, bindings and entries of
subscriber lists all name other things by number, and so do the numbers that the program was given for its
subscriptions.  As nothing is ever unmade, such a number stays good; only what makes a reference has to be
looked at.
-/

namespace LiveTemplate.World

/-- Whatever is named by number was made, and no two bindings share a callback. -/
structure Numbered (w : World) : Prop where
  heldViews : ∀ v ∈ w.handles.views.values, v < w.views.size
  heldStates : ∀ c ∈ w.handles.states.values, c < w.containers.size
  heldBindings : ∀ b ∈ w.handles.bindings.values, b < w.bindings.size
  stated : ∀ v < w.views.size, (w.view v).state < w.containers.size
  typed : ∀ t r, (w.type t).registry = some r → r < w.registries.size
  registered : ∀ r name f, (w.registry r).find? name = some f → f < w.filters.size
  bound : ∀ b < w.bindings.size, (w.binding b).registry < w.registries.size ∧
    (w.binding b).listener < w.listeners.size
  own : ∀ a < w.bindings.size, ∀ b < w.bindings.size,
    (w.binding a).listener = (w.binding b).listener → a = b
  heard : ∀ c, ∀ s ∈ (w.container c).subscribers, ∀ l, s.handler = .listener l →
    l < w.listeners.size

/-- What the program was given for a subscription names an entry of its own, or none any more; it never
comes to name an entry of a binding. -/
def Receipted (w : World) : Prop :=
  ∀ p ∈ w.handles.subscriptions.values, p.1 < w.containers.size ∧
    p.2 < (w.container p.1).nextId ∧
    ∀ s ∈ (w.container p.1).subscribers, s.id = p.2 → ∃ l, s.handler = .listener l

namespace Numbered

variable {w w' : World}

theorem empty : World.empty.Numbered where
  heldViews _ mem := absurd mem List.not_mem_nil
  heldStates _ mem := absurd mem List.not_mem_nil
  heldBindings _ mem := absurd mem List.not_mem_nil
  stated _ made := absurd made (Nat.not_lt_zero _)
  typed _ _ found := by cases found
  registered _ _ _ found := by cases found
  bound _ made := absurd made (Nat.not_lt_zero _)
  own _ made := absurd made (Nat.not_lt_zero _)
  heard _ _ mem := absurd mem List.not_mem_nil

/-- In a later world with the same bindings, only the references that are new have to be good. -/
theorem of_grows (h : w.Numbered) (grows : Grows w w')
    (heldViews : ∀ v ∈ w'.handles.views.values, v ∈ w.handles.views.values ∨ v < w'.views.size)
    (heldStates : ∀ c ∈ w'.handles.states.values,
      c ∈ w.handles.states.values ∨ c < w'.containers.size)
    (heldBindings : ∀ b ∈ w'.handles.bindings.values,
      b ∈ w.handles.bindings.values ∨ b < w'.bindings.size)
    (stated : ∀ v, w.views.size ≤ v → v < w'.views.size →
      (w'.view v).state < w'.containers.size)
    (typed : ∀ t r, (w'.type t).registry = some r →
      (w.type t).registry = some r ∨ r < w'.registries.size)
    (registered : ∀ r name f, (w'.registry r).find? name = some f →
      (w.registry r).find? name = some f ∨ f < w'.filters.size)
    (bindings : w'.bindings.size = w.bindings.size)
    (heard : ∀ c, ∀ s ∈ (w'.container c).subscribers, ∀ l, s.handler = .listener l →
      s ∈ (w.container c).subscribers ∨ l < w'.listeners.size) : w'.Numbered where
  heldViews v mem := by
    rcases heldViews v mem with before | made
    · exact Nat.lt_of_lt_of_le (h.heldViews v before) grows.viewCount
    · exact made
  heldStates c mem := by
    rcases heldStates c mem with before | made
    · exact Nat.lt_of_lt_of_le (h.heldStates c before) grows.containerCount
    · exact made
  heldBindings b mem := by
    rcases heldBindings b mem with before | made
    · exact Nat.lt_of_lt_of_le (h.heldBindings b before) grows.bindingCount
    · exact made
  stated v made := by
    by_cases old : v < w.views.size
    · have same : (w'.view v).core.state = (w.view v).core.state := by rw [(grows.view v old).1]
      have state : (w'.view v).state = (w.view v).state := same
      rw [state]
      exact Nat.lt_of_lt_of_le (h.stated v old) grows.containerCount
    · exact stated v (Nat.le_of_not_lt old) made
  typed t r found := by
    rcases typed t r found with before | made
    · exact Nat.lt_of_lt_of_le (h.typed t r before) grows.registryCount
    · exact made
  registered r name f found := by
    rcases registered r name f found with before | made
    · exact Nat.lt_of_lt_of_le (h.registered r name f before) grows.filterCount
    · exact made
  bound b made := by
    rw [bindings] at made
    rw [grows.registry_eq made, grows.listener_eq made]
    exact ⟨Nat.lt_of_lt_of_le (h.bound b made).1 grows.registryCount,
      Nat.lt_of_lt_of_le (h.bound b made).2 grows.listenerCount⟩
  own a aMade b bMade := by
    rw [bindings] at aMade bMade
    rw [grows.listener_eq aMade, grows.listener_eq bMade]
    exact h.own a aMade b bMade
  heard c s mem l handler := by
    rcases heard c s mem l handler with before | made
    · exact Nat.lt_of_lt_of_le (h.heard c s before l handler) grows.listenerCount
    · exact made

/-- A change of what is held, which may release bindings. -/
theorem releases (h : w.Numbered) {bs : List BindingId} (releases : Releases w bs w')
    (heldViews : ∀ v ∈ w'.handles.views.values, v ∈ w.handles.views.values ∨ v < w'.views.size)
    (heldStates : ∀ c ∈ w'.handles.states.values,
      c ∈ w.handles.states.values ∨ c < w'.containers.size)
    (heldBindings : ∀ b ∈ w'.handles.bindings.values,
      b ∈ w.handles.bindings.values ∨ b < w'.bindings.size) : w'.Numbered := by
  refine h.of_grows (.of_releases releases) heldViews heldStates heldBindings ?_
    ?_ ?_ releases.bindingCount ?_
  · intro v new made
    rw [releases.viewCount] at made
    exact absurd made (Nat.not_lt.mpr new)
  · intro t r found
    simp only [type, releases.types] at found
    exact Or.inl found
  · intro r name f found
    simp only [registry, releases.registries] at found
    exact Or.inl found
  · intro c s mem l _
    simp only [releases.container, Container.subscribers_keep] at mem
    exact Or.inl (List.mem_filter.mp mem).1

theorem equips (h : w.Numbered) (equips : Equips w w') : w'.Numbered := by
  obtain ⟨views, containers, _, bindings, handles, _⟩ := equips.same
  refine h.of_grows (.of_equips equips) ?_ ?_ ?_
    ?_ equips.typed equips.registered (congrArg Array.size bindings)
    ?_
  · intro v mem
    rw [handles] at mem
    exact Or.inl mem
  · intro c mem
    rw [handles] at mem
    exact Or.inl mem
  · intro b mem
    rw [handles] at mem
    exact Or.inl mem
  · intro v new made
    rw [views] at made
    exact absurd made (Nat.not_lt.mpr new)
  · intro c s mem l _
    simp only [container, containers] at mem
    exact Or.inl mem

theorem addView (h : w.Numbered) (type : TypeId) (name : Option String)
    (state props : OrderedMap Value) (owner : Option ViewId) :
    (w.addView type name state props owner).2.Numbered := by
  refine h.of_grows (.addView ..) (fun _ => Or.inl) (fun _ => Or.inl) (fun _ => Or.inl) ?_
    (fun _ _ => Or.inl) (fun _ _ _ => Or.inl) rfl ?_
  · intro v new made
    have count : (w.addView type name state props owner).2.views.size = w.views.size + 1 :=
      Array.size_push _
    rw [count] at made
    rw [view_addView, if_pos (Nat.le_antisymm (Nat.le_of_lt_succ made) new)]
    exact Nat.lt_of_lt_of_eq (Nat.lt_succ_self _) (Array.size_push _).symm
  · intro c s mem l _
    rw [container_addView] at mem
    split at mem
    · exact absurd mem List.not_mem_nil
    · exact Or.inl mem

theorem addContainer (h : w.Numbered) (values : OrderedMap Value) :
    (w.addContainer values).2.Numbered := by
  refine h.of_grows (.addContainer ..) (fun _ => Or.inl) (fun _ => Or.inl) (fun _ => Or.inl) ?_
    (fun _ _ => Or.inl) (fun _ _ _ => Or.inl) rfl ?_
  · intro v new made
    exact absurd made (Nat.not_lt.mpr new)
  · intro c s mem l _
    rw [container_addContainer] at mem
    split at mem
    · exact absurd mem List.not_mem_nil
    · exact Or.inl mem

/-- Where only listeners or calls of filters and listeners are added, or values are stored. -/
theorem of_lists_eq (h : w.Numbered) (grows : Grows w w') (handles : w'.handles = w.handles)
    (views : w'.views = w.views) (types : w'.types = w.types)
    (registries : w'.registries = w.registries) (bindings : w'.bindings = w.bindings)
    (lists : ∀ c, (w'.container c).subscribers = (w.container c).subscribers) : w'.Numbered := by
  refine h.of_grows grows ?_ ?_ ?_
    ?_ ?_ ?_
    (congrArg Array.size bindings) ?_
  · intro v mem
    rw [handles] at mem
    exact Or.inl mem
  · intro c mem
    rw [handles] at mem
    exact Or.inl mem
  · intro b mem
    rw [handles] at mem
    exact Or.inl mem
  · intro v new made
    rw [views] at made
    exact absurd made (Nat.not_lt.mpr new)
  · intro t r found
    simp only [type, types] at found
    exact Or.inl found
  · intro r name f found
    simp only [registry, registries] at found
    exact Or.inl found
  · intro c s mem l _
    rw [lists] at mem
    exact Or.inl mem

/-- A new handler of the program gets an entry and a handle. -/
theorem subscribe (h : w.Numbered) (c : ContainerId) (key : String) {l : ListenerId}
    (made : l < w.listeners.size) : (w.subscribe c key (.listener l)).2.Numbered := by
  refine h.of_grows (.subscribe ..) (fun _ => Or.inl) (fun _ => Or.inl) (fun _ => Or.inl) ?_
    (fun _ _ => Or.inl) (fun _ _ _ => Or.inl) rfl ?_
  · intro v new isMade
    exact absurd isMade (Nat.not_lt.mpr new)
  · intro d s mem m handler
    rw [container_subscribe] at mem
    split at mem
    · next here =>
      rcases List.mem_append.mp mem with old | new
      · rw [here.1]
        exact Or.inl old
      · rw [List.mem_singleton.mp new] at handler
        rw [← Handler.listener.inj handler]
        exact Or.inr made
    · exact Or.inl mem

theorem unsubscribe (h : w.Numbered) (c : ContainerId) (id : Nat) :
    (w.unsubscribe c id).Numbered := by
  refine h.of_grows (.unsubscribe ..) (fun _ => Or.inl) (fun _ => Or.inl) (fun _ => Or.inl) ?_
    (fun _ _ => Or.inl) (fun _ _ _ => Or.inl) rfl ?_
  · intro v new made
    exact absurd made (Nat.not_lt.mpr new)
  · intro d s mem l _
    rw [container_unsubscribe, Container.subscribers_keep] at mem
    exact Or.inl (List.mem_filter.mp mem).1

/-- A new binding has a registry, and a callback that no other binding has. -/
theorem addBinding (h : w.Numbered) (template : Template) {registry : RegistryId}
    (viewLabel : String) {sources : Sources} {listener : ListenerId}
    (made : ∀ p ∈ sources, p.2 < w.containers.size) (hasRegistry : registry < w.registries.size)
    (hasListener : listener < w.listeners.size)
    (unshared : ∀ b < w.bindings.size, (w.binding b).listener ≠ listener) :
    (w.addBinding template registry viewLabel sources listener).2.Numbered := by
  obtain ⟨subscriptions, _, frame, count, bindings, lists⟩ :=
    addBinding_spec template registry viewLabel sources listener w made
  generalize (w.addBinding template registry viewLabel sources listener).2 = w' at *
  have sameViews : w'.views = w.views := by rw [frame]
  have sameTypes : w'.types = w.types := by rw [frame]
  have sameRegistries : w'.registries = w.registries := by rw [frame]
  have sameFilters : w'.filters = w.filters := by rw [frame]
  have sameListeners : w'.listeners = w.listeners := by rw [frame]
  have sameHandles : w'.handles = w.handles := by rw [frame]
  have bindingCount : w'.bindings.size = w.bindings.size + 1 := by
    rw [frame]
    exact Array.size_push _
  have old : ∀ b, b ≠ w.bindings.size → b < w'.bindings.size → b < w.bindings.size := by
    intro b other isMade
    rw [bindingCount] at isMade
    exact Nat.lt_of_le_of_ne (Nat.le_of_lt_succ isMade) other
  refine ⟨?_, ?_, ?_, ?_, ?_, ?_, ?_, ?_, ?_⟩
  · rw [sameHandles, sameViews]
    exact h.heldViews
  · rw [sameHandles, count]
    exact h.heldStates
  · intro b mem
    rw [sameHandles] at mem
    rw [bindingCount]
    exact Nat.lt_succ_of_lt (h.heldBindings b mem)
  · simp only [view, sameViews, count]
    exact h.stated
  · simp only [type, sameTypes, sameRegistries]
    exact h.typed
  · simp only [World.registry, sameRegistries, sameFilters]
    exact h.registered
  · intro b isMade
    rw [bindings, sameRegistries, sameListeners]
    split
    · exact ⟨hasRegistry, hasListener⟩
    · next other => exact h.bound b (old b other isMade)
  · intro a aMade b bMade same
    rw [bindings, bindings] at same
    split at same <;> split at same
    · next aNew bNew => exact aNew.trans bNew.symm
    · next _ other => exact absurd same.symm (unshared b (old b other bMade))
    · next other _ => exact absurd same (unshared a (old a other aMade))
    · next aOther bOther =>
      exact h.own a (old a aOther aMade) b (old b bOther bMade) same
  · intro c s mem l handler
    rw [(lists c).2.2.2.1] at mem
    rw [sameListeners]
    rcases List.mem_append.mp mem with before | new
    · exact h.heard c s before l handler
    · rw [handler_of_mem_entriesOf new] at handler
      cases handler

end Numbered

namespace Receipted

variable {w w' : World}

theorem empty : World.empty.Receipted := fun _ mem => absurd mem List.not_mem_nil

/-- What was given stays good in a later world. -/
theorem of_grows (h : w.Receipted) (grows : Grows w w')
    (handles : w'.handles.subscriptions = w.handles.subscriptions) : w'.Receipted := by
  intro p mem
  rw [handles] at mem
  obtain ⟨made, below, own⟩ := h p mem
  refine ⟨Nat.lt_of_lt_of_le made grows.containerCount,
    Nat.lt_of_lt_of_le below (grows.nextId p.1), ?_⟩
  intro s inList same
  rcases grows.arrived p.1 s inList with before | later
  · exact own s before same
  · rw [same] at later
    exact absurd below (Nat.not_lt.mpr later)

end Receipted

end LiveTemplate.World
