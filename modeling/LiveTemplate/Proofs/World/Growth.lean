import LiveTemplate.Proofs.World.Registries
import LiveTemplate.Proofs.World.Subscriptions

/-!
What is never lost.  Things are made and never unmade, and a thing keeps what it was made with: a filter
its code, a binding its template and sources, a view its state and owner.  A key that was written stays, a
view that was destroyed stays destroyed, and a binding that was released stays released.  A subscriber list
only gets new entries behind the old ones, which have higher numbers.
-/

namespace LiveTemplate

/-- A binding that was made and then released. -/
def World.IsReleased (w : World) (b : BindingId) : Prop :=
  b < w.bindings.size ∧ (w.binding b).isActive = false

namespace World

/-- A later world, in which everything is still there. -/
structure Grows (w w' : World) : Prop where
  registryCount : w.registries.size ≤ w'.registries.size
  filterCount : w.filters.size ≤ w'.filters.size
  viewCount : w.views.size ≤ w'.views.size
  containerCount : w.containers.size ≤ w'.containers.size
  listenerCount : w.listeners.size ≤ w'.listeners.size
  bindingCount : w.bindings.size ≤ w'.bindings.size
  code : ∀ f < w.filters.size, (w'.filter f).code = (w.filter f).code
  view : ∀ v < w.views.size, (w'.view v).core = (w.view v).core ∧
    ((w.view v).isDestroyed = true → (w'.view v).isDestroyed = true)
  keys : ∀ c key, ((w.container c).values.find? key).isSome →
    ((w'.container c).values.find? key).isSome
  listener : ∀ l < w.listeners.size, (w'.listener l).label = (w.listener l).label ∧
    (w'.listener l).reactions = (w.listener l).reactions
  binding : ∀ b < w.bindings.size, (w'.binding b).released = (w.binding b).released ∧
    ((w'.binding b).isActive → (w.binding b).isActive)
  nextId : ∀ c, (w.container c).nextId ≤ (w'.container c).nextId
  arrived : ∀ c, ∀ s ∈ (w'.container c).subscribers,
    s ∈ (w.container c).subscribers ∨ (w.container c).nextId ≤ s.id

namespace Grows

variable {w w' w'' : World}

theorem refl (w : World) : Grows w w where
  registryCount := Nat.le_refl _
  filterCount := Nat.le_refl _
  viewCount := Nat.le_refl _
  containerCount := Nat.le_refl _
  listenerCount := Nat.le_refl _
  bindingCount := Nat.le_refl _
  code _ _ := rfl
  view _ _ := ⟨rfl, id⟩
  keys _ _ := id
  listener _ _ := ⟨rfl, rfl⟩
  binding _ _ := ⟨rfl, id⟩
  nextId _ := Nat.le_refl _
  arrived _ _ := Or.inl

/-- What stays through two changes stays through both. -/
theorem trans (first : Grows w w') (second : Grows w' w'') : Grows w w'' where
  registryCount := Nat.le_trans first.registryCount second.registryCount
  filterCount := Nat.le_trans first.filterCount second.filterCount
  viewCount := Nat.le_trans first.viewCount second.viewCount
  containerCount := Nat.le_trans first.containerCount second.containerCount
  listenerCount := Nat.le_trans first.listenerCount second.listenerCount
  bindingCount := Nat.le_trans first.bindingCount second.bindingCount
  code f made := by
    rw [second.code f (Nat.lt_of_lt_of_le made first.filterCount), first.code f made]
  view v made := by
    have before := first.view v made
    have after := second.view v (Nat.lt_of_lt_of_le made first.viewCount)
    exact ⟨after.1.trans before.1, fun gone => after.2 (before.2 gone)⟩
  keys c key found := second.keys c key (first.keys c key found)
  listener l made := by
    have before := first.listener l made
    have after := second.listener l (Nat.lt_of_lt_of_le made first.listenerCount)
    exact ⟨after.1.trans before.1, after.2.trans before.2⟩
  binding b made := by
    have before := first.binding b made
    have after := second.binding b (Nat.lt_of_lt_of_le made first.bindingCount)
    exact ⟨after.1.trans before.1, fun active => before.2 (after.2 active)⟩
  nextId c := Nat.le_trans (first.nextId c) (second.nextId c)
  arrived c s mem := by
    rcases second.arrived c s mem with before | later
    · exact first.arrived c s before
    · exact Or.inr (Nat.le_trans (first.nextId c) later)

/-- A released binding stays released. -/
theorem isReleased (h : Grows w w') {b : BindingId} (released : w.IsReleased b) :
    w'.IsReleased b := by
  refine ⟨Nat.lt_of_lt_of_le released.1 h.bindingCount, ?_⟩
  have notActive := released.2
  by_contra active
  simp only [(h.binding b released.1).2 (by simpa using active)] at notActive
  cases notActive

/-- A binding keeps its template. -/
theorem template_eq (h : Grows w w') {b : BindingId} (made : b < w.bindings.size) :
    (w'.binding b).template = (w.binding b).template := by
  show (w'.binding b).released.template = (w.binding b).released.template
  simp only [(h.binding b made).1]

/-- A binding keeps its sources. -/
theorem sources_eq (h : Grows w w') {b : BindingId} (made : b < w.bindings.size) :
    (w'.binding b).sources = (w.binding b).sources := by
  show (w'.binding b).released.sources = (w.binding b).released.sources
  simp only [(h.binding b made).1]

/-- A binding keeps its registry. -/
theorem registry_eq (h : Grows w w') {b : BindingId} (made : b < w.bindings.size) :
    (w'.binding b).registry = (w.binding b).registry := by
  show (w'.binding b).released.registry = (w.binding b).released.registry
  simp only [(h.binding b made).1]

/-- A binding keeps its callback. -/
theorem listener_eq (h : Grows w w') {b : BindingId} (made : b < w.bindings.size) :
    (w'.binding b).listener = (w.binding b).listener := by
  show (w'.binding b).released.listener = (w.binding b).released.listener
  simp only [(h.binding b made).1]

/-- Releasing bindings takes nothing away but their activity and their entries. -/
theorem of_releases {bs : List BindingId} (h : Releases w bs w') : Grows w w' where
  registryCount := Nat.le_of_eq (congrArg Array.size h.registries.symm)
  filterCount := Nat.le_of_eq (congrArg Array.size h.filters.symm)
  viewCount := Nat.le_of_eq h.viewCount.symm
  containerCount := Nat.le_of_eq h.containerCount.symm
  listenerCount := Nat.le_of_eq (congrArg Array.size h.listeners.symm)
  bindingCount := Nat.le_of_eq h.bindingCount.symm
  code f _ := by rw [filter, h.filters]; rfl
  view v _ := h.view v
  keys c key found := by rw [h.container]; exact found
  listener l _ := by rw [World.listener, h.listeners]; exact ⟨rfl, rfl⟩
  binding b _ := by
    simp only [h.binding]
    split
    · exact ⟨rfl, fun active => absurd active Bool.false_ne_true⟩
    · exact ⟨rfl, id⟩
  nextId c := by rw [h.container]; exact Nat.le_refl _
  arrived c s mem := by
    simp only [h.container, Container.subscribers_keep] at mem
    exact Or.inl (List.mem_filter.mp mem).1

/-- Registering filters takes nothing away. -/
theorem of_equips (h : Equips w w') : Grows w w' := by
  obtain ⟨views, containers, listeners, bindings, _⟩ := h.same
  refine ⟨h.registryCount, h.filterCount, Nat.le_of_eq (congrArg Array.size views.symm),
    Nat.le_of_eq (congrArg Array.size containers.symm),
    Nat.le_of_eq (congrArg Array.size listeners.symm),
    Nat.le_of_eq (congrArg Array.size bindings.symm), ?_, ?_, ?_, ?_, ?_, ?_, ?_⟩
  · intro f made
    simp only [h.filter f made]
  · intro v _
    rw [World.view, views]; exact ⟨rfl, id⟩
  · intro c key
    simp only [container, containers, imp_self]
  · intro l _
    rw [World.listener, listeners]; exact ⟨rfl, rfl⟩
  · intro b _
    rw [World.binding, bindings]; exact ⟨rfl, id⟩
  · intro c
    simp only [container, containers, Nat.le_refl]
  · intro c s
    simp only [container, containers]; exact Or.inl

/-- A change of the containers alone, each of which keeps its keys and gets new subscribers with higher
numbers, if any. -/
theorem of_containers {containers : Array Container}
    (count : w.containers.size ≤ containers.size)
    (each : ∀ c, let after := { w with containers := containers }.container c
      (∀ key, ((w.container c).values.find? key).isSome → (after.values.find? key).isSome) ∧
        (w.container c).nextId ≤ after.nextId ∧
        ∀ s ∈ after.subscribers, s ∈ (w.container c).subscribers ∨ (w.container c).nextId ≤ s.id) :
    Grows w { w with containers := containers } :=
  { refl w with
    containerCount := count
    keys := fun c => (each c).1
    nextId := fun c => (each c).2.1
    arrived := fun c => (each c).2.2 }

/-- A key that is set stays set. -/
theorem store (w : World) (c : ContainerId) (key : String) (value : Value) :
    Grows w (w.store c key value) := by
  apply of_containers (Nat.le_of_eq Array.size_modify.symm)
  intro d
  have after := container_store w c d key value
  simp only [World.store, modifyContainer] at after
  simp only [after]
  split
  · next here =>
    rw [here.1]
    exact ⟨fun _ => OrderedMap.isSome_find?_insert, Nat.le_refl _, fun _ => Or.inl⟩
  · exact ⟨fun _ => id, Nat.le_refl _, fun _ => Or.inl⟩

/-- A subscription gets a number that is above all others. -/
theorem subscribe (w : World) (c : ContainerId) (key : String) (handler : Handler) :
    Grows w (w.subscribe c key handler).2 := by
  apply of_containers (Nat.le_of_eq Array.size_modify.symm)
  intro d
  have after := container_subscribe w c d key handler
  simp only [World.subscribe, modifyContainer] at after
  simp only [after]
  split
  · next here =>
    rw [here.1]
    refine ⟨fun _ => id, Nat.le_succ _, ?_⟩
    intro s mem
    rcases List.mem_append.mp mem with old | new
    · exact Or.inl old
    · rw [List.mem_singleton.mp new]
      exact Or.inr (Nat.le_refl _)
  · exact ⟨fun _ => id, Nat.le_refl _, fun _ => Or.inl⟩

/-- Ending a subscription takes away nothing but an entry. -/
theorem unsubscribe (w : World) (c : ContainerId) (id : Nat) : Grows w (w.unsubscribe c id) := by
  apply of_containers (Nat.le_of_eq Array.size_modify.symm)
  intro d
  have after := container_unsubscribe w c d id
  simp only [World.unsubscribe, modifyContainer] at after
  simp only [after]
  exact ⟨fun _ found => found, Nat.le_refl _, fun s mem => Or.inl (List.mem_filter.mp mem).1⟩

theorem addContainer (w : World) (values : OrderedMap Value) :
    Grows w (w.addContainer values).2 := by
  apply of_containers (by simp)
  intro c
  have after := container_addContainer w values c
  simp only [World.addContainer] at after
  simp only [after]
  split
  · next new =>
    rw [container_of_le w (Nat.le_of_eq new.symm)]
    exact ⟨fun _ found => absurd found Bool.false_ne_true, Nat.le_refl _,
      fun _ mem => absurd mem List.not_mem_nil⟩
  · exact ⟨fun _ => id, Nat.le_refl _, fun _ => Or.inl⟩

/-- A new view stands behind all that there were, and so does its state. -/
theorem addView (w : World) (type : TypeId) (name : Option String) (state props : OrderedMap Value)
    (owner : Option ViewId) : Grows w (w.addView type name state props owner).2 := by
  have made := addContainer w state
  refine { made with viewCount := ?_, view := ?_ }
  · simp [World.addView, World.addContainer]
  · intro v old
    rw [view_addView, if_neg (Nat.ne_of_lt old)]
    exact ⟨rfl, id⟩

theorem addListener (w : World) (label : String) (reactions : List (Reaction Step)) :
    Grows w (w.addListener label reactions).2 := by
  refine { refl w with listenerCount := ?_, listener := ?_ }
  · simp [World.addListener]
  · intro l old
    rw [listener_addListener, if_neg (Nat.ne_of_lt old)]
    exact ⟨rfl, rfl⟩

theorem countListenerCall (w : World) (l : ListenerId) : Grows w (w.countListenerCall l) := by
  refine { refl w with listenerCount := ?_, listener := fun m _ => listener_countListenerCall w l m }
  exact Nat.le_of_eq Array.size_modify.symm

theorem countFilterCall (w : World) (f : FilterId) : Grows w (w.countFilterCall f) := by
  refine { refl w with filterCount := ?_, code := fun g _ => code_countFilterCall w f g }
  exact Nat.le_of_eq Array.size_modify.symm

/-- A new binding stands behind all that there were, and its entries have new numbers. -/
theorem addBinding (w : World) (template : Template) (registry : RegistryId) (viewLabel : String)
    {sources : Sources} (listener : ListenerId) (made : ∀ p ∈ sources, p.2 < w.containers.size) :
    Grows w (w.addBinding template registry viewLabel sources listener).2 := by
  obtain ⟨subscriptions, _, frame, count, bindings, lists⟩ :=
    addBinding_spec template registry viewLabel sources listener w made
  generalize (w.addBinding template registry viewLabel sources listener).2 = w' at *
  have sameRegistries : w'.registries = w.registries := by rw [frame]
  have moreBindings : w.bindings.size ≤ w'.bindings.size := by rw [frame]; simp
  have sameView : w'.views = w.views := by rw [frame]
  have sameFilters : w'.filters = w.filters := by rw [frame]
  have sameListeners : w'.listeners = w.listeners := by rw [frame]
  refine ⟨Nat.le_of_eq (congrArg Array.size sameRegistries.symm),
    Nat.le_of_eq (congrArg Array.size sameFilters.symm),
    Nat.le_of_eq (congrArg Array.size sameView.symm), Nat.le_of_eq count.symm,
    Nat.le_of_eq (congrArg Array.size sameListeners.symm), moreBindings,
    ?_, ?_, ?_, ?_, ?_, fun c => (lists c).2.1, ?_⟩
  · intro f _
    rw [filter, sameFilters]; rfl
  · intro v _
    rw [World.view, sameView]; exact ⟨rfl, id⟩
  · intro c key
    rw [(lists c).1]; exact id
  · intro l _
    rw [World.listener, sameListeners]; exact ⟨rfl, rfl⟩
  · intro b old
    rw [bindings, if_neg (Nat.ne_of_lt old)]
    exact ⟨rfl, id⟩
  · intro c s mem
    rw [(lists c).2.2.2.1] at mem
    exact (List.mem_append.mp mem).imp_right ((lists c).2.2.1 s)

end Grows

end World

end LiveTemplate
