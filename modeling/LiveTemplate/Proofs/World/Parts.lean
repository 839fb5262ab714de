import LiveTemplate.World.Perform

/-!
What each operation on a world does to its parts.  An operation is described by the parts that it leaves
alone and by what is then found under a number; nothing later looks inside an operation again.
-/

namespace LiveTemplate

/-- An element of an array in which one was changed. -/
private theorem getD_modify {α : Type} (xs : Array α) (f : α → α) (i j : Nat) (d : α) :
    (xs.modify i f).getD j d = if j = i ∧ i < xs.size then f (xs.getD i d) else xs.getD j d := by
  simp only [Array.getD_eq_getD_getElem?, Array.getElem?_modify]
  by_cases same : j = i
  · subst same
    by_cases inside : j < xs.size <;> simp [inside]
  · simp [same, Ne.symm same]

/-- Where the change of a thing that is not there would be none, it need not be there. -/
private theorem getD_modify_of_fixed {α : Type} (xs : Array α) {f : α → α} (i j : Nat) {d : α}
    (fixed : f d = d) :
    (xs.modify i f).getD j d = if j = i then f (xs.getD i d) else xs.getD j d := by
  rw [getD_modify]
  by_cases same : j = i
  · subst same
    by_cases inside : j < xs.size
    · simp [inside]
    · simp [Array.getD, inside, fixed]
  · simp [same]

/-- An element of an array to which one was added. -/
theorem getD_push {α : Type} (xs : Array α) (x : α) (j : Nat) (d : α) :
    (xs.push x).getD j d = if j = xs.size then x else xs.getD j d := by
  simp only [Array.getD_eq_getD_getElem?, Array.getElem?_push]
  split <;> rfl

/-- A container without the subscribers that fail a test. -/
def Container.keep (s : Container) (p : Subscriber → Bool) : Container :=
  { s with subscribers := s.subscribers.filter p }

/-- A binding as its release leaves it. -/
def Binding.released (x : Binding) : Binding :=
  { x with isActive := false, subscriptions := [] }

/-- What a view was made with, without what may change in the course of time. -/
def View.core (x : View) : View :=
  { x with bindings := [], isDestroyed := false }

namespace Container

variable (s : Container) (p q : Subscriber → Bool)

@[simp] theorem values_keep : (s.keep p).values = s.values := rfl

@[simp] theorem nextId_keep : (s.keep p).nextId = s.nextId := rfl

@[simp] theorem subscribers_keep : (s.keep p).subscribers = s.subscribers.filter p := rfl

/-- A list of which all is kept stays as it is. -/
theorem keep_of_forall (all : ∀ x ∈ s.subscribers, p x) : s.keep p = s := by
  simp only [keep, List.filter_eq_self.mpr all]

/-- What is kept of what was kept is what is kept both times. -/
theorem keep_keep : (s.keep p).keep q = s.keep fun x => p x && q x := by
  simp only [keep, List.filter_filter, Bool.and_comm]

end Container

namespace World

variable (w : World)

/-! ### Changing one thing -/

/-- Changing a container changes that one, if there is one, and no other. -/
theorem container_modifyContainer (c d : ContainerId) (f : Container → Container) :
    (w.modifyContainer c f).container d =
      if d = c ∧ c < w.containers.size then f (w.container c) else w.container d :=
  getD_modify _ _ _ _ _

/-- Changing a view changes that one, if there is one, and no other. -/
theorem view_modifyView (u v : ViewId) (f : View → View) :
    (w.modifyView u f).view v = if v = u ∧ u < w.views.size then f (w.view u) else w.view v :=
  getD_modify _ _ _ _ _

/-- Changing a registry changes that one, if there is one, and no other. -/
theorem registry_modifyRegistry (q r : RegistryId) (f : Registry FilterId → Registry FilterId) :
    (w.modifyRegistry q f).registry r =
      if r = q ∧ q < w.registries.size then f (w.registry q) else w.registry r :=
  getD_modify _ _ _ _ _

/-- Changing a type changes that one, if there is one, and no other. -/
theorem type_modifyType (s t : TypeId) (f : ViewType → ViewType) :
    (w.modifyType s f).type t = if t = s ∧ s < w.types.size then f (w.type s) else w.type t :=
  getD_modify _ _ _ _ _

/-- A number that was not given out stands for a container without keys. -/
theorem container_of_le {c : ContainerId} (absent : w.containers.size ≤ c) :
    w.container c = default := by
  simp [container, Array.getD, Nat.not_lt.mpr absent]

/-- A number that was not given out stands for a binding that is not active. -/
theorem binding_of_le {b : BindingId} (absent : w.bindings.size ≤ b) : w.binding b = default := by
  simp [binding, Array.getD, Nat.not_lt.mpr absent]

/-- A number that was not given out stands for a view without bindings. -/
theorem view_of_le {v : ViewId} (absent : w.views.size ≤ v) : w.view v = default := by
  simp [view, Array.getD, Nat.not_lt.mpr absent]

/-- A key is found only in a container that was made. -/
theorem lt_size_of_find? {c : ContainerId} {key : String}
    (found : ((w.container c).values.find? key).isSome) : c < w.containers.size := by
  apply Nat.lt_of_not_le
  intro absent
  rw [container_of_le w absent] at found
  exact Bool.false_ne_true found

/-- Only a binding that was made is active. -/
theorem lt_size_of_isActive {b : BindingId} (active : (w.binding b).isActive) :
    b < w.bindings.size := by
  apply Nat.lt_of_not_le
  intro absent
  rw [binding_of_le w absent] at active
  exact absurd active (by decide)

/-- Only a binding that was made has sources. -/
theorem lt_size_of_source {b : BindingId} {p : String × ContainerId}
    (mem : p ∈ (w.binding b).sources) : b < w.bindings.size := by
  apply Nat.lt_of_not_le
  intro absent
  rw [binding_of_le w absent] at mem
  exact absurd mem List.not_mem_nil

/-! ### Making one more -/

/-- A new container has the next number. -/
theorem container_addContainer (values : OrderedMap Value) (c : ContainerId) :
    (w.addContainer values).2.container c =
      if c = w.containers.size then ⟨values, [], 0⟩ else w.container c :=
  getD_push _ _ _ _

/-- A new filter has the next number. -/
theorem filter_addFilter (code : FilterCode Step) (f : FilterId) :
    (w.addFilter code).2.filter f = if f = w.filters.size then ⟨code, 0⟩ else w.filter f :=
  getD_push _ _ _ _

/-- A new callback or handler has the next number. -/
theorem listener_addListener (label : String) (reactions : List (Reaction Step)) (l : ListenerId) :
    (w.addListener label reactions).2.listener l =
      if l = w.listeners.size then ⟨label, reactions, 0⟩ else w.listener l :=
  getD_push _ _ _ _

/-- A new type has the next number. -/
theorem type_addType (name : String) (t : TypeId) :
    (w.addType name).2.type t = if t = w.types.size then ⟨name, [], none⟩ else w.type t :=
  getD_push _ _ _ _

/-- A new registry has the next number. -/
theorem registry_addRegistry (r : RegistryId) :
    w.addRegistry.2.registry r = if r = w.registries.size then .empty else w.registry r :=
  getD_push _ _ _ _

variable (type : TypeId) (name : Option String) (state props : OrderedMap Value)
  (owner : Option ViewId)

/-- A new view has a container of its own, with the next number. -/
theorem container_addView (c : ContainerId) :
    (w.addView type name state props owner).2.container c =
      if c = w.containers.size then ⟨state, [], 0⟩ else w.container c :=
  getD_push _ _ _ _

/-- A new view has the next number, and no bindings yet. -/
theorem view_addView (v : ViewId) :
    (w.addView type name state props owner).2.view v =
      if v = w.views.size then ⟨name, type, w.containers.size, props, owner, [], false⟩
      else w.view v :=
  getD_push _ _ _ _

/-! ### Counting calls -/

/-- Counting a call leaves what a filter does. -/
theorem code_countFilterCall (f g : FilterId) :
    ((w.countFilterCall f).filter g).code = (w.filter g).code := by
  simp only [countFilterCall, filter, getD_modify]
  split
  · next found => rw [found.1]
  · rfl

/-- Counting a call leaves what a callback or handler does. -/
theorem listener_countListenerCall (l m : ListenerId) :
    ((w.countListenerCall l).listener m).label = (w.listener m).label ∧
      ((w.countListenerCall l).listener m).reactions = (w.listener m).reactions := by
  simp only [countListenerCall, listener, getD_modify]
  split
  · next found => rw [found.1]; exact ⟨rfl, rfl⟩
  · exact ⟨rfl, rfl⟩

/-! ### Values and subscribers -/

/-- A value is stored under its key in one container. -/
theorem container_store (c d : ContainerId) (key : String) (value : Value) :
    (w.store c key value).container d =
      if d = c ∧ c < w.containers.size then
        { w.container c with values := (w.container c).values.insert key value }
      else w.container d :=
  container_modifyContainer ..

/-- A subscriber stands at the end of one list, under the next number. -/
theorem container_subscribe (c d : ContainerId) (key : String) (handler : Handler) :
    (w.subscribe c key handler).2.container d =
      if d = c ∧ c < w.containers.size then
        { w.container c with
          subscribers := (w.container c).subscribers ++ [⟨(w.container c).nextId, key, handler⟩]
          nextId := (w.container c).nextId + 1 }
      else w.container d :=
  container_modifyContainer ..

/-- Ending a subscription takes the entry with its number out of one list. -/
theorem container_unsubscribe (c d : ContainerId) (id : Nat) :
    (w.unsubscribe c id).container d = (w.container d).keep fun s => (d, s.id) ≠ (c, id) := by
  rw [unsubscribe, modifyContainer, container, getD_modify_of_fixed _ _ _ rfl]
  by_cases same : d = c
  · subst same
    simp only [↓reduceIte, Container.keep, ne_eq, Prod.mk.injEq, true_and, decide_not]
    rfl
  · rw [if_neg same]
    exact (Container.keep_of_forall _ _ fun s _ => by simp [same]).symm

/-- Ending subscriptions one after the other. -/
theorem container_foldl_unsubscribe (subscriptions : List (ContainerId × Nat)) (d : ContainerId) :
    (subscriptions.foldl (fun w s => w.unsubscribe s.1 s.2) w).container d =
      (w.container d).keep fun s => (d, s.id) ∉ subscriptions := by
  induction subscriptions generalizing w with
  | nil => exact (Container.keep_of_forall _ _ fun s _ => by simp).symm
  | cons subscription rest inductionHypothesis =>
      rw [List.foldl_cons, inductionHypothesis, container_unsubscribe, Container.keep_keep]
      congr 1
      funext s
      simp only [List.mem_cons, not_or, Bool.decide_and, ne_eq]

/-- Ending subscriptions changes nothing but the lists. -/
theorem foldl_unsubscribe_frame (subscriptions : List (ContainerId × Nat)) :
    let after := subscriptions.foldl (fun w s => w.unsubscribe s.1 s.2) w
    after = { w with containers := after.containers } ∧
      after.containers.size = w.containers.size := by
  induction subscriptions generalizing w with
  | nil => exact ⟨rfl, rfl⟩
  | cons subscription rest inductionHypothesis =>
      have tail := inductionHypothesis (w.unsubscribe subscription.1 subscription.2)
      constructor
      · rw [List.foldl_cons]
        exact tail.1
      · rw [List.foldl_cons, tail.2]
        exact Array.size_modify

/-! ### Releasing bindings -/

/-- Releasing a binding ends its subscriptions and makes it inactive. -/
theorem release_eq (b : BindingId) :
    w.release b =
      { w with
        bindings := w.bindings.modify b Binding.released
        containers := (w.release b).containers } :=
  (foldl_unsubscribe_frame (w.modifyBinding b Binding.released) (w.binding b).subscriptions).1

/-- Releasing a binding changes nothing but bindings and containers, and makes none of them. -/
@[simp] theorem release_frame (b : BindingId) :
    (w.release b).types = w.types ∧ (w.release b).registries = w.registries ∧
      (w.release b).filters = w.filters ∧ (w.release b).views = w.views ∧
      (w.release b).listeners = w.listeners ∧ (w.release b).handles = w.handles ∧
      (w.release b).pinnedViews = w.pinnedViews ∧
      (w.release b).pinnedContainers = w.pinnedContainers ∧
      (w.release b).containers.size = w.containers.size ∧
      (w.release b).bindings.size = w.bindings.size := by
  have sizes := (foldl_unsubscribe_frame (w.modifyBinding b Binding.released)
    (w.binding b).subscriptions).2
  refine ⟨?_, ?_, ?_, ?_, ?_, ?_, ?_, ?_, sizes, ?_⟩ <;> rw [release_eq]
  exact Array.size_modify

/-- Releasing a binding leaves the others as they were. -/
theorem binding_release (a b : BindingId) :
    (w.release a).binding b = if b = a then (w.binding a).released else w.binding b := by
  rw [binding, release_eq]
  exact getD_modify_of_fixed _ _ _ rfl

/-- Releasing a binding takes the entries of its subscriptions out of the lists. -/
theorem container_release (b : BindingId) (c : ContainerId) :
    (w.release b).container c =
      (w.container c).keep fun s => (c, s.id) ∉ (w.binding b).subscriptions := by
  simp only [release]
  exact container_foldl_unsubscribe (w.modifyBinding b Binding.released) _ c

/-- A world after some bindings of another were released.  Views may have been destroyed or have lost
bindings as well, and what is held may differ. -/
structure Releases (w : World) (bs : List BindingId) (w' : World) : Prop where
  types : w'.types = w.types
  registries : w'.registries = w.registries
  filters : w'.filters = w.filters
  listeners : w'.listeners = w.listeners
  viewCount : w'.views.size = w.views.size
  bindingCount : w'.bindings.size = w.bindings.size
  containerCount : w'.containers.size = w.containers.size
  view : ∀ v, (w'.view v).core = (w.view v).core ∧
    ((w.view v).isDestroyed = true → (w'.view v).isDestroyed = true)
  binding : ∀ b, w'.binding b = if b ∈ bs then (w.binding b).released else w.binding b
  container : ∀ c, w'.container c =
    (w.container c).keep fun s => ∀ b ∈ bs, (c, s.id) ∉ (w.binding b).subscriptions

namespace Releases

variable {w : World} {w' w'' : World} {as bs : List BindingId}

/-- Nothing was released. -/
theorem of_eq (views : w'.views = w.views) (types : w'.types = w.types)
    (registries : w'.registries = w.registries) (filters : w'.filters = w.filters)
    (listeners : w'.listeners = w.listeners)
    (bindings : w'.bindings = w.bindings) (containers : w'.containers = w.containers) :
    Releases w [] w' where
  types := types
  registries := registries
  filters := filters
  listeners := listeners
  viewCount := by rw [views]
  view v := by simp [World.view, views]
  bindingCount := by rw [bindings]
  containerCount := by rw [containers]
  binding b := by simp [World.binding, bindings]
  container c := by
    rw [Container.keep_of_forall _ _ fun _ _ => by simp]
    simp [World.container, containers]

/-- Bindings that are released one after the other are released. -/
theorem trans (first : Releases w as w') (second : Releases w' bs w'') :
    Releases w (as ++ bs) w'' where
  types := second.types.trans first.types
  registries := second.registries.trans first.registries
  filters := second.filters.trans first.filters
  listeners := second.listeners.trans first.listeners
  viewCount := second.viewCount.trans first.viewCount
  view v :=
    ⟨(second.view v).1.trans (first.view v).1, fun gone => (second.view v).2 ((first.view v).2 gone)⟩
  bindingCount := second.bindingCount.trans first.bindingCount
  containerCount := second.containerCount.trans first.containerCount
  binding b := by
    simp only [second.binding, first.binding]
    by_cases inFirst : b ∈ as <;> by_cases inSecond : b ∈ bs <;>
      simp [inFirst, inSecond, Binding.released]
  container c := by
    simp only [second.container, first.container, Container.keep_keep]
    congr 1
    funext s
    -- a binding that is released twice has no subscriptions left the second time
    have twice : (∀ b ∈ as, (c, s.id) ∉ (w.binding b).subscriptions) →
        ((∀ b ∈ bs, (c, s.id) ∉ (w'.binding b).subscriptions) ↔
          ∀ b ∈ bs, (c, s.id) ∉ (w.binding b).subscriptions) := by
      intro gone
      apply forall₂_congr
      intro b _
      simp only [first.binding]
      by_cases inFirst : b ∈ as
      · simp [inFirst, Binding.released, gone b inFirst]
      · simp [inFirst]
    rw [← Bool.decide_and]
    apply decide_eq_decide.mpr
    simp only [List.mem_append, or_imp, forall_and]
    exact and_congr_right twice

/-- A change that releases nothing, and then one that does. -/
theorem after (first : Releases w [] w') (second : Releases w' bs w'') : Releases w bs w'' :=
  first.trans second

end Releases

/-- Releasing a binding releases just that one. -/
theorem release_releases (b : BindingId) : Releases w [b] (w.release b) where
  types := by simp
  registries := by simp
  filters := by simp
  listeners := by simp
  viewCount := by simp
  view v := by simp [view]
  bindingCount := by simp
  containerCount := by simp
  binding a := by
    rw [binding_release]
    by_cases same : a = b <;> simp [same]
  container c := by
    rw [container_release]
    simp

/-- Releasing bindings one after the other releases just those. -/
theorem foldl_release_releases (bs : List BindingId) : Releases w bs (bs.foldl release w) := by
  induction bs generalizing w with
  | nil => exact .of_eq rfl rfl rfl rfl rfl rfl rfl
  | cons b rest inductionHypothesis =>
      exact (release_releases w b).trans (inductionHypothesis (w.release b))

/-- Releasing bindings changes nothing of what the program and running calls hold. -/
@[simp] theorem foldl_release_frame (bs : List BindingId) :
    (bs.foldl release w).views = w.views ∧ (bs.foldl release w).handles = w.handles ∧
      (bs.foldl release w).pinnedViews = w.pinnedViews ∧
      (bs.foldl release w).pinnedContainers = w.pinnedContainers := by
  induction bs generalizing w with
  | nil => exact ⟨rfl, rfl, rfl, rfl⟩
  | cons b rest inductionHypothesis =>
      have tail := inductionHypothesis (w.release b)
      simpa using tail

/-! ### The bindings of views -/

/-- Changing a view in what may change. -/
theorem modifyView_releases (v : ViewId) (f : View → View) (core : ∀ x, (f x).core = x.core)
    (destroyed : ∀ x, x.isDestroyed = true → (f x).isDestroyed = true) :
    Releases w [] (w.modifyView v f) where
  types := rfl
  registries := rfl
  filters := rfl
  listeners := rfl
  viewCount := Array.size_modify
  bindingCount := rfl
  containerCount := rfl
  view u := by
    rw [view_modifyView]
    split
    · next same => rw [same.1]; exact ⟨core _, destroyed _⟩
    · exact ⟨rfl, id⟩
  binding b := by simp [binding, modifyView]
  container c := (Container.keep_of_forall _ _ fun _ _ => by simp).symm

/-- The bindings of a view are released, and no others. -/
theorem releaseBindings_releases (v : ViewId) :
    Releases w (w.view v).bindings (w.releaseBindings v) :=
  (modifyView_releases w v (fun x => { x with bindings := [] }) (fun _ => rfl) fun _ => id).after
    (foldl_release_releases _ _)

/-- Releasing the bindings of a view changes nothing of what the program and running calls hold. -/
@[simp] theorem releaseBindings_frame (v : ViewId) :
    (w.releaseBindings v).handles = w.handles ∧
      (w.releaseBindings v).pinnedViews = w.pinnedViews ∧
      (w.releaseBindings v).pinnedContainers = w.pinnedContainers ∧
      (w.releaseBindings v).views.size = w.views.size := by
  simp [releaseBindings, modifyView]

/-- A view that lost a hold releases bindings, if anything. -/
theorem settle_releases (v : ViewId) : ∃ bs, Releases w bs (w.settle v) := by
  simp only [settle]
  split
  · exact ⟨[], .of_eq rfl rfl rfl rfl rfl rfl rfl⟩
  · exact ⟨_, releaseBindings_releases w v⟩

/-- Destroying a view releases its bindings. -/
theorem destroy_releases (v : ViewId) :
    Releases w (if (w.view v).isDestroyed then [] else (w.view v).bindings) (w.destroy v) := by
  simp only [destroy]
  split
  · exact .of_eq rfl rfl rfl rfl rfl rfl rfl
  · have flagged := modifyView_releases w v (fun x => { x with isDestroyed := true }) (fun _ => rfl)
      fun _ _ => rfl
    have bindings : ((w.modifyView v fun x => { x with isDestroyed := true }).view v).bindings =
        (w.view v).bindings := by
      rw [view_modifyView]
      split <;> rfl
    rw [← bindings]
    exact flagged.after (releaseBindings_releases _ v)

/-- Destroying a view changes nothing of what the program and running calls hold. -/
@[simp] theorem destroy_frame (v : ViewId) :
    (w.destroy v).handles = w.handles ∧ (w.destroy v).pinnedViews = w.pinnedViews ∧
      (w.destroy v).pinnedContainers = w.pinnedContainers := by
  simp only [destroy]
  split
  · exact ⟨rfl, rfl, rfl⟩
  · have rest := releaseBindings_frame (w.modifyView v fun x => { x with isDestroyed := true }) v
    exact ⟨rest.1, rest.2.1, rest.2.2.1⟩

/-- Giving a view a handle releases bindings, if anything else. -/
theorem holdView_releases (handle : String) (v : ViewId) :
    ∃ bs, Releases w bs (w.holdView handle v) := by
  have held : Releases w []
      (w.modifyHandles fun h => { h with views := h.views.insert handle v }) :=
    .of_eq rfl rfl rfl rfl rfl rfl rfl
  simp only [holdView]
  split
  · next u _ =>
    obtain ⟨bs, settled⟩ := settle_releases
      (w.modifyHandles fun h => { h with views := h.views.insert handle v }) u
    exact ⟨bs, held.after settled⟩
  · exact ⟨[], held⟩

/-- Taking the handle from a view releases bindings, if anything else. -/
theorem dropView_releases (handle : String) : ∃ bs, Releases w bs (w.dropView handle) := by
  have dropped : Releases w [] (w.modifyHandles fun h => { h with views := h.views.erase handle }) :=
    .of_eq rfl rfl rfl rfl rfl rfl rfl
  simp only [dropView]
  split
  · next v _ =>
    obtain ⟨bs, settled⟩ := settle_releases
      (w.modifyHandles fun h => { h with views := h.views.erase handle }) v
    exact ⟨bs, dropped.after settled⟩
  · exact ⟨[], .of_eq rfl rfl rfl rfl rfl rfl rfl⟩

/-- Ending the hold of a running call releases bindings, if anything else. -/
theorem unpinView_releases : ∃ bs, Releases w bs w.unpinView := by
  simp only [unpinView]
  split
  · exact ⟨[], .of_eq rfl rfl rfl rfl rfl rfl rfl⟩
  · next v rest _ =>
    have unpinned : Releases w [] { w with pinnedViews := rest } :=
      .of_eq rfl rfl rfl rfl rfl rfl rfl
    obtain ⟨bs, settled⟩ := settle_releases { w with pinnedViews := rest } v
    exact ⟨bs, unpinned.after settled⟩

/-- Giving a binding a handle releases the one that had it, and no other. -/
theorem holdBinding_releases (handle : String) (b : BindingId) :
    Releases w (w.handles.bindings.find? handle).toList (w.holdBinding handle b) := by
  have held : Releases w []
      (w.modifyHandles fun h => { h with bindings := h.bindings.insert handle b }) :=
    .of_eq rfl rfl rfl rfl rfl rfl rfl
  simp only [holdBinding]
  split
  · next old found =>
    simp only [found]
    exact held.after (release_releases _ old)
  · next free =>
    rw [free]
    exact held

/-- Taking the handle from a binding releases that one, and no other. -/
theorem dropBinding_releases (handle : String) :
    Releases w (w.handles.bindings.find? handle).toList (w.dropBinding handle) := by
  have dropped : Releases w []
      (w.modifyHandles fun h => { h with bindings := h.bindings.erase handle }) :=
    .of_eq rfl rfl rfl rfl rfl rfl rfl
  simp only [dropBinding]
  split
  · next b found =>
    simp only [found]
    exact dropped.after (release_releases _ b)
  · next free =>
    rw [free]
    exact .of_eq rfl rfl rfl rfl rfl rfl rfl

/-- Giving a binding to a view changes nothing of what the program and running calls hold. -/
@[simp] theorem recordBinding_frame (v : ViewId) (b : BindingId) :
    (w.recordBinding v b).handles = w.handles ∧
      (w.recordBinding v b).pinnedViews = w.pinnedViews ∧
      (w.recordBinding v b).pinnedContainers = w.pinnedContainers := by
  simp only [recordBinding]
  split <;> simp [modifyView]

/-- Giving a binding a handle changes nothing else of what the program and running calls hold. -/
@[simp] theorem holdBinding_frame (handle : String) (b : BindingId) :
    (w.holdBinding handle b).handles =
        { w.handles with bindings := w.handles.bindings.insert handle b } ∧
      (w.holdBinding handle b).pinnedViews = w.pinnedViews ∧
      (w.holdBinding handle b).pinnedContainers = w.pinnedContainers := by
  simp only [holdBinding]
  split <;> simp [modifyHandles]

/-- A binding that comes to a destroyed view is released, and no other ever is. -/
theorem recordBinding_releases (v : ViewId) (b : BindingId) :
    Releases w (if (w.view v).isDestroyed then [b] else []) (w.recordBinding v b) := by
  simp only [recordBinding]
  split
  · exact release_releases w b
  · exact modifyView_releases w v _ (fun _ => rfl) fun _ => id

/-- A view whose bindings are released has none left, and others keep theirs. -/
theorem view_releaseBindings (u v : ViewId) :
    (w.releaseBindings u).view v =
      if v = u then { w.view u with bindings := [] } else w.view v := by
  simp only [releaseBindings, view, (foldl_release_frame _ _).1]
  exact getD_modify_of_fixed _ _ _ rfl

/-- A view that is destroyed has no bindings left, and others keep theirs. -/
theorem view_destroy {u : ViewId} (made : u < w.views.size) (alive : (w.view u).isDestroyed = false)
    (v : ViewId) :
    (w.destroy u).view v =
      if v = u then { w.view u with isDestroyed := true, bindings := [] } else w.view v := by
  simp only [destroy, alive, Bool.false_eq_true, ↓reduceIte, view_releaseBindings, view_modifyView, made,
    and_true]
  split <;> rfl

/-- A view that lost a hold changes nothing of what the program and running calls hold. -/
@[simp] theorem settle_frame (v : ViewId) :
    (w.settle v).handles = w.handles ∧ (w.settle v).pinnedViews = w.pinnedViews ∧
      (w.settle v).pinnedContainers = w.pinnedContainers ∧
      (w.settle v).views.size = w.views.size := by
  simp only [settle]
  split <;> simp

@[simp] theorem holdView_frame (handle : String) (v : ViewId) :
    (w.holdView handle v).pinnedViews = w.pinnedViews ∧
      (w.holdView handle v).pinnedContainers = w.pinnedContainers := by
  simp only [holdView]
  split <;> simp [modifyHandles]

/-- Giving a view a handle changes nothing else of what the program holds. -/
theorem handles_holdView (handle : String) (v : ViewId) :
    (w.holdView handle v).handles = { w.handles with views := w.handles.views.insert handle v } := by
  simp only [holdView]
  split
  · rw [(settle_frame _ _).1]
    rfl
  · rfl

/-- Taking the handle from a view changes nothing else of what the program holds. -/
theorem handles_dropView (handle : String) :
    (w.dropView handle).handles = { w.handles with views := w.handles.views.erase handle } ∨
      (w.dropView handle).handles = w.handles := by
  simp only [dropView]
  split
  · rw [(settle_frame _ _).1]
    exact Or.inl rfl
  · exact Or.inr rfl

/-- Ending the hold of a running call changes nothing of what the program holds. -/
theorem handles_unpinView : w.unpinView.handles = w.handles := by
  simp only [unpinView]
  split
  · rfl
  · exact (settle_frame _ _).1

/-- Taking the handle from a binding changes nothing else of what the program holds. -/
theorem handles_dropBinding (handle : String) :
    (w.dropBinding handle).handles = { w.handles with bindings := w.handles.bindings.erase handle } ∨
      (w.dropBinding handle).handles = w.handles := by
  simp only [dropBinding]
  split
  · rw [(release_frame _ _).2.2.2.2.2.1]
    exact Or.inl rfl
  · exact Or.inr rfl

@[simp] theorem dropView_frame (handle : String) :
    (w.dropView handle).pinnedViews = w.pinnedViews ∧
      (w.dropView handle).pinnedContainers = w.pinnedContainers := by
  simp only [dropView]
  split <;> simp [modifyHandles]

@[simp] theorem dropBinding_frame (handle : String) :
    (w.dropBinding handle).pinnedViews = w.pinnedViews ∧
      (w.dropBinding handle).pinnedContainers = w.pinnedContainers := by
  simp only [dropBinding]
  split <;> simp [modifyHandles]

end World

end LiveTemplate
