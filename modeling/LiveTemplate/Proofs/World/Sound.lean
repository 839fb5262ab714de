import LiveTemplate.Proofs.World.Change

/-!
The worlds that steps can lead to.  A world is sound if its subscriber lists are in order, every binding has
its keeper, and every number names something that was made.  Changes, deeds and the storing of values keep a
world sound; these are all there is.
-/

namespace LiveTemplate.World

/-- What holds of every world that steps lead to. -/
structure Sound (w : World) : Prop where
  subscribed : w.Subscribed
  kept : w.Kept
  numbered : w.Numbered
  receipted : w.Receipted

/-- The steps of a program that subscribe, unsubscribe or register, when they succeed, with their
answers. -/
inductive Deed (w : World) : Step → Answer → World → Prop where
  | subscribe {target : Target} {key subscription : String}
      {reactions : List (Reaction Step)} {answer : Answer} {w' : World}
      (done : w.listen target key subscription reactions = .ok (answer, w')) :
      Deed w (.subscribe target key subscription reactions) answer w'
  | unsubscribe {subscription : String} {answer : Answer} {w' : World}
      (done : w.unlisten subscription = .ok (answer, w')) :
      Deed w (.unsubscribe subscription) answer w'
  | registerFilter {type name : String} {code : FilterCode Step} {t : TypeId} {w' : World}
      (done : w.registerOn t name code = .ok w') :
      Deed w (.registerFilter type name code) .done w'
  | usePlugin {type : String} {plugin : Plugin Step} {t : TypeId} {w' : World}
      (done : w.usePlugin t plugin = .ok w') : Deed w (.usePlugin type plugin) (.flag true) w'

variable {w w' : World}

/-- What succeeds in two parts succeeds in the first. -/
theorem exists_of_bind_eq_ok {ε α β : Type} {first : Except ε α} {second : α → Except ε β} {b : β}
    (done : first >>= second = .ok b) : ∃ a, first = .ok a ∧ second a = .ok b := by
  cases first with
  | error e => cases done
  | ok a => exact ⟨a, rfl, done⟩

/-- A container that the program can name was made. -/
theorem findTarget_lt_size (h : w.Numbered) {target : Target} {c : ContainerId}
    (found : w.findTarget target = .ok c) : c < w.containers.size := by
  cases target with
  | ofView view =>
      simp only [findTarget] at found
      cases isFound : w.handles.views.find? view with
      | none => rw [isFound] at found; cases found
      | some v =>
          rw [isFound] at found
          rw [← Except.ok.inj found]
          exact h.stated v (h.heldViews v (OrderedMap.mem_values_of_find? isFound))
  | state handle =>
      simp only [findTarget] at found
      cases isFound : w.handles.states.find? handle with
      | none => rw [isFound] at found; cases found
      | some d =>
          rw [isFound] at found
          rw [← Except.ok.inj found]
          exact h.heldStates d (OrderedMap.mem_values_of_find? isFound)

/-- What subscribing a handler of the program does, when it succeeds. -/
theorem listen_eq {target : Target} {key subscription : String}
    {reactions : List (Reaction Step)} {answer : Answer}
    (done : w.listen target key subscription reactions = .ok (answer, w')) :
    ∃ c, w.findTarget target = .ok c ∧
      let listening := (w.addListener subscription reactions).2
      let receipt := (c, (w.container c).nextId)
      w' = (listening.subscribe c key (.listener w.listeners.size)).2.modifyHandles fun h =>
        { h with subscriptions := h.subscriptions.insert subscription receipt } := by
  simp only [listen] at done
  obtain ⟨c, found, listened⟩ := exists_of_bind_eq_ok done
  cases listened
  exact ⟨c, found, rfl⟩

/-- The program ends the subscription that it has under the handle. -/
theorem unlisten_eq {subscription : String} {answer : Answer}
    (done : w.unlisten subscription = .ok (answer, w')) :
    ∃ c id, w.handles.subscriptions.find? subscription = some (c, id) ∧ w' = w.unsubscribe c id := by
  simp only [unlisten] at done
  split at done
  · cases done
  · next c id found =>
    cases done
    exact ⟨c, id, found, rfl⟩

namespace Sound

/-- The world that runs start in is sound. -/
theorem empty : World.empty.Sound := ⟨.empty, .empty, .empty, .empty⟩

/-- A change leaves a sound world sound. -/
theorem change (h : w.Sound) (change : Change w w') : w'.Sound :=
  ⟨change.subscribed h.subscribed, change.kept h.kept, change.numbered h.numbered,
    change.receipted h.receipted⟩

/-- Registering leaves a sound world sound. -/
theorem equips (h : w.Sound) (equips : Equips w w') : w'.Sound := by
  obtain ⟨views, containers, listeners, bindings, handles, pinned, _⟩ := equips.same
  refine ⟨?_, ?_, h.numbered.equips equips, h.receipted.of_grows (.of_equips equips) (by rw [handles])⟩
  · refine h.subscribed.of_lists_eq (fun b => ?_) (fun c => ?_) (fun c => ?_) (fun c key => ?_) <;>
      simp only [binding, bindings, container, containers, imp_self]
  · exact h.kept.of_same views (by rw [handles]) pinned bindings (by rw [handles])

/-- Storing a value leaves a sound world sound. -/
theorem store (h : w.Sound) (c : ContainerId) (key : String) (value : Value) :
    (w.store c key value).Sound := by
  have grows := Grows.store w c key value
  have lists : ∀ d, ((w.store c key value).container d).subscribers =
        (w.container d).subscribers ∧
      ((w.store c key value).container d).nextId = (w.container d).nextId := by
    intro d
    rw [container_store]
    split
    · next here => rw [here.1]; exact ⟨rfl, rfl⟩
    · exact ⟨rfl, rfl⟩
  refine ⟨?_, h.kept.of_same rfl rfl rfl rfl rfl, ?_, h.receipted.of_grows grows rfl⟩
  · exact h.subscribed.of_lists_eq (fun _ => rfl) (fun d => (lists d).1) (fun d => (lists d).2) grows.keys
  · exact h.numbered.of_lists_eq grows rfl rfl rfl rfl rfl fun d => (lists d).1

/-- A new subscription of the program stands last in its list. -/
private theorem listen (h : w.Sound) {target : Target} {key subscription : String}
    {reactions : List (Reaction Step)} {answer : Answer}
    (done : w.listen target key subscription reactions = .ok (answer, w')) : w'.Sound := by
  obtain ⟨c, found, rfl⟩ := listen_eq done
  have made : c < w.containers.size := findTarget_lt_size h.numbered found
  have heard := h.change (.addListener subscription reactions)
  have hasListener : w.listeners.size < (w.addListener subscription reactions).2.listeners.size := by
    simp [addListener]
  have grows := Grows.subscribe (w.addListener subscription reactions).2 c key
    (.listener w.listeners.size)
  have subscribed := heard.subscribed.subscribe c key w.listeners.size
  have kept : ((w.addListener subscription reactions).2.subscribe c key
      (.listener w.listeners.size)).2.Kept := heard.kept.of_same rfl rfl rfl rfl rfl
  have receipted := heard.receipted.of_grows grows rfl
  refine ⟨subscribed.of_lists_eq (fun _ => rfl) (fun _ => rfl) (fun _ => rfl) fun _ _ => id,
    kept.of_same rfl rfl rfl rfl rfl, ?_, ?_⟩
  · exact (heard.numbered.subscribe c key hasListener).releases
      (.of_eq rfl rfl rfl rfl rfl rfl rfl) (fun _ => Or.inl) (fun _ => Or.inl) fun _ => Or.inl
  · intro p mem
    rcases OrderedMap.mem_values_insert mem with rfl | before
    · -- the number that was given is that of the last entry
      have nextId : (((w.addListener subscription reactions).2.subscribe c key
          (.listener w.listeners.size)).2.container c).nextId = (w.container c).nextId + 1 := by
        rw [container_subscribe, if_pos ⟨rfl, made⟩]
        rfl
      have list : (((w.addListener subscription reactions).2.subscribe c key
          (.listener w.listeners.size)).2.container c).subscribers =
            (w.container c).subscribers ++
              [⟨(w.container c).nextId, key, .listener w.listeners.size⟩] := by
        rw [container_subscribe, if_pos ⟨rfl, made⟩]
        rfl
      refine ⟨Nat.lt_of_lt_of_le made grows.containerCount, ?_, ?_⟩
      · exact Nat.lt_of_lt_of_eq (Nat.lt_succ_self _) nextId.symm
      · intro s inList same
        rcases List.mem_append.mp (list ▸ inList) with old | new
        · have below := (h.subscribed.ordered c).below s old
          rw [same] at below
          exact absurd below (Nat.lt_irrefl _)
        · rw [List.mem_singleton.mp new]
          exact ⟨_, rfl⟩
    · exact receipted p before

/-- Ending a subscription leaves the others in order. -/
private theorem unlisten (h : w.Sound) {subscription : String} {answer : Answer}
    (done : w.unlisten subscription = .ok (answer, w')) : w'.Sound := by
  obtain ⟨c, id, found, rfl⟩ := unlisten_eq done
  have receipt := h.receipted (c, id) (OrderedMap.mem_values_of_find? found)
  exact ⟨h.subscribed.unsubscribe receipt.2.2, h.kept.of_same rfl rfl rfl rfl rfl,
    h.numbered.unsubscribe c id, h.receipted.of_grows (.unsubscribe ..) rfl⟩

/-- A deed leaves a sound world sound. -/
theorem deed (h : w.Sound) {step : Step} {answer : Answer}
    (deed : Deed w step answer w') : w'.Sound := by
  cases deed with
  | subscribe done => exact h.listen done
  | unsubscribe done => exact h.unlisten done
  | registerFilter done => exact h.equips (.registerOn done)
  | usePlugin done => exact h.equips (Equips.usePlugin done).1

end Sound

namespace Deed

variable {step : Step} {answer : Answer}

/-- Whatever a deed does, everything is still there. -/
theorem grows (deed : Deed w step answer w') : Grows w w' := by
  cases deed with
  | subscribe done =>
      obtain ⟨c, _, rfl⟩ := listen_eq done
      exact ((Grows.addListener w ..).trans (Grows.subscribe _ c ..)).trans
        (.of_releases (.of_eq rfl rfl rfl rfl rfl rfl rfl))
  | unsubscribe done =>
      obtain ⟨c, id, _, rfl⟩ := unlisten_eq done
      exact .unsubscribe w c id
  | registerFilter done => exact .of_equips (.registerOn done)
  | usePlugin done => exact .of_equips (Equips.usePlugin done).1

/-- A deed leaves the views and their holds alone. -/
theorem same (deed : Deed w step answer w') :
    w'.views = w.views ∧ w'.bindings = w.bindings ∧ w'.pinnedViews = w.pinnedViews ∧
      w'.pinnedContainers = w.pinnedContainers := by
  cases deed with
  | subscribe done => obtain ⟨c, _, rfl⟩ := listen_eq done; exact ⟨rfl, rfl, rfl, rfl⟩
  | unsubscribe done => obtain ⟨c, id, _, rfl⟩ := unlisten_eq done; exact ⟨rfl, rfl, rfl, rfl⟩
  | registerFilter done =>
      obtain ⟨views, _, _, bindings, _, pinned⟩ := (Equips.registerOn done).same
      exact ⟨views, bindings, pinned⟩
  | usePlugin done =>
      obtain ⟨views, _, _, bindings, _, pinned⟩ := (Equips.usePlugin done).1.same
      exact ⟨views, bindings, pinned⟩

/-- A deed puts handles on subscriptions alone. -/
theorem sameHandles (deed : Deed w step answer w') :
    w'.handles.views = w.handles.views ∧ w'.handles.bindings = w.handles.bindings := by
  cases deed with
  | subscribe done => obtain ⟨c, _, rfl⟩ := listen_eq done; exact ⟨rfl, rfl⟩
  | unsubscribe done => obtain ⟨c, id, _, rfl⟩ := unlisten_eq done; exact ⟨rfl, rfl⟩
  | registerFilter done =>
      have handles := (Equips.registerOn done).same.2.2.2.2.1
      exact ⟨by rw [handles], by rw [handles]⟩
  | usePlugin done =>
      have handles := (Equips.usePlugin done).1.same.2.2.2.2.1
      exact ⟨by rw [handles], by rw [handles]⟩

/-- Only registering a filter writes to a registry that was there before, and it writes to one. -/
theorem registry_eq_or (deed : Deed w step answer w') {q : RegistryId} (made : q < w.registries.size) :
    w'.registry q = w.registry q ∨ step.registersFilter ∧ w'.hasNewest q := by
  cases deed with
  | subscribe done => obtain ⟨c, _, rfl⟩ := listen_eq done; exact Or.inl rfl
  | unsubscribe done => obtain ⟨c, id, _, rfl⟩ := unlisten_eq done; exact Or.inl rfl
  | registerFilter done =>
      obtain ⟨r, _, isRegistered⟩ := Equips.registerOn_eq done
      exact (Equips.registry_of_register? isRegistered q).imp_right fun newest => ⟨rfl, newest⟩
  | usePlugin done => exact (Equips.usePlugin done).2 q made

/-- A deed stores no values. -/
theorem values_eq (deed : Deed w step answer w') (c : ContainerId) :
    (w'.container c).values = (w.container c).values := by
  cases deed with
  | subscribe done =>
      obtain ⟨d, _, rfl⟩ := listen_eq done
      refine Eq.trans (congrArg Container.values (container_subscribe
        (w.addListener _ _).2 d c _ (.listener w.listeners.size))) ?_
      split
      · next here => rw [here.1]; rfl
      · rfl
  | unsubscribe done =>
      obtain ⟨d, id, _, rfl⟩ := unlisten_eq done
      rw [container_unsubscribe, Container.values_keep]
  | registerFilter done => rw [container, (Equips.registerOn done).same.2.1]; rfl
  | usePlugin done => rw [container, (Equips.usePlugin done).1.same.2.1]; rfl

end Deed

end LiveTemplate.World
