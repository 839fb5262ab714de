import LiveTemplate.Proofs.Run.Binding
import LiveTemplate.Scene.Instance

/-!
What acts on an instance do.  Its callbacks perform nothing and its filters only compute, so an evaluation
calls nobody, and telling a binding comes to one call of its callback.  In between the world stands still: all
that happens is that callbacks are made, that calls are counted, and that containers are pinned.
-/

namespace LiveTemplate

/-! ### Worlds that stand still -/

/-- A world in which callbacks were made, calls were counted or containers pinned, and nothing else. -/
structure World.Idles (w w' : World) : Prop where
  frame : w' =
    { w with filters := w'.filters, listeners := w'.listeners, pinnedContainers := w'.pinnedContainers }
  filterCount : w'.filters.size = w.filters.size
  grows : Grows w w'

namespace World.Idles

variable {w w' w'' : World}

/-- What idles, and idles on, idles. -/
theorem trans (first : Idles w w') (second : Idles w' w'') : Idles w w'' where
  frame := by rw [second.frame, first.frame]
  filterCount := second.filterCount.trans first.filterCount
  grows := first.grows.trans second.grows

/-- Where calls are counted and nothing else, a world idles. -/
theorem of_counted (counted : Counted w w') : Idles w w' where
  frame := by rw [counted.frame]
  filterCount := counted.count
  grows := counted.grows

theorem addListener (w : World) (label : String) (reactions : List (Reaction Step)) :
    Idles w (w.addListener label reactions).2 :=
  ⟨rfl, rfl, .addListener w label reactions⟩

theorem countListenerCall (w : World) (l : ListenerId) : Idles w (w.countListenerCall l) :=
  ⟨rfl, rfl, .countListenerCall w l⟩

theorem pinContainers (w : World) (cs : List ContainerId) : Idles w (w.pinContainers cs) :=
  ⟨rfl, rfl, .of_releases (.of_eq rfl rfl rfl rfl rfl rfl rfl)⟩

/-- What is as it was. -/
theorem same (h : Idles w w') :
    w'.types = w.types ∧ w'.registries = w.registries ∧ w'.views = w.views ∧
      w'.containers = w.containers ∧ w'.bindings = w.bindings ∧ w'.handles = w.handles ∧
      w'.pinnedViews = w.pinnedViews := by
  rw [h.frame]
  exact ⟨rfl, rfl, rfl, rfl, rfl, rfl, rfl⟩

/-- A world that idles stays sound. -/
theorem sound (h : Idles w w') (sound : w.Sound) : w'.Sound := by
  obtain ⟨types, registries, views, containers, bindings, handles, pinned⟩ := h.same
  have lists : ∀ c, w'.container c = w.container c := fun c => by rw [container, containers]; rfl
  refine ⟨?_, ?_, ?_, ?_⟩
  · exact sound.subscribed.of_lists_eq (fun b => by rw [binding, bindings]; rfl)
      (fun c => by rw [lists]) (fun c => by rw [lists]) fun c key => by rw [lists]; exact id
  · exact sound.kept.of_same views (by rw [handles]) pinned bindings (by rw [handles])
  · exact sound.numbered.of_lists_eq h.grows handles views types registries bindings fun c => by rw [lists]
  · exact sound.receipted.of_grows h.grows (by rw [handles])

/-- Filters that only compute do so while a world idles. -/
theorem quiet (h : Idles w w') (quiet : w.FiltersQuiet) : w'.FiltersQuiet := by
  intro f made reaction mem
  rw [h.filterCount] at made
  rw [h.grows.code f made] at mem
  exact quiet f made reaction mem

/-- A registry passes values alike while a world idles. -/
theorem pass_eq (h : Idles w w') (sound : w.Sound) (r : RegistryId) : w'.pass r = w.pass r := by
  obtain ⟨_, registries, _⟩ := h.same
  refine pass_congr (by rw [registry, registries]; rfl) fun name f found => ?_
  exact h.grows.code f (sound.numbered.registered r name f found)

end World.Idles

/-! ### Calls in the journal -/

/-- The calls that are noted with one more entry. -/
theorem callsOf_push (journal : Array Moment) (m : Moment) :
    callsOf (journal.push m) = callsOf journal ++ callsOf #[m] := by
  simp only [callsOf, Array.toList_push, List.filterMap_append]

/-- A run that has gone on without the call of a callback. -/
def Run.Silent (r r' : Run) : Prop :=
  callsOf r'.journal = callsOf r.journal

/-- Filters that perform nothing are called in silence. -/
theorem Run.Silent.filtering : Run.Filtering Run.Silent where
  refl _ := rfl
  trans first second := second.trans first
  filtered _ _ _ := (callsOf_push _ _).trans (List.append_nil _)

namespace Instance

/-- Callbacks of an instance react by nothing. -/
theorem react_eq (reactions : List (Reaction Step)) (call : Nat) (r : Run) :
    react perform reactions call r = ((), r) := by
  induction reactions with
  | nil => rfl
  | cons reaction rest inductionHypothesis =>
      have head : (if reaction.call.all (· == call) then perform reaction.steps else pure ()) = pure () :=
        ite_self _
      show ((if reaction.call.all (· == call) then perform reaction.steps else pure ()) >>=
        fun _ => react perform rest call) r = ((), r)
      rw [head]
      exact inductionHypothesis

/-- The call of a callback is counted and noted, and nothing else. -/
theorem callListener_eq (l : ListenerId) (occurrence : String → Nat → Occurrence) (r : Run) :
    callListener perform l occurrence r =
      ((), (r.turn (r.world.countListenerCall l)).note
        (occurrence (r.world.listener l).label ((r.world.listener l).calls + 1))) :=
  react_eq _ _ _

/-- What callbacks of an instance perform goes along whatever goes nowhere. -/
theorem perform_along {R : Run → Run → Prop} (filtering : Run.Filtering R) : perform.Along R :=
  fun _ => .pure filtering ()

/-- A template is evaluated in silence. -/
theorem evaluate_silent (scope : Scope) (t : Template) : (evaluate perform scope t).Along Run.Silent :=
  evaluate_along Run.Silent.filtering (perform_along Run.Silent.filtering) scope t

/-! ### Evaluating, telling and binding -/

variable {r : Run}

/-- An instance performs nothing. -/
private theorem perform_nothing : perform [] = pure () := rfl

/-- The template of sources that are pinned has a value, its composition. -/
theorem evaluate_spec {sources : Sources} {t : Template} (computes : r.world.Computes)
    (pins : ∀ x ∈ t.identifiers, r.world.Pins sources x) (q : RegistryId) (viewLabel : String) :
    ∃ value evaluated, evaluate perform ⟨q, sources, viewLabel⟩ t r = (.ok value, evaluated) ∧
      t.compose (r.world.valueIn sources) (r.world.pass q) = some value ∧
      World.Counted r.world evaluated.world ∧ callsOf evaluated.journal = callsOf r.journal := by
  obtain ⟨value, evaluated, result, composed, counted⟩ :=
    evaluate_pinned perform_nothing (computes.quietOn q t) pins viewLabel
  have silent := evaluate_silent ⟨q, sources, viewLabel⟩ t r
  rw [result] at silent
  exact ⟨value, evaluated, result, composed, counted, silent⟩

/-- An active binding that is told something calls its callback with its composition. -/
theorem refresh_spec {b : BindingId} (sound : r.world.Sound) (quiet : r.world.FiltersQuiet)
    (active : (r.world.binding b).isActive) :
    ∃ value r', refresh perform b r = ((), r') ∧ r.world.composed b = some value ∧
      World.Idles r.world r'.world ∧ callsOf r'.journal =
        callsOf r.journal ++ [⟨(r.world.listener (r.world.binding b).listener).label, value⟩] := by
  obtain ⟨value, composed⟩ := Option.isSome_iff_exists.mp (sound.subscribed.isSome_composed active)
  obtain ⟨isValue, counted⟩ := sound.reevaluate_quiet perform_nothing active quiet
  have silent : callsOf (reevaluate perform b r).2.journal = callsOf r.journal :=
    (evaluate_silent _ _ _).trans ((callsOf_push _ _).trans (List.append_nil _))
  have refreshed := refresh_of_active perform active
  cases result : reevaluate perform b r with
  | mk outcome evaluated =>
      rw [result] at isValue counted silent refreshed
      rw [composed] at isValue
      cases outcome with
      | error e => cases isValue
      | ok given =>
          cases isValue
          let l := (r.world.binding b).listener
          have idles := World.Idles.of_counted counted
          have listener : evaluated.world.listener l = r.world.listener l := by
            rw [World.listener, counted.frame]
            rfl
          refine ⟨value, _, refreshed.trans (callListener_eq _ _ _), composed,
            idles.trans (.countListenerCall _ _), ?_⟩
          rw [← silent, ← listener]
          exact callsOf_push _ _

/-- A bind whose identifiers have sources calls the callback with the composition, and then the binding can
be made and is. -/
theorem bindWith_spec {q : RegistryId} {v : ViewId} {template : String} {sources : Sources}
    (sound : r.world.Sound) (quiet : r.world.FiltersQuiet) (hasRegistry : q < r.world.registries.size)
    (resolved : r.world.resolveAll v (Template.parse template).identifiers = .ok sources)
    (label : String) (reactions : List (Reaction Step)) :
    let l := r.world.listeners.size
    ∃ (value : Value) (before : Run), bindWith perform q v template label reactions r =
        (.ok (value, before.world.bindings.size), before.turn ((before.world.addBinding
          (Template.parse template) q (r.world.label v) sources l).2.unpinContainers sources.length)) ∧
      (Template.parse template).compose (r.world.valueIn sources) (r.world.pass q) = some value ∧
      World.Idles r.world before.world ∧ before.world.Bindable (Template.parse template) q sources l ∧
      (before.world.listener l).label = label ∧
      callsOf before.journal = callsOf r.journal ++ [⟨label, value⟩] := by
  intro l
  let pinned := r.turn (r.world.pinContainers (sources.map Prod.snd))
  have pinning : World.Idles r.world pinned.world := .pinContainers _ _
  obtain ⟨names, present⟩ := World.resolveAll_spec resolved
  obtain ⟨value, evaluated, result, composed, counted, silent⟩ :=
    evaluate_spec (r := pinned) ((pinning.sound sound).computes (pinning.quiet quiet))
      (fun x mem => World.pins_of_resolveAll resolved mem) q (r.world.label v)
  -- the callback is made and called
  have isNew : evaluated.world.listeners.size = l := by
    rw [counted.frame]
    rfl
  let added := (evaluated.world.addListener label reactions).2
  let before := (evaluated.turn (added.countListenerCall l)).note (.called l label 1 value)
  have listener : added.listener l = ⟨label, reactions, 0⟩ := by
    rw [World.listener_addListener, if_pos isNew.symm]
  have called : callListener perform l (.called l · · value) (evaluated.turn added) = ((), before) := by
    rw [callListener_eq, show (evaluated.turn added).world.listener l = _ from listener]
    rfl
  have introduced : evaluated.introduced perform label reactions value = before := by
    simp only [Run.introduced, isNew]
    exact congrArg Prod.snd called
  have idles : World.Idles r.world before.world :=
    (pinning.trans (.of_counted counted)).trans
      ((World.Idles.addListener _ label reactions).trans (.countListenerCall _ l))
  refine ⟨value, before, ?_, composed, idles, ⟨names, ?_, ?_, ?_, ?_⟩, ?_, ?_⟩
  · rw [bindWith_of_evaluate resolved result, introduced, isNew]
  · intro p mem
    rw [World.container, idles.same.2.2.2.1]
    exact present p mem
  · rw [idles.same.2.1]
    exact hasRegistry
  · show l < (evaluated.world.listeners.push _ |>.modify l _).size
    rw [Array.size_modify, Array.size_push, isNew]
    exact Nat.lt_succ_self l
  · intro b made
    rw [idles.same.2.2.2.2.1] at made
    rw [World.binding, idles.same.2.2.2.2.1]
    exact Nat.ne_of_lt (sound.numbered.bound b made).2
  · exact (World.listener_countListenerCall added l l).1.trans (by rw [listener])
  · have noted : callsOf before.journal = callsOf evaluated.journal ++ [⟨label, value⟩] := callsOf_push _ _
    rw [noted, silent]
    rfl

end Instance

end LiveTemplate
