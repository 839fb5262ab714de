import LiveTemplate.Proofs.Template.Composition
import LiveTemplate.Proofs.World.Sound

/-!
What the template of a binding is composed to in a world: each identifier has the value that its source
holds, and the filters are those that are registered now.  An active binding can always read its sources,
since it is subscribed to each of them.
-/

namespace LiveTemplate.World

/-- Whether no filter performs a step when it is called. -/
def FiltersQuiet (w : World) : Prop :=
  ∀ f < w.filters.size, ∀ reaction ∈ (w.filter f).code.reactions, reaction.steps = []

instance (w : World) : Decidable w.FiltersQuiet :=
  inferInstanceAs (Decidable (∀ f, f < w.filters.size →
    ∀ reaction ∈ (w.filter f).code.reactions, reaction.steps = []))

/-- What the filters of some names make of a value, as they are registered. -/
def pass (w : World) (r : RegistryId) (names : List String) (value : Value) : Value :=
  names.foldl
    (fun value name =>
      match (w.registry r).find? name with
      | some f => (w.filter f).code.transform.apply value
      | none => value)
    value

/-- The value that the source of an identifier holds. -/
def valueIn (w : World) (sources : Sources) (identifier : String) : Option Value :=
  (sources.lookup identifier).bind fun c => (w.container c).values.find? identifier

/-- What the template of a binding is composed to from the values that its sources hold. -/
def composed (w : World) (b : BindingId) : Option Value :=
  let x := w.binding b
  x.template.compose (w.valueIn x.sources) (w.pass x.registry)

variable {w w' : World}

/-- Filters were quiet before if they are quiet later. -/
theorem FiltersQuiet.of_grows (quiet : w'.FiltersQuiet) (grows : Grows w w') : w.FiltersQuiet := by
  intro f made reaction mem
  rw [← grows.code f made] at mem
  exact quiet f (Nat.lt_of_lt_of_le made grows.filterCount) reaction mem

theorem exists_lookup {sources : Sources} {x : String} (mem : x ∈ sources.map Prod.fst) :
    ∃ c, sources.lookup x = some c ∧ (x, c) ∈ sources := by
  induction sources with
  | nil => simp at mem
  | cons source rest inductionHypothesis =>
      rcases source with ⟨y, c⟩
      by_cases here : x = y
      · subst here
        exact ⟨c, by simp, List.mem_cons_self⟩
      · have differs : (x == y) = false := by simpa using here
        obtain ⟨d, found, inRest⟩ := inductionHypothesis
          ((List.mem_cons.mp mem).resolve_left here)
        exact ⟨d, by rw [List.lookup_cons, differs]; exact found, List.mem_cons_of_mem _ inRest⟩

theorem mem_of_lookup {sources : Sources} {x : String} {c : ContainerId}
    (found : sources.lookup x = some c) : (x, c) ∈ sources := by
  obtain ⟨before, after, split, _⟩ := List.lookup_eq_some_iff.mp found
  rw [split]
  exact List.mem_append_right _ List.mem_cons_self

/-- A container that an active binding has a source in is held. -/
theorem Subscribed.isHeld (h : w.Subscribed) {b : BindingId} (active : (w.binding b).isActive)
    {p : String × ContainerId} (mem : p ∈ (w.binding b).sources) : w.isHeld p.2 := by
  have made := lt_size_of_isActive w active
  have subscribed : p.2 ∈ (w.binding b).subscriptions.map Prod.fst := by
    rw [h.matched b active]
    exact List.mem_map_of_mem mem
  obtain ⟨subscription, inList, same⟩ := List.mem_map.mp subscribed
  have found : w.binding b = w.bindings[b] := by simp [binding, Array.getD, made]
  simp only [found] at inList
  simp only [World.isHeld, Bool.or_eq_true]
  refine Or.inr (Array.any_eq_true.mpr ⟨b, made, ?_⟩)
  exact List.any_eq_true.mpr ⟨subscription, inList, by simpa using same⟩

/-- An active binding reads what its sources hold. -/
theorem Subscribed.read?_eq (h : w.Subscribed) {b : BindingId}
    (active : (w.binding b).isActive) {x : String}
    (mem : x ∈ (w.binding b).template.identifiers) :
    w.read? (w.binding b).sources x = w.valueIn (w.binding b).sources x ∧
      (w.valueIn (w.binding b).sources x).isSome := by
  rw [← h.identified b active] at mem
  obtain ⟨c, found, inSources⟩ := exists_lookup mem
  have held : w.isHeld c := h.isHeld active inSources
  have present := h.present b (x, c) inSources
  simp only [read?, valueIn, found, held, Option.bind_eq_bind, Option.bind_some, ↓reduceIte]
  exact ⟨trivial, present⟩

/-- The composition of an active binding, and what it reads. -/
theorem Subscribed.compose_read? (h : w.Subscribed) {b : BindingId}
    (active : (w.binding b).isActive) :
    (w.binding b).template.compose (w.read? (w.binding b).sources) (w.pass (w.binding b).registry) =
      w.composed b :=
  Template.compose_congr rfl fun _ mem => (h.read?_eq active mem).1

/-- An active binding always has a composition. -/
theorem Subscribed.isSome_composed (h : w.Subscribed) {b : BindingId}
    (active : (w.binding b).isActive) : (w.composed b).isSome :=
  Template.isSome_compose fun _ mem => (h.read?_eq active mem).2

/-- What filters make of a value stays where the registry and the filters in it stay. -/
theorem pass_congr {r : RegistryId} (registry : w'.registry r = w.registry r)
    (code : ∀ name f, (w.registry r).find? name = some f → (w'.filter f).code = (w.filter f).code) :
    w'.pass r = w.pass r := by
  funext names value
  simp only [pass, registry]
  congr 1
  funext value name
  cases found : (w.registry r).find? name with
  | none => rfl
  | some f => simp only [code name f found]

/-- A template is composed to the same where the sources keep their values and the registry its filters. -/
theorem compose_eq (numbered : w.Numbered) (grows : Grows w w') (t : Template) {r : RegistryId}
    {sources : Sources} (registry : w'.registry r = w.registry r)
    (values : ∀ p ∈ sources,
      (w'.container p.2).values.find? p.1 = (w.container p.2).values.find? p.1) :
    t.compose (w'.valueIn sources) (w'.pass r) = t.compose (w.valueIn sources) (w.pass r) := by
  refine Template.compose_congr (pass_congr registry ?_) ?_
  · intro name f found
    exact grows.code f (numbered.registered _ name f found)
  · intro x _
    simp only [valueIn]
    cases found : sources.lookup x with
    | none => rfl
    | some c => exact values (x, c) (mem_of_lookup found)

end LiveTemplate.World
