import LiveTemplate.Proofs.Run.Performing
import LiveTemplate.Proofs.Run.Callbacks
import LiveTemplate.Proofs.Run.Coverage

/-!
The sources of a binding are fixed when its bind begins.  Identifiers may come to have nearer sources
afterwards, the owners of the sources may be destroyed or dropped, and other bindings may come and go; none of
this calls the callback or releases the binding, and none of it changes what the binding is evaluated to.  Only
a value that is stored under the same key of the same container does, or a filter that is registered for the
type of the view.
-/

namespace LiveTemplate

/-- Calling a callback stores nothing. -/
theorem World.valueAfter_append_of_given {w : World} {sources : Sources} {entries : List Moment} {m : Moment}
    {l : ListenerId} (given : (m.given? l).isSome) :
    w.valueAfter sources (entries ++ [m]) = w.valueAfter sources entries := by
  obtain ⟨label, call, isCalled⟩ := Moment.given?_eq_some.mp (Option.eq_some_of_isSome given)
  have nothing : ∀ c key, m.stored? c key = none := by
    intro c key
    simp only [Moment.stored?, isCalled]
  funext identifier
  simp only [World.valueAfter, lastStored?_append, lastStored?_singleton, nothing, Option.none_or]

namespace Run

variable {r r' : Run} {v : ViewId} {b : BindingId} {t : Template} {q : RegistryId} {sources : Sources}

/-- The binding that was made last was made for a view from some sources, and they are its sources for good. -/
structure Fixes (r : Run) (v : ViewId) (sources : Sources) (q : RegistryId) (t : Template) (b : BindingId)
    (r' : Run) : Prop where
  isNew : r.world.bindings.size ≤ b ∧ r'.world.bindings.size = b + 1
  /-- What the binding was made with never changes. -/
  kept : ∀ later, Reaches r' later → let x := later.world.binding b
    x.template = t ∧ x.registry = q ∧ x.sources = sources ∧
      x.listener = (r'.world.binding b).listener
  /-- It stays active until it is released in person, loses its handle, or its own view ends. -/
  lasts : ∀ later last, Reaches r' later → Reaches later last → (later.world.binding b).isActive →
    (last.world.binding b).isActive = false →
      ∃ before after, Reaches later before ∧ Next before after ∧ Reaches after last ∧
        before.world.Frees v b after.world
  /-- Nothing calls the callback but the setting of a source: whatever user code performs, and whenever it
  starts, in every initial part of what it does the callback is called at most as often as a source is set. -/
  covered : ∀ began, Reaches .start began → ∀ room steps part,
    part <+: (performAll (performAt room) steps began).2.since began →
      part.countP (fun m => m.Calls b) ≤ part.countP (·.setsSource b)
  /-- When the binding is told of a change, its callback is called with the composition of the template from
  what was stored last in each source since the bind began, or else what the source held then. -/
  evaluates : ∀ later, Reaches r' later → later.world.FiltersQuiet → (later.world.binding b).isActive →
    ∀ room, ∃ value,
      t.compose (r.world.valueAfter sources (later.since r)) (later.world.pass q) = some value ∧
      (reevaluate (performAll (performAt room)) b later).1 = .ok value ∧
      ∃ m ∈ (refresh (performAll (performAt room)) b later).2.since later,
        m.given? (r'.world.binding b).listener = some value
  /-- Whenever the callback is called, it is called with such a composition. -/
  delivers : ∀ later, Reaches r' later → later.world.FiltersQuiet → ∀ before m rest,
    later.since r = before ++ m :: rest → b < m.world.bindings.size → ∀ value,
      m.given? (r'.world.binding b).listener = some value →
        t.compose (r.world.valueAfter sources before) (m.world.pass q) = some value
  /-- What the binding is evaluated to stays the same, whatever happens, unless a source is set or a filter is
  registered in the registry of the view's type. -/
  undisturbed : ∀ later last, Reaches r' later → Reaches later last → last.world.FiltersQuiet →
    (last.world.binding b).isActive →
    (∀ m ∈ last.since later, m.storesTo sources = false ∧ m.registersIn q = false) →
      ∀ room, (reevaluate (performAll (performAt room)) b last).1 =
        (reevaluate (performAll (performAt room)) b later).1

/-- An active binding is evaluated to what it is composed to, where filters only compute. -/
theorem reevaluate_composed (sound : r.world.Sound) (active : (r.world.binding b).isActive)
    (quiet : r.world.FiltersQuiet) (room : Nat) : ∃ value, r.world.composed b = some value ∧
      (reevaluate (performAll (performAt room)) b r).1 = .ok value := by
  have follows := performAll_follows reaches_closed reaches_dispatches room
  have result := (sound.reevaluate_quiet follows.nothing active quiet).1
  obtain ⟨value, composed⟩ := Option.isSome_iff_exists.mp (sound.subscribed.isSome_composed active)
  refine ⟨value, composed, ?_⟩
  rw [composed] at result
  cases outcome : (reevaluate (performAll (performAt room)) b r).1 with
  | error e => rw [outcome] at result; cases result
  | ok other => rw [outcome] at result; rw [Option.some.inj result]

/-- A binding was made from some sources on the way from one run to another. -/
structure BoundTo (r : Run) (sources : Sources) (q : RegistryId) (t : Template) (b : BindingId) (r' : Run) :
    Prop where
  reached : Reaches .start r
  reaches : Reaches r r'
  isMade : b < r'.world.bindings.size
  containers : ∀ p ∈ sources, p.2 < r.world.containers.size
  isTemplate : (r'.world.binding b).template = t
  isRegistry : (r'.world.binding b).registry = q
  isSources : (r'.world.binding b).sources = sources

namespace BoundTo

variable {middle later : Run}

theorem trans (bound : r.BoundTo sources q t b r') (toLater : Reaches r' later) :
    r.BoundTo sources q t b later where
  reached := bound.reached
  reaches := bound.reaches.trans toLater
  isMade := Nat.lt_of_lt_of_le bound.isMade toLater.grows.bindingCount
  containers := bound.containers
  isTemplate := (toLater.grows.template_eq bound.isMade).trans bound.isTemplate
  isRegistry := (toLater.grows.registry_eq bound.isMade).trans bound.isRegistry
  isSources := (toLater.grows.sources_eq bound.isMade).trans bound.isSources

/-- It was bound to them as soon as it was made. -/
theorem upTo (bound : r.BoundTo sources q t b r') (toMiddle : Reaches r middle)
    (fromMiddle : Reaches middle r') (made : b < middle.world.bindings.size) :
    r.BoundTo sources q t b middle where
  reached := bound.reached
  reaches := toMiddle
  isMade := made
  containers := bound.containers
  isTemplate := (fromMiddle.grows.template_eq made).symm.trans bound.isTemplate
  isRegistry := (fromMiddle.grows.registry_eq made).symm.trans bound.isRegistry
  isSources := (fromMiddle.grows.sources_eq made).symm.trans bound.isSources

theorem reachedEnd (bound : r.BoundTo sources q t b r') : Reaches .start r' :=
  bound.reached.trans bound.reaches

theorem sound (bound : r.BoundTo sources q t b r') : r'.world.Sound :=
  bound.reachedEnd.sound World.Sound.empty

/-- The binding is composed from what was stored since in its sources. -/
theorem composed_eq (bound : r.BoundTo sources q t b r') :
    r'.world.composed b =
      t.compose (r.world.valueAfter sources (r'.since r)) (r'.world.pass q) := by
  simp only [World.composed, bound.isTemplate, bound.isRegistry, bound.isSources,
    bound.reaches.valueIn_eq bound.containers]

theorem evaluates (bound : r.BoundTo sources q t b r') (quiet : r'.world.FiltersQuiet)
    (active : (r'.world.binding b).isActive) (room : Nat) : ∃ value,
      t.compose (r.world.valueAfter sources (r'.since r)) (r'.world.pass q) = some value ∧
      (reevaluate (performAll (performAt room)) b r').1 = .ok value ∧
      ∃ m ∈ (refresh (performAll (performAt room)) b r').2.since r',
        m.given? (r'.world.binding b).listener = some value := by
  obtain ⟨value, composed, result⟩ := reevaluate_composed bound.sound active quiet room
  obtain ⟨label, call, entry⟩ :=
    (bound.reachedEnd.callsRegardless room).again b active value _ (Prod.ext result rfl)
  have follows := performAll_follows reaches_closed reaches_dispatches room
  have evaluated := (reevaluate_reaches reaches_closed follows bound.sound active).1
  refine ⟨value, bound.composed_eq.symm.trans composed, result, _,
    mem_since.mpr ⟨_, evaluated.size_journal_le, entry⟩, ?_⟩
  exact Moment.given?_eq_some.mpr ⟨label, call, rfl⟩

theorem delivers (bound : r.BoundTo sources q t b r') (quiet : r'.world.FiltersQuiet)
    {before rest : List Moment} {m : Moment} (split : r'.since r = before ++ m :: rest)
    (made : b < m.world.bindings.size) {value : Value}
    (given : m.given? (r'.world.binding b).listener = some value) :
    t.compose (r.world.valueAfter sources before) (m.world.pass q) = some value := by
  have mem : m ∈ r'.since r := by
    rw [split]
    exact List.mem_append_right _ List.mem_cons_self
  obtain ⟨middle, toMiddle, fromMiddle, world, entries, _⟩ := bound.reaches.split_since split
  have boundThen := bound.upTo toMiddle fromMiddle (by rw [world]; exact made)
  have listener := (bound.reaches.grows_moment mem).listener_eq made
  rw [listener] at given
  calc t.compose (r.world.valueAfter sources before) (m.world.pass q)
      = t.compose (r.world.valueAfter sources (middle.since r)) (middle.world.pass q) := by
        rw [entries, World.valueAfter_append_of_given (Option.isSome_of_mem given), world]
    _ = m.world.composed b := by rw [← boundThen.composed_eq, world]
    _ = some value := bound.reaches.composed_of_given quiet mem made given

theorem undisturbed (bound : r.BoundTo sources q t b r') (toLater : Reaches r' later)
    (quiet : later.world.FiltersQuiet) (active : (later.world.binding b).isActive)
    (calm : ∀ m ∈ later.since r', m.storesTo sources = false ∧ m.registersIn q = false) (room : Nat) :
    (reevaluate (performAll (performAt room)) b later).1 =
      (reevaluate (performAll (performAt room)) b r').1 := by
  have grows := toLater.grows
  have activeBefore := (grows.binding b bound.isMade).2 active
  obtain ⟨value, composed, result⟩ :=
    reevaluate_composed bound.sound activeBefore (quiet.of_grows grows) room
  obtain ⟨value', composed', result'⟩ :=
    reevaluate_composed (bound.trans toLater).sound active quiet room
  have same : later.world.composed b = r'.world.composed b := by
    apply toLater.composed_eq bound.sound bound.isMade
    intro m mem
    rw [Moment.setsSource_eq, (toLater.grows_to_moment mem).sources_eq bound.isMade, bound.isSources,
      bound.isRegistry]
    exact calm m mem
  rw [composed, composed'] at same
  rw [result, result', Option.some.inj same]

/-- A binding that was just made has its sources for good. -/
theorem fixes (bound : r.BoundTo sources q t b r')
    (isNew : r.world.bindings.size ≤ b ∧ r'.world.bindings.size = b + 1)
    (own : (r'.world.binding b).isActive → ∀ u, b ∈ (r'.world.view u).bindings → u = v) :
    r.Fixes v sources q t b r' where
  isNew := isNew
  kept later toLater := by
    have boundLater := bound.trans toLater
    exact ⟨boundLater.isTemplate, boundLater.isRegistry, boundLater.isSources,
      toLater.grows.listener_eq bound.isMade⟩
  lasts later last toLater toLast active := by
    refine toLast.frees (fun u mem => ?_) active
    exact own ((toLater.grows.binding b bound.isMade).2 active) u
      ((toLater.keeps u b bound.isMade active).mp mem)
  covered began toBegan room steps part isInitial :=
    ((performAll_covers b room).steps steps began
      (toBegan.sound World.Sound.empty)).related.within part isInitial
  evaluates later toLater quiet active room := by
    rw [← toLater.grows.listener_eq bound.isMade]
    exact (bound.trans toLater).evaluates quiet active room
  delivers later toLater quiet before m rest split made value given := by
    rw [← toLater.grows.listener_eq bound.isMade] at given
    exact (bound.trans toLater).delivers quiet split made given
  undisturbed later last toLater toLast quiet active calm room :=
    (bound.trans toLater).undisturbed toLast quiet active calm room

end BoundTo

end Run

/-- Wherever a run has come to: when a step that binds has succeeded, the sources of the new binding are those
that were found when it began, for good.  Only a value that is stored in one of them calls the callback, and
only that or a filter that is registered for the type of the view changes what it is called with; and no other
view takes the binding with it when it ends. -/
theorem bind_fixes_sources {r : Run} (reached : Run.Reaches .start r) (room : Nat) {step : Step}
    {view template : String} (isBind : step.bound? = some (view, template)) {answer : Answer} {r' : Run}
    (done : performAt room step r = (.ok answer, r')) :
    ∃ v q sources b, r.world.findView view = .ok v ∧ (r.world.typeOf v).registry = some q ∧
      r.world.resolveAll v (Template.parse template).identifiers = .ok sources ∧
      r.Fixes v sources q (Template.parse template) b r' := by
  rcases performAt_made (reached.sound World.Sound.empty) room isBind with ⟨fault, run⟩ |
    ⟨_, _, v, run, found, made⟩
  · rw [run] at done
    cases done
  · rw [run] at done
    cases done
    obtain ⟨b, sources, makes⟩ := made.makes
    have own : (r'.world.binding b).isActive → ∀ u, b ∈ (r'.world.view u).bindings → u = v :=
      fun active u mem => Step.eq_of_keeper_eq_view ((makes.has active (.view u)).mp mem).symm
    refine ⟨v, _, sources, b, found, makes.typed, makes.resolved,
      Run.BoundTo.fixes ?_ ⟨makes.isNew, makes.isLast⟩ own⟩
    refine ⟨reached, made.reaches Run.reaches_closed, Nat.lt_of_lt_of_eq (Nat.lt_succ_self b) makes.isLast.symm, ?_,
      makes.isTemplate, rfl, makes.isSources⟩
    intro p mem
    exact World.lt_size_of_find? _ ((World.resolveAll_spec makes.resolved).2 p mem)

/-- A view that inherits a value from its owner. -/
def inheritedSource : List Step := [
  .newType "T" "T" (some .plainInterpolation),
  .create "T" "parent" none [("x", .bool false)] [] none,
  .create "T" "child" none [] [] (some "parent")]

/-- A bind whose callback gives its view a value of its own on the first call. -/
def shadowedByCallback : Step :=
  .bind "child" "{{x}}" "cb" [⟨some 1, [.set (.ofView "child") "x" (.bool true)]⟩]

/-- What the bind leaves behind. -/
def shadowedBound : Outcome × Run :=
  performAt nestingLimit shadowedByCallback (session nestingLimit inheritedSource)

theorem bind_fixes_sources_shadowedByCallback :
    let r := session nestingLimit inheritedSource
    (∃ answer, shadowedBound = (.ok answer, shadowedBound.2)) ∧
      ∃ v q sources b, r.world.findView "child" = .ok v ∧ (r.world.typeOf v).registry = some q ∧
        r.world.resolveAll v (Template.parse "{{x}}").identifiers = .ok sources ∧
        r.Fixes v sources q (Template.parse "{{x}}") b shadowedBound.2 ∧
        (shadowedBound.2.world.binding b).isActive := by
  intro r
  obtain ⟨answer, bound⟩ : ∃ answer, shadowedBound = (.ok answer, shadowedBound.2) :=
    Act.exists_ok shadowedBound (by decide +kernel)
  obtain ⟨v, q, sources, b, found, typed, resolved, fixes⟩ :=
    bind_fixes_sources (session_reaches nestingLimit inheritedSource) nestingLimit rfl bound
  have active : (shadowedBound.2.world.binding 0).isActive := by decide +kernel
  have count : shadowedBound.2.world.bindings.size = 1 := by decide +kernel
  have first : b = 0 := by
    have last := fixes.isNew.2
    rw [count] at last
    exact (Nat.succ.inj last).symm
  exact ⟨⟨answer, bound⟩, v, q, sources, b, found, typed, resolved, fixes, first ▸ active⟩

end LiveTemplate
