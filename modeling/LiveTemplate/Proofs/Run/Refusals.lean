import LiveTemplate.Proofs.Run.Installation
import LiveTemplate.Proofs.Run.Resolution

/-!
Templates that are refused.  A template can be interpolated once, or bound to a callback; both look at the
view, at its type and at the identifiers in the same order, and before anything happens.  So both are refused
in the same cases with the same error and without any effect; and where they are not refused, both come to
the same value, which is what the callback is called with.
-/

namespace LiveTemplate

namespace World

variable {w : World} {v : ViewId} {t : Template} {e : ViewError}

/-- No state has an identifier on the way from a view along its owners. -/
def Lacks (w : World) (v : ViewId) (x : String) : Prop :=
  ∀ links u, w.ancestor? v links = some u → (w.stateOf u).values.find? x = none

/-- Why a view refuses a template: it is destroyed; or else its type has no interpolation; or else some
identifier is missing, and this is the first one in the template that is. -/
inductive Refuses (w : World) (v : ViewId) (t : Template) : ViewError → Prop
  | destroyed (gone : (w.view v).isDestroyed = true) : Refuses w v t (.destroyed (w.label v))
  | notInstalled (alive : (w.view v).isDestroyed = false) (bare : (w.typeOf v).registry = none) :
      Refuses w v t (.interpolationNotInstalled (w.typeOf v).name)
  | unresolved {before after : List String} {x : String} (alive : (w.view v).isDestroyed = false)
      (installed : (w.typeOf v).registry ≠ none)
      (split : t.placeholders.map (·.identifier) = before ++ x :: after)
      (found : ∀ y ∈ before, ¬ w.Lacks v y) (missing : w.Lacks v x) :
      Refuses w v t (.interpolate (.unresolvedIdentifier x (w.label v)))

/-- A template on a view that takes templates is refused for its first identifier that no state has. -/
theorem OwnersFirst.resolveAll_eq_error_iff_split (h : w.OwnersFirst) {cause : InterpolateError} :
    w.resolveAll v t.identifiers = .error cause ↔
      ∃ before x after, t.placeholders.map (·.identifier) = before ++ x :: after ∧
        (∀ y ∈ before, ¬ w.Lacks v y) ∧ w.Lacks v x ∧
        cause = .unresolvedIdentifier x (w.label v) := by
  have lacks (x : String) : (w.resolve x v).isNone = true ↔ w.Lacks v x := by
    rw [Option.isNone_iff_eq_none, h.resolve_eq_none_iff, Lacks]
  rw [resolveAll_eq_error_iff, Template.find?_identifiers]
  constructor
  · rintro ⟨x, isFirst, isCause⟩
    obtain ⟨missing, before, after, split, found⟩ := List.find?_eq_some_iff_append.mp isFirst
    refine ⟨before, x, after, split, fun y mem isMissing => ?_, (lacks x).mp missing, isCause⟩
    have present := found y mem
    rw [(lacks y).mpr isMissing] at present
    cases present
  · rintro ⟨before, x, after, split, found, missing, isCause⟩
    refine ⟨x, List.find?_eq_some_iff_append.mpr ⟨(lacks x).mpr missing, before, after, split, ?_⟩, isCause⟩
    intro y mem
    have present : ¬ (w.resolve y v).isNone = true := fun none => found y mem ((lacks y).mp none)
    simpa [Option.isSome_iff_ne_none] using present

theorem requireRegistry_eq_error_iff :
    w.requireRegistry v = .error e ↔
      (w.view v).isDestroyed = true ∧ e = .destroyed (w.label v) ∨
        (w.view v).isDestroyed = false ∧ (w.typeOf v).registry = none ∧
          e = .interpolationNotInstalled (w.typeOf v).name := by
  rw [requireRegistry]
  cases (w.view v).isDestroyed with
  | true => simp [eq_comm]
  | false => cases (w.typeOf v).registry <;> simp [eq_comm]

theorem requireRegistry_eq_ok_iff {q : RegistryId} :
    w.requireRegistry v = .ok q ↔
      (w.view v).isDestroyed = false ∧ (w.typeOf v).registry = some q := by
  rw [requireRegistry]
  cases (w.view v).isDestroyed with
  | true => simp
  | false => cases (w.typeOf v).registry <;> simp

/-- A view refuses a template in what it requires first, or else in what it looks up. -/
theorem OwnersFirst.refuses_iff (h : w.OwnersFirst) :
    w.Refuses v t e ↔
      w.requireRegistry v = .error e ∨
        ∃ q cause, w.requireRegistry v = .ok q ∧ w.resolveAll v t.identifiers = .error cause ∧
          e = .interpolate cause := by
  simp only [requireRegistry_eq_error_iff, requireRegistry_eq_ok_iff, h.resolveAll_eq_error_iff_split]
  constructor
  · intro refuses
    cases refuses with
    | destroyed gone => exact .inl (.inl ⟨gone, rfl⟩)
    | notInstalled alive bare => exact .inl (.inr ⟨alive, bare, rfl⟩)
    | unresolved alive installed split found missing =>
        obtain ⟨q, isInstalled⟩ := Option.ne_none_iff_exists'.mp installed
        exact .inr ⟨q, _, ⟨alive, isInstalled⟩, ⟨_, _, _, split, found, missing, rfl⟩, rfl⟩
  · rintro ((⟨gone, rfl⟩ | ⟨alive, bare, rfl⟩) |
      ⟨q, _, ⟨alive, isInstalled⟩, ⟨before, x, after, split, found, missing, rfl⟩, rfl⟩)
    · exact .destroyed gone
    · exact .notInstalled alive bare
    · exact .unresolved alive (by rw [isInstalled]; nofun) split found missing

end World

/-! ### Both ways to interpolate -/

variable {r : Run} {v : ViewId} {template label : String} {q : RegistryId}

/-- A view that refuses all templates does nothing. -/
theorem interpolate_of_required (perform : Perform) {e : ViewError}
    (required : r.world.requireRegistry v = .error e) (template label : String)
    (reactions : List (Reaction Step)) :
    interpolate perform v template r = (.error e, r) ∧
      interpolateWith perform v template label reactions r = (.error e, r) := by
  constructor
  · simp only [interpolate, Act.run_bind, Act.run_world, required]
    rfl
  · simp only [interpolateWith, Act.run_bind, Act.run_world, required]
    rfl

/-- A view on which an identifier is not found does nothing. -/
theorem interpolate_of_unresolved (perform : Perform) {cause : InterpolateError}
    (required : r.world.requireRegistry v = .ok q)
    (unresolved : r.world.resolveAll v (Template.parse template).identifiers = .error cause)
    (label : String) (reactions : List (Reaction Step)) :
    interpolate perform v template r = (.error (.interpolate cause), r) ∧
      interpolateWith perform v template label reactions r = (.error (.interpolate cause), r) := by
  constructor
  · simp only [interpolate, renderWith, Act.run_bind, Act.run_world, required, unresolved]
    rfl
  · simp only [interpolateWith, bindWith, Act.run_bind, Act.run_world, required, unresolved]
    rfl

namespace Run

/-- On the way between two runs, a callback that is new is called for the first time, and with a value; it is
not called again. -/
structure CallsOnce (r : Run) (l : ListenerId) (label : String) (value : Value) (r' : Run) : Prop where
  isNew : r.world.listeners.size ≤ l
  once : ∃ earlier m later, r'.since r = earlier ++ m :: later ∧ m.occurrence = .called l label 1 value ∧
    ∀ other ∈ earlier ++ later, other.given? l = none

/-- What counts is the journal. -/
theorem CallsOnce.of_eq {r' r'' : Run} {l l' : ListenerId} {value : Value}
    (calls : r.CallsOnce l label value r') (isListener : l' = l) (sameJournal : r''.journal = r'.journal) :
    r.CallsOnce l' label value r'' := by
  have once := calls.once
  simp only [since, ← sameJournal] at once
  exact isListener ▸ ⟨calls.isNew, once⟩

/-- The first call of the callback of a template that is being bound, in the journal of the bind. -/
theorem introduced_callsOnce {room : Nat} (sound : r.world.Sound) {sources : List ContainerId} {scope : Scope}
    {t : Template} {value : Value} {evaluated : Run}
    (result : evaluate (performAll (performAt room)) scope t (r.turn (r.world.pinContainers sources)) =
      (.ok value, evaluated)) (label : String) (reactions : List (Reaction Step)) :
    r.CallsOnce evaluated.world.listeners.size label value
      (evaluated.introduced (performAll (performAt room)) label reactions value) := by
  have follows := performAll_follows reaches_closed reaches_dispatches room
  have soundPinned := sound.change (.pinContainers sources)
  have toEvaluated := Reaches.of_evaluate soundPinned result
  have soundEvaluated := toEvaluated.sound soundPinned
  let l := evaluated.world.listeners.size
  have entry := callListener_entry reaches_closed follows
    (r := evaluated.turn (evaluated.world.addListener label reactions).2)
    (soundEvaluated.change (.addListener label reactions)) l (.called l · · value)
  have isNew : (evaluated.world.addListener label reactions).2.listener l = ⟨label, reactions, 0⟩ := by
    rw [World.listener_addListener, if_pos rfl]
  simp only [world_turn, isNew] at entry
  have mem : ⟨.called l label 1 value, _⟩ ∈
      (evaluated.introduced (performAll (performAt room)) label reactions value).since r :=
    mem_since.mpr ⟨_, toEvaluated.size_journal_le, entry⟩
  obtain ⟨earlier, later, split⟩ := List.append_of_mem mem
  refine ⟨toEvaluated.grows.listenerCount, earlier, _, later, split, rfl, ?_⟩
  -- all calls of the callback in the journal are this one
  have once : ((evaluated.introduced (performAll (performAt room)) label reactions value).since r).filterMap
      (·.given? l) = [value] := introduced_once soundPinned result label reactions
  rw [split, List.filterMap_append, List.filterMap_cons_some (b := value) (by simp [Moment.given?])] at once
  have none : earlier.filterMap (·.given? l) ++ later.filterMap (·.given? l) = [] := by
    rw [List.append_eq_singleton_iff] at once
    simpa using once
  rw [← List.filterMap_append] at none
  exact fun other inList => List.filterMap_eq_nil_iff.mp none other inList

/-- A template that was bound to a new callback: the binding is new, and the callback was called with the
value. -/
def Introduces (r : Run) (template label : String) (value : Value) (r' : Run) : Prop :=
  ∃ b, r.world.bindings.size ≤ b ∧ b < r'.world.bindings.size ∧
    (r'.world.binding b).template = Template.parse template ∧
    r.CallsOnce (r'.world.binding b).listener label value r'

/-- A template whose identifiers are found is evaluated to the same value both ways, and a new callback is
called with it. -/
theorem interpolate_of_resolved (sound : r.world.Sound) (room : Nat) {sources : Sources}
    (required : r.world.requireRegistry v = .ok q)
    (resolved : r.world.resolveAll v (Template.parse template).identifiers = .ok sources)
    (label : String) (reactions : List (Reaction Step)) :
    let perform := performAll (performAt room)
    let kept := interpolateWith perform v template label reactions r
    ∃ value, (interpolate perform v template r).1 = .ok value ∧ kept.1 = .ok value ∧
      r.Introduces template label value kept.2 := by
  have follows := performAll_follows reaches_closed reaches_dispatches room
  obtain ⟨value, evaluated, result, binds⟩ :=
    bindWith_run reaches_closed follows sound q resolved label reactions
  let before := evaluated.introduced (performAll (performAt room)) label reactions value
  have soundPinned := sound.change (.pinContainers (sources.map Prod.snd))
  have toEvaluated := Reaches.of_evaluate soundPinned result
  obtain ⟨toBefore, _, made, unshared⟩ :=
    introduced_spec follows (toEvaluated.sound soundPinned) soundPinned result label reactions
  have reaches : Reaches _ _ := toEvaluated.trans toBefore
  have grows := reaches.grows
  obtain ⟨names, present⟩ := World.resolveAll_spec resolved
  have bindable :
      before.world.Bindable (Template.parse template) q sources evaluated.world.listeners.size :=
    ⟨names, fun p mem => grows.keys p.2 p.1 (present p mem),
      Nat.lt_of_lt_of_le (sound.numbered.requireRegistry_lt required) grows.registryCount, made, unshared⟩
  let bound := (before.world.addBinding (Template.parse template) q (r.world.label v) sources
    evaluated.world.listeners.size).2.unpinContainers sources.length
  obtain ⟨count, bindings⟩ := World.binding_of_addBinding bindable
    (World.recordBinding_releases bound v before.world.bindings.size)
  have new := bindings before.world.bindings.size
  rw [if_pos rfl] at new
  refine ⟨value, ?_, ?_⟩
  · simp only [interpolate, renderWith, Act.run_bind, Act.run_world, Act.run_change, required, resolved]
    rw [result]
    rfl
  · simp only [interpolateWith, Act.run_bind, Act.run_world, required, binds]
    refine ⟨rfl, _, grows.bindingCount, Nat.lt_of_lt_of_eq (Nat.lt_succ_self _) count.symm,
      congrArg Binding.template new, ?_⟩
    exact (introduced_callsOnce sound result label reactions).of_eq (congrArg Binding.listener new) rfl

/-- The two ways to interpolate a template on a view, from the same run. -/
structure InterpolatesAlike (r : Run) (room : Nat) (v : ViewId) (template label : String)
    (reactions : List (Reaction Step)) : Prop where
  /-- Both fail just where the view refuses the template, with the same error. -/
  error : ∀ e, r.world.Refuses v (Template.parse template) e ↔
    (interpolate (performAll (performAt room)) v template r).1 = .error e
  errorWith : ∀ e, r.world.Refuses v (Template.parse template) e ↔
    (interpolateWith (performAll (performAt room)) v template label reactions r).1 = .error e
  /-- Then nothing has happened: no filter and no callback was called, and the world is as it was. -/
  untouched : ∀ e, r.world.Refuses v (Template.parse template) e →
    (interpolate (performAll (performAt room)) v template r).2 = r ∧
      (interpolateWith (performAll (performAt room)) v template label reactions r).2 = r
  /-- Otherwise both come to the same value, and the callback has been called with it. -/
  value : (∀ e, ¬ r.world.Refuses v (Template.parse template) e) →
    ∃ value, (interpolate (performAll (performAt room)) v template r).1 = .ok value ∧
      (interpolateWith (performAll (performAt room)) v template label reactions r).1 = .ok value ∧
      r.Introduces template label value
        (interpolateWith (performAll (performAt room)) v template label reactions r).2

end Run

/-- Wherever a run has come to, the two ways to interpolate a template fail alike and without any effect, or
come to the same value. -/
theorem interpolate_alike (reached : Run.Reaches .start r) (room : Nat) (v : ViewId)
    (template label : String) (reactions : List (Reaction Step)) :
    r.InterpolatesAlike room v template label reactions := by
  have refuses (e : ViewError) := (reached.ownersFirst World.OwnersFirst.empty).refuses_iff
    (v := v) (t := Template.parse template) (e := e)
  cases required : r.world.requireRegistry v with
  | error e =>
      obtain ⟨once, kept⟩ :=
        interpolate_of_required (performAll (performAt room)) required template label reactions
      constructor <;> simp [refuses, required, once, kept, eq_comm]
  | ok q =>
      cases resolved : r.world.resolveAll v (Template.parse template).identifiers with
      | error cause =>
          obtain ⟨once, kept⟩ :=
            interpolate_of_unresolved (performAll (performAt room)) required resolved label reactions
          constructor <;> simp [refuses, required, resolved, once, kept, eq_comm]
      | ok sources =>
          obtain ⟨value, once, kept, introduces⟩ := Run.interpolate_of_resolved
            (reached.sound World.Sound.empty) room required resolved label reactions
          constructor <;> simp [refuses, required, resolved, once, kept, introduces]

/-- A view whose type has a filter, owned by another one. -/
def ownedGreeting : List Step := [
  .newType "T" "T" (some .plainInterpolation),
  .registerFilter "T" "listed" ⟨.wrap, []⟩,
  .create "T" "parent" none [("x", .bool true)] [] none,
  .create "T" "v" none [("y", .null)] [] (some "parent")]

/-- A template that the view does not refuse. -/
def greeted : Except ViewError Value × Run :=
  interpolate (performAll (performAt nestingLimit)) 1 "{{y}} {{x | listed}}" (session nestingLimit ownedGreeting)

theorem interpolate_alike_ownedGreeting :
    let r := session nestingLimit ownedGreeting
    (r.InterpolatesAlike nestingLimit 1 "{{y}} {{missing}} {{x}} {{other}}" "cb" [] ∧
      r.world.Refuses 1 (Template.parse "{{y}} {{missing}} {{x}} {{other}}")
        (.interpolate (.unresolvedIdentifier "missing" (r.world.label 1)))) ∧
      r.InterpolatesAlike nestingLimit 1 "{{y}} {{x | listed}}" "cb" [] ∧
        ∃ value, greeted = (.ok value, greeted.2) := by
  have reached := session_reaches nestingLimit ownedGreeting
  refine ⟨⟨interpolate_alike reached _ 1 _ "cb" [], ?_⟩, interpolate_alike reached _ 1 _ "cb" [],
    Act.exists_ok greeted (by decide +kernel)⟩
  refine (reached.ownersFirst World.OwnersFirst.empty).refuses_iff.mpr (.inr ⟨0, _, ?_, ?_, rfl⟩)
  · exact World.requireRegistry_eq_ok_iff.mpr ⟨by decide +kernel, by decide +kernel⟩
  · exact World.resolveAll_eq_error_iff.mpr ⟨"missing", by decide +kernel, rfl⟩

end LiveTemplate
