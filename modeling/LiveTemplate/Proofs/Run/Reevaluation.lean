import LiveTemplate.Proofs.Run.Callbacks

/-!
The re-evaluation of an active binding does not fail.  The sources of an active binding are held by its
subscriptions, and no step takes a key away; so an identifier that cannot be read belongs to a binding that
was released after its evaluation had begun, and only a step that a filter performed can have done that.  A
binding that is still active when its evaluation ends has a value, and its callback is called with it.
-/

namespace LiveTemplate

namespace Run

variable {r : Run} {b : BindingId} {room : Nat}

/-- What comes of it when an active binding is told that a source was set. -/
structure Attends (r : Run) (room : Nat) (b : BindingId) : Prop where
  /-- The update is skipped only if a step that filters performed during the evaluation released the
  binding; then nothing is called. -/
  skipped : ∀ e evaluated, reevaluate (performAll (performAt room)) b r = (.error e, evaluated) →
    evaluated.EndsByStep (·.IsReleased b) (r.journal.size + 1) evaluated.journal.size ∧
      evaluated.world.IsReleased b ∧ refresh (performAll (performAt room)) b r = ((), evaluated)
  /-- A binding that is active when its evaluation ends has a value, and its callback is called with it
  right then. -/
  called : ∀ outcome evaluated, reevaluate (performAll (performAt room)) b r = (outcome, evaluated) →
    (evaluated.world.binding b).isActive → ∃ value, outcome = .ok value ∧
      let l := (r.world.binding b).listener
      ∃ label call,
        (refresh (performAll (performAt room)) b r).2.journal[evaluated.journal.size]? =
          some ⟨.called l label call value, evaluated.world.countListenerCall l⟩

/-- The evaluation of a binding that is active when it ends has come to a value. -/
theorem reevaluate_ok (sound : r.world.Sound) (active : (r.world.binding b).isActive)
    {outcome : Except InterpolateError Value} {evaluated : Run}
    (result : reevaluate (performAll (performAt room)) b r = (outcome, evaluated))
    (stillActive : (evaluated.world.binding b).isActive) : ∃ value, outcome = .ok value := by
  cases outcome with
  | ok value => exact ⟨value, rfl⟩
  | error e =>
      have reaches := (reevaluation_in_run sound active result .refl).1
      have grows := reaches.grows
      have made := World.lt_size_of_isActive _ active
      obtain ⟨x, mem, missing, _⟩ := evaluate_error result
      -- the evaluation reads with the template and the sources of the binding, which never change
      have readable := ((reaches.sound sound).subscribed.read?_eq stillActive
        (x := x) (by rw [grows.template_eq made]; exact mem))
      rw [grows.sources_eq made] at readable
      have found : (evaluated.world.read? (r.world.binding b).sources x).isSome := by
        rw [readable.1]
        exact readable.2
      rw [show evaluated.world.read? (r.world.binding b).sources x = none from missing] at found
      cases found

/-- An active binding that is released when its evaluation ends was released by a step that filters
performed. -/
theorem reevaluate_released (sound : r.world.Sound) (active : (r.world.binding b).isActive)
    {outcome : Except InterpolateError Value} {evaluated : Run}
    (result : reevaluate (performAll (performAt room)) b r = (outcome, evaluated))
    (released : evaluated.world.IsReleased b) :
    evaluated.EndsByStep (·.IsReleased b) (r.journal.size + 1) evaluated.journal.size := by
  have keeps : KeepsUnlessStep (·.IsReleased b) (r.note (.refreshed b)) evaluated :=
    .of_evaluate (fun _ _ => id) sound result
  have size : (r.note (.refreshed b)).journal.size = r.journal.size + 1 := Array.size_push _
  rcases keeps.ends released with before | byStep
  · have inactive : (r.world.binding b).isActive = false := before.2
    rw [active] at inactive
    cases inactive
  · rw [size] at byStep
    exact byStep

theorem Reaches.attends (reaches : Reaches .start r) (active : (r.world.binding b).isActive) :
    r.Attends room b where
  skipped e evaluated result := by
    have sound := reaches.sound World.Sound.empty
    have grows := (reevaluation_in_run sound active result .refl).1.grows
    have made := World.lt_size_of_isActive _ active
    have released : evaluated.world.IsReleased b := by
      refine ⟨Nat.lt_of_lt_of_le made grows.bindingCount, ?_⟩
      by_contra stillActive
      obtain ⟨value, isValue⟩ := reevaluate_ok sound active result (by simpa using stillActive)
      cases isValue
    refine ⟨reevaluate_released sound active result released, released, ?_⟩
    rw [refresh_of_active _ active, result]
  called outcome evaluated result stillActive := by
    have sound := reaches.sound World.Sound.empty
    obtain ⟨value, rfl⟩ := reevaluate_ok sound active result stillActive
    exact ⟨value, rfl, (reaches.callsRegardless room).again b active value evaluated result⟩

end Run

variable {r : Run} {b : BindingId}

/-- Wherever a value is stored, and whatever user code performs, every active binding that is told is
evaluated to a value, and its callback is called with it, unless a step that filters performed meanwhile
released the binding. -/
theorem set_reevaluates (reached : Run.Reaches .start r) (room : Nat) (c : ContainerId) (key : String)
    (value : Value) (before after : List Subscriber) (s : Subscriber)
    (listed : (r.stored c key value).world.subscribersTo c key = before ++ s :: after)
    (own : s.handler = .binding b) :
    let perform := performAll (performAt room)
    let told := (before.forM (notify perform key value) (r.stored c key value)).2
    setValue perform c key value r =
        after.forM (notify perform key value) (refresh perform b told).2 ∧
      ((told.world.binding b).isActive → told.Attends room b) := by
  intro perform told
  have follows := performAll_follows Run.reaches_closed Run.reaches_dispatches room
  have storing : Run.Reaches .start (r.stored c key value) := reached.tail (.store c key value)
  have telling : Run.Reaches (r.stored c key value) told :=
    (Act.Follows.forM Run.reaches_closed before
      (fun x _ => notify_follows Run.reaches_closed follows key value x) _
      (storing.sound World.Sound.empty)).related
  constructor
  · have isBinding : notify perform key value s = refresh perform b := by simp only [notify, own]
    rw [setValue_run, listed, ← isBinding]
    simp only [List.forM_eq_forM, List.forM_append, List.forM_cons]
    rfl
  · intro active
    exact Run.Reaches.attends (storing.trans telling) active

/-- A binding with sources in two views.  When it is evaluated again, a filter drops the second one. -/
def vanishingSource : List Step := [
  .newType "T" "T" (some .plainInterpolation),
  .registerFilter "T" "drop" ⟨.identity, [⟨some 2, [.dropView "child"]⟩]⟩,
  .create "T" "owner" none [("x", .bool false)] [] none,
  .create "T" "child" none [("y", .null)] [] (some "owner"),
  .bind "child" "{{x|drop}}{{y}}" "cb" []]

theorem set_reevaluates_vanishingSource :
    let r := session nestingLimit vanishingSource
    let perform := performAll (performAt nestingLimit)
    let told := r.stored 0 "x" (.bool true)
    setValue perform 0 "x" (.bool true) r = ((), (refresh perform 0 told).2) ∧
      ((told.world.binding 0).isActive → told.Attends nestingLimit 0) :=
  set_reevaluates (session_reaches nestingLimit vanishingSource) nestingLimit 0 "x" (.bool true)
    [] [] ⟨0, "x", .binding 0⟩ (by decide +kernel) rfl

end LiveTemplate
