import LiveTemplate.Proofs.Run.Evaluation

/-!
Telling subscribers.  A released binding that is told something does nothing; an active one is evaluated
again, and its callback is called with what this comes to.  Where filters only compute, that is the
composition of the binding at the very moment of the call, which is what the entry in the journal asks for.
-/

namespace LiveTemplate

variable {perform : Perform} {r : Run} {b : BindingId}

theorem refresh_of_inactive (perform : Perform)
    (inactive : (r.world.binding b).isActive = false) : refresh perform b r = ((), r) := by
  simp [refresh, Act.run_bind, inactive]

theorem refresh_of_active (perform : Perform) (active : (r.world.binding b).isActive) :
    refresh perform b r =
      match (reevaluate perform b r).1 with
      | .ok value =>
        callListener perform (r.world.binding b).listener
          (.called (r.world.binding b).listener · · value) (reevaluate perform b r).2
      | .error _ => ((), (reevaluate perform b r).2) := by
  simp only [refresh, Act.run_bind, Act.run_world, active, ↓reduceIte, Act.run_record]
  show (match (reevaluate perform b r).1 with
    | .ok value => callListener perform _ _
    | .error _ => pure ()) (reevaluate perform b r).2 = _
  cases (reevaluate perform b r).1 <;> rfl

namespace World

variable {w w' : World}

theorem Sound.computes (sound : w.Sound) (quiet : w.FiltersQuiet) : w.Computes :=
  ⟨quiet, sound.numbered.registered⟩

/-- Where filters only compute, an active binding is evaluated to what it is composed to, and no binding is
released on the way. -/
theorem Sound.reevaluate_quiet (sound : r.world.Sound) (nothing : perform [] = pure ())
    (active : (r.world.binding b).isActive) (quiet : r.world.FiltersQuiet) :
    (reevaluate perform b r).1.toOption = r.world.composed b ∧
      Counted r.world (reevaluate perform b r).2.world := by
  rw [← sound.subscribed.compose_read? active]
  exact evaluate_quiet nothing (r.world.binding b).scope _ (r.note (.refreshed b))
    ((sound.computes quiet).quietOn _ _)

end World

variable {R : Run → Run → Prop}

theorem reevaluate_reaches (uncalled : Run.Uncalled R) (follows : perform.Follows R)
    (sound : r.world.Sound) (active : (r.world.binding b).isActive) :
    R r (reevaluate perform b r).2 ∧ World.Returns r.world (reevaluate perform b r).2.world := by
  have goes := evaluate_follows uncalled follows (r.world.binding b).scope
    (r.world.binding b).template (r.note (.refreshed b)) sound
  have allowed : r.Allows (.refreshed b) := ⟨active, nofun⟩
  exact ⟨uncalled.trans (uncalled.told sound allowed rfl) goes.related, goes.returns⟩

/-- The callback of a binding that was evaluated can be called with the value. -/
theorem called_allowed (uncalled : Run.Uncalled R) (follows : perform.Follows R)
    (sound : r.world.Sound) (active : (r.world.binding b).isActive) {value : Value}
    (result : (reevaluate perform b r).1 = .ok value) (label : String) (call : Nat) :
    ((reevaluate perform b r).2.turn ((reevaluate perform b r).2.world.countListenerCall
      (r.world.binding b).listener)).Allows
        (.called (r.world.binding b).listener label call value) := by
  constructor
  · intro quiet a made shared
    have reaches := uncalled.reaches (reevaluate_reaches uncalled follows sound active).1
    have grows := reaches.grows.trans
      (World.Grows.countListenerCall _ (r.world.binding b).listener)
    have counted := sound.reevaluate_quiet follows.nothing active (quiet.of_grows grows)
    have bMade := World.lt_size_of_isActive _ active
    -- the callback is that of this binding and of no other
    have same : a = b := by
      apply (reaches.sound sound).numbered.own a made b (Nat.lt_of_lt_of_le bMade grows.bindingCount)
      exact shared.trans (reaches.grows.listener_eq bMade).symm
    rw [same]
    constructor
    · show ((reevaluate perform b r).2.world.binding b).isActive
      simp only [counted.2.binding]
      exact active
    · show (reevaluate perform b r).2.world.composed b = some value
      rw [counted.2.composed, ← counted.1, result]
      rfl
  · intro l _ _ given isCalled
    obtain ⟨room, rfl⟩ := follows.nests
    cases isCalled
    exact .again room r _ b sound active rfl (Prod.ext result rfl) rfl

/-- Telling a binding goes along a relation that the call of its callback goes along. -/
theorem refresh_goesFrom (uncalled : Run.Uncalled R) (follows : perform.Follows R)
    (sound : r.world.Sound) (b : BindingId)
    (noted : (r.world.binding b).isActive → ∀ value, (reevaluate perform b r).1 = .ok value →
      let l := (r.world.binding b).listener
      let counted := (reevaluate perform b r).2.turn
        ((reevaluate perform b r).2.world.countListenerCall l)
      ∀ label call, R counted (counted.note (.called l label call value))) :
    (refresh perform b).GoesFrom R r := by
  cases active : (r.world.binding b).isActive with
  | false => exact .unchanged uncalled (by rw [refresh_of_inactive perform active])
  | true =>
      have unfolded := refresh_of_active perform active
      obtain ⟨related, returns⟩ := reevaluate_reaches uncalled follows sound active
      have reaches := uncalled.reaches related
      cases result : (reevaluate perform b r).1 with
      | error e =>
          rw [result] at unfolded
          constructor <;> rw [unfolded]
          · exact related
          · exact returns
      | ok value =>
          rw [result] at unfolded
          have goes := callListener_goesFrom uncalled follows (reaches.sound sound)
            (r.world.binding b).listener (noted active value result)
          constructor <;> rw [unfolded]
          · exact uncalled.trans related goes.related
          · exact returns.trans goes.returns reaches.grows (goes.grows uncalled)

/-- Telling a binding goes along whatever user code goes along. -/
theorem refresh_follows (closed : Run.Closed R) (follows : perform.Follows R) (b : BindingId) :
    (refresh perform b).Follows R := by
  intro r sound
  refine refresh_goesFrom closed follows sound b fun active value result label call => ?_
  have reaches := closed.reaches (reevaluate_reaches closed follows sound active).1
  have allowed := called_allowed closed follows sound active result label call
  exact closed.called ((reaches.sound sound).change (.countListenerCall _)) allowed rfl

/-- Telling a subscriber goes along a relation that telling the binding goes along, if it is one. -/
theorem notify_follows_of_refresh (uncalled : Run.Uncalled R) (follows : perform.Follows R)
    (key : String) (value : Value) (s : Subscriber)
    (refreshes : ∀ b, s.handler = .binding b → (refresh perform b).Follows R) :
    (notify perform key value s).Follows R := by
  simp only [notify]
  split
  · intro r sound
    refine callListener_goesFrom uncalled follows sound _ fun _ _ => ?_
    refine uncalled.told (sound.change (.countListenerCall _)) ⟨trivial, ?_⟩ rfl
    intro _ _ _ _ isCall
    cases isCall
  · next b isBinding => exact refreshes b isBinding

theorem notify_follows (closed : Run.Closed R) (follows : perform.Follows R) (key : String)
    (value : Value) (s : Subscriber) : (notify perform key value s).Follows R :=
  notify_follows_of_refresh closed follows key value s fun b _ => refresh_follows closed follows b

/-- Storing a value and telling the subscribers goes along the relation whenever user code does. -/
def Run.Dispatches (R : Run → Run → Prop) : Prop :=
  ∀ {perform : Perform}, perform.Follows R →
    ∀ c key value, (setValue perform c key value).Follows R

/-- The subscribers are told one after the other, as the list stood when the value was stored. -/
theorem setValue_run (c : ContainerId) (key : String) (value : Value) :
    setValue perform c key value r =
      ((r.stored c key value).world.subscribersTo c key).forM (notify perform key value)
        (r.stored c key value) := rfl

/-- A dispatch goes along a closed relation if the relation holds from the store on whenever it holds along
what the subscribers do. -/
theorem Run.Closed.dispatches (closed : Run.Closed R)
    (storing : ∀ perform : Perform, perform.Follows R → ∀ r : Run, r.world.Sound →
      ∀ c key value, let told := (((r.stored c key value).world.subscribersTo c key).forM
          (notify perform key value) (r.stored c key value)).2
        R (r.stored c key value) told → R r told) : Run.Dispatches R := by
  intro perform follows c key value r sound
  have told := Act.Follows.forM closed ((r.stored c key value).world.subscribersTo c key)
    (fun s _ => notify_follows closed follows key value s) (r.stored c key value)
    (sound.store c key value)
  have unchanged : World.Returns r.world (r.stored c key value).world := .of_eq rfl rfl rfl
  constructor <;> rw [setValue_run]
  · exact storing perform follows r sound c key value told.related
  · exact unchanged.trans told.returns (.store _ c key value) (told.grows closed)

theorem Run.reaches_closed : Run.Closed Run.Reaches :=
  .of_moves (fun _ => .refl) .trans id fun _ move => .single (.move move)

theorem Run.reaches_dispatches : Run.Dispatches Run.Reaches :=
  reaches_closed.dispatches fun _ _ _ _ c key value told => .head (.store c key value) told

/-- A dispatch goes along a relation if it ends in a run that is related to the one that it starts in. -/
theorem Run.Dispatches.of_related (chained : Run.Chained R)
    (related : ∀ perform : Perform, perform.Follows R → ∀ r : Run, r.world.Sound →
      ∀ c key value, R r (setValue perform c key value r).2) : Run.Dispatches R := by
  intro perform follows c key value r sound
  exact ⟨related perform follows r sound c key value,
    (Run.reaches_dispatches (follows.reaches chained) c key value r sound).returns⟩

end LiveTemplate
