import LiveTemplate.Proofs.Run.Convergence

/-!
Whose callbacks are called.  A callback is called for the first time when it is new, before its binding is
made, and from then on only by its binding.  So nothing calls a callback that there already was and that no
binding has, whatever user code does; in particular nothing calls it a second time while its first call is
going on.
-/

namespace LiveTemplate

namespace Run

variable {l : ListenerId} {value : Value} {r r' r'' : Run} {perform : Perform}

/-- On the way between two runs, a callback that there already was is called only while a binding has it. -/
structure CallsOwned (l : ListenerId) (r r' : Run) : Prop where
  reaches : Reaches r r'
  owned : l < r.world.listeners.size → ∀ m ∈ r'.since r, (m.given? l).isSome →
    ∃ b < m.world.bindings.size, (m.world.binding b).listener = l

namespace CallsOwned

theorem of_journal (reaches : Reaches r r') (same : r'.journal = r.journal) : CallsOwned l r r' := by
  refine ⟨reaches, ?_⟩
  rw [since_of_eq same]
  exact fun _ m mem => absurd mem List.not_mem_nil

theorem of_push (reaches : Reaches r r') {m : Moment} (pushed : r'.journal = r.journal.push m)
    (owned : l < r.world.listeners.size → (m.given? l).isSome →
      ∃ b < m.world.bindings.size, (m.world.binding b).listener = l) : CallsOwned l r r' := by
  refine ⟨reaches, ?_⟩
  rw [since_of_push pushed]
  intro made x mem given
  rw [List.mem_singleton.mp mem] at given ⊢
  exact owned made given

theorem trans (first : CallsOwned l r r') (second : CallsOwned l r' r'') : CallsOwned l r r'' := by
  refine ⟨first.reaches.trans second.reaches, ?_⟩
  rw [first.reaches.since_trans second.reaches]
  intro made m mem given
  rcases List.mem_append.mp mem with inFirst | inSecond
  · exact first.owned made m inFirst given
  · exact second.owned (Nat.lt_of_lt_of_le made first.reaches.grows.listenerCount) m inSecond given

theorem uncalled (l : ListenerId) : Run.Uncalled (CallsOwned l) := by
  refine .of_moves (fun _ => .of_journal .refl rfl) .trans CallsOwned.reaches
    (fun _ change => .of_journal (.single (.move (.change change))) rfl)
    (fun _ deed => .of_push (.single (.move (.deed deed))) rfl fun _ => nofun) ?_
  intro r o _ allowed silent
  refine .of_push (.single (.move (.entry allowed))) rfl fun _ given => ?_
  rw [Moment.given?_eq_none silent] at given
  cases given

/-- The first call of a callback is that of a new one. -/
theorem compatible (l : ListenerId) : Run.Compatible (CallsOwned l) where
  toUncalled := uncalled l
  introduces := by
    intro perform r began scope t value follows sound soundBegan result label reactions
    by_cases old : l < r.world.listeners.size
    · refine (introduced_goes (uncalled l) follows sound label reactions fun name call => ?_).1
      have allowed := introduced_allowed follows sound soundBegan result label reactions name call
      refine .of_push (.single (.move (.entry allowed))) rfl fun _ given => ?_
      obtain ⟨_, _, isCalled⟩ := Moment.given?_eq_some.mp (Option.eq_some_of_isSome given)
      exact absurd (Occurrence.called.inj isCalled).1 (Nat.ne_of_gt old)
    · have reaches := (introduced_spec (follows.reaches (uncalled l)) sound soundBegan result label
        reactions).1
      exact ⟨reaches, fun made => absurd made old⟩

/-- A binding that is told that a source was set calls its own callback. -/
theorem refresh_follows (follows : perform.Follows (CallsOwned l)) (b : BindingId) :
    (refresh perform b).Follows (CallsOwned l) := by
  intro r sound
  refine refresh_goesFrom (uncalled l) follows sound b fun active value result name call => ?_
  have allowed := called_allowed (uncalled l) follows sound active result name call
  refine .of_push (.single (.move (.entry allowed))) rfl fun _ given => ?_
  obtain ⟨_, _, isCalled⟩ := Moment.given?_eq_some.mp (Option.eq_some_of_isSome given)
  have made := World.lt_size_of_isActive _ active
  have grows := (reevaluate_reaches (uncalled l) follows sound active).1.reaches.grows
  refine ⟨b, Nat.lt_of_lt_of_le made grows.bindingCount, ?_⟩
  exact (grows.listener_eq made).trans (Occurrence.called.inj isCalled).1

theorem dispatches (l : ListenerId) : Run.Dispatches (CallsOwned l) := by
  refine Dispatches.of_related (uncalled l) fun perform follows r sound c key value => ?_
  have storing : CallsOwned l r (r.stored c key value) :=
    .of_push (.single (.store c key value)) rfl fun _ => nofun
  have told := Act.Follows.forM (uncalled l) ((r.stored c key value).world.subscribersTo c key)
    (fun s _ => notify_follows_of_refresh (uncalled l) follows key value s fun b _ =>
      refresh_follows follows b) (r.stored c key value) (sound.store c key value)
  exact storing.trans told.related

end CallsOwned

/-- User code calls a callback that there already was only while a binding has it. -/
theorem performAll_owned (l : ListenerId) (room : Nat) :
    Perform.Follows (CallsOwned l) (performAll (performAt room)) :=
  performAll_follows (CallsOwned.compatible l) (CallsOwned.dispatches l) room

/-- A callback that is called was made. -/
theorem Evaluated.made (evaluated : r.Evaluated l value) : l < r.world.listeners.size := by
  cases evaluated with
  | again room began evaluated b sound active own result calling =>
      have follows := performAll_follows reaches_closed reaches_dispatches room
      have reaches := (reevaluate_reaches reaches_closed follows sound active).1
      rw [result] at reaches
      have made := (sound.numbered.bound b (World.lt_size_of_isActive _ active)).2
      rw [own] at made
      rw [calling]
      have count := (World.Grows.countListenerCall evaluated.world l).listenerCount
      exact Nat.lt_of_lt_of_le made (Nat.le_trans reaches.grows.listenerCount count)
  | first room began evaluated scope template label reactions sound result new calling =>
      rw [calling]
      have count := (World.Grows.countListenerCall
        (evaluated.world.addListener label reactions).2 l).listenerCount
      refine Nat.lt_of_lt_of_le ?_ count
      rw [new]
      exact Nat.lt_of_lt_of_eq (Nat.lt_succ_self _) (Array.size_push _).symm

theorem Reaches.called_made (reaches : Reaches r r') {m : Moment} (mem : m ∈ r'.since r)
    (given : (m.given? l).isSome) : l < m.world.listeners.size := by
  obtain ⟨i, later, found⟩ := mem_since.mp mem
  obtain ⟨before, after, _, next, _, _, pushed, world⟩ := reaches.at_moment later found
  obtain ⟨label, call, isCalled⟩ := Moment.given?_eq_some.mp (Option.eq_some_of_isSome given)
  rcases (next.of_push pushed).2 with ⟨allowed, same⟩ | ⟨_, _, isDeed, _⟩ | ⟨_, _, _, isStored, _⟩
  · rw [← world, same]
    exact (allowed.evaluated l label call _ isCalled).made
  · rw [isCalled] at isDeed
    cases isDeed
  · rw [isCalled] at isStored
    cases isStored

end Run

end LiveTemplate
