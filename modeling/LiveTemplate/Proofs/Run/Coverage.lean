import LiveTemplate.Proofs.Run.Accounts
import LiveTemplate.Proofs.Run.Convergence

/-!
What calls the callback of a binding.  A dispatch tells a binding at most once, and only if the value was
stored in one of its sources; being told, the binding calls its callback at most once; and nothing else calls
the callback of a binding that was made.  So every call is paid for by a source that was set before it: however
user code nests sets, in every initial part of what it does the callback is called at most as often as a source
is set.
-/

namespace LiveTemplate

variable {b : BindingId}

instance (m : Moment) (b : BindingId) : Decidable (m.Calls b) :=
  inferInstanceAs (Decidable (_ ∧ _))

/-- The callback of a binding is not called where no callback is. -/
theorem Moment.not_calls {m : Moment} (silent : m.occurrence.isCall = false) : ¬ m.Calls b := by
  rintro ⟨_, given⟩
  rw [given?_eq_none silent] at given
  cases given

/-- In every initial part of some entries, the callback of a binding is called at most that many times more
often than a source of it is set. -/
def CallsWithin (b : BindingId) (surplus : Nat) (entries : List Moment) : Prop :=
  ∀ part, part <+: entries →
    part.countP (fun m => m.Calls b) ≤ part.countP (·.setsSource b) + surplus

namespace CallsWithin

variable {m : Moment} {xs ys : List Moment} {j k : Nat}

theorem mono (within : CallsWithin b j xs) (le : j ≤ k) : CallsWithin b k xs := by
  intro part isInitial
  exact Nat.le_trans (within part isInitial) (Nat.add_le_add_left le _)

theorem append (first : CallsWithin b j xs) (second : CallsWithin b k ys) :
    CallsWithin b (j + k) (xs ++ ys) := by
  intro part isInitial
  obtain ⟨count, rfl⟩ : ∃ count, part = (xs ++ ys).take count :=
    ⟨_, List.prefix_iff_eq_take.mp isInitial⟩
  have before := first _ (List.take_prefix count xs)
  have after := second _ (List.take_prefix (count - xs.length) ys)
  simp only [List.take_append, List.countP_append]
  omega

/-- Nothing is paid for where the callback is not called. -/
theorem of_not_calls (never : ∀ m ∈ xs, ¬ m.Calls b) : CallsWithin b 0 xs := by
  intro part isInitial
  have none : part.countP (fun m => m.Calls b) = 0 := by
    apply List.countP_eq_zero.mpr
    intro m mem
    simpa using never m (isInitial.subset mem)
  exact Nat.le_trans (Nat.le_of_eq none) (Nat.zero_le _)

/-- One entry is at most one call. -/
theorem singleton (m : Moment) : CallsWithin b 1 [m] := by
  intro part isInitial
  have length : part.length ≤ 1 := isInitial.length_le
  have calls := List.countP_le_length (p := fun m : Moment => m.Calls b) (l := part)
  omega

/-- A source that is set pays for one call. -/
theorem paid (sets : m.setsSource b) (within : CallsWithin b 1 xs) : CallsWithin b 0 (m :: xs) := by
  have silent : ¬ m.Calls b := by
    apply Moment.not_calls
    simp only [Moment.setsSource] at sets
    split at sets
    · next isStored => rw [isStored]; rfl
    · cases sets
  intro part isInitial
  cases part with
  | nil => exact Nat.le_refl 0
  | cons first rest =>
      obtain ⟨rfl, isRest⟩ := List.cons_prefix_cons.mp isInitial
      have paidFor := within rest isRest
      have calls : (first :: rest).countP (fun m => m.Calls b) = rest.countP fun m => m.Calls b :=
        List.countP_cons_of_neg (by simpa using silent)
      have changes : (first :: rest).countP (·.setsSource b) = rest.countP (·.setsSource b) + 1 :=
        List.countP_cons_of_pos sets
      omega

end CallsWithin

/-- A dispatch tells a binding at most once, and only of a change of one of its sources. -/
theorem World.Subscribed.told_once {w : World} (h : w.Subscribed) {c : ContainerId} {key : String}
    {before after : List Subscriber} {s : Subscriber}
    (listed : w.subscribersTo c key = before ++ s :: after) (own : s.handler = .binding b) :
    (key, c) ∈ (w.binding b).sources ∧ ∀ x ∈ before ++ after, x.handler ≠ .binding b := by
  have told : ∀ x ∈ s :: (before ++ after), x ∈ (w.container c).subscribers ∧ x.key = key := by
    intro x mem
    rw [← List.perm_middle.mem_iff, ← listed] at mem
    simpa [subscribersTo] using mem
  have own' : decide (s.handler = .binding b) = true := by simpa using own
  have keyOf := told s List.mem_cons_self
  -- the keys of the entries of the binding are identifiers, each of which stands in its template once
  have keys := h.bindingKeys_eq b c
  have nodup : (w.bindingKeys b c).Nodup := by
    rw [keys]
    split
    · exact (Template.nodup_identifiers _).filter _
    · exact List.nodup_nil
  constructor
  · have isKey : key ∈ w.bindingKeys b c := by
      rw [← keyOf.2]
      exact List.mem_map_of_mem (List.mem_filter.mpr ⟨keyOf.1, own'⟩)
    rw [keys] at isKey
    split at isKey
    · obtain ⟨_, found⟩ := List.mem_filter.mp isKey
      exact World.mem_of_lookup (by simpa using found)
    · cases isKey
  · intro x mem isOwn
    have once : (((s :: (before ++ after)).filter (·.handler = .binding b)).map (·.key)).Nodup := by
      apply ((List.perm_middle.filter _).map _).nodup_iff.mp
      rw [← listed]
      exact ((List.filter_sublist.filter _).map _).nodup nodup
    rw [List.filter_cons, if_pos own', List.map_cons] at once
    apply (List.nodup_cons.mp once).1
    rw [keyOf.2, ← (told x (List.mem_cons_of_mem _ mem)).2]
    exact List.mem_map_of_mem (List.mem_filter.mpr ⟨mem, by simpa using isOwn⟩)

namespace Run

variable {r r' r'' : Run} {perform : Perform} {j k : Nat}

/-- On the way between two runs, the callback of a binding is called at most that many times more often than a
source of it is set. -/
structure Covers (b : BindingId) (surplus : Nat) (r r' : Run) : Prop where
  reaches : Reaches r r'
  within : CallsWithin b surplus (r'.since r)

namespace Covers

theorem of_not_calls (reaches : Reaches r r') (never : ∀ m ∈ r'.since r, ¬ m.Calls b) : Covers b 0 r r' :=
  ⟨reaches, .of_not_calls never⟩

theorem of_journal (reaches : Reaches r r') (same : r'.journal = r.journal) : Covers b 0 r r' := by
  apply of_not_calls reaches
  rw [since_of_eq same]
  exact fun _ mem => absurd mem List.not_mem_nil

theorem of_push (reaches : Reaches r r') {m : Moment} (pushed : r'.journal = r.journal.push m)
    (silent : ¬ m.Calls b) : Covers b 0 r r' := by
  apply of_not_calls reaches
  rw [since_of_push pushed]
  intro x mem
  rw [List.mem_singleton.mp mem]
  exact silent

theorem mono (covers : Covers b j r r') (le : j ≤ k) : Covers b k r r' :=
  ⟨covers.reaches, covers.within.mono le⟩

theorem trans (first : Covers b j r r') (second : Covers b k r' r'') : Covers b (j + k) r r'' := by
  refine ⟨first.reaches.trans second.reaches, ?_⟩
  rw [first.reaches.since_trans second.reaches]
  exact first.within.append second.within

theorem uncalled (b : BindingId) : Run.Uncalled (Covers b 0) :=
  .of_moves (fun _ => .of_journal .refl rfl) trans Covers.reaches
    (fun _ change => .of_journal (.single (.move (.change change))) rfl)
    (fun _ deed => .of_push (.single (.move (.deed deed))) rfl (Moment.not_calls rfl))
    fun _ allowed silent => .of_push (.single (.move (.entry allowed))) rfl (Moment.not_calls silent)

/-- The first call of a new callback is made before its binding. -/
theorem compatible (b : BindingId) : Run.Compatible (Covers b 0) where
  toUncalled := uncalled b
  introduces := by
    intro perform r began scope t value follows sound soundBegan result label reactions
    refine (introduced_goes (uncalled b) follows sound label reactions fun name call => ?_).1
    have allowed := introduced_allowed follows sound soundBegan result label reactions name call
    apply of_push (.single (.move (.entry allowed))) rfl
    rintro ⟨made, given⟩
    obtain ⟨_, _, isCalled⟩ := Moment.given?_eq_some.mp (Option.eq_some_of_isSome given)
    have below : (r.world.binding b).listener < r.world.listeners.size := (sound.numbered.bound b made).2
    exact absurd (Occurrence.called.inj isCalled).1 (Nat.ne_of_gt below)

/-- Another binding that is told of a change calls its own callback. -/
theorem refresh_other (follows : perform.Follows (Covers b 0)) {a : BindingId} (other : a ≠ b) :
    (refresh perform a).Follows (Covers b 0) := by
  intro r sound
  apply refresh_goesFrom (uncalled b) follows sound a
  intro active value result l counted name call
  have allowed := called_allowed (uncalled b) follows sound active result name call
  apply of_push (.single (.move (.entry allowed))) rfl
  rintro ⟨made, given⟩
  obtain ⟨_, _, isCalled⟩ := Moment.given?_eq_some.mp (Option.eq_some_of_isSome given)
  have reaches := (reevaluate_reaches (uncalled b) follows sound active).1.reaches
  have aMade := World.lt_size_of_isActive _ active
  apply other
  apply (reaches.sound sound).numbered.own a
    (Nat.lt_of_lt_of_le aMade reaches.grows.bindingCount) b made
  exact (reaches.grows.listener_eq aMade).trans (Occurrence.called.inj isCalled).1

/-- A binding that is told of a change calls its callback at most once by itself. -/
theorem refresh_own (follows : perform.Follows (Covers b 0)) (sound : r.world.Sound) :
    Covers b 1 r (refresh perform b r).2 := by
  cases active : (r.world.binding b).isActive with
  | false =>
      rw [refresh_of_inactive perform active]
      exact (Covers.of_journal .refl rfl).mono (Nat.zero_le 1)
  | true =>
      have evaluated := (reevaluate_reaches (uncalled b) follows sound active).1
      rw [refresh_of_active perform active]
      cases result : (reevaluate perform b r).1 with
      | error e => exact evaluated.mono (Nat.zero_le 1)
      | ok value =>
          have allowed := called_allowed (uncalled b) follows sound active result
          let l := (r.world.binding b).listener
          let counted := (reevaluate perform b r).2.turn
            ((reevaluate perform b r).2.world.countListenerCall l)
          have counting : World.Change (reevaluate perform b r).2.world counted.world :=
            .countListenerCall l
          have soundCounted := (evaluated.reaches.sound sound).change counting
          have toCounted : Covers b 0 (reevaluate perform b r).2 counted :=
            .of_journal (.single (.move (.change counting))) rfl
          have calling : ∀ name call, Covers b 1 counted (counted.note (.called l name call value)) := by
            intro name call
            refine ⟨.single (.move (.entry (allowed name call))), ?_⟩
            rw [since_of_push rfl]
            exact .singleton _
          have reacted := react_follows (uncalled b) follows
          simp only [callListener_run]
          exact (evaluated.trans toCounted).trans
            ((calling _ _).trans (reacted _ _ (counted.note _) soundCounted).related)

/-- A dispatch that tells the binding starts with the change of a source. -/
theorem dispatches (b : BindingId) : Run.Dispatches (Covers b 0) := by
  apply Dispatches.of_related (uncalled b)
  intro perform follows r sound c key value
  let stored := r.stored c key value
  have storing : Reaches r stored := .single (.store c key value)
  have soundStored : stored.world.Sound := sound.store c key value
  have others : ∀ subscribers : List Subscriber, (∀ s ∈ subscribers, s.handler ≠ .binding b) →
      (subscribers.forM (notify perform key value)).Follows (Covers b 0) := by
    intro subscribers other
    apply Act.Follows.forM (uncalled b)
    intro s mem
    apply notify_follows_of_refresh (uncalled b) follows
    rintro a isBinding
    apply refresh_other follows
    rintro rfl
    exact other s mem isBinding
  rw [setValue_run]
  by_cases told : ∃ s ∈ stored.world.subscribersTo c key, s.handler = .binding b
  · obtain ⟨s, mem, own⟩ := told
    obtain ⟨before, after, listed⟩ := List.append_of_mem mem
    obtain ⟨isSource, once⟩ := soundStored.subscribed.told_once listed own
    have first := (others before (fun x inList => once x (List.mem_append_left _ inList)) stored
      soundStored).related
    have soundFirst := first.reaches.sound soundStored
    have second := refresh_own follows soundFirst
    have third := (others after (fun x inList => once x (List.mem_append_right _ inList)) _
      (second.reaches.sound soundFirst)).related
    have whole := (first.trans second).trans third
    have run : ((stored.world.subscribersTo c key).forM (notify perform key value) stored).2 =
        (after.forM (notify perform key value)
          (refresh perform b (before.forM (notify perform key value) stored).2).2).2 := by
      rw [listed]
      simp only [List.forM_eq_forM, List.forM_append, List.forM_cons, notify, own]
      rfl
    show Covers b 0 r ((stored.world.subscribersTo c key).forM (notify perform key value) stored).2
    rw [run]
    refine ⟨storing.trans whole.reaches, ?_⟩
    rw [storing.since_trans whole.reaches, since_of_push rfl]
    exact .paid (List.contains_iff_mem.mpr isSource) whole.within
  · have toStored : Covers b 0 r stored := .of_push storing rfl (Moment.not_calls rfl)
    have telling := others (stored.world.subscribersTo c key) fun s mem own => told ⟨s, mem, own⟩
    exact toStored.trans (telling stored soundStored).related

end Covers

/-- Whatever user code does, every call of the callback of a binding is paid for by a source that was set. -/
theorem performAll_covers (b : BindingId) (room : Nat) :
    Perform.Follows (Covers b 0) (performAll (performAt room)) :=
  performAll_follows (Covers.compatible b) (Covers.dispatches b) room

end Run

end LiveTemplate
