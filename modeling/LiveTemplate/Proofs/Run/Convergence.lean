import LiveTemplate.Proofs.Run.Holding
import LiveTemplate.Proofs.Run.Performing

/-!
Updates converge, however deep user code nests them.  Whenever a source of an active binding is set, the
callback of the binding is called at some later time; and where filters only compute, it is called with the
composition of the template as the sources stand then.  A stale value can be given to a callback in the
middle of an operation but not at the end of it, as nothing was set since the last call.
-/

namespace LiveTemplate

namespace Moment

/-- The value that a callback is called with. -/
def given? (m : Moment) (l : ListenerId) : Option Value :=
  match m.occurrence with
  | .called k _ _ value => if k = l then some value else none
  | _ => none

/-- The callback of a binding is called. -/
def Calls (m : Moment) (b : BindingId) : Prop :=
  b < m.world.bindings.size ∧ (m.given? (m.world.binding b).listener).isSome

theorem given?_eq_some {m : Moment} {l : ListenerId} {value : Value} :
    m.given? l = some value ↔ ∃ label call, m.occurrence = .called l label call value := by
  simp only [given?]
  constructor
  · intro given
    split at given
    · next k label call other isCalled =>
      split at given
      · next same =>
        cases given
        exact ⟨label, call, by rw [isCalled, same]⟩
      · cases given
    · cases given
  · rintro ⟨label, call, isCalled⟩
    rw [isCalled]
    exact if_pos rfl

/-- Nothing is given to callbacks where none is called. -/
theorem given?_eq_none {m : Moment} {l : ListenerId} (silent : m.occurrence.isCall = false) :
    m.given? l = none := by
  simp only [given?]
  split
  · next isCalled => rw [isCalled] at silent; cases silent
  · rfl

end Moment

/-- Whenever a source of a binding is set, its callback is called later. -/
def Answered (b : BindingId) : List Moment → Prop
  | [] => True
  | m :: later => (m.setsSource b → ∃ x ∈ later, x.Calls b) ∧ Answered b later

namespace Answered

variable {b : BindingId} {xs ys : List Moment} {m : Moment}

theorem append (first : Answered b xs) (second : Answered b ys) : Answered b (xs ++ ys) := by
  induction xs with
  | nil => exact second
  | cons m rest inductionHypothesis =>
      refine ⟨?_, inductionHypothesis first.2⟩
      intro sets
      obtain ⟨x, mem, calls⟩ := first.1 sets
      exact ⟨x, List.mem_append_left _ mem, calls⟩

/-- A change of a source is answered. -/
theorem exists_call (answered : Answered b xs) (mem : m ∈ xs) (sets : m.setsSource b) :
    ∃ x ∈ xs, x.Calls b := by
  induction xs with
  | nil => exact absurd mem List.not_mem_nil
  | cons first rest inductionHypothesis =>
      rcases List.mem_cons.mp mem with rfl | inRest
      · obtain ⟨x, inRest, calls⟩ := answered.1 sets
        exact ⟨x, List.mem_cons_of_mem _ inRest, calls⟩
      · obtain ⟨x, inRest, calls⟩ := inductionHypothesis answered.2 inRest
        exact ⟨x, List.mem_cons_of_mem _ inRest, calls⟩

/-- What follows an entry is answered if the whole is. -/
theorem of_append (answered : Answered b (xs ++ ys)) : Answered b ys := by
  induction xs with
  | nil => exact answered
  | cons m rest inductionHypothesis => exact inductionHypothesis answered.2

/-- After the last call of the callback no source was set. -/
theorem not_setsSource (answered : Answered b xs) (never : ∀ x ∈ xs, ¬ x.Calls b) :
    ∀ x ∈ xs, x.setsSource b = false := by
  induction xs with
  | nil => exact fun _ mem => absurd mem List.not_mem_nil
  | cons m rest inductionHypothesis =>
      have neverLater := fun x mem => never x (List.mem_cons_of_mem m mem)
      intro x mem
      rcases List.mem_cons.mp mem with rfl | inRest
      · by_contra sets
        obtain ⟨y, inRest, calls⟩ := answered.1 (by simpa using sets)
        exact neverLater y inRest calls
      · exact inductionHypothesis answered.2 neverLater x inRest

end Answered

namespace Run

variable {r r' r'' : Run} {b : BindingId}

/-! ### Every change of a source is answered -/

/-- On the way between two runs, a binding that is not released by the end answers every change of its
sources. -/
structure Answers (b : BindingId) (r r' : Run) : Prop where
  reaches : Reaches r r'
  answered : ¬ r'.world.IsReleased b → r'.world.FiltersQuiet → Answered b (r'.since r)

theorem Answers.trans (first : Answers b r r') (second : Answers b r' r'') : Answers b r r'' := by
  refine ⟨first.reaches.trans second.reaches, ?_⟩
  intro active quiet
  rw [first.reaches.since_trans second.reaches]
  have grows := second.reaches.grows
  exact (first.answered (fun released => active (grows.isReleased released))
    (quiet.of_grows grows)).append (second.answered active quiet)

/-- A move that stores nothing has nothing to answer. -/
theorem answers_closed (b : BindingId) : Run.Closed (Answers b) := by
  refine .of_moves ?_ .trans Answers.reaches ?_
  · intro r
    have none : r.since r = [] := since_of_eq rfl
    exact ⟨.refl, fun _ _ => by rw [none]; trivial⟩
  · intro r r' _ move
    refine ⟨.single (.move move), ?_⟩
    intro _ _
    cases move with
    | @change w' =>
        have none : (r.turn w').since r = [] := since_of_eq rfl
        simp only [none]
        trivial
    | @entry o allowed =>
        rw [since_of_push rfl]
        refine ⟨?_, trivial⟩
        intro sets
        cases o with
        | stored => exact absurd allowed.world id
        | _ => cases sets
    | deed deed =>
        rw [since_of_push rfl]
        refine ⟨?_, trivial⟩
        intro sets
        cases sets

variable {perform : Perform}

/-- Where filters only compute, an active binding that is told that a source was set calls its callback. -/
theorem refresh_calls (follows : perform.Follows (Answers b)) (sound : r.world.Sound)
    (active : (r.world.binding b).isActive) (quiet : r.world.FiltersQuiet) :
    ∃ m ∈ (refresh perform b r).2.since r, m.Calls b := by
  have closed := answers_closed b
  obtain ⟨result, counted⟩ := sound.reevaluate_quiet follows.nothing active quiet
  obtain ⟨value, composed⟩ := Option.isSome_iff_exists.mp (sound.subscribed.isSome_composed active)
  simp only [composed] at result
  have reaches := (reevaluate_reaches closed follows sound active).1.reaches
  have unfolded := refresh_of_active perform active
  cases isResult : (reevaluate perform b r).1 with
  | error e => rw [isResult] at result; cases result
  | ok other =>
      rw [isResult] at unfolded
      rw [unfolded]
      have entry := callListener_entry closed follows (reaches.sound sound)
        (r.world.binding b).listener (.called (r.world.binding b).listener · · other)
      have made := World.lt_size_of_isActive _ active
      refine ⟨_, mem_since.mpr ⟨_, reaches.size_journal_le, entry⟩, ?_, ?_⟩
      · exact Nat.lt_of_lt_of_le made reaches.grows.bindingCount
      · have listener : ((reevaluate perform b r).2.world.binding b).listener =
            (r.world.binding b).listener := reaches.grows.listener_eq made
        exact Option.isSome_iff_exists.mpr
          ⟨other, Moment.given?_eq_some.mpr ⟨_, _, by rw [← listener]; rfl⟩⟩

/-- A dispatch that tells an active binding calls its callback, if the binding is not released before. -/
theorem dispatch_calls (follows : perform.Follows (Answers b)) (key : String) (value : Value)
    {subscribers : List Subscriber} {s : Subscriber} (mem : s ∈ subscribers)
    (handler : s.handler = .binding b) (sound : r.world.Sound)
    (active : (r.world.binding b).isActive)
    (unreleased : ¬ (subscribers.forM (notify perform key value) r).2.world.IsReleased b)
    (quiet : (subscribers.forM (notify perform key value) r).2.world.FiltersQuiet) :
    ∃ m ∈ (subscribers.forM (notify perform key value) r).2.since r, m.Calls b := by
  have closed := answers_closed b
  induction subscribers generalizing r with
  | nil => exact absurd mem List.not_mem_nil
  | cons first rest inductionHypothesis =>
      have told := notify_follows closed follows key value first r sound
      have soundTold := told.sound closed sound
      have later := (Act.Follows.forM closed rest
        fun x _ => notify_follows closed follows key value x) _ soundTold
      have split : ((first :: rest).forM (notify perform key value) r).2.since r =
          (notify perform key value first r).2.since r ++
            (rest.forM (notify perform key value) (notify perform key value first r).2).2.since
              (notify perform key value first r).2 :=
        told.related.reaches.since_trans later.related.reaches
      have grows := later.related.reaches.grows
      rw [split]
      by_cases own : first.handler = .binding b
      · obtain ⟨m, inFirst, calls⟩ := refresh_calls follows sound active
          ((quiet.of_grows grows).of_grows told.related.reaches.grows)
        refine ⟨m, List.mem_append_left _ ?_, calls⟩
        simp only [notify, own]
        exact inFirst
      · have inRest : s ∈ rest := by
          rcases List.mem_cons.mp mem with rfl | inRest
          · exact absurd handler own
          · exact inRest
        have made := World.lt_size_of_isActive _ active
        have stillActive : ((notify perform key value first r).2.world.binding b).isActive := by
          by_contra released
          refine unreleased (grows.isReleased ⟨?_, by simpa using released⟩)
          exact Nat.lt_of_lt_of_le made told.related.reaches.grows.bindingCount
        obtain ⟨m, inLater, calls⟩ :=
          inductionHypothesis inRest soundTold stillActive unreleased quiet
        exact ⟨m, List.mem_append_right _ inLater, calls⟩

/-- Storing a value is answered by the dispatch that it starts. -/
theorem answers_dispatches (b : BindingId) : Run.Dispatches (Answers b) := by
  refine (answers_closed b).dispatches fun perform follows r sound c key value told => ?_
  have storing : Reaches r (r.stored c key value) := .single (.store c key value)
  have soundStored : (r.stored c key value).world.Sound := sound.store c key value
  refine ⟨storing.trans told.reaches, ?_⟩
  intro unreleased quiet
  rw [storing.since_trans told.reaches, since_of_push rfl]
  refine ⟨?_, told.answered unreleased quiet⟩
  intro sets
  have isSource : (key, c) ∈ ((r.stored c key value).world.binding b).sources :=
    List.contains_iff_mem.mp sets
  have active : ((r.stored c key value).world.binding b).isActive := by
    by_contra released
    refine unreleased (told.reaches.grows.isReleased ⟨?_, by simpa using released⟩)
    exact World.lt_size_of_source _ isSource
  obtain ⟨s, mem, handler⟩ := soundStored.subscribed.exists_subscriber active isSource
  exact dispatch_calls follows key value mem handler soundStored active unreleased quiet

/-! ### What callbacks were given last -/

/-- The value that a callback was most recently called with. -/
def lastGiven? (r : Run) (l : ListenerId) : Option Value :=
  r.journal.toList.reverse.findSome? (·.given? l)

/-- The last call of a callback that was called since some run. -/
theorem lastGiven?_spec (reaches : Reaches r r') {l : ListenerId}
    (called : ∃ m ∈ r'.since r, (m.given? l).isSome) :
    ∃ earlier m later value, r'.since r = earlier ++ m :: later ∧ m.given? l = some value ∧
      (∀ x ∈ later, x.given? l = none) ∧ r'.lastGiven? l = some value := by
  obtain ⟨m, mem, isGiven⟩ := called
  have isFound : ((r'.since r).reverse.findSome? (·.given? l)).isSome := by
    rw [List.isSome_findSome?, List.any_reverse]
    exact List.any_eq_true.mpr ⟨m, mem, isGiven⟩
  obtain ⟨value, found⟩ := Option.isSome_iff_exists.mp isFound
  obtain ⟨later, last, earlier, split, given, never⟩ := List.findSome?_eq_some_iff.mp found
  refine ⟨earlier.reverse, last, later.reverse, value, ?_, given, ?_, ?_⟩
  · rw [← List.reverse_reverse (r'.since r), split]
    simp
  · intro x mem
    exact never x (List.mem_reverse.mp mem)
  · simp only [lastGiven?, reaches.journal_eq, List.reverse_append, List.findSome?_append, found]
    rfl

/-- Where filters only compute, the callback of a binding is called with what the binding is composed to at
that moment. -/
theorem Reaches.composed_of_given (reaches : Reaches r r') (quiet : r'.world.FiltersQuiet) {m : Moment}
    (mem : m ∈ r'.since r) (made : b < m.world.bindings.size) {value : Value}
    (given : m.given? (m.world.binding b).listener = some value) :
    m.world.composed b = some value := by
  obtain ⟨i, later, found⟩ := mem_since.mp mem
  obtain ⟨label, call, isCalled⟩ := Moment.given?_eq_some.mp given
  have allowed := reaches.allows later found (by simp [isCalled]) (by simp [isCalled])
  rw [isCalled] at allowed
  have quietThen := quiet.of_grows (reaches.grows_moment mem)
  exact (allowed quietThen b made rfl).2

/-- When a binding has answered every change of its sources, what its callback was called with last is what
the binding is composed to now. -/
theorem Answers.converges (answers : Answers b r r') (sound : r.world.Sound)
    (quiet : r'.world.FiltersQuiet) (unregistered : ∀ m ∈ r'.since r, m.registersFilter = false)
    (active : (r'.world.binding b).isActive) (sets : ∃ m ∈ r'.since r, m.setsSource b) :
    ∃ value, r'.lastGiven? (r'.world.binding b).listener = some value ∧
      r'.world.composed b = some value := by
  have answered : Answered b (r'.since r) := by
    apply answers.answered _ quiet
    intro released
    rw [released.2] at active
    cases active
  have own : ∀ m ∈ r'.since r, b < m.world.bindings.size →
      (m.world.binding b).listener = (r'.world.binding b).listener := by
    intro m mem made
    exact ((answers.reaches.grows_moment mem).listener_eq made).symm
  obtain ⟨m, mem, isSet⟩ := sets
  obtain ⟨x, inList, made, isGiven⟩ := answered.exists_call mem isSet
  rw [own x inList made] at isGiven
  obtain ⟨earlier, last, later, value, split, given, never, lastGiven⟩ :=
    lastGiven?_spec answers.reaches ⟨x, inList, isGiven⟩
  obtain ⟨middle, toMiddle, fromMiddle, world, upTo, rest⟩ := answers.reaches.split_since split
  have lastMem : last ∈ r'.since r := by simp [split]
  have behind : ∀ y ∈ later, y ∈ r'.since r := by
    intro y mem
    simp [split, mem]
  -- the binding was made when its callback was called last
  have madeLast : b < last.world.bindings.size := by
    have notLater : x ∉ later := by
      intro inLater
      rw [never x inLater] at isGiven
      cases isGiven
    have before : x ∈ middle.since r := by
      rw [upTo]
      simpa [split, notLater] using inList
    rw [← world]
    exact Nat.lt_of_lt_of_le made (toMiddle.grows_moment before).bindingCount
  -- no source was set since then
  have unset : ∀ y ∈ later, y.setsSource b = false := by
    rw [split] at answered
    apply answered.of_append.2.not_setsSource
    rintro z mem ⟨madeThen, isGivenLater⟩
    rw [own z (behind z mem) madeThen, never z mem] at isGivenLater
    cases isGivenLater
  refine ⟨value, lastGiven, ?_⟩
  rw [← own last lastMem madeLast] at given
  rw [← answers.reaches.composed_of_given quiet lastMem madeLast given, ← world]
  apply fromMiddle.composed_eq (toMiddle.sound sound) (by rw [world]; exact madeLast)
  rw [rest]
  intro y mem
  exact ⟨unset y mem, Moment.registersIn_eq_false (unregistered y (behind y mem)) _⟩

end Run

/-- Where filters only compute, and none is registered on the way, updates converge: after an operation in
which a source of an active binding was set, the callback of the binding was last called with what the
binding is composed to now. -/
theorem session_converges (room : Nat) (script : List Step) (step : Step)
    (quiet : (session room (script ++ [step])).world.FiltersQuiet)
    (unregistered : ∀ m ∈ (session room (script ++ [step])).since (session room script),
      m.registersFilter = false)
    (b : BindingId) (active : ((session room (script ++ [step])).world.binding b).isActive)
    (sets : ∃ m ∈ (session room (script ++ [step])).since (session room script), m.setsSource b) :
    let after := session room (script ++ [step])
    ∃ value, after.lastGiven? (after.world.binding b).listener = some value ∧
      after.world.composed b = some value := by
  intro after
  have sound := session_sound room script
  have answers : Run.Answers b (session room script) after := by
    have follows := performAll_follows (Run.answers_closed b) (Run.answers_dispatches b) room
    have related := (follows.steps [step] (session room script) sound).related
    rw [← session_append] at related
    exact related
  exact answers.converges sound quiet unregistered active sets

/-- A binding whose callback sets the source again when it is called for the second time. -/
def setsAgain : List Step := [
  .newType "T" "T" (some .plainInterpolation),
  .registerFilter "T" "shout" ⟨.append "!", []⟩,
  .create "T" "v" none [("x", .string "a")] [] none,
  .bind "v" "{{x|shout}}" "cb" [⟨some 2, [.set (.ofView "v") "x" (.string "c")]⟩]]

theorem session_converges_setsAgain :
    let after := session nestingLimit (setsAgain ++ [.set (.ofView "v") "x" (.string "b")])
    ∃ value, after.lastGiven? (after.world.binding 0).listener = some value ∧
      after.world.composed 0 = some value :=
  session_converges nestingLimit setsAgain (.set (.ofView "v") "x" (.string "b")) (by decide +kernel)
    (by decide +kernel) 0 (by decide +kernel) (by decide +kernel)

end LiveTemplate
