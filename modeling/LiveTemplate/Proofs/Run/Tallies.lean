import LiveTemplate.Proofs.Run.Performing

/-!
Which bindings nobody has released.  The journal has an entry for every step that made a binding and for every step
that released one in person, and the world says who has let go of what.  Together they tell which bindings are
active, at every moment of every run.

A run goes by strides.  A stride is a change that makes no binding and releases none in person, or an entry of
another kind; or it is the last change of a step that makes or releases a binding, together with the entry of the
step.  Before and after each stride the journal and the world agree.
-/

namespace LiveTemplate

/-- The entry of a step that released the binding. -/
def Moment.Releases (m : Moment) (b : BindingId) : Prop :=
  ∃ binding answer, m.occurrence = .nested (.release binding) (.ok answer) ∧ m.world.findBinding binding = .ok b

/-- A history ends with the entry of a step that made the binding for a keeper.  The step was performed from a run
that had been reached, and its entry was made as soon as it had ended. -/
def EndsBind (history : List Moment) (b : BindingId) (k : Keeper) : Prop :=
  ∃ (began ended : Run) (room : Nat) (step : Step) (answer : Answer),
    Run.Reaches .start began ∧ Run.Reaches began ended ∧ performAt room step began = (.ok answer, ended) ∧
      began.Binds step b k ended ∧ history = (ended.note (.nested step (.ok answer))).journal.toList

/-- A history has the entry of a step that made the binding for a keeper. -/
def Bound (history : List Moment) (b : BindingId) (k : Keeper) : Prop :=
  ∃ part, part <+: history ∧ EndsBind part b k

namespace World

/-- The history of a world tells which bindings were made, for whom, and which of them were released in person. -/
structure Tallied (w : World) (history : List Moment) : Prop where
  entered : ∀ part m, part ++ [m] <+: history → ∀ step answer, m.occurrence = .nested step (.ok answer) →
    step.bound?.isSome → ∃ b k, EndsBind (part ++ [m]) b k
  made : ∀ b < w.bindings.size, ∃ k, Bound history b k
  kept : ∀ b k, Bound history b k →
    b < w.bindings.size ∧ k.IsMade w ∧ w.KeptBy b k (∃ m ∈ history, m.Releases b)
  released : ∀ m ∈ history, ∀ b, m.Releases b → b < w.bindings.size

end World

/-- What is in a history stays in it. -/
theorem Bound.of_prefix {history later : List Moment} {b : BindingId} {k : Keeper} (bound : Bound history b k)
    (onward : history <+: later) : Bound later b k := by
  obtain ⟨part, isPart, ends⟩ := bound
  exact ⟨part, isPart.trans onward, ends⟩

/-- What was bound after one more entry was bound before, or the entry is that of the step. -/
theorem bound_append_singleton {history : List Moment} {m : Moment} {b : BindingId} {k : Keeper} :
    Bound (history ++ [m]) b k ↔ Bound history b k ∨ EndsBind (history ++ [m]) b k := by
  constructor
  · rintro ⟨part, isPart, ends⟩
    rcases List.prefix_concat_iff.mp isPart with rfl | before
    · exact Or.inr ends
    · exact Or.inl ⟨part, before, ends⟩
  · rintro (bound | ends)
    · exact bound.of_prefix (List.prefix_append _ _)
    · exact ⟨_, List.prefix_refl _, ends⟩

/-- The entry with which a history ends in a bind is that of a step that binds. -/
theorem EndsBind.last {history : List Moment} {m : Moment} {b : BindingId} {k : Keeper}
    (ends : EndsBind (history ++ [m]) b k) :
    (∃ step answer, m.occurrence = .nested step (.ok answer) ∧ step.bound?.isSome) ∧
      m.world.bindings.size = b + 1 ∧ k.IsMade m.world ∧ m.world.KeptBy b k False := by
  obtain ⟨began, ended, room, step, answer, _, _, _, binds, same⟩ := ends
  rw [Run.journal_note, Array.toList_push] at same
  obtain ⟨rfl⟩ := List.append_inj_right' same rfl
  obtain ⟨_, _, _, _, isBind, _, _, makes⟩ := binds
  exact ⟨⟨step, answer, rfl, by rw [isBind]; rfl⟩, makes.isLast, makes.keeperMade, makes.keptBy⟩

namespace World.Tallied

variable {w w' : World} {history : List Moment} {m : Moment} {b : BindingId}

/-- Nothing was made and nothing was released. -/
theorem empty : World.empty.Tallied [] where
  entered part m isPart := by
    have none := List.prefix_nil.mp isPart
    exact absurd none (List.append_ne_nil_of_right_ne_nil _ (List.cons_ne_nil _ _))
  made b made := absurd made (Nat.not_lt_zero b)
  kept b k bound := by
    obtain ⟨part, isPart, _, _, _, _, _, _, _, _, _, same⟩ := bound
    rw [List.prefix_nil.mp isPart, Run.journal_note, Array.toList_push] at same
    exact absurd same.symm (List.append_ne_nil_of_right_ne_nil _ (List.cons_ne_nil _ _))
  released m mem := absurd mem List.not_mem_nil

/-- Changes that make no binding and release none in person. -/
theorem calm (tallied : w.Tallied history) (sound : w.Sound) (calm : Calm w w') : w'.Tallied history where
  entered := tallied.entered
  made b made := tallied.made b (calm.bindingCount ▸ made)
  kept b k bound := by
    obtain ⟨made, isMade, kept⟩ := tallied.kept b k bound
    exact ⟨calm.bindingCount.symm ▸ made, isMade.of_grows calm.grows,
      kept.spares (calm.sound sound) calm.toSpares made isMade⟩
  released m mem b releases := calm.bindingCount.symm ▸ tallied.released m mem b releases

/-- Bindings and who has them are the same. -/
theorem of_same (tallied : w.Tallied history) (views : w'.views = w.views) (bindings : w'.bindings = w.bindings)
    (handles : w'.handles.bindings = w.handles.bindings) (heldViews : w'.handles.views = w.handles.views)
    (pinned : w'.pinnedViews = w.pinnedViews) : w'.Tallied history where
  entered := tallied.entered
  made b made := tallied.made b (bindings ▸ made)
  kept b k bound := by
    obtain ⟨made, isMade, kept⟩ := tallied.kept b k bound
    refine ⟨bindings ▸ made, ?_, kept.of_same views bindings handles heldViews pinned⟩
    cases k with
    | view v => exact Nat.lt_of_lt_of_eq isMade (congrArg Array.size views).symm
    | handle => exact trivial
  released m mem b releases := bindings ▸ tallied.released m mem b releases

/-- One more entry.  If it is that of a step that binds, its binding is new; if it is that of a step that releases,
its binding is not. -/
theorem append (tallied : w.Tallied history) {o : Occurrence} (grows : w.bindings.size ≤ w'.bindings.size)
    (entered : ∀ step answer, o = .nested step (.ok answer) → step.bound?.isSome →
      ∃ b k, EndsBind (history ++ [⟨o, w'⟩]) b k)
    (new : ∀ b k, EndsBind (history ++ [⟨o, w'⟩]) b k → w.bindings.size ≤ b)
    (made : ∀ b < w'.bindings.size, b < w.bindings.size ∨ ∃ k, EndsBind (history ++ [⟨o, w'⟩]) b k)
    (kept : ∀ b k, b < w.bindings.size → k.IsMade w → ∀ freed, w.KeptBy b k freed →
      k.IsMade w' ∧ w'.KeptBy b k (freed ∨ Moment.Releases ⟨o, w'⟩ b))
    (old : ∀ b, Moment.Releases ⟨o, w'⟩ b → b < w.bindings.size) : w'.Tallied (history ++ [⟨o, w'⟩]) := by
  have releases_iff : ∀ b, (∃ x ∈ history ++ [⟨o, w'⟩], x.Releases b) ↔
      (∃ x ∈ history, x.Releases b) ∨ Moment.Releases ⟨o, w'⟩ b := by
    intro b
    simp only [List.mem_append, List.mem_singleton, or_and_right, exists_or, exists_eq_left]
  have released : ∀ b, (∃ x ∈ history ++ [⟨o, w'⟩], x.Releases b) → b < w.bindings.size := by
    intro b releases
    rcases (releases_iff b).mp releases with ⟨x, mem, before⟩ | isLast
    · exact tallied.released x mem b before
    · exact old b isLast
  constructor
  · intro part x isPart step answer isNested isBind
    rcases List.prefix_concat_iff.mp isPart with same | before
    · obtain ⟨rfl⟩ := List.append_inj_right' same rfl
      rw [same]
      exact entered step answer isNested isBind
    · exact tallied.entered part x before step answer isNested isBind
  · intro b madeNow
    rcases made b madeNow with before | ⟨k, ends⟩
    · obtain ⟨k, bound⟩ := tallied.made b before
      exact ⟨k, bound.of_prefix (List.prefix_append _ _)⟩
    · exact ⟨k, bound_append_singleton.mpr (Or.inr ends)⟩
  · intro b k bound
    rw [releases_iff]
    rcases bound_append_singleton.mp bound with before | ends
    · obtain ⟨madeThen, isMade, keptThen⟩ := tallied.kept b k before
      exact ⟨Nat.lt_of_lt_of_le madeThen grows, kept b k madeThen isMade _ keptThen⟩
    · obtain ⟨_, isLast, isMade, keptNow⟩ := ends.last
      have unreleased : ¬ ((∃ x ∈ history, x.Releases b) ∨ Moment.Releases ⟨o, w'⟩ b) := by
        rw [← releases_iff]
        exact fun releases => absurd (released b releases) (Nat.not_lt_of_le (new b k ends))
      rw [iff_false_intro unreleased]
      exact ⟨Nat.lt_of_lt_of_eq (Nat.lt_succ_self b) isLast.symm, isMade, keptNow⟩
  · intro x mem b releases
    exact Nat.lt_of_lt_of_le (released b ⟨x, mem, releases⟩) grows

/-- An entry of another kind tells nothing of bindings. -/
theorem entry (tallied : w.Tallied history) {o : Occurrence} (apart : o.isReckoned = false) :
    w.Tallied (history ++ [⟨o, w⟩]) := by
  have notBind : ∀ step answer, o = .nested step (.ok answer) → ¬ step.bound?.isSome := by
    intro step answer isNested isBind
    rw [isNested, Occurrence.isReckoned, isBind, Bool.or_true] at apart
    cases apart
  have notRelease : ∀ b, ¬ Moment.Releases ⟨o, w⟩ b := by
    rintro b ⟨binding, answer, isNested, _⟩
    cases isNested
    cases apart
  have notEnds : ∀ b k, ¬ EndsBind (history ++ [⟨o, w⟩]) b k := by
    intro b k ends
    obtain ⟨⟨step, answer, isNested, isBind⟩, _⟩ := ends.last
    exact notBind step answer isNested isBind
  apply tallied.append (Nat.le_refl _)
  · exact fun step answer isNested isBind => absurd isBind (notBind step answer isNested)
  · exact fun b k ends => absurd ends (notEnds b k)
  · exact fun b made => Or.inl made
  · intro b k _ isMade freed kept
    rw [or_iff_left (notRelease b)]
    exact ⟨isMade, kept⟩
  · exact fun b releases => absurd releases (notRelease b)

/-- A step that releases a binding, and its entry. -/
theorem release (tallied : w.Tallied history) (sound : w.Sound) {binding : String} {a : BindingId}
    (found : w.findBinding binding = .ok a) :
    (w.release a).Tallied (history ++ [⟨.nested (.release binding) (.ok .done), w.release a⟩]) := by
  obtain ⟨_, _, _, views, _, handles, _, _, _, count⟩ := release_frame w a
  have foundAfter : (w.release a).findBinding binding = .ok a := by
    rw [findBinding, handles]
    exact found
  have releases_iff : ∀ b,
      Moment.Releases ⟨.nested (.release binding) (.ok .done), w.release a⟩ b ↔ b = a := by
    intro b
    constructor
    · rintro ⟨_, _, isNested, isFound⟩
      cases isNested
      exact Except.ok.inj (isFound.symm.trans foundAfter)
    · rintro rfl
      exact ⟨binding, .done, rfl, foundAfter⟩
  have notEnds : ∀ b k,
      ¬ EndsBind (history ++ [⟨.nested (.release binding) (.ok .done), w.release a⟩]) b k := by
    intro b k ends
    obtain ⟨⟨_, _, isNested, isBind⟩, _⟩ := ends.last
    cases isNested
    cases isBind
  apply tallied.append (Nat.le_of_eq count.symm)
  · intro step answer isNested isBind
    cases isNested
    cases isBind
  · exact fun b k ends => absurd ends (notEnds b k)
  · exact fun b made => Or.inl (Nat.lt_of_lt_of_eq made count)
  · intro b k _ isMade freed kept
    rw [releases_iff]
    refine ⟨?_, kept.release a⟩
    cases k with
    | view v => exact Nat.lt_of_lt_of_eq isMade (congrArg Array.size views).symm
    | handle => exact trivial
  · intro b releases
    rw [(releases_iff b).mp releases]
    exact findBinding_lt_size sound.numbered found

/-- The last change of a step that makes a binding, and its entry. -/
theorem bind {began r : Run} {w' : World} {room : Nat} {step : Step} {answer : Answer} {b : BindingId} {k : Keeper}
    (tallied : r.world.Tallied r.journal.toList) (sound : r.world.Sound) (reached : Run.Reaches .start began)
    (onward : Run.Reaches began (r.turn w')) (spares : Spares r.world w')
    (performs : performAt room step began = (.ok answer, r.turn w'))
    (binds : began.Binds step b k (r.turn w')) (count : w'.bindings.size = r.world.bindings.size + 1) :
    w'.Tallied (r.journal.toList ++ [⟨.nested step (.ok answer), w'⟩]) := by
  have ends : EndsBind (r.journal.toList ++ [⟨.nested step (.ok answer), w'⟩]) b k :=
    ⟨began, r.turn w', room, step, answer, reached, onward, performs, binds, Array.toList_push.symm⟩
  have isNext : ∀ {a j}, EndsBind (r.journal.toList ++ [⟨.nested step (.ok answer), w'⟩]) a j →
      a = r.world.bindings.size := by
    intro a j other
    have isLast : w'.bindings.size = a + 1 := other.last.2.1
    exact Nat.succ.inj (isLast.symm.trans count)
  have notRelease : ∀ a, ¬ Moment.Releases ⟨.nested step (.ok answer), w'⟩ a := by
    rintro a ⟨_, _, isNested, _⟩
    obtain ⟨_, _, _, _, isBind, _⟩ := binds
    cases isNested
    cases isBind
  apply tallied.append spares.grows.bindingCount
  · exact fun _ _ _ _ => ⟨b, k, ends⟩
  · exact fun a j other => Nat.le_of_eq (isNext other).symm
  · intro a made
    rw [count] at made
    rcases Nat.lt_or_eq_of_le (Nat.le_of_lt_succ made) with before | same
    · exact Or.inl before
    · rw [same, ← isNext ends]
      exact Or.inr ⟨k, ends⟩
  · intro a _ made isMade freed kept
    rw [or_iff_left (notRelease a)]
    exact ⟨isMade.of_grows spares.grows, kept.spares (sound.changes spares.changes) spares made isMade⟩
  · exact fun a releases => absurd releases (notRelease a)

end World.Tallied

namespace Run

variable {r r' r'' : Run}

/-- One stride of a run. -/
inductive Stride (r : Run) : Run → Prop where
  | change {w' : World} (calm : World.Calm r.world w') : Stride r (r.turn w')
  | entry {o : Occurrence} (apart : o.isReckoned = false) : Stride r (r.note o)
  | deed {step : Step} {answer : Answer} {w' : World} (deed : World.Deed r.world step answer w') :
      Stride r ((r.turn w').note (.nested step (.ok answer)))
  | store (c : ContainerId) (key : String) (value : Value) : Stride r (r.stored c key value)
  | release {binding : String} {b : BindingId} (found : r.world.findBinding binding = .ok b) :
      Stride r ((r.turn (r.world.release b)).note (.nested (.release binding) (.ok .done)))
  | bind {began : Run} {room : Nat} {step : Step} {answer : Answer} {w' : World} {b : BindingId} {k : Keeper}
      (reached : Reaches .start began) (onward : Reaches began (r.turn w')) (spares : World.Spares r.world w')
      (count : w'.bindings.size = r.world.bindings.size + 1)
      (performs : performAt room step began = (.ok answer, r.turn w'))
      (binds : began.Binds step b k (r.turn w')) : Stride r ((r.turn w').note (.nested step (.ok answer)))

namespace Stride

/-- A stride leaves a sound world sound. -/
theorem sound (stride : Stride r r') (sound : r.world.Sound) : r'.world.Sound := by
  cases stride with
  | change calm => exact calm.sound sound
  | entry => exact sound
  | deed deed => exact sound.deed deed
  | store c key value => exact sound.store c key value
  | release => exact sound.change (.release _)
  | bind _ _ spares => exact sound.changes spares.changes

/-- A stride makes one entry, in the world that it leads to, or none. -/
theorem stepwise : Stepwise Stride := by
  intro r r' stride
  cases stride with
  | change => exact Or.inl rfl
  | _ => exact Or.inr ⟨_, rfl⟩

/-- The journal and the world agree after a stride if they did before. -/
theorem tallied (stride : Stride r r') (sound : r.world.Sound) (tallied : r.world.Tallied r.journal.toList) :
    r'.world.Tallied r'.journal.toList := by
  cases stride with
  | change calm => exact tallied.calm sound calm
  | entry apart =>
      rw [journal_note, Array.toList_push]
      exact tallied.entry apart
  | @deed step answer w' deed =>
      obtain ⟨views, bindings, pinned, _⟩ := deed.same
      obtain ⟨heldViews, heldBindings⟩ := deed.sameHandles
      have apart : (Occurrence.nested step (.ok answer)).isReckoned = false := by cases deed <;> rfl
      rw [journal_note, Array.toList_push]
      exact (tallied.of_same views bindings heldBindings heldViews pinned).entry apart
  | store c key value =>
      have stored : (r.world.store c key value).Tallied r.journal.toList :=
        tallied.of_same rfl rfl rfl rfl rfl
      show (r.world.store c key value).Tallied (r.journal.push _).toList
      rw [Array.toList_push]
      exact stored.entry rfl
  | release found =>
      rw [journal_note, Array.toList_push]
      exact tallied.release sound found
  | bind reached onward spares count performs binds =>
      rw [journal_note, Array.toList_push]
      exact tallied.bind sound reached onward spares performs binds count

end Stride

/-- Any number of strides. -/
abbrev Strides : Run → Run → Prop :=
  Relation.ReflTransGen Stride

namespace Strides

/-- Strides leave a sound world sound. -/
theorem sound (strides : Strides r r') (sound : r.world.Sound) : r'.world.Sound := by
  induction strides with
  | refl => exact sound
  | tail _ stride inductionHypothesis => exact stride.sound inductionHypothesis

/-- The journal and the world agree after any number of strides. -/
theorem tallied (strides : Strides r r') (sound : r.world.Sound) (tallied : r.world.Tallied r.journal.toList) :
    r'.world.Tallied r'.journal.toList := by
  induction strides with
  | refl => exact tallied
  | tail before stride inductionHypothesis => exact stride.tallied (Strides.sound before sound) inductionHypothesis

end Strides

/-! ### User code goes by strides -/

/-- A run that has been reached goes on by strides. -/
structure Tallies (r r' : Run) : Prop where
  reaches : Reaches r r'
  strides : Reaches .start r → Strides r r'

namespace Tallies

theorem trans (first : Tallies r r') (second : Tallies r' r'') : Tallies r r'' where
  reaches := first.reaches.trans second.reaches
  strides reached := (first.strides reached).trans (second.strides (reached.trans first.reaches))

/-- Every move but the storing of a value is a stride, or part of one. -/
theorem closed : Run.Closed Tallies where
  refl _ := ⟨.refl, fun _ => .refl⟩
  trans := trans
  reaches := reaches
  filtered {r} sound f value := by
    have counting : World.Calm r.world (r.world.countFilterCall f) := .of_same (.countFilterCall f) rfl rfl rfl
    exact ⟨reaches_closed.filtered sound f value, fun _ => .head (.change counting) (.single (.entry rfl))⟩
  change _ calm := ⟨Reaches.of_changes calm.changes, fun _ => .single (.change calm)⟩
  entry _ allowed _ _ apart := ⟨.single (.move (.entry allowed)), fun _ => .single (.entry apart)⟩
  deed _ deed := ⟨.single (.move (.deed deed)), fun _ => .single (.deed deed)⟩
  release sound found := ⟨reaches_closed.release sound found, fun _ => .single (.release found)⟩
  bind {_ before _ _ _ w' _ _} sound related spares count performs binds := by
    have onward : Reaches before (before.turn w') := Reaches.of_changes spares.changes
    refine ⟨reaches_closed.bind sound related.reaches spares count performs binds, fun reached => ?_⟩
    exact (related.strides reached).tail
      (.bind reached (related.reaches.trans onward) spares count performs binds)
  told {_ o} _ allowed isDispatch := by
    refine ⟨.single (.move (.entry allowed)), fun _ => .single (.entry ?_)⟩
    cases o with
    | nested => cases isDispatch
    | _ => rfl
  called {_ o} _ allowed isCall := by
    refine ⟨.single (.move (.entry allowed)), fun _ => .single (.entry ?_)⟩
    cases o with
    | nested => cases isCall
    | _ => rfl

/-- A value is stored in one stride. -/
theorem dispatches : Run.Dispatches Tallies := by
  apply closed.dispatches
  intro perform _ r _ c key value told related
  have storing : Tallies r (r.stored c key value) :=
    ⟨.single (.store c key value), fun _ => .single (.store c key value)⟩
  exact storing.trans related

end Tallies

end Run

end LiveTemplate
