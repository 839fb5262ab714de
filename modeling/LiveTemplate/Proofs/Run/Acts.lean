import LiveTemplate.Proofs.Run.Along
import LiveTemplate.Proofs.World.Lifetimes

/-!
How acts follow a relation between runs.  A relation is closed if it holds along every move but the storing of
values.  It is uncalled if it need not hold along the calls of callbacks either.  It is steady if it need not hold
where subscribers are told of a value, nor in the middle of a step that releases or makes a binding, before this
has its entry.  An act goes along it from a run if the run that it ends in is related to
the one that it starts in, and if it gives back what it held: views and containers are pinned as before, and the
bindings that were made meanwhile have callbacks of their own.

There is one lemma for each way in which acts are put together; evaluation then goes along whatever user
code goes along.
-/

namespace LiveTemplate

/-! ### What acts do to a run -/

namespace Act

variable {α β : Type}

theorem run_bind (act : Act α) (next : α → Act β) (r : Run) :
    (act >>= next) r = next (act r).1 (act r).2 := rfl

@[simp] theorem run_pure (a : α) (r : Run) : (pure a : Act α) r = (a, r) := rfl

@[simp] theorem run_world (r : Run) : Act.world r = (r.world, r) := rfl

@[simp] theorem run_change (f : World → World) (r : Run) :
    Act.change f r = ((), r.turn (f r.world)) := rfl

@[simp] theorem run_record (o : Occurrence) (r : Run) : Act.record o r = ((), r.note o) := rfl

/-- An act that succeeds comes to an answer. -/
theorem exists_ok {ε : Type} (result : Except ε α × Run) (isOk : result.1.toOption.isSome) :
    ∃ a, result = (.ok a, result.2) := by
  obtain ⟨outcome, r'⟩ := result
  cases outcome with
  | error e => cases isOk
  | ok a => exact ⟨a, rfl⟩

end Act

/-! ### What a bind makes -/

/-- The handle of the view and the template of a step that binds. -/
def Step.bound? : Step → Option (String × String)
  | .bind view template _ _ => some (view, template)
  | .bindRaw view template _ _ _ => some (view, template)
  | _ => none

/-- Who is to keep the binding that a step makes for a view. -/
def Step.keeper (v : ViewId) : Step → Keeper
  | .bindRaw _ _ _ binding _ => .handle binding
  | _ => .view v

/-- The view that is to keep a binding is the one that it is made for. -/
theorem Step.eq_of_keeper_eq_view {step : Step} {u v : ViewId} (keeper : step.keeper v = .view u) :
    u = v := by
  cases step with
  | bindRaw => cases keeper
  | _ => exact (Keeper.view.inj keeper).symm

/-- The binding that was made last is one for a view, from the sources that were found for its template when
its bind began.  It has one keeper, and is active unless this has let go of it already. -/
structure World.Makes (w : World) (v : ViewId) (t : Template) (sources : Sources) (k : Keeper)
    (b : BindingId) (w' : World) : Prop where
  isNew : w.bindings.size ≤ b
  isLast : w'.bindings.size = b + 1
  resolved : w.resolveAll v t.identifiers = .ok sources
  isTemplate : (w'.binding b).template = t
  isSources : (w'.binding b).sources = sources
  typed : (w.typeOf v).registry = some (w'.binding b).registry
  keeperMade : k.IsMade w'
  active : (w'.binding b).isActive ↔ k.Stands w' b
  has : (w'.binding b).isActive → ∀ other : Keeper, other.Has w' b ↔ other = k

/-- A binding that was just made is active as long as its keeper stands. -/
theorem World.Makes.keptBy {w w' : World} {v : ViewId} {t : Template} {sources : Sources} {k : Keeper}
    {b : BindingId} (makes : w.Makes v t sources k b w') : w'.KeptBy b k False :=
  ⟨makes.active.trans (and_iff_left id).symm, makes.has⟩

/-- A step has made a binding with a keeper. -/
def Run.Binds (r : Run) (step : Step) (b : BindingId) (k : Keeper) (r' : Run) : Prop :=
  ∃ view template v sources, step.bound? = some (view, template) ∧ r.world.findView view = .ok v ∧
    k = step.keeper v ∧ r.world.Makes v (Template.parse template) sources k b r'.world

/-! ### Following a relation -/

/-- What is given back at the end of an act. -/
structure World.Returns (w w' : World) : Prop where
  pinnedViews : w'.pinnedViews = w.pinnedViews
  pinnedContainers : w'.pinnedContainers = w.pinnedContainers
  fresh : ∀ b, w.bindings.size ≤ b → b < w'.bindings.size →
    w.listeners.size ≤ (w'.binding b).listener

namespace World.Returns

variable {w w' w'' : World}

theorem of_eq (views : w'.pinnedViews = w.pinnedViews)
    (containers : w'.pinnedContainers = w.pinnedContainers)
    (bindings : w'.bindings.size = w.bindings.size) : Returns w w' where
  pinnedViews := views
  pinnedContainers := containers
  fresh b new made := by
    rw [bindings] at made
    exact absurd made (Nat.not_lt.mpr new)

theorem refl (w : World) : Returns w w := of_eq rfl rfl rfl

/-- Callbacks that are fresh stay fresh. -/
theorem fresh_trans (before : w.listeners.size ≤ w'.listeners.size) (grows : Grows w' w'')
    (first : ∀ b, w.bindings.size ≤ b → b < w'.bindings.size →
      w.listeners.size ≤ (w'.binding b).listener)
    (second : ∀ b, w'.bindings.size ≤ b → b < w''.bindings.size →
      w'.listeners.size ≤ (w''.binding b).listener) :
    ∀ b, w.bindings.size ≤ b → b < w''.bindings.size →
      w.listeners.size ≤ (w''.binding b).listener := by
  intro b new made
  by_cases early : b < w'.bindings.size
  · rw [grows.listener_eq early]
    exact first b new early
  · exact Nat.le_trans before (second b (Nat.le_of_not_lt early) made)

theorem trans (first : Returns w w') (second : Returns w' w'') (growsFirst : Grows w w')
    (growsSecond : Grows w' w'') : Returns w w'' where
  pinnedViews := second.pinnedViews.trans first.pinnedViews
  pinnedContainers := second.pinnedContainers.trans first.pinnedContainers
  fresh := fresh_trans growsFirst.listenerCount growsSecond first.fresh second.fresh

end World.Returns

/-- A relation that holds along what an evaluation does by itself, which is to call filters. -/
structure Run.Chained (R : Run → Run → Prop) : Prop where
  refl : ∀ r, R r r
  trans : ∀ {r r' r''}, R r r' → R r' r'' → R r r''
  reaches : ∀ {r r'}, R r r' → Run.Reaches r r'
  filtered : ∀ {r : Run}, r.world.Sound → ∀ f value,
    R r ((r.turn (r.world.countFilterCall f)).note (.filtered f value))

/-- Whether a callback is called. -/
def Occurrence.isCall : Occurrence → Bool
  | .called .. => true
  | _ => false

/-- Whether an entry belongs to a dispatch: a value was stored, or a subscriber is told of it. -/
def Occurrence.isDispatch : Occurrence → Bool
  | .stored .. | .notified .. | .refreshed .. => true
  | _ => false

/-- The handle of the binding that a step releases. -/
def Step.released? : Step → Option String
  | .release binding => some binding
  | _ => none

/-- Whether an entry tells that a binding was released in person or made. -/
def Occurrence.isReckoned : Occurrence → Bool
  | .nested step (.ok _) => step.released?.isSome || step.bound?.isSome
  | _ => false

/-- A relation that holds along every move that stores no value, tells no subscriber and calls no callback.  A
step that releases a binding is one move with its entry, and so is the end of one that makes a binding. -/
structure Run.Steady (R : Run → Run → Prop) : Prop extends Run.Chained R where
  change : ∀ {r : Run} {w' : World}, r.world.Sound → World.Calm r.world w' → R r (r.turn w')
  entry : ∀ {r : Run} {o : Occurrence}, r.world.Sound → r.Allows o → o.isCall = false →
    o.isDispatch = false → o.isReckoned = false → R r (r.note o)
  deed : ∀ {r : Run} {step : Step} {answer : Answer} {w' : World}, r.world.Sound →
    World.Deed r.world step answer w' → R r ((r.turn w').note (.nested step (.ok answer)))
  release : ∀ {r : Run} {binding : String} {b : BindingId}, r.world.Sound →
    r.world.findBinding binding = .ok b →
      R r ((r.turn (r.world.release b)).note (.nested (.release binding) (.ok .done)))
  bind : ∀ {r before : Run} {room : Nat} {step : Step} {answer : Answer} {w' : World} {b : BindingId}
    {k : Keeper}, r.world.Sound → R r before → World.Spares before.world w' →
      w'.bindings.size = before.world.bindings.size + 1 →
        performAt room step r = (.ok answer, before.turn w') → r.Binds step b k (before.turn w') →
          R r ((before.turn w').note (.nested step (.ok answer)))

/-- A steady relation that holds also where a subscriber is told of a value. -/
structure Run.Uncalled (R : Run → Run → Prop) : Prop extends Run.Steady R where
  told : ∀ {r : Run} {o : Occurrence}, r.world.Sound → r.Allows o → o.isDispatch → R r (r.note o)

/-- Such a relation that holds also where a callback is called.  There are no other moves but the storing of
values. -/
structure Run.Closed (R : Run → Run → Prop) : Prop extends Run.Uncalled R where
  called : ∀ {r : Run} {o : Occurrence}, r.world.Sound → r.Allows o → o.isCall → R r (r.note o)

/-- An act goes along a relation from a run. -/
structure Act.GoesFrom {α : Type} (R : Run → Run → Prop) (act : Act α) (r : Run) : Prop where
  related : R r (act r).2
  returns : World.Returns r.world (act r).2.world

/-- An act goes along a relation from every sound run. -/
def Act.Follows {α : Type} (R : Run → Run → Prop) (act : Act α) : Prop :=
  ∀ r : Run, r.world.Sound → act.GoesFrom R r

/-- User code is performed step by step, and follows a relation. -/
structure Perform.Follows (R : Run → Run → Prop) (perform : Perform) : Prop where
  nests : ∃ room, perform = performAll (performAt room)
  steps : ∀ steps, Act.Follows R (perform steps)

variable {R : Run → Run → Prop} {α β : Type} {r : Run}

/-- User code does nothing where there is nothing to do. -/
theorem Perform.Follows.nothing {perform : Perform} (follows : perform.Follows R) :
    perform [] = pure () := by
  obtain ⟨room, rfl⟩ := follows.nests
  rfl

/-- Only deeds are steps whose entries have moves of their own. -/
theorem Run.allows_of_not_deed {step : Step} {outcome : Outcome} (other : step.isDeed = false) :
    r.Allows (.nested step outcome) := by
  refine ⟨fun isDeed => ?_, nofun⟩
  rw [other] at isDeed
  cases isDeed

section Moves

variable (refl : ∀ r, R r r) (trans : ∀ {r r' r''}, R r r' → R r' r'' → R r r'')
  (reaches : ∀ {r r'}, R r r' → Run.Reaches r r')
  (change : ∀ {r : Run} {w' : World}, r.world.Sound → World.Change r.world w' → R r (r.turn w'))
  (deed : ∀ {r : Run} {step : Step} {answer : Answer} {w' : World}, r.world.Sound →
    World.Deed r.world step answer w' → R r ((r.turn w').note (.nested step (.ok answer))))

include refl trans reaches change deed

/-- A relation that holds along every single move that stores no value, tells no subscriber and calls no
callback. -/
theorem Run.Steady.of_moves
    (entry : ∀ {r : Run} {o : Occurrence}, r.world.Sound → r.Allows o → o.isCall = false →
      o.isDispatch = false → R r (r.note o)) : Run.Steady R := by
  have changes : ∀ {r : Run} {w' : World}, r.world.Sound →
      Relation.ReflTransGen World.Change r.world w' → R r (r.turn w') := by
    intro r w' sound changes
    induction changes with
    | refl => exact refl r
    | tail before last inductionHypothesis =>
        exact trans inductionHypothesis (change (sound.changes before) last)
  constructor
  case toChained =>
    refine ⟨refl, trans, reaches, fun {r} sound f value => ?_⟩
    have counting : World.Change r.world (r.world.countFilterCall f) := .countFilterCall f
    exact trans (change sound counting) (entry (sound.change counting) ⟨trivial, nofun⟩ rfl rfl)
  case change => exact fun sound calm => changes sound calm.changes
  case entry => exact fun sound allowed notCall apart _ => entry sound allowed notCall apart
  case deed => exact deed
  case release =>
    intro r binding b sound _
    have releasing : World.Change r.world (r.world.release b) := .release b
    exact trans (change sound releasing) (entry (sound.change releasing) (Run.allows_of_not_deed rfl) rfl rfl)
  case bind =>
    intro r before room step answer w' b k sound related spares _ _ binds
    have soundBefore := (reaches related).sound sound
    have notDeed : step.isDeed = false := by
      obtain ⟨_, _, _, _, isBind, _⟩ := binds
      cases step with
      | bind | bindRaw => rfl
      | _ => cases isBind
    exact trans (trans related (changes soundBefore spares.changes))
      (entry (soundBefore.changes spares.changes) (Run.allows_of_not_deed notDeed) rfl rfl)

/-- A relation that holds along every single move that stores no value and calls no callback. -/
theorem Run.Uncalled.of_moves
    (entry : ∀ {r : Run} {o : Occurrence}, r.world.Sound → r.Allows o → o.isCall = false → R r (r.note o)) :
    Run.Uncalled R where
  toSteady := .of_moves refl trans reaches change deed fun sound allowed notCall _ =>
    entry sound allowed notCall
  told {_ o} sound allowed isDispatch := by
    apply entry sound allowed
    cases o with
    | called => cases isDispatch
    | _ => rfl

end Moves

/-- A relation that holds along every single move but the storing of values. -/
theorem Run.Closed.of_moves (refl : ∀ r, R r r) (trans : ∀ {r r' r''}, R r r' → R r' r'' → R r r'')
    (reaches : ∀ {r r'}, R r r' → Run.Reaches r r')
    (move : ∀ {r r'}, r.world.Sound → Run.Move r r' → R r r') : Run.Closed R where
  toUncalled := .of_moves refl trans reaches (fun sound change => move sound (.change change))
    (fun sound deed => move sound (.deed deed)) fun sound allowed _ => move sound (.entry allowed)
  called sound allowed _ := move sound (.entry allowed)

instance : Coe (Run.Steady R) (Run.Chained R) := ⟨Run.Steady.toChained⟩

instance : Coe (Run.Uncalled R) (Run.Steady R) := ⟨Run.Uncalled.toSteady⟩

instance : Coe (Run.Closed R) (Run.Uncalled R) := ⟨Run.Closed.toUncalled⟩

/-- User code that goes along a relation goes by moves. -/
theorem Perform.Follows.reaches {perform : Perform} (chained : Run.Chained R)
    (follows : perform.Follows R) : perform.Follows Run.Reaches :=
  ⟨follows.nests, fun steps r sound =>
    have goes := follows.steps steps r sound
    ⟨chained.reaches goes.related, goes.returns⟩⟩

/-- Whatever goes along the relation does so between two changes, such as pinning and unpinning. -/
theorem Run.Steady.between (steady : Run.Steady R) {w w' : World} {after : Run}
    (sound : r.world.Sound) (first : World.Calm r.world w) (related : R (r.turn w) after)
    (last : World.Calm after.world w') : R r (after.turn w') := by
  have soundAfter := (steady.reaches related).sound (first.sound sound)
  have toAfter := steady.trans (steady.change sound first) related
  exact steady.trans toAfter (steady.change soundAfter last)

namespace Act.GoesFrom

variable {act : Act α} {next : α → Act β}

/-- An act that goes along a relation leaves a sound world sound. -/
theorem sound (goes : act.GoesFrom R r) (chained : Run.Chained R) (sound : r.world.Sound) :
    (act r).2.world.Sound :=
  (chained.reaches goes.related).sound sound

/-- Whatever an act does, everything is still there. -/
theorem grows (goes : act.GoesFrom R r) (chained : Run.Chained R) :
    World.Grows r.world (act r).2.world :=
  (chained.reaches goes.related).grows

theorem pure (chained : Run.Chained R) (a : α) : (Pure.pure a : Act α).GoesFrom R r :=
  ⟨chained.refl r, .refl _⟩

/-- An act that leaves the run as it was. -/
theorem unchanged (chained : Run.Chained R) (same : (act r).2 = r) : act.GoesFrom R r := by
  constructor <;> rw [same]
  · exact chained.refl r
  · exact .refl _

/-- One act after another, from one run. -/
theorem bind (chained : Run.Chained R) (first : act.GoesFrom R r)
    (second : (next (act r).1).GoesFrom R (act r).2) : (act >>= next).GoesFrom R r where
  related := chained.trans first.related second.related
  returns := first.returns.trans second.returns (first.grows chained) (second.grows chained)

/-- Looking at the world as it stands. -/
theorem world {next : World → Act β} (goes : (next r.world).GoesFrom R r) :
    (Act.world >>= next).GoesFrom R r :=
  ⟨goes.related, goes.returns⟩

/-- A change that pins nothing and makes no binding. -/
theorem change (steady : Run.Steady R) (sound : r.world.Sound) {f : World → World}
    (calm : World.Calm r.world (f r.world)) (returns : World.Returns r.world (f r.world)) :
    (Act.change f).GoesFrom R r :=
  ⟨steady.change sound calm, returns⟩

/-- An act that makes an entry. -/
theorem record {o : Occurrence} (noted : R r (r.note o)) : (Act.record o).GoesFrom R r :=
  ⟨noted, .refl _⟩

end Act.GoesFrom

namespace Act.Follows

/-- One act after another. -/
theorem bind (chained : Run.Chained R) {act : Act α} {next : α → Act β} (first : act.Follows R)
    (second : ∀ a, (next a).Follows R) : (act >>= next).Follows R := fun r sound =>
  (first r sound).bind chained (second _ _ ((first r sound).sound chained sound))

theorem pure (chained : Run.Chained R) (a : α) : (Pure.pure a : Act α).Follows R :=
  fun _ _ => .pure chained a

/-- Acts on one thing after another. -/
theorem forM (chained : Run.Chained R) {f : α → Act Unit} (xs : List α)
    (each : ∀ x ∈ xs, (f x).Follows R) : (xs.forM f).Follows R := by
  induction xs with
  | nil => exact pure chained ()
  | cons x rest inductionHypothesis =>
      show (f x >>= fun _ => rest.forM f).Follows R
      apply bind chained (each x List.mem_cons_self)
      intro _
      exact inductionHypothesis fun y mem => each y (List.mem_cons_of_mem _ mem)

end Act.Follows

/-! ### User code and evaluation -/

variable {perform : Perform}

/-- What holds of a run that an evaluation has led to from a sound one. -/
def Run.FollowsOn (R : Run → Run → Prop) (r r' : Run) : Prop :=
  r.world.Sound → R r r' ∧ World.Returns r.world r'.world

/-- What an evaluation does by itself follows on. -/
theorem Run.Chained.filtering (chained : Run.Chained R) : Run.Filtering (Run.FollowsOn R) where
  refl r _ := ⟨chained.refl r, .refl r.world⟩
  trans first second sound := by
    obtain ⟨related, returns⟩ := first sound
    have reaches := chained.reaches related
    obtain ⟨relatedOn, returnsOn⟩ := second (reaches.sound sound)
    exact ⟨chained.trans related relatedOn,
      returns.trans returnsOn reaches.grows (chained.reaches relatedOn).grows⟩
  filtered _ f value sound := ⟨chained.filtered sound f value, .of_eq rfl rfl rfl⟩

/-- An act that leads along what follows on goes along the relation. -/
theorem Act.Along.follows {act : Act α} (along : act.Along (Run.FollowsOn R)) : act.Follows R := fun r sound =>
  ⟨(along r sound).1, (along r sound).2⟩

/-- User code that goes along a relation leads along what follows on. -/
theorem Perform.Follows.along (follows : perform.Follows R) : perform.Along (Run.FollowsOn R) :=
  fun steps r sound => ⟨(follows.steps steps r sound).related, (follows.steps steps r sound).returns⟩

/-- Reactions to a call go along whatever user code goes along. -/
theorem react_follows (chained : Run.Chained R) (follows : perform.Follows R)
    (reactions : List (Reaction Step)) (call : Nat) : (react perform reactions call).Follows R :=
  (react_along chained.filtering follows.along reactions call).follows

/-- A callback or handler that is called counts the call, and has an entry before it reacts. -/
theorem callListener_run (l : ListenerId) (occurrence : String → Nat → Occurrence) :
    callListener perform l occurrence r =
      react perform (r.world.listener l).reactions ((r.world.listener l).calls + 1)
        ((r.turn (r.world.countListenerCall l)).note
          (occurrence (r.world.listener l).label ((r.world.listener l).calls + 1))) := rfl

/-- Calling a callback or handler, where the entry for it goes along the relation. -/
theorem callListener_goesFrom (steady : Run.Steady R) (follows : perform.Follows R)
    (sound : r.world.Sound) (l : ListenerId) {occurrence : String → Nat → Occurrence}
    (noted : ∀ label call, R (r.turn (r.world.countListenerCall l))
      ((r.turn (r.world.countListenerCall l)).note (occurrence label call))) :
    (callListener perform l occurrence).GoesFrom R r := by
  have counted : (Act.change (·.countListenerCall l)).GoesFrom R r :=
    .change steady sound (.countListenerCall r.world l) (.of_eq rfl rfl rfl)
  refine .world (counted.bind steady (.bind steady (.record (noted _ _)) ?_))
  exact react_follows steady follows _ _ _ (sound.change (.countListenerCall l))

/-- A callback or handler that is called has an entry in the journal. -/
theorem callListener_entry (chained : Run.Chained R) (follows : perform.Follows R)
    (sound : r.world.Sound) (l : ListenerId) (occurrence : String → Nat → Occurrence) :
    (callListener perform l occurrence r).2.journal[r.journal.size]? =
      some ⟨occurrence (r.world.listener l).label ((r.world.listener l).calls + 1),
        r.world.countListenerCall l⟩ := by
  have goes := react_follows chained follows (r.world.listener l).reactions
    ((r.world.listener l).calls + 1) ((r.turn (r.world.countListenerCall l)).note
      (occurrence (r.world.listener l).label ((r.world.listener l).calls + 1)))
    (sound.change (.countListenerCall l))
  have stays := (chained.reaches goes.related).getElem?_journal (i := r.journal.size)
    (Nat.lt_of_lt_of_eq (Nat.lt_succ_self _) (Array.size_push _).symm)
  exact stays.trans Array.getElem?_push_size

/-- Evaluation goes along whatever the user code of filters goes along. -/
theorem evaluate_follows (chained : Run.Chained R) (follows : perform.Follows R) (scope : Scope)
    (t : Template) : (evaluate perform scope t).Follows R :=
  (evaluate_along chained.filtering follows.along scope t).follows

end LiveTemplate
