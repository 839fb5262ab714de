import LiveTemplate.Proofs.Run.Along
import LiveTemplate.Proofs.Run.Performing
import LiveTemplate.Proofs.World.Numbering

/-!
Subscription numbers in the course of a run.  A move of a run is nothing to a container but some operations on it, so
what a run has come to is the outcome of operations, and its subscriptions are numbered as the law of the numbers says.

The same holds where user code is not a script: whatever it performs, as long as it only operates on containers, the
setting of a key, the evaluation of a template and the making of a binding do no more than that either.  This is where
a subscription may be ended in the middle of a dispatch by a number of which the program keeps no record.
-/

namespace LiveTemplate

/-- The containers of a later run come about by operations on them. -/
def Run.Operates (r r' : Run) : Prop :=
  World.Operates r.world r'.world

namespace World

variable {w w' : World}

/-- What ending the subscription of a handle comes to, with its answer. -/
theorem unlisten_flag {subscription : String} {answer : Answer}
    (done : w.unlisten subscription = .ok (answer, w')) :
    ∃ c id, w.handles.subscriptions.find? subscription = some (c, id) ∧
      answer = .flag (w.isSubscribed c id) ∧ w' = w.unsubscribe c id := by
  simp only [unlisten] at done
  split at done
  · cases done
  · next c id found =>
    cases done
    exact ⟨c, id, found, rfl, rfl⟩

end World

/-! ### User code of any kind -/

namespace Run

/-- Between the acts of user code, a dispatch operates on containers only by counting calls. -/
theorem Operates.telling : Run.Telling Run.Operates where
  refl r := .refl r.world
  trans first second := World.Operates.trans first second
  filtered _ _ _ := .of_containers_eq rfl
  called _ _ _ _ _ := .of_containers_eq rfl
  notified _ _ _ _ _ _ := .of_containers_eq rfl
  refreshed r _ _ := .refl r.world

theorem Operates.filtering : Run.Filtering Run.Operates := Operates.telling.toFiltering

end Run

open Run.Operates (telling filtering)

/-- A change of the world that operates on containers, or leaves them. -/
theorem change_operates {f : World → World} (operates : ∀ w, World.Operates w (f w)) :
    (Act.change f).Along Run.Operates := fun r => operates r.world

/-- A change goes by operations on containers wherever it starts. -/
theorem changeWith_operates {α : Type} {f : World → α × World} (operates : ∀ w, World.Operates w (f w).2) :
    (Act.changeWith f).Along Run.Operates := fun r => operates r.world

theorem pinContainers_operates (cs : List ContainerId) : (Act.change (·.pinContainers cs)).Along Run.Operates :=
  change_operates fun _ => .of_containers_eq rfl

theorem unpinContainers_operates (count : Nat) : (Act.change (·.unpinContainers count)).Along Run.Operates :=
  change_operates fun _ => .of_containers_eq rfl

section UserCode

variable {perform : Perform} (along : perform.Along Run.Operates)

include along

/-- Storing a value operates on its container, and so does what the subscribers do. -/
theorem setValue_operates (c : ContainerId) (key : String) (value : Value) :
    (setValue perform c key value).Along Run.Operates := fun r =>
  have stored : Run.Operates r (r.stored c key value) := World.Operates.store r.world c key value
  telling.trans stored (setValue_along telling along c key value r)

/-- Rendering a template operates on containers only through filters. -/
theorem renderWith_operates (q : RegistryId) (v : ViewId) (template : String) :
    (renderWith perform q v template).Along Run.Operates := by
  apply Act.Along.world
  intro w
  split
  · exact .pure filtering _
  · exact (pinContainers_operates _).bind filtering fun _ => (evaluate_along filtering along _ _).bind filtering
      fun _ => (unpinContainers_operates _).bind filtering fun _ => .pure filtering _

/-- Binding a template subscribes to the containers of its sources. -/
theorem bindWith_operates (q : RegistryId) (v : ViewId) (template label : String)
    (reactions : List (Reaction Step)) :
    (bindWith perform q v template label reactions).Along Run.Operates := by
  apply Act.Along.world
  intro w
  split
  · exact .pure filtering _
  · apply (pinContainers_operates _).bind filtering
    intro _
    apply (evaluate_along filtering along _ _).bind filtering
    intro result
    cases result with
    | error e => exact (unpinContainers_operates _).bind filtering fun _ => .pure filtering _
    | ok value =>
        apply (changeWith_operates fun w => .of_containers_eq rfl).bind filtering
        intro l
        apply (callCallback_along telling along l value).bind filtering
        intro _
        apply (changeWith_operates fun w => World.Operates.addBinding w _ q _ _ l).bind filtering
        intro b
        exact (unpinContainers_operates _).bind filtering fun _ => .pure filtering _

/-- Rendering a template on a view goes by operations on containers. -/
theorem interpolate_operates (v : ViewId) (template : String) :
    (interpolate perform v template).Along Run.Operates := by
  apply Act.Along.world
  intro w
  split
  · exact .pure filtering _
  · exact (renderWith_operates along _ v template).bind filtering fun _ => .pure filtering _

/-- Binding a template on a view goes by operations on containers. -/
theorem interpolateWith_operates (v : ViewId) (template label : String) (reactions : List (Reaction Step)) :
    (interpolateWith perform v template label reactions).Along Run.Operates := by
  apply Act.Along.world
  intro w
  split
  · exact .pure filtering _
  · apply (bindWith_operates along _ v template label reactions).bind filtering
    intro result
    cases result with
    | error e => exact .pure filtering _
    | ok made =>
        exact (change_operates fun w => .of_releases (World.recordBinding_releases w v made.2)).bind filtering
          fun _ => .pure filtering _

/-- Binding a template for the program goes by operations on containers. -/
theorem bindRaw_operates (v : ViewId) (template label binding : String) (reactions : List (Reaction Step)) :
    (bindRaw perform v template label binding reactions).Along Run.Operates := by
  apply Act.Along.world
  intro w
  split
  · exact .pure filtering _
  · apply (bindWith_operates along _ v template label reactions).bind filtering
    intro result
    cases result with
    | error e => exact .pure filtering _
    | ok made =>
        exact (change_operates fun w => .of_releases (World.holdBinding_releases w binding made.2)).bind filtering
          fun _ => .pure filtering _

end UserCode

/-- The steps in which user code runs operate on containers, and do no more to them. -/
structure Perform.CallersOperate (perform : Perform) : Prop where
  sets : ∀ c key value, (setValue perform c key value).Along Run.Operates
  renders : ∀ v template, (interpolate perform v template).Along Run.Operates
  binds : ∀ v template label reactions, (interpolateWith perform v template label reactions).Along Run.Operates
  bindsRaw : ∀ v template label binding reactions,
    (bindRaw perform v template label binding reactions).Along Run.Operates

/-! ### Scripts -/

namespace Run

variable {r r' : Run}

/-- A move goes by operations on containers. -/
theorem Next.operates (next : Next r r') : Operates r r' := by
  cases next with
  | move move =>
      cases move with
      | change change => exact change.operates
      | entry => exact .refl r.world
      | deed deed => exact deed.operates
  | store c key value => exact World.Operates.store r.world c key value

/-- A run goes by operations on containers. -/
theorem Reaches.operates (reaches : Reaches r r') : Operates r r' := by
  induction reaches with
  | refl => exact .refl r.world
  | tail _ next inductionHypothesis => exact World.Operates.trans inductionHypothesis next.operates

/-- What holds of the subscription numbers of a run. -/
structure NumbersOnce (r : Run) : Prop where
  /-- Wherever user code runs and after every step, a container is what operations have made of it, and its
  subscriptions are numbered accordingly. -/
  moment : ∀ (i : Nat) (m : Moment), r.journal[i]? = some m → ∀ c, ∃ count,
    World.empty.OperatesOn c count m.world ∧ m.world.NumbersOnce c count
  /-- A step that ends a subscription ends that of the number that its handle has, after all that was noted before,
  and answers whether it was there. -/
  ended : ∀ (j : Nat) (m : Moment) subscription answer, r.journal[j]? = some m →
    m.occurrence = .nested (.unsubscribe subscription) (.ok answer) →
      ∃ c id w, m.world.handles.subscriptions.find? subscription = some (c, id) ∧ World.empty.Operates w ∧
        answer = .flag (w.isSubscribed c id) ∧ m.world = w.unsubscribe c id ∧
          ∀ (i : Nat) (m' : Moment), i < j → r.journal[i]? = some m' → m'.world.Operates w
  /-- When a step has answered that a subscription was there, no later one answers so for the same number. -/
  once : ∀ (i j : Nat) (m m' : Moment) subscription subscription' answer c id, i < j →
    r.journal[i]? = some m → m.occurrence = .nested (.unsubscribe subscription) (.ok (.flag true)) →
    m.world.handles.subscriptions.find? subscription = some (c, id) →
    r.journal[j]? = some m' → m'.occurrence = .nested (.unsubscribe subscription') (.ok answer) →
    m'.world.handles.subscriptions.find? subscription' = some (c, id) → answer = .flag false

/-- The run right before a subscription was ended. -/
theorem Reaches.at_unsubscribe (reaches : Reaches .start r) {j : Nat} {m : Moment} {subscription : String}
    {answer : Answer} (found : r.journal[j]? = some m)
    (ended : m.occurrence = .nested (.unsubscribe subscription) (.ok answer)) :
    ∃ before c id, Reaches .start before ∧ Reaches before r ∧ before.journal.size = j ∧
      m.world.handles.subscriptions.find? subscription = some (c, id) ∧
        answer = .flag (before.world.isSubscribed c id) ∧ m.world = before.world.unsubscribe c id := by
  obtain ⟨before, after, toBefore, next, fromAfter, size, pushed, world⟩ := reaches.at_moment (Nat.zero_le j) found
  have toEnd := Relation.ReflTransGen.head next fromAfter
  rcases (next.of_push pushed).2 with ⟨allowed, _⟩ | ⟨_, _, isDeed, deed⟩ | ⟨_, _, _, isStored, _⟩
  · rw [ended] at allowed
    exact absurd rfl (allowed.world rfl answer)
  · cases ended.symm.trans isDeed
    cases deed with
    | unsubscribe done =>
        obtain ⟨c, id, given, isAnswer, isNext⟩ := World.unlisten_flag done
        rw [world] at isNext
        refine ⟨before, c, id, toBefore, toEnd, size, ?_, isAnswer, isNext⟩
        rw [isNext]
        exact given
  · cases ended.symm.trans isStored

/-- What was noted before comes before. -/
theorem Reaches.operates_of_noted {before : Run} (toBefore : Reaches .start before) (toEnd : Reaches before r)
    {i : Nat} {m : Moment} (earlier : i < before.journal.size) (found : r.journal[i]? = some m) :
    m.world.Operates before.world := by
  rw [toEnd.getElem?_journal earlier] at found
  obtain ⟨middle, _, fromMiddle, world, _⟩ := toBefore.upTo_moment (Nat.zero_le i) found
  rw [← world]
  exact fromMiddle.operates

/-- So in the course of a run every number is used once. -/
theorem Reaches.numbersOnce (reaches : Reaches .start r) : r.NumbersOnce := by
  constructor
  · intro i m found c
    obtain ⟨middle, toMiddle, _, world, _⟩ := reaches.upTo_moment (Nat.zero_le i) found
    obtain ⟨count, operates⟩ := toMiddle.operates c
    rw [← world]
    exact ⟨count, operates, operates.numbersOnce⟩
  · intro j m subscription answer found isEnded
    obtain ⟨before, c, id, toBefore, toEnd, rfl, given, isAnswer, world⟩ := reaches.at_unsubscribe found isEnded
    exact ⟨c, id, before.world, given, toBefore.operates, isAnswer, world,
      fun i m' earlier found' => toBefore.operates_of_noted toEnd earlier found'⟩
  · intro i j m m' subscription subscription' answer c id earlier found isEnded given found' isEnded' given'
    obtain ⟨before, d, n, toBefore, _, _, isGiven, wasThere, world⟩ := reaches.at_unsubscribe found isEnded
    cases given.symm.trans isGiven
    obtain ⟨before', d, n, toBefore', toEnd', rfl, isGiven', isAnswer, _⟩ := reaches.at_unsubscribe found' isEnded'
    cases given'.symm.trans isGiven'
    -- the number is gone from the first of the two steps on, and the second one comes after it
    have present : before.world.isSubscribed c id := (Answer.flag.inj wasThere).symm
    obtain ⟨count, sofar⟩ := toBefore.operates c
    obtain ⟨more, later⟩ := toBefore'.operates_of_noted toEnd' earlier found c
    rw [world] at later
    rw [isAnswer, sofar.numbersOnce.gone id present more _ later]

end Run

/-! ### Used once -/

/-- A subscription number is used once.  Whatever was done to a container since the beginning, in any order and with
any numbers: its list is numbered in ascending order below the next number, ending a subscription takes away the
entry of the number and answers whether there was one, and it never answers so again for this number.  Steps in
which user code runs do no more to a container than such operations, if the user code does no more; and so do
scripts, nested at any depth, whose steps answer accordingly. -/
theorem subscriptionNumbers_usedOnce :
    (∀ c count w, World.empty.OperatesOn c count w → w.NumbersOnce c count) ∧
      (∀ perform : Perform, perform.Along Run.Operates → perform.CallersOperate) ∧
      ∀ room script, (session room script).NumbersOnce :=
  ⟨fun _ _ _ operates => operates.numbersOnce,
    fun _ along => ⟨setValue_operates along, interpolate_operates along, interpolateWith_operates along,
      bindRaw_operates along⟩,
    fun room script => (session_reaches room script).numbersOnce⟩

/-- A handler that ends its own subscription, subscribes another handler and ends its own subscription again, while
a binding is subscribed to the same key. -/
def resubscribing : List Step := [
  .newType "T" "T" (some .plainInterpolation),
  .create "T" "v" none [("x", .null)] [] none,
  .subscribe (.ofView "v") "x" "own" [⟨none, [
    .unsubscribe "own",
    .subscribe (.ofView "v") "x" "other" [],
    .unsubscribe "own"]⟩],
  .bind "v" "\x7b\x7bx\x7d\x7d" "cb" [],
  .set (.ofView "v") "x" (.bool true),
  .unsubscribe "own",
  .unsubscribe "other"]

/-- The subscriptions that were ended in a run, with the answers. -/
def Run.endings (r : Run) : List (String × Bool) :=
  r.journal.toList.filterMap fun m =>
    match m.occurrence with
    | .nested (.unsubscribe subscription) (.ok (.flag wasThere)) => some (subscription, wasThere)
    | _ => none

/-- User code that is not a script: it ends the subscription of a number, whoever made it. -/
def endsAnyone (c : ContainerId) (id : Nat) : Perform := fun _ => Act.change (·.unsubscribe c id)

theorem subscriptionNumbers_usedOnce_resubscribing :
    let r := session nestingLimit resubscribing
    r.NumbersOnce ∧ r.world.NumbersOnce 0 3 ∧ (r.world.container 0).subscribers.map (·.id) = [1] ∧
      r.endings = [("own", true), ("own", false), ("own", false), ("other", true)] ∧
      (endsAnyone 0 1).CallersOperate := by
  intro r
  obtain ⟨count, operates⟩ := (session_reaches nestingLimit resubscribing).operates 0
  have numbers := subscriptionNumbers_usedOnce.1 0 count r.world operates
  have three : count = 3 := numbers.counted.symm.trans (by decide +kernel)
  have along : (endsAnyone 0 1).Along Run.Operates := fun _ => change_operates fun w => .unsubscribe w 0 1
  exact ⟨subscriptionNumbers_usedOnce.2.2 nestingLimit resubscribing, three ▸ numbers, by decide +kernel,
    by decide +kernel, subscriptionNumbers_usedOnce.2.1 _ along⟩

end LiveTemplate
