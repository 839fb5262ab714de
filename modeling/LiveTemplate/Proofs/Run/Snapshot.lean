import LiveTemplate.Proofs.Run.Performing

/-!
Whom a dispatch tells.  When a value is stored, the subscribers of its key are told as the list stands then, each
once and in order, whatever they do in the meantime.  The journal says so: behind the entry of a stored value come
the entries of its subscribers, and between one of these and the next one stands what the program does when it is
told.  That may be other dispatches, but each of them is complete before the next subscriber has its turn.
-/

namespace LiveTemplate

/-! ### The journal of a dispatch -/

/-- What a subscriber is told: a handler of the program is called with the key and the value, and a binding begins
to evaluate its template again. -/
inductive Handler.ToldBy (key : String) (value : Value) : Handler → Occurrence → Prop
  | listener (l : ListenerId) (label : String) (call : Nat) :
      ToldBy key value (.listener l) (.notified l label call key value)
  | binding (b : BindingId) : ToldBy key value (.binding b) (.refreshed b)

/-- The entry of a value that is stored: the world has it already, and these are about to be told. -/
def World.storing (w : World) (c : ContainerId) (key : String) (value : Value) : Moment :=
  ⟨.stored c key value ((w.store c key value).subscribersTo c key), w.store c key value⟩

mutual

/-- Entries of user code.  Those of a dispatch are complete: every value that is stored is followed by what its
subscribers are told, and nobody is told anything but in a dispatch. -/
inductive Nests : List Moment → Prop
  | nil : Nests []
  | other {m : Moment} {rest : List Moment} (apart : m.occurrence.isDispatch = false) (onward : Nests rest) :
      Nests (m :: rest)
  | dispatch {w : World} {c : ContainerId} {key : String} {value : Value} {told rest : List Moment}
      (tells : Tells key value (w.storing c key value) ((w.store c key value).subscribersTo c key) told)
      (onward : Nests rest) : Nests (w.storing c key value :: (told ++ rest))

/-- What subscribers are told, one after the other, behind a last entry.  Each has an entry of its own, followed by
those of what user code does then.  Only a binding that is released when its turn comes is passed over; a handler
of the program is called even if its subscription has ended meanwhile. -/
inductive Tells : String → Value → Moment → List Subscriber → List Moment → Prop
  | nil {key : String} {value : Value} {last : Moment} : Tells key value last [] []
  | told {key : String} {value : Value} {last m : Moment} {s : Subscriber} {rest : List Subscriber}
      {inner later : List Moment} (isTold : s.handler.ToldBy key value m.occurrence) (nests : Nests inner)
      (onward : Tells key value (inner.getLastD m) rest later) :
      Tells key value last (s :: rest) (m :: (inner ++ later))
  | released {key : String} {value : Value} {last : Moment} {s : Subscriber} {rest : List Subscriber}
      {later : List Moment} {b : BindingId} (isBinding : s.handler = .binding b)
      (released : last.world.IsReleased b) (onward : Tells key value last rest later) :
      Tells key value last (s :: rest) later

end

/-- The last element of a list is that of its second part, if there is one. -/
theorem getLastD_append {α : Type} (front back : List α) (a : α) :
    (front ++ back).getLastD a = back.getLastD (front.getLastD a) := by
  simp only [List.getLastD_eq_getLast?, List.getLast?_append, Option.getD_or]

/-- Entries of user code, one stretch after another. -/
theorem Nests.append : ∀ {front back : List Moment}, Nests front → Nests back → Nests (front ++ back)
  | _, _, .nil, nests => nests
  | _, _, .other apart onward, nests => .other apart (onward.append nests)
  | _, _, .dispatch tells onward, nests => by
      rw [List.cons_append, List.append_assoc]
      exact .dispatch tells (onward.append nests)

namespace Run

/-! ### What user code leaves behind -/

/-- A run goes on with complete dispatches. -/
structure Nested (r r' : Run) : Prop where
  reaches : Reaches r r'
  nests : Nests (r'.since r)

/-- Nothing has changed in a run since its last entry. -/
structure Settles (r r' : Run) : Prop where
  reaches : Reaches r r'
  settled : ∀ m : Moment, m.world = r.world → ((r'.since r).getLastD m).world = r'.world

variable {r r' r'' : Run} {perform : Perform}

namespace Nested

theorem refl (r : Run) : Nested r r :=
  ⟨.refl, since_of_eq rfl ▸ .nil⟩

theorem trans (first : Nested r r') (second : Nested r' r'') : Nested r r'' := by
  refine ⟨first.reaches.trans second.reaches, ?_⟩
  rw [Reaches.since_trans first.reaches second.reaches]
  exact first.nests.append second.nests

/-- An entry apart from dispatches. -/
theorem of_push (next : Next r r') {o : Occurrence} (pushed : r'.journal = r.journal.push ⟨o, r'.world⟩)
    (apart : o.isDispatch = false) : Nested r r' :=
  ⟨.single next, since_of_push pushed ▸ .other apart .nil⟩

theorem steady : Run.Steady Nested :=
  .of_moves refl trans reaches (fun _ change => ⟨.single (.move (.change change)), since_of_eq rfl ▸ .nil⟩)
    (fun _ deed => of_push (.move (.deed deed)) rfl rfl)
    fun _ allowed _ apart => of_push (.move (.entry allowed)) rfl apart

theorem introducing : Run.Introducing Nested where
  toSteady := steady
  introduces := by
    intro perform r began scope t value follows sound soundBegan result label reactions
    refine (introduced_goes steady follows sound label reactions fun name call => ?_).1
    have allowed := introduced_allowed follows sound soundBegan result label reactions name call
    exact of_push (.move (.entry allowed)) rfl rfl

end Nested

namespace Settles

theorem trans (first : Settles r r') (second : Settles r' r'') : Settles r r'' := by
  refine ⟨first.reaches.trans second.reaches, fun m before => ?_⟩
  rw [Reaches.since_trans first.reaches second.reaches, getLastD_append]
  exact second.settled _ (first.settled m before)

theorem chained : Run.Chained Settles where
  refl r := ⟨.refl, fun m before => by rw [since_of_eq rfl]; exact before⟩
  trans := trans
  reaches := reaches
  filtered sound f value := by
    refine ⟨reaches_closed.filtered sound f value, fun m _ => ?_⟩
    rw [since_of_push rfl]
    rfl

/-- Each step ends with an entry. -/
theorem follows (room : Nat) : Perform.Follows Settles (performAll (performAt room)) := by
  refine ⟨⟨room, rfl⟩, fun steps => .forM chained steps ?_⟩
  intro step _ r sound
  have goes := (performAll_follows reaches_closed reaches_dispatches room).steps [step] r sound
  refine ⟨⟨goes.related, fun m _ => ?_⟩, goes.returns⟩
  let done := (performAt room step r).2
  have fits : r.journal.size ≤ done.journal.toList.length := performAt_size_journal room step sound
  have entries : (done.note (.nested step (performAt room step r).1)).since r =
      done.journal.toList.drop r.journal.size ++ [⟨.nested step (performAt room step r).1, done.world⟩] := by
    rw [since, journal_note, Array.toList_push, List.drop_append_of_le_length fits]
  show (((done.note (.nested step (performAt room step r).1)).since r).getLastD m).world = done.world
  rw [entries, List.getLastD_concat]

end Settles

/-- A run goes on with an entry and with what user code does then, and nothing has changed since its last entry. -/
def Opens (r : Run) (m : Moment) (r' : Run) : Prop :=
  ∃ inner, r'.journal.toList = r.journal.toList ++ m :: inner ∧ Nests inner ∧ (inner.getLastD m).world = r'.world

namespace Opens

variable {m m' : Moment}

theorem of_note {w : World} {o : Occurrence} (nested : Nested ((r.turn w).note o) r')
    (settles : Settles ((r.turn w).note o) r') : Opens r ⟨o, w⟩ r' := by
  refine ⟨r'.since ((r.turn w).note o), ?_, nested.nests, settles.settled ⟨o, w⟩ rfl⟩
  rw [Reaches.journal_eq nested.reaches, journal_note, Array.toList_push, List.append_assoc]
  rfl

/-- An entry apart from dispatches, and what user code does then, may follow. -/
theorem append (first : Opens r m r') (second : Opens r' m' r'') (apart : m'.occurrence.isDispatch = false) :
    Opens r m r'' := by
  obtain ⟨inner, journal, nests, _⟩ := first
  obtain ⟨inner', journal', nests', settled⟩ := second
  refine ⟨inner ++ m' :: inner', ?_, nests.append (.other apart nests'), ?_⟩
  · rw [journal', journal, List.append_assoc, List.cons_append]
  · rw [getLastD_append, List.getLastD_cons]
    exact settled

end Opens

end Run

/-! ### Telling one subscriber after another -/

variable {r : Run} {perform : Perform}

/-- Nothing changes after the last step of user code. -/
theorem Perform.Follows.settles {R : Run → Run → Prop} (follows : perform.Follows R) :
    perform.Follows Run.Settles := by
  obtain ⟨room, rfl⟩ := follows.nests
  exact Run.Settles.follows room

theorem callListener_opens (follows : perform.Follows Run.Nested) (sound : r.world.Sound) (l : ListenerId)
    (occurrence : String → Nat → Occurrence) :
    ∃ label call, r.Opens ⟨occurrence label call, r.world.countListenerCall l⟩
      (callListener perform l occurrence r).2 := by
  have counted : (r.world.countListenerCall l).Sound := sound.change (.countListenerCall l)
  refine ⟨(r.world.listener l).label, (r.world.listener l).calls + 1, ?_⟩
  rw [callListener_run]
  apply Run.Opens.of_note
  · exact (react_follows Run.Nested.steady follows _ _ _ counted).related
  · exact (react_follows Run.Settles.chained follows.settles _ _ _ counted).related

theorem refresh_opens (follows : perform.Follows Run.Nested) (sound : r.world.Sound) {b : BindingId}
    (active : (r.world.binding b).isActive) :
    r.Opens ⟨.refreshed b, r.world⟩ (refresh perform b r).2 := by
  have evaluated := evaluate_follows Run.Nested.steady follows (r.world.binding b).scope
    (r.world.binding b).template (r.note (.refreshed b)) sound
  have settles := evaluate_follows Run.Settles.chained follows.settles (r.world.binding b).scope
    (r.world.binding b).template (r.note (.refreshed b)) sound
  have opens : r.Opens ⟨.refreshed b, r.world⟩ (reevaluate perform b r).2 :=
    .of_note evaluated.related settles.related
  rw [refresh_of_active perform active]
  cases (reevaluate perform b r).1 with
  | error e => exact opens
  | ok value =>
      obtain ⟨label, call, calls⟩ := callListener_opens follows (evaluated.sound Run.Nested.steady sound)
        (r.world.binding b).listener (.called (r.world.binding b).listener · · value)
      exact opens.append calls rfl

/-- A subscriber is told, or it is a binding that is not active and nothing happens. -/
theorem notify_opens (follows : perform.Follows Run.Nested) (sound : r.world.Sound) (key : String)
    (value : Value) (s : Subscriber) :
    (∃ m : Moment, s.handler.ToldBy key value m.occurrence ∧ r.Opens m (notify perform key value s r).2) ∨
      ∃ b, s.handler = .binding b ∧ (r.world.binding b).isActive = false ∧
        (notify perform key value s r).2 = r := by
  cases handler : s.handler with
  | listener l =>
      obtain ⟨label, call, opens⟩ := callListener_opens follows sound l (.notified l · · key value)
      simp only [notify, handler]
      exact .inl ⟨_, .listener l label call, opens⟩
  | binding b =>
      simp only [notify, handler]
      cases active : (r.world.binding b).isActive with
      | true => exact .inl ⟨_, .binding b, refresh_opens follows sound active⟩
      | false => exact .inr ⟨b, rfl, active, by rw [refresh_of_inactive perform active]⟩

/-- Subscribers are told one after the other. -/
theorem forM_tells (follows : perform.Follows Run.Nested) (sound : r.world.Sound) {key : String} {value : Value}
    {subscribers : List Subscriber}
    (made : ∀ s ∈ subscribers, ∀ b, s.handler = .binding b → b < r.world.bindings.size) {last : Moment}
    (current : last.world = r.world) :
    ∃ told, (subscribers.forM (notify perform key value) r).2.journal.toList = r.journal.toList ++ told ∧
      Tells key value last subscribers told := by
  induction subscribers generalizing r last with
  | nil => exact ⟨[], (List.append_nil _).symm, .nil⟩
  | cons s rest inductionHypothesis =>
      obtain ⟨madeFirst, madeRest⟩ := List.forall_mem_cons.mp made
      have goes := notify_follows Run.reaches_closed (follows.reaches Run.Nested.steady) key value s r sound
      have soundAfter := goes.sound Run.reaches_closed sound
      have madeAfter : ∀ t ∈ rest, ∀ b, t.handler = .binding b →
          b < (notify perform key value s r).2.world.bindings.size := fun t mem b isBinding =>
        Nat.lt_of_lt_of_le (madeRest t mem b isBinding) (goes.grows Run.reaches_closed).bindingCount
      show ∃ told, (rest.forM (notify perform key value) (notify perform key value s r).2).2.journal.toList =
        r.journal.toList ++ told ∧ Tells key value last (s :: rest) told
      rcases notify_opens follows sound key value s with
        ⟨m, isTold, inner, journal, nests, settled⟩ | ⟨b, isBinding, inactive, same⟩
      · obtain ⟨later, journalAfter, tells⟩ := inductionHypothesis soundAfter madeAfter settled
        refine ⟨m :: (inner ++ later), ?_, .told isTold nests tells⟩
        rw [journalAfter, journal, List.append_assoc, List.cons_append]
      · rw [same] at soundAfter madeAfter ⊢
        obtain ⟨later, journalAfter, tells⟩ := inductionHypothesis soundAfter madeAfter current
        have released : last.world.IsReleased b := by
          rw [current]
          exact ⟨madeFirst b isBinding, inactive⟩
        exact ⟨later, journalAfter, .released isBinding released tells⟩

/-- The entry of a stored value is the first one, and what the subscribers of the key are told follows. -/
theorem setValue_tells (follows : perform.Follows Run.Nested) (sound : r.world.Sound) (c : ContainerId)
    (key : String) (value : Value) :
    ∃ told, (setValue perform c key value r).2.since r = r.world.storing c key value :: told ∧
      Tells key value (r.world.storing c key value) ((r.world.store c key value).subscribersTo c key) told := by
  have soundStored : (r.stored c key value).world.Sound := sound.store c key value
  have made : ∀ s ∈ (r.world.store c key value).subscribersTo c key, ∀ b, s.handler = .binding b →
      b < (r.stored c key value).world.bindings.size := fun s mem b isBinding =>
    World.lt_size_of_isActive _ (soundStored.subscribed.isActive_of_mem (List.mem_filter.mp mem).1 isBinding)
  have current : (r.world.storing c key value).world = (r.stored c key value).world := rfl
  have pushed : (r.stored c key value).journal = r.journal.push (r.world.storing c key value) := rfl
  obtain ⟨told, journal, tells⟩ := forM_tells follows soundStored made current
  rw [pushed, Array.toList_push, List.append_assoc, List.singleton_append] at journal
  exact ⟨told, Run.since_of_append journal, tells⟩

namespace Run

theorem Nested.dispatches : Run.Dispatches Nested := by
  apply Dispatches.of_related Nested.steady
  intro perform follows r sound c key value
  obtain ⟨told, since, tells⟩ := setValue_tells follows sound c key value
  refine ⟨(reaches_dispatches (follows.reaches Nested.steady) c key value r sound).related, ?_⟩
  rw [since, ← List.append_nil told]
  exact .dispatch tells .nil

theorem Nested.follows (room : Nat) : Perform.Follows Nested (performAll (performAt room)) :=
  performAll_follows Nested.introducing Nested.dispatches room

end Run

/-- The journal of a session is made of complete dispatches. -/
theorem session_nests (room : Nat) (script : List Step) : Nests (session room script).journal.toList :=
  ((Run.Nested.follows room).steps script .start World.Sound.empty).related.nests

/-! ### The snapshot -/

/-- What setting a key of a container comes to. -/
structure Run.Announces (r : Run) (c : ContainerId) (key : String) (value : Value) (r' : Run) : Prop where
  /-- The value is stored before anything else happens. -/
  held : ((r.world.store c key value).container c).values.find? key = some value
  /-- Those are told who are subscribed to the key right then. -/
  subscribers : (r.world.store c key value).subscribersTo c key =
    (r.world.container c).subscribers.filter (·.key == key)
  /-- They are numbered in the order of their subscription, and none is there twice. -/
  ascending : ((r.world.container c).subscribers.map (·.id)).Pairwise (· < ·)
  /-- Each has its turn, one after the other, and is told the key and the value. -/
  told : ∃ told, r'.since r = r.world.storing c key value :: told ∧
    Tells key value (r.world.storing c key value) ((r.world.store c key value).subscribersTo c key) told
  /-- Whoever subscribes in the meantime is none of them. -/
  later : ∀ m ∈ r'.since r, ∀ s ∈ (m.world.container c).subscribers,
    s ∈ (r.world.container c).subscribers ∨ ∀ t ∈ (r.world.container c).subscribers, t.id < s.id

/-- Wherever a run has come to, setting a key tells the subscribers that the key has when the value is stored,
and nobody else. -/
theorem setValue_announces (reached : Run.Reaches .start r) {c : ContainerId}
    (made : c < r.world.containers.size) (room : Nat) (key : String) (value : Value) :
    r.Announces c key value (setValue (performAll (performAt room)) c key value r).2 := by
  have sound := reached.sound World.Sound.empty
  have follows := Run.Nested.follows room
  have reaches := (Run.Nested.dispatches follows c key value r sound).related.reaches
  have stored := World.container_store r.world c c key value
  rw [if_pos ⟨rfl, made⟩] at stored
  refine ⟨?_, ?_, (sound.subscribed.ordered c).ascending, setValue_tells follows sound c key value, ?_⟩
  · rw [stored, OrderedMap.find?_insert, if_pos rfl]
  · rw [World.subscribersTo, stored]
  · intro m mem s isSubscribed
    refine ((reaches.grows_to_moment mem).arrived c s isSubscribed).imp_right fun new t isOld => ?_
    exact Nat.lt_of_lt_of_le ((sound.subscribed.ordered c).below t isOld) new

/-- Three handlers of a key.  The first one, on its first call, ends the subscription of the second one, subscribes
another one and sets the key again. -/
def reentrant : List Step := [
  .newType "T" "T" (some .plainInterpolation),
  .create "T" "v" none [("x", .null)] [] none,
  .subscribe (.ofView "v") "x" "first" [⟨some 1, [
    .unsubscribe "second",
    .subscribe (.ofView "v") "x" "late" [],
    .set (.ofView "v") "x" (.bool false)]⟩],
  .subscribe (.ofView "v") "x" "second" [],
  .subscribe (.ofView "v") "x" "third" []]

/-- The handlers that are called in some entries, and the values that they are called with. -/
def calledHandlers (entries : List Moment) : List (String × String) :=
  entries.filterMap fun m =>
    match m.occurrence with
    | .notified _ label _ _ value => some (label, value.toText)
    | _ => none

theorem setValue_announces_reentrant :
    let r := session nestingLimit reentrant
    let r' := (setValue (performAll (performAt nestingLimit)) 0 "x" (.bool true) r).2
    0 < r.world.containers.size ∧ r.Announces 0 "x" (.bool true) r' ∧ calledHandlers (r'.since r) =
      [("first", "true"), ("first", "false"), ("third", "false"), ("late", "false"), ("second", "true"),
        ("third", "true")] :=
  have made : 0 < (session nestingLimit reentrant).world.containers.size := by decide +kernel
  ⟨made, setValue_announces (session_reaches nestingLimit reentrant) made nestingLimit "x" (.bool true),
    by decide +kernel⟩

end LiveTemplate
