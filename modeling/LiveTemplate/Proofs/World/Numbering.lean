import LiveTemplate.Proofs.World.Sound

/-!
How the subscriptions of a container are numbered.  Only a few operations touch the list of a container: the
container is made, a value is stored, somebody subscribes, and a subscription is ended by its number.  Bindings
subscribe and are released through these as well, and user code runs between two operations and never within one.
So however deep a run is nested, to a container it is a sequence of operations.

No order of the operations is assumed, and any number may be given to end a subscription, be it one that another
container gave out.  Still a number is given out once: the next one is above all that are in the list, and it only
goes up.  An entry that has gone therefore does not come back under its number, and no other entry gets it.
-/

namespace LiveTemplate

/-! ### What an operation does to a list -/

/-- A container as it is later, when `count` more subscriptions were made. -/
structure Container.Continues (s : Container) (count : Nat) (s' : Container) : Prop where
  ordered : s.Ordered → s'.Ordered
  nextId : s'.nextId = s.nextId + count
  arrived : ∀ x ∈ s'.subscribers, x ∈ s.subscribers ∨ s.nextId ≤ x.id

namespace Container.Continues

variable {s s' s'' : Container} {count more : Nat}

/-- The list and the counter say it all. -/
theorem of_list_eq (subscribers : s'.subscribers = s.subscribers) (nextId : s'.nextId = s.nextId) :
    s.Continues 0 s' where
  ordered ordered :=
    ⟨by rw [subscribers]; exact ordered.ascending, by rw [subscribers, nextId]; exact ordered.below⟩
  nextId := nextId
  arrived x mem := .inl (subscribers ▸ mem)

/-- Keeping some of the subscriptions uses up no number. -/
theorem keep (s : Container) (p : Subscriber → Bool) : s.Continues 0 (s.keep p) where
  ordered ordered := ordered.keep p
  nextId := rfl
  arrived _ mem := .inl (List.mem_filter.mp mem).1

/-- A subscription gets the next number. -/
theorem push (s : Container) (key : String) (handler : Handler) :
    s.Continues 1
      { s with subscribers := s.subscribers ++ [⟨s.nextId, key, handler⟩], nextId := s.nextId + 1 } where
  ordered ordered := ordered.push key handler
  nextId := rfl
  arrived x mem := by
    rcases List.mem_append.mp mem with old | new
    · exact .inl old
    · rw [List.mem_singleton.mp new]
      exact .inr (Nat.le_refl _)

/-- Numbers that are used up add up. -/
theorem trans (first : s.Continues count s') (second : s'.Continues more s'') :
    s.Continues (count + more) s'' where
  ordered ordered := second.ordered (first.ordered ordered)
  nextId := by rw [second.nextId, first.nextId, Nat.add_assoc]
  arrived x mem := by
    rcases second.arrived x mem with before | new
    · exact first.arrived x before
    · exact .inr (Nat.le_trans (first.nextId ▸ Nat.le_add_right _ _) new)

/-- Where none is used up afterwards, the number is that of before. -/
theorem still (first : s.Continues count s') (second : s'.Continues 0 s'') : s.Continues count s'' :=
  first.trans second

end Container.Continues

/-- Where a list is in order, the number of an entry takes away this entry and no other. -/
theorem Container.Ordered.filter_ne {s : Container} (ordered : s.Ordered) {earlier later : List Subscriber}
    {x : Subscriber} (split : s.subscribers = earlier ++ x :: later) :
    s.subscribers.filter (·.id ≠ x.id) = earlier ++ later := by
  have ascending := ordered.ascending
  rw [split, List.map_append, List.map_cons, List.pairwise_append, List.pairwise_cons] at ascending
  obtain ⟨-, ⟨below, -⟩, apart⟩ := ascending
  have before : ∀ y ∈ earlier, y.id ≠ x.id := fun y mem =>
    Nat.ne_of_lt (apart y.id (List.mem_map_of_mem mem) x.id List.mem_cons_self)
  have behind : ∀ y ∈ later, y.id ≠ x.id := fun y mem =>
    Nat.ne_of_gt (below y.id (List.mem_map_of_mem mem))
  rw [split, List.filter_append, List.filter_cons_of_neg (by simp), List.filter_eq_self.mpr (by simpa using before),
    List.filter_eq_self.mpr (by simpa using behind)]

namespace World

/-! ### Operations on a container -/

/-- Operations on a container, one after the other, from one world to another, and how many of them are
subscriptions.  Whatever else is done in the meantime leaves the container as it is. -/
inductive OperatesOn (w : World) (c : ContainerId) : Nat → World → Prop where
  | start : OperatesOn w c 0 w
  | make {count : Nat} {w' w'' : World} (before : OperatesOn w c count w') (absent : w'.containers.size ≤ c)
      {values : OrderedMap Value} (isNew : w''.container c = ⟨values, [], 0⟩) : OperatesOn w c count w''
  | store {count : Nat} {w' : World} (before : OperatesOn w c count w') (key : String) (value : Value) :
      OperatesOn w c count (w'.store c key value)
  | subscribe {count : Nat} {w' : World} (before : OperatesOn w c count w') (made : c < w'.containers.size)
      (key : String) (handler : Handler) : OperatesOn w c (count + 1) (w'.subscribe c key handler).2
  | unsubscribe {count : Nat} {w' : World} (before : OperatesOn w c count w') (id : Nat) :
      OperatesOn w c count (w'.unsubscribe c id)
  | elsewhere {count : Nat} {w' w'' : World} (before : OperatesOn w c count w')
      (same : w''.container c = w'.container c) : OperatesOn w c count w''

/-- One world comes about from another by operations on its containers. -/
def Operates (w w' : World) : Prop :=
  ∀ c, ∃ count, w.OperatesOn c count w'

variable {w w' w'' : World} {c : ContainerId} {count more : Nat}

/-- Operations on a container, one sequence after another. -/
theorem OperatesOn.trans (first : w.OperatesOn c count w') (second : w'.OperatesOn c more w'') :
    w.OperatesOn c (count + more) w'' := by
  induction second with
  | start => exact first
  | make _ absent isNew inductionHypothesis => exact inductionHypothesis.make absent isNew
  | store _ key value inductionHypothesis => exact inductionHypothesis.store key value
  | subscribe _ made key handler inductionHypothesis => exact inductionHypothesis.subscribe made key handler
  | unsubscribe _ id inductionHypothesis => exact inductionHypothesis.unsubscribe id
  | elsewhere _ same inductionHypothesis => exact inductionHypothesis.elsewhere same

/-- What a single operation keeps, any number of them keep. -/
theorem OperatesOn.continues (operates : w.OperatesOn c count w') :
    (w.container c).Continues count (w'.container c) := by
  induction operates with
  | start => exact .of_list_eq rfl rfl
  | make _ absent isNew inductionHypothesis =>
      apply inductionHypothesis.still
      apply Container.Continues.of_list_eq <;> rw [isNew, container_of_le _ absent] <;> rfl
  | store _ key value inductionHypothesis =>
      apply inductionHypothesis.still
      rw [container_store]
      split <;> exact .of_list_eq rfl rfl
  | subscribe _ made key handler inductionHypothesis =>
      apply inductionHypothesis.trans
      rw [container_subscribe, if_pos ⟨rfl, made⟩]
      exact .push _ key handler
  | unsubscribe _ id inductionHypothesis =>
      apply inductionHypothesis.still
      rw [container_unsubscribe]
      exact .keep _ _
  | elsewhere _ same inductionHypothesis =>
      rw [same]
      exact inductionHypothesis

namespace Operates

theorem refl (w : World) : Operates w w := fun _ => ⟨0, .start⟩

theorem trans (first : Operates w w') (second : Operates w' w'') : Operates w w'' := fun c => by
  obtain ⟨count, operatesFirst⟩ := first c
  obtain ⟨more, operatesSecond⟩ := second c
  exact ⟨count + more, operatesFirst.trans operatesSecond⟩

/-- Nothing is done to containers that stay as they are. -/
theorem of_containers_eq (same : w'.containers = w.containers) : Operates w w' :=
  fun c => ⟨0, .elsewhere .start (by rw [container, same]; rfl)⟩

/-- Storing a value subscribes and unsubscribes nobody. -/
theorem store (w : World) (d : ContainerId) (key : String) (value : Value) :
    Operates w (w.store d key value) := by
  intro c
  by_cases here : c = d
  · exact ⟨0, here ▸ .store .start key value⟩
  · exact ⟨0, .elsewhere .start (by rw [container_store, if_neg fun both => here both.1])⟩

/-- A subscription is an operation on its container. -/
theorem subscribe (w : World) (d : ContainerId) (key : String) (handler : Handler) :
    Operates w (w.subscribe d key handler).2 := by
  intro c
  by_cases here : c = d ∧ d < w.containers.size
  · obtain ⟨rfl, made⟩ := here
    exact ⟨1, .subscribe .start made key handler⟩
  · exact ⟨0, .elsewhere .start (by rw [container_subscribe, if_neg here])⟩

/-- Ending a subscription is an operation on its container. -/
theorem unsubscribe (w : World) (d : ContainerId) (id : Nat) : Operates w (w.unsubscribe d id) := by
  intro c
  by_cases here : c = d
  · exact ⟨0, here ▸ .unsubscribe .start id⟩
  · refine ⟨0, .elsewhere .start ?_⟩
    rw [container_unsubscribe]
    exact Container.keep_of_forall _ _ fun s _ => by simp [here]

/-- A binding subscribes to its sources one by one. -/
theorem subscribeAll (b : BindingId) (sources : Sources) (w : World) : Operates w (w.subscribeAll b sources).2 := by
  induction sources generalizing w with
  | nil => exact .refl w
  | cons source rest inductionHypothesis =>
      exact (Operates.subscribe w source.2 source.1 (.binding b)).trans (inductionHypothesis _)

/-- A binding subscribes to its sources one after the other. -/
theorem addBinding (w : World) (template : Template) (registry : RegistryId) (viewLabel : String)
    (sources : Sources) (listener : ListenerId) :
    Operates w (w.addBinding template registry viewLabel sources listener).2 :=
  (subscribeAll w.bindings.size sources w).trans (of_containers_eq rfl)

/-- Ending the subscriptions of some numbers. -/
theorem foldl_unsubscribe (subscriptions : List (ContainerId × Nat)) (w : World) :
    Operates w (subscriptions.foldl (fun w s => w.unsubscribe s.1 s.2) w) := by
  induction subscriptions generalizing w with
  | nil => exact .refl w
  | cons subscription rest inductionHypothesis =>
      exact (Operates.unsubscribe w subscription.1 subscription.2).trans (inductionHypothesis _)

/-- The bindings that are released unsubscribe, each from its own containers. -/
theorem of_releases {bs : List BindingId} (releases : Releases w bs w') : Operates w w' := by
  let subscriptions := bs.flatMap fun b => (w.binding b).subscriptions
  refine (foldl_unsubscribe subscriptions w).trans fun c => ⟨0, .elsewhere .start ?_⟩
  rw [releases.container, container_foldl_unsubscribe]
  congr 1
  funext s
  simp [subscriptions]

/-- What is added has no subscribers. -/
theorem of_adds (adds : Adds w w') : Operates w w' := by
  intro c
  by_cases made : c < w.containers.size
  · have same : w'.container c = w.container c :=
      calc w'.container c
        _ = ⟨(w'.container c).values, (w'.container c).subscribers, (w'.container c).nextId⟩ := rfl
        _ = ⟨(w.container c).values, (w.container c).subscribers, (w.container c).nextId⟩ := by
            rw [adds.values c made, adds.subscribers, adds.nextId]
        _ = w.container c := rfl
    exact ⟨0, .elsewhere .start same⟩
  · have absent := Nat.le_of_not_lt made
    have isNew : w'.container c = ⟨(w'.container c).values, [], 0⟩ :=
      calc w'.container c
        _ = ⟨(w'.container c).values, (w'.container c).subscribers, (w'.container c).nextId⟩ := rfl
        _ = ⟨(w'.container c).values, [], 0⟩ := by
            rw [adds.subscribers, adds.nextId, container_of_le w absent]
            rfl
    exact ⟨0, .make .start absent isNew⟩

end Operates

/-- A change comes about by operations on containers. -/
theorem Change.operates (change : Change w w') : Operates w w' := by
  rcases change.kinds with letsGo | adds | ⟨template, registry, viewLabel, sources, listener, _, letsGo⟩
  · obtain ⟨_, releases⟩ := letsGo.releases
    exact .of_releases releases
  · exact .of_adds adds
  · obtain ⟨_, releases⟩ := letsGo.releases
    exact (Operates.addBinding w template registry viewLabel sources listener).trans (.of_releases releases)

/-- A deed operates on containers as its step says. -/
theorem Deed.operates {step : Step} {answer : Answer} (deed : Deed w step answer w') : Operates w w' := by
  cases deed with
  | @subscribe _ key subscription reactions _ _ done =>
      obtain ⟨d, _, rfl⟩ := listen_eq done
      have listening : Operates w (w.addListener subscription reactions).2 := .of_containers_eq rfl
      exact (listening.trans (.subscribe _ d key (.listener w.listeners.size))).trans (.of_containers_eq rfl)
  | unsubscribe done =>
      obtain ⟨d, id, _, rfl⟩ := unlisten_eq done
      exact .unsubscribe w d id
  | registerFilter done => exact .of_containers_eq (Equips.registerOn done).same.2.1
  | usePlugin done => exact .of_containers_eq (Equips.usePlugin done).1.same.2.1

/-! ### The law of the numbers -/

/-- How the subscriptions of a container are numbered when `count` of them were made so far. -/
structure NumbersOnce (w : World) (c : ContainerId) (count : Nat) : Prop where
  /-- The numbers ascend along the list. -/
  ascending : ((w.container c).subscribers.map (·.id)).Pairwise (· < ·)
  /-- They all are below the next number. -/
  below : ∀ s ∈ (w.container c).subscribers, s.id < (w.container c).nextId
  /-- The next number says how many subscriptions were made. -/
  counted : (w.container c).nextId = count
  /-- As long as these are fewer than there are words of 64 bits, nothing is lost of a number that is kept in
  one. -/
  words : count < UInt64.size → (w.container c).nextId.toUInt64.toNat = (w.container c).nextId ∧
    ∀ s ∈ (w.container c).subscribers, s.id.toUInt64.toNat = s.id
  /-- To end a subscription answers whether the list has an entry of the number. -/
  answers : ∀ id, w.isSubscribed c id ↔ ∃ s ∈ (w.container c).subscribers, s.id = id
  /-- It takes away this one entry, and keeps all others in order. -/
  removes : ∀ earlier s later, (w.container c).subscribers = earlier ++ s :: later →
    (w.unsubscribe c s.id).container c = { w.container c with subscribers := earlier ++ later }
  /-- A number that no entry has takes away nothing. -/
  ignores : ∀ id, w.isSubscribed c id = false → (w.unsubscribe c id).container c = w.container c
  /-- No other container is changed. -/
  apart : ∀ id d, d ≠ c → (w.unsubscribe c id).container d = w.container d
  /-- Whatever is done afterwards, a subscription that was ended is not there again. -/
  gone : ∀ id, w.isSubscribed c id → ∀ more w', (w.unsubscribe c id).OperatesOn c more w' →
    w'.isSubscribed c id = false
  /-- Whatever is done afterwards, a new subscription gets none of the numbers that were given out before. -/
  fresh : ∀ more w', w.OperatesOn c more w' → ∀ key handler,
    (w.container c).nextId ≤ (w'.subscribe c key handler).1

/-- A number is subscribed if it stands in the list. -/
theorem isSubscribed_iff (id : Nat) :
    w.isSubscribed c id ↔ ∃ s ∈ (w.container c).subscribers, s.id = id := by
  simp [isSubscribed]

/-- A number that was unsubscribed is gone. -/
theorem isSubscribed_unsubscribe (w : World) (c : ContainerId) (id : Nat) :
    (w.unsubscribe c id).isSubscribed c id = false := by
  simp [isSubscribed, container_unsubscribe]

/-- A number that was given out and that no entry has is not found again. -/
theorem OperatesOn.isSubscribed_eq_false (operates : w.OperatesOn c count w') {id : Nat}
    (given : id < (w.container c).nextId) (absent : w.isSubscribed c id = false) : w'.isSubscribed c id = false := by
  rw [Bool.eq_false_iff] at absent ⊢
  intro present
  obtain ⟨s, mem, rfl⟩ := (isSubscribed_iff id).mp present
  rcases operates.continues.arrived s mem with before | new
  · exact absent ((isSubscribed_iff s.id).mpr ⟨s, before, rfl⟩)
  · exact Nat.not_lt.mpr new given

/-- Whatever was done to a container since the beginning, its subscriptions are numbered once. -/
theorem OperatesOn.numbersOnce (operates : World.empty.OperatesOn c count w) : w.NumbersOnce c count := by
  have continues := operates.continues
  have ordered : (w.container c).Ordered := continues.ordered (Subscribed.empty.ordered c)
  have counted : (w.container c).nextId = count := continues.nextId.trans (Nat.zero_add count)
  have given : ∀ id, w.isSubscribed c id → id < (w.container c).nextId := by
    intro id present
    obtain ⟨s, mem, rfl⟩ := (isSubscribed_iff id).mp present
    exact ordered.below s mem
  refine ⟨ordered.ascending, ordered.below, counted, ?_, isSubscribed_iff, ?_, ?_, ?_, ?_, ?_⟩
  · intro few
    have nextFits : (w.container c).nextId < UInt64.size := counted ▸ few
    refine ⟨UInt64.toNat_ofNat_of_lt nextFits, fun s mem => UInt64.toNat_ofNat_of_lt ?_⟩
    exact Nat.lt_trans (ordered.below s mem) nextFits
  · intro earlier s later split
    rw [container_unsubscribe, ← ordered.filter_ne split]
    simp [Container.keep]
  · intro id absent
    rw [container_unsubscribe]
    refine Container.keep_of_forall _ _ fun s mem => ?_
    have other : s.id ≠ id := fun same => by
      rw [(isSubscribed_iff id).mpr ⟨s, mem, same⟩] at absent
      cases absent
    simpa using other
  · intro id d other
    rw [container_unsubscribe]
    exact Container.keep_of_forall _ _ fun s _ => by simp [other]
  · intro id present more w' later
    apply later.isSubscribed_eq_false _ (isSubscribed_unsubscribe w c id)
    rw [container_unsubscribe]
    exact given id present
  · intro more w' later key handler
    show (w.container c).nextId ≤ (w'.container c).nextId
    rw [later.continues.nextId]
    exact Nat.le_add_right _ _

end World

end LiveTemplate
