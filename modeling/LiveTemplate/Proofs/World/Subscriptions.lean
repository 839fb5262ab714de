import LiveTemplate.Proofs.World.Parts
import Mathlib.Data.List.Nodup

/-!
Who is in the subscriber lists.  The numbers in a list ascend and stay below the next number, so a number
names one entry and a new entry has a new number.  A binding has one entry for each of its sources, in the
container where the source was found, until it is released; then it has none.

Each of these facts is needed to keep the others: the release of a binding removes the entries that have
the numbers of its subscriptions, which are its own entries only because numbers are never shared.
-/

namespace LiveTemplate

/-- The numbers in a subscriber list ascend, and the next number is above them. -/
structure Container.Ordered (s : Container) : Prop where
  ascending : (s.subscribers.map (·.id)).Pairwise (· < ·)
  below : ∀ x ∈ s.subscribers, x.id < s.nextId

namespace Container.Ordered

variable {s : Container}

theorem keep (ordered : s.Ordered) (p : Subscriber → Bool) : (s.keep p).Ordered where
  ascending := ordered.ascending.sublist (List.filter_sublist.map _)
  below x mem := ordered.below x (List.mem_filter.mp mem).1

/-- One more subscriber, with the next number. -/
theorem push (ordered : s.Ordered) (key : String) (handler : Handler) :
    Container.Ordered
      { s with
        subscribers := s.subscribers ++ [⟨s.nextId, key, handler⟩]
        nextId := s.nextId + 1 } where
  ascending := by
    simp only [List.map_append, List.map_cons, List.map_nil]
    refine List.pairwise_append.mpr ⟨ordered.ascending, List.pairwise_singleton _ _, ?_⟩
    intro id inList next isNext
    obtain ⟨x, mem, rfl⟩ := List.mem_map.mp inList
    rw [List.mem_singleton.mp isNext]
    exact ordered.below x mem
  below x mem := by
    rcases List.mem_append.mp mem with old | new
    · exact Nat.lt_succ_of_lt (ordered.below x old)
    · rw [List.mem_singleton.mp new]
      exact Nat.lt_succ_self _

/-- A number names one entry. -/
theorem eq_of_id_eq (ordered : s.Ordered) {x y : Subscriber} (xMem : x ∈ s.subscribers)
    (yMem : y ∈ s.subscribers) (same : x.id = y.id) : x = y := by
  have nodup : (s.subscribers.map (·.id)).Nodup :=
    ordered.ascending.imp fun lt => Nat.ne_of_lt lt
  exact List.inj_on_of_nodup_map nodup xMem yMem same

end Container.Ordered

/-- The entries in the list of a container that belong to a binding with these sources and
subscriptions. -/
def entriesOf (b : BindingId) (sources : Sources) (subscriptions : List (ContainerId × Nat))
    (c : ContainerId) : List Subscriber :=
  ((sources.zip subscriptions).filter fun p => p.1.2 = c).map fun p =>
    ⟨p.2.2, p.1.1, .binding b⟩

theorem handler_of_mem_entriesOf {b : BindingId} {sources : Sources}
    {subscriptions : List (ContainerId × Nat)} {c : ContainerId} {s : Subscriber}
    (mem : s ∈ entriesOf b sources subscriptions c) : s.handler = .binding b := by
  obtain ⟨_, _, rfl⟩ := List.mem_map.mp mem
  rfl

/-- A subscription of the binding is in the list that it says, when each subscription is in the container
of its source. -/
theorem exists_mem_entriesOf {b : BindingId} {sources : Sources}
    {subscriptions : List (ContainerId × Nat)} {c : ContainerId} {id : Nat}
    (matched : subscriptions.map Prod.fst = sources.map Prod.snd)
    (mem : (c, id) ∈ subscriptions) : ∃ s ∈ entriesOf b sources subscriptions c, s.id = id := by
  induction subscriptions generalizing sources with
  | nil => simp at mem
  | cons subscription others inductionHypothesis =>
      cases sources with
      | nil => simp at matched
      | cons source rest =>
          simp only [List.map_cons, List.cons.injEq] at matched
          rcases List.mem_cons.mp mem with rfl | inOthers
          · exact ⟨⟨id, source.1, .binding b⟩, by simp [entriesOf, ← matched.1], rfl⟩
          · obtain ⟨s, sMem, sId⟩ := inductionHypothesis matched.2 inOthers
            refine ⟨s, ?_, sId⟩
            simp only [entriesOf, List.zip_cons_cons, List.filter_cons] at sMem ⊢
            split
            · exact List.mem_cons_of_mem _ sMem
            · exact sMem

theorem mem_of_mem_entriesOf {b : BindingId} {sources : Sources}
    {subscriptions : List (ContainerId × Nat)} {c : ContainerId} {s : Subscriber}
    (matched : subscriptions.map Prod.fst = sources.map Prod.snd)
    (mem : s ∈ entriesOf b sources subscriptions c) : (c, s.id) ∈ subscriptions := by
  induction subscriptions generalizing sources with
  | nil => simp [entriesOf] at mem
  | cons subscription others inductionHypothesis =>
      cases sources with
      | nil => simp at matched
      | cons source rest =>
          simp only [List.map_cons, List.cons.injEq] at matched
          simp only [entriesOf, List.zip_cons_cons, List.filter_cons] at mem
          split at mem
          · next here =>
            rcases List.mem_cons.mp mem with rfl | inRest
            · have same : subscription.1 = c := by simpa [matched.1] using here
              exact List.mem_cons.mpr (Or.inl (by simp [← same]))
            · exact List.mem_cons_of_mem _ (inductionHypothesis matched.2 inRest)
          · exact List.mem_cons_of_mem _ (inductionHypothesis matched.2 mem)

/-- The keys of a binding's entries are the identifiers that were found in the container. -/
theorem map_key_entriesOf {b : BindingId} {sources : Sources}
    {subscriptions : List (ContainerId × Nat)} (c : ContainerId)
    (sameLength : sources.length = subscriptions.length) :
    (entriesOf b sources subscriptions c).map (·.key) =
      (sources.filter fun p => p.2 = c).map Prod.fst := by
  induction sources generalizing subscriptions with
  | nil => rfl
  | cons source rest inductionHypothesis =>
      cases subscriptions with
      | nil => simp at sameLength
      | cons subscription others =>
          have sameTail : rest.length = others.length := by simpa using sameLength
          have tail := inductionHypothesis sameTail
          simp only [entriesOf, List.zip_cons_cons, List.filter_cons] at tail ⊢
          split <;> simp_all

namespace World

/-- What subscribing a binding to its sources does: a number for each source, and an entry for each
source at the end of the list of its container. -/
theorem subscribeAll_spec (b : BindingId) (sources : Sources) (w : World)
    (made : ∀ p ∈ sources, p.2 < w.containers.size) :
    let result := w.subscribeAll b sources
    result.1.map Prod.fst = sources.map Prod.snd ∧
      result.2 = { w with containers := result.2.containers } ∧
      result.2.containers.size = w.containers.size ∧
      ∀ c, (result.2.container c).values = (w.container c).values ∧
        (w.container c).nextId ≤ (result.2.container c).nextId ∧
        (∀ s ∈ entriesOf b sources result.1 c, (w.container c).nextId ≤ s.id) ∧
        (result.2.container c).subscribers =
          (w.container c).subscribers ++ entriesOf b sources result.1 c ∧
        ((w.container c).Ordered → (result.2.container c).Ordered) := by
  induction sources generalizing w with
  | nil => simp [subscribeAll, entriesOf]
  | cons source rest inductionHypothesis =>
      obtain ⟨key, d⟩ := source
      have inside : d < w.containers.size := made (key, d) List.mem_cons_self
      have sizeEq : (w.subscribe d key (.binding b)).2.containers.size = w.containers.size :=
        Array.size_modify
      obtain ⟨numbers, outside, size, lists⟩ :=
        inductionHypothesis (w.subscribe d key (.binding b)).2 fun p mem => by
          rw [sizeEq]
          exact made p (List.mem_cons_of_mem _ mem)
      refine ⟨?_, ?_, ?_, ?_⟩
      · simpa [subscribeAll] using numbers
      · exact outside
      · exact size.trans sizeEq
      · intro c
        obtain ⟨values, next, above, subscribers, ordered⟩ := lists c
        rw [container_subscribe] at values next above subscribers ordered
        by_cases here : c = d
        · subst here
          simp only [inside, and_self, ↓reduceIte] at values next above subscribers ordered
          refine ⟨values, Nat.le_of_succ_le next, ?_, ?_, fun h => ordered (h.push key _)⟩
          · simp only [subscribeAll, entriesOf, List.zip_cons_cons, decide_true, List.filter_cons,
              ↓reduceIte, List.map_cons, List.mem_cons, forall_eq_or_imp]
            exact ⟨Nat.le_refl _, fun s mem => Nat.le_of_succ_le (above s mem)⟩
          · simpa [subscribeAll, entriesOf, subscribe] using subscribers
        · simp only [here, false_and, ↓reduceIte] at values next above subscribers ordered
          have notHere : ¬ d = c := Ne.symm here
          refine ⟨values, next, ?_, ?_, ordered⟩
          · simpa [subscribeAll, entriesOf, notHere] using above
          · simpa [subscribeAll, entriesOf, notHere] using subscribers

/-- What making a binding does: the binding itself, with a subscription for each of its sources, and the
entries of these in the lists. -/
theorem addBinding_spec (template : Template) (registry : RegistryId) (viewLabel : String)
    (sources : Sources) (listener : ListenerId) (w : World)
    (made : ∀ p ∈ sources, p.2 < w.containers.size) :
    ∃ subscriptions, subscriptions.map Prod.fst = sources.map Prod.snd ∧
      let after := (w.addBinding template registry viewLabel sources listener).2
      after =
          { w with
            containers := after.containers
            bindings := w.bindings.push
              ⟨template, registry, viewLabel, sources, subscriptions, true, listener⟩ } ∧
        after.containers.size = w.containers.size ∧
        (∀ b, after.binding b =
          if b = w.bindings.size then
            ⟨template, registry, viewLabel, sources, subscriptions, true, listener⟩
          else w.binding b) ∧
        ∀ c, (after.container c).values = (w.container c).values ∧
          (w.container c).nextId ≤ (after.container c).nextId ∧
          (∀ s ∈ entriesOf w.bindings.size sources subscriptions c,
            (w.container c).nextId ≤ s.id) ∧
          (after.container c).subscribers =
            (w.container c).subscribers ++
              entriesOf w.bindings.size sources subscriptions c ∧
          ((w.container c).Ordered → (after.container c).Ordered) := by
  have spec := subscribeAll_spec w.bindings.size sources w made
  simp only [addBinding]
  generalize w.subscribeAll w.bindings.size sources = result at spec ⊢
  rcases result with ⟨subscriptions, w'⟩
  obtain ⟨numbers, outside, size, lists⟩ := spec
  obtain ⟨containers, rfl⟩ : ∃ containers, w' = { w with containers := containers } :=
    ⟨_, outside⟩
  exact ⟨subscriptions, numbers, rfl, size, fun b => getD_push _ _ _ _, lists⟩

/-- Who is in the subscriber lists. -/
structure Subscribed (w : World) : Prop where
  ordered : ∀ c, (w.container c).Ordered
  /-- The entries of a binding, in the order of its sources. -/
  entries : ∀ b c,
    (w.container c).subscribers.filter (fun s => s.handler = .binding b) =
      entriesOf b (w.binding b).sources (w.binding b).subscriptions c
  /-- A released binding has no subscriptions. -/
  silent : ∀ b, (w.binding b).isActive = false → (w.binding b).subscriptions = []
  /-- An active binding is subscribed to each of its sources. -/
  matched : ∀ b, (w.binding b).isActive →
    (w.binding b).subscriptions.map Prod.fst = (w.binding b).sources.map Prod.snd
  /-- An active binding has a source for each identifier of its template. -/
  identified : ∀ b, (w.binding b).isActive →
    (w.binding b).sources.map Prod.fst = (w.binding b).template.identifiers
  /-- Every source has a value. -/
  present : ∀ b, ∀ p ∈ (w.binding b).sources, ((w.container p.2).values.find? p.1).isSome

namespace Subscribed

variable {w w' : World}

theorem empty : World.empty.Subscribed where
  ordered _ := ⟨List.Pairwise.nil, fun _ mem => absurd mem List.not_mem_nil⟩
  entries _ _ := rfl
  silent _ _ := rfl
  matched _ active := absurd active Bool.false_ne_true
  identified _ active := absurd active Bool.false_ne_true
  present _ _ mem := absurd mem List.not_mem_nil

/-- Where the bindings, the lists and the numbers stay, keys may come but not go. -/
theorem of_lists_eq (h : w.Subscribed) (bindings : ∀ b, w'.binding b = w.binding b)
    (subscribers : ∀ c, (w'.container c).subscribers = (w.container c).subscribers)
    (nextId : ∀ c, (w'.container c).nextId = (w.container c).nextId)
    (keys : ∀ c key, ((w.container c).values.find? key).isSome →
      ((w'.container c).values.find? key).isSome) : w'.Subscribed where
  ordered c :=
    ⟨by rw [subscribers]; exact (h.ordered c).ascending,
      by rw [subscribers, nextId]; exact (h.ordered c).below⟩
  entries b c := by rw [subscribers, bindings]; exact h.entries b c
  silent b := by rw [bindings]; exact h.silent b
  matched b := by rw [bindings]; exact h.matched b
  identified b := by rw [bindings]; exact h.identified b
  present b p mem := by
    rw [bindings] at mem
    exact keys p.2 p.1 (h.present b p mem)

/-- A subscription of a binding is in the list, as an entry of that binding. -/
theorem exists_entry (h : w.Subscribed) {b : BindingId} {c : ContainerId} {id : Nat}
    (mem : (c, id) ∈ (w.binding b).subscriptions) :
    ∃ s ∈ (w.container c).subscribers, s.handler = .binding b ∧ s.id = id := by
  have active : (w.binding b).isActive := by
    by_contra inactive
    rw [h.silent b (by simpa using inactive)] at mem
    exact absurd mem List.not_mem_nil
  obtain ⟨s, sMem, sId⟩ := exists_mem_entriesOf (b := b) (h.matched b active) mem
  rw [← h.entries b c] at sMem
  have parts := List.mem_filter.mp sMem
  exact ⟨s, parts.1, by simpa using parts.2, sId⟩

/-- An active binding is among those that are told when one of its sources is set. -/
theorem exists_subscriber (h : w.Subscribed) {b : BindingId} (active : (w.binding b).isActive)
    {key : String} {c : ContainerId} (mem : (key, c) ∈ (w.binding b).sources) :
    ∃ s ∈ w.subscribersTo c key, s.handler = .binding b := by
  have sameLength : (w.binding b).sources.length = (w.binding b).subscriptions.length := by
    simpa using (congrArg List.length (h.matched b active)).symm
  have isKey : key ∈ (entriesOf b (w.binding b).sources (w.binding b).subscriptions c).map (·.key) := by
    rw [map_key_entriesOf c sameLength]
    exact List.mem_map.mpr ⟨(key, c), List.mem_filter.mpr ⟨mem, by simp⟩, rfl⟩
  obtain ⟨s, sMem, rfl⟩ := List.mem_map.mp isKey
  rw [← h.entries b c] at sMem
  have parts := List.mem_filter.mp sMem
  exact ⟨s, List.mem_filter.mpr ⟨parts.1, by simp⟩, by simpa using parts.2⟩

theorem mem_entriesOf (h : w.Subscribed) {b : BindingId} {c : ContainerId} {s : Subscriber}
    (mem : s ∈ (w.container c).subscribers) (handler : s.handler = .binding b) :
    s ∈ entriesOf b (w.binding b).sources (w.binding b).subscriptions c := by
  rw [← h.entries b c]
  exact List.mem_filter.mpr ⟨mem, by simpa using handler⟩

/-- A binding with an entry in a list is active. -/
theorem isActive_of_mem (h : w.Subscribed) {b : BindingId} {c : ContainerId} {s : Subscriber}
    (mem : s ∈ (w.container c).subscribers) (handler : s.handler = .binding b) : (w.binding b).isActive := by
  by_contra inactive
  have inEntries := h.mem_entriesOf mem handler
  rw [h.silent b (by simpa using inactive)] at inEntries
  simp [entriesOf] at inEntries

/-- An entry of a binding has the number of a subscription of that binding, and of no other. -/
theorem mem_subscriptions_iff (h : w.Subscribed) {a b : BindingId} {c : ContainerId}
    {s : Subscriber} (mem : s ∈ (w.container c).subscribers) (handler : s.handler = .binding b) :
    (c, s.id) ∈ (w.binding a).subscriptions ↔ a = b := by
  constructor
  · intro subscribed
    obtain ⟨t, tMem, tHandler, tId⟩ := h.exists_entry subscribed
    have same : t = s := (h.ordered c).eq_of_id_eq tMem mem tId
    rw [same, handler] at tHandler
    exact (Handler.binding.inj tHandler).symm
  · rintro rfl
    exact mem_of_mem_entriesOf (h.matched a (h.isActive_of_mem mem handler)) (h.mem_entriesOf mem handler)

/-- The lists after bindings were released: the entries of these bindings are gone, and no others. -/
theorem subscribers_releases (h : w.Subscribed) {bs : List BindingId}
    (releases : Releases w bs w') (c : ContainerId) :
    (w'.container c).subscribers =
      (w.container c).subscribers.filter fun s => ∀ b ∈ bs, s.handler ≠ .binding b := by
  simp only [releases.container, Container.subscribers_keep]
  refine List.filter_congr fun s mem => decide_eq_decide.mpr (forall₂_congr fun b _ => not_congr ?_)
  constructor
  · intro subscribed
    obtain ⟨t, tMem, tHandler, tId⟩ := h.exists_entry subscribed
    rw [← (h.ordered c).eq_of_id_eq tMem mem tId]
    exact tHandler
  · intro handler
    exact (h.mem_subscriptions_iff mem handler).mpr rfl

theorem releases (h : w.Subscribed) {bs : List BindingId} (releases : Releases w bs w') :
    w'.Subscribed where
  ordered c := by
    simp only [releases.container]
    exact (h.ordered c).keep _
  entries b c := by
    simp only [h.subscribers_releases releases, List.filter_filter, releases.binding]
    by_cases gone : b ∈ bs
    · rw [if_pos gone]
      have none : entriesOf b (w.binding b).released.sources (w.binding b).released.subscriptions c =
          [] := by
        simp [Binding.released, entriesOf]
      simp only [none, List.filter_eq_nil_iff]
      intro s _ both
      simp only [ne_eq, Bool.and_eq_true, decide_eq_true_eq] at both
      exact both.2 b gone both.1
    · rw [if_neg gone, ← h.entries b c]
      apply List.filter_congr
      intro s _
      by_cases handler : s.handler = .binding b
      · have kept : ∀ a ∈ bs, s.handler ≠ .binding a := by
          intro a inList same
          rw [handler] at same
          exact gone (Handler.binding.inj same ▸ inList)
        simp only [handler, decide_true, Bool.true_and, decide_eq_true_eq]
        rw [← handler]
        exact kept
      · simp [handler]
  silent b := by
    simp only [releases.binding]
    split
    · intro _; rfl
    · exact h.silent b
  matched b := by
    simp only [releases.binding]
    split
    · intro active; exact absurd active Bool.false_ne_true
    · exact h.matched b
  identified b := by
    simp only [releases.binding]
    split
    · intro active; exact absurd active Bool.false_ne_true
    · exact h.identified b
  present b p mem := by
    simp only [releases.container, Container.values_keep]
    apply h.present b p
    simp only [releases.binding] at mem
    split at mem <;> exact mem

/-- A new binding gets its entries, and those of the others stay. -/
theorem addBinding (h : w.Subscribed) {template : Template} (registry : RegistryId)
    (viewLabel : String) {sources : Sources} (listener : ListenerId)
    (identified : sources.map Prod.fst = template.identifiers)
    (present : ∀ p ∈ sources, ((w.container p.2).values.find? p.1).isSome) :
    (w.addBinding template registry viewLabel sources listener).2.Subscribed := by
  obtain ⟨subscriptions, matched, _, _, bindings, lists⟩ :=
    addBinding_spec template registry viewLabel sources listener w
      fun p mem => lt_size_of_find? w (present p mem)
  have unused : w.binding w.bindings.size = default := binding_of_le w (Nat.le_refl _)
  refine ⟨fun c => (lists c).2.2.2.2 (h.ordered c), ?_, ?_, ?_, ?_, ?_⟩
  · intro b c
    simp only [(lists c).2.2.2.1, List.filter_append, h.entries b c, bindings]
    by_cases new : b = w.bindings.size
    · subst new
      have own : (entriesOf w.bindings.size sources subscriptions c).filter
          (fun s => s.handler = .binding w.bindings.size) =
            entriesOf w.bindings.size sources subscriptions c :=
        List.filter_eq_self.mpr fun s mem => by simpa using handler_of_mem_entriesOf mem
      rw [if_pos rfl, own, unused]
      exact List.nil_append _
    · have others : (entriesOf w.bindings.size sources subscriptions c).filter
          (fun s => s.handler = .binding b) = [] :=
        List.filter_eq_nil_iff.mpr fun s mem => by
          simpa [handler_of_mem_entriesOf mem] using Ne.symm new
      rw [if_neg new, others, List.append_nil]
  · intro b
    rw [bindings]
    split
    · intro inactive; exact absurd inactive (by simp)
    · exact h.silent b
  · intro b
    rw [bindings]
    split
    · intro _
      exact matched
    · exact h.matched b
  · intro b
    rw [bindings]
    split
    · intro _
      exact identified
    · exact h.identified b
  · intro b p
    rw [bindings, (lists p.2).1]
    split
    · exact present p
    · exact h.present b p

/-- A handler of the program gets an entry, and those of the bindings stay. -/
theorem subscribe (h : w.Subscribed) (c : ContainerId) (key : String) (l : ListenerId) :
    (w.subscribe c key (.listener l)).2.Subscribed where
  ordered d := by
    rw [container_subscribe]
    split
    · exact (h.ordered c).push key _
    · exact h.ordered d
  entries b d := by
    rw [container_subscribe]
    split
    · next here =>
      simp only [here.1, List.filter_append, h.entries b c]
      exact List.append_nil _
    · exact h.entries b d
  silent := h.silent
  matched := h.matched
  identified := h.identified
  present b p mem := by
    have found := h.present b p mem
    rw [container_subscribe]
    split
    · next here => rw [here.1] at found; exact found
    · exact found

/-- Ending a subscription of the program leaves the entries of the bindings. -/
theorem unsubscribe (h : w.Subscribed) {c : ContainerId} {id : Nat}
    (manual : ∀ s ∈ (w.container c).subscribers, s.id = id → ∃ l, s.handler = .listener l) :
    (w.unsubscribe c id).Subscribed where
  ordered d := by
    rw [container_unsubscribe]
    exact (h.ordered d).keep _
  entries b d := by
    rw [container_unsubscribe, Container.subscribers_keep, List.filter_filter]
    refine Eq.trans (List.filter_congr ?_) (h.entries b d)
    intro s mem
    by_cases handler : s.handler = .binding b
    · have stays : (d, s.id) ≠ (c, id) := by
        intro same
        rw [Prod.mk.injEq] at same
        obtain ⟨l, isListener⟩ := manual s (same.1 ▸ mem) same.2
        rw [handler] at isListener
        cases isListener
      simp [handler, stays]
    · simp [handler]
  silent := h.silent
  matched := h.matched
  identified := h.identified
  present b p mem := by
    rw [container_unsubscribe, Container.values_keep]
    exact h.present b p mem

end Subscribed

end World

end LiveTemplate
