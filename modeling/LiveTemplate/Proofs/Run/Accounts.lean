import LiveTemplate.Proofs.Run.Tallies

/-!
The account of subscriptions.  The journal says which subscriptions the program made and which of them it
ended, and which bindings were made and not released; this accounts for every entry in every subscriber list, at
every moment of every run.

The account of the program is kept from the journal alone: what it was given for a subscription stands under
the handle right after it subscribed, and is given back when it unsubscribes.
-/

namespace LiveTemplate

/-- A subscription of the program: what it was given for it, the key, and the name of its handler. -/
structure Receipt where
  container : ContainerId
  id : Nat
  key : String
  label : String
deriving DecidableEq

/-- The subscriptions of the program after a moment, given those before it. -/
def Moment.account (m : Moment) (receipts : List Receipt) : List Receipt :=
  match m.occurrence with
  | .nested (.subscribe _ key subscription _) (.ok _) =>
    match m.world.handles.subscriptions.find? subscription with
    | some (c, id) => receipts ++ [⟨c, id, key, subscription⟩]
    | none => receipts
  | .nested (.unsubscribe subscription) (.ok _) =>
    match m.world.handles.subscriptions.find? subscription with
    | some (c, id) => receipts.filter fun x => (x.container, x.id) ≠ (c, id)
    | none => receipts
  | _ => receipts

/-- The subscriptions that the program has made and not ended, in order. -/
def receipts (history : List Moment) : List Receipt :=
  history.foldl (fun receipts m => m.account receipts) []

/-- The account after one more entry. -/
theorem receipts_append_singleton (history : List Moment) (m : Moment) :
    receipts (history ++ [m]) = m.account (receipts history) := by
  simp only [receipts, List.foldl_append]
  rfl

namespace World

/-- An entry of a list as a subscription of the program, if it is one. -/
def receipt? (w : World) (c : ContainerId) (s : Subscriber) : Option Receipt :=
  match s.handler with
  | .listener l => some ⟨c, s.id, s.key, (w.listener l).label⟩
  | .binding _ => none

/-- The entries of the program in the list of a container. -/
def programEntries (w : World) (c : ContainerId) : List Receipt :=
  (w.container c).subscribers.filterMap (w.receipt? c)

/-- The keys of the entries of a binding in the list of a container. -/
def bindingKeys (w : World) (b : BindingId) (c : ContainerId) : List String :=
  ((w.container c).subscribers.filter fun s => s.handler = .binding b).map (·.key)

variable {w w' : World}

/-! ### The entries of the program -/

/-- An entry of the program is the same subscription in every later world. -/
theorem receipt?_of_grows (numbered : w.Numbered) (grows : Grows w w') {c : ContainerId}
    {s : Subscriber} (mem : s ∈ (w.container c).subscribers) :
    w'.receipt? c s = w.receipt? c s := by
  simp only [receipt?]
  split
  · next l isListener =>
    simp only [(grows.listener l (numbered.heard c s mem l isListener)).1]
  · rfl

/-- The entries of the program stay where a list only loses or gets entries of bindings. -/
theorem programEntries_congr (numbered : w.Numbered) (grows : Grows w w') {c : ContainerId}
    (p : Subscriber → Bool) (new : List Subscriber)
    (list : (w'.container c).subscribers = (w.container c).subscribers.filter p ++ new)
    (lost : ∀ s ∈ (w.container c).subscribers, p s = false → ∃ b, s.handler = .binding b)
    (added : ∀ s ∈ new, ∃ b, s.handler = .binding b) :
    w'.programEntries c = w.programEntries c := by
  have none : new.filterMap (w'.receipt? c) = [] := by
    rw [List.filterMap_eq_nil_iff]
    intro s mem
    obtain ⟨b, isBinding⟩ := added s mem
    simp only [receipt?, isBinding]
  rw [programEntries, programEntries, list, List.filterMap_append, none, List.append_nil,
    List.filterMap_filter]
  apply List.filterMap_congr
  intro s mem
  rw [receipt?_of_grows numbered grows mem]
  split
  · rfl
  · next notKept =>
    obtain ⟨b, isBinding⟩ := lost s mem (by simpa using notKept)
    simp only [receipt?, isBinding]

/-- Releasing bindings leaves the entries of the program alone. -/
private theorem programEntries_releases (subscribed : w.Subscribed) (numbered : w.Numbered)
    {bs : List BindingId} (releases : Releases w bs w') (c : ContainerId) :
    w'.programEntries c = w.programEntries c := by
  refine programEntries_congr numbered (.of_releases releases) _ []
    ((subscribed.subscribers_releases releases c).trans (List.append_nil _).symm)
    ?_ fun s mem => absurd mem List.not_mem_nil
  intro s mem isLost
  obtain ⟨b, _, isBinding⟩ : ∃ b ∈ bs, s.handler = .binding b := by simpa using isLost
  exact ⟨b, isBinding⟩

/-- A binding that is made leaves the entries of the program alone. -/
private theorem programEntries_addBinding (numbered : w.Numbered) {template : Template}
    {registry : RegistryId} {viewLabel : String} {sources : Sources} {listener : ListenerId}
    (bindable : w.Bindable template registry sources listener) (c : ContainerId) :
    (w.addBinding template registry viewLabel sources listener).2.programEntries c =
      w.programEntries c := by
  obtain ⟨subscriptions, _, _, _, _, lists⟩ :=
    addBinding_spec template registry viewLabel sources listener w bindable.made
  refine programEntries_congr numbered (.addBinding _ _ _ _ _ bindable.made) (fun _ => true) _
    ((lists c).2.2.2.1.trans (by rw [List.filter_true])) (fun _ _ isLost => by cases isLost)
    fun s mem => ?_
  exact ⟨_, handler_of_mem_entriesOf mem⟩

/-- A change leaves the entries of the program alone. -/
theorem Change.programEntries_eq (change : Change w w') (sound : w.Sound) (c : ContainerId) :
    w'.programEntries c = w.programEntries c := by
  rcases change.kinds with letsGo | adds | ⟨template, registry, viewLabel, sources, listener,
      bindable, letsGo⟩
  · obtain ⟨bs, releases⟩ := letsGo.releases
    exact programEntries_releases sound.subscribed sound.numbered releases c
  · refine programEntries_congr sound.numbered change.grows (fun _ => true) [] ?_
      (fun _ _ isLost => by cases isLost) fun s mem => absurd mem List.not_mem_nil
    rw [adds.subscribers, List.filter_true, List.append_nil]
  · obtain ⟨bs, releases⟩ := letsGo.releases
    have subscribed := sound.subscribed.addBinding registry viewLabel listener bindable.identified
      bindable.present
    have numbered := sound.numbered.addBinding template viewLabel bindable.made
      bindable.hasRegistry bindable.hasListener bindable.unshared
    exact (programEntries_releases subscribed numbered releases c).trans
      (programEntries_addBinding sound.numbered bindable c)

/-- Registering leaves the entries of the program alone. -/
theorem programEntries_equips (equips : Equips w w') (c : ContainerId) :
    w'.programEntries c = w.programEntries c := by
  obtain ⟨_, containers, listeners, _⟩ := equips.same
  have same : w'.receipt? c = w.receipt? c := by
    funext s
    simp only [receipt?, listener, listeners]
  rw [programEntries, programEntries, same, container, containers]
  rfl

/-- Storing a value leaves the entries of the program alone. -/
theorem programEntries_store (numbered : w.Numbered) (d : ContainerId) (key : String) (value : Value)
    (c : ContainerId) : (w.store d key value).programEntries c = w.programEntries c := by
  refine programEntries_congr numbered (.store ..) (fun _ => true) [] ?_
    (fun _ _ isLost => by cases isLost) fun s mem => absurd mem List.not_mem_nil
  rw [List.filter_true, List.append_nil, container_store]
  split
  · next here => rw [here.1]
  · rfl

end World

/-! ### Keeping the account -/

namespace Run

/-- The account agrees with the lists. -/
def Balanced (r : Run) : Prop :=
  ∀ c, r.world.programEntries c = (receipts r.journal.toList).filter (·.container = c)

variable {r r' : Run}

/-- Only a deed changes the account. -/
private theorem account_of_allows {w : World} {o : Occurrence} (allowed : w.Allows o)
    (list : List Receipt) : Moment.account ⟨o, w⟩ list = list := by
  cases o with
  | nested step outcome =>
      cases outcome with
      | error fault => cases step <;> rfl
      | ok answer =>
          cases step with
          | subscribe => exact absurd rfl (allowed rfl answer)
          | unsubscribe => exact absurd rfl (allowed rfl answer)
          | _ => rfl
  | _ => rfl

/-- A new subscription is entered in the account. -/
private theorem Balanced.subscribe (balanced : r.Balanced) (sound : r.world.Sound) {target : Target}
    {key subscription : String} {reactions : List (Reaction Step)} {answer : Answer} {w' : World}
    (done : r.world.listen target key subscription reactions = .ok (answer, w')) :
    ((r.turn w').note (.nested (.subscribe target key subscription reactions) (.ok answer))).Balanced := by
  obtain ⟨d, found, isNew⟩ := World.listen_eq done
  have made := World.findTarget_lt_size sound.numbered found
  have grows := (World.Deed.subscribe done).grows
  intro c
  simp only [world_note, world_turn, journal_note, journal_turn, Array.toList_push,
    receipts_append_singleton]
  have given : w'.handles.subscriptions.find? subscription = some (d, (r.world.container d).nextId) := by
    rw [isNew]
    exact (OrderedMap.find?_insert _ _ _ _).trans (if_pos rfl)
  have account : Moment.account
        ⟨.nested (.subscribe target key subscription reactions) (.ok answer), w'⟩
        (receipts r.journal.toList) =
      receipts r.journal.toList ++ [⟨d, (r.world.container d).nextId, key, subscription⟩] := by
    simp only [Moment.account, given]
  have list : (w'.container c).subscribers = (r.world.container c).subscribers ++
      if c = d then [⟨(r.world.container d).nextId, key, .listener r.world.listeners.size⟩] else [] := by
    rw [isNew]
    refine (congrArg Container.subscribers (World.container_subscribe
      (r.world.addListener subscription reactions).2 d c key (.listener r.world.listeners.size))).trans ?_
    by_cases here : c = d
    · subst here
      rw [if_pos rfl, if_pos ⟨rfl, made⟩]
      rfl
    · rw [if_neg here, if_neg fun same => here same.1, List.append_nil]
      rfl
  have label : (w'.listener r.world.listeners.size).label = subscription := by
    rw [isNew]
    refine (congrArg Listener.label
      (World.listener_addListener r.world subscription reactions r.world.listeners.size)).trans ?_
    rw [if_pos rfl]
  rw [account, List.filter_append, ← balanced c, World.programEntries, list, List.filterMap_append]
  congr 1
  · exact List.filterMap_congr fun s mem => World.receipt?_of_grows sound.numbered grows mem
  · by_cases here : c = d
    · subst here
      simp [World.receipt?, label]
    · simp [here, Ne.symm here]

/-- A subscription that is ended is taken out of the account. -/
private theorem Balanced.unsubscribe (balanced : r.Balanced) {subscription : String}
    {answer : Answer} {w' : World} (done : r.world.unlisten subscription = .ok (answer, w')) :
    ((r.turn w').note (.nested (.unsubscribe subscription) (.ok answer))).Balanced := by
  obtain ⟨d, id, given, rfl⟩ := World.unlisten_eq done
  intro c
  simp only [world_note, world_turn, journal_note, journal_turn, Array.toList_push,
    receipts_append_singleton]
  have account : Moment.account
        ⟨.nested (.unsubscribe subscription) (.ok answer), r.world.unsubscribe d id⟩
        (receipts r.journal.toList) =
      (receipts r.journal.toList).filter fun x => (x.container, x.id) ≠ (d, id) := by
    have stays : (r.world.unsubscribe d id).handles.subscriptions.find? subscription = some (d, id) :=
      given
    simp only [Moment.account, stays]
  have entries : ∀ list : List Subscriber,
      (list.filter fun s => (c, s.id) ≠ (d, id)).filterMap (r.world.receipt? c) =
        (list.filterMap (r.world.receipt? c)).filter fun x => (x.container, x.id) ≠ (d, id) := by
    intro list
    rw [List.filterMap_filter, List.filter_filterMap]
    apply List.filterMap_congr
    intro s _
    cases handler : s.handler with
    | listener l =>
        by_cases same : (c, s.id) = (d, id)
        · simp [World.receipt?, handler, Option.filter, ← same]
        · simp only [ne_eq, same, not_false_eq_true, decide_true, ↓reduceIte, World.receipt?, handler,
            Option.filter]
    | binding b => simp [World.receipt?, handler]
  rw [account, List.filter_filter, World.programEntries, World.container_unsubscribe,
    Container.subscribers_keep]
  apply (entries _).trans
  show (r.world.programEntries c).filter _ = _
  rw [balanced c, List.filter_filter]
  simp only [Bool.and_comm]

/-- The account agrees with the lists after a move. -/
theorem Balanced.next (balanced : r.Balanced) (sound : r.world.Sound) (next : Next r r') :
    r'.Balanced := by
  cases next with
  | move move =>
      cases move with
      | change change =>
          intro c
          exact (change.programEntries_eq sound c).trans (balanced c)
      | entry allowed =>
          intro c
          rw [journal_note, Array.toList_push, receipts_append_singleton, account_of_allows allowed.world]
          exact balanced c
      | deed deed =>
          cases deed with
          | subscribe done => exact balanced.subscribe sound done
          | unsubscribe done => exact balanced.unsubscribe done
          | registerFilter done =>
              intro c
              rw [journal_note, Array.toList_push, receipts_append_singleton]
              exact (World.programEntries_equips (.registerOn done) c).trans (balanced c)
          | usePlugin done =>
              intro c
              rw [journal_note, Array.toList_push, receipts_append_singleton]
              exact (World.programEntries_equips (World.Equips.usePlugin done).1 c).trans (balanced c)
  | store d key value =>
      intro c
      simp only [stored, journal_note, Array.toList_push, receipts_append_singleton]
      exact (World.programEntries_store sound.numbered d key value c).trans (balanced c)

/-- The account agrees with the lists after any number of moves. -/
theorem Balanced.reaches (balanced : r.Balanced) (sound : r.world.Sound) (reaches : Reaches r r') :
    r'.Balanced := by
  induction reaches with
  | refl => exact balanced
  | tail before next inductionHypothesis =>
      exact inductionHypothesis.next (Reaches.sound before sound) next

theorem Balanced.start : Run.start.Balanced := fun _ => rfl

/-! ### Views and their bindings in the course of time -/

/-- Views keep their bindings through a move. -/
theorem Next.keeps (next : Next r r') : World.Keeps r.world r'.world := by
  cases next with
  | move move =>
      cases move with
      | change change => exact change.keeps
      | entry => exact .of_views_eq rfl
      | deed deed => exact .of_views_eq deed.same.1
  | store => exact .of_views_eq rfl

/-- Views keep their bindings through a run. -/
theorem Reaches.keeps (reaches : Reaches r r') : World.Keeps r.world r'.world := by
  induction reaches with
  | refl => exact .of_views_eq rfl
  | tail before next inductionHypothesis =>
      intro v b made active
      have madeThen := Nat.lt_of_lt_of_le made (Reaches.grows before).bindingCount
      exact (next.keeps v b madeThen active).trans
        (inductionHypothesis v b made ((next.grows.binding b madeThen).2 active))

/-- A move that releases a binding does so in person, or a keeper of the binding has let go of it. -/
theorem Next.loses (next : Next r r') {b : BindingId} (active : (r.world.binding b).isActive)
    (gone : (r'.world.binding b).isActive = false) :
    r'.world = r.world.release b ∨ r.world.Loses b r'.world := by
  have changed : r'.world.bindings ≠ r.world.bindings := by
    intro same
    rw [World.binding, same] at gone
    exact Bool.false_ne_true (gone.symm.trans active)
  cases next with
  | move move =>
      cases move with
      | change change => exact change.loses active gone
      | entry => exact absurd rfl changed
      | deed deed => exact absurd deed.same.2.1 changed
  | store => exact absurd rfl changed

/-- A binding that is active and is not active later was released by a move in between. -/
theorem Reaches.loses (reaches : Reaches r r') {b : BindingId} (active : (r.world.binding b).isActive)
    (gone : (r'.world.binding b).isActive = false) :
    ∃ before after, Reaches r before ∧ Next before after ∧ Reaches after r' ∧
      (before.world.binding b).isActive ∧
      (after.world = before.world.release b ∨ before.world.Loses b after.world) := by
  induction reaches with
  | refl => exact absurd (gone.symm.trans active) Bool.false_ne_true
  | @tail middle last toMiddle next inductionHypothesis =>
      cases still : (middle.world.binding b).isActive with
      | false =>
          obtain ⟨before, after, toBefore, moved, fromAfter, loses⟩ := inductionHypothesis still
          exact ⟨before, after, toBefore, moved, fromAfter.tail next, loses⟩
      | true => exact ⟨middle, last, toMiddle, next, .refl, still, next.loses still gone⟩

/-- Of a binding that at most one view keeps, the reason is one of three. -/
theorem Reaches.frees (reaches : Reaches r r') {v : ViewId} {b : BindingId}
    (own : ∀ u, b ∈ (r.world.view u).bindings → u = v) (active : (r.world.binding b).isActive)
    (gone : (r'.world.binding b).isActive = false) :
    ∃ before after, Reaches r before ∧ Next before after ∧ Reaches after r' ∧
      before.world.Frees v b after.world := by
  obtain ⟨before, after, toBefore, next, fromAfter, still, reason⟩ := reaches.loses active gone
  have ownThen : ∀ u, b ∈ (before.world.view u).bindings → u = v := by
    intro u mem
    have made := World.lt_size_of_isActive r.world active
    exact own u ((Reaches.keeps toBefore u b made still).mp mem)
  refine ⟨before, after, toBefore, next, fromAfter, ?_⟩
  rcases reason with released | loses
  · exact .release released
  · exact loses.frees ownThen

end Run

/-! ### The account of a moment -/

namespace World

variable {w w' : World}

/-- A source is found under its identifier. -/
private theorem lookup_of_mem {sources : Sources} (nodup : (sources.map Prod.fst).Nodup)
    {p : String × ContainerId} (mem : p ∈ sources) : sources.lookup p.1 = some p.2 := by
  obtain ⟨c, found, inSources⟩ := exists_lookup (List.mem_map_of_mem mem)
  have same : (p.1, c) = p := List.inj_on_of_nodup_map nodup inSources mem rfl
  rw [found, ← same]

/-- The keys of the entries of a binding, by the identifiers of its template. -/
theorem Subscribed.bindingKeys_eq (h : w.Subscribed) (b : BindingId) (c : ContainerId) :
    w.bindingKeys b c =
      if (w.binding b).isActive then
        (w.binding b).template.identifiers.filter fun x => (w.binding b).sources.lookup x = some c
      else [] := by
  simp only [bindingKeys, h.entries b c]
  cases active : (w.binding b).isActive with
  | false =>
      rw [h.silent b active]
      simp [entriesOf]
  | true =>
      have matched := congrArg List.length (h.matched b active)
      have names := h.identified b active
      have nodup := names ▸ Template.nodup_identifiers (w.binding b).template
      rw [List.length_map, List.length_map] at matched
      rw [if_pos rfl, map_key_entriesOf c matched.symm, ← names, List.filter_map]
      congr 1
      apply List.filter_congr
      intro p mem
      simp [lookup_of_mem nodup mem]

end World

end LiveTemplate
