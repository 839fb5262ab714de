import LiveTemplate.Proofs.Run.Accounts

/-!
Released bindings are silent.  A dispatch works on the list as it stood when the value was stored, so a
binding that is released on the way is still told; but being told does nothing to it, neither then nor at any
later time, as a released binding is never active again.
-/

namespace LiveTemplate

namespace World

/-- Every way in which a binding is released in one go. -/
structure Releasing (w : World) : Prop where
  release : ∀ b < w.bindings.size, (w.release b).IsReleased b
  dropBinding : ∀ handle b, w.handles.bindings.find? handle = some b →
    (w.dropBinding handle).IsReleased b
  /-- The handle is given to another binding. -/
  holdBinding : ∀ handle b other, w.handles.bindings.find? handle = some b →
    (w.holdBinding handle other).IsReleased b
  destroy : ∀ v, ∀ b ∈ (w.view v).bindings, (w.destroy v).IsReleased b
  /-- The last hold on a view ends. -/
  settle : ∀ v, w.isAlive v = false → ∀ b ∈ (w.view v).bindings, (w.settle v).IsReleased b
  /-- The view was destroyed before the binding came to it. -/
  recordBinding : ∀ v b, b < w.bindings.size → (w.view v).isDestroyed →
    (w.recordBinding v b).IsReleased b

variable {w w' : World}

theorem IsReleased.of_releases {bs : List BindingId} (releases : Releases w bs w') {b : BindingId}
    (mem : b ∈ bs) (made : b < w.bindings.size) : w'.IsReleased b := by
  refine ⟨by rw [releases.bindingCount]; exact made, ?_⟩
  simp only [releases.binding, if_pos mem]
  rfl

theorem Sound.releasing (sound : w.Sound) : w.Releasing where
  release b made := .of_releases (release_releases w b) List.mem_cons_self made
  dropBinding handle b found := by
    have made := sound.numbered.heldBindings b (OrderedMap.mem_values_of_find? found)
    exact .of_releases (dropBinding_releases w handle) (by simp [found]) made
  holdBinding handle b other found := by
    have made := sound.numbered.heldBindings b (OrderedMap.mem_values_of_find? found)
    exact .of_releases (holdBinding_releases w handle other) (by simp [found]) made
  destroy v b mem := by
    refine .of_releases (destroy_releases w v) ?_ (sound.kept.recorded v b mem)
    split
    · next gone =>
      rw [sound.kept.ended v (Or.inl gone)] at mem
      exact mem
    · exact mem
  settle v dead b mem := by
    rw [World.settle, if_neg (by rw [dead]; exact Bool.false_ne_true)]
    exact .of_releases (releaseBindings_releases w v) mem (sound.kept.recorded v b mem)
  recordBinding v b made gone := by
    refine .of_releases (recordBinding_releases w v b) ?_ made
    rw [if_pos gone]
    exact List.mem_cons_self

/-- The bindings that a view had are released when the view has ended. -/
theorem Sound.isReleased_of_ended (sound : w.Sound) (sound' : w'.Sound) (grows : Grows w w')
    (keeps : Keeps w w') {v : ViewId} {b : BindingId} (mem : b ∈ (w.view v).bindings)
    (gone : (w'.view v).isDestroyed ∨ w'.isAlive v = false) : w'.IsReleased b := by
  refine ⟨Nat.lt_of_lt_of_le (sound.kept.recorded v b mem) grows.bindingCount, ?_⟩
  by_contra active
  have stays := (keeps v b (sound.kept.recorded v b mem) (by simpa using active)).mpr mem
  rw [sound'.kept.ended v gone] at stays
  exact List.not_mem_nil stays

end World

variable {perform : Perform} {r : Run} {b : BindingId}

/-- A released binding that is told something does nothing. -/
theorem notify_released (released : r.world.IsReleased b) (key : String) (value : Value)
    {s : Subscriber} (handler : s.handler = .binding b) : notify perform key value s r = ((), r) := by
  simp only [notify, handler]
  exact refresh_of_inactive perform released.2

/-- A dispatch does the same as if the released binding were not in the list. -/
theorem dispatch_released (follows : perform.Follows Run.Reaches) (sound : r.world.Sound)
    (released : r.world.IsReleased b) (key : String) (value : Value) (subscribers : List Subscriber) :
    subscribers.forM (notify perform key value) r =
      (subscribers.filter fun s => s.handler ≠ .binding b).forM (notify perform key value) r := by
  induction subscribers generalizing r with
  | nil => rfl
  | cons s rest inductionHypothesis =>
      by_cases own : s.handler = .binding b
      · have skipped : (s :: rest).filter (fun s => s.handler ≠ .binding b) =
            rest.filter fun s => s.handler ≠ .binding b := by simp [own]
        rw [skipped, ← inductionHypothesis sound released]
        show (notify perform key value s >>= fun _ => rest.forM (notify perform key value)) r = _
        rw [Act.run_bind, notify_released released key value own]
      · have told : (s :: rest).filter (fun s => s.handler ≠ .binding b) =
            s :: rest.filter fun s => s.handler ≠ .binding b := by simp [own]
        have goes := notify_follows Run.reaches_closed follows key value s r sound
        have later := inductionHypothesis (goes.sound Run.reaches_closed sound)
          ((goes.grows Run.reaches_closed).isReleased released)
        rw [told]
        exact later

/-- In a run, bindings that were released are silent. -/
structure Run.SilencesReleased (r : Run) : Prop where
  /-- Whatever releases a binding makes it a released one. -/
  releasing : ∀ (i : Nat) (m : Moment), r.journal[i]? = some m → m.world.Releasing
  /-- So does the end of its view, by whatever way it came. -/
  ended : ∀ (i j : Nat) (m m' : Moment), i ≤ j → r.journal[i]? = some m → r.journal[j]? = some m' →
    ∀ v, ∀ b ∈ (m.world.view v).bindings,
      (m'.world.view v).isDestroyed ∨ m'.world.isAlive v = false → m'.world.IsReleased b
  /-- A released binding stays released, and no evaluation of it begins. -/
  silent : ∀ (i j : Nat) (m m' : Moment), i ≤ j → r.journal[i]? = some m → r.journal[j]? = some m' →
    ∀ b, m.world.IsReleased b → m'.world.IsReleased b ∧ m'.occurrence ≠ .refreshed b
  /-- Any dispatch, of whatever list, at whatever depth, goes on from there as if the binding were not
  in the list; one that tells nobody else does nothing at all. -/
  skipped : ∀ (i : Nat) (m : Moment), r.journal[i]? = some m → ∀ b, m.world.IsReleased b →
    ∀ after, Run.Reaches ⟨m.world, (r.journal.toList.take (i + 1)).toArray⟩ after →
      ∀ room key value subscribers,
        List.forM subscribers (notify (performAll (performAt room)) key value) after =
          (subscribers.filter fun s => s.handler ≠ .binding b).forM
            (notify (performAll (performAt room)) key value) after

/-- Whoever runs a session, a binding that was released is silent from then on. -/
theorem session_silences_released (room : Nat) (script : List Step) :
    (session room script).SilencesReleased := by
  have reaches := session_reaches room script
  constructor
  · intro i m found
    obtain ⟨middle, toMiddle, _, world, _⟩ := reaches.upTo_moment (Nat.zero_le i) found
    rw [← world]
    exact (toMiddle.sound World.Sound.empty).releasing
  · intro i j m m' order found found' v b mem gone
    obtain ⟨first, second, toFirst, toSecond, world, world'⟩ :=
      reaches.between (Nat.zero_le i) order found found'
    rw [← world] at mem
    rw [← world'] at gone ⊢
    have sound := toFirst.sound World.Sound.empty
    exact sound.isReleased_of_ended (toSecond.sound sound) toSecond.grows toSecond.keeps mem gone
  · intro i j m m' order found found' b released
    obtain ⟨first, second, _, toSecond, world, world'⟩ :=
      reaches.between (Nat.zero_le i) order found found'
    have stays : m'.world.IsReleased b := by
      rw [← world] at released
      rw [← world']
      exact toSecond.grows.isReleased released
    refine ⟨stays, ?_⟩
    intro isRefreshed
    -- an evaluation begins only with an active binding
    have allowed := reaches.allows (Nat.zero_le j) found' (by simp [isRefreshed]) (by simp [isRefreshed])
    rw [isRefreshed] at allowed
    have active : (m'.world.binding b).isActive := allowed
    rw [stays.2] at active
    cases active
  · intro i m found b released after reaches' depth key value subscribers
    obtain ⟨middle, toMiddle, _, world, journal⟩ := reaches.upTo_moment (Nat.zero_le i) found
    have same : middle = ⟨m.world, ((session room script).journal.toList.take (i + 1)).toArray⟩ := by
      rw [← world, ← journal]
    rw [← same] at reaches'
    rw [← world] at released
    have sound := reaches'.sound (toMiddle.sound World.Sound.empty)
    exact dispatch_released (performAll_follows Run.reaches_closed Run.reaches_dispatches _) sound
      (reaches'.grows.isReleased released) key value subscribers

end LiveTemplate
