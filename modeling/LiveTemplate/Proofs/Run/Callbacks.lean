import LiveTemplate.Proofs.Run.Accounts

/-!
When callbacks are called.  A callback of a binding is called with the value of an evaluation that began
while the binding was active; but nobody looks again when the evaluation has come to its value.  If a filter
performs a step that releases the binding, or ends its view, the callback is called all the same.  There is
no other way in which a callback is called too late.
-/

namespace LiveTemplate

/-- An entry for a nested step. -/
def Moment.isNested (m : Moment) : Bool :=
  match m.occurrence with
  | .nested .. => true
  | _ => false

namespace Run

/-- The run as it was when some number of entries had been made. -/
def cut (r : Run) (count : Nat) (w : World) : Run :=
  ⟨w, (r.journal.toList.take count).toArray⟩

/-- Among some entries of the journal is one for a nested step after which something was over. -/
def EndsByStep (r : Run) (gone : World → Prop) (first last : Nat) : Prop :=
  ∃ i m, first ≤ i ∧ i < last ∧ r.journal[i]? = some m ∧ m.isNested ∧ gone m.world

variable {r r' r'' : Run} {gone : World → Prop}

theorem Reaches.cut_eq (reaches : Reaches r r') : r'.cut r.journal.size r.world = r := by
  simp only [cut, reaches.take_journal]

theorem EndsByStep.mono {first last first' last' : Nat} (ends : r.EndsByStep gone first last)
    (earlier : first' ≤ first) (later : last ≤ last') : r.EndsByStep gone first' last' := by
  obtain ⟨i, m, above, below, rest⟩ := ends
  exact ⟨i, m, Nat.le_trans earlier above, Nat.lt_of_lt_of_le below later, rest⟩

/-- Entries that were made stay. -/
theorem EndsByStep.reaches {first : Nat} (ends : r.EndsByStep gone first r.journal.size)
    (reaches : Reaches r r') : r'.EndsByStep gone first r.journal.size := by
  obtain ⟨i, m, above, below, found, rest⟩ := ends
  exact ⟨i, m, above, below, (reaches.getElem?_journal below).trans found, rest⟩

/-! ### What filters put an end to -/

/-- What is over at the end was over at the start, or a nested step put an end to it. -/
structure KeepsUnlessStep (gone : World → Prop) (r r' : Run) : Prop where
  reaches : Reaches r r'
  ends : gone r'.world → gone r.world ∨ r'.EndsByStep gone r.journal.size r'.journal.size

namespace KeepsUnlessStep

theorem trans (first : KeepsUnlessStep gone r r') (second : KeepsUnlessStep gone r' r'') :
    KeepsUnlessStep gone r r'' := by
  refine ⟨first.reaches.trans second.reaches, ?_⟩
  intro isOver
  rcases second.ends isOver with before | byStep
  · apply (first.ends before).imp_right
    intro byStep
    exact (byStep.reaches second.reaches).mono (Nat.le_refl _) second.reaches.size_journal_le
  · exact Or.inr (byStep.mono first.reaches.size_journal_le (Nat.le_refl _))

/-- Calling a filter puts an end to nothing by itself. -/
theorem chained (calling : ∀ w f, gone (World.countFilterCall w f) → gone w) :
    Run.Chained (KeepsUnlessStep gone) where
  refl _ := ⟨.refl, Or.inl⟩
  trans := trans
  reaches := reaches
  filtered sound f value :=
    ⟨reaches_closed.filtered sound f value, fun isOver => Or.inl (calling _ f isOver)⟩

/-- Whatever a step puts an end to, there is an entry for the step. -/
theorem follows (calling : ∀ w f, gone (World.countFilterCall w f) → gone w) (room : Nat) :
    Perform.Follows (KeepsUnlessStep gone) (performAll (performAt room)) := by
  refine ⟨⟨room, rfl⟩, fun steps => .forM (chained calling) steps ?_⟩
  intro step _ r sound
  have goes := (performAll_follows reaches_closed reaches_dispatches room).steps [step] r sound
  refine ⟨⟨goes.related, fun isOver => Or.inr ?_⟩, goes.returns⟩
  refine ⟨(performAt room step r).2.journal.size, _, performAt_size_journal room step sound, ?_,
    Array.getElem?_push_size, rfl, isOver⟩
  exact Nat.lt_of_lt_of_eq (Nat.lt_succ_self _) (Array.size_push _).symm

/-- What an evaluation leaves behind. -/
theorem of_evaluate (calling : ∀ w f, gone (World.countFilterCall w f) → gone w) {room : Nat}
    {scope : Scope} {t : Template} {began evaluated : Run} (sound : began.world.Sound)
    {result : Except InterpolateError Value}
    (isResult : evaluate (performAll (performAt room)) scope t began = (result, evaluated)) :
    KeepsUnlessStep gone began evaluated := by
  have goes := (evaluate_follows (chained calling) (follows calling room) scope t began sound).related
  rw [isResult] at goes
  exact goes

end KeepsUnlessStep

/-- An evaluation goes by moves alone. -/
theorem Reaches.of_evaluate {room : Nat} {scope : Scope} {t : Template} {began evaluated : Run}
    (sound : began.world.Sound) {result : Except InterpolateError Value}
    (isResult : evaluate (performAll (performAt room)) scope t began = (result, evaluated)) :
    Reaches began evaluated := by
  have keeps : KeepsUnlessStep (fun _ => False) began evaluated :=
    .of_evaluate (fun _ _ => id) sound isResult
  exact keeps.reaches

/-! ### Calls and the evaluations before them -/

/-- The entry of a call of a binding's callback with the value of an evaluation that began with an entry of
its own, while the binding was active.  When the callback is called, the binding has been released if and
only if a step that filters performed during the evaluation released it. -/
def CalledAgain (r : Run) (j : Nat) (w : World) (b : BindingId) (l : ListenerId) (value : Value) :
    Prop :=
  ∃ room i began evaluated, i < j ∧ r.journal[i]? = some ⟨.refreshed b, began⟩ ∧
    (began.binding b).isActive ∧
    reevaluate (performAll (performAt room)) b (r.cut i began) = (.ok value, r.cut j evaluated) ∧
    w = evaluated.countListenerCall l ∧
    ((w.binding b).isActive = false ↔
      r.EndsByStep (fun w => (w.binding b).isActive = false) (i + 1) j)

/-- The entry of a call of a new callback with the value of the template that is about to be bound.  A view
that is destroyed when the callback is called was destroyed when the evaluation began, or a step that filters
performed during the evaluation destroyed it. -/
def CalledFirst (r : Run) (j : Nat) (w : World) (l : ListenerId) (value : Value) : Prop :=
  ∃ room i began evaluated scope template name reactions, i ≤ j ∧
    evaluate (performAll (performAt room)) scope template (r.cut i began) =
      (.ok value, r.cut j evaluated) ∧
    w = (evaluated.addListener name reactions).2.countListenerCall l ∧
    ∀ v, (w.view v).isDestroyed →
      (began.view v).isDestroyed ∨ r.EndsByStep (fun w => (w.view v).isDestroyed) i j

/-- Every call of a callback in a journal is one of these; and where filters only compute, callbacks are
called only while their bindings are active. -/
structure CallsAfterEvaluation (r : Run) : Prop where
  again : ∀ (j : Nat) (m : Moment), r.journal[j]? = some m → ∀ l label call value,
    m.occurrence = .called l label call value →
    ∀ b < m.world.bindings.size, (m.world.binding b).listener = l → r.CalledAgain j m.world b l value
  first : ∀ (j : Nat) (m : Moment), r.journal[j]? = some m → ∀ l label call value,
    m.occurrence = .called l label call value →
    (∀ b < m.world.bindings.size, (m.world.binding b).listener ≠ l) → r.CalledFirst j m.world l value
  quiet : ∀ (j : Nat) (m : Moment), r.journal[j]? = some m → ∀ l label call value,
    m.occurrence = .called l label call value → m.world.FiltersQuiet →
    ∀ b < m.world.bindings.size, (m.world.binding b).listener = l → (m.world.binding b).isActive

variable {b : BindingId} {l : ListenerId} {value : Value}

/-- The run in which the entry of a call is made. -/
private theorem Reaches.at_called (reaches : Reaches .start r) {j : Nat} {m : Moment}
    (found : r.journal[j]? = some m) {label : String} {call : Nat}
    (called : m.occurrence = .called l label call value) :
    ∃ before : Run, before.world.Sound ∧ Reaches before r ∧ before.journal.size = j ∧
      before.world = m.world ∧ before.Evaluated l value := by
  obtain ⟨before, after, toBefore, next, fromAfter, position, pushed, world⟩ :=
    reaches.at_moment (Nat.zero_le j) found
  have toEnd : Reaches before r := .head next fromAfter
  rcases (next.of_push pushed).2 with ⟨allowed, same⟩ | ⟨_, _, isDeed, _⟩ | ⟨_, _, _, isStored, _⟩
  · exact ⟨before, toBefore.sound World.Sound.empty, toEnd, position, same.symm.trans world,
      allowed.evaluated l label call value called⟩
  · rw [called] at isDeed; cases isDeed
  · rw [called] at isStored; cases isStored

/-- A binding that was released at some moment is released at every later one. -/
private theorem Reaches.released_later (reaches : Reaches .start r) {i k j : Nat}
    {mi mk mj : Moment} (foundi : r.journal[i]? = some mi) (foundk : r.journal[k]? = some mk)
    (foundj : r.journal[j]? = some mj) (first : i ≤ k) (second : k ≤ j)
    (made : b < mi.world.bindings.size) (released : (mk.world.binding b).isActive = false) :
    (mj.world.binding b).isActive = false := by
  obtain ⟨_, _, _, between, worldi, worldk⟩ := reaches.between (Nat.zero_le i) first foundi foundk
  obtain ⟨_, _, _, between', worldk', worldj⟩ := reaches.between (Nat.zero_le k) second foundk foundj
  have grows := between.grows
  rw [worldi, worldk] at grows
  have grows' := between'.grows
  rw [worldk', worldj] at grows'
  exact (grows'.isReleased ⟨Nat.lt_of_lt_of_le made grows.bindingCount, released⟩).2

/-- The evaluation of an active binding, as part of a run that goes on after it. -/
theorem reevaluation_in_run {room : Nat} {began evaluated : Run} (sound : began.world.Sound)
    (active : (began.world.binding b).isActive) {outcome : Except InterpolateError Value}
    (result : reevaluate (performAll (performAt room)) b began = (outcome, evaluated))
    (goesOn : Reaches evaluated r) :
    Reaches began evaluated ∧ began.journal.size < evaluated.journal.size ∧
      r.journal[began.journal.size]? = some ⟨.refreshed b, began.world⟩ ∧
      ((evaluated.world.binding b).isActive = false →
        r.EndsByStep (fun w => (w.binding b).isActive = false) (began.journal.size + 1)
          evaluated.journal.size) := by
  have keeps : KeepsUnlessStep (fun w => (w.binding b).isActive = false) (began.note (.refreshed b))
      evaluated := .of_evaluate (fun _ _ => id) sound result
  have allowed : began.Allows (.refreshed b) := ⟨active, nofun⟩
  have size : (began.note (.refreshed b)).journal.size = began.journal.size + 1 := Array.size_push _
  refine ⟨.head (.move (.entry allowed)) keeps.reaches, ?_, ?_, ?_⟩
  · rw [← Nat.succ_le_iff, ← Nat.add_one, ← size]
    exact keeps.reaches.size_journal_le
  · have stays := Reaches.getElem?_journal (keeps.reaches.trans goesOn)
      (Nat.lt_of_lt_of_eq (Nat.lt_succ_self began.journal.size) size.symm)
    exact stays.trans Array.getElem?_push_size
  · intro released
    rcases keeps.ends released with before | byStep
    · rw [world_note, active] at before
      cases before
    · simp only [size] at byStep
      exact byStep.reaches goesOn

/-- What the callback of a binding is called with. -/
theorem Reaches.called_again (reaches : Reaches .start r) {j : Nat} {m : Moment}
    (found : r.journal[j]? = some m) {label : String} {call : Nat}
    (called : m.occurrence = .called l label call value) (made : b < m.world.bindings.size)
    (own : (m.world.binding b).listener = l) : r.CalledAgain j m.world b l value := by
  obtain ⟨before, sound, toEnd, position, world, origin⟩ := reaches.at_called found called
  rw [← world] at made own ⊢
  cases origin with
  | first room began evaluated scope template name reactions soundBegan result new calling =>
      -- no binding has a callback that is new
      have soundEvaluated := (Reaches.of_evaluate soundBegan result).sound soundBegan
      rw [calling] at made own
      exact absurd (own.trans new) (Nat.ne_of_lt (soundEvaluated.numbered.bound b made).2)
  | again room began evaluated a soundBegan active isOwn result calling =>
      have toBefore : Reaches evaluated before := by
        rw [calling]
        exact .single (.move (.change (.countListenerCall l)))
      have goesOn := toBefore.trans toEnd
      have ended : evaluated.journal.size = j := by
        rw [← position, calling]
        rfl
      obtain ⟨toEvaluated, isEarlier, entry, byStep⟩ :=
        reevaluation_in_run soundBegan active result goesOn
      have aMade := World.lt_size_of_isActive _ active
      have grows := Reaches.grows (toEvaluated.trans toBefore)
      have same : a = b := sound.numbered.own a (Nat.lt_of_lt_of_le aMade grows.bindingCount) b made
        ((grows.listener_eq aMade).trans (isOwn.trans own.symm))
      subst same
      rw [ended] at isEarlier byStep
      refine ⟨room, began.journal.size, began.world, evaluated.world, isEarlier, entry, active, ?_, ?_,
        ?_, ?_⟩
      · rw [Reaches.cut_eq (toEvaluated.trans goesOn), ← ended, Reaches.cut_eq goesOn]
        exact result
      · rw [calling]
        rfl
      · intro released
        rw [calling] at released
        exact byStep released
      · rintro ⟨k, mk, above, below, foundk, _, released⟩
        simp only [world]
        exact reaches.released_later entry foundk found (Nat.le_of_succ_le above) (Nat.le_of_lt below)
          aMade released

/-- What a callback is called with that no binding has yet. -/
theorem Reaches.called_first (reaches : Reaches .start r) {j : Nat} {m : Moment}
    (found : r.journal[j]? = some m) {label : String} {call : Nat}
    (called : m.occurrence = .called l label call value)
    (new : ∀ b < m.world.bindings.size, (m.world.binding b).listener ≠ l) :
    r.CalledFirst j m.world l value := by
  obtain ⟨before, sound, toEnd, position, world, origin⟩ := reaches.at_called found called
  rw [← world] at new ⊢
  cases origin with
  | again room began evaluated a soundBegan active own result calling =>
      have toBefore : Reaches evaluated before := by
        rw [calling]
        exact .single (.move (.change (.countListenerCall l)))
      have toEvaluated := (reevaluation_in_run soundBegan active result toBefore).1
      have grows := Reaches.grows (toEvaluated.trans toBefore)
      have made := World.lt_size_of_isActive _ active
      exact absurd ((grows.listener_eq made).trans own)
        (new a (Nat.lt_of_lt_of_le made grows.bindingCount))
  | first room began evaluated scope template name reactions soundBegan result isNew calling =>
      have goesOn : Reaches evaluated r := by
        refine .head (.move (.change (.addListener name reactions))) (.head ?_ toEnd)
        rw [calling]
        exact .move (.change (.countListenerCall l))
      have toEvaluated : Reaches began evaluated := .of_evaluate soundBegan result
      have ended : evaluated.journal.size = j := by
        rw [← position, calling]
        rfl
      refine ⟨room, began.journal.size, began.world, evaluated.world, scope, template, name, reactions,
        ?_, ?_, ?_, ?_⟩
      · rw [← ended]
        exact toEvaluated.size_journal_le
      · rw [Reaches.cut_eq (toEvaluated.trans goesOn), ← ended, Reaches.cut_eq goesOn]
        exact result
      · rw [calling]
        rfl
      · intro v destroyed
        have keeps : KeepsUnlessStep (fun w => (w.view v).isDestroyed) began evaluated :=
          .of_evaluate (fun _ _ => id) soundBegan result
        rw [calling] at destroyed
        apply (keeps.ends destroyed).imp_right
        intro byStep
        rw [← ended]
        exact byStep.reaches goesOn

/-! ### Nobody looks again -/

/-- A value that was computed is given to the callback, whatever happened meanwhile. -/
structure CallsRegardless (r : Run) (room : Nat) : Prop where
  again : ∀ b, (r.world.binding b).isActive → ∀ value evaluated,
    reevaluate (performAll (performAt room)) b r = (.ok value, evaluated) →
      let l := (r.world.binding b).listener
      ∃ label call, (refresh (performAll (performAt room)) b r).2.journal[evaluated.journal.size]? =
        some ⟨.called l label call value, evaluated.world.countListenerCall l⟩
  first : ∀ v q, r.world.requireRegistry v = .ok q → ∀ template sources,
    r.world.resolveAll v (Template.parse template).identifiers = .ok sources → ∀ label reactions,
      (r.world.view v).isDestroyed = false ∧ ∃ value evaluated,
        evaluate (performAll (performAt room)) ⟨q, sources, r.world.label v⟩ (Template.parse template)
            (r.turn (r.world.pinContainers (sources.map Prod.snd))) = (.ok value, evaluated) ∧
          let l := evaluated.world.listeners.size
          ∃ call, (interpolateWith (performAll (performAt room)) v template label reactions
              r).2.journal[evaluated.journal.size]? =
            some ⟨.called l label call value,
              (evaluated.world.addListener label reactions).2.countListenerCall l⟩

private theorem introduced_entry {perform : Perform} (follows : perform.Follows Reaches)
    (sound : r.world.Sound) (label : String) (reactions : List (Reaction Step)) (value : Value) :
    ∃ call, (r.introduced perform label reactions value).journal[r.journal.size]? =
      some ⟨.called r.world.listeners.size label call value,
        (r.world.addListener label reactions).2.countListenerCall r.world.listeners.size⟩ := by
  have adding : World.Change r.world (r.world.addListener label reactions).2 := .addListener _ _
  have entry := callListener_entry reaches_closed follows
    (r := r.turn (r.world.addListener label reactions).2) (sound.change adding) r.world.listeners.size
    (.called r.world.listeners.size · · value)
  have name : ((r.world.addListener label reactions).2.listener r.world.listeners.size).label =
      label := by
    rw [World.listener_addListener, if_pos rfl]
  simp only [world_turn, name] at entry
  exact ⟨_, entry⟩

/-- Wherever a run has come to, a value that was computed is given to the callback. -/
theorem Reaches.callsRegardless (reaches : Reaches .start r) (room : Nat) : r.CallsRegardless room where
  again b active value evaluated result := by
    have sound := reaches.sound World.Sound.empty
    have follows := performAll_follows reaches_closed reaches_dispatches room
    have soundEvaluated := (reevaluation_in_run sound active result .refl).1.sound sound
    have unfolded := refresh_of_active (performAll (performAt room)) active
    rw [result] at unfolded
    rw [unfolded]
    exact ⟨_, _, callListener_entry reaches_closed follows soundEvaluated _ (.called _ · · value)⟩
  first v q required template sources resolved label reactions := by
    have sound := reaches.sound World.Sound.empty
    have follows := performAll_follows reaches_closed reaches_dispatches room
    have alive : (r.world.view v).isDestroyed = false := by
      simp only [World.requireRegistry] at required
      split at required
      · cases required
      · next alive => simpa using alive
    obtain ⟨value, evaluated, result, bound⟩ :=
      bindWith_run reaches_closed follows sound q resolved label reactions
    have pinning : World.Change r.world (r.world.pinContainers (sources.map Prod.snd)) :=
      .pinContainers _
    have soundEvaluated : evaluated.world.Sound :=
      (Reaches.of_evaluate (sound.change pinning) result).sound (sound.change pinning)
    obtain ⟨call, entry⟩ := introduced_entry follows soundEvaluated label reactions value
    refine ⟨alive, value, evaluated, result, call, ?_⟩
    simp only [interpolateWith, Act.run_bind, Act.run_world, required, bound]
    exact entry

end Run

/-- Callbacks are called with what evaluations come to, even after the binding was released; and they are
called after that only if a filter released it while the value was computed. -/
theorem session_calls_after_evaluation (room : Nat) (script : List Step) :
    (session room script).CallsAfterEvaluation ∧
      ∀ r, Run.Reaches .start r → ∀ depth, r.CallsRegardless depth := by
  have reaches := session_reaches room script
  constructor
  · constructor
    · intro j m found l label call value called b made own
      exact reaches.called_again found called made own
    · intro j m found l label call value called new
      exact reaches.called_first found called new
    · intro j m found l label call value called quiet b made own
      have allowed := reaches.allows (Nat.zero_le j) found (by simp [called]) (by simp [called])
      rw [called] at allowed
      exact (allowed quiet b made own).1
  · intro r reached depth
    exact reached.callsRegardless depth

/-- The callback of a binding is called that was released. -/
def Moment.callsReleased (m : Moment) : Bool :=
  match m.occurrence with
  | .called l .. => m.world.bindings.any fun x => x.listener == l && !x.isActive
  | _ => false

/-- A view with a filter that destroys it on its second call, which comes when the source is set. -/
def destroyedByFilter : List Step := [
  .newType "T" "T" (some .plainInterpolation),
  .registerFilter "T" "kill" ⟨.identity, [⟨some 2, [.destroy "v"]⟩]⟩,
  .create "T" "v" none [("x", .bool false)] [] none,
  .bind "v" "{{x|kill}}" "cb" [],
  .set (.ofView "v") "x" (.bool true)]

/-- It is not so that callbacks are called only while their bindings are active. -/
theorem released_callback_called :
    ¬ ∀ script, ∀ m ∈ (session nestingLimit script).journal.toList, m.callsReleased = false := by
  intro never
  have called : (session nestingLimit destroyedByFilter).journal.toList.any Moment.callsReleased := by
    decide +kernel
  obtain ⟨m, mem, calls⟩ := List.any_eq_true.mp called
  rw [never destroyedByFilter m mem] at calls
  cases calls

end LiveTemplate
