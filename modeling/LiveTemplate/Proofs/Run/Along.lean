import LiveTemplate.Proofs.Run.Reaches

/-!
What user code does, seen from the acts that call it.  An evaluation calls filters and a dispatch calls handlers and
callbacks, and whatever these perform is user code again.  So a relation between runs that holds along all that user
code performs, and along the entry and the count that come with each call, holds along the whole act.

Nothing is assumed of the run that an act starts in.
-/

namespace LiveTemplate

variable {α β : Type} {R : Run → Run → Prop} {perform : Perform}

/-- A relation that holds along what an evaluation does by itself, which is to call filters. -/
structure Run.Filtering (R : Run → Run → Prop) : Prop where
  refl : ∀ r, R r r
  trans : ∀ {r r' r''}, R r r' → R r' r'' → R r r''
  filtered : ∀ (r : Run) f value, R r ((r.turn (r.world.countFilterCall f)).note (.filtered f value))

/-- A relation that holds along what a dispatch does by itself, which is to call handlers, and the callbacks of
bindings that are evaluated again. -/
structure Run.Telling (R : Run → Run → Prop) : Prop extends Run.Filtering R where
  called : ∀ (r : Run) l label call value,
    R r ((r.turn (r.world.countListenerCall l)).note (.called l label call value))
  notified : ∀ (r : Run) l label call key value,
    R r ((r.turn (r.world.countListenerCall l)).note (.notified l label call key value))
  refreshed : ∀ (r : Run) b, (r.world.binding b).isActive → R r (r.note (.refreshed b))

/-- An act leads from every run to one that is related to it. -/
def Act.Along (R : Run → Run → Prop) (act : Act α) : Prop :=
  ∀ r, R r (act r).2

/-- All that user code performs leads along a relation. -/
def Perform.Along (R : Run → Run → Prop) (perform : Perform) : Prop :=
  ∀ steps, (perform steps).Along R

namespace Act.Along

variable {act : Act α} {next : α → Act β}

theorem pure (filtering : Run.Filtering R) (a : α) : (Pure.pure a : Act α).Along R := fun r => filtering.refl r

theorem bind (first : act.Along R) (filtering : Run.Filtering R) (second : ∀ a, (next a).Along R) :
    (act >>= next).Along R :=
  fun r => filtering.trans (first r) (second (act r).1 (act r).2)

/-- Whatever is done with a world that was looked at. -/
theorem world {next : World → Act β} (second : ∀ w, (next w).Along R) :
    (Act.world >>= next).Along R := fun r => second r.world r

/-- What is done with the world as it stands. -/
theorem look {next : World → Act β} (second : ∀ r : Run, R r (next r.world r).2) :
    (Act.world >>= next).Along R := second

/-- An entry that may be made where the run is, and what is done afterwards. -/
theorem record (filtering : Run.Filtering R) {r : Run} {o : Occurrence} (noted : R r (r.note o))
    {next : Unit → Act β} (second : (next ()).Along R) : R r ((Act.record o >>= next) r).2 :=
  filtering.trans noted (second (r.note o))

theorem forM (filtering : Run.Filtering R) {xs : List α} {each : α → Act Unit} (along : ∀ x, (each x).Along R) :
    (xs.forM each).Along R := by
  induction xs with
  | nil => exact .pure filtering ()
  | cons x rest inductionHypothesis => exact (along x).bind filtering fun _ => inductionHypothesis

end Act.Along

/-! ### Evaluation -/

section Evaluation

variable (filtering : Run.Filtering R) (along : perform.Along R)

include filtering along

/-- Reactions to a call go along whatever user code goes along. -/
theorem react_along (reactions : List (Reaction Step)) (call : Nat) : (react perform reactions call).Along R := by
  apply Act.Along.forM filtering
  intro reaction
  split
  · exact along _
  · exact .pure filtering ()

/-- A filter is called, and then its user code runs. -/
theorem callFilter_along (f : FilterId) (value : Value) : (callFilter perform f value).Along R := by
  apply Act.Along.look
  intro r
  have reacted := react_along filtering along (r.world.filter f).code.reactions ((r.world.filter f).calls + 1)
  exact filtering.trans (filtering.filtered r f value) (reacted _)

/-- Filters are called one after the other, and unknown names passed over. -/
theorem applyFilters_along (q : RegistryId) (names : List String) (value : Value) :
    (applyFilters perform q names value).Along R := by
  induction names generalizing value with
  | nil => exact .pure filtering value
  | cons name rest inductionHypothesis =>
      apply Act.Along.world
      intro w
      split
      · exact (callFilter_along filtering along _ value).bind filtering inductionHypothesis
      · exact inductionHypothesis value

/-- A placeholder is read, and its filters are called. -/
theorem evaluatePlaceholder_along (scope : Scope) (p : Placeholder) :
    (evaluatePlaceholder perform scope p).Along R := by
  apply Act.Along.world
  intro w
  split
  · exact .pure filtering _
  · exact (applyFilters_along filtering along _ _ _).bind filtering fun _ => .pure filtering _

/-- Segments are evaluated up to the first that fails. -/
theorem evaluateSegments_along (scope : Scope) (segments : List Segment) :
    (evaluateSegments perform scope segments).Along R := by
  induction segments with
  | nil => exact .pure filtering _
  | cons segment rest inductionHypothesis =>
      cases segment with
      | literal text => exact inductionHypothesis.bind filtering fun _ => .pure filtering _
      | placeholder p =>
          apply (evaluatePlaceholder_along filtering along scope p).bind filtering
          intro result
          cases result with
          | error e => exact .pure filtering _
          | ok value => exact inductionHypothesis.bind filtering fun _ => .pure filtering _

/-- An evaluation goes along whatever the user code of filters goes along. -/
theorem evaluate_along (scope : Scope) (t : Template) : (evaluate perform scope t).Along R := by
  simp only [evaluate]
  split
  · exact evaluatePlaceholder_along filtering along scope _
  · exact (evaluateSegments_along filtering along scope _).bind filtering fun _ => .pure filtering _

end Evaluation

/-! ### Dispatch -/

section Dispatch

variable (telling : Run.Telling R) (along : perform.Along R)

include telling along

/-- A listener is called with an entry of its own, and then its user code runs. -/
theorem callListener_along (l : ListenerId) {occurrence : String → Nat → Occurrence}
    (noted : ∀ (r : Run) label call, R r ((r.turn (r.world.countListenerCall l)).note (occurrence label call))) :
    (callListener perform l occurrence).Along R := by
  apply Act.Along.look
  intro r
  have reacted := react_along telling.toFiltering along (r.world.listener l).reactions
    ((r.world.listener l).calls + 1)
  exact telling.trans (noted r _ _) (reacted _)

/-- A callback is called with a value. -/
theorem callCallback_along (l : ListenerId) (value : Value) :
    (callListener perform l (.called l · · value)).Along R :=
  callListener_along telling along l fun r label call => telling.called r l label call value

/-- A binding is evaluated again, unless it is not active. -/
theorem refresh_along (b : BindingId) : (refresh perform b).Along R := by
  apply Act.Along.look
  intro r
  by_cases active : (r.world.binding b).isActive
  · rw [if_pos active]
    apply Act.Along.record telling.toFiltering (telling.refreshed r b active)
    apply (evaluate_along telling.toFiltering along _ _).bind telling.toFiltering
    intro result
    cases result with
    | error e => exact .pure telling.toFiltering ()
    | ok value => exact callCallback_along telling along _ value
  · rw [if_neg active]
    exact telling.refl r

/-- A subscriber is told in its own way. -/
theorem notify_along (key : String) (value : Value) (s : Subscriber) : (notify perform key value s).Along R := by
  simp only [notify]
  cases s.handler with
  | listener l =>
      exact callListener_along telling along l fun r label call => telling.notified r l label call key value
  | binding b => exact refresh_along telling along b

/-- Once a value is stored, telling the subscribers goes along whatever user code goes along. -/
theorem setValue_along (c : ContainerId) (key : String) (value : Value) (r : Run) :
    R (r.stored c key value) (setValue perform c key value r).2 :=
  Act.Along.forM telling.toFiltering (notify_along telling along key value) (r.stored c key value)

end Dispatch

end LiveTemplate
