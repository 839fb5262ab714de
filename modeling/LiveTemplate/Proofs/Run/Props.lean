import LiveTemplate.Proofs.Run.Performing
import LiveTemplate.Proofs.World.Props

/-!
Runs without properties.  An act is mirrored by another one if, from the run without properties, the other
comes to the same result and to the run without properties that the act comes to.  Every act of a step is
mirrored by that of the step without properties, as long as the same holds of what user code performs; so a
whole session is, by induction on how deep steps may nest.  The one step that reads properties is mirrored up
to what it reads.
-/

namespace LiveTemplate

/-- What a step comes to where views have no properties, given what it comes to: the same, unless it reads
them. -/
def Step.blank : Step → Outcome → Outcome
  | .props .., .ok _ => .ok (.props ⟨[], false, none⟩)
  | _, outcome => outcome

/-- An occurrence without properties. -/
def Occurrence.withoutProps : Occurrence → Occurrence
  | .nested step outcome => .nested step.withoutProps (step.blank outcome)
  | occurrence => occurrence

/-- An entry of a journal without properties. -/
def Moment.withoutProps (m : Moment) : Moment :=
  ⟨m.occurrence.withoutProps, m.world.withoutProps⟩

/-- A run without properties. -/
def Run.withoutProps (r : Run) : Run :=
  ⟨r.world.withoutProps, r.journal.map Moment.withoutProps⟩

namespace Act

variable {α β : Type} {g : β → β}

/-- An act does, without properties, what another one does, and comes to what `g` makes of its result. -/
def Mirrors (g : α → α) (act act' : Act α) : Prop :=
  ∀ r, act' r.withoutProps = (g (act r).1, (act r).2.withoutProps)

namespace Mirrors

theorem pure (a : β) : Mirrors g (Pure.pure a) (Pure.pure (g a)) :=
  fun _ => rfl

/-- Acts that mirror each other, one after the other. -/
theorem bind {h : α → α} {act act' : Act α} {f f' : α → Act β} (first : Mirrors h act act')
    (second : ∀ a, Mirrors g (f a) (f' (h a))) : Mirrors g (act >>= f) (act' >>= f') := by
  intro r
  show f' (act' r.withoutProps).1 (act' r.withoutProps).2 = _
  rw [first r]
  exact second (act r).1 (act r).2

/-- Acts that look at the world mirror each other if they do on every world and the one without properties. -/
theorem world {f f' : World → Act β} (each : ∀ w, Mirrors g (f w) (f' w.withoutProps)) :
    Mirrors g (Act.world >>= f) (Act.world >>= f') :=
  fun r => each r.world r

/-- A change that commutes with taking the properties away mirrors itself. -/
theorem change {f f' : World → World} (commutes : ∀ w, (f w).withoutProps = f' w.withoutProps) :
    Mirrors id (Act.change f) (Act.change f') :=
  fun r => congrArg (fun w => ((), (⟨w, r.withoutProps.journal⟩ : Run))) (commutes r.world).symm

/-- So does one with an answer that does not depend on the properties. -/
theorem changeWith {f f' : World → β × World}
    (commutes : ∀ w, f' w.withoutProps = ((f w).1, (f w).2.withoutProps)) :
    Mirrors id (Act.changeWith f) (Act.changeWith f') :=
  fun r => congrArg (fun p : β × World => (p.1, (⟨p.2, r.withoutProps.journal⟩ : Run))) (commutes r.world)

/-- An entry is mirrored by the entry without properties. -/
theorem record (occurrence : Occurrence) :
    Mirrors id (Act.record occurrence) (Act.record occurrence.withoutProps) := by
  intro r
  have pushed : (r.journal.push ⟨occurrence, r.world⟩).map Moment.withoutProps =
      r.withoutProps.journal.push ⟨occurrence.withoutProps, r.world.withoutProps⟩ := Array.map_push
  exact congrArg (fun journal => ((), (⟨r.world.withoutProps, journal⟩ : Run))) pushed.symm

/-- Acts on one thing after another mirror each other if each does. -/
theorem forM {f f' : α → Act Unit} {h : α → α} (each : ∀ x, Mirrors id (f x) (f' (h x))) (xs : List α) :
    Mirrors id (xs.forM f) ((xs.map h).forM f') := by
  induction xs with
  | nil => exact .pure ()
  | cons x rest inductionHypothesis => exact .bind (each x) fun _ => inductionHypothesis

end Mirrors

end Act

/-- User code is run alike without properties. -/
def Perform.Mirrors (perform perform' : Perform) : Prop :=
  ∀ steps, Act.Mirrors id (perform steps) (perform' (Script.withoutProps steps))

variable {perform perform' : Perform}

/-- Reactions are performed alike. -/
theorem react_mirrors (mirrors : Perform.Mirrors perform perform') (reactions : List (Reaction Step))
    (call : Nat) :
    Act.Mirrors id (react perform reactions call) (react perform' (Reactions.withoutProps reactions) call) := by
  induction reactions with
  | nil => exact .pure ()
  | cons reaction rest inductionHypothesis =>
      refine .bind (h := id) ?_ fun _ => inductionHypothesis
      simp only []
      split
      · exact mirrors reaction.steps
      · exact .pure ()

/-- A callback or handler is called alike. -/
theorem callListener_mirrors (mirrors : Perform.Mirrors perform perform') (l : ListenerId)
    {occurrence : String → Nat → Occurrence}
    (same : ∀ label call, (occurrence label call).withoutProps = occurrence label call) :
    Act.Mirrors id (callListener perform l occurrence) (callListener perform' l occurrence) := by
  refine .world fun w => .bind (.change fun w => w.withoutProps_countListenerCall l) fun _ => ?_
  rw [World.listener_withoutProps]
  refine .bind (h := id) ?_ fun _ => react_mirrors mirrors _ _
  have recorded := Act.Mirrors.record (occurrence (w.listener l).label ((w.listener l).calls + 1))
  rw [same] at recorded
  exact recorded

/-- A filter is called alike, and comes to the same value. -/
theorem callFilter_mirrors (mirrors : Perform.Mirrors perform perform') (f : FilterId) (value : Value) :
    Act.Mirrors id (callFilter perform f value) (callFilter perform' f value) := by
  refine .world fun w => .bind (.change fun w => w.withoutProps_countFilterCall f) fun _ => ?_
  rw [World.filter_withoutProps]
  refine .bind (.record (.filtered f value)) fun _ => .bind (react_mirrors mirrors _ _) fun _ => ?_
  exact .pure _

/-- A value is passed through filters alike. -/
theorem applyFilters_mirrors (mirrors : Perform.Mirrors perform perform') (q : RegistryId)
    (names : List String) (value : Value) :
    Act.Mirrors id (applyFilters perform q names value) (applyFilters perform' q names value) := by
  induction names generalizing value with
  | nil => exact .pure value
  | cons name rest inductionHypothesis =>
      refine .world fun w => ?_
      rw [World.registry_withoutProps]
      split
      · exact .bind (callFilter_mirrors mirrors _ value) fun value => inductionHypothesis value
      · exact inductionHypothesis value

/-- A placeholder is evaluated alike. -/
theorem evaluatePlaceholder_mirrors (mirrors : Perform.Mirrors perform perform') (scope : Scope)
    (p : Placeholder) :
    Act.Mirrors id (evaluatePlaceholder perform scope p) (evaluatePlaceholder perform' scope p) := by
  refine .world fun w => ?_
  rw [World.read?_withoutProps]
  split
  · exact .pure _
  · exact .bind (applyFilters_mirrors mirrors _ _ _) fun _ => .pure _

/-- Segments are evaluated one by one alike. -/
theorem evaluateSegments_mirrors (mirrors : Perform.Mirrors perform perform') (scope : Scope)
    (segments : List Segment) :
    Act.Mirrors id (evaluateSegments perform scope segments) (evaluateSegments perform' scope segments) := by
  induction segments with
  | nil => exact .pure _
  | cons segment rest inductionHypothesis =>
      cases segment with
      | literal text => exact .bind inductionHypothesis fun _ => .pure _
      | placeholder p =>
          refine .bind (evaluatePlaceholder_mirrors mirrors scope p) fun result => ?_
          cases result with
          | error e => exact .pure _
          | ok value => exact .bind inductionHypothesis fun _ => .pure _

/-- A template is evaluated alike. -/
theorem evaluate_mirrors (mirrors : Perform.Mirrors perform perform') (scope : Scope) (t : Template) :
    Act.Mirrors id (evaluate perform scope t) (evaluate perform' scope t) := by
  simp only [evaluate]
  split
  · exact evaluatePlaceholder_mirrors mirrors scope _
  · exact .bind (evaluateSegments_mirrors mirrors scope _) fun _ => .pure _

/-- A binding that is told of a change does the same. -/
theorem refresh_mirrors (mirrors : Perform.Mirrors perform perform') (b : BindingId) :
    Act.Mirrors id (refresh perform b) (refresh perform' b) := by
  refine .world fun w => ?_
  rw [World.binding_withoutProps]
  simp only []
  split
  · refine .bind (.record (.refreshed b)) fun _ => .bind (evaluate_mirrors mirrors _ _) fun result => ?_
    cases result with
    | error e => exact .pure ()
    | ok value => exact callListener_mirrors mirrors _ fun _ _ => rfl
  · exact .pure ()

/-- A subscriber that is told of a change does the same. -/
theorem notify_mirrors (mirrors : Perform.Mirrors perform perform') (key : String) (value : Value)
    (s : Subscriber) : Act.Mirrors id (notify perform key value s) (notify perform' key value s) := by
  simp only [notify]
  split
  · exact callListener_mirrors mirrors _ fun _ _ => rfl
  · exact refresh_mirrors mirrors _

/-- A value is stored and told of alike. -/
theorem setValue_mirrors (mirrors : Perform.Mirrors perform perform') (c : ContainerId) (key : String)
    (value : Value) : Act.Mirrors id (setValue perform c key value) (setValue perform' c key value) := by
  refine .bind (.change fun _ => rfl) fun _ => .world fun w => ?_
  refine .bind (.record (.stored c key value _)) fun _ => ?_
  have told := Act.Mirrors.forM (h := id) (notify_mirrors mirrors key value) (w.subscribersTo c key)
  rw [List.map_id] at told
  exact told

/-- A template is rendered alike. -/
theorem renderWith_mirrors (mirrors : Perform.Mirrors perform perform') (q : RegistryId) (v : ViewId)
    (template : String) :
    Act.Mirrors id (renderWith perform q v template) (renderWith perform' q v template) := by
  refine .world fun w => ?_
  rw [World.resolveAll_withoutProps, World.label_withoutProps]
  split
  · exact .pure _
  · exact .bind (.change fun _ => rfl) fun _ => .bind (evaluate_mirrors mirrors _ _) fun _ =>
      .bind (.change fun _ => rfl) fun _ => .pure _

/-- A template is bound to a callback alike. -/
theorem bindWith_mirrors (mirrors : Perform.Mirrors perform perform') (q : RegistryId) (v : ViewId)
    (template label : String) (reactions : List (Reaction Step)) :
    Act.Mirrors id (bindWith perform q v template label reactions)
      (bindWith perform' q v template label (Reactions.withoutProps reactions)) := by
  refine .world fun w => ?_
  rw [World.resolveAll_withoutProps, World.label_withoutProps]
  split
  · exact .pure _
  · refine .bind (.change fun _ => rfl) fun _ => .bind (evaluate_mirrors mirrors _ _) fun result => ?_
    cases result with
    | error e => exact .bind (.change fun _ => rfl) fun _ => .pure _
    | ok value =>
        refine .bind (.changeWith fun w => w.addListener_withoutProps label reactions) fun l => ?_
        refine .bind (callListener_mirrors mirrors l fun _ _ => rfl) fun _ => ?_
        refine .bind (.changeWith fun w => w.addBinding_withoutProps _ q _ _ l) fun b => ?_
        exact .bind (.change fun _ => rfl) fun _ => .pure _

/-- A template is rendered on a view alike. -/
theorem interpolate_mirrors (mirrors : Perform.Mirrors perform perform') (v : ViewId) (template : String) :
    Act.Mirrors id (interpolate perform v template) (interpolate perform' v template) := by
  refine .world fun w => ?_
  rw [World.requireRegistry_withoutProps]
  split
  · exact .pure _
  · exact .bind (renderWith_mirrors mirrors _ v template) fun _ => .pure _

/-- A template is bound on a view alike. -/
theorem interpolateWith_mirrors (mirrors : Perform.Mirrors perform perform') (v : ViewId)
    (template label : String) (reactions : List (Reaction Step)) :
    Act.Mirrors id (interpolateWith perform v template label reactions)
      (interpolateWith perform' v template label (Reactions.withoutProps reactions)) := by
  refine .world fun w => ?_
  rw [World.requireRegistry_withoutProps]
  split
  · exact .pure _
  · refine .bind (bindWith_mirrors mirrors _ v template label reactions) fun result => ?_
    cases result with
    | error e => exact .pure _
    | ok made => exact .bind (.change fun w => w.withoutProps_recordBinding v made.2) fun _ => .pure _

/-! ### Steps -/

namespace World

variable (w : World)

/-- A container is known under the same handle. -/
theorem containerHandle_withoutProps (c : ContainerId) :
    w.withoutProps.containerHandle c = w.containerHandle c := by
  simp only [containerHandle, handles_withoutProps, view_withoutProps]
  rfl

/-- The same is told of a view. -/
theorem viewInfo_withoutProps (v : ViewId) : w.withoutProps.viewInfo v = w.viewInfo v := by
  simp only [viewInfo, view_withoutProps, typeOf_withoutProps, stateOf_withoutProps, label_withoutProps,
    owner?_withoutProps]
  rfl

/-- The same is told of a view and the views that it has. -/
theorem viewOutline_withoutProps (v : ViewId) : w.withoutProps.viewOutline v = w.viewOutline v := by
  unfold viewOutline
  rw [typeOf_withoutProps, view_withoutProps]
  dsimp only [View.name_withoutProps, View.bindings_withoutProps, View.isDestroyed_withoutProps]

/-- Of a view without properties it is told that it has none. -/
theorem propsInfo_withoutProps (v : ViewId) (key : String) :
    w.withoutProps.propsInfo v key = ⟨[], false, none⟩ := by
  simp only [propsInfo, view_withoutProps]
  rfl

end World

/-- A step that looks mirrors one whose answer is the mirrored answer. -/
theorem look_mirrors {g : Outcome → Outcome} {f f' : World → Except Fault Answer}
    (same : ∀ w, f' w.withoutProps = g (f w)) : Act.Mirrors g (look f) (look f') :=
  fun r => congrArg (fun outcome : Outcome => (outcome, r.withoutProps)) (same r.world)

/-- A step that alters the world mirrors itself if altering commutes with taking the properties away. -/
theorem alter_mirrors {f f' : World → Except Fault (Answer × World)}
    (commutes : ∀ w, f' w.withoutProps = (f w).map fun done => (done.1, done.2.withoutProps)) :
    Act.Mirrors id (alter f) (alter f') := by
  refine .world fun w => ?_
  rw [commutes]
  cases f w with
  | error fault => exact .pure _
  | ok done => exact .bind (.change fun _ => rfl) fun _ => .pure _

/-- A step on a view mirrors itself if what is done with the view does. -/
theorem onView_mirrors (view : String) {act act' : ViewId → Act Outcome}
    (each : ∀ v, Act.Mirrors id (act v) (act' v)) : Act.Mirrors id (onView view act) (onView view act') := by
  refine .world fun w => ?_
  rw [World.findView_withoutProps]
  cases w.findView view with
  | error fault => exact .pure _
  | ok v =>
      exact .bind (.change fun _ => rfl) fun _ => .bind (each v) fun _ =>
        .bind (.change World.withoutProps_unpinView) fun _ => .pure _

/-- Working on a type is done alike without properties. -/
theorem alter_findType_mirrors (type : String) (answer : Answer)
    {f f' : World → TypeId → Except ViewError World}
    (commutes : ∀ w t, f' w.withoutProps t = (f w t).map World.withoutProps) :
    Act.Mirrors id
      (alter fun w => do
        let t ← w.findType type
        match f w t with
        | .ok w => return (answer, w)
        | .error e => .error (.view e))
      (alter fun w => do
        let t ← w.findType type
        match f' w t with
        | .ok w => return (answer, w)
        | .error e => .error (.view e)) := by
  refine alter_mirrors fun w => ?_
  simp only [commutes]
  rw [World.findType_withoutProps]
  cases w.findType type with
  | error fault => rfl
  | ok t =>
      simp only [bind, Except.bind]
      cases f w t <;> rfl

/-- A type is made alike. -/
theorem performNewType_mirrors (handle name : String) (plugin : Option (Plugin Step)) :
    Act.Mirrors id (performNewType handle name plugin)
      (performNewType handle name (plugin.map Plugin.withoutProps)) := by
  refine .bind (.changeWith fun _ => rfl) fun t => .bind (.change fun _ => rfl) fun _ => ?_
  cases plugin with
  | none => exact .pure _
  | some plugin =>
      refine alter_mirrors fun w => ?_
      simp only [id_eq, World.usePlugin_withoutProps]
      cases w.usePlugin t plugin <;> rfl

/-- A view is created alike, with properties or without. -/
theorem performCreate_mirrors (type view : String) (name : Option String)
    (state props : List (String × Value)) (owner : Option String) :
    Act.Mirrors id (performCreate type view name state props owner)
      (performCreate type view name state [] owner) := by
  refine alter_mirrors fun w => ?_
  rw [World.findType_withoutProps, World.findView_withoutProps]
  cases w.findType type with
  | error fault => rfl
  | ok t =>
      cases owner.mapM w.findView with
      | error fault => rfl
      | ok o =>
          have created := w.createView_withoutProps t name (.ofList state) (.ofList props) o
          simp only [bind, Except.bind]
          rw [show OrderedMap.ofList [] = OrderedMap.empty from rfl, created]
          cases w.createView t name (.ofList state) (.ofList props) o with
          | error e => rfl
          | ok made =>
              show Except.ok (Answer.text (made.2.withoutProps.label made.1),
                made.2.withoutProps.holdView view made.1) =
                  Except.ok (Answer.text (made.2.label made.1), (made.2.holdView view made.1).withoutProps)
              rw [World.label_withoutProps, World.withoutProps_holdView]

/-- A template is bound for the program alike. -/
theorem bindRaw_mirrors (mirrors : Perform.Mirrors perform perform') (v : ViewId)
    (template label binding : String) (reactions : List (Reaction Step)) :
    Act.Mirrors id (bindRaw perform v template label binding reactions)
      (bindRaw perform' v template label binding (Reactions.withoutProps reactions)) := by
  refine .world fun w => ?_
  rw [World.typeOf_withoutProps]
  split
  · exact .pure _
  · refine .bind (bindWith_mirrors mirrors _ v template label reactions) fun result => ?_
    cases result with
    | error e => exact .pure _
    | ok made => exact .bind (.change fun w => w.withoutProps_holdBinding binding made.2) fun _ => .pure _

/-- A value is set alike. -/
theorem performSet_mirrors (mirrors : Perform.Mirrors perform perform') (target : Target) (key : String)
    (value : Value) :
    Act.Mirrors id (performSet perform target key value) (performSet perform' target key value) := by
  refine .world fun w => ?_
  rw [World.findTarget_withoutProps]
  split
  · exact .pure _
  · exact .bind (.change fun _ => rfl) fun _ => .bind (setValue_mirrors mirrors _ key value) fun _ =>
      .bind (.change fun _ => rfl) fun _ => .pure _

/-- Every step is mirrored. -/
theorem performStep_mirrors (mirrors : Perform.Mirrors perform perform') (step : Step) :
    Act.Mirrors step.blank (performStep perform step) (performStep perform' step.withoutProps) := by
  cases step with
  | newType handle name plugin =>
      have mirrored := performNewType_mirrors handle name plugin
      cases plugin <;> exact mirrored
  | usePlugin type plugin =>
      exact alter_findType_mirrors type (.flag true) fun w t => w.usePlugin_withoutProps t plugin
  | registerFilter type name code =>
      exact alter_findType_mirrors type .done fun w t => w.registerOn_withoutProps t name code
  | hasFilter scope name =>
      cases scope with
      | ofView view =>
          refine look_mirrors fun w => ?_
          simp only [World.view_withoutProps]
          rfl
      | ofType type => exact look_mirrors fun _ => rfl
  | create type view name state props owner => exact performCreate_mirrors type view name state props owner
  | createBlank type view => exact performCreate_mirrors type view none [] [] none
  | render view template =>
      exact onView_mirrors view fun v => .bind (interpolate_mirrors mirrors v template) fun _ => .pure _
  | bind view template label reactions =>
      exact onView_mirrors view fun v =>
        .bind (interpolateWith_mirrors mirrors v template label reactions) fun _ => .pure _
  | bindRaw view template label binding reactions =>
      exact onView_mirrors view fun v => bindRaw_mirrors mirrors v template label binding reactions
  | set target key value => exact performSet_mirrors mirrors target key value
  | subscribe target key subscription reactions =>
      exact alter_mirrors fun w => w.listen_withoutProps target key subscription reactions
  | unsubscribe subscription => exact alter_mirrors fun w => w.unlisten_withoutProps subscription
  | unknown word => exact .pure _
  | typeName | hasPlugin | filterNames | sharesRegistry | bindingInfo | bindingOutline | typeOutline =>
      exact look_mirrors fun _ => rfl
  | observes | get | contains | keys | snapshot | subscriberCount | stateOutline =>
      refine look_mirrors fun w => ?_
      simp only [World.findTarget_withoutProps]
      rfl
  | upgrade weak =>
      refine look_mirrors fun w => ?_
      simp only [World.isHeld_withoutProps]
      rfl
  | resolve view identifier =>
      refine look_mirrors fun w => ?_
      simp only [World.resolve_withoutProps, World.containerHandle_withoutProps]
      rfl
  | viewInfo view =>
      refine look_mirrors fun w => ?_
      simp only [World.viewInfo_withoutProps]
      rfl
  | viewOutline view =>
      refine look_mirrors fun w => ?_
      simp only [World.viewOutline_withoutProps]
      rfl
  | props view key =>
      refine look_mirrors fun w => ?_
      simp only [World.propsInfo_withoutProps]
      rw [World.findView_withoutProps]
      cases w.findView view <;> rfl
  | release binding =>
      refine alter_mirrors fun w => ?_
      rw [World.findBinding_withoutProps]
      cases w.findBinding binding with
      | error fault => rfl
      | ok b => exact congrArg (fun w => Except.ok (Answer.done, w)) (w.withoutProps_release b).symm
  | dropBinding binding =>
      simp only [performStep, Step.withoutProps]
      exact alter_mirrors fun w =>
        congrArg (fun w' => Except.ok (Answer.flag (w.handles.bindings.contains binding), w'))
          (w.withoutProps_dropBinding binding).symm
  | holdState target state =>
      refine alter_mirrors fun w => ?_
      rw [World.findTarget_withoutProps]
      cases w.findTarget target <;> rfl
  | newState | dropState =>
      simp only [performStep, Step.withoutProps]
      exact alter_mirrors fun _ => rfl
  | downgrade target weak =>
      refine alter_mirrors fun w => ?_
      rw [World.findTarget_withoutProps]
      cases w.findTarget target <;> rfl
  | destroy view =>
      refine alter_mirrors fun w => ?_
      rw [World.findView_withoutProps]
      cases w.findView view with
      | error fault => rfl
      | ok v => exact congrArg (fun w => Except.ok (Answer.done, w)) (w.withoutProps_destroy v).symm
  | dropView view =>
      simp only [performStep, Step.withoutProps]
      exact alter_mirrors fun w =>
        congrArg (fun w' => Except.ok (Answer.flag (w.handles.views.contains view), w'))
          (w.withoutProps_dropView view).symm

/-- The properties are taken away step by step. -/
theorem Script.withoutProps_eq (steps : List Step) :
    Script.withoutProps steps = steps.map Step.withoutProps := by
  induction steps with
  | nil => rfl
  | cons step rest inductionHypothesis => rw [Script.withoutProps, inductionHypothesis, List.map_cons]

/-- A step that fails has read nothing. -/
theorem Step.blank_error (step : Step) (fault : Fault) : step.blank (.error fault) = .error fault := by
  cases step <;> rfl

/-- Scripts are mirrored if their steps are. -/
theorem performAll_mirrors_of {act : Step → Act Outcome}
    (each : ∀ step, Act.Mirrors step.blank (act step) (act step.withoutProps)) :
    Perform.Mirrors (performAll act) (performAll act) := by
  intro steps
  rw [Script.withoutProps_eq]
  refine Act.Mirrors.forM (fun step => ?_) steps
  exact .bind (each step) fun outcome => .record (.nested step outcome)

/-- However deep steps may nest, they are mirrored. -/
theorem performAt_mirrors (room : Nat) (step : Step) :
    Act.Mirrors step.blank (performAt room step) (performAt room step.withoutProps) := by
  induction room generalizing step with
  | zero =>
      intro r
      rw [show performAt 0 step r = (.error .depthLimit, r) from rfl, Step.blank_error]
      rfl
  | succ room inductionHypothesis =>
      exact performStep_mirrors (performAll_mirrors_of inductionHypothesis) step

/-- In the beginning there are no properties. -/
theorem Run.withoutProps_start : Run.start.withoutProps = Run.start := by
  simp [Run.withoutProps, Run.start, World.withoutProps, World.empty]

/-- The session of a script without properties is that of the script, without properties. -/
theorem session_withoutProps (room : Nat) (script : List Step) :
    session room (Script.withoutProps script) = (session room script).withoutProps := by
  have mirrored := performAll_mirrors_of (performAt_mirrors room) script .start
  rw [Run.withoutProps_start] at mirrored
  exact congrArg Prod.snd mirrored

/-! ### Two sessions -/

/-- Whether a step reads properties. -/
def Step.readsProps : Step → Bool
  | .props .. => true
  | _ => false

/-- Occurrences that differ at most in the properties that a step gives, or reads. -/
inductive Occurrence.Alike : Occurrence → Occurrence → Prop
  | nested {step step' : Step} {outcome outcome' : Outcome} (steps : step.withoutProps = step'.withoutProps)
      (outcomes : step.readsProps = false → outcome = outcome') :
      Alike (.nested step outcome) (.nested step' outcome')
  | other (occurrence : Occurrence) : Alike occurrence occurrence

/-- A step reads properties whether it gives any or not. -/
theorem Step.readsProps_withoutProps (step : Step) : step.withoutProps.readsProps = step.readsProps := by
  cases step with
  | newType handle name plugin => cases plugin <;> rfl
  | _ => rfl

/-- Only what is read is blanked. -/
theorem Step.blank_of_not_readsProps {step : Step} (other : step.readsProps = false) (outcome : Outcome) :
    step.blank outcome = outcome := by
  cases step with
  | props => cases other
  | _ => rfl

/-- Steps that differ in the properties they give come to the same, up to what is read. -/
theorem Step.outcome_eq {step step' : Step} {outcome outcome' : Outcome}
    (steps : step.withoutProps = step'.withoutProps) (blanked : step.blank outcome = step'.blank outcome')
    (other : step.readsProps = false) : outcome = outcome' := by
  have other' : step'.readsProps = false := by
    rw [← readsProps_withoutProps, ← steps, readsProps_withoutProps, other]
  rwa [blank_of_not_readsProps other, blank_of_not_readsProps other'] at blanked

/-- Occurrences that are the same without properties are alike. -/
theorem Occurrence.alike_of_eq {occurrence occurrence' : Occurrence}
    (same : occurrence.withoutProps = occurrence'.withoutProps) : Alike occurrence occurrence' := by
  cases occurrence with
  | nested step outcome =>
      cases occurrence' with
      | nested step' outcome' =>
          obtain ⟨steps, blanked⟩ := Occurrence.nested.inj same
          exact .nested steps (Step.outcome_eq steps blanked)
      | _ => cases same
  | _ =>
      cases occurrence' with
      | nested => cases same
      | _ => cases same <;> exact .other _

/-- The entries of journals, one by one. -/
def JournalsAlike (entries entries' : List Moment) : Prop :=
  List.Forall₂ (fun m m' => m.occurrence.Alike m'.occurrence) entries entries'

/-- Journals that are the same without properties are alike, entry by entry. -/
theorem journalsAlike_of_map_eq {entries entries' : List Moment}
    (same : entries.map Moment.withoutProps = entries'.map Moment.withoutProps) :
    JournalsAlike entries entries' := by
  induction entries generalizing entries' with
  | nil =>
      cases entries' with
      | nil => exact .nil
      | cons => cases same
  | cons m rest inductionHypothesis =>
      cases entries' with
      | nil => cases same
      | cons m' rest' =>
          obtain ⟨first, others⟩ := List.cons.inj same
          exact .cons (Occurrence.alike_of_eq (congrArg Moment.occurrence first)) (inductionHypothesis others)

/-- The entries that were made since are the same without properties. -/
theorem Run.since_withoutProps (r' r : Run) :
    r'.withoutProps.since r.withoutProps = (r'.since r).map Moment.withoutProps := by
  simp [Run.since, Run.withoutProps, List.map_drop]

/-- What two sessions have in common. -/
structure SessionsAlike (room : Nat) (script script' : List Step) : Prop where
  length : script.length = script'.length
  /-- What happens is the same, in the same order. -/
  journal : JournalsAlike (session room script).journal.toList (session room script').journal.toList
  /-- Every step answers the same unless it reads properties. -/
  answer : ∀ before step after before' step' after', script = before ++ step :: after →
    script' = before' ++ step' :: after' → before.length = before'.length → step.readsProps = false →
      (performAt room step (session room before)).1 = (performAt room step' (session room before')).1
  /-- Every step causes the same, in the same order. -/
  events : ∀ before step after before' step' after', script = before ++ step :: after →
    script' = before' ++ step' :: after' → before.length = before'.length →
      JournalsAlike ((performAt room step (session room before)).2.since (session room before))
        ((performAt room step' (session room before')).2.since (session room before'))

/-- Scripts that differ in the properties they give have the same steps up to these, each in its place. -/
theorem Script.split_of_withoutProps_eq {before after before' after' : List Step} {step step' : Step}
    (same : withoutProps (before ++ step :: after) = withoutProps (before' ++ step' :: after'))
    (place : before.length = before'.length) :
    withoutProps before = withoutProps before' ∧ step.withoutProps = step'.withoutProps := by
  simp only [withoutProps_eq, List.map_append, List.map_cons] at same ⊢
  obtain ⟨first, others⟩ := List.append_inj same (by simpa using place)
  exact ⟨first, (List.cons.inj others).1⟩

/-- Whoever runs a session, scripts that are the same without properties run alike. -/
theorem session_alike (room : Nat) {script script' : List Step}
    (same : Script.withoutProps script = Script.withoutProps script') : SessionsAlike room script script' := by
  have sessions {script script' : List Step} (same : Script.withoutProps script = Script.withoutProps script') :
      (session room script).withoutProps = (session room script').withoutProps := by
    rw [← session_withoutProps, same, session_withoutProps]
  have performed {before before' : List Step} {step step' : Step}
      (runs : (session room before).withoutProps = (session room before').withoutProps)
      (steps : step.withoutProps = step'.withoutProps) :
      step.blank (performAt room step (session room before)).1 =
          step'.blank (performAt room step' (session room before')).1 ∧
        (performAt room step (session room before)).2.withoutProps =
          (performAt room step' (session room before')).2.withoutProps := by
    have mirrored := performAt_mirrors room step (session room before)
    rw [runs, steps, performAt_mirrors] at mirrored
    exact ⟨(congrArg Prod.fst mirrored).symm, (congrArg Prod.snd mirrored).symm⟩
  refine ⟨?_, ?_, ?_, ?_⟩
  · simpa [Script.withoutProps_eq] using congrArg List.length same
  · apply journalsAlike_of_map_eq
    have journals := congrArg (fun r => r.journal.toList) (sessions same)
    simpa [Run.withoutProps] using journals
  · rintro before step after before' step' after' rfl rfl place other
    obtain ⟨first, steps⟩ := Script.split_of_withoutProps_eq same place
    exact Step.outcome_eq steps (performed (sessions first) steps).1 other
  · rintro before step after before' step' after' rfl rfl place
    obtain ⟨first, steps⟩ := Script.split_of_withoutProps_eq same place
    apply journalsAlike_of_map_eq
    rw [← Run.since_withoutProps, ← Run.since_withoutProps, sessions first,
      (performed (sessions first) steps).2]

end LiveTemplate
