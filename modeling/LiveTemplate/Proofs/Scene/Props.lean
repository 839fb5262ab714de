import LiveTemplate.Command.Play
import LiveTemplate.Proofs.Run.Props
import LiveTemplate.Proofs.Scene.Ownership

/-!
Scenes without properties.  What a scene declares beside its properties is all that anything but the
properties depends on: the order in which its views are made, what validation says, and all that an instance
of it answers.
-/

namespace LiveTemplate

/-- A view of a scene without its properties. -/
def ViewSpec.withoutProps (spec : ViewSpec) : ViewSpec :=
  { spec with props := .empty }

/-- A scene without the properties of its views. -/
def Scene.withoutProps (s : Scene) : Scene :=
  { s with views := s.views.mapValues ViewSpec.withoutProps }

/-- An instance without the properties of its views. -/
def Instance.withoutProps (i : Instance) : Instance :=
  { i with world := i.world.withoutProps }

/-! ### Ownership -/

/-- The views have the owners that they had. -/
theorem Ownership.owners_withoutProps (views : Views) :
    owners (views.mapValues ViewSpec.withoutProps) = owners views := by
  simp only [owners, OrderedMap.mapValues, List.map_map]
  rfl

/-! ### Instances -/

namespace Scene

variable (s : Scene)

/-- A view is declared alike, and has no properties. -/
theorem spec_withoutProps (name : String) :
    (s.withoutProps.views.find? name).getD default = ((s.views.find? name).getD default).withoutProps := by
  rw [withoutProps, OrderedMap.find?_mapValues]
  cases s.views.find? name <;> rfl

/-- A view of the scene is made, or refused, alike. -/
theorem addView_withoutProps (t : TypeId) (w : World) (name : String) :
    s.withoutProps.addView t w.withoutProps name = (s.addView t w name).map World.withoutProps := by
  simp only [addView, spec_withoutProps, World.handles_withoutProps]
  generalize (s.views.find? name).getD default = spec
  -- a view is made alike for whatever owner is found
  have made (owner : Option ViewId) :
      ((w.withoutProps.createView t (some name) spec.state .empty owner).mapError .view).bind
          (fun made => .ok (made.2.holdView name made.1)) =
        (((w.createView t (some name) spec.state spec.props owner).mapError SceneError.view).bind
          fun made => .ok (made.2.holdView name made.1)).map World.withoutProps := by
    rw [w.createView_withoutProps t (some name) spec.state spec.props owner]
    cases w.createView t (some name) spec.state spec.props owner with
    | error e => rfl
    | ok pair => exact congrArg Except.ok (pair.2.withoutProps_holdView name pair.1).symm
  simp only [ViewSpec.withoutProps]
  cases spec.owner with
  | none => exact made none
  | some owner =>
      simp only []
      cases w.handles.views.find? owner with
      | none => rfl
      | some v => exact made (some v)

/-- The views of the scene are made, or one of them is refused, alike. -/
theorem addViews_withoutProps (t : TypeId) (w : World) (names : List String) :
    names.foldlM (s.withoutProps.addView t) w.withoutProps =
      (names.foldlM (s.addView t) w).map World.withoutProps := by
  induction names generalizing w with
  | nil => rfl
  | cons name rest inductionHypothesis =>
      rw [List.foldlM_cons, List.foldlM_cons, addView_withoutProps]
      cases s.addView t w name with
      | error e => rfl
      | ok w' => exact inductionHypothesis w'

/-- The handles are put on views with the same numbers. -/
theorem declaredHandles_withoutProps (w : World) :
    s.withoutProps.declaredHandles w.withoutProps = s.declaredHandles w := by
  simp only [declaredHandles, viewNames, withoutProps, OrderedMap.keys_mapValues]
  rfl

/-- The filters of a scene give no properties. -/
theorem plugin_withoutProps (filters : FilterSet) : (plugin filters).withoutProps = plugin filters := by
  cases filters <;> rfl

/-- The views are made in the same order, or their owners have the same error. -/
theorem creationOrder_withoutProps :
    Ownership.creationOrder s.withoutProps.views = Ownership.creationOrder s.views :=
  Ownership.creationOrder_congr (Ownership.owners_withoutProps s.views)

/-- A scene comes alive, or has the same error, without its properties. -/
theorem instantiate_withoutProps (filters : FilterSet) :
    s.withoutProps.instantiate filters = (s.instantiate filters).map Instance.withoutProps := by
  have named : (World.empty.addType s.withoutProps.name) =
      ((World.empty.addType s.name).1, (World.empty.addType s.name).2.withoutProps) := by
    simp [World.addType, World.empty, World.withoutProps, withoutProps]
  have installed := (World.empty.addType s.name).2.usePlugin_withoutProps (World.empty.addType s.name).1
    (plugin filters)
  rw [plugin_withoutProps] at installed
  simp only [instantiate, named, installed, creationOrder_withoutProps]
  cases (World.empty.addType s.name).2.usePlugin (World.empty.addType s.name).1 (plugin filters) with
  | error e => rfl
  | ok w =>
      cases Ownership.creationOrder s.views with
      | error e => rfl
      | ok order =>
          have views := s.addViews_withoutProps (World.empty.addType s.name).1 w order
          simp only [Except.map, Except.mapError, bind, Except.bind] at views ⊢
          rw [views]
          cases order.foldlM (s.addView (World.empty.addType s.name).1) w with
          | error e => rfl
          | ok w' =>
              simp only [declaredHandles_withoutProps]
              rfl

end Scene

/-! ### What is answered -/

/-- The same calls are noted. -/
theorem callsOf_withoutProps (journal : Array Moment) :
    callsOf (journal.map Moment.withoutProps) = callsOf journal := by
  simp only [callsOf, Array.toList_map, List.filterMap_map]
  congr 1
  funext m
  cases isOccurrence : m.occurrence <;>
    simp [Moment.withoutProps, isOccurrence, Occurrence.withoutProps]

namespace Instance

/-- An act that is mirrored is answered alike without properties. -/
theorem run_withoutProps {α : Type} {act : Act α} (mirrored : Act.Mirrors id act act) (i : Instance) :
    i.withoutProps.run act = ((i.run act).1, (i.run act).2.1, (i.run act).2.2.withoutProps) := by
  have same := mirrored ⟨i.world, #[]⟩
  rw [show Run.withoutProps ⟨i.world, #[]⟩ = ⟨i.withoutProps.world, #[]⟩ by
    simp [Run.withoutProps, Instance.withoutProps]] at same
  simp only [run, same]
  exact congrArg (fun calls => ((act ⟨i.world, #[]⟩).1, calls, _)) (callsOf_withoutProps _)

/-- The callbacks of an instance perform nothing, with or without properties. -/
theorem perform_mirrors : Perform.Mirrors perform perform :=
  fun _ => .pure ()

/-- A view is looked up alike, and what is done with it comes to the same. -/
theorem onView_mirrors {α : Type} (name : String) {act : ViewId → Act (Except ViewError α)}
    (each : ∀ v, Act.Mirrors id (act v) (act v)) : Act.Mirrors id (onView name act) (onView name act) := by
  refine .world fun w => ?_
  rw [World.handles_withoutProps]
  split
  · exact .pure _
  · exact .bind (each _) fun _ => .pure _

/-- A template is rendered alike. -/
theorem render_mirrors (view template : String) :
    Act.Mirrors id (render view template) (render view template) :=
  onView_mirrors view fun v => interpolate_mirrors perform_mirrors v template

/-- A template is bound alike. -/
theorem bind_mirrors (b : BindingSpec) (label : String) : Act.Mirrors id (bind b label) (bind b label) :=
  onView_mirrors b.view fun v => interpolateWith_mirrors perform_mirrors v b.template label []

/-- A value is stored alike. -/
theorem store_mirrors (view key : String) (value : Value) :
    Act.Mirrors id (store view key value) (store view key value) := by
  refine onView_mirrors view fun v => .world fun w => ?_
  rw [World.view_withoutProps, View.state_withoutProps]
  exact .bind (setValue_mirrors perform_mirrors _ key value) fun _ => .pure _

/-- An update is applied alike. -/
theorem apply_mirrors (u : Update) : Act.Mirrors id (apply u) (apply u) := by
  cases u with
  | set view key value => exact store_mirrors view key value
  | destroy view =>
      exact onView_mirrors view fun v => .bind (.change fun w => w.withoutProps_destroy v) fun _ => .pure _

theorem hasFilter_withoutProps (i : Instance) (name : String) :
    i.withoutProps.hasFilter name = i.hasFilter name := rfl

theorem viewNames_withoutProps (i : Instance) : i.withoutProps.viewNames = i.viewNames := rfl

/-- Something that can be asked of an instance. -/
inductive Request where
  | render (view template : String)
  | bind (binding : BindingSpec) (label : String)
  | apply (update : Update)

/-- Does what is asked; the result is the value, if there is one. -/
def ask : Request → Act (Except SceneError (Option Value))
  | .render view template => return (← render view template).map some
  | .bind binding label => return (← bind binding label).map some
  | .apply update => return (← apply update).map fun _ => none

/-- What an instance answers when it is asked several things one after the other: the results, and the calls
of callbacks meanwhile. -/
def answers (i : Instance) : List Request → List (Except SceneError (Option Value) × List Call)
  | [] => []
  | request :: rest =>
    let (result, calls, i) := i.run (ask request)
    (result, calls) :: answers i rest

/-- An instance does the same when it is asked. -/
theorem ask_mirrors (request : Request) : Act.Mirrors id (ask request) (ask request) := by
  cases request with
  | render view template => exact .bind (render_mirrors view template) fun _ => .pure _
  | bind binding label => exact .bind (bind_mirrors binding label) fun _ => .pure _
  | apply update => exact .bind (apply_mirrors update) fun _ => .pure _

/-- An instance gives the same answers. -/
theorem answers_withoutProps (i : Instance) (requests : List Request) :
    i.withoutProps.answers requests = i.answers requests := by
  induction requests generalizing i with
  | nil => rfl
  | cons request rest inductionHypothesis =>
      simp only [answers, run_withoutProps (ask_mirrors request), inductionHypothesis]

end Instance

namespace Scene

variable (s : Scene) (filters : FilterSet)

/-- There are the same errors of owners. -/
theorem ownershipErrors_withoutProps : s.withoutProps.ownershipErrors = s.ownershipErrors := by
  rw [ownershipErrors, creationOrder_withoutProps, ownershipErrors]

/-- There are the same errors of references. -/
theorem referenceErrors_withoutProps : s.withoutProps.referenceErrors = s.referenceErrors := by
  simp only [referenceErrors, withoutProps, OrderedMap.contains_mapValues]

/-- There are the same warnings about views that are not used. -/
theorem unusedWarnings_withoutProps : s.withoutProps.unusedWarnings = s.unusedWarnings := by
  simp only [unusedWarnings, viewNames, withoutProps, OrderedMap.keys_mapValues, OrderedMap.values_mapValues,
    List.filterMap_map]
  rfl

/-- The templates have the same errors. -/
theorem templateErrors_withoutProps (i : Instance) :
    templateErrors i.withoutProps = templateErrors i := by
  funext b
  simp only [templateErrors, Instance.run_withoutProps (Instance.render_mirrors b.view b.template)]

/-- The templates have the same warnings. -/
theorem templateWarnings_withoutProps (i : Instance) :
    templateWarnings i.withoutProps = templateWarnings i := by
  funext b
  simp only [templateWarnings, Instance.hasFilter_withoutProps]

/-- Validation reports the same. -/
theorem validate_withoutProps : s.withoutProps.validate filters = s.validate filters := by
  simp only [validate, ownershipErrors_withoutProps, referenceErrors_withoutProps, unusedWarnings_withoutProps,
    instantiate_withoutProps]
  cases s.instantiate filters with
  | error e => rfl
  | ok i =>
      simp only [Except.map, bind, Except.bind, templateErrors_withoutProps, templateWarnings_withoutProps]
      rfl

/-! ### Commands -/

/-- Assigned values are stored, or one is refused, alike. -/
theorem storeAll_withoutProps (view : String) (i : Instance) (assignments : List (String × Value)) :
    storeAll view i.withoutProps assignments = (storeAll view i assignments).map Instance.withoutProps := by
  induction assignments generalizing i with
  | nil => rfl
  | cons assignment rest inductionHypothesis =>
      obtain ⟨key, value⟩ := assignment
      simp only [storeAll, Instance.run_withoutProps (Instance.store_mirrors view key value)]
      cases (i.run (Instance.store view key value)).1 with
      | error e => rfl
      | ok _ => exact inductionHypothesis _

/-- A template on a scene is rendered to the same text, or fails alike. -/
theorem renderScene_withoutProps (view template : String) (assignments : List (String × Value)) :
    renderScene s.withoutProps filters view template assignments =
      renderScene s filters view template assignments := by
  simp only [renderScene, instantiate_withoutProps]
  cases s.instantiate filters with
  | error e => rfl
  | ok i =>
      simp only [Except.map, Except.mapError, bind, Except.bind, storeAll_withoutProps,
        Instance.viewNames_withoutProps]
      cases storeAll view i assignments with
      | error e => rfl
      | ok i' => simp only [Instance.run_withoutProps (Instance.render_mirrors view template)]

/-- The updates of a scene are reported line by line alike. -/
theorem playAll_withoutProps (prettyJson : Bool) (i : Instance) (updates : List Update) :
    playAll prettyJson i.withoutProps updates = playAll prettyJson i updates := by
  induction updates generalizing i with
  | nil => rfl
  | cons u rest inductionHypothesis =>
      simp only [playAll, Instance.run_withoutProps (Instance.apply_mirrors u), inductionHypothesis]

/-- The bindings of a scene are reported line by line alike, if what follows on them is. -/
theorem bindAll_withoutProps (prettyJson : Bool) {next : Instance → Transcript}
    (same : ∀ i, next i.withoutProps = next i) (i : Instance) (bindings : List BindingSpec) :
    bindAll prettyJson next i.withoutProps bindings = bindAll prettyJson next i bindings := by
  induction bindings generalizing i with
  | nil => exact same i
  | cons b rest inductionHypothesis =>
      simp only [bindAll, Instance.run_withoutProps (Instance.bind_mirrors b _), inductionHypothesis]

/-- Watching prints the same lines. -/
theorem watchScene_withoutProps (prettyJson : Bool) :
    watchScene s.withoutProps filters prettyJson = watchScene s filters prettyJson := by
  simp only [watchScene, instantiate_withoutProps]
  cases s.instantiate filters with
  | error e => rfl
  | ok i =>
      have played : bindAll prettyJson (fun i => playAll prettyJson i s.updates) i.withoutProps s.bindings =
          bindAll prettyJson (fun i => playAll prettyJson i s.updates) i s.bindings :=
        bindAll_withoutProps prettyJson (fun i => playAll_withoutProps prettyJson i s.updates) i s.bindings
      simp only [Except.map, withoutProps, summaryLine, played]

/-- The command that validates prints the same. -/
theorem validateScene_withoutProps (strict : Bool) :
    validateScene s.withoutProps filters strict = validateScene s filters strict := by
  have lines : validLines s.withoutProps = validLines s := by
    simp only [validLines, withoutProps, OrderedMap.size_mapValues]
  simp only [validateScene, validate_withoutProps, lines]
  rfl

/-- Whatever it is asked, a scene that has come alive gives the same answers. -/
theorem answers_withoutProps (requests : List Instance.Request) :
    (s.withoutProps.instantiate filters).map (·.answers requests) =
      (s.instantiate filters).map (·.answers requests) := by
  rw [instantiate_withoutProps]
  cases s.instantiate filters with
  | error e => rfl
  | ok i => exact congrArg Except.ok (i.answers_withoutProps requests)

end Scene

/-! ### Two scenes -/

/-- What two scenes have in common. -/
structure ScenesAlike (s s' : Scene) : Prop where
  creationOrder : Ownership.creationOrder s.views = Ownership.creationOrder s'.views
  report : ∀ filters, s.validate filters = s'.validate filters
  /-- Both come alive or fail with the same error, and whatever is rendered, bound and updated from then on
  has the same results and calls the same callbacks, in the same order. -/
  answers : ∀ filters requests, (s.instantiate filters).map (·.answers requests) =
    (s'.instantiate filters).map (·.answers requests)
  rendered : ∀ filters view template assignments,
    renderScene s filters view template assignments = renderScene s' filters view template assignments
  watched : ∀ filters prettyJson, watchScene s filters prettyJson = watchScene s' filters prettyJson
  validated : ∀ filters strict, validateScene s filters strict = validateScene s' filters strict

open Scene in
/-- Scenes that differ in properties only are alike. -/
theorem scenesAlike_of_withoutProps_eq {s s' : Scene} (same : s.withoutProps = s'.withoutProps) :
    ScenesAlike s s' where
  creationOrder := by rw [← creationOrder_withoutProps, same, creationOrder_withoutProps]
  report _ := by rw [← validate_withoutProps, same, validate_withoutProps]
  answers _ _ := by rw [← answers_withoutProps, same, answers_withoutProps]
  rendered _ _ _ _ := by rw [← renderScene_withoutProps, same, renderScene_withoutProps]
  watched _ _ := by rw [← watchScene_withoutProps, same, watchScene_withoutProps]
  validated _ _ := by rw [← validateScene_withoutProps, same, validateScene_withoutProps]

/-- Properties have no influence: scripts that differ in the properties they give lead to the same answers and
events, up to what is read of the properties, and scenes that differ in properties to the same in all else. -/
theorem props_without_influence :
    (∀ (room : Nat) (script script' : List Step),
      Script.withoutProps script = Script.withoutProps script' → SessionsAlike room script script') ∧
    ∀ s s' : Scene, s.withoutProps = s'.withoutProps → ScenesAlike s s' :=
  ⟨fun room _ _ same => session_alike room same, fun _ _ same => scenesAlike_of_withoutProps_eq same⟩

/-- A view with a property, whose callback makes another one when it is called again. -/
def modelled (model : Value) : List Step := [
  .newType "T" "T" (some .builtinInterpolation),
  .create "T" "v" none [("x", .bool true)] [("model", model)] none,
  .bind "v" "{{x}}" "cb" [⟨some 2, [.create "T" "made" none [] [("model", model)] (some "v")]⟩],
  .set (.ofView "v") "x" .null,
  .render "made" "{{model}}"]

/-- What reading the property of the view that the callback makes comes to. -/
def readModel (model : Value) : Outcome :=
  (performAt nestingLimit (.props "made" "model") (session nestingLimit (modelled model))).1

/-- Whether a property is read that is true. -/
def isTrueRead : Outcome → Bool
  | .ok (.props ⟨_, _, some (.bool true)⟩) => true
  | _ => false

/-- A scene of a view with a property, and a template that asks for it. -/
def modelledScene (model : Value) : Scene where
  name := "scene"
  description := none
  filters := none
  views := .ofList [("v", ⟨none, .ofList [("x", .bool true)], .ofList [("model", model)]⟩)]
  bindings := [⟨"v", "{{x}}"⟩, ⟨"v", "{{model}}"⟩]
  updates := [.set "v" "x" .null]

theorem props_without_influence_modelled :
    (Script.withoutProps (modelled .null) = Script.withoutProps (modelled (.bool true)) ∧
      isTrueRead (readModel (.bool true)) ∧ ¬ isTrueRead (readModel .null) ∧
      SessionsAlike nestingLimit (modelled .null) (modelled (.bool true))) ∧
    (modelledScene .null).withoutProps = (modelledScene (.bool true)).withoutProps ∧
      ScenesAlike (modelledScene .null) (modelledScene (.bool true)) :=
  ⟨⟨rfl, by decide +kernel, by decide +kernel, props_without_influence.1 nestingLimit _ _ rfl⟩, rfl,
    props_without_influence.2 _ _ rfl⟩

end LiveTemplate
