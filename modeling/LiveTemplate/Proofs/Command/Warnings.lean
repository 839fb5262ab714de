import LiveTemplate.Proofs.Command.Validate
import LiveTemplate.Proofs.Run.Callbacks
import LiveTemplate.Proofs.Run.Unregistered
import LiveTemplate.Proofs.Scene.Standing

/-!
The warnings about filters.  Validation only reads the templates of a scene, and asks its own instance which filters
there are.  Watching evaluates the templates: each once when it is bound, and again whenever an update sets one of
its sources.  The registry stays the same from the beginning to the end, and every evaluation takes its turn through
all filters of its template; so what validation warns of is just what some evaluation meets.
-/

namespace LiveTemplate

namespace Scene

/-! ### How watching goes on -/

variable (s : Scene) (filters : FilterSet)

/-- The templates at the front, so many, have been bound. -/
inductive HasBound : Nat → Instance → Prop
  | start {i : Instance} (instantiated : s.instantiate filters = .ok i) : HasBound 0 i
  | next {n : Nat} {i i' : Instance} {b : BindingSpec} {value : Value} {calls : List Call} (before : HasBound n i)
      (isNext : s.bindings[n]? = some b)
      (done : i.run (Instance.bind b (bindingLabel b)) = (.ok value, calls, i')) : HasBound (n + 1) i'

/-- All templates have been bound, and the updates at the front, so many, have been played. -/
inductive HasPlayed : Nat → Instance → Prop
  | start {i : Instance} (bound : s.HasBound filters s.bindings.length i) : HasPlayed 0 i
  | next {k : Nat} {i i' : Instance} {u : Update} {calls : List Call} (before : HasPlayed k i)
      (isNext : s.updates[k]? = some u) (done : i.run (Instance.apply u) = (.ok (), calls, i')) :
      HasPlayed (k + 1) i'

/-- The evaluations of the bound templates, each with the number of the template, in the course of watching. -/
inductive Evaluates : Nat → Scope → Template → Run → Prop
  /-- When its turn to be bound has come, a template is evaluated with the sources that are found. -/
  | first {n : Nat} {i : Instance} {b : BindingSpec} {v : ViewId} {q : RegistryId} {sources : Sources}
      (bound : s.HasBound filters n i) (isNext : s.bindings[n]? = some b)
      (found : i.world.handles.views.find? b.view = some v) (required : i.world.requireRegistry v = .ok q)
      (resolved : i.world.resolveAll v (Template.parse b.template).identifiers = .ok sources) :
      Evaluates n ⟨q, sources, i.world.label v⟩ (Template.parse b.template)
        ⟨i.world.pinContainers (sources.map Prod.snd), #[]⟩
  /-- While an update is played, its binding is evaluated again whenever the journal says so. -/
  | again {n k j : Nat} {i : Instance} {u : Update} {r : Run} {w : World} (played : s.HasPlayed filters k i)
      (isNext : s.updates[k]? = some u) (applied : (Instance.apply u ⟨i.world, #[]⟩).2 = r)
      (noted : r.journal[j]? = some ⟨.refreshed n, w⟩) :
      Evaluates n (w.binding n).scope (w.binding n).template (r.cut (j + 1) w)

/-- Watching ever passes a value of a bound template over a filter that is not registered. -/
def MissesFilter (n : Nat) (name : String) : Prop :=
  ∃ scope t r, s.Evaluates filters n scope t r ∧ EvaluationPassesOver Instance.perform scope t r name

variable {s filters} {n k : Nat} {i i₀ : Instance} {b : BindingSpec}

/-- Binding the templates of a scene goes on from where so many have been bound. -/
theorem HasBound.bindAll_eq (prettyJson : Bool) (next : Instance → Transcript) (bound : s.HasBound filters n i) :
    ∃ i₀ lines, s.instantiate filters = .ok i₀ ∧ bindAll prettyJson next i₀ s.bindings =
      (bindAll prettyJson next i (s.bindings.drop n)).after lines := by
  induction bound with
  | start instantiated => exact ⟨_, [], instantiated, rfl⟩
  | @next n i i' b value calls _ isNext done inductionHypothesis =>
      obtain ⟨i₀, lines, instantiated, goesOn⟩ := inductionHypothesis
      obtain ⟨inside, isBinding⟩ := List.getElem?_eq_some_iff.mp isNext
      refine ⟨i₀, lines ++ calls.map (callLine prettyJson), instantiated, ?_⟩
      rw [goesOn, List.drop_eq_getElem_cons inside, isBinding, bindAll, done]
      simp only [Transcript.after, List.append_assoc]

/-- Watching a scene goes on from where so many updates have been played. -/
theorem HasPlayed.bindAll_eq (prettyJson : Bool) (played : s.HasPlayed filters k i) :
    ∃ i₀ lines, s.instantiate filters = .ok i₀ ∧
      bindAll prettyJson (fun i => playAll prettyJson i s.updates) i₀ s.bindings =
        (playAll prettyJson i (s.updates.drop k)).after lines := by
  induction played with
  | start bound =>
      obtain ⟨i₀, lines, instantiated, goesOn⟩ :=
        bound.bindAll_eq prettyJson fun i => playAll prettyJson i s.updates
      rw [List.drop_length] at goesOn
      exact ⟨i₀, lines, instantiated, goesOn⟩
  | @next k i i' u calls _ isNext done inductionHypothesis =>
      obtain ⟨i₀, lines, instantiated, goesOn⟩ := inductionHypothesis
      obtain ⟨inside, isUpdate⟩ := List.getElem?_eq_some_iff.mp isNext
      refine ⟨i₀, lines ++ updateLine u :: calls.map (callLine prettyJson), instantiated, ?_⟩
      rw [goesOn, List.drop_eq_getElem_cons inside, isUpdate, playAll, done]
      simp only [Transcript.after, List.append_assoc]

/-! ### The registry stays the same -/

/-- The type of an instance has the registry that its views are bound with. -/
theorem registry_of_instantiate (instantiated : s.instantiate filters = .ok i) (works : s.Works) :
    (i.world.type i.type).registry = some 0 := by
  obtain ⟨order, ordered⟩ := works.ordered
  obtain ⟨w, placed, isInstance⟩ := instantiate_placed filters ordered
  cases instantiated.symm.trans isInstance
  exact placed.typed

/-- What an instance has filters for is what is found in its registry. -/
theorem hasFilter_eq (instantiated : s.instantiate filters = .ok i) (works : s.Works) (name : String) :
    i.hasFilter name = ((i.world.registry 0).find? name).isSome := by
  rw [Instance.hasFilter, World.hasFilter, registry_of_instantiate instantiated works, Option.any_some,
    Registry.has, OrderedMap.contains_eq]
  rfl

/-- A scene that works is being played when so many templates have been bound, and has the registries that it came
alive with. -/
theorem HasBound.plays (works : s.Works) (instantiated : s.instantiate filters = .ok i₀)
    (bound : s.HasBound filters n i) :
    s.Plays filters 0 s.declared [] (s.bindings.take n) i.world ∧ i.world.registries = i₀.world.registries := by
  induction bound with
  | start isInstance =>
      cases instantiated.symm.trans isInstance
      obtain ⟨order, ordered⟩ := works.ordered
      obtain ⟨_, isOther, plays⟩ := instantiate_ok filters ordered
      cases instantiated.symm.trans isOther
      exact ⟨plays, rfl⟩
  | @next n i i' b value calls _ isNext done inductionHypothesis =>
      obtain ⟨plays, same⟩ := inductionHypothesis
      have resolves := works.bound b (List.mem_of_getElem? isNext)
      have kept := plays.registries_run_bind resolves (bindingLabel b)
      obtain ⟨_, w', isRun, _, plays'⟩ := plays.run_bind resolves
      rw [done] at isRun kept
      cases isRun
      rw [List.take_add_one, isNext]
      exact ⟨plays', kept.trans same⟩

/-- Storing a value in a view, with all that comes of it. -/
theorem Plays.apply_set {q : RegistryId} {h : Holdings} {destroyed : List String} {bound : List BindingSpec}
    (plays : s.Plays filters q h destroyed bound i.world) (view : String) {v : ViewId}
    (found : i.world.handles.views.find? view = some v) (key : String) (value : Value) :
    Instance.apply (.set view key value) ⟨i.world, #[]⟩ =
      (.ok (), (setValue Instance.perform v key value ⟨i.world, #[]⟩).2) := by
  have state := plays.cast.state v (plays.cast.made view v found)
  simp only [Instance.apply, Instance.store, Instance.onView, Act.run_bind, Act.run_world, found, state]
  rfl

/-- Destroying a view, and nothing else. -/
theorem apply_destroy (view : String) {v : ViewId} (found : i.world.handles.views.find? view = some v) :
    Instance.apply (.destroy view) ⟨i.world, #[]⟩ = (.ok (), ⟨i.world.destroy v, #[]⟩) := by
  simp only [Instance.apply, Instance.onView, Act.run_bind, Act.run_world, found]
  rfl

/-- An update leaves the registries as they are. -/
theorem Plays.registries_run_apply {q : RegistryId} {h : Holdings} {destroyed : List String}
    {bound : List BindingSpec} (plays : s.Plays filters q h destroyed bound i.world) {u : Update}
    (declared : s.views.contains u.view) :
    (i.run (Instance.apply u)).2.2.world.registries = i.world.registries := by
  obtain ⟨v, found⟩ := Option.isSome_iff_exists.mp ((plays.cast.found u.view).trans declared)
  cases u with
  | set view key value =>
      rw [Instance.run_of_eq (plays.apply_set view found key value)]
      exact (Instance.setValue_stands v key value _).world.same.2.1
  | destroy view =>
      rw [Instance.run_of_eq (apply_destroy view found)]
      exact (World.destroy_releases i.world v).registries

/-- So it is when so many updates have been played. -/
theorem HasPlayed.plays (works : s.Works) (instantiated : s.instantiate filters = .ok i₀)
    (played : s.HasPlayed filters k i) :
    (∃ h destroyed, s.Plays filters 0 h destroyed s.bindings i.world) ∧
      i.world.registries = i₀.world.registries := by
  induction played with
  | start bound =>
      obtain ⟨plays, same⟩ := bound.plays works instantiated
      rw [List.take_length] at plays
      exact ⟨⟨_, _, plays⟩, same⟩
  | @next k i i' u calls _ isNext done inductionHypothesis =>
      obtain ⟨⟨h, destroyed, plays⟩, same⟩ := inductionHypothesis
      have declared := works.updated u (List.mem_of_getElem? isNext)
      have kept := plays.registries_run_apply declared
      rw [done] at kept
      refine ⟨?_, kept.trans same⟩
      cases u with
      | set view key value =>
          obtain ⟨w', _, isRun, plays', _⟩ := plays.run_set declared key value
          cases done.symm.trans isRun
          exact ⟨_, _, plays'⟩
      | destroy view =>
          obtain ⟨w', isRun, plays'⟩ := plays.run_destroy declared
          cases done.symm.trans isRun
          exact ⟨_, _, plays'⟩

/-- Where a binding is evaluated again, it is active and the scene is being played. -/
theorem Plays.at_refreshed {q : RegistryId} {h : Holdings} {destroyed : List String} {bound : List BindingSpec}
    (plays : s.Plays filters q h destroyed bound i.world) {u : Update} (declared : s.views.contains u.view)
    {j : Nat} {w : World}
    (noted : (Instance.apply u ⟨i.world, #[]⟩).2.journal[j]? = some ⟨.refreshed n, w⟩) :
    (∃ h', s.Plays filters q h' destroyed bound w) ∧ (w.binding n).isActive ∧
      w.registries = i.world.registries := by
  obtain ⟨v, found⟩ := Option.isSome_iff_exists.mp ((plays.cast.found u.view).trans declared)
  cases u with
  | destroy view =>
      rw [apply_destroy view found] at noted
      cases noted
  | set view key value =>
      rw [plays.apply_set view found key value] at noted
      obtain ⟨_, added, longer, each⟩ := Instance.setValue_stands v key value ⟨i.world, #[]⟩
      have mem := List.mem_of_getElem? (Array.getElem?_toList.trans noted)
      rw [longer] at mem
      rcases List.mem_append.mp mem with first | told
      · -- the first entry is that of the value that was stored
        cases List.mem_singleton.mp first
      · obtain ⟨idles, active⟩ := each _ told
        exact ⟨⟨_, (plays.store found key value).idles idles⟩, active n rfl, idles.same.2.1⟩

/-! ### What evaluations meet -/

/-- An evaluation of a bound template meets the filters of this template that the scene has not. -/
theorem Evaluates.passesOver_iff (works : s.Works) (instantiated : s.instantiate filters = .ok i₀) {scope : Scope}
    {t : Template} {r : Run} (evaluates : s.Evaluates filters n scope t r) :
    ∃ b, s.bindings[n]? = some b ∧ ∀ name, EvaluationPassesOver Instance.perform scope t r name ↔
      name ∈ (Template.parse b.template).filterNames ∧ i₀.hasFilter name = false := by
  have missing_iff : ∀ (w : World), w.registries = i₀.world.registries → ∀ name,
      (w.registry 0).find? name = none ↔ i₀.hasFilter name = false := by
    intro w same name
    have registry : w.registry 0 = i₀.world.registry 0 := by rw [World.registry, same]; rfl
    rw [hasFilter_eq instantiated works, registry, Option.isSome_eq_false_iff, Option.isNone_iff_eq_none]
  have nothing : Instance.perform [] = pure () := rfl
  cases evaluates with
  | @first i b v q sources bound isNext found required resolved =>
      obtain ⟨plays, same⟩ := bound.plays works instantiated
      cases required.symm.trans (plays.requireRegistry found rfl)
      refine ⟨b, isNext, fun name => ?_⟩
      have idles : World.Idles i.world (i.world.pinContainers (sources.map Prod.snd)) := .pinContainers _ _
      have computes := (idles.sound plays.sound).computes (idles.quiet plays.cast.quiet)
      rw [evaluationPassesOver_iff nothing (computes.quietOn 0 _)
        fun x mem => (World.pins_of_resolveAll resolved mem).isSome_read?]
      exact and_congr_right fun _ => missing_iff _ same name
  | @again k j i u r w played isNext applied noted =>
      obtain ⟨⟨h, destroyed, plays⟩, same⟩ := played.plays works instantiated
      cases applied
      obtain ⟨⟨h', plays'⟩, active, same'⟩ :=
        plays.at_refreshed (works.updated u (List.mem_of_getElem? isNext)) noted
      have inside : n < s.bindings.length := plays'.count ▸ World.lt_size_of_isActive w active
      have isBound : s.bindings[n]? = some s.bindings[n] := List.getElem?_eq_getElem inside
      have carried := plays'.carried n _ isBound
      refine ⟨_, isBound, fun name => ?_⟩
      have computes := plays'.sound.computes plays'.cast.quiet
      have readable := fun x mem => (plays'.sound.subscribed.read?_eq active (x := x) mem)
      rw [carried.template] at readable ⊢
      rw [evaluationPassesOver_iff nothing (computes.quietOn (w.binding n).registry _)
        fun x mem => (readable x mem).1 ▸ (readable x mem).2]
      rw [show (w.binding n).scope.registry = 0 from carried.registry]
      exact and_congr_right fun _ => missing_iff _ (same'.trans same) name

/-- Every bound template of a scene that works is evaluated when its turn has come. -/
theorem Works.evaluates (works : s.Works) (filters : FilterSet) (isBinding : s.bindings[n]? = some b) :
    ∃ scope t r, s.Evaluates filters n scope t r := by
  obtain ⟨order, ordered⟩ := works.ordered
  obtain ⟨i₀, instantiated, _⟩ := instantiate_ok filters ordered
  have reaches : ∀ n ≤ s.bindings.length, ∃ i, s.HasBound filters n i := by
    intro n inside
    induction n with
    | zero => exact ⟨i₀, .start instantiated⟩
    | succ n inductionHypothesis =>
        obtain ⟨i, bound⟩ := inductionHypothesis (Nat.le_of_succ_le inside)
        have isNext : s.bindings[n]? = some s.bindings[n] := List.getElem?_eq_getElem inside
        obtain ⟨plays, _⟩ := bound.plays works instantiated
        obtain ⟨value, w', isRun, _⟩ := plays.run_bind (works.bound _ (List.mem_of_getElem? isNext))
        exact ⟨_, .next bound isNext isRun⟩
  obtain ⟨i, bound⟩ := reaches n (Nat.le_of_lt (List.getElem?_eq_some_iff.mp isBinding).1)
  obtain ⟨plays, _⟩ := bound.plays works instantiated
  obtain ⟨v, sources, found, resolved⟩ := plays.resolves_iff.mp (works.bound b (List.mem_of_getElem? isBinding))
  exact ⟨_, _, _, .first bound isBinding found (plays.requireRegistry found rfl) resolved⟩

/-- Watching meets the filters that a bound template names and the scene has not. -/
theorem missesFilter_iff (works : s.Works) (instantiated : s.instantiate filters = .ok i₀) (name : String) :
    s.MissesFilter filters n name ↔ ∃ b, s.bindings[n]? = some b ∧
      name ∈ (Template.parse b.template).filterNames ∧ i₀.hasFilter name = false := by
  constructor
  · rintro ⟨scope, t, r, evaluates, passes⟩
    obtain ⟨b, isBinding, meets⟩ := evaluates.passesOver_iff works instantiated
    exact ⟨b, isBinding, (meets name).mp passes⟩
  · rintro ⟨b, isBinding, missing⟩
    obtain ⟨scope, t, r, evaluates⟩ := works.evaluates filters isBinding
    obtain ⟨_, isSame, meets⟩ := evaluates.passesOver_iff works instantiated
    cases isBinding.symm.trans isSame
    exact ⟨scope, t, r, evaluates, (meets name).mpr missing⟩

/-! ### Warnings -/

/-- The warning about a bound template without placeholders. -/
def blankWarning (b : BindingSpec) : List String :=
  if (Template.parse b.template).hasPlaceholders then []
  else [s!"Template '{b.template}' on view '{b.view}' has no placeholders"]

/-- The warning about a filter that a bound template names and that is not registered. -/
def filterWarning (b : BindingSpec) (name : String) : String :=
  s!"Template '{b.template}' uses unregistered filter '{name}'"

/-- Validation without errors asks an instance of the scene about each of the templates. -/
theorem warnings_eq {report : Report} (validated : s.validate filters = .ok report) (noErrors : report.errors = []) :
    ∃ i₀, s.instantiate filters = .ok i₀ ∧
      report.warnings = s.bindings.flatMap (templateWarnings i₀) ++ s.unusedWarnings := by
  simp only [validate] at validated
  split at validated
  · obtain ⟨i₀, instantiated, isReport⟩ := World.exists_of_bind_eq_ok validated
    cases isReport
    exact ⟨i₀, instantiated, rfl⟩
  · next hasErrors =>
    cases validated
    rw [show s.ownershipErrors ++ s.referenceErrors = [] from noErrors] at hasErrors
    exact absurd rfl hasErrors

end Scene

/-- The warnings about filters that are not registered are exact.  If validation finds no errors in a scene, it
warns, template by template, of each filter over which watching the scene with the same filters ever passes a value
of this template, once, and of no other. -/
theorem filterWarnings_exact (s : Scene) (filters : FilterSet) {report : Report}
    (validated : s.validate filters = .ok report) (noErrors : report.errors = []) :
    ∃ missed : Nat → List String,
      report.warnings = (s.bindings.zipIdx.flatMap fun (b, n) =>
        Scene.blankWarning b ++ (missed n).map (Scene.filterWarning b)) ++ s.unusedWarnings ∧
      ∀ n, (missed n).Nodup ∧ ∀ name, name ∈ missed n ↔ s.MissesFilter filters n name := by
  obtain ⟨_, isReport, errors⟩ := s.validate_spec filters
  cases validated.symm.trans isReport
  have works : s.Works := errors.mp noErrors
  obtain ⟨i₀, instantiated, warnings⟩ := Scene.warnings_eq validated noErrors
  let missed (n : Nat) : List String :=
    ((s.bindings[n]?.map fun b => (Template.parse b.template).filterNames).getD []).filter (!i₀.hasFilter ·)
  refine ⟨missed, ?_, fun n => ⟨?_, fun name => ?_⟩⟩
  · rw [warnings]
    congr 1
    have each : ∀ x ∈ s.bindings.zipIdx, Scene.templateWarnings i₀ x.1 =
        Scene.blankWarning x.1 ++ (missed x.2).map (Scene.filterWarning x.1) := by
      intro x mem
      have isBinding : s.bindings[x.2]? = some x.1 := List.mem_zipIdx_iff_getElem?.mp mem
      simp only [missed, isBinding]
      rfl
    calc s.bindings.flatMap (Scene.templateWarnings i₀)
        = (s.bindings.zipIdx.map Prod.fst).flatMap (Scene.templateWarnings i₀) := by rw [List.zipIdx_map_fst]
      _ = s.bindings.zipIdx.flatMap fun x => Scene.templateWarnings i₀ x.1 := List.flatMap_map ..
      _ = _ := List.flatMap_congr each
  · apply List.Nodup.filter
    cases s.bindings[n]? with
    | none => exact List.nodup_nil
    | some b => exact Template.nodup_filterNames _
  · rw [Scene.missesFilter_iff works instantiated, List.mem_filter, Bool.not_eq_true']
    cases s.bindings[n]? with
    | none => simp
    | some b => simp

/-- A scene with a filter that is not registered, named by two of its templates, and twice by one of them. -/
def shoutingScene : Scene where
  name := "shouting"
  description := none
  filters := none
  views := .ofList [("app", ⟨none, .ofList [("title", .string "a")], .ofList []⟩)]
  bindings := [⟨"app", "{{title|shout|upper|shout}}"⟩, ⟨"app", "plain"⟩, ⟨"app", "<{{title|shout}}>"⟩]
  updates := [.set "app" "title" (.string "b"), .destroy "app"]

theorem filterWarnings_exact_shoutingScene :
    ∃ report, shoutingScene.validate .builtin = .ok report ∧ report.errors = [] ∧
      report.warnings = [
        "Template '{{title|shout|upper|shout}}' uses unregistered filter 'shout'",
        "Template 'plain' on view 'app' has no placeholders",
        "Template '<{{title|shout}}>' uses unregistered filter 'shout'"] ∧
      ∃ missed : Nat → List String,
        report.warnings = (shoutingScene.bindings.zipIdx.flatMap fun (b, n) =>
          Scene.blankWarning b ++ (missed n).map (Scene.filterWarning b)) ++ shoutingScene.unusedWarnings ∧
        ∀ n, (missed n).Nodup ∧ ∀ name, name ∈ missed n ↔ shoutingScene.MissesFilter .builtin n name := by
  obtain ⟨report, validated, _⟩ := shoutingScene.validate_spec .builtin
  have isReport : (shoutingScene.validate .builtin).toOption.map (fun r => (r.errors.length, r.warnings)) = some (0, [
      "Template '{{title|shout|upper|shout}}' uses unregistered filter 'shout'",
      "Template 'plain' on view 'app' has no placeholders",
      "Template '<{{title|shout}}>' uses unregistered filter 'shout'"]) := by decide +kernel
  rw [validated] at isReport
  obtain ⟨count, warnings⟩ := Prod.mk.inj (Option.some.inj isReport)
  have noErrors := List.eq_nil_of_length_eq_zero count
  exact ⟨report, validated, noErrors, warnings, filterWarnings_exact shoutingScene .builtin validated noErrors⟩

end LiveTemplate
