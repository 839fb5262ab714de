import LiveTemplate.Proofs.Run.Performing
import LiveTemplate.Proofs.World.Isolation

/-!
View types keep apart in the course of a run.  Installing a plugin and registering a filter work on one type,
or fail and leave everything as it was.  What a template is rendered to depends on the filters of the view's
type alone, as long as these do nothing but compute; a filter that performs steps can render other views, and
through them it can call the filters of other types.
-/

namespace LiveTemplate

/-! ### What is rendered -/

namespace World

/-- What filters make of a value, each looked up by its name. -/
def passThrough (lookup : String → Option (FilterCode Step)) (names : List String) (value : Value) : Value :=
  names.foldl (fun value name => (lookup name).elim value (·.transform.apply value)) value

/-- What a template is rendered to on a view, given the filters. -/
def rendered (w : World) (lookup : String → Option (FilterCode Step)) (v : ViewId) (t : Template) :
    Except ViewError (Option Value) := do
  let _ ← w.requireRegistry v
  let sources ← (w.resolveAll v t.identifiers).mapError .interpolate
  return t.compose (w.valueIn sources) (passThrough lookup)

/-- The filters of a template, as the view's type has them, do nothing but compute. -/
def QuietFor (w : World) (v : ViewId) (t : Template) : Prop :=
  ∀ p ∈ t.placeholders, ∀ name ∈ p.filters, ∀ code, w.filterOf? (w.view v).type name = some code →
    ∀ reaction ∈ code.reactions, reaction.steps = []

variable {w w' : World} {v : ViewId} {t : TypeId} {q : RegistryId}

/-- The filters of a registry are those of the type that has it. -/
theorem pass_eq_passThrough (found : (w.type t).registry = some q) :
    w.pass q = passThrough (w.filterOf? t) := by
  funext names value
  simp only [pass, passThrough, filterOf?, found, Option.bind_some]
  congr 1
  funext value name
  cases (w.registry q).find? name <;> rfl

theorem QuietFor.quietOn {template : Template} (quiet : w.QuietFor v template)
    (found : (w.typeOf v).registry = some q) : ∀ p ∈ template.placeholders, w.QuietOn q p.filters := by
  intro p mem name inFilters f isFound
  refine quiet p mem name inFilters _ ?_
  have found' : (w.type (w.view v).type).registry = some q := found
  simp only [filterOf?, found', Option.bind_some, isFound, Option.map_some]

theorem Apart.view_eq (apart : Apart w t w') : w'.view = w.view := by
  rw [apart.frame]
  rfl

/-- Working on a type leaves the filters of templates on views of other types as quiet as they were. -/
theorem QuietFor.apart {template : Template} (quiet : w.QuietFor v template) (apart : Apart w t w')
    (other : (w.view v).type ≠ t) : w'.QuietFor v template := by
  intro p mem name inFilters code found
  rw [apart.view_eq, apart.filterOf _ other] at found
  exact quiet p mem name inFilters code found

/-- Working on a type changes what is rendered only by the filters that are looked up. -/
theorem rendered_eq (apart : Apart w t w') (named : (w'.typeOf v).name = (w.typeOf v).name)
    (registry : (w'.typeOf v).registry = (w.typeOf v).registry) (lookup : String → Option (FilterCode Step))
    (template : Template) : w'.rendered lookup v template = w.rendered lookup v template := by
  obtain ⟨types, registries, filters, rfl⟩ : ∃ types registries filters,
      w' = { w with types := types, registries := registries, filters := filters } :=
    ⟨_, _, _, apart.frame⟩
  let w' : World := { w with types := types, registries := registries, filters := filters }
  have label : w'.label v = w.label v := by
    rw [World.label, named]
    rfl
  have required : w'.requireRegistry v = w.requireRegistry v := by
    rw [requireRegistry, label, named, registry]
    rfl
  have owner : w'.owner? = w.owner? := rfl
  have resolved : w'.resolveAll v template.identifiers = w.resolveAll v template.identifiers :=
    resolveAll_congr (fun x => resolve_congr owner (fun _ => rfl) (fun _ => rfl) x v) label _
  calc
    w'.rendered lookup v template = (do
      let _ ← w.requireRegistry v
      let sources ← (w.resolveAll v template.identifiers).mapError .interpolate
      return template.compose (w'.valueIn sources) (passThrough lookup)) := by
        rw [rendered, required, resolved]
    _ = w.rendered lookup v template := rfl

end World

variable {r : Run} {perform : Perform} {v : ViewId} {template : String}

/-- Where the filters of a template do nothing but compute, rendering comes to what they make of the values
that are found. -/
theorem interpolate_rendered (nothing : perform [] = pure ())
    (quiet : r.world.QuietFor v (Template.parse template)) :
    (interpolate perform v template r).1.map some =
      r.world.rendered (r.world.filterOf? (r.world.view v).type) v (Template.parse template) := by
  simp only [interpolate, renderWith, World.rendered, Act.run_bind, Act.run_world]
  cases required : r.world.requireRegistry v with
  | error e => rfl
  | ok q =>
      have found := World.registry_of_requireRegistry required
      simp only [Act.run_bind, Act.run_world]
      cases resolved : r.world.resolveAll v (Template.parse template).identifiers with
      | error cause => rfl
      | ok sources =>
          obtain ⟨value, evaluated, result, composed, _⟩ := evaluate_pinned
            (r := r.turn (r.world.pinContainers (sources.map Prod.snd))) nothing (quiet.quietOn found)
            (fun x mem => World.pins_of_resolveAll resolved mem) (r.world.label v)
          have same : (Template.parse template).compose (r.world.valueIn sources)
              (World.passThrough (r.world.filterOf? (r.world.view v).type)) = some value := by
            rw [← World.pass_eq_passThrough found]
            exact composed
          simp only [Act.run_bind, Act.run_change]
          rw [result]
          exact (congrArg Except.ok same).symm

private theorem eq_of_map_some_eq {ε α : Type} {x y : Except ε α} (same : x.map some = y.map some) :
    x = y := by
  cases x <;> cases y <;> simp_all [Except.map]

/-- What templates on views of other types are rendered to is the same. -/
theorem interpolate_apart {t : TypeId} {w' : World} (nothing : perform [] = pure ())
    (apart : r.world.Apart t w') (other : (r.world.view v).type ≠ t)
    (quiet : r.world.QuietFor v (Template.parse template)) :
    (interpolate perform v template (r.turn w')).1 = (interpolate perform v template r).1 := by
  have sameType : w'.typeOf v = r.world.typeOf v := by
    rw [World.typeOf, apart.view_eq]
    exact apart.types _ other
  have before := interpolate_rendered nothing quiet
  have after := interpolate_rendered (r := r.turn w') nothing (quiet.apart apart other)
  rw [Run.world_turn, apart.view_eq, apart.filterOf _ other,
    World.rendered_eq apart (by rw [sameType]) (by rw [sameType]), ← before] at after
  exact eq_of_map_some_eq after

/-- Templates on views of the type are rendered with the filter that was registered. -/
theorem interpolate_gains {t : TypeId} {w' : World} {name : String} {code : FilterCode Step}
    (nothing : perform [] = pure ()) (gains : r.world.Gains t name code w')
    (own : (r.world.view v).type = t) (quiet : w'.QuietFor v (Template.parse template)) :
    (interpolate perform v template (r.turn w')).1.map some = r.world.rendered
      (fun other => if other = name then some code else r.world.filterOf? t other) v
      (Template.parse template) := by
  subst own
  have rendered := interpolate_rendered (r := r.turn w') nothing quiet
  have lookup : w'.filterOf? (w'.view v).type = fun other =>
      if other = name then some code else r.world.filterOf? (r.world.view v).type other := by
    rw [gains.apart.view_eq]
    exact funext gains.filterOf
  rw [Run.world_turn, lookup, World.rendered_eq gains.apart] at rendered
  · exact rendered
  · rw [World.typeOf, gains.apart.view_eq]; exact gains.named
  · rw [World.typeOf, gains.apart.view_eq]; exact gains.registry

/-! ### Steps that work on a type -/

/-- The handle of the view type that a step works on, to install or to register something. -/
def Step.worksOn? : Step → Option String
  | .usePlugin type _ => some type
  | .registerFilter type _ _ => some type
  | _ => none

/-- The filter that a step registers on the type that it works on. -/
def Step.filter? : Step → Option (String × FilterCode Step)
  | .usePlugin _ (.foreign _ filter) => filter
  | .registerFilter _ name code => some (name, code)
  | _ => none

/-- A step that works on a type does so, or else nothing. -/
theorem performStep_worksOn (isolated : r.world.Isolated) (numbered : r.world.Numbered) {step : Step}
    {type : String} (worksOn : step.worksOn? = some type) :
    (∃ t w' answer, r.world.findType type = .ok t ∧ performStep perform step r = (.ok answer, r.turn w') ∧
        r.world.Apart t w' ∧ ∀ name code, step.filter? = some (name, code) → r.world.Gains t name code w') ∨
      ∃ fault, performStep perform step r = (.error fault, r) := by
  cases step with
  | registerFilter handle name code =>
      cases worksOn
      rcases alter_findType_run type (·.registerOn · name code) .done r with
        ⟨t, w', found, registered, run⟩ | failed
      · have gains := World.Gains.of_registerOn isolated numbered registered
        refine .inl ⟨t, w', _, found, run, gains.apart, ?_⟩
        rintro _ _ ⟨⟩
        exact gains
      · exact .inr failed
  | usePlugin handle plugin =>
      cases worksOn
      rcases alter_findType_run type (·.usePlugin · plugin) (.flag true) r with
        ⟨t, w', found, used, run⟩ | failed
      · refine .inl ⟨t, w', _, found, run, .of_usePlugin isolated numbered used, fun name code registers => ?_⟩
        match plugin, registers with
        | .foreign _ (some _), rfl => exact .of_usePlugin isolated numbered used
      · exact .inr failed
  | _ => cases worksOn

namespace Run

theorem Next.isolated {r r' : Run} (next : Next r r') (sound : r.world.Sound)
    (isolated : r.world.Isolated) : r'.world.Isolated ∧ World.Retypes r.world r'.world := by
  have retypes : World.Retypes r.world r'.world := by
    cases next with
    | move move =>
        cases move with
        | change change => exact change.retypes
        | entry => exact .same rfl
        | deed deed => exact deed.retypes
    | store => exact .same rfl
  exact ⟨isolated.retypes sound.numbered retypes, retypes⟩

theorem Reaches.isolated {r r' : Run} (reaches : Reaches r r') (sound : r.world.Sound)
    (isolated : r.world.Isolated) : r'.world.Isolated := by
  induction reaches with
  | refl => exact isolated
  | tail before next inductionHypothesis =>
      exact (next.isolated (Reaches.sound before sound) inductionHypothesis).1

/-- A type keeps its registry. -/
theorem Reaches.keepsRegistry {r r' : Run} (reaches : Reaches r r') (sound : r.world.Sound)
    (isolated : r.world.Isolated) {t : TypeId} {q : RegistryId}
    (found : (r.world.type t).registry = some q) : (r'.world.type t).registry = some q := by
  induction reaches with
  | refl => exact found
  | tail before next inductionHypothesis =>
      have isolatedBefore := Reaches.isolated before sound isolated
      exact isolatedBefore.keeps (next.isolated (Reaches.sound before sound) isolatedBefore).2
        inductionHypothesis

/-- How view types keep apart, seen from a run: what they are, and what becomes of them. -/
structure TypesApart (r : Run) (room : Nat) : Prop where
  /-- No plugin is installed twice on a type. -/
  once : ∀ t, (r.world.type t).plugins.Nodup
  /-- Types that share a registry are the same. -/
  apart : ∀ s t q, (r.world.type s).registry = some q → (r.world.type t).registry = some q → s = t
  /-- A type keeps its registry, wherever the run goes. -/
  kept : ∀ r', Reaches r r' → ∀ t q, (r.world.type t).registry = some q → (r'.world.type t).registry = some q
  /-- Installing and registering have no effect when they fail. -/
  refused : ∀ step type fault r', step.worksOn? = some type →
    performStep (performAll (performAt room)) step r = (.error fault, r') → r' = r
  /-- A type that was made for a plugin that is refused stays without plugins and filters. -/
  refusedNew : ∀ handle name plugin fault r',
    performStep (performAll (performAt room)) (.newType handle name plugin) r = (.error fault, r') →
      (∀ t, r'.world.type t = if t = r.world.types.size then ⟨name, [], none⟩ else r.world.type t) ∧
        r'.world.registries = r.world.registries ∧ r'.world.filters = r.world.filters
  /-- The other types and their views see nothing of what is installed or registered on a type; what they
  render is the same as long as their own filters do nothing but compute. -/
  others : ∀ step type answer r', step.worksOn? = some type →
    performStep (performAll (performAt room)) step r = (.ok answer, r') →
      ∃ t, r.world.findType type = .ok t ∧ ∀ s, s ≠ t → r'.world.type s = r.world.type s ∧
        r'.world.hasFilter s = r.world.hasFilter s ∧ r'.world.filterNames? s = r.world.filterNames? s ∧
        ∀ v template, (r.world.view v).type = s → r.world.QuietFor v (Template.parse template) →
          (interpolate (performAll (performAt room)) v template r').1 =
            (interpolate (performAll (performAt room)) v template r).1
  /-- The type has the filter that is registered on it, and all its views render with it. -/
  own : ∀ step type name code answer r', step.worksOn? = some type → step.filter? = some (name, code) →
    performStep (performAll (performAt room)) step r = (.ok answer, r') →
      ∃ t names, r.world.findType type = .ok t ∧
        (∀ other, r'.world.hasFilter t other = (other == name || r.world.hasFilter t other)) ∧
        r.world.filterNames? t = some names ∧
        r'.world.filterNames? t = some (if name ∈ names then names else names ++ [name]) ∧
        ∀ v template, (r.world.view v).type = t → r'.world.QuietFor v (Template.parse template) →
          (interpolate (performAll (performAt room)) v template r').1.map some = r.world.rendered
            (fun other => if other = name then some code else r.world.filterOf? t other) v
            (Template.parse template)

/-- A type that is made for a plugin and does not get it. -/
theorem newType_refused {handle name : String} {plugin : Option (Plugin Step)} {fault : Fault} {r' : Run}
    (refused : performStep perform (.newType handle name plugin) r = (.error fault, r')) :
    r' = r.turn ((r.world.addType name).2.modifyHandles fun h =>
      { h with types := h.types.insert handle r.world.types.size }) := by
  cases plugin with
  | none => cases refused
  | some plugin =>
      simp only [performStep, performNewType, Act.run_bind] at refused
      rcases alter_run _ _ with ⟨_, _, run⟩ | ⟨_, _, _, run⟩
      · exact congrArg Prod.snd (refused.symm.trans run)
      · cases refused.symm.trans run

end Run

/-- Wherever a run has come to, view types keep apart. -/
theorem types_isolated (reached : Run.Reaches .start r) (room : Nat) : r.TypesApart room := by
  have sound := reached.sound World.Sound.empty
  have isolated := Run.Reaches.isolated reached World.Sound.empty World.Isolated.empty
  have nothing : performAll (performAt room) [] = pure () := rfl
  refine ⟨isolated.plugins, isolated.apart, fun r' reaches t q =>
    Run.Reaches.keepsRegistry reaches sound isolated, ?_, ?_, ?_, ?_⟩
  · intro step type fault r' worksOn failed
    rcases performStep_worksOn isolated sound.numbered worksOn with ⟨_, _, _, _, run, _⟩ | ⟨_, run⟩
    · cases failed.symm.trans run
    · cases failed.symm.trans run
      rfl
  · intro handle name plugin fault r' refused
    rw [Run.newType_refused refused]
    exact ⟨World.type_addType r.world name, rfl, rfl⟩
  · intro step type answer r' worksOn done
    rcases performStep_worksOn isolated sound.numbered worksOn with
      ⟨t, w', _, found, run, apart, _⟩ | ⟨_, run⟩
    · cases done.symm.trans run
      refine ⟨t, found, fun s other => ⟨apart.types s other, ?_, apart.filterNames s other, ?_⟩⟩
      · funext name
        simp only [Run.world_turn, World.hasFilter_eq, apart.filterOf s other]
      · rintro v template rfl quiet
        exact interpolate_apart nothing apart other quiet
    · cases done.symm.trans run
  · intro step type name code answer r' worksOn registers done
    rcases performStep_worksOn isolated sound.numbered worksOn with
      ⟨t, w', _, found, run, _, gains⟩ | ⟨_, run⟩
    · cases done.symm.trans run
      have gains := gains name code registers
      obtain ⟨names, before, after⟩ := gains.filterNames
      refine ⟨t, names, found, fun other => ?_, before, after, ?_⟩
      · simp only [Run.world_turn, World.hasFilter_eq, gains.filterOf]
        by_cases same : other = name <;> simp [same]
      · rintro v template own quiet
        exact interpolate_gains nothing gains own quiet
    · cases done.symm.trans run

/-- Two types of which one has a view that is rendered with a filter. -/
def twoTypes : List Step := [
  .newType "A" "A" (some .plainInterpolation),
  .newType "B" "B" (some .builtinInterpolation),
  .registerFilter "B" "f" ⟨.wrap, []⟩,
  .create "A" "a" none [("x", .null)] [] none,
  .create "B" "b" none [("x", .null)] [] none]

theorem types_isolated_twoTypes :
    let r := session nestingLimit twoTypes
    let perform := performAll (performAt nestingLimit)
    r.TypesApart nestingLimit ∧ (r.world.view 1).type = 1 ∧ r.world.hasFilter 1 "f" ∧
      (performStep perform (.registerFilter "A" "f" ⟨.identity, []⟩) r).1.toOption.isSome ∧
      (performStep perform (.usePlugin "A" (.foreign "p" (some ("g", ⟨.identity, []⟩)))) r).1.toOption.isSome ∧
      (performStep perform (.usePlugin "B" .plainInterpolation) r).1.toOption.isNone :=
  ⟨types_isolated (session_reaches nestingLimit twoTypes) nestingLimit, by decide +kernel, by decide +kernel,
    by decide +kernel, by decide +kernel, by decide +kernel⟩

/-- A view of one type with a filter that renders a view of another type. -/
def rendersOther : List Step := [
  .newType "A" "A" (some .plainInterpolation),
  .newType "B" "B" (some .plainInterpolation),
  .registerFilter "B" "g" ⟨.identity, [⟨none, [.render "a" "{{x|f}}"]⟩]⟩,
  .create "A" "a" none [("x", .bool true)] [] none,
  .create "B" "b" none [("x", .bool true), ("y", .bool true)] [] none]

/-- A filter that sets a value of a view. -/
def setsOther : FilterCode Step :=
  ⟨.identity, [⟨none, [.set (.ofView "b") "y" .null]⟩]⟩

/-- It is not so that what the views of other types render is the same after a filter was registered. -/
theorem registration_seen_by_other_type :
    ¬ ∀ (script : List Step) (type name : String) (code : FilterCode Step) (t : TypeId) (v : ViewId)
        (template : String),
      let r := session nestingLimit script
      let r' := session nestingLimit (script ++ [.registerFilter type name code])
      let render := interpolate (performAll (performAt nestingLimit)) v template
      (r.world.findType type).toOption = some t → (r.world.view v).type ≠ t →
        (render r').1.toOption.map (·.toText) = (render r).1.toOption.map (·.toText) := by
  intro same
  have rendered := same rendersOther "A" "f" setsOther 0 1 "{{x|g}} {{y}}"
    (by decide +kernel) (by decide +kernel)
  revert rendered
  decide +kernel

end LiveTemplate
