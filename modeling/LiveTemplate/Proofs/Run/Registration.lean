import LiveTemplate.Proofs.Run.Performing
import LiveTemplate.Proofs.Template.Printing
import LiveTemplate.Proofs.World.Isolation

/-!
What can be registered as a filter.  A registry takes a filter under a text just if a placeholder can name it: if
the text, behind a bar, is read as this one filter.  The same texts can stand alone between the braces and are read
as identifiers.  Nothing else gets into a registry, so every name that is ever found in one can be referred to.
-/

namespace LiveTemplate

/-! ### Texts that are read as names -/

/-- A placeholder, and nothing else, is what its print is parsed to just if its names are names. -/
theorem Template.segments_eq_iff {text : String} {p : Placeholder} {padding : Nat → Padding}
    (printed : text.toList = printPlaceholder padding p) :
    (Template.parse text).segments = [.placeholder p] ↔ p.IsNamed := by
  constructor
  · intro segments
    exact (Template.parse_isNormal text).1.sound (.placeholder p) (segments ▸ List.mem_singleton_self _)
  · intro named
    have normal : IsNormal [.placeholder p] := ⟨List.forall_mem_singleton.mpr named, .singleton _⟩
    have isPrint : text = String.ofList (printSegments (fun _ => padding) [.placeholder p]) := by
      rw [← String.ofList_toList (s := text), printed]
      exact congrArg String.ofList (List.append_nil _).symm
    rw [isPrint]
    exact Template.parse_print normal fun _ => padding

/-- A text that is read as the only filter of a placeholder when it stands behind its bar. -/
def IsFilterText (text : String) : Prop :=
  (Template.parse ("\x7b\x7bx|" ++ text ++ "\x7d\x7d")).segments = [.placeholder ⟨"x", [text]⟩]

/-- A text that is read as the identifier of a placeholder when it stands between its braces. -/
def IsIdentifierText (text : String) : Prop :=
  ∃ filters, (Template.parse ("\x7b\x7b" ++ text ++ "\x7d\x7d")).segments = [.placeholder ⟨text, filters⟩]

variable {name text : String}

instance : Decidable (IsFilterText text) :=
  inferInstanceAs (Decidable (_ = _))

/-- A text names a filter if it is a name. -/
theorem isFilterText_iff : IsFilterText text ↔ isName text := by
  have printed : ("\x7b\x7bx|" ++ text ++ "\x7d\x7d").toList = printPlaceholder (fun _ => .none) ⟨"x", [text]⟩ := by
    simp [printPlaceholder, printFilters, printToken, Padding.none]
  have named : Placeholder.IsNamed ⟨"x", [text]⟩ ↔ isName text := by
    have identifier : isName "x" := by decide
    rw [Placeholder.IsNamed, List.forall_mem_singleton]
    exact and_iff_right identifier
  exact (Template.segments_eq_iff printed).trans named

/-- A text is an identifier if it is a name. -/
theorem isIdentifierText_iff : IsIdentifierText text ↔ isName text := by
  constructor
  · rintro ⟨filters, segments⟩
    have named : Placeholder.IsNamed ⟨text, filters⟩ := (Template.parse_isNormal _).1.sound
      (.placeholder ⟨text, filters⟩) (segments ▸ List.mem_singleton_self _)
    exact named.1
  · intro isName
    have printed : ("\x7b\x7b" ++ text ++ "\x7d\x7d").toList = printPlaceholder (fun _ => .none) ⟨text, []⟩ := by
      simp [printPlaceholder, printFilters, printToken, Padding.none]
    exact ⟨[], (Template.segments_eq_iff printed).mpr ⟨isName, fun _ mem => absurd mem List.not_mem_nil⟩⟩

/-! ### Registries -/

namespace Registry

variable {φ : Type} {r r' : Registry φ} {filter : φ}

/-- The registries that registering leads to, from the one without filters. -/
inductive Reachable : Registry φ → Prop
  | empty : Reachable .empty
  | register {r r' : Registry φ} {name : String} {filter : φ} (reached : Reachable r)
      (done : r.register? name filter = some r') : Reachable r'

/-- A filter is registered just under a name. -/
theorem isSome_register? : (r.register? name filter).isSome ↔ isName name := by
  simp [register?]

/-- Registering adds no name but the one that is registered, which is one. -/
theorem names_of_register? (done : r.register? name filter = some r') :
    isName name ∧ ∀ other ∈ r'.names, other = name ∨ other ∈ r.names := by
  simp only [register?, Option.ite_none_right_eq_some, Option.some.injEq] at done
  obtain ⟨isName, rfl⟩ := done
  refine ⟨isName, fun other mem => ?_⟩
  rw [names, OrderedMap.mem_keys_iff, OrderedMap.contains_eq, OrderedMap.find?_insert] at mem
  rw [names, OrderedMap.mem_keys_iff, OrderedMap.contains_eq]
  split at mem
  · next same => exact .inl same
  · exact .inr mem

/-- Every name in a registry is one. -/
theorem Reachable.isName (reached : r.Reachable) : ∀ other ∈ r.names, isName other := by
  induction reached with
  | empty => nofun
  | register _ done inductionHypothesis =>
      obtain ⟨isName, names⟩ := names_of_register? done
      intro other mem
      rcases names other mem with rfl | old
      · exact isName
      · exact inductionHypothesis other old

/-- The built-in filters are registered one after the other. -/
theorem Reachable.addBuiltins (reached : r.Reachable) (ofBuiltin : Builtin → φ) :
    (r.addBuiltins ofBuiltin).Reachable := by
  rw [Registry.addBuiltins]
  induction Builtin.all generalizing r with
  | nil => exact reached
  | cons filter rest inductionHypothesis =>
      rw [List.foldl_cons]
      apply inductionHypothesis
      cases done : r.register? filter.name (ofBuiltin filter) with
      | none => exact reached
      | some r' => exact reached.register done

end Registry

/-! ### Registries of a world -/

namespace World

variable {w w' : World} {q : RegistryId} {t : TypeId} {code : FilterCode Step}

/-- Every registry is one that registering leads to. -/
def Registered (w : World) : Prop :=
  ∀ q, (w.registry q).Reachable

/-- In the beginning there are no registries. -/
theorem Registered.empty : World.empty.Registered := fun _ => .empty

/-- It stays so where the registries stay. -/
theorem Registered.of_registries_eq (h : w.Registered) (registries : w'.registries = w.registries) :
    w'.Registered := by
  intro q
  rw [registry, registries]
  exact h q

/-- It stays so when a filter is registered. -/
theorem Registered.register? (h : w.Registered) (done : w.register? q name code = some w') : w'.Registered := by
  have inRegistry := done
  simp only [World.register?, Option.bind_eq_bind, Option.bind_eq_some_iff] at inRegistry
  obtain ⟨registry, registered, _⟩ := inRegistry
  have isRegistry : registry = ⟨(w.registry q).filters.insert name w.filters.size⟩ := by
    simp only [Registry.register?, Option.ite_none_right_eq_some, Option.some.injEq] at registered
    exact registered.2.symm
  intro p
  rw [registry_register? done]
  split
  · rw [← isRegistry]
    exact (h q).register registered
  · exact h p

theorem Registered.addRegistry (h : w.Registered) : w.addRegistry.2.Registered := by
  intro p
  rw [registry_addRegistry]
  split
  · exact .empty
  · exact h p

theorem Registered.registerBuiltins (h : w.Registered) (q : RegistryId) : (w.registerBuiltins q).Registered := by
  rw [World.registerBuiltins]
  induction Builtin.all generalizing w with
  | nil => exact h
  | cons filter rest inductionHypothesis =>
      rw [List.foldl_cons]
      apply inductionHypothesis
      cases done : w.register? q filter.name ⟨.builtin filter, []⟩ with
      | none => exact h
      | some w' => exact h.register? done

theorem Registered.registerOn (h : w.Registered) (done : w.registerOn t name code = .ok w') : w'.Registered := by
  obtain ⟨q, _, isRegistered⟩ := Equips.registerOn_eq done
  exact h.register? isRegistered

theorem Registered.modifyType (h : w.Registered) (t : TypeId) (change : ViewType → ViewType) :
    (w.modifyType t change).Registered :=
  h.of_registries_eq rfl

/-- It stays so when interpolation is installed. -/
theorem Registered.installInterpolation (h : w.Registered) (t : TypeId) (hasBuiltins : Bool) :
    (w.installInterpolation t hasBuiltins).Registered := by
  rw [World.installInterpolation]
  cases hasBuiltins with
  | false => exact h.addRegistry.modifyType t _
  | true => exact (h.addRegistry.registerBuiltins _).modifyType t _

/-- It stays so when a plugin is used, which may register a filter of its own. -/
theorem Registered.usePlugin (h : w.Registered) {plugin : Plugin Step} (done : w.usePlugin t plugin = .ok w') :
    w'.Registered := by
  obtain ⟨_, v, isRun, rfl⟩ := usePlugin_eq done
  apply Registered.modifyType
  cases plugin with
  | plainInterpolation => exact Except.ok.inj isRun ▸ h.installInterpolation t false
  | builtinInterpolation => exact Except.ok.inj isRun ▸ h.installInterpolation t true
  | foreign _ filter =>
      cases filter with
      | none => exact Except.ok.inj isRun ▸ h
      | some filter => exact h.registerOn isRun

/-- It stays so through every change. -/
theorem Registered.change (h : w.Registered) (change : Change w w') : w'.Registered := by
  cases change with
  | install done => exact h.usePlugin done
  | holdView handle => exact h.of_registries_eq (holdView_releases w handle _).choose_spec.registries
  | dropView handle => exact h.of_registries_eq (dropView_releases w handle).choose_spec.registries
  | unpinView => exact h.of_registries_eq (unpinView_releases w).choose_spec.registries
  | destroy v => exact h.of_registries_eq (destroy_releases w v).registries
  | release b => exact h.of_registries_eq (release_releases w b).registries
  | dropBinding handle => exact h.of_registries_eq (dropBinding_releases w handle).registries
  | bindOnView viewLabel bindable =>
      obtain ⟨_, _, frame, _⟩ := addBinding_spec _ _ viewLabel _ _ w bindable.made
      refine h.of_registries_eq ((recordBinding_releases _ _ _).registries.trans ?_)
      rw [World.unpinContainers, frame]
  | bindUnderHandle viewLabel bindable handle =>
      obtain ⟨_, _, frame, _⟩ := addBinding_spec _ _ viewLabel _ _ w bindable.made
      refine h.of_registries_eq ((holdBinding_releases _ handle _).registries.trans ?_)
      rw [World.unpinContainers, frame]
  | _ => exact h.of_registries_eq rfl

/-- It stays so through every deed. -/
theorem Registered.deed (h : w.Registered) {step : Step} {answer : Answer} (deed : Deed w step answer w') :
    w'.Registered := by
  cases deed with
  | subscribe done => obtain ⟨_, _, rfl⟩ := listen_eq done; exact h.of_registries_eq rfl
  | unsubscribe done => obtain ⟨_, _, _, rfl⟩ := unlisten_eq done; exact h.of_registries_eq rfl
  | registerFilter done => exact h.registerOn done
  | usePlugin done => exact h.usePlugin done

/-- A type with interpolation takes a filter just under a name. -/
theorem registerOn_of_registry (found : (w.type t).registry = some q) (name : String) (code : FilterCode Step) :
    (isName name ∧ ∃ w', w.registerOn t name code = .ok w') ∨
      ¬ isName name ∧ w.registerOn t name code = .error (.interpolate (.invalidFilterName name)) := by
  by_cases named : isName name
  · simp [registerOn, found, World.register?, Registry.register?, named]
  · simp [registerOn, found, World.register?, Registry.register?, named]

end World

/-! ### Registering in the course of a run -/

namespace Run

variable {r r' : Run}

/-- It stays so through every move. -/
theorem Next.registered (next : Next r r') (before : r.world.Registered) : r'.world.Registered := by
  cases next with
  | move move =>
      cases move with
      | change change => exact before.change change
      | entry => exact before
      | deed deed => exact before.deed deed
  | store c key value => exact before.of_registries_eq rfl

/-- It stays so in the course of a run. -/
theorem Reaches.registered (reaches : Reaches r r') (before : r.world.Registered) : r'.world.Registered := by
  induction reaches with
  | refl => exact before
  | tail _ next inductionHypothesis => exact next.registered inductionHypothesis

/-- What registering a filter under a text comes to, on a view type with interpolation. -/
structure RegistersTexts (r : Run) (room : Nat) (type text : String) (code : FilterCode Step) : Prop where
  /-- It succeeds just if the text is read as a filter. -/
  succeeds : (∃ r', performStep (performAll (performAt room)) (.registerFilter type text code) r = (.ok .done, r')) ↔
    IsFilterText text
  /-- Otherwise the text is refused as a name, and nothing has changed. -/
  refused : ¬ IsFilterText text →
    performStep (performAll (performAt room)) (.registerFilter type text code) r =
      (.error (.view (.interpolate (.invalidFilterName text))), r)

/-- A type with interpolation takes a filter under a text that is read as one, and refuses any other text. -/
theorem registersTexts {room : Nat} {type : String} {t : TypeId} {q : RegistryId}
    (found : r.world.findType type = .ok t) (installed : (r.world.type t).registry = some q) (text : String)
    (code : FilterCode Step) : r.RegistersTexts room type text code := by
  rcases World.registerOn_of_registry installed text code with ⟨named, w', done⟩ | ⟨notNamed, failed⟩
  · have isText := isFilterText_iff.mpr named
    have performed : performStep (performAll (performAt room)) (.registerFilter type text code) r =
        (.ok .done, r.turn w') := by
      change alter _ r = _
      simp only [alter, Act.run_bind, Act.run_world, found]
      simp only [bind, Except.bind, done]
      rfl
    exact ⟨iff_of_true ⟨_, performed⟩ isText, fun notText => absurd isText notText⟩
  · have notText : ¬ IsFilterText text := fun isText => notNamed (isFilterText_iff.mp isText)
    have performed : performStep (performAll (performAt room)) (.registerFilter type text code) r =
        (.error (.view (.interpolate (.invalidFilterName text))), r) := by
      change alter _ r = _
      simp only [alter, Act.run_bind, Act.run_world, found]
      simp only [bind, Except.bind, failed]
      rfl
    refine ⟨iff_of_false ?_ notText, fun _ => performed⟩
    rintro ⟨r', succeeded⟩
    cases succeeded.symm.trans performed

end Run

/-! ### What can be registered -/

/-- What can be registered is what can be referred to.  A text is read as a filter just if it is read as an
identifier; it can be registered in a registry, and on a view type in the course of a run, just if it is so read;
and there is no other name in a registry. -/
theorem registrable_iff_referable {φ : Type} {registry : Registry φ} (registered : registry.Reachable) {r : Run}
    (reached : Run.Reaches .start r) :
    (∀ text, IsFilterText text ↔ IsIdentifierText text) ∧
      (∀ text filter, (registry.register? text filter).isSome ↔ IsFilterText text) ∧
      (∀ name ∈ registry.names, IsFilterText name) ∧
      (∀ room type t q, r.world.findType type = .ok t → (r.world.type t).registry = some q →
        ∀ text code, r.RegistersTexts room type text code) ∧
      ∀ q, ∀ name ∈ (r.world.registry q).names, IsFilterText name := by
  have allRegistered := reached.registered World.Registered.empty
  refine ⟨fun text => ?_, fun text filter => ?_, fun name mem => ?_, ?_, fun q name mem => ?_⟩
  · exact isFilterText_iff.trans isIdentifierText_iff.symm
  · exact Registry.isSome_register?.trans isFilterText_iff.symm
  · exact isFilterText_iff.mpr (registered.isName name mem)
  · intro room type t q found installed text code
    exact Run.registersTexts found installed text code
  · exact isFilterText_iff.mpr ((allRegistered q).isName name mem)

/-- A type with the filters that come with interpolation, and one more. -/
def oneMoreFilter : List Step := [
  .newType "A" "A" (some .builtinInterpolation),
  .registerFilter "A" "f" ⟨.wrap, []⟩]

theorem registrable_iff_referable_oneMoreFilter :
    let r := session nestingLimit oneMoreFilter
    (Registry.empty.addBuiltins id).names.length = Builtin.all.length ∧ r.world.hasFilter 0 "f" ∧
      IsIdentifierText "_f1" ∧ ¬ IsFilterText "f|g" ∧ ¬ IsFilterText " f" ∧ ¬ IsFilterText "f\n" ∧
      ¬ IsFilterText "f\x7d\x7d\x7b\x7bx|f" ∧
      (performStep (performAll (performAt nestingLimit)) (.registerFilter "A" "f|g" ⟨.wrap, []⟩) r).1.toOption =
        none := by
  intro r
  have referable := registrable_iff_referable (Registry.Reachable.empty.addBuiltins id)
    (session_reaches nestingLimit oneMoreFilter)
  refine ⟨by decide +kernel, by decide +kernel, ?_, by decide +kernel, by decide +kernel, by decide +kernel,
    by decide +kernel, ?_⟩
  · exact (referable.1 "_f1").mp (by decide +kernel)
  · have texts := referable.2.2.2.1 nestingLimit "A" 0 0 (by decide +kernel) (by decide +kernel) "f|g" ⟨.wrap, []⟩
    rw [texts.refused (by decide +kernel)]
    rfl

end LiveTemplate
