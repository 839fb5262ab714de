import LiveTemplate.Proofs.Run.Isolation
import LiveTemplate.Proofs.Run.Refusals
import LiveTemplate.Proofs.Template.Printing

/-!
What templates mean.  On a view that finds all identifiers of a template, and with filters that do nothing but
compute, a template that is one placeholder between blanks comes to what its filters make of the value that is
found.  Any other template comes to a text: its literals as they stand, and for each placeholder the text of the
value that this placeholder comes to as a template of its own.
-/

namespace LiveTemplate

/-! ### Compositions -/

namespace Template

variable {read : String → Option Value} {pass : List String → Value → Value}

/-- A placeholder between blanks is composed to what its filters make of its value. -/
theorem compose_of_isPlaceholder {text : String} {p : Placeholder}
    (isPlaceholder : IsPlaceholder p (Text.trimChars text.toList)) :
    (parse text).compose read pass = (read p.identifier).map (pass p.filters) := by
  have bare : (parse text).isBare = true := isBareText_iff.mpr ⟨p, isPlaceholder⟩
  have only := (isPlaceholder_trim_iff.mp isPlaceholder).1
  simp only [compose, bare, only]

/-- Any other text is composed segment by segment. -/
theorem compose_of_forall_not {text : String} (mixed : ∀ p, ¬ IsPlaceholder p (Text.trimChars text.toList)) :
    (parse text).compose read pass = (composeSegments read pass (parse text).segments).map .string := by
  have notBare : (parse text).isBare = false :=
    Bool.eq_false_iff.mpr fun bare => (isBareText_iff.mp bare).elim mixed
  simp only [compose, notBare]

/-- The text of a segment in a composition. -/
inductive SegmentText (read : String → Option Value) (pass : List String → Value → Value) : Segment → String → Prop
  | literal (text : String) : SegmentText read pass (.literal text) text
  | placeholder {p : Placeholder} {value : Value} (isValue : read p.identifier = some value) :
      SegmentText read pass (.placeholder p) (pass p.filters value).toText

/-- Segments are composed to their texts, one after the other. -/
theorem exists_texts {segments : List Segment} {joined : String}
    (composed : composeSegments read pass segments = some joined) :
    ∃ texts, List.Forall₂ (SegmentText read pass) segments texts ∧ joined = String.join texts := by
  induction segments generalizing joined with
  | nil =>
      cases composed
      exact ⟨[], .nil, rfl⟩
  | cons segment rest inductionHypothesis =>
      cases segment with
      | literal text =>
          obtain ⟨tail, isTail, rfl⟩ := Option.map_eq_some_iff.mp composed
          obtain ⟨texts, each, rfl⟩ := inductionHypothesis isTail
          exact ⟨text :: texts, .cons (.literal text) each, String.join_cons.symm⟩
      | placeholder p =>
          rw [composeSegments] at composed
          split at composed
          · next value tail isValue isTail =>
            cases composed
            obtain ⟨texts, each, rfl⟩ := inductionHypothesis isTail
            exact ⟨_ :: texts, .cons (.placeholder isValue) each, String.join_cons.symm⟩
          · cases composed

end Template

variable {r : Run} {perform : Perform} {v : ViewId} {q : RegistryId} {template : String}

/-- Sources hold the values that are found. -/
theorem World.valueIn_of_resolveAll {w : World} {identifiers : List String} {sources : Sources}
    (resolved : w.resolveAll v identifiers = .ok sources) {x : String} (mem : x ∈ identifiers) :
    w.valueIn sources x = (w.resolve x v).map (·.value) := by
  obtain ⟨names, each⟩ := resolveAll_eq_ok_iff.mp resolved
  obtain ⟨c, isSource, inSources⟩ := exists_lookup (names ▸ mem)
  obtain ⟨found, isFound, rfl⟩ := Option.map_eq_some_iff.mp (each _ inSources)
  rw [World.valueIn, isSource, isFound]
  exact find?_of_resolve isFound

/-- Where all identifiers are found and filters only compute, a template comes to its composition from the values
that are found. -/
theorem interpolate_composed (nothing : perform [] = pure ()) (required : r.world.requireRegistry v = .ok q)
    (resolves : ∀ x ∈ (Template.parse template).identifiers, (r.world.resolve x v).isSome)
    (quiet : r.world.QuietFor v (Template.parse template)) :
    ∃ value, (interpolate perform v template r).1 = .ok value ∧
      (Template.parse template).compose (fun x => (r.world.resolve x v).map (·.value)) (r.world.pass q) =
        some value := by
  obtain ⟨sources, resolved⟩ := World.resolveAll_ok_iff.mpr resolves
  have readable : ∀ x ∈ (Template.parse template).identifiers, ((r.world.resolve x v).map (·.value)).isSome :=
    fun x mem => by rw [Option.isSome_map]; exact resolves x mem
  have isComposed : ((Template.parse template).compose (fun x => (r.world.resolve x v).map (·.value))
      (r.world.pass q)).isSome := Template.isSome_compose readable
  obtain ⟨value, composed⟩ := Option.isSome_iff_exists.mp isComposed
  have isRendered : r.world.rendered (r.world.filterOf? (r.world.view v).type) v (Template.parse template) =
      .ok (some value) := by
    have same := Template.compose_congr (World.pass_eq_passThrough (World.registry_of_requireRegistry required))
      fun x mem => (World.valueIn_of_resolveAll resolved mem).symm
    rw [World.rendered, required, resolved]
    exact congrArg Except.ok (same.symm.trans composed)
  refine ⟨value, ?_, composed⟩
  have rendered := (interpolate_rendered nothing quiet).trans isRendered
  cases result : (interpolate perform v template r).1 with
  | error e => rw [result] at rendered; cases rendered
  | ok given => rw [result] at rendered; cases rendered; rfl

/-! ### What a template comes to -/

/-- Whether the filters of a template are quiet can be found out by looking each of them up. -/
theorem World.quietFor_iff {w : World} {t : Template} :
    w.QuietFor v t ↔ ∀ p ∈ t.placeholders, ∀ name ∈ p.filters,
      (w.filterOf? (w.view v).type name).all fun code => code.reactions.all (·.steps.isEmpty) := by
  simp only [QuietFor, Option.all_eq_true, List.all_eq_true, List.isEmpty_iff]

instance (w : World) (t : Template) : Decidable (w.QuietFor v t) :=
  decidable_of_iff _ World.quietFor_iff.symm

namespace Run

/-- What a segment comes to in the text of a template: a literal stays as it is, and a placeholder comes to the
text of the value that it comes to as a template of its own, whatever the blanks in it. -/
inductive Spells (r : Run) (room : Nat) (v : ViewId) : Segment → String → Prop
  | literal (text : String) : Spells r room v (.literal text) text
  | placeholder {p : Placeholder} {value : Value}
      (alone : ∀ padding, (interpolate (performAll (performAt room)) v
        (String.ofList (printPlaceholder padding p)) r).1 = .ok value) :
      Spells r room v (.placeholder p) value.toText

/-- What a template comes to on a view. -/
structure Means (r : Run) (room : Nat) (v : ViewId) (template : String) : Prop where
  /-- A placeholder is left of a text when it is trimmed just if it is the only one and the literals are blanks. -/
  bare_iff : ∀ p, IsPlaceholder p (Text.trimChars template.toList) ↔
    (Template.parse template).placeholders = [p] ∧
      ∀ content, .literal content ∈ (Template.parse template).segments → IsBlanks content.toList
  /-- A view that is destroyed, or has no interpolation, refuses every template. -/
  refused : ∀ e, r.world.requireRegistry v = .error e →
    (interpolate (performAll (performAt room)) v template r).1 = .error e
  /-- A placeholder between blanks comes to the value that is found, passed through its filters, and this may
  be any kind of value. -/
  bare : ∀ p q, IsPlaceholder p (Text.trimChars template.toList) → r.world.requireRegistry v = .ok q →
    ∃ found, r.world.resolve p.identifier v = some found ∧
      (interpolate (performAll (performAt room)) v template r).1 = .ok (r.world.pass q p.filters found.value)
  /-- Anything else comes to the text that its segments spell. -/
  mixed : ∀ q, (∀ p, ¬ IsPlaceholder p (Text.trimChars template.toList)) → r.world.requireRegistry v = .ok q →
    ∃ texts, List.Forall₂ (Spells r room v) (Template.parse template).segments texts ∧
      (interpolate (performAll (performAt room)) v template r).1 = .ok (.string (String.join texts))

end Run

/-- A placeholder of a template, as a template of its own, comes to the value that is found, passed through its
filters. -/
theorem interpolate_alone (nothing : perform [] = pure ()) (required : r.world.requireRegistry v = .ok q)
    (resolves : ∀ x ∈ (Template.parse template).identifiers, (r.world.resolve x v).isSome)
    (quiet : r.world.QuietFor v (Template.parse template)) {p : Placeholder}
    (mem : p ∈ (Template.parse template).placeholders) {alone : String}
    (isPlaceholder : IsPlaceholder p (Text.trimChars alone.toList)) :
    ∃ found, r.world.resolve p.identifier v = some found ∧
      (interpolate perform v alone r).1 = .ok (r.world.pass q p.filters found.value) := by
  have only := (Template.isPlaceholder_trim_iff.mp isPlaceholder).1
  have resolvesAlone : ∀ x ∈ (Template.parse alone).identifiers, (r.world.resolve x v).isSome := by
    intro x isIdentifier
    obtain ⟨p', isOnly, rfl⟩ := Template.mem_identifiers.mp isIdentifier
    obtain rfl := List.mem_singleton.mp (only ▸ isOnly)
    exact resolves _ (Template.mem_identifiers.mpr ⟨_, mem, rfl⟩)
  have quietAlone : r.world.QuietFor v (Template.parse alone) := by
    intro p' isOnly
    obtain rfl := List.mem_singleton.mp (only ▸ isOnly)
    exact quiet _ mem
  obtain ⟨value, result, composed⟩ := interpolate_composed nothing required resolvesAlone quietAlone
  rw [Template.compose_of_isPlaceholder isPlaceholder] at composed
  obtain ⟨_, isValue, rfl⟩ := Option.map_eq_some_iff.mp composed
  obtain ⟨found, isFound, rfl⟩ := Option.map_eq_some_iff.mp isValue
  exact ⟨found, isFound, result⟩

/-- Where all identifiers are found and filters only compute, a template that is one placeholder between blanks
comes to its filtered value, and any other to a text, of its literals and of what its placeholders come to. -/
theorem interpolate_means (r : Run) (room : Nat) (v : ViewId) (template : String)
    (resolves : ∀ x ∈ (Template.parse template).identifiers, (r.world.resolve x v).isSome)
    (quiet : r.world.QuietFor v (Template.parse template)) : r.Means room v template := by
  have nothing : performAll (performAt room) [] = pure () := rfl
  refine ⟨fun p => Template.isPlaceholder_trim_iff, ?_, ?_, ?_⟩
  · intro e required
    simp only [interpolate, Act.run_bind, Act.run_world, required]
    rfl
  · intro p q isPlaceholder required
    have mem : p ∈ (Template.parse template).placeholders := by
      rw [(Template.isPlaceholder_trim_iff.mp isPlaceholder).1]
      exact List.mem_singleton_self p
    exact interpolate_alone nothing required resolves quiet mem isPlaceholder
  · intro q mixed required
    obtain ⟨value, result, composed⟩ := interpolate_composed nothing required resolves quiet
    rw [Template.compose_of_forall_not mixed] at composed
    obtain ⟨joined, isJoined, rfl⟩ := Option.map_eq_some_iff.mp composed
    obtain ⟨texts, each, rfl⟩ := Template.exists_texts isJoined
    refine ⟨texts, List.forall₂_iff_zip.mpr ⟨each.length_eq, fun {segment text} mem => ?_⟩, result⟩
    have inSegments : segment ∈ (Template.parse template).segments := (List.of_mem_zip mem).1
    cases (List.forall₂_iff_zip.mp each).2 mem with
    | literal => exact .literal text
    | @placeholder p value isValue =>
        refine .placeholder fun padding => ?_
        have named : p.IsNamed := (Template.parse_isNormal template).1.sound _ inSegments
        obtain ⟨found, isFound, result⟩ := interpolate_alone nothing required resolves quiet
          (Template.mem_placeholders.mpr inSegments) (named.trimChars_print padding)
        rw [isFound] at isValue
        cases isValue
        exact result

/-- A view with a value that looks like a placeholder, and a filter. -/
def quoted : List Step := [
  .newType "T" "T" (some .plainInterpolation),
  .registerFilter "T" "listed" ⟨.wrap, []⟩,
  .create "T" "v" none [("x", .string "{{y}}"), ("y", .bool true)] [] none]

/-- What is rendered is not rendered again. -/
theorem interpolate_means_quoted :
    let r := session nestingLimit quoted
    r.Means nestingLimit 0 " {{ y | listed }} " ∧ r.Means nestingLimit 0 "{{x}}: {{y | listed}}" ∧
      r.world.requireRegistry 0 = .ok 0 ∧
      (interpolate (performAll (performAt nestingLimit)) 0 "{{x}}: {{y | listed}}" r).1.toOption.map (·.toText) =
        some "{{y}}: true" :=
  ⟨interpolate_means _ _ _ _ (by decide +kernel) (by decide +kernel),
    interpolate_means _ _ _ _ (by decide +kernel) (by decide +kernel),
    World.requireRegistry_eq_ok_iff.mpr ⟨by decide +kernel, by decide +kernel⟩, by decide +kernel⟩

end LiveTemplate
