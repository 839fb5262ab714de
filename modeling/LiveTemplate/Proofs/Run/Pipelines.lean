import LiveTemplate.Proofs.Run.Performing
import LiveTemplate.Proofs.Run.Callbacks
import LiveTemplate.Proofs.Run.Meaning

/-!
Pipelines of filters.  A template that is one placeholder comes to what the registry makes of the value that is
found when its filters are applied to it one after the other, in the order in which they are written, whatever
blanks stand between the names.  A name that is not registered could as well be left out.  In a binding it is the
registry as it is at the moment of each evaluation that is applied, not as it was when the binding was made.
-/

namespace LiveTemplate

/-! ### Applying the filters of a registry -/

namespace Registry

variable {r : Registry Transform} {names : List String} {value : Value}

/-- What the filters under some names make of a value, one after the other. -/
def applyAll (r : Registry Transform) (names : List String) (value : Value) : Value :=
  names.foldl (fun value name => r.apply name value) value

theorem apply_of_not_has {name : String} (unknown : r.has name = false) : r.apply name value = value := by
  have missing : r.find? name = none := by
    rw [has, OrderedMap.contains_eq] at unknown
    exact Option.isNone_iff_eq_none.mp (Option.isSome_eq_false_iff.mp unknown)
  rw [apply, missing]

/-- Names that are not registered can be left out. -/
theorem applyAll_filter_has : r.applyAll (names.filter r.has) value = r.applyAll names value := by
  induction names generalizing value with
  | nil => rfl
  | cons name rest inductionHypothesis =>
      cases known : r.has name with
      | true =>
          rw [List.filter_cons_of_pos known]
          exact inductionHypothesis
      | false =>
          rw [List.filter_cons_of_neg (by simp [known])]
          calc r.applyAll (rest.filter r.has) value
              = r.applyAll rest value := inductionHypothesis
            _ = r.applyAll rest (r.apply name value) := by rw [apply_of_not_has known]

end Registry

namespace World

variable {w : World} {q : RegistryId}

/-- What the filters of a registry compute, by their names. -/
def transforms (w : World) (q : RegistryId) : Registry Transform :=
  ⟨(w.registry q).filters.mapValues fun f => (w.filter f).code.transform⟩

/-- Values are passed through filters by applying the registry to them. -/
theorem pass_eq_applyAll : w.pass q = (w.transforms q).applyAll := by
  funext names value
  rw [pass, Registry.applyAll]
  congr 1
  funext value name
  have transform : (w.transforms q).find? name =
      ((w.registry q).find? name).map fun f => (w.filter f).code.transform :=
    OrderedMap.find?_mapValues _ _ name
  rw [Registry.apply, transform]
  cases (w.registry q).find? name <;> rfl

end World

/-! ### Templates that are one placeholder -/

/-- The text of a placeholder between blanks, with any blanks around each of its names. -/
def IsPrinted (p : Placeholder) (text : String) : Prop :=
  ∃ front back padding, IsBlanks front ∧ IsBlanks back ∧
    text.toList = front ++ (printPlaceholder padding p ++ back)

variable {p : Placeholder} {text : String}

theorem IsPrinted.isPlaceholder (printed : IsPrinted p text) (named : p.IsNamed) :
    IsPlaceholder p (Text.trimChars text.toList) := by
  obtain ⟨front, back, padding, blankFront, blankBack, isText⟩ := printed
  have isPlaceholder := named.isPlaceholder padding
  rw [isText, isPlaceholder.trimChars blankFront blankBack]
  exact isPlaceholder

theorem IsPrinted.placeholders_eq (printed : IsPrinted p text) (named : p.IsNamed) :
    (Template.parse text).placeholders = [p] :=
  (Template.isPlaceholder_trim_iff.mp (printed.isPlaceholder named)).1

namespace Run

variable {r : Run} {room : Nat} {v : ViewId} {q : RegistryId} {b : BindingId}

/-- The placeholder is rendered to what the registry of the view makes of the value that is found. -/
theorem interpolate_printed (printed : IsPrinted p text) (named : p.IsNamed)
    (required : r.world.requireRegistry v = .ok q) {found : World.Resolved}
    (isFound : r.world.resolve p.identifier v = some found) (quiet : r.world.QuietOn q p.filters) :
    (interpolate (performAll (performAt room)) v text r).1 =
      .ok ((r.world.transforms q).applyAll p.filters found.value) := by
  have nothing : performAll (performAt room) [] = pure () := rfl
  have only := printed.placeholders_eq named
  have mem : p ∈ (Template.parse text).placeholders := by
    rw [only]
    exact List.mem_singleton_self p
  have resolves : ∀ x ∈ (Template.parse text).identifiers, (r.world.resolve x v).isSome := by
    intro x isIdentifier
    obtain ⟨p', isOnly, rfl⟩ := Template.mem_identifiers.mp isIdentifier
    obtain rfl := List.mem_singleton.mp (only ▸ isOnly)
    exact Option.isSome_of_eq_some isFound
  have quietFor : r.world.QuietFor v (Template.parse text) := by
    intro p' isOnly name inFilters code isCode reaction
    obtain rfl := List.mem_singleton.mp (only ▸ isOnly)
    have registry : (r.world.type (r.world.view v).type).registry = some q :=
      World.registry_of_requireRegistry required
    simp only [World.filterOf?, registry, Option.bind_some, Option.map_eq_some_iff] at isCode
    obtain ⟨f, inRegistry, rfl⟩ := isCode
    exact quiet name inFilters f inRegistry reaction
  obtain ⟨other, isOther, result⟩ := interpolate_alone nothing required resolves quietFor mem
    (printed.isPlaceholder named)
  obtain rfl := Option.some.inj (isFound.symm.trans isOther)
  rw [result, World.pass_eq_applyAll]

/-- An active binding is evaluated to what its registry makes now of the value that its source holds. -/
theorem reevaluate_printed (room : Nat) (sound : r.world.Sound) (active : (r.world.binding b).isActive)
    (printed : IsPrinted p text) (named : p.IsNamed)
    (isTemplate : (r.world.binding b).template = Template.parse text)
    (quiet : r.world.QuietOn (r.world.binding b).registry p.filters) :
    ∃ value, r.world.valueIn (r.world.binding b).sources p.identifier = some value ∧
      (reevaluate (performAll (performAt room)) b r).1 =
        .ok ((r.world.transforms (r.world.binding b).registry).applyAll p.filters value) := by
  have nothing : performAll (performAt room) [] = pure () := rfl
  have quietPlaceholders : ∀ p' ∈ (r.world.binding b).template.placeholders,
      (r.note (.refreshed b)).world.QuietOn (r.world.binding b).registry p'.filters := by
    intro p' isOnly
    rw [isTemplate, printed.placeholders_eq named] at isOnly
    obtain rfl := List.mem_singleton.mp isOnly
    exact quiet
  obtain ⟨result, _⟩ := evaluate_quiet nothing (r.world.binding b).scope (r.world.binding b).template
    (r.note (.refreshed b)) quietPlaceholders
  have isIdentifier : p.identifier ∈ (r.world.binding b).template.identifiers := by
    rw [isTemplate, Template.mem_identifiers, printed.placeholders_eq named]
    exact ⟨p, List.mem_singleton_self p, rfl⟩
  obtain ⟨reads, present⟩ := sound.subscribed.read?_eq active isIdentifier
  obtain ⟨value, holds⟩ := Option.isSome_iff_exists.mp present
  refine ⟨value, holds, ?_⟩
  have composed : (reevaluate (performAll (performAt room)) b r).1.toOption =
      some ((r.world.transforms (r.world.binding b).registry).applyAll p.filters value) := by
    calc (reevaluate (performAll (performAt room)) b r).1.toOption
        = (Template.parse text).compose (r.world.read? (r.world.binding b).sources)
            (r.world.pass (r.world.binding b).registry) := by rw [← isTemplate]; exact result
      _ = (r.world.read? (r.world.binding b).sources p.identifier).map
            (r.world.pass (r.world.binding b).registry p.filters) :=
          Template.compose_of_isPlaceholder (printed.isPlaceholder named)
      _ = _ := by rw [reads, holds, World.pass_eq_applyAll]; rfl
  cases outcome : (reevaluate (performAll (performAt room)) b r).1 with
  | error e => rw [outcome] at composed; cases composed
  | ok given => rw [outcome] at composed; rw [Option.some.inj composed]

/-! ### Pipelines -/

/-- A text stands for the application of a registry to a value. -/
structure Pipes (r : Run) (room : Nat) (text : String) (p : Placeholder) : Prop where
  /-- On a view it is rendered to what the filters of the view's registry make of the value that is found. -/
  rendered : ∀ v q found, r.world.requireRegistry v = .ok q → r.world.resolve p.identifier v = some found →
    r.world.QuietOn q p.filters → (interpolate (performAll (performAt room)) v text r).1 =
      .ok (p.filters.foldl (fun value name => (r.world.transforms q).apply name value) found.value)
  /-- It is rendered to the same when the names that are not registered are left out. -/
  shortened : ∀ v q found short, r.world.requireRegistry v = .ok q →
    r.world.resolve p.identifier v = some found → r.world.QuietOn q p.filters →
    IsPrinted ⟨p.identifier, p.filters.filter (r.world.registry q).has⟩ short →
      (interpolate (performAll (performAt room)) v short r).1 =
        (interpolate (performAll (performAt room)) v text r).1
  /-- An active binding of it is evaluated again to what the filters that its registry has now make of the value
  that its source holds now, and its callback is called with that. -/
  reevaluated : ∀ b, (r.world.binding b).isActive → (r.world.binding b).template = Template.parse text →
    r.world.QuietOn (r.world.binding b).registry p.filters →
    ∃ value, r.world.valueIn (r.world.binding b).sources p.identifier = some value ∧
      let piped := p.filters.foldl
        (fun value name => (r.world.transforms (r.world.binding b).registry).apply name value) value
      let evaluated := reevaluate (performAll (performAt room)) b r
      evaluated.1 = .ok piped ∧ ∃ label call,
        (refresh (performAll (performAt room)) b r).2.journal[evaluated.2.journal.size]?.map (·.occurrence) =
          some (.called (r.world.binding b).listener label call piped)

/-- Wherever a run has come to, a placeholder stands for the application of a registry. -/
theorem Reaches.pipes (reached : Run.Reaches .start r) (named : p.IsNamed) (printed : IsPrinted p text) :
    r.Pipes room text p where
  rendered v q found required isFound quiet := interpolate_printed printed named required isFound quiet
  shortened v q found short required isFound quiet printedShort := by
    have namedShort : Placeholder.IsNamed ⟨p.identifier, p.filters.filter (r.world.registry q).has⟩ :=
      ⟨named.1, fun name mem => named.2 name (List.mem_of_mem_filter mem)⟩
    have quietShort : r.world.QuietOn q (p.filters.filter (r.world.registry q).has) :=
      fun name mem => quiet name (List.mem_of_mem_filter mem)
    have sameNames : (r.world.registry q).has = (r.world.transforms q).has := by
      funext name
      exact (OrderedMap.contains_mapValues _ _ name).symm
    calc (interpolate (performAll (performAt room)) v short r).1
        = .ok ((r.world.transforms q).applyAll (p.filters.filter (r.world.registry q).has) found.value) :=
          interpolate_printed printedShort namedShort required isFound quietShort
      _ = .ok ((r.world.transforms q).applyAll p.filters found.value) := by
          rw [sameNames, Registry.applyAll_filter_has]
      _ = (interpolate (performAll (performAt room)) v text r).1 :=
          (interpolate_printed printed named required isFound quiet).symm
  reevaluated b active isTemplate quiet := by
    obtain ⟨value, holds, result⟩ := reevaluate_printed room (reached.sound World.Sound.empty) active printed
      named isTemplate quiet
    obtain ⟨label, call, entry⟩ := (reached.callsRegardless room).again b active _ _ (Prod.ext result rfl)
    refine ⟨value, holds, result, label, call, ?_⟩
    rw [entry]
    rfl

end Run

/-- Wherever a run has come to, a placeholder stands for the application of a registry, on a view and in every
binding; and a binding that is made of it keeps it, with the registry of its view, for good. -/
theorem placeholder_pipes {r : Run} (reached : Run.Reaches .start r) (room : Nat) (named : p.IsNamed)
    (printed : IsPrinted p text) :
    r.Pipes room text p ∧
      ∀ step view answer bound, step.bound? = some (view, text) → performAt room step r = (.ok answer, bound) →
        ∃ v q b, r.world.findView view = .ok v ∧ (r.world.typeOf v).registry = some q ∧
          r.world.bindings.size ≤ b ∧ Run.Reaches r bound ∧ ∀ later, Run.Reaches bound later →
            later.Pipes room text p ∧ (later.world.binding b).template = Template.parse text ∧
              (later.world.binding b).registry = q := by
  refine ⟨reached.pipes named printed, fun step view answer bound isBind done => ?_⟩
  rcases performAt_made (reached.sound World.Sound.empty) room isBind with ⟨fault, run⟩ |
    ⟨_, _, v, run, isView, made⟩
  · cases done.symm.trans run
  · cases done.symm.trans run
    obtain ⟨b, sources, makes⟩ := made.makes
    have isMade : b < bound.world.bindings.size := Nat.lt_of_lt_of_eq (Nat.lt_succ_self b) makes.isLast.symm
    have reaches := made.reaches Run.reaches_closed
    refine ⟨v, _, b, isView, makes.typed, makes.isNew, reaches, fun later toLater => ⟨?_, ?_, ?_⟩⟩
    · exact Run.Reaches.pipes ((reached.trans reaches).trans toLater) named printed
    · exact (toLater.grows.template_eq isMade).trans makes.isTemplate
    · exact toLater.grows.registry_eq isMade

/-- A view with a value, and a filter that puts a text behind it. -/
def appending : List Step := [
  .newType "T" "T" (some .plainInterpolation),
  .registerFilter "T" "f" ⟨.append "1", []⟩,
  .create "T" "v" none [("x", .string "a")] [] none]

/-- A blank on either side. -/
def spaced : Padding where
  before := [' ']
  after := [' ']
  blankBefore := by decide
  blankAfter := by decide

/-- What is left behind when the value was bound, passed through the filter twice. -/
def appendingBound : Outcome × Run :=
  performAt nestingLimit (.bind "v" "{{ x | f | gone | f }}" "cb" []) (session nestingLimit appending)

/-- What is left behind when the filter was replaced by another. -/
def appendingReplaced : Run :=
  (performAll (performAt nestingLimit) [.registerFilter "T" "f" ⟨.append "2", []⟩] appendingBound.2).2

theorem placeholder_pipes_appending :
    let perform := performAll (performAt nestingLimit)
    let p : Placeholder := ⟨"x", ["f", "gone", "f"]⟩
    (∃ answer, appendingBound = (.ok answer, appendingBound.2)) ∧
      appendingReplaced.Pipes nestingLimit "{{ x | f | gone | f }}" p ∧
      (reevaluate perform 0 appendingBound.2).1.toOption.map (·.toText) = some "a11" ∧
      (reevaluate perform 0 appendingReplaced).1.toOption.map (·.toText) = some "a22" := by
  intro perform p
  obtain ⟨answer, bound⟩ := Act.exists_ok appendingBound (by decide +kernel)
  have printed : IsPrinted p "{{ x | f | gone | f }}" :=
    ⟨[], [], fun _ => spaced, by rintro _ ⟨⟩, by rintro _ ⟨⟩, by decide +kernel⟩
  obtain ⟨_, bindings⟩ := placeholder_pipes (session_reaches nestingLimit appending) nestingLimit
    (by decide +kernel) printed
  obtain ⟨v, q, b, _, _, _, goesOn, kept⟩ := bindings _ "v" answer appendingBound.2 rfl bound
  have replacing : Run.Reaches appendingBound.2 appendingReplaced :=
    performAll_reaches nestingLimit _ (goesOn.sound (session_sound nestingLimit appending))
  exact ⟨⟨answer, bound⟩, (kept _ replacing).1, by decide +kernel, by decide +kernel⟩

end LiveTemplate
