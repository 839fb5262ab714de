import LiveTemplate.Proofs.Run.Acts

/-!
What an evaluation comes to.  Where filters do nothing but compute, it is the composition of the template in
the world in which it began, and nothing but calls of filters is left behind.  Where filters perform steps,
it still comes to a value if every identifier has a source that is pinned, as nothing takes a key away.
-/

namespace LiveTemplate

/-- A world in which filters were called more often. -/
structure World.Counted (w w' : World) : Prop where
  frame : w' = { w with filters := w'.filters }
  count : w'.filters.size = w.filters.size
  code : ∀ f, (w'.filter f).code = (w.filter f).code

/-- Filters do nothing but compute, and those that are registered were made. -/
structure World.Computes (w : World) : Prop where
  quiet : w.FiltersQuiet
  registered : ∀ r name f, (w.registry r).find? name = some f → f < w.filters.size

/-- The filters that some names have in a registry do nothing but compute. -/
def World.QuietOn (w : World) (q : RegistryId) (names : List String) : Prop :=
  ∀ name ∈ names, ∀ f, (w.registry q).find? name = some f →
    ∀ reaction ∈ (w.filter f).code.reactions, reaction.steps = []

/-- Where all filters do nothing but compute, those of a template do. -/
theorem World.Computes.quietOn {w : World} (computes : w.Computes) (q : RegistryId) (t : Template) :
    ∀ p ∈ t.placeholders, w.QuietOn q p.filters :=
  fun _ _ name _ f found => computes.quiet f (computes.registered q name f found)

namespace World.Counted

variable {w w' w'' : World}

theorem refl (w : World) : Counted w w := ⟨rfl, rfl, fun _ => rfl⟩

theorem trans (first : Counted w w') (second : Counted w' w'') : Counted w w'' where
  frame := by rw [second.frame, first.frame]
  count := second.count.trans first.count
  code f := (second.code f).trans (first.code f)

/-- The call of a filter is counted. -/
theorem countFilterCall (w : World) (f : FilterId) : Counted w (w.countFilterCall f) :=
  ⟨rfl, Array.size_modify, code_countFilterCall w f⟩

/-- Where only calls were counted, everything is still there. -/
theorem grows (h : Counted w w') : Grows w w' := by
  have code : ∀ f < w.filters.size, (w'.filter f).code = (w.filter f).code := fun f _ => h.code f
  have count : w.filters.size ≤ w'.filters.size := Nat.le_of_eq h.count.symm
  obtain ⟨filters, rfl⟩ : ∃ filters, w' = { w with filters := filters } := ⟨_, h.frame⟩
  exact { Grows.refl w with code := code, filterCount := count }

/-- Registries hold no counts. -/
theorem registry (h : Counted w w') (r : RegistryId) : w'.registry r = w.registry r := by
  rw [World.registry, h.frame]
  rfl

/-- A quiet filter stays quiet. -/
theorem quietOn (h : Counted w w') {q : RegistryId} {names : List String} (quiet : w.QuietOn q names) :
    w'.QuietOn q names := by
  intro name mem f found
  rw [h.registry] at found
  rw [h.code]
  exact quiet name mem f found

/-- Filters come to the same values. -/
theorem pass (h : Counted w w') (r : RegistryId) : w'.pass r = w.pass r :=
  pass_congr (h.registry r) fun _ f _ => h.code f

/-- Sources hold the same values. -/
theorem read? (h : Counted w w') (sources : Sources) : w'.read? sources = w.read? sources := by
  obtain ⟨filters, rfl⟩ : ∃ filters, w' = { w with filters := filters } := ⟨_, h.frame⟩
  rfl

/-- Bindings hold no counts. -/
theorem binding (h : Counted w w') (b : BindingId) : w'.binding b = w.binding b := by
  rw [World.binding, h.frame]
  rfl

/-- A binding composes to the same value. -/
theorem composed (h : Counted w w') (b : BindingId) : w'.composed b = w.composed b := by
  have values : w'.valueIn = w.valueIn := by
    obtain ⟨filters, rfl⟩ : ∃ filters, w' = { w with filters := filters } := ⟨_, h.frame⟩
    rfl
  simp only [World.composed, h.binding, values, h.pass]

end World.Counted

variable {perform : Perform} {r : Run}

/-- A template is evaluated as its one placeholder or segment by segment, and composed alike. -/
private theorem evaluate_cases (perform : Perform) (scope : Scope) (t : Template) :
    (∃ p ∈ t.placeholders, evaluate perform scope t = evaluatePlaceholder perform scope p ∧
        ∀ read pass, t.compose read pass = (read p.identifier).map (pass p.filters)) ∨
      (evaluate perform scope t =
          (do return (← evaluateSegments perform scope t.segments).map .string) ∧
        ∀ read pass,
          t.compose read pass = (Template.composeSegments read pass t.segments).map .string) := by
  cases bare : t.isBare with
  | false =>
      refine Or.inr ⟨?_, ?_⟩
      · simp only [evaluate, bare]
      · intro read pass
        simp only [Template.compose, bare]
  | true =>
      cases list : t.placeholders with
      | nil =>
          refine Or.inr ⟨?_, ?_⟩
          · simp only [evaluate, bare, list]
          · intro read pass
            simp only [Template.compose, bare, list]
      | cons p rest =>
          refine Or.inl ⟨p, List.mem_cons_self, ?_, ?_⟩
          · simp only [evaluate, bare, list]
          · intro read pass
            simp only [Template.compose, bare, list]

/-! ### Filters that only compute -/

/-- Reactions without steps do nothing. -/
private theorem react_quiet (nothing : perform [] = pure ()) {reactions : List (Reaction Step)}
    (quiet : ∀ reaction ∈ reactions, reaction.steps = []) (call : Nat) (r : Run) :
    react perform reactions call r = ((), r) := by
  induction reactions with
  | nil => rfl
  | cons reaction rest inductionHypothesis =>
      have head : (if reaction.call.all (· == call) then perform reaction.steps else pure ()) =
          pure () := by
        rw [quiet reaction List.mem_cons_self, nothing, ite_self]
      show ((if reaction.call.all (· == call) then perform reaction.steps else pure ()) >>=
        fun _ => react perform rest call) r = ((), r)
      rw [head]
      exact inductionHypothesis fun x mem => quiet x (List.mem_cons_of_mem _ mem)

/-- Quiet filters come to what the registry makes of the value, and only count their calls. -/
theorem applyFilters_quiet (nothing : perform [] = pure ()) (q : RegistryId) (names : List String)
    (value : Value) (r : Run) (quiet : r.world.QuietOn q names) :
    (applyFilters perform q names value r).1 = r.world.pass q names value ∧
      World.Counted r.world (applyFilters perform q names value r).2.world := by
  induction names generalizing value r with
  | nil => exact ⟨rfl, .refl _⟩
  | cons name rest inductionHypothesis =>
      have quietRest : r.world.QuietOn q rest :=
        fun other mem => quiet other (List.mem_cons_of_mem _ mem)
      simp only [applyFilters, Act.run_bind, Act.run_world]
      cases found : (r.world.registry q).find? name with
      | none =>
          have step : r.world.pass q (name :: rest) value = r.world.pass q rest value := by
            rw [World.pass, List.foldl_cons, found]
            rfl
          simp only [step]
          exact inductionHypothesis value r quietRest
      | some f =>
          have step : r.world.pass q (name :: rest) value =
              r.world.pass q rest ((r.world.filter f).code.transform.apply value) := by
            rw [World.pass, List.foldl_cons, found]
            rfl
          have counted : World.Counted r.world (r.world.countFilterCall f) := .countFilterCall _ f
          have called : callFilter perform f value r =
              ((r.world.filter f).code.transform.apply value,
                (r.turn (r.world.countFilterCall f)).note (.filtered f value)) := by
            have reacted := react_quiet nothing (quiet name List.mem_cons_self f found)
              ((r.world.filter f).calls + 1)
              ((r.turn (r.world.countFilterCall f)).note (.filtered f value))
            exact congrArg (fun pair => ((r.world.filter f).code.transform.apply value, pair.2)) reacted
          have tail := inductionHypothesis ((r.world.filter f).code.transform.apply value)
            ((r.turn (r.world.countFilterCall f)).note (.filtered f value)) (counted.quietOn quietRest)
          rw [step, ← counted.pass q]
          simp only [Act.run_bind, called]
          exact ⟨tail.1, counted.trans tail.2⟩

/-- A placeholder with quiet filters comes to its value, passed through them. -/
theorem evaluatePlaceholder_quiet (nothing : perform [] = pure ()) (scope : Scope)
    (p : Placeholder) (r : Run) (quiet : r.world.QuietOn scope.registry p.filters) :
    (evaluatePlaceholder perform scope p r).1.toOption =
        (r.world.read? scope.sources p.identifier).map (r.world.pass scope.registry p.filters) ∧
      World.Counted r.world (evaluatePlaceholder perform scope p r).2.world := by
  simp only [evaluatePlaceholder, Act.run_bind, Act.run_world]
  cases found : r.world.read? scope.sources p.identifier with
  | none => exact ⟨rfl, .refl _⟩
  | some value =>
      have applied := applyFilters_quiet nothing scope.registry p.filters value r quiet
      exact ⟨congrArg some applied.1, applied.2⟩

/-- Segments with quiet filters come to their composition. -/
theorem evaluateSegments_quiet (nothing : perform [] = pure ()) (scope : Scope)
    (segments : List Segment) (r : Run)
    (quiet : ∀ p, .placeholder p ∈ segments → r.world.QuietOn scope.registry p.filters) :
    (evaluateSegments perform scope segments r).1.toOption =
        Template.composeSegments (r.world.read? scope.sources) (r.world.pass scope.registry)
          segments ∧
      World.Counted r.world (evaluateSegments perform scope segments r).2.world := by
  induction segments generalizing r with
  | nil => exact ⟨rfl, .refl _⟩
  | cons segment rest inductionHypothesis =>
      have quietRest := fun p mem => quiet p (List.mem_cons_of_mem _ mem)
      cases segment with
      | literal text =>
          obtain ⟨result, counted⟩ := inductionHypothesis r quietRest
          refine ⟨?_, counted⟩
          rw [Template.composeSegments, ← result]
          simp only [evaluateSegments, Act.run_bind, Act.run_pure]
          cases (evaluateSegments perform scope rest r).1 <;> rfl
      | placeholder p =>
          obtain ⟨first, counted⟩ :=
            evaluatePlaceholder_quiet nothing scope p r (quiet p List.mem_cons_self)
          obtain ⟨second, countedRest⟩ := inductionHypothesis
            (evaluatePlaceholder perform scope p r).2 fun other mem => counted.quietOn (quietRest other mem)
          simp only [counted.read?, counted.pass] at second
          rw [Template.composeSegments, ← second]
          simp only [evaluateSegments, Act.run_bind]
          cases found : r.world.read? scope.sources p.identifier with
          | none =>
              simp only [found] at first
              cases result : (evaluatePlaceholder perform scope p r).1 with
              | error e => exact ⟨rfl, counted⟩
              | ok value => rw [result] at first; cases first
          | some value =>
              simp only [found] at first
              cases result : (evaluatePlaceholder perform scope p r).1 with
              | error e => rw [result] at first; cases first
              | ok filtered =>
                  rw [result] at first
                  have same : filtered = r.world.pass scope.registry p.filters value :=
                    Option.some.inj first
                  simp only [Act.run_bind, Act.run_pure]
                  refine ⟨?_, counted.trans countedRest⟩
                  rw [same]
                  cases (evaluateSegments perform scope rest
                    (evaluatePlaceholder perform scope p r).2).1 <;> rfl

/-- Where the filters of a template only compute, evaluation is composition. -/
theorem evaluate_quiet (nothing : perform [] = pure ()) (scope : Scope) (t : Template) (r : Run)
    (quiet : ∀ p ∈ t.placeholders, r.world.QuietOn scope.registry p.filters) :
    (evaluate perform scope t r).1.toOption =
        t.compose (r.world.read? scope.sources) (r.world.pass scope.registry) ∧
      World.Counted r.world (evaluate perform scope t r).2.world := by
  rcases evaluate_cases perform scope t with ⟨p, mem, same, composed⟩ | ⟨same, composed⟩
  · simp only [same, composed]
    exact evaluatePlaceholder_quiet nothing scope p r (quiet p mem)
  · simp only [same, composed]
    obtain ⟨result, counted⟩ := evaluateSegments_quiet nothing scope t.segments r
      fun p mem => quiet p (Template.mem_placeholders.mpr mem)
    refine ⟨?_, counted⟩
    rw [← result]
    simp only [Act.run_bind, Act.run_pure]
    cases (evaluateSegments perform scope t.segments r).1 <;> rfl

/-! ### Sources that are pinned -/

/-- A source of an identifier is pinned and has a value for it. -/
def World.Pins (w : World) (sources : Sources) (x : String) : Prop :=
  ∃ c, sources.lookup x = some c ∧ c ∈ w.pinnedContainers ∧ ((w.container c).values.find? x).isSome

namespace World.Pins

variable {w w' : World} {sources : Sources} {x : String}

/-- A source that is pinned has a value. -/
theorem isSome_read? (pins : w.Pins sources x) : (w.read? sources x).isSome := by
  obtain ⟨c, found, pinned, present⟩ := pins
  have held : w.isHeld c := by simp [isHeld, pinned]
  simpa [read?, found, held] using present

/-- A source that is pinned is read as the value that it holds. -/
theorem read?_eq (pins : w.Pins sources x) : w.read? sources x = w.valueIn sources x := by
  obtain ⟨c, found, pinned, _⟩ := pins
  have held : w.isHeld c := by simp [isHeld, pinned]
  simp [World.read?, World.valueIn, found, held]

/-- A pinned source stays readable as long as it stays pinned. -/
theorem of_grows (pins : w.Pins sources x) (grows : Grows w w') (returns : Returns w w') :
    w'.Pins sources x := by
  obtain ⟨c, found, pinned, present⟩ := pins
  exact ⟨c, found, by rw [returns.pinnedContainers]; exact pinned, grows.keys c x present⟩

end World.Pins

/-- Where its filters only compute, a template whose sources are pinned is evaluated to its composition. -/
theorem evaluate_pinned (nothing : perform [] = pure ()) {sources : Sources} {t : Template}
    {q : RegistryId} (quiet : ∀ p ∈ t.placeholders, r.world.QuietOn q p.filters)
    (pins : ∀ x ∈ t.identifiers, r.world.Pins sources x) (viewLabel : String) :
    ∃ value evaluated, evaluate perform ⟨q, sources, viewLabel⟩ t r = (.ok value, evaluated) ∧
      t.compose (r.world.valueIn sources) (r.world.pass q) = some value ∧
      World.Counted r.world evaluated.world := by
  obtain ⟨result, counted⟩ := evaluate_quiet nothing ⟨q, sources, viewLabel⟩ t r quiet
  have composed := result.trans (Template.compose_congr rfl fun x mem => (pins x mem).read?_eq)
  have readable : (t.compose (r.world.valueIn sources) (r.world.pass q)).isSome :=
    Template.isSome_compose fun x mem => (pins x mem).read?_eq ▸ (pins x mem).isSome_read?
  obtain ⟨value, isValue⟩ := Option.isSome_iff_exists.mp readable
  rw [isValue] at composed
  cases isOutcome : evaluate perform ⟨q, sources, viewLabel⟩ t r with
  | mk outcome evaluated =>
      rw [isOutcome] at composed counted
      cases outcome with
      | error e => cases composed
      | ok given => exact ⟨given, evaluated, rfl, isValue.trans composed.symm, counted⟩

/-! ### Evaluations that fail -/

/-- A placeholder fails only where its source has no value. -/
private theorem evaluatePlaceholder_error {scope : Scope} {p : Placeholder} {e : InterpolateError}
    {after : Run} (failed : evaluatePlaceholder perform scope p r = (.error e, after)) :
    after.world.read? scope.sources p.identifier = none ∧
      e = .unresolvedIdentifier p.identifier scope.viewLabel := by
  simp only [evaluatePlaceholder, Act.run_bind, Act.run_world] at failed
  cases found : r.world.read? scope.sources p.identifier with
  | none =>
      simp only [found] at failed
      cases failed
      exact ⟨found, rfl⟩
  | some value =>
      simp only [found] at failed
      cases failed

/-- Segments fail with the error of one of their placeholders. -/
private theorem evaluateSegments_error {scope : Scope} {segments : List Segment}
    {e : InterpolateError} {after : Run}
    (failed : evaluateSegments perform scope segments r = (.error e, after)) :
    ∃ p, .placeholder p ∈ segments ∧ after.world.read? scope.sources p.identifier = none ∧
      e = .unresolvedIdentifier p.identifier scope.viewLabel := by
  induction segments generalizing r with
  | nil => cases failed
  | cons segment rest inductionHypothesis =>
      have later : ∀ {r : Run}, evaluateSegments perform scope rest r = (.error e, after) →
          ∃ p, .placeholder p ∈ segment :: rest ∧
            after.world.read? scope.sources p.identifier = none ∧
            e = .unresolvedIdentifier p.identifier scope.viewLabel := by
        intro r failedLater
        obtain ⟨p, mem, missing⟩ := inductionHypothesis failedLater
        exact ⟨p, List.mem_cons_of_mem _ mem, missing⟩
      cases segment with
      | literal text =>
          simp only [evaluateSegments, Act.run_bind, Act.run_pure] at failed
          cases result : (evaluateSegments perform scope rest r).1 with
          | error e' =>
              rw [result] at failed
              cases failed
              exact later (Prod.ext result rfl)
          | ok tail => rw [result] at failed; cases failed
      | placeholder p =>
          simp only [evaluateSegments, Act.run_bind] at failed
          cases first : (evaluatePlaceholder perform scope p r).1 with
          | error e' =>
              rw [first] at failed
              cases failed
              exact ⟨p, List.mem_cons_self, evaluatePlaceholder_error (Prod.ext first rfl)⟩
          | ok value =>
              simp only [first, Act.run_bind, Act.run_pure] at failed
              cases result : (evaluateSegments perform scope rest
                  (evaluatePlaceholder perform scope p r).2).1 with
              | error e' =>
                  rw [result] at failed
                  cases failed
                  exact later (Prod.ext result rfl)
              | ok tail => rw [result] at failed; cases failed

/-- An evaluation that fails has met an identifier that cannot be read, and has done nothing since: the
identifier cannot be read in the world that is left behind. -/
theorem evaluate_error {scope : Scope} {t : Template} {e : InterpolateError} {after : Run}
    (failed : evaluate perform scope t r = (.error e, after)) :
    ∃ x ∈ t.identifiers, after.world.read? scope.sources x = none ∧
      e = .unresolvedIdentifier x scope.viewLabel := by
  rcases evaluate_cases perform scope t with ⟨p, mem, same, _⟩ | ⟨same, _⟩
  · rw [same] at failed
    exact ⟨p.identifier, Template.mem_identifiers.mpr ⟨p, mem, rfl⟩,
      evaluatePlaceholder_error failed⟩
  · simp only [same, Act.run_bind, Act.run_pure] at failed
    cases result : (evaluateSegments perform scope t.segments r).1 with
    | error e' =>
        rw [result] at failed
        cases failed
        obtain ⟨p, mem, missing⟩ := evaluateSegments_error (Prod.ext result rfl)
        exact ⟨p.identifier,
          Template.mem_identifiers.mpr ⟨p, Template.mem_placeholders.mpr mem, rfl⟩, missing⟩
    | ok text => rw [result] at failed; cases failed

variable {R : Run → Run → Prop}

/-- Evaluation comes to a value if the sources of the identifiers are pinned, whatever filters do. -/
theorem evaluate_ok (chained : Run.Chained R) (follows : perform.Follows R) (scope : Scope)
    {t : Template} (sound : r.world.Sound)
    (pins : ∀ x ∈ t.identifiers, r.world.Pins scope.sources x) :
    ∃ value, (evaluate perform scope t r).1 = .ok value := by
  cases result : (evaluate perform scope t r).1 with
  | ok value => exact ⟨value, rfl⟩
  | error e =>
      obtain ⟨x, mem, missing, _⟩ := evaluate_error (Prod.ext result rfl)
      have goes := evaluate_follows chained follows scope t r sound
      have readable := ((pins x mem).of_grows (goes.grows chained) goes.returns).isSome_read?
      rw [missing] at readable
      cases readable

end LiveTemplate
