import LiveTemplate.Proofs.Run.Evaluation
import LiveTemplate.Proofs.Template.Printing

/-!
Filters that are not registered.  A value is passed on as it is where a placeholder names a filter that the
registry does not have.  The relations here say in the course of which evaluations this happens; they follow the
evaluation step by step, from one run to the next.  Where filters do nothing but compute, and all identifiers can
be read, every filter that a template names gets its turn, in the registry that there was at the start; so a value
is passed over just those filters of the template that are missing there.
-/

namespace LiveTemplate

section

variable (perform : Perform)

/-- A value on its way through filters is passed over one of that name, which is not registered when its turn
comes. -/
inductive PassesOver (q : RegistryId) : List String → Value → Run → String → Prop
  | here {name : String} {rest : List String} {value : Value} {r : Run}
      (unknown : (r.world.registry q).find? name = none) : PassesOver q (name :: rest) value r name
  | afterFilter {name other : String} {rest : List String} {value : Value} {r : Run} {f : FilterId}
      (found : (r.world.registry q).find? name = some f)
      (later : PassesOver q rest (callFilter perform f value r).1 (callFilter perform f value r).2 other) :
      PassesOver q (name :: rest) value r other
  | afterUnknown {name other : String} {rest : List String} {value : Value} {r : Run}
      (unknown : (r.world.registry q).find? name = none) (later : PassesOver q rest value r other) :
      PassesOver q (name :: rest) value r other

/-- The value of a placeholder is passed over a filter. -/
def PlaceholderPassesOver (scope : Scope) (p : Placeholder) (r : Run) (name : String) : Prop :=
  ∃ value, r.world.read? scope.sources p.identifier = some value ∧
    PassesOver perform scope.registry p.filters value r name

/-- The value of one of the placeholders among some segments is passed over a filter; the evaluation has come to
this placeholder because all those before it have a value. -/
inductive SegmentsPassOver (scope : Scope) : List Segment → Run → String → Prop
  | afterLiteral {text name : String} {rest : List Segment} {r : Run}
      (later : SegmentsPassOver scope rest r name) : SegmentsPassOver scope (.literal text :: rest) r name
  | here {p : Placeholder} {rest : List Segment} {r : Run} {name : String}
      (passes : PlaceholderPassesOver perform scope p r name) :
      SegmentsPassOver scope (.placeholder p :: rest) r name
  | afterPlaceholder {p : Placeholder} {rest : List Segment} {r : Run} {name : String} {value : Value}
      (isValue : (evaluatePlaceholder perform scope p r).1 = .ok value)
      (later : SegmentsPassOver scope rest (evaluatePlaceholder perform scope p r).2 name) :
      SegmentsPassOver scope (.placeholder p :: rest) r name

/-- The evaluation of a template passes a value over a filter that is not registered. -/
def EvaluationPassesOver (scope : Scope) (t : Template) (r : Run) (name : String) : Prop :=
  match t.isBare, t.placeholders with
  | true, p :: _ => PlaceholderPassesOver perform scope p r name
  | _, _ => SegmentsPassOver perform scope t.segments r name

end

variable {perform : Perform} {r : Run} {q : RegistryId} {scope : Scope} {name : String}

/-- Calling a filter that does nothing but compute leaves everything but the count of its calls. -/
theorem callFilter_counted (nothing : perform [] = pure ()) {f : FilterId}
    (found : (r.world.registry q).find? name = some f) (quiet : r.world.QuietOn q [name]) (value : Value) :
    World.Counted r.world (callFilter perform f value r).2.world := by
  have applied : applyFilters perform q [name] value r = callFilter perform f value r := by
    simp only [applyFilters, Act.run_bind, Act.run_world, found]
    rfl
  rw [← applied]
  exact (applyFilters_quiet nothing q [name] value r quiet).2

/-- Every filter gets its turn. -/
theorem passesOver_iff (nothing : perform [] = pure ()) {names : List String} {value : Value}
    (quiet : r.world.QuietOn q names) :
    PassesOver perform q names value r name ↔ name ∈ names ∧ (r.world.registry q).find? name = none := by
  induction names generalizing value r with
  | nil => exact iff_of_false nofun fun both => List.not_mem_nil both.1
  | cons first rest inductionHypothesis =>
      have quietRest : r.world.QuietOn q rest := fun other mem => quiet other (List.mem_cons_of_mem _ mem)
      cases registered : (r.world.registry q).find? first with
      | some f =>
          have quietFirst : r.world.QuietOn q [first] :=
            fun other mem => quiet other (List.mem_singleton.mp mem ▸ List.mem_cons_self)
          have counted := callFilter_counted nothing registered quietFirst value
          have others : PassesOver perform q rest (callFilter perform f value r).1
              (callFilter perform f value r).2 name ↔ name ∈ rest ∧ (r.world.registry q).find? name = none := by
            rw [← counted.registry]
            exact inductionHypothesis (counted.quietOn quietRest)
          constructor
          · intro passes
            cases passes with
            | here unknown => cases registered.symm.trans unknown
            | afterUnknown unknown => cases registered.symm.trans unknown
            | afterFilter found later =>
                cases registered.symm.trans found
                exact (others.mp later).imp_left (List.mem_cons_of_mem _)
          · rintro ⟨mem, missing⟩
            rcases List.mem_cons.mp mem with rfl | inRest
            · cases registered.symm.trans missing
            · exact .afterFilter registered (others.mpr ⟨inRest, missing⟩)
      | none =>
          have others : PassesOver perform q rest value r name ↔
              name ∈ rest ∧ (r.world.registry q).find? name = none := inductionHypothesis quietRest
          constructor
          · intro passes
            cases passes with
            | here unknown => exact ⟨List.mem_cons_self, unknown⟩
            | afterUnknown _ later => exact (others.mp later).imp_left (List.mem_cons_of_mem _)
            | afterFilter found => cases registered.symm.trans found
          · rintro ⟨mem, missing⟩
            rcases List.mem_cons.mp mem with rfl | inRest
            · exact .here missing
            · exact .afterUnknown registered (others.mpr ⟨inRest, missing⟩)

theorem placeholderPassesOver_iff (nothing : perform [] = pure ()) {p : Placeholder}
    (quiet : r.world.QuietOn scope.registry p.filters)
    (readable : (r.world.read? scope.sources p.identifier).isSome) :
    PlaceholderPassesOver perform scope p r name ↔
      name ∈ p.filters ∧ (r.world.registry scope.registry).find? name = none := by
  obtain ⟨value, isValue⟩ := Option.isSome_iff_exists.mp readable
  constructor
  · rintro ⟨_, _, passes⟩
    exact (passesOver_iff nothing quiet).mp passes
  · intro missing
    exact ⟨value, isValue, (passesOver_iff nothing quiet).mpr missing⟩

/-- Every placeholder gets its turn. -/
theorem segmentsPassOver_iff (nothing : perform [] = pure ()) {segments : List Segment}
    (quiet : ∀ p, .placeholder p ∈ segments → r.world.QuietOn scope.registry p.filters)
    (readable : ∀ p, .placeholder p ∈ segments → (r.world.read? scope.sources p.identifier).isSome) :
    SegmentsPassOver perform scope segments r name ↔
      (∃ p, .placeholder p ∈ segments ∧ name ∈ p.filters) ∧
        (r.world.registry scope.registry).find? name = none := by
  induction segments generalizing r with
  | nil =>
      refine iff_of_false nofun ?_
      rintro ⟨⟨p, mem, _⟩, _⟩
      cases mem
  | cons segment rest inductionHypothesis =>
      have quietRest := fun p mem => quiet p (List.mem_cons_of_mem _ mem)
      have readableRest := fun p mem => readable p (List.mem_cons_of_mem _ mem)
      cases segment with
      | literal text =>
          have others := inductionHypothesis quietRest readableRest
          constructor
          · intro passes
            cases passes with
            | afterLiteral later =>
                obtain ⟨⟨p, mem, named⟩, missing⟩ := others.mp later
                exact ⟨⟨p, List.mem_cons_of_mem _ mem, named⟩, missing⟩
          · rintro ⟨⟨p, mem, named⟩, missing⟩
            have inRest : .placeholder p ∈ rest := (List.mem_cons.mp mem).resolve_left nofun
            exact .afterLiteral (others.mpr ⟨⟨p, inRest, named⟩, missing⟩)
      | placeholder p =>
          have quietHere := quiet p List.mem_cons_self
          have readableHere := readable p List.mem_cons_self
          obtain ⟨result, counted⟩ := evaluatePlaceholder_quiet nothing scope p r quietHere
          have here : PlaceholderPassesOver perform scope p r name ↔
              name ∈ p.filters ∧ (r.world.registry scope.registry).find? name = none :=
            placeholderPassesOver_iff nothing quietHere readableHere
          have others := inductionHypothesis (r := (evaluatePlaceholder perform scope p r).2)
            (fun other mem => counted.quietOn (quietRest other mem))
            (fun other mem => by rw [counted.read?]; exact readableRest other mem)
          rw [counted.registry] at others
          constructor
          · intro passes
            cases passes with
            | here passes =>
                obtain ⟨named, missing⟩ := here.mp passes
                exact ⟨⟨p, List.mem_cons_self, named⟩, missing⟩
            | afterPlaceholder _ later =>
                obtain ⟨⟨other, mem, named⟩, missing⟩ := others.mp later
                exact ⟨⟨other, List.mem_cons_of_mem _ mem, named⟩, missing⟩
          · rintro ⟨⟨other, mem, named⟩, missing⟩
            rcases List.mem_cons.mp mem with same | inRest
            · cases same
              exact .here (here.mpr ⟨named, missing⟩)
            · obtain ⟨read, isRead⟩ := Option.isSome_iff_exists.mp readableHere
              rw [isRead] at result
              cases first : (evaluatePlaceholder perform scope p r).1 with
              | error e => rw [first] at result; cases result
              | ok value => exact .afterPlaceholder first (others.mpr ⟨⟨other, inRest, named⟩, missing⟩)

/-- The evaluation of a template passes over the filters that it names and that are not registered. -/
theorem evaluationPassesOver_iff (nothing : perform [] = pure ()) {text : String}
    (quiet : ∀ p ∈ (Template.parse text).placeholders, r.world.QuietOn scope.registry p.filters)
    (readable : ∀ x ∈ (Template.parse text).identifiers, (r.world.read? scope.sources x).isSome) :
    EvaluationPassesOver perform scope (Template.parse text) r name ↔
      name ∈ (Template.parse text).filterNames ∧ (r.world.registry scope.registry).find? name = none := by
  have readableAt : ∀ p ∈ (Template.parse text).placeholders,
      (r.world.read? scope.sources p.identifier).isSome :=
    fun p mem => readable p.identifier (Template.mem_identifiers.mpr ⟨p, mem, rfl⟩)
  rw [Template.mem_filterNames]
  cases bare : (Template.parse text).isBare with
  | true =>
      -- only the first placeholder is evaluated, but there is no other
      obtain ⟨⟨p, only⟩, _⟩ := Template.isBare_iff.mp bare
      have mem : p ∈ (Template.parse text).placeholders := only ▸ List.mem_singleton_self p
      have evaluated : EvaluationPassesOver perform scope (Template.parse text) r name ↔
          PlaceholderPassesOver perform scope p r name := by
        simp only [EvaluationPassesOver, bare, only]
      rw [evaluated, placeholderPassesOver_iff nothing (quiet p mem) (readableAt p mem), only]
      simp only [List.mem_singleton, exists_eq_left]
  | false =>
      have evaluated : EvaluationPassesOver perform scope (Template.parse text) r name ↔
          SegmentsPassOver perform scope (Template.parse text).segments r name := by
        simp only [EvaluationPassesOver, bare]
      rw [evaluated, segmentsPassOver_iff nothing
        (fun p mem => quiet p (Template.mem_placeholders.mpr mem))
        (fun p mem => readableAt p (Template.mem_placeholders.mpr mem))]
      simp only [Template.mem_placeholders]

end LiveTemplate
