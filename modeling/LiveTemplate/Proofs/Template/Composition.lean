import LiveTemplate.Template.Basic
import LiveTemplate.Value.Printer
import Mathlib.Data.List.Nodup

/-!
What a template is composed to, when identifiers have values and filters are functions.  This is the meaning
of a template without anything happening on the way; it depends on the values of its identifiers alone, and
there is one whenever each of them has a value.
-/

namespace LiveTemplate.Template

variable (read : String → Option Value) (pass : List String → Value → Value)

/-- The text of segments. -/
def composeSegments : List Segment → Option String
  | [] => some ""
  | .literal text :: rest => (composeSegments rest).map (text ++ ·)
  | .placeholder p :: rest =>
    match read p.identifier, composeSegments rest with
    | some value, some tail => some ((pass p.filters value).toText ++ tail)
    | _, _ => none

/-- The value of a template: of a bare one that of its placeholder, of any other a text. -/
def compose (t : Template) : Option Value :=
  match t.isBare, t.placeholders with
  | true, p :: _ => (read p.identifier).map (pass p.filters)
  | _, _ => (composeSegments read pass t.segments).map .string

/-! ### Identifiers and filters -/

private theorem mem_foldl_firstAppearances {names seen : List String} {x : String} :
    x ∈ names.foldl (fun seen name => if name ∈ seen then seen else seen ++ [name]) seen ↔
      x ∈ seen ∨ x ∈ names := by
  induction names generalizing seen with
  | nil => simp
  | cons name rest inductionHypothesis =>
      rw [List.foldl_cons, inductionHypothesis]
      split
      · next known =>
        constructor
        · exact Or.imp_right (List.mem_cons_of_mem _)
        · rintro (old | new)
          · exact Or.inl old
          · rcases List.mem_cons.mp new with rfl | inRest
            · exact Or.inl known
            · exact Or.inr inRest
      · simp only [List.mem_append, List.mem_cons, List.not_mem_nil, or_false, or_assoc]

private theorem nodup_foldl_firstAppearances {names seen : List String} (nodup : seen.Nodup) :
    (names.foldl (fun seen name => if name ∈ seen then seen else seen ++ [name]) seen).Nodup := by
  induction names generalizing seen with
  | nil => exact nodup
  | cons name rest inductionHypothesis =>
      rw [List.foldl_cons]
      apply inductionHypothesis
      split
      · exact nodup
      · next isNew =>
        refine List.nodup_append.mpr ⟨nodup, List.nodup_singleton _, ?_⟩
        intro x inSeen y isName same
        rw [same, List.mem_singleton.mp isName] at inSeen
        exact isNew inSeen

private theorem find?_foldl_firstAppearances {names seen : List String} (p : String → Bool) :
    (names.foldl (fun seen name => if name ∈ seen then seen else seen ++ [name]) seen).find? p =
      (seen ++ names).find? p := by
  induction names generalizing seen with
  | nil => simp
  | cons name rest inductionHypothesis =>
      rw [List.foldl_cons, inductionHypothesis]
      split
      · next known =>
        -- what has the property by its second appearance has it by its first
        rw [List.find?_append, List.find?_append, List.find?_cons]
        cases has : p name with
        | false => rfl
        | true =>
            obtain ⟨x, isFirst⟩ := Option.isSome_iff_exists.mp
              (List.find?_isSome.mpr ⟨name, known, has⟩)
            rw [isFirst, Option.some_or, Option.some_or]
      · rw [List.append_assoc, List.singleton_append]

/-- The identifiers are those of the placeholders. -/
theorem mem_identifiers {t : Template} {x : String} :
    x ∈ t.identifiers ↔ ∃ p ∈ t.placeholders, p.identifier = x := by
  simp only [identifiers, firstAppearances, mem_foldl_firstAppearances]
  simp

/-- No identifier is listed twice. -/
theorem nodup_identifiers (t : Template) : t.identifiers.Nodup :=
  nodup_foldl_firstAppearances List.nodup_nil

/-- The first identifier that has a property is that of the first placeholder whose identifier has it. -/
theorem find?_identifiers (t : Template) (p : String → Bool) :
    t.identifiers.find? p = (t.placeholders.map (·.identifier)).find? p :=
  find?_foldl_firstAppearances p

/-- The filters that are named are those of the placeholders. -/
theorem mem_filterNames {t : Template} {name : String} :
    name ∈ t.filterNames ↔ ∃ p ∈ t.placeholders, name ∈ p.filters := by
  simp only [filterNames, firstAppearances, mem_foldl_firstAppearances, List.mem_flatMap]
  simp

/-- No filter is listed twice, however often it is named. -/
theorem nodup_filterNames (t : Template) : t.filterNames.Nodup :=
  nodup_foldl_firstAppearances List.nodup_nil

theorem mem_placeholders {t : Template} {p : Placeholder} :
    p ∈ t.placeholders ↔ .placeholder p ∈ t.segments := by
  simp only [placeholders, List.mem_filterMap]
  constructor
  · rintro ⟨segment, mem, isPlaceholder⟩
    cases segment with
    | literal text => cases isPlaceholder
    | placeholder q => rw [← Option.some.inj isPlaceholder]; exact mem
  · intro mem
    exact ⟨_, mem, rfl⟩

/-! ### What the composition depends on -/

variable {read pass}

private theorem composeSegments_congr {read' : String → Option Value}
    {pass' : List String → Value → Value} {segments : List Segment} (same : pass = pass')
    (reads : ∀ p, .placeholder p ∈ segments → read p.identifier = read' p.identifier) :
    composeSegments read pass segments = composeSegments read' pass' segments := by
  induction segments with
  | nil => rfl
  | cons segment rest inductionHypothesis =>
      have tail := inductionHypothesis fun p mem => reads p (List.mem_cons_of_mem _ mem)
      cases segment with
      | literal text => rw [composeSegments, composeSegments, tail]
      | placeholder p =>
          rw [composeSegments, composeSegments, tail, reads p List.mem_cons_self, same]

/-- The composition depends on the values of the template's identifiers alone. -/
theorem compose_congr {read' : String → Option Value} {pass' : List String → Value → Value}
    {t : Template} (same : pass = pass') (reads : ∀ x ∈ t.identifiers, read x = read' x) :
    t.compose read pass = t.compose read' pass' := by
  have each : ∀ p ∈ t.placeholders, read p.identifier = read' p.identifier :=
    fun p mem => reads _ (mem_identifiers.mpr ⟨p, mem, rfl⟩)
  simp only [compose]
  split
  · next p rest _ list =>
    rw [each p (list ▸ List.mem_cons_self), same]
  · rw [composeSegments_congr same fun p mem => each p (mem_placeholders.mpr mem)]

private theorem isSome_composeSegments {segments : List Segment}
    (reads : ∀ p, .placeholder p ∈ segments → (read p.identifier).isSome) :
    (composeSegments read pass segments).isSome := by
  induction segments with
  | nil => rfl
  | cons segment rest inductionHypothesis =>
      have tail := inductionHypothesis fun p mem => reads p (List.mem_cons_of_mem _ mem)
      cases segment with
      | literal text => simpa [composeSegments] using tail
      | placeholder p =>
          obtain ⟨value, found⟩ := Option.isSome_iff_exists.mp (reads p List.mem_cons_self)
          obtain ⟨text, composed⟩ := Option.isSome_iff_exists.mp tail
          simp [composeSegments, found, composed]

/-- There is a composition if each identifier has a value. -/
theorem isSome_compose {t : Template} (reads : ∀ x ∈ t.identifiers, (read x).isSome) :
    (t.compose read pass).isSome := by
  have each : ∀ p ∈ t.placeholders, (read p.identifier).isSome :=
    fun p mem => reads _ (mem_identifiers.mpr ⟨p, mem, rfl⟩)
  simp only [compose]
  split
  · next p rest _ list =>
    rw [Option.isSome_map]
    exact each p (list ▸ List.mem_cons_self)
  · rw [Option.isSome_map]
    exact isSome_composeSegments fun p mem => each p (mem_placeholders.mpr mem)

end LiveTemplate.Template
