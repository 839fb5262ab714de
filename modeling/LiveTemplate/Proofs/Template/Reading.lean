import LiveTemplate.Proofs.Template.Composition
import LiveTemplate.Proofs.Template.Grammar

/-!
What a text is as a template.  Its placeholder segments are all the placeholders that the grammar finds in it,
in their order and with their places, and its literal segments are what stands between these; so the stretches
that the segments were read from make up the text.
-/

namespace LiveTemplate

/-- Whether a segment is literal text. -/
def Segment.isLiteral : Segment → Bool
  | .literal _ => true
  | .placeholder _ => false

/-- A text is read as segments, each from its own stretch of the text. -/
structure Reading (text : List Char) (segments : List Segment) (slices : List (List Char)) : Prop where
  length : slices.length = segments.length
  spells : slices.flatten = text
  /-- The placeholder segments are just the placeholders that occur in the text, each at its place. -/
  placeholder_iff : ∀ p before slice after, Occurs p text before slice after ↔
    ∃ i : Nat, segments[i]? = some (.placeholder p) ∧ slices[i]? = some slice ∧
      (slices.take i).flatten = before ∧ (slices.drop (i + 1)).flatten = after
  /-- A literal is its own stretch; it is not empty, and there is no placeholder in it. -/
  literal : ∀ (i : Nat) content, segments[i]? = some (.literal content) →
    slices[i]? = some content.toList ∧ content ≠ "" ∧ ¬ ∃ p before slice after, Occurs p content.toList before slice after
  apart : segments.IsChain fun one next => ¬ (one.isLiteral ∧ next.isLiteral)

namespace Reading

variable {p : Placeholder} {text slice front : List Char} {segments : List Segment} {slices : List (List Char)}

theorem nil : Reading [] [] [] where
  length := rfl
  spells := rfl
  placeholder_iff := by
    intro p before slice after
    refine iff_of_false (fun occurs => ?_) (fun ⟨i, nothing, _⟩ => by simp at nothing)
    exact findPlaceholder_eq_none rfl occurs
  literal := by
    intro i content nothing
    simp at nothing
  apart := .nil

/-- A text that begins with a placeholder. -/
theorem placeholder (isPlaceholder : IsPlaceholder p slice) (reading : Reading text segments slices) :
    Reading (slice ++ text) (.placeholder p :: segments) (slice :: slices) where
  length := congrArg (· + 1) reading.length
  spells := by rw [List.flatten_cons, reading.spells]
  placeholder_iff := by
    intro q before slice' after
    have here : Occurs p (slice ++ text) [] slice text := ⟨isPlaceholder, rfl⟩
    constructor
    · intro occurs
      rcases here.separate occurs with ⟨rfl, rfl, rfl, rfl⟩ | ⟨gap, rfl⟩ | ⟨gap, nothing⟩
      · exact ⟨0, rfl, rfl, rfl, reading.spells⟩
      · have split : slice ++ text = slice ++ (gap ++ slice' ++ after) := by simpa using occurs.split
        have later : Occurs q text gap slice' after := ⟨occurs.isPlaceholder, List.append_cancel_left split⟩
        obtain ⟨i, isSegment, isSlice, isBefore, isAfter⟩ := (reading.placeholder_iff ..).mp later
        exact ⟨i + 1, isSegment, isSlice, by simp [isBefore], isAfter⟩
      · simp [occurs.isPlaceholder.ne_nil] at nothing
    · rintro ⟨i, isSegment, isSlice, rfl, rfl⟩
      cases i with
      | zero =>
          cases isSegment
          cases isSlice
          exact ⟨isPlaceholder, by simp [reading.spells]⟩
      | succ i =>
          have later := (reading.placeholder_iff ..).mpr ⟨i, isSegment, isSlice, rfl, rfl⟩
          refine ⟨later.isPlaceholder, ?_⟩
          conv_lhs => rw [later.split]
          simp
  literal := by
    intro i content isSegment
    cases i with
    | zero => cases isSegment
    | succ i => exact reading.literal i content isSegment
  apart := by
    refine List.isChain_cons.mpr ⟨?_, reading.apart⟩
    rintro next - ⟨isLiteral, _⟩
    cases isLiteral

/-- A text that begins with literal text, up to its first placeholder. -/
theorem literal_append (notEmpty : front ≠ [])
    (first : ∀ q before slice after, Occurs q (front ++ text) before slice after → front.length ≤ before.length)
    (behind : ∀ next ∈ segments.head?, next.isLiteral = false) (reading : Reading text segments slices) :
    Reading (front ++ text) (.literal (String.ofList front) :: segments) (front :: slices) where
  length := congrArg (· + 1) reading.length
  spells := by rw [List.flatten_cons, reading.spells]
  placeholder_iff := by
    intro q before slice' after
    constructor
    · intro occurs
      have split := occurs.split
      rw [List.append_assoc] at split
      obtain ⟨gap, rfl⟩ : ∃ gap, before = front ++ gap := by
        rcases List.append_eq_append_iff.mp split with ⟨gap, isBefore, _⟩ | ⟨gap, isFront, _⟩
        · exact ⟨gap, isBefore⟩
        · have length := first _ _ _ _ occurs
          rw [isFront, List.length_append] at length
          have empty : gap = [] := List.eq_nil_of_length_eq_zero (by omega)
          exact ⟨[], by simp [isFront, empty]⟩
      rw [List.append_assoc] at split
      have later : Occurs q text gap slice' after :=
        ⟨occurs.isPlaceholder, by rw [List.append_cancel_left split, List.append_assoc]⟩
      obtain ⟨i, isSegment, isSlice, isBefore, isAfter⟩ := (reading.placeholder_iff ..).mp later
      exact ⟨i + 1, isSegment, isSlice, by simp [isBefore], isAfter⟩
    · rintro ⟨i, isSegment, isSlice, rfl, rfl⟩
      cases i with
      | zero => cases isSegment
      | succ i =>
          have later := (reading.placeholder_iff ..).mpr ⟨i, isSegment, isSlice, rfl, rfl⟩
          refine ⟨later.isPlaceholder, ?_⟩
          conv_lhs => rw [later.split]
          simp
  literal := by
    intro i content isSegment
    cases i with
    | succ i => exact reading.literal i content isSegment
    | zero =>
        cases isSegment
        rw [String.toList_ofList]
        refine ⟨rfl, by simpa using notEmpty, ?_⟩
        rintro ⟨q, before, slice, after, occurs⟩
        have inText : Occurs q (front ++ text) before slice (after ++ text) :=
          ⟨occurs.isPlaceholder, by rw [occurs.split, List.append_assoc]⟩
        have begins := first _ _ _ _ inText
        have positive := List.length_pos_iff.mpr occurs.isPlaceholder.ne_nil
        rw [occurs.split] at begins
        simp only [List.length_append] at begins
        omega
  apart := by
    refine List.isChain_cons.mpr ⟨?_, reading.apart⟩
    rintro next mem ⟨_, isLiteral⟩
    exact absurd isLiteral (by simp [behind next mem])

end Reading

/-- The segments of a text are a reading of it. -/
theorem reading_segmentsOf {fuel : Nat} {s : List Char} (enough : s.length ≤ fuel) :
    ∃ slices, Reading s (segmentsOf fuel s) slices := by
  induction fuel generalizing s with
  | zero =>
      have empty : s = [] := List.eq_nil_of_length_eq_zero (Nat.le_zero.mp enough)
      exact ⟨[], empty ▸ .nil⟩
  | succ fuel inductionHypothesis =>
      cases found : findPlaceholder s with
      | none =>
          have segments : segmentsOf (fuel + 1) s = literalSegment s := by simp only [segmentsOf, found]
          rw [segments, literalSegment]
          cases s with
          | nil => exact ⟨[], .nil⟩
          | cons c s =>
              have nothing : ∀ q before slice after, Occurs q (c :: s ++ []) before slice after →
                  (c :: s).length ≤ before.length := by
                intro q before slice after occurs
                rw [List.append_nil] at occurs
                exact (findPlaceholder_eq_none found occurs).elim
              have reading := Reading.nil.literal_append (List.cons_ne_nil c s) nothing (by simp)
              rw [List.append_nil] at reading
              exact ⟨_, reading⟩
      | some triple =>
          obtain ⟨front, p, rest⟩ := triple
          obtain ⟨⟨slice, occurs⟩, first⟩ := findPlaceholder_eq_some found
          have split := occurs.split
          rw [List.append_assoc] at split
          have shorter : rest.length ≤ fuel := by
            have positive := List.length_pos_iff.mpr occurs.isPlaceholder.ne_nil
            rw [split] at enough
            simp only [List.length_append] at enough
            omega
          obtain ⟨slices, reading⟩ := inductionHypothesis shorter
          have behind := reading.placeholder occurs.isPlaceholder
          have segments : segmentsOf (fuel + 1) s =
              literalSegment front ++ .placeholder p :: segmentsOf fuel rest := by simp only [segmentsOf, found]
          rw [segments, literalSegment]
          cases front with
          | nil => exact ⟨_, split ▸ behind⟩
          | cons c front =>
              have whole := behind.literal_append (List.cons_ne_nil c front) (split ▸ first) (by simp [Segment.isLiteral])
              exact ⟨_, split ▸ whole⟩

/-- What a text is as a template. -/
structure Parses (text : String) (t : Template) : Prop where
  source : t.source = text
  reading : ∃ slices, Reading text.toList t.segments slices
  /-- Placeholders of a text never overlap, and none can be read in two ways. -/
  separate : ∀ p q before before' slice slice' after after', Occurs p text.toList before slice after →
    Occurs q text.toList before' slice' after' →
      (before = before' ∧ p = q ∧ slice = slice' ∧ after = after') ∨
        (∃ between, before' = before ++ slice ++ between) ∨ ∃ between, before = before' ++ slice' ++ between
  hasPlaceholders_iff : t.hasPlaceholders ↔ ∃ p before slice after, Occurs p text.toList before slice after
  hasPlaceholdersText_iff : hasPlaceholders text ↔ ∃ p before slice after, Occurs p text.toList before slice after

/-- There are placeholders in a template just if some occur in its text. -/
theorem Reading.hasPlaceholders_iff {text : List Char} {t : Template} {slices : List (List Char)}
    (reading : Reading text t.segments slices) :
    t.hasPlaceholders ↔ ∃ p before slice after, Occurs p text before slice after := by
  have isSegment : t.hasPlaceholders ↔ ∃ p, .placeholder p ∈ t.segments := by
    rw [Template.hasPlaceholders, Bool.not_eq_true', List.isEmpty_eq_false_iff_exists_mem]
    exact exists_congr fun p => Template.mem_placeholders
  rw [isSegment]
  refine exists_congr fun p => ?_
  rw [List.mem_iff_getElem?]
  constructor
  · rintro ⟨i, isSegment⟩
    have inside : i < slices.length := reading.length ▸ (List.getElem?_eq_some_iff.mp isSegment).1
    exact ⟨_, slices[i], _, (reading.placeholder_iff ..).mpr ⟨i, isSegment, List.getElem?_eq_getElem inside, rfl, rfl⟩⟩
  · rintro ⟨before, slice, after, occurs⟩
    obtain ⟨i, isSegment, _⟩ := (reading.placeholder_iff ..).mp occurs
    exact ⟨i, isSegment⟩

/-- Templates are read by the grammar of placeholders: all of them are found, and nothing else is. -/
theorem parse_parses (text : String) : Parses text (Template.parse text) where
  source := rfl
  reading := reading_segmentsOf (Nat.le_refl _)
  separate := fun _ _ _ _ _ _ _ _ one other => one.separate other
  hasPlaceholders_iff := by
    obtain ⟨slices, reading⟩ := reading_segmentsOf (Nat.le_refl text.toList.length)
    exact Reading.hasPlaceholders_iff (t := Template.parse text) reading
  hasPlaceholdersText_iff := isSome_findPlaceholder_iff

end LiveTemplate
