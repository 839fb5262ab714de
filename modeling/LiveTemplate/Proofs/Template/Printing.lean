import LiveTemplate.Proofs.Template.Reading

/-!
Templates in print.  Literals are printed as they stand and placeholders with any blanks around their names.  A
list of segments that could come from a text is read back from its print: where a literal and a placeholder meet,
a placeholder that begins in the literal would overlap the one that is printed there, and two placeholders never
overlap.  Whether a template is bare, which is found out on the trimmed text, can be told from its segments.
-/

namespace LiveTemplate

/-! ### The printer -/

instance (s : List Char) : Decidable (IsBlanks s) :=
  List.decidableBAll (fun c => Text.isBlank c = true) s

/-- The blanks around a name. -/
structure Padding where
  before : List Char
  after : List Char
  blankBefore : IsBlanks before
  blankAfter : IsBlanks after

/-- No blanks around a name. -/
def Padding.none : Padding where
  before := []
  after := []
  blankBefore := nofun
  blankAfter := nofun

/-- A first value and those that follow it. -/
def putFirst {α : Type} (first : α) (others : Nat → α) : Nat → α
  | 0 => first
  | i + 1 => others i

/-- A name with the blanks around it. -/
def printToken (padding : Padding) (name : String) : List Char :=
  padding.before ++ name.toList ++ padding.after

/-- Filters, each behind a bar, with the blanks around each. -/
def printFilters (padding : Nat → Padding) : List String → List Char
  | [] => []
  | name :: names => '|' :: (printToken (padding 0) name ++ printFilters (fun i => padding (i + 1)) names)

/-- A placeholder, with the blanks around its identifier and then those around each of its filters. -/
def printPlaceholder (padding : Nat → Padding) (p : Placeholder) : List Char :=
  '{' :: '{' :: (printToken (padding 0) p.identifier ++ printFilters (fun i => padding (i + 1)) p.filters ++
    ['}', '}'])

/-- A literal as it stands, or a placeholder. -/
def Segment.print (padding : Nat → Padding) : Segment → List Char
  | .literal text => text.toList
  | .placeholder p => printPlaceholder padding p

/-- Segments one after the other, with the blanks in each. -/
def printSegments (padding : Nat → Nat → Padding) : List Segment → List Char
  | [] => []
  | segment :: rest => segment.print (padding 0) ++ printSegments (fun i => padding (i + 1)) rest

/-- A placeholder all of whose names are names. -/
def Placeholder.IsNamed (p : Placeholder) : Prop :=
  isName p.identifier ∧ ∀ filter ∈ p.filters, isName filter

instance (p : Placeholder) : Decidable p.IsNamed :=
  inferInstanceAs (Decidable (_ ∧ _))

/-- A text is a token just if it is the print of a name. -/
theorem isToken_iff {name : String} {s : List Char} :
    IsToken name s ↔ isName name ∧ ∃ padding, s = printToken padding name := by
  constructor
  · rintro ⟨before, after, blanksBefore, named, blanksAfter, rfl⟩
    exact ⟨named, ⟨before, after, blanksBefore, blanksAfter⟩, rfl⟩
  · rintro ⟨named, padding, rfl⟩
    exact ⟨_, _, padding.blankBefore, named, padding.blankAfter, rfl⟩

/-- A text is a list of filters just if it is the print of their names. -/
theorem isFilters_iff {names : List String} {s : List Char} :
    IsFilters names s ↔ (∀ name ∈ names, isName name) ∧ ∃ padding, s = printFilters padding names := by
  constructor
  · intro isFilters
    induction isFilters with
    | nil => exact ⟨nofun, fun _ => .none, rfl⟩
    | cons isToken _ inductionHypothesis =>
        obtain ⟨named, first, rfl⟩ := isToken_iff.mp isToken
        obtain ⟨others, padding, rfl⟩ := inductionHypothesis
        exact ⟨List.forall_mem_cons.mpr ⟨named, others⟩, putFirst first padding, rfl⟩
  · rintro ⟨named, padding, rfl⟩
    induction names generalizing padding with
    | nil => exact .nil
    | cons name names inductionHypothesis =>
        obtain ⟨isFirst, others⟩ := List.forall_mem_cons.mp named
        exact .cons (isToken_iff.mpr ⟨isFirst, _, rfl⟩) (inductionHypothesis others _)

/-- A text is a placeholder just if it is the print of one. -/
theorem isPlaceholder_iff {p : Placeholder} {s : List Char} :
    IsPlaceholder p s ↔ p.IsNamed ∧ ∃ padding, s = printPlaceholder padding p := by
  constructor
  · rintro ⟨token, filters, isToken, isFilters, rfl⟩
    obtain ⟨named, first, rfl⟩ := isToken_iff.mp isToken
    obtain ⟨others, padding, rfl⟩ := isFilters_iff.mp isFilters
    exact ⟨⟨named, others⟩, putFirst first padding, rfl⟩
  · rintro ⟨⟨named, others⟩, padding, rfl⟩
    exact ⟨_, _, isToken_iff.mpr ⟨named, _, rfl⟩, isFilters_iff.mpr ⟨others, _, rfl⟩, rfl⟩

/-- The print of a placeholder is this placeholder. -/
theorem Placeholder.IsNamed.isPlaceholder {p : Placeholder} (named : p.IsNamed) (padding : Nat → Padding) :
    IsPlaceholder p (printPlaceholder padding p) :=
  isPlaceholder_iff.mpr ⟨named, padding, rfl⟩

/-! ### Where segments meet -/

/-- Whether there is no placeholder in a text. -/
def IsPlain (s : List Char) : Prop :=
  ¬ ∃ p before slice after, Occurs p s before slice after

theorem isPlain_iff {s : List Char} : IsPlain s ↔ findPlaceholder s = none := by
  rw [IsPlain, ← isSome_findPlaceholder_iff, Bool.not_eq_true, Option.isSome_eq_false_iff, Option.isNone_iff_eq_none]

instance (s : List Char) : Decidable (IsPlain s) :=
  decidable_of_iff _ isPlain_iff.symm

section Seams

variable {p : Placeholder} {front slice rest : List Char}

/-- Behind text without placeholders, the first placeholder is the one that follows. -/
theorem findPlaceholder_append (plain : IsPlain front) (isPlaceholder : IsPlaceholder p slice) :
    findPlaceholder (front ++ (slice ++ rest)) = some (front, p, rest) := by
  have here : Occurs p (front ++ (slice ++ rest)) front slice rest :=
    ⟨isPlaceholder, (List.append_assoc _ _ _).symm⟩
  have positive := List.length_pos_iff.mpr isPlaceholder.ne_nil
  cases found : findPlaceholder (front ++ (slice ++ rest)) with
  | none => exact (findPlaceholder_eq_none found here).elim
  | some triple =>
      obtain ⟨before, q, after⟩ := triple
      obtain ⟨⟨slice', occurs⟩, first⟩ := findPlaceholder_eq_some found
      have least := first _ _ _ _ here
      rcases here.separate occurs with ⟨rfl, rfl, rfl, rfl⟩ | ⟨between, rfl⟩ | ⟨between, rfl⟩
      · rfl
      · -- it would begin behind the one that follows
        simp only [List.length_append] at least
        omega
      · -- it would lie in front of it
        exact absurd ⟨q, before, slice', between, occurs.isPlaceholder, rfl⟩ plain

/-- More fuel than there are characters changes nothing. -/
theorem segmentsOf_eq {fuel fuel' : Nat} {s : List Char} (enough : s.length ≤ fuel) (enough' : s.length ≤ fuel') :
    segmentsOf fuel s = segmentsOf fuel' s := by
  have noFuel : ∀ fuel, segmentsOf fuel [] = [] := by
    intro fuel
    cases fuel <;> rfl
  induction fuel generalizing fuel' s with
  | zero =>
      obtain rfl := List.eq_nil_of_length_eq_zero (Nat.le_zero.mp enough)
      rw [noFuel, noFuel]
  | succ fuel inductionHypothesis =>
      cases fuel' with
      | zero =>
          obtain rfl := List.eq_nil_of_length_eq_zero (Nat.le_zero.mp enough')
          rw [noFuel, noFuel]
      | succ fuel' =>
          simp only [segmentsOf]
          cases found : findPlaceholder s with
          | none => rfl
          | some triple =>
              obtain ⟨front, p, rest⟩ := triple
              obtain ⟨⟨slice, occurs⟩, _⟩ := findPlaceholder_eq_some found
              have positive := List.length_pos_iff.mpr occurs.isPlaceholder.ne_nil
              have length := congrArg List.length occurs.split
              simp only [List.length_append] at length
              have same : segmentsOf fuel rest = segmentsOf fuel' rest :=
                inductionHypothesis (by omega) (by omega)
              simp only [same]

/-- The segments of a text without placeholders. -/
theorem segmentsOf_plain {s : List Char} (plain : IsPlain s) (fuel : Nat) : segmentsOf fuel s = literalSegment s := by
  cases fuel with
  | zero => rfl
  | succ fuel => simp only [segmentsOf, isPlain_iff.mp plain]

/-- The segments of a text that begins with text without placeholders and goes on with a placeholder. -/
theorem segmentsOf_append (plain : IsPlain front) (isPlaceholder : IsPlaceholder p slice) (rest : List Char) :
    segmentsOf (front ++ (slice ++ rest)).length (front ++ (slice ++ rest)) =
      literalSegment front ++ .placeholder p :: segmentsOf rest.length rest := by
  have positive := List.length_pos_iff.mpr isPlaceholder.ne_nil
  obtain ⟨fuel, isFuel⟩ : ∃ fuel, (front ++ (slice ++ rest)).length = fuel + 1 :=
    Nat.exists_eq_succ_of_ne_zero (by simp only [List.length_append]; omega)
  have enough : rest.length ≤ fuel := by
    simp only [List.length_append] at isFuel
    omega
  rw [isFuel, segmentsOf, findPlaceholder_append plain isPlaceholder]
  simp only [segmentsOf_eq enough (Nat.le_refl _)]

end Seams

/-! ### Segments that are read back -/

/-- A segment that could come from a text. -/
def Segment.IsSound : Segment → Prop
  | .literal text => text ≠ "" ∧ IsPlain text.toList
  | .placeholder p => p.IsNamed

instance : DecidablePred Segment.IsSound
  | .literal _ => inferInstanceAs (Decidable (_ ∧ _))
  | .placeholder p => inferInstanceAs (Decidable p.IsNamed)

/-- A list of segments that could come from a text: no two literals stand side by side. -/
structure IsNormal (segments : List Segment) : Prop where
  sound : ∀ segment ∈ segments, segment.IsSound
  apart : segments.IsChain fun one next => ¬ (one.isLiteral ∧ next.isLiteral)

theorem isNormal_iff {segments : List Segment} : IsNormal segments ↔
    (∀ segment ∈ segments, segment.IsSound) ∧
      segments.IsChain fun one next => ¬ (one.isLiteral ∧ next.isLiteral) :=
  ⟨fun normal => ⟨normal.sound, normal.apart⟩, fun ⟨sound, apart⟩ => ⟨sound, apart⟩⟩

instance (segments : List Segment) : Decidable (IsNormal segments) :=
  decidable_of_iff _ isNormal_iff.symm

theorem IsNormal.of_cons {segment : Segment} {segments : List Segment} (normal : IsNormal (segment :: segments)) :
    IsNormal segments where
  sound other mem := normal.sound other (List.mem_cons_of_mem _ mem)
  apart := normal.apart.tail

theorem eq_of_mem_literalSegment {segment : Segment} {s : List Char} (mem : segment ∈ literalSegment s) :
    segment = .literal (String.ofList s) := by
  rw [literalSegment] at mem
  split at mem
  · cases mem
  · exact List.mem_singleton.mp mem

theorem literalSegment_toList {text : String} (notEmpty : text ≠ "") : literalSegment text.toList = [.literal text] := by
  have notNil : text.toList ≠ [] := fun nil => notEmpty (String.toList_eq_nil_iff.mp nil)
  rw [literalSegment, if_neg (by simpa using notNil), String.ofList_toList]

/-- A normal list of segments is read back from its print. -/
theorem segmentsOf_printSegments : ∀ {segments : List Segment} (_ : IsNormal segments) (padding : Nat → Nat → Padding),
    segmentsOf (printSegments padding segments).length (printSegments padding segments) = segments
  | [], _, _ => rfl
  | .placeholder p :: rest, normal, padding => by
      have named : p.IsNamed := normal.sound (.placeholder p) List.mem_cons_self
      have nothing : IsPlain [] := isPlain_iff.mpr rfl
      have here := segmentsOf_append nothing (named.isPlaceholder (padding 0))
        (printSegments (fun i => padding (i + 1)) rest)
      rw [segmentsOf_printSegments normal.of_cons] at here
      exact here
  | [.literal text], normal, _ => by
      obtain ⟨notEmpty, plain⟩ := normal.sound (.literal text) List.mem_cons_self
      simp only [printSegments, Segment.print, List.append_nil]
      rw [segmentsOf_plain plain, literalSegment_toList notEmpty]
  | .literal text :: .placeholder p :: rest, normal, padding => by
      obtain ⟨notEmpty, plain⟩ := normal.sound (.literal text) List.mem_cons_self
      have named : p.IsNamed := normal.of_cons.sound (.placeholder p) List.mem_cons_self
      have here := segmentsOf_append plain (named.isPlaceholder (padding 1))
        (printSegments (fun i => padding (i + 2)) rest)
      rw [segmentsOf_printSegments normal.of_cons.of_cons, literalSegment_toList notEmpty] at here
      exact here
  | .literal _ :: .literal _ :: _, normal, _ =>
      absurd ⟨rfl, rfl⟩ (List.isChain_cons_cons.mp normal.apart).1

theorem printSegments_append (padding : Nat → Nat → Padding) (front back : List Segment) :
    printSegments padding (front ++ back) =
      printSegments padding front ++ printSegments (fun i => padding (front.length + i)) back := by
  induction front generalizing padding with
  | nil => simp [printSegments]
  | cons segment front inductionHypothesis =>
      rw [List.cons_append, printSegments, inductionHypothesis, printSegments, List.append_assoc]
      simp only [List.length_cons, Nat.add_assoc, Nat.add_comm 1]

/-- Blank literals are printed as blanks. -/
theorem isBlanks_printSegments {segments : List Segment}
    (blank : ∀ segment ∈ segments, ∃ content, segment = .literal content ∧ IsBlanks content.toList)
    (padding : Nat → Nat → Padding) : IsBlanks (printSegments padding segments) := by
  induction segments generalizing padding with
  | nil => exact nofun
  | cons segment segments inductionHypothesis =>
      obtain ⟨⟨content, rfl, isBlank⟩, others⟩ := List.forall_mem_cons.mp blank
      exact List.forall_mem_append.mpr ⟨isBlank, inductionHypothesis others _⟩

/-- Stretches that are the prints of segments, one by one, make up the print of all. -/
theorem exists_printSegments {segments : List Segment} {slices : List (List Char)}
    (length : slices.length = segments.length)
    (each : ∀ (i : Nat) segment slice, segments[i]? = some segment → slices[i]? = some slice →
      ∃ padding, slice = segment.print padding) : ∃ padding, printSegments padding segments = slices.flatten := by
  induction segments generalizing slices with
  | nil =>
      obtain rfl := List.eq_nil_of_length_eq_zero length
      exact ⟨fun _ _ => .none, rfl⟩
  | cons segment segments inductionHypothesis =>
      cases slices with
      | nil => cases length
      | cons slice slices =>
          obtain ⟨first, rfl⟩ := each 0 segment slice rfl rfl
          obtain ⟨others, printed⟩ := inductionHypothesis (Nat.succ.inj length) fun i => each (i + 1)
          refine ⟨putFirst first others, ?_⟩
          rw [List.flatten_cons, ← printed]
          rfl

namespace Reading

variable {text : List Char} {segments : List Segment} {slices : List (List Char)}

/-- A placeholder of a reading stands in its stretch. -/
theorem isPlaceholder_of_getElem? (reading : Reading text segments slices) {p : Placeholder} {i : Nat}
    {slice : List Char} (isSegment : segments[i]? = some (.placeholder p)) (isSlice : slices[i]? = some slice) :
    IsPlaceholder p slice :=
  ((reading.placeholder_iff ..).mpr ⟨i, isSegment, isSlice, rfl, rfl⟩).isPlaceholder

/-- What a text is read as is normal. -/
theorem isNormal (reading : Reading text segments slices) : IsNormal segments where
  sound segment mem := by
    obtain ⟨i, isSegment⟩ := List.mem_iff_getElem?.mp mem
    have inside : i < slices.length := reading.length ▸ (List.getElem?_eq_some_iff.mp isSegment).1
    cases segment with
    | literal content => exact (reading.literal i content isSegment).2
    | placeholder p =>
        exact (isPlaceholder_iff.mp (reading.isPlaceholder_of_getElem? isSegment (List.getElem?_eq_getElem inside))).1
  apart := reading.apart

/-- A text is the print of what it is read as. -/
theorem exists_print (reading : Reading text segments slices) : ∃ padding, printSegments padding segments = text := by
  rw [← reading.spells]
  apply exists_printSegments reading.length
  intro i segment slice isSegment isSlice
  cases segment with
  | literal content =>
      have same := (reading.literal i content isSegment).1.symm.trans isSlice
      exact ⟨fun _ => .none, (Option.some.inj same).symm⟩
  | placeholder p => exact (isPlaceholder_iff.mp (reading.isPlaceholder_of_getElem? isSegment isSlice)).2

end Reading

/-- The segments of a text are normal, and the text is a print of them. -/
theorem Template.parse_isNormal (text : String) :
    IsNormal (Template.parse text).segments ∧
      ∃ padding, printSegments padding (Template.parse text).segments = text.toList := by
  obtain ⟨slices, reading⟩ := reading_segmentsOf (Nat.le_refl text.toList.length)
  exact ⟨reading.isNormal, reading.exists_print⟩

/-- A normal list of segments is what its print is parsed to. -/
theorem Template.parse_print {segments : List Segment} (normal : IsNormal segments)
    (padding : Nat → Nat → Padding) :
    (Template.parse (String.ofList (printSegments padding segments))).segments = segments := by
  simp only [Template.parse, String.toList_ofList]
  exact segmentsOf_printSegments normal padding

/-! ### Bare templates -/

section Trimming

variable {front s back : List Char}

/-- A text is its trimmed text between blanks. -/
theorem Text.exists_blanks (s : List Char) :
    ∃ front back, IsBlanks front ∧ IsBlanks back ∧ s = front ++ (Text.trimChars s ++ back) := by
  have trimmed : s.dropWhile Text.isBlank =
      Text.trimChars s ++ ((s.dropWhile Text.isBlank).reverse.takeWhile Text.isBlank).reverse := by
    rw [Text.trimChars, Text.trimEndChars, ← List.reverse_append, List.takeWhile_append_dropWhile,
      List.reverse_reverse]
  refine ⟨s.takeWhile Text.isBlank, ((s.dropWhile Text.isBlank).reverse.takeWhile Text.isBlank).reverse,
    fun _ mem => List.mem_takeWhile_imp mem, ?_, ?_⟩
  · exact fun _ mem => List.mem_takeWhile_imp (List.mem_reverse.mp mem)
  · rw [← trimmed, List.takeWhile_append_dropWhile]

/-- Trimming takes off all the blanks around a text, if this has none at its ends itself. -/
theorem Text.trimChars_append (blankFront : IsBlanks front) (blankBack : IsBlanks back)
    (begins : ∀ c ∈ s.head?, Text.isBlank c = false) (stops : ∀ c ∈ s.getLast?, Text.isBlank c = false)
    (notEmpty : s ≠ []) : Text.trimChars (front ++ (s ++ back)) = s := by
  have atFront : (front ++ (s ++ back)).dropWhile Text.isBlank = s ++ back := by
    apply dropWhile_append_of_head? blankFront
    rwa [List.head?_append_of_ne_nil s notEmpty]
  have atBack : (back.reverse ++ s.reverse).dropWhile Text.isBlank = s.reverse := by
    apply dropWhile_append_of_head? fun c mem => blankBack c (List.mem_reverse.mp mem)
    rwa [List.head?_reverse]
  rw [Text.trimChars, Text.trimEndChars, atFront, List.reverse_append, atBack, List.reverse_reverse]

theorem IsBlanks.isPlain (blanks : IsBlanks s) : IsPlain s := by
  rintro ⟨p, before, slice, after, isPlaceholder, rfl⟩
  obtain ⟨inner, rfl, _⟩ := isPlaceholder.exists_inner
  exact absurd (blanks '{' (by simp)) (by decide)

theorem IsPlaceholder.trimChars {p : Placeholder} (isPlaceholder : IsPlaceholder p s) (blankFront : IsBlanks front)
    (blankBack : IsBlanks back) : Text.trimChars (front ++ (s ++ back)) = s := by
  obtain ⟨token, filters, _, _, rfl⟩ := isPlaceholder
  apply Text.trimChars_append blankFront blankBack
  · rintro c ⟨⟩
    decide
  · intro c isLast
    have isBrace : ('{' :: '{' :: (token ++ filters ++ ['}', '}'])).getLast? = some '}' :=
      List.getLast?_append_cons ('{' :: '{' :: (token ++ filters)) '}' ['}']
    cases isLast.symm.trans isBrace
    decide
  · exact List.cons_ne_nil _ _

/-- The print of a placeholder is left as it is. -/
theorem Placeholder.IsNamed.trimChars_print {p : Placeholder} (named : p.IsNamed) (padding : Nat → Padding) :
    IsPlaceholder p (Text.trimChars (String.ofList (printPlaceholder padding p)).toList) := by
  have trimmed := (named.isPlaceholder padding).trimChars Padding.none.blankBefore Padding.none.blankAfter
  rw [Padding.none, List.append_nil, List.nil_append] at trimmed
  rw [String.toList_ofList, trimmed]
  exact named.isPlaceholder padding

end Trimming

namespace Template

/-- A text is bare just if a placeholder is left of it when it is trimmed. -/
theorem isBareText_iff {s : List Char} : isBareText s ↔ ∃ p, IsPlaceholder p (Text.trimChars s) := by
  constructor
  · intro bare
    rw [isBareText] at bare
    split at bare
    · next p rest read =>
      obtain ⟨slice, isPlaceholder, split⟩ := readPlaceholder_eq_some_iff.mp read
      rw [List.isEmpty_iff.mp bare, List.append_nil] at split
      exact ⟨p, split ▸ isPlaceholder⟩
    · cases bare
  · rintro ⟨p, isPlaceholder⟩
    have read : readPlaceholder (Text.trimChars s) = some (p, []) :=
      readPlaceholder_eq_some_iff.mpr ⟨_, isPlaceholder, (List.append_nil _).symm⟩
    simp only [isBareText, read, List.isEmpty_nil]

/-- Of a text a placeholder is left when it is trimmed just if this is the only placeholder in it, and its
literals are blanks. -/
theorem isPlaceholder_trim_iff {text : String} {p : Placeholder} :
    IsPlaceholder p (Text.trimChars text.toList) ↔ (parse text).placeholders = [p] ∧
      ∀ content, .literal content ∈ (parse text).segments → IsBlanks content.toList := by
  constructor
  · intro isPlaceholder
    obtain ⟨front, back, blankFront, blankBack, split⟩ := Text.exists_blanks text.toList
    have segments : (parse text).segments = literalSegment front ++ .placeholder p :: literalSegment back := by
      rw [parse, split, segmentsOf_append blankFront.isPlain isPlaceholder, segmentsOf_plain blankBack.isPlain]
    rw [placeholders, segments]
    constructor
    · rw [List.filterMap_append, List.filterMap_cons,
        List.filterMap_eq_nil_iff.mpr fun segment mem => eq_of_mem_literalSegment mem ▸ rfl,
        List.filterMap_eq_nil_iff.mpr fun segment mem => eq_of_mem_literalSegment mem ▸ rfl]
      rfl
    · intro content mem
      rw [List.mem_append, List.mem_cons] at mem
      rcases mem with inFront | isPrint | inBack
      · cases eq_of_mem_literalSegment inFront
        rwa [String.toList_ofList]
      · cases isPrint
      · cases eq_of_mem_literalSegment inBack
        rwa [String.toList_ofList]
  · rintro ⟨only, blanks⟩
    obtain ⟨normal, padding, printed⟩ := parse_isNormal text
    obtain ⟨before, segment, after, split, noneBefore, isSegment, noneAfter⟩ := List.filterMap_eq_cons_iff.mp only
    have blank : ∀ segment ∈ before ++ after, ∃ content, segment = .literal content ∧ IsBlanks content.toList := by
      intro segment mem
      cases segment with
      | literal content =>
          refine ⟨content, rfl, blanks content ?_⟩
          rw [split]
          simpa using Or.imp_right Or.inr (List.mem_append.mp mem)
      | placeholder q =>
          rcases List.mem_append.mp mem with inBefore | inAfter
          · cases noneBefore _ inBefore
          · cases List.filterMap_eq_nil_iff.mp noneAfter _ inAfter
    cases segment with
    | literal content => cases isSegment
    | placeholder q =>
        cases isSegment
        have named : p.IsNamed := by
          refine normal.sound (.placeholder p) ?_
          rw [split]
          exact List.mem_append_right _ List.mem_cons_self
        have isPlaceholder := named.isPlaceholder (padding before.length)
        rw [← printed, split, printSegments_append]
        have trimmed := isPlaceholder.trimChars
          (isBlanks_printSegments (fun segment mem => blank segment (List.mem_append_left _ mem)) padding)
          (isBlanks_printSegments (fun segment mem => blank segment (List.mem_append_right _ mem))
            fun i => padding (before.length + (i + 1)))
        exact trimmed.symm ▸ isPlaceholder

/-- A text is bare just if it has one placeholder and its literals are blanks. -/
theorem isBare_iff {text : String} : (parse text).isBare ↔ (∃ p, (parse text).placeholders = [p]) ∧
    ∀ content, .literal content ∈ (parse text).segments → IsBlanks content.toList := by
  rw [← exists_and_right, ← exists_congr fun p => isPlaceholder_trim_iff]
  exact isBareText_iff

/-- Templates of the same segments are bare alike. -/
theorem isBare_congr {one other : String} (same : (parse one).segments = (parse other).segments) :
    (parse one).isBare = (parse other).isBare := by
  rw [Bool.eq_iff_iff, isBare_iff, isBare_iff, placeholders, placeholders, same]

end Template

/-! ### Round trips -/

/-- Parsing inverts printing: a normal list of segments is what any print of it is parsed to, every text is a
print of what it is parsed to, and this is normal.  So the blanks around the names of a text have no part in
what it is parsed to. -/
theorem parse_inverts_print :
    (∀ segments, IsNormal segments → ∀ padding,
      (Template.parse (String.ofList (printSegments padding segments))).segments = segments) ∧
    ∀ text, IsNormal (Template.parse text).segments ∧
      (∃ padding, printSegments padding (Template.parse text).segments = text.toList) ∧
      ∀ padding, let respaced := String.ofList (printSegments padding (Template.parse text).segments)
        (Template.parse respaced).segments = (Template.parse text).segments ∧
          (Template.parse respaced).isBare = (Template.parse text).isBare := by
  refine ⟨fun segments normal padding => Template.parse_print normal padding, fun text => ?_⟩
  obtain ⟨normal, printed⟩ := Template.parse_isNormal text
  refine ⟨normal, printed, ?_⟩
  intro padding respaced
  have same := Template.parse_print normal padding
  exact ⟨same, Template.isBare_congr same⟩

/-- Literals that are cut off inside a placeholder, right before and right behind one. -/
def cutLiterals : List Segment := [
  .literal "\x7b\x7bx|\x7b",
  .placeholder ⟨"x", ["f", "g"]⟩,
  .placeholder ⟨"$", []⟩,
  .literal "\x7d\x7d | g\x7d\x7d\x7b\x7b x |",
  .placeholder ⟨"y", ["_1"]⟩,
  .literal "\x7d"]

/-- A tab before a name, a line break and a no-break space behind it. -/
def wide : Padding where
  before := ['\t']
  after := ['\n', '\u00a0']
  blankBefore := by decide
  blankAfter := by decide

theorem parse_inverts_print_cutLiterals :
    IsNormal cutLiterals ∧
      (Template.parse (String.ofList (printSegments (fun _ _ => wide) cutLiterals))).segments = cutLiterals ∧
      (Template.parse (String.ofList (printSegments (fun _ _ => .none) cutLiterals))).segments = cutLiterals :=
  have normal : IsNormal cutLiterals := by decide +kernel
  ⟨normal, parse_inverts_print.1 _ normal _, parse_inverts_print.1 _ normal fun _ _ => .none⟩

end LiveTemplate
