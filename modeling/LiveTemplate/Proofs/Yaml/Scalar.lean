import LiveTemplate.Yaml.Token

/-!
Scalars on one line.  A text without quotes is read back as it is when it opens and goes on like a plain
scalar, and a text between double quotes when nothing in it needs an escape.
-/

namespace LiveTemplate.Yaml

/-- How many bytes a text has. -/
def byteCount : List Char → Nat
  | [] => 0
  | x :: rest => x.utf8Size + byteCount rest

/-- Passing over characters of a line leaves the line, and counts their bytes and themselves. -/
theorem foldl_advance (s : List Char) (m : Mark) :
    s.foldl Mark.advance m = ⟨m.offset + byteCount s, m.line, m.column + s.length⟩ := by
  induction s generalizing m with
  | nil => rfl
  | cons x s inductionHypothesis =>
      simp only [List.foldl_cons, inductionHypothesis, Mark.advance, byteCount, List.length_cons,
        Mark.mk.injEq, true_and]
      omega

namespace Cursor

/-- A cursor stands in front of a text at a column, with enough fuel to read that text. -/
structure Stands (c : Cursor) (text : List Char) (column : Nat) : Prop where
  rest : c.rest = text
  column : c.mark.column = column
  fuel : text.length < c.fuel

@[simp]
theorem skip_fuel (c : Cursor) (count : Nat) : (c.skip count).fuel = c.fuel := rfl

@[simp]
theorem skip_rest (c : Cursor) (count : Nat) : (c.skip count).rest = c.rest.drop count := rfl

theorem skip_zero (c : Cursor) : c.skip 0 = c := by
  simp [skip]

theorem skip_skip (c : Cursor) (m n : Nat) : (c.skip m).skip n = c.skip (m + n) := by
  simp only [skip, List.drop_drop, List.take_add, List.foldl_append]

variable {c : Cursor} {s t : List Char} {k : Nat} {x : Char}

theorem skip_mark (h : c.rest = s ++ t) :
    (c.skip s.length).mark =
      ⟨c.mark.offset + byteCount s, c.mark.line, c.mark.column + s.length⟩ := by
  simp only [skip, h, List.take_left, foldl_advance]

namespace Stands

theorem skip (h : c.Stands (s ++ t) k) : (c.skip s.length).Stands t (k + s.length) where
  rest := by simp [h.rest]
  column := by rw [skip_mark h.rest, h.column]
  fuel := by
    have := h.fuel
    simp only [List.length_append] at this
    simp only [skip_fuel]
    omega

theorem skip_one (h : c.Stands (x :: t) k) : (c.skip 1).Stands t (k + 1) :=
  skip (s := [x]) h

theorem head? (h : c.Stands s k) : c.head? = s.head? := by
  rw [Cursor.head?, h.rest]

theorem isAtEnd (h : c.Stands s k) : c.isAtEnd = s.isEmpty := by
  rw [Cursor.isAtEnd, h.rest]

theorem fuel_succ (h : c.Stands s k) : ∃ fuel, c.fuel = fuel + 1 := by
  have := h.fuel
  exact ⟨c.fuel - 1, by omega⟩

theorem text_lt (h : c.Stands (s ++ t) k) : s.length < c.fuel := by
  have := h.fuel
  simp only [List.length_append] at this
  omega

/-- Behind the beginning of its line a cursor stands at no mark of a document. -/
theorem isAtDocumentMark (h : c.Stands s k) (behind : 0 < k) : c.isAtDocumentMark = false := by
  have : c.mark.column ≠ 0 := by
    rw [h.column]
    omega
  simp [Cursor.isAtDocumentMark, this]

/-- Behind a line feed a new line begins. -/
theorem readBreak (h : c.Stands ('\n' :: t) k) : c.readBreak.2.Stands t 0 := by
  have enough := h.fuel
  obtain ⟨rest, mark, fuel⟩ := c
  obtain rfl : rest = '\n' :: t := h.rest
  exact ⟨rfl, rfl, Nat.lt_of_succ_lt enough⟩

theorem readBreak_text (h : c.Stands ('\n' :: t) k) : c.readBreak.1 = "\n" := by
  obtain ⟨rest, mark, fuel⟩ := c
  obtain rfl : rest = '\n' :: t := h.rest
  rfl

end Stands

end Cursor

/-! Gaps. -/

/-- A line break, empty lines, and the spaces that the next line begins with. -/
def lineEnd (emptyLines spaces : Nat) : List Char :=
  '\n' :: (List.replicate emptyLines '\n' ++ List.replicate spaces ' ')

/-- Whether a character is neither a blank nor a line break. -/
def isSolid (x : Char) : Bool :=
  !isGap (some x)

theorem isSolid_iff {x : Char} : isSolid x = true ↔ isSpacing x = false ∧ isBreak x = false := by
  simp [isSolid, isGap]

variable {c : Cursor} {s t : List Char} {k indent fuel : Nat} {x : Char}

namespace Gap

/-- Blanks within a line are kept. -/
theorem read_blanks (indent : Nat) (blank : ∀ y ∈ s, isSpacing y = true) (solid : isSolid x = true)
    (enough : s.length < fuel) (blanks : String) (stands : c.Stands (s ++ x :: t) k) :
    read indent fuel ⟨blanks, false, "", ""⟩ c =
      .ok (⟨blanks ++ String.ofList s, false, "", ""⟩, c.skip s.length) := by
  obtain ⟨noSpacing, noBreak⟩ := isSolid_iff.1 solid
  induction s generalizing c k blanks fuel with
  | nil =>
      obtain _ | fuel := fuel
      · exact absurd enough (Nat.not_lt_zero _)
      simp [read, stands.rest, noSpacing, noBreak, Cursor.skip_zero]
  | cons y s inductionHypothesis =>
      obtain _ | fuel := fuel
      · exact absurd enough (Nat.not_lt_zero _)
      have spacing : isSpacing y = true := blank y (by simp)
      have standsNext : (c.skip 1).Stands (s ++ x :: t) (k + 1) := stands.skip_one
      have sameText : blanks.push y ++ String.ofList s = blanks ++ String.ofList (y :: s) := by
        apply String.toList_injective
        simp
      simp only [read, stands.rest, List.cons_append, spacing, if_true, Bool.false_and, Bool.false_eq_true,
        if_false]
      rw [inductionHypothesis (fun z mem => blank z (by simp [mem])) (by simpa using enough) _ standsNext,
        Cursor.skip_skip, sameText, List.length_cons, Nat.add_comm 1]

/-- Behind a break the spaces that a line begins with are passed over. -/
theorem read_spaces {spaces : Nat} (solidBehind : t.head?.all isSolid = true) (enough : spaces < fuel) {g : Gap}
    (broken : g.isBroken = true) (stands : c.Stands (List.replicate spaces ' ' ++ t) k) :
    ∃ next, read indent fuel g c = .ok (g, next) ∧ next.Stands t (k + spaces) := by
  induction spaces generalizing c k fuel with
  | zero =>
      obtain _ | fuel := fuel
      · contradiction
      simp only [List.replicate_zero, List.nil_append] at stands
      refine ⟨c, ?_, stands⟩
      cases t with
      | nil => simp [read, stands.rest]
      | cons x t =>
          obtain ⟨noSpacing, noBreak⟩ := isSolid_iff.1 (by simpa using solidBehind)
          simp [read, stands.rest, noSpacing, noBreak]
  | succ spaces inductionHypothesis =>
      obtain _ | fuel := fuel
      · contradiction
      rw [List.replicate_succ, List.cons_append] at stands
      have less : spaces < fuel := Nat.lt_of_succ_lt_succ enough
      obtain ⟨next, goesOn, standsThen⟩ := inductionHypothesis less stands.skip_one
      refine ⟨next, ?_, ?_⟩
      · have isBlank : isSpacing ' ' = true := rfl
        have noTab : (' ' == '\t') = false := rfl
        simp [read, stands.rest, isBlank, broken, noTab, goesOn]
      · rwa [Nat.add_right_comm, Nat.add_assoc] at standsThen

/-- Behind a break empty lines are passed over, too. -/
theorem read_emptyLines {emptyLines spaces : Nat} (solidBehind : t.head?.all isSolid = true)
    (enough : emptyLines + spaces < fuel) {g : Gap} (broken : g.isBroken = true)
    (stands : c.Stands (List.replicate emptyLines '\n' ++ (List.replicate spaces ' ' ++ t)) 0) :
    ∃ gap next, read indent fuel g c = .ok (gap, next) ∧ gap.isBroken = true ∧
      next.Stands t spaces := by
  induction emptyLines generalizing c fuel g with
  | zero =>
      have less : spaces < fuel := by omega
      obtain ⟨next, goesOn, standsThen⟩ := read_spaces solidBehind less broken stands
      rw [Nat.zero_add] at standsThen
      exact ⟨g, next, goesOn, broken, standsThen⟩
  | succ emptyLines inductionHypothesis =>
      obtain _ | fuel := fuel
      · contradiction
      rw [List.replicate_succ, List.cons_append] at stands
      have less : emptyLines + spaces < fuel := by omega
      obtain ⟨gap, next, goesOn, stillBroken, standsThen⟩ := inductionHypothesis less
        (g := { g with breaks := g.breaks ++ "\n" }) broken stands.readBreak
      refine ⟨gap, next, ?_, stillBroken, standsThen⟩
      have isLineFeed : isSpacing '\n' = false ∧ isBreak '\n' = true := ⟨rfl, rfl⟩
      simpa [read, stands.rest, isLineFeed, broken, stands.readBreak_text] using goesOn

/-- The end of a line is a gap that is broken. -/
theorem read_lineEnd (indent : Nat) {emptyLines spaces : Nat} (solidBehind : t.head?.all isSolid = true)
    (enough : (lineEnd emptyLines spaces).length < fuel)
    (stands : c.Stands (lineEnd emptyLines spaces ++ t) k) :
    ∃ gap next, read indent fuel .none c = .ok (gap, next) ∧ gap.isBroken = true ∧
      next.Stands t spaces := by
  obtain _ | fuel := fuel
  · contradiction
  simp only [lineEnd, List.cons_append, List.append_assoc, List.length_cons, List.length_append,
    List.length_replicate] at stands enough
  have less : emptyLines + spaces < fuel := by omega
  obtain ⟨gap, next, goesOn, stillBroken, standsThen⟩ := read_emptyLines solidBehind less
    (g := ⟨"", true, "\n", ""⟩) rfl stands.readBreak
  refine ⟨gap, next, ?_, stillBroken, standsThen⟩
  have isLineFeed : isSpacing '\n' = false ∧ isBreak '\n' = true := ⟨rfl, rfl⟩
  simpa [read, none, stands.rest, isLineFeed, stands.readBreak_text] using goesOn

end Gap

/-! Plain scalars. -/

/-- Whether a text goes on like a plain scalar: it has no line breaks, no colon in front of a blank or at
its end, and no blank in front of a number sign or at its end. -/
def staysPlain : List Char → Bool
  | [] => true
  | x :: rest =>
    !isBreak x && !(x == ':' && isGap rest.head?) &&
      !(isSpacing x && rest.head?.all (· == '#')) && staysPlain rest

theorem staysPlain_append (h : staysPlain (s ++ t) = true) : staysPlain t = true := by
  induction s with
  | nil => exact h
  | cons x s inductionHypothesis =>
      simp only [List.cons_append, staysPlain, Bool.and_eq_true] at h
      exact inductionHypothesis h.2

/-- Behind blanks such a text has another character, which is no number sign. -/
theorem staysPlain_blanks (blank : ∀ y ∈ s, isSpacing y = true) (nonempty : s ≠ [])
    (h : staysPlain (s ++ t) = true) : t.head?.all (· == '#') = false := by
  induction s with
  | nil => exact absurd rfl nonempty
  | cons x s inductionHypothesis =>
      cases s with
      | nil =>
          have spacing : isSpacing x = true := blank x (by simp)
          simp only [List.cons_append, List.nil_append, staysPlain, spacing, Bool.true_and, Bool.and_eq_true,
            Bool.not_eq_true'] at h
          exact h.1.2
      | cons y s =>
          have plainRest : staysPlain ((y :: s) ++ t) = true := staysPlain_append (s := [x]) h
          exact inductionHypothesis (fun z mem => blank z (by simp [mem])) (by simp) plainRest

/-- What follows the first word of a plain scalar: nothing, or blanks and a word that no comment begins
with. -/
inductive Follows : List Char → Prop where
  | nothing : Follows []
  | word (blanks : List Char) (x : Char) (rest : List Char) (nonempty : blanks ≠ [])
      (blank : ∀ z ∈ blanks, isSpacing z = true) (solid : isSolid x = true) (noComment : x ≠ '#') :
      Follows (blanks ++ x :: rest)

theorem Follows.not_solid (h : Follows s) (first : x ∈ s.head?) : ¬ isSolid x = true := by
  cases h with
  | nothing => simp at first
  | word blanks y rest nonempty blank =>
      obtain _ | ⟨z, blanks⟩ := blanks
      · contradiction
      obtain rfl : z = x := by simpa using first
      have spacing : isSpacing z = true := blank z (by simp)
      simp [isSolid, isGap, spacing]

theorem Follows.plainRun? (h : Follows s) (stops : plainRun? false t = some []) :
    plainRun? false (s ++ t) = some [] := by
  cases h with
  | nothing => exact stops
  | word blanks y rest nonempty blank =>
      obtain _ | ⟨z, blanks⟩ := blanks
      · contradiction
      have spacing : isSpacing z = true := blank z (by simp)
      simp [Yaml.plainRun?, isGap, spacing]

/-- Splits a text that goes on like a plain scalar behind its first word. -/
theorem staysPlain_split (h : staysPlain s = true) :
    ∃ run more, s = run ++ more ∧ (∀ y ∈ run, isSolid y = true) ∧ Follows more := by
  have whole : s.takeWhile isSolid ++ s.dropWhile isSolid = s := List.takeWhile_append_dropWhile
  have plainMore : staysPlain (s.dropWhile isSolid) = true := by
    rw [← whole] at h
    exact staysPlain_append h
  have word : ∀ y ∈ s.takeWhile isSolid, isSolid y = true := List.all_eq_true.1 List.all_takeWhile
  have isHead := List.head?_dropWhile_not isSolid s
  refine ⟨_, _, whole.symm, word, ?_⟩
  generalize s.dropWhile isSolid = more at plainMore isHead
  obtain _ | ⟨z, more⟩ := more
  · exact .nothing
  have spacing : isSpacing z = true := by
    simp only [staysPlain, Bool.and_eq_true, Bool.not_eq_true'] at plainMore
    simp only [List.head?_cons, isSolid, isGap, plainMore.1.1.1, Bool.or_false, Bool.not_eq_false'] at isHead
    exact isHead
  have blankMore : more.takeWhile isSpacing ++ more.dropWhile isSpacing = more :=
    List.takeWhile_append_dropWhile
  have all : ∀ y ∈ z :: more.takeWhile isSpacing, isSpacing y = true := by
    simpa [spacing] using List.all_eq_true.1 List.all_takeWhile
  rw [← blankMore, ← List.cons_append] at plainMore ⊢
  have noComment := staysPlain_blanks all (by simp) plainMore
  have solidHead := List.head?_dropWhile_not isSpacing more
  generalize more.dropWhile isSpacing = rest at plainMore noComment solidHead
  obtain _ | ⟨x, rest⟩ := rest
  · contradiction
  have noBreak : isBreak x = false := by
    have := staysPlain_append plainMore
    simp only [staysPlain, Bool.and_eq_true, Bool.not_eq_true'] at this
    exact this.1.1.1
  exact .word _ x rest (by simp) all (isSolid_iff.2 ⟨solidHead, noBreak⟩) (by simpa using noComment)

/-- A word is taken up to the blank behind it. -/
theorem plainRun?_append {run more : List Char} (plain : staysPlain (run ++ more) = true)
    (word : ∀ y ∈ run, isSolid y = true)
    (stops : plainRun? false (more ++ t) = some []) :
    plainRun? false (run ++ more ++ t) = some run := by
  induction run with
  | nil => exact stops
  | cons x run inductionHypothesis =>
      have noGap : isGap (some x) = false := by simpa [isSolid] using word x (by simp)
      simp only [List.cons_append, staysPlain, Bool.and_eq_true, Bool.not_eq_true'] at plain
      have runRest := inductionHypothesis plain.2 fun y mem => word y (by simp [mem])
      have colon : (x == ':' && isGap (run ++ more ++ t).head?) = false := by
        have := plain.1.1.2
        cases joined : run ++ more with
        | nil => simp_all [isGap]
        | cons y more => simpa [joined] using this
      simp only [List.cons_append, plainRun?, noGap, colon, runRest, Bool.false_eq_true, if_false,
        Bool.false_and, Bool.or_false, Option.map_some]

/-- How the reading of a plain scalar goes on behind a word. -/
def readPlainOn (indent fuel : Nat) (text : String) (c : Cursor) : Except Error PlainText :=
  if c.isAtGap && !c.isAtEnd then do
    let (gap, c) ← Gap.read indent c.fuel .none c
    if c.mark.column < indent then return ⟨text, gap.isBroken, c⟩
    else readPlainRest false indent fuel text gap c
  else return ⟨text, false, c⟩

theorem readPlainRest_run {run : List Char} {text : String} {gap : Gap}
    (noMark : c.isAtDocumentMark = false) (notAtComment : c.isAt '#' = false)
    (isRun : plainRun? false c.rest = some run) (nonempty : run ≠ []) :
    readPlainRest false indent (fuel + 1) text gap c =
      readPlainOn indent fuel (text ++ gap.fold ++ String.ofList run) (c.skip run.length) := by
  cases run with
  | nil => exact absurd rfl nonempty
  | cons x run =>
      simp only [readPlainRest, noMark, notAtComment, isRun, readPlainOn, Bool.or_self, Bool.false_eq_true,
        if_false, Bool.not_false, Bool.true_and, decide_eq_true_eq]

/-- Over blanks within its line a plain scalar goes on. -/
theorem readPlainOn_blanks {text : String} (blank : ∀ y ∈ s, isSpacing y = true) (nonempty : s ≠ [])
    (solid : isSolid x = true) (further : indent ≤ k) (stands : c.Stands (s ++ x :: t) k) :
    readPlainOn indent fuel text c =
      readPlainRest false indent fuel text ⟨String.ofList s, false, "", ""⟩ (c.skip s.length) := by
  have atGap : c.isAtGap = true := by
    rw [Cursor.isAtGap, stands.head?]
    obtain _ | ⟨y, s⟩ := s
    · exact absurd rfl nonempty
    · simp [isGap, blank y]
  have notAtEnd : c.isAtEnd = false := by simp [stands.isAtEnd]
  have isRead := Gap.read_blanks indent blank solid stands.text_lt "" stands
  have indented : ¬ (c.skip s.length).mark.column < indent := by
    rw [stands.skip.column]
    omega
  simp only [readPlainOn, atGap, notAtEnd, Bool.not_false, Bool.and_self, if_true, Gap.none, isRead,
    String.empty_append]
  exact if_neg indented

/-- A text that goes on like a plain scalar is read up to its end. -/
theorem readPlainRest_line (text : String) (gap : Gap) (plain : staysPlain s = true)
    (begins : ∃ x ∈ s.head?, isSolid x = true ∧ x ≠ '#') (stops : plainRun? false t = some [])
    (enough : s.length < fuel) (noMark : c.isAtDocumentMark = false) (further : indent ≤ k + 1)
    (stands : c.Stands (s ++ t) k) :
    ∃ left, readPlainRest false indent fuel text gap c =
      readPlainOn indent left (text ++ gap.fold ++ String.ofList s) (c.skip s.length) := by
  induction fuel generalizing s c k text gap with
  | zero => contradiction
  | succ fuel inductionHypothesis =>
      obtain ⟨x, atHead, solid, noComment⟩ := begins
      have notAtComment : c.isAt '#' = false := by
        have isHead : c.head? = some x := by
          rw [stands.head?, List.head?_append, Option.mem_def.1 atHead, Option.some_or]
        simpa [Cursor.isAt, isHead] using noComment
      obtain ⟨run, more, rfl, solids, follows⟩ := staysPlain_split plain
      have nonempty : run ≠ [] := by
        rintro rfl
        exact follows.not_solid atHead solid
      have isTaken : plainRun? false c.rest = some run := by
        rw [stands.rest]
        exact plainRun?_append plain solids (follows.plainRun? stops)
      rw [readPlainRest_run noMark notAtComment isTaken nonempty]
      have positive : 0 < run.length := List.length_pos_iff.2 nonempty
      rw [List.append_assoc] at stands
      have standsNext := stands.skip
      cases follows with
      | nothing => exact ⟨fuel, by simp⟩
      | word blanks y rest nonemptyBlanks blank solidNext noCommentNext =>
          rw [List.append_assoc] at standsNext
          have standsLast := standsNext.skip
          have less : (y :: rest).length < fuel := by
            simp only [List.length_append] at enough
            omega
          obtain ⟨left, readsOn⟩ := inductionHypothesis _ _ (staysPlain_append (staysPlain_append plain))
            ⟨y, rfl, solidNext, noCommentNext⟩ less (standsLast.isAtDocumentMark (by omega)) (by omega) standsLast
          refine ⟨left, ?_⟩
          rw [readPlainOn_blanks blank nonemptyBlanks solidNext (by omega) standsNext, readsOn]
          simp [Gap.fold, Cursor.skip_skip, String.append_assoc, ← Nat.add_assoc]

/-- A key without quotes is read up to its colon. -/
theorem readPlain_key (plain : staysPlain s = true) (begins : ∃ x ∈ s.head?, isSolid x = true ∧ x ≠ '#')
    (gapBehind : isGap t.head? = true) (noMark : c.isAtDocumentMark = false) (further : indent ≤ k + 1)
    (stands : c.Stands (s ++ ':' :: t) k) :
    readPlain false indent c = .ok ⟨String.ofList s, false, c.skip s.length⟩ := by
  have stops : plainRun? false (':' :: t) = some [] := by
    have colon : isGap (some ':') = false := rfl
    simp [plainRun?, colon, gapBehind]
  obtain ⟨left, readsOn⟩ :=
    readPlainRest_line "" .none plain begins stops stands.text_lt noMark further stands
  have atGap : (c.skip s.length).isAtGap = false := by
    rw [Cursor.isAtGap, stands.skip.head?]
    rfl
  rw [readPlain, readsOn]
  simp [readPlainOn, atGap, Gap.fold, Gap.none, pure, Except.pure]

/-- A value without quotes is read up to the end of its line, if the next line is not indented
further than the key. -/
theorem readPlain_value {emptyLines spaces : Nat} (plain : staysPlain s = true)
    (begins : ∃ x ∈ s.head?, isSolid x = true ∧ x ≠ '#') (solidBehind : t.head?.all isSolid = true)
    (noMark : c.isAtDocumentMark = false) (further : indent ≤ k + 1) (fewer : spaces < indent)
    (stands : c.Stands (s ++ (lineEnd emptyLines spaces ++ t)) k) :
    ∃ next, readPlain false indent c = .ok ⟨String.ofList s, true, next⟩ ∧ next.Stands t spaces := by
  have stops : plainRun? false (lineEnd emptyLines spaces ++ t) = some [] := rfl
  obtain ⟨left, readsOn⟩ :=
    readPlainRest_line "" .none plain begins stops stands.text_lt noMark further stands
  have standsBehind := stands.skip
  have atGap : (c.skip s.length).isAtGap = true := by
    rw [Cursor.isAtGap, standsBehind.head?]
    rfl
  have notAtEnd : (c.skip s.length).isAtEnd = false := standsBehind.isAtEnd
  obtain ⟨gap, next, isRead, broken, standsNext⟩ :=
    Gap.read_lineEnd indent solidBehind standsBehind.text_lt standsBehind
  refine ⟨next, ?_, standsNext⟩
  have indented : next.mark.column < indent := by rwa [standsNext.column]
  rw [readPlain, readsOn, readPlainOn, atGap, notAtEnd, isRead]
  simp [indented, broken, Gap.fold, Gap.none, pure, Except.pure, bind, Except.bind]

/-- Whether a text opens like a plain scalar. -/
def opensPlain : List Char → Bool
  | [] => false
  | x :: rest =>
    isSolid x && (!Lexer.isIndicator x || ((x == '-' || x == '?' || x == ':') && !isGap rest.head?))

/-- Whether a text on one line is read as it is where it stands without quotes. -/
def isPlain (s : List Char) : Bool :=
  opensPlain s && staysPlain s

theorem isPlain_iff {s : List Char} :
    isPlain s = true ↔ opensPlain s = true ∧ staysPlain s = true := by
  simp [isPlain]

theorem opensPlain_head {s : List Char} (h : opensPlain s = true) :
    ∃ x ∈ s.head?, isSolid x = true ∧ x ≠ '#' := by
  obtain _ | ⟨x, s⟩ := s
  · contradiction
  · simp only [opensPlain, Bool.and_eq_true] at h
    refine ⟨x, rfl, h.1, ?_⟩
    rintro rfl
    simp [Lexer.isIndicator] at h

theorem opensPlain_ne {x : Char} {s : List Char} (h : opensPlain (x :: s) = true) : x ≠ '%' := by
  rintro rfl
  simp [opensPlain, Lexer.isIndicator] at h

/-! Quoted scalars. -/

/-- Whether a character stands for itself between double quotes. -/
def isVerbatim (x : Char) : Bool :=
  x != '"' && x != '\\' && !isBreak x

/-- Up to a blank or the closing quote characters are taken as they are. -/
theorem readQuotedRun_verbatim (text : String)
    (taken : ∀ y ∈ s, isSolid y = true ∧ isVerbatim y = true) (ends : isSpacing x = true ∨ x = '"')
    (enough : s.length < fuel) (stands : c.Stands (s ++ x :: t) k) :
    readQuotedRun .double fuel text c = .ok (text ++ String.ofList s, false, c.skip s.length) := by
  induction s generalizing c k fuel text with
  | nil =>
      obtain _ | fuel := fuel
      · exact absurd enough (Nat.not_lt_zero _)
      obtain ends | rfl := ends
      · simp [readQuotedRun, stands.rest, isGap, ends, Cursor.skip_zero]
      · simp [readQuotedRun, stands.rest, isGap, isSpacing, isBreak, Quote.mark, Cursor.skip_zero]
  | cons y s inductionHypothesis =>
      obtain _ | fuel := fuel
      · exact absurd enough (Nat.not_lt_zero _)
      obtain ⟨solidNext, verbatim⟩ := taken y (by simp)
      have standsNext : (c.skip 1).Stands (s ++ x :: t) (k + 1) := stands.skip_one
      have less : s.length < fuel := by simpa using enough
      have sameText : text.push y ++ String.ofList s = text ++ String.ofList (y :: s) := by
        apply String.toList_injective
        simp
      simp only [isVerbatim, Bool.and_eq_true, bne_iff_ne, ne_eq] at verbatim
      simp only [isSolid, Bool.not_eq_true'] at solidNext
      simp only [readQuotedRun, stands.rest, List.cons_append, solidNext, Bool.false_eq_true, if_false, Quote.mark,
        verbatim, and_false]
      rw [inductionHypothesis _ (fun z mem => taken z (by simp [mem])) less standsNext, Cursor.skip_skip,
        sameText, List.length_cons, Nat.add_comm 1]

theorem isVerbatim_break (verbatim : isVerbatim x = true) : isBreak x = false := by
  simp only [isVerbatim, Bool.and_eq_true, Bool.not_eq_true'] at verbatim
  exact verbatim.2

/-- Splits a text on one line in front of its first character that is no blank, which is the quote behind
it if there is none. -/
theorem blanks_split (unbroken : ∀ y ∈ s, isBreak y = false) :
    ∃ blanks rest, s = blanks ++ rest ∧ (∀ y ∈ blanks, isSpacing y = true) ∧
      ∃ y u, isSolid y = true ∧ rest ++ '"' :: t = y :: u := by
  refine ⟨s.takeWhile isSpacing, s.dropWhile isSpacing, List.takeWhile_append_dropWhile.symm,
    List.all_eq_true.1 List.all_takeWhile, ?_⟩
  have unbrokenRest : ∀ y ∈ s.dropWhile isSpacing, isBreak y = false :=
    fun y mem => unbroken y (List.dropWhile_subset _ mem)
  have isHead := List.head?_dropWhile_not isSpacing s
  generalize s.dropWhile isSpacing = rest at unbrokenRest isHead
  cases rest with
  | nil => exact ⟨'"', t, rfl, rfl⟩
  | cons y rest => exact ⟨y, rest ++ '"' :: t, isSolid_iff.2 ⟨isHead, unbrokenRest y (by simp)⟩, rfl⟩

/-- Splits a text in which nothing needs an escape behind its first word, and behind the blanks that
follow. -/
theorem verbatim_split (verbatim : ∀ y ∈ s, isVerbatim y = true) :
    ∃ run more, s = run ++ more ∧ (∀ y ∈ run, isSolid y = true ∧ isVerbatim y = true) ∧
      (more = [] ∨ ∃ blanks rest, more = blanks ++ rest ∧ blanks ≠ [] ∧
        (∀ y ∈ blanks, isSpacing y = true) ∧ ∃ y u, isSolid y = true ∧ rest ++ '"' :: t = y :: u) := by
  have unbroken : ∀ y ∈ s.dropWhile isSolid, isBreak y = false :=
    fun y mem => isVerbatim_break (verbatim y (List.dropWhile_subset _ mem))
  have word : ∀ y ∈ s.takeWhile isSolid, isSolid y = true := List.all_eq_true.1 List.all_takeWhile
  have stops := List.head?_dropWhile_not isSolid s
  refine ⟨s.takeWhile isSolid, s.dropWhile isSolid, List.takeWhile_append_dropWhile.symm,
    fun y mem => ⟨word y mem, verbatim y (List.takeWhile_subset _ mem)⟩, ?_⟩
  generalize s.dropWhile isSolid = more at unbroken stops
  obtain _ | ⟨z, more⟩ := more
  · exact .inl rfl
  have spacing : isSpacing z = true := by
    have noBreak : isBreak z = false := unbroken z (by simp)
    simpa [isSolid, isGap, noBreak] using stops
  obtain ⟨blanks, rest, rfl, blank, begins⟩ :=
    blanks_split (t := t) fun y mem => unbroken y (List.mem_cons_of_mem z mem)
  exact .inr ⟨z :: blanks, rest, rfl, List.cons_ne_nil z blanks, by simpa [spacing] using blank, begins⟩

/-- A word and the blanks behind it are taken as they are. -/
theorem readQuotedRest_word {run blanks u : List Char} (text : String)
    (noMark : c.isAtDocumentMark = false) (word : ∀ y ∈ run, isSolid y = true ∧ isVerbatim y = true)
    (blank : ∀ y ∈ blanks, isSpacing y = true) (nonempty : blanks ≠ []) (solid : isSolid x = true)
    (stands : c.Stands (run ++ (blanks ++ x :: u)) k) :
    readQuotedRest .double (fuel + 1) text c =
      readQuotedRest .double fuel (text ++ String.ofList run ++ String.ofList blanks)
        ((c.skip run.length).skip blanks.length) := by
  obtain _ | ⟨z, blanks⟩ := blanks
  · exact absurd rfl nonempty
  have spacing : isSpacing z = true := blank z (by simp)
  have isRead := readQuotedRun_verbatim text word (.inl spacing) stands.text_lt stands
  have notAtEnd : c.isAtEnd = false := by simp [stands.isAtEnd]
  have atQuote : (c.skip run.length).isAt '"' = false := by
    have other : z ≠ '"' := by
      rintro rfl
      contradiction
    rw [Cursor.isAt, stands.skip.head?]
    simpa using other
  have blanksRead := Gap.read_blanks 0 blank solid stands.skip.text_lt "" stands.skip
  simp only [readQuotedRest, noMark, notAtEnd, isRead, atQuote, Quote.mark, Bool.false_eq_true, if_false, bind,
    Except.bind, Gap.none, blanksRead, Gap.fold, Bool.not_false, if_true, String.empty_append]

/-- A text in which nothing needs an escape is read up to the closing quote. -/
theorem readQuotedRest_verbatim {text : String} (verbatim : ∀ y ∈ s, isVerbatim y = true) (behind : 0 < k)
    (enough : s.length < fuel) (stands : c.Stands (s ++ '"' :: t) k) :
    readQuotedRest .double fuel text c = .ok (text ++ String.ofList s, c.skip (s.length + 1)) := by
  induction fuel generalizing s c k text with
  | zero => contradiction
  | succ fuel inductionHypothesis =>
      have noMark := stands.isAtDocumentMark behind
      obtain ⟨run, more, rfl, word, rfl | ⟨blanks, rest, rfl, nonempty, blank, y, u, solidNext, isRest⟩⟩ :=
        verbatim_split (t := t) verbatim
      · rw [List.append_nil] at stands ⊢
        have isRead := readQuotedRun_verbatim text word (.inr rfl) stands.text_lt stands
        have notAtEnd : c.isAtEnd = false := by simp [stands.isAtEnd]
        have atQuote : (c.skip run.length).isAt '"' = true := by
          rw [Cursor.isAt, stands.skip.head?]
          rfl
        simp [readQuotedRest, noMark, notAtEnd, isRead, atQuote, Quote.mark, Cursor.skip_skip, bind,
          Except.bind, pure, Except.pure]
      · have standsWord : c.Stands (run ++ (blanks ++ y :: u)) k := by
          rw [← isRest]
          simpa using stands
        have standsThen := standsWord.skip.skip
        rw [← isRest] at standsThen
        have positive : 0 < blanks.length := List.length_pos_iff.2 nonempty
        have less : rest.length < fuel := by
          simp only [List.length_append] at enough
          omega
        rw [readQuotedRest_word text noMark word blank nonempty solidNext standsWord,
          inductionHypothesis (fun x mem => verbatim x (by simp [mem])) (by omega) less standsThen]
        simp [Cursor.skip_skip, String.append_assoc, Nat.add_assoc]

/-- A text in which nothing needs an escape is read as it is. -/
theorem readQuoted_verbatim (verbatim : ∀ y ∈ s, isVerbatim y = true)
    (stands : c.Stands ('"' :: (s ++ '"' :: t)) k) :
    readQuoted .double c = .ok (String.ofList s, c.skip (s.length + 2)) := by
  have standsNext := stands.skip_one
  have enough : s.length < c.fuel := standsNext.text_lt
  rw [readQuoted, readQuotedRest_verbatim verbatim (Nat.succ_pos k) enough standsNext, Cursor.skip_skip,
    String.empty_append, Nat.add_comm 1]

end LiveTemplate.Yaml
