import LiveTemplate.Proofs.Yaml.Runs
import Mathlib.Data.List.TakeWhile

/-!
The tokens of a text that is made of lines.  Every line gives a key its value, or leaves it to the lines
behind it that are indented further, and may begin with the dash of an entry.
-/

namespace LiveTemplate.Yaml

/-- What stands behind the colon of a line. -/
inductive LineValue where
  | nothing
  | plain (text : String)
  | quoted (text : String)

namespace LineValue

/-- The text of a value. -/
def print : LineValue → String
  | .nothing => ""
  | .plain text => " " ++ text
  | .quoted text => " \"" ++ text ++ "\""

/-- The characters of a value. -/
def chars : LineValue → List Char
  | .nothing => []
  | .plain text => ' ' :: text.toList
  | .quoted text => ' ' :: '"' :: (text.toList ++ ['"'])

/-- The tokens of a value. -/
def kinds : LineValue → List TokenKind
  | .nothing => []
  | .plain text => [.scalar text .plain]
  | .quoted text => [.scalar text .other]

/-- Whether a value is read as it is, given how far the next line is indented and the column of the
key. -/
def fits (next column : Nat) : LineValue → Bool
  | .nothing => true
  | .plain text => isPlain text.toList && next ≤ column
  | .quoted text => text.toList.all isVerbatim

end LineValue

/-- A line: how far it is indented, whether a dash stands in front of its key, the key, its value, and
how many empty lines stand behind it. -/
structure Line where
  indent : Nat
  isEntry : Bool
  key : String
  value : LineValue
  emptyLines : Nat

/-- How far the first of some lines is indented. -/
def indentOf : List Line → Nat
  | [] => 0
  | l :: _ => l.indent

namespace Line

/-- The column of the key. -/
def column (l : Line) : Nat :=
  if l.isEntry then l.indent + 2 else l.indent

/-- The text of a line from its dash or its key on, up to the text of the next line. -/
def print (l : Line) (next : Nat) : String :=
  (if l.isEntry then "- " else "") ++ l.key ++ ":" ++ l.value.print ++
    String.ofList (lineEnd l.emptyLines next)

/-- The characters of a line from its dash or its key on. -/
def chars (l : Line) : List Char :=
  (if l.isEntry then ['-', ' '] else []) ++ (l.key.toList ++ ':' :: l.value.chars)

/-- The columns of the open collections in front of the key. -/
def entryColumns (l : Line) (columns : List Nat) : List Nat :=
  if l.isEntry then columnsFrom columns l.indent else columns

/-- The tokens of the dash. -/
def entryKinds (l : Line) (columns : List Nat) : List TokenKind :=
  if l.isEntry then borderAt .blockSequenceStart columns l.indent ++ [.blockEntry] else []

/-- The columns of the open collections behind a line. -/
def columns (l : Line) (columns : List Nat) : List Nat :=
  columnsFrom (l.entryColumns columns) l.column

/-- The tokens of a line. -/
def kinds (l : Line) (columns : List Nat) : List TokenKind :=
  l.entryKinds columns ++ borderAt .blockMappingStart (l.entryColumns columns) l.column ++
    [.key, .scalar l.key .plain, .value] ++ l.value.kinds

/-- Whether a line is read as it is in front of another.  Its key must not look like the mark of a
document, and not be too long. -/
def fits (next : Nat) (l : Line) : Bool :=
  isPlain l.key.toList && l.key.toList.head?.all (· ∉ ['-', '.', '\ufeff']) &&
    byteCount l.key.toList ≤ Lexer.keySize && l.value.fits next l.column

end Line

/-- The text of lines behind the indentation of the first. -/
def printLines : List Line → String
  | [] => ""
  | l :: rest => l.print (indentOf rest) ++ printLines rest

/-- The characters of lines behind the indentation of the first. -/
def charsOf : List Line → List Char
  | [] => []
  | l :: rest => l.chars ++ (lineEnd l.emptyLines (indentOf rest) ++ charsOf rest)

theorem printLines_toList (lines : List Line) : (printLines lines).toList = charsOf lines := by
  induction lines with
  | nil => rfl
  | cons l rest inductionHypothesis =>
      obtain ⟨indent, isEntry, key, value, emptyLines⟩ := l
      cases value <;> cases isEntry <;>
        simp [printLines, charsOf, Line.print, Line.chars, LineValue.print, LineValue.chars, inductionHypothesis]

/-- The tokens of lines and of the end of the text. -/
def kindsOf (columns : List Nat) : List Line → List TokenKind
  | [] => List.replicate columns.length .blockEnd ++ [.textEnd]
  | l :: rest => l.kinds columns ++ kindsOf (l.columns columns) rest

/-- Whether lines are read as they are. -/
def fitTogether : List Line → Bool
  | [] => true
  | l :: rest => l.fits (indentOf rest) && fitTogether rest

namespace Lexer

variable {l : Lexer} {t : List Char} {k : Nat} {columns : List Nat} {kinds : List TokenKind}

/-- The value of a line is read, with the end of the line and the spaces behind it. -/
theorem reads_value {value : LineValue} {j emptyLines spaces : Nat} (fits : value.fits spaces j = true)
    (begins : beginsToken spaces t = true) (inside : j ≤ k)
    (h : l.At false (value.chars ++ (lineEnd emptyLines spaces ++ t)) k (j :: columns) kinds) :
    ∃ n m, ReadsIn n l m ∧ n ≤ 1 ∧ m.skipToToken.At true t spaces (j :: columns)
      (kinds ++ value.kinds) := by
  cases value with
  | nothing =>
      refine ⟨0, l, .done l, by omega, ?_⟩
      simpa [LineValue.kinds] using h.skip_lineEnd begins
  | plain text =>
      simp only [LineValue.fits, Bool.and_eq_true, decide_eq_true_eq] at fits
      obtain ⟨m, isRead, isAt⟩ := reads_plain fits.1 begins inside fits.2 h
      rw [String.ofList_toList] at isAt
      exact ⟨1, m, isRead, by omega, isAt⟩
  | quoted text =>
      obtain ⟨m, isRead, isAt⟩ := reads_quoted fits begins inside (by simpa [LineValue.chars] using h)
      rw [String.ofList_toList] at isAt
      exact ⟨1, m, isRead, by omega, isAt⟩

/-- The dash of a line is read, if it has one. -/
theorem reads_dash {line : Line} (begins : beginsToken line.column t = true)
    (h : l.skipToToken.At true ((if line.isEntry then ['-', ' '] else []) ++ t) line.indent columns
      kinds) :
    ∃ n m, ReadsIn n l m ∧ n ≤ 1 ∧ m.skipToToken.At true t line.column (line.entryColumns columns)
      (kinds ++ line.entryKinds columns) := by
  by_cases isEntry : line.isEntry = true
  · simp only [Line.column, isEntry, if_true, List.cons_append, List.nil_append] at begins h
    obtain ⟨m, isRead, isAt⟩ := reads_entry begins h
    refine ⟨1, m, isRead, by omega, ?_⟩
    simpa [Line.column, Line.entryColumns, Line.entryKinds, isEntry] using isAt
  · refine ⟨0, l, .done l, by omega, ?_⟩
    simpa [Line.column, Line.entryColumns, Line.entryKinds, isEntry] using h

theorem isGap_value (value : LineValue) {emptyLines spaces : Nat} :
    isGap (value.chars ++ (lineEnd emptyLines spaces ++ t)).head? = true := by
  cases value <;> rfl

/-- A key begins a token at any column. -/
theorem beginsToken_key {key : List Char} (plainKey : isPlain key = true)
    (isHead : key.head?.all (· ∉ ['-', '.', '\ufeff']) = true) (column : Nat) (t : List Char) :
    beginsToken column (key ++ t) = true := by
  obtain ⟨x, atHead, solid, noComment⟩ := opensPlain_head (isPlain_iff.1 plainKey).1
  obtain _ | ⟨y, key⟩ := key
  · contradiction
  · obtain rfl : y = x := by simpa using atHead
    simp_all [beginsToken]

theorem isAtDocumentMark_key {key : List Char} {c : Cursor} (plainKey : isPlain key = true)
    (isHead : key.head?.all (· ∉ ['-', '.', '\ufeff']) = true) (stands : c.Stands (key ++ t) k) :
    c.isAtDocumentMark = false := by
  obtain _ | ⟨x, key⟩ := key
  · contradiction
  · simp_all [Cursor.isAtDocumentMark, stands.rest]

/-- A line is read. -/
theorem reads_line {line : Line} {spaces : Nat} (fits : line.fits spaces = true)
    (begins : beginsToken spaces t = true)
    (h : l.skipToToken.At true (line.chars ++ (lineEnd line.emptyLines spaces ++ t)) line.indent columns
      kinds) :
    ∃ n m, ReadsIn n l m ∧ n ≤ 4 ∧ m.skipToToken.At true t spaces (line.columns columns)
      (kinds ++ line.kinds columns) := by
  simp only [Line.fits, Bool.and_eq_true, decide_eq_true_eq] at fits
  obtain ⟨⟨⟨plainKey, isHead⟩, short⟩, valueFits⟩ := fits
  simp only [Line.chars, List.append_assoc, List.cons_append] at h
  have beginsThere := beginsToken_key plainKey isHead
  obtain ⟨n₁, m₁, isRead, few, isAt⟩ := reads_dash (beginsThere _ _) h
  have noMark := isAtDocumentMark_key plainKey isHead isAt.stands
  obtain ⟨m₂, isReadNext, isAtNext⟩ := reads_key plainKey short (isGap_value line.value) noMark isAt
  obtain ⟨rest, isColumns⟩ := columnsFrom_eq_cons (line.entryColumns columns) line.column
  rw [isColumns] at isAtNext
  obtain ⟨n₃, m₃, isReadLast, fewNext, isAtLast⟩ := reads_value valueFits begins (by omega) isAtNext
  refine ⟨_, m₃, (isRead.trans isReadNext).trans isReadLast, by omega, ?_⟩
  rw [Line.columns, isColumns]
  simpa [Line.kinds] using isAtLast

/-- At the end of the text all collections end. -/
theorem reads_end (h : l.skipToToken.At true [] 0 columns kinds) :
    ∃ m, ReadsIn 1 l m ∧ m.isFinished = true ∧ m.possibleKey = none ∧ m.outerKeys = [] ∧
      m.tokens.reverse.map Token.kind = kinds ++ kindsOf columns [] ∧ m.size = m.tokens.length := by
  have fresh := dropStaleKeys_eq h.possibleKey h.outerKeys
  have closed := h.closeBlocks 0
  have isHead : (l.skipToToken.closeBlocks (some 0)).cursor.head? = none := by
    rw [closed.stands.head?]
    rfl
  have isRead : l.readToken = (l.skipToToken.closeBlocks (some 0)).readEnd := by
    simp [Lexer.readToken, fresh, h.stands.column, isHead, bind, Except.bind]
  generalize l.skipToToken.closeBlocks (some 0) = m at closed isRead
  have isEnd : m.readEnd = .ok ({ m with
      columns := []
      tokens := List.replicate (columnsAt columns 0).length
        (Token.mk .blockEnd m.cursor.mark m.cursor.mark) ++ m.tokens
      size := m.size + (columnsAt columns 0).length }.push .textEnd m.cursor.mark) := by
    have takesAll (s : List Nat) : s.takeWhile (fun _ => true) = s :=
      List.takeWhile_eq_self_iff.2 fun _ _ => rfl
    have dropsAll (s : List Nat) : s.dropWhile (fun _ => true) = [] :=
      List.dropWhile_eq_nil_iff.2 fun _ _ => rfl
    simp [readEnd, closed.stands.column, Lexer.closeBlocks, inFlow, closed.depth, closed.columns, takesAll,
      dropsAll, Lexer.dropKey, closed.possibleKey, bind, Except.bind, pure, Except.pure, List.map_const']
  have whole := endsAt_length columns 0
  refine ⟨_, h.readsIn (isRead.trans isEnd) ?_, rfl, closed.possibleKey, closed.outerKeys, ?_, ?_⟩
  · simp only [Lexer.push, closed.size_eq, List.length_append]
    omega
  · simp [Lexer.push, closed.kinds, kindsOf, ← whole, ← List.replicate_append_replicate, endsAt]
  · simp [Lexer.push, closed.size, Nat.add_comm]

theorem beginsToken_lines {lines : List Line} (h : fitTogether lines = true) :
    beginsToken (indentOf lines) (charsOf lines) = true := by
  cases lines with
  | nil => rfl
  | cons line lines =>
      simp only [fitTogether, Line.fits, Bool.and_eq_true] at h
      by_cases isEntry : line.isEntry = true
      · simp [charsOf, Line.chars, isEntry, beginsToken, isSolid, isGap, isSpacing, isBreak]
      · simpa [charsOf, Line.chars, isEntry] using beginsToken_key h.1.1.1.1 h.1.1.1.2 _ _

/-- Lines are read up to the end of the text. -/
theorem reads_lines {lines : List Line} (fit : fitTogether lines = true)
    (h : l.skipToToken.At true (charsOf lines) (indentOf lines) columns kinds) :
    ∃ n m, ReadsIn n l m ∧ n ≤ 4 * lines.length + 1 ∧ m.isFinished = true ∧ m.possibleKey = none ∧
      m.outerKeys = [] ∧ m.tokens.reverse.map Token.kind = kinds ++ kindsOf columns lines ∧
      m.size = m.tokens.length := by
  induction lines generalizing l columns kinds with
  | nil =>
      obtain ⟨m, isRead, isAt⟩ := reads_end h
      exact ⟨1, m, isRead, by simp, isAt⟩
  | cons line lines inductionHypothesis =>
      simp only [fitTogether, Bool.and_eq_true] at fit
      obtain ⟨n₁, m₁, readsLine, few, standsBehind⟩ := reads_line fit.1 (beginsToken_lines fit.2) h
      obtain ⟨n₂, m₂, readsRest, fewRest, finished, noKey, noOuterKeys, isKinds, isSize⟩ :=
        inductionHypothesis fit.2 standsBehind
      refine ⟨_, m₂, readsLine.trans readsRest, by simp; omega, finished, noKey, noOuterKeys, ?_, isSize⟩
      rw [isKinds, kindsOf, List.append_assoc]

end Lexer

/-! Texts. -/

/-- A text without forbidden characters is checked to its end. -/
theorem checkedLength?_eq_none {text : List Char} (h : text.all isTextChar = true)
    (taken stretch size : Nat) : checkedLength? taken stretch size text = none := by
  induction text generalizing taken stretch size with
  | nil => rfl
  | cons c text inductionHypothesis =>
      simp only [List.all_cons, Bool.and_eq_true] at h
      simp only [checkedLength?, h.1, if_true]
      exact inductionHypothesis h.2 ..

theorem Line.kinds_length (line : Line) (columns : List Nat) :
    (line.kinds columns).length + (line.columns columns).length ≤ columns.length + 9 := by
  have valueLength : line.value.kinds.length ≤ 1 := by cases line.value <;> simp [LineValue.kinds]
  have keyLength := borderAt_length .blockMappingStart (line.entryColumns columns) line.column
  have entryLength : (line.entryKinds columns).length + (line.entryColumns columns).length ≤
      columns.length + 3 := by
    have := borderAt_length .blockSequenceStart columns line.indent
    unfold entryKinds entryColumns
    split
    · simp
      omega
    · simp
  simp only [Line.kinds, Line.columns, List.length_append, List.length_cons, List.length_nil]
  omega

theorem kindsOf_length (columns : List Nat) (lines : List Line) :
    0 < (kindsOf columns lines).length ∧
      (kindsOf columns lines).length ≤ columns.length + 9 * lines.length + 1 := by
  induction lines generalizing columns with
  | nil => simp [kindsOf]
  | cons line lines inductionHypothesis =>
      have lineLength := line.kinds_length columns
      have linesLength := inductionHypothesis (line.columns columns)
      simp only [kindsOf, List.length_append, List.length_cons]
      omega

theorem charsOf_length {lines : List Line} (h : fitTogether lines = true) :
    3 * lines.length ≤ (charsOf lines).length := by
  induction lines with
  | nil => simp
  | cons line lines inductionHypothesis =>
      simp only [fitTogether, Line.fits, Bool.and_eq_true] at h
      have keyLength : 0 < line.key.toList.length := by
        cases keyLength : line.key.toList with
        | nil => simp [keyLength, isPlain, opensPlain] at h
        | cons => simp
      have restLength := inductionHypothesis h.2
      simp only [charsOf, Line.chars, lineEnd, List.length_append, List.length_cons]
      omega

/-- A text that is made of lines has their tokens. -/
theorem tokensOf_printLines {lines : List Line} (fit : fitTogether lines = true)
    (unindented : indentOf lines = 0) (legible : (charsOf lines).all isTextChar = true) :
    ∃ tokens, tokensOf (printLines lines) = ⟨tokens, none⟩ ∧
      tokens.map Token.kind = kindsOf [] lines := by
  have begins := Lexer.beginsToken_lines fit
  rw [unindented] at begins
  have starts : (Lexer.ofChars (charsOf lines)).At true (charsOf lines) 0 [] [] :=
    ⟨⟨rfl, rfl, Nat.lt_succ_self _⟩, rfl, rfl, rfl, rfl, rfl, rfl, rfl, rfl⟩
  have ready := Lexer.At.skip_spaces 0 begins starts
  rw [Nat.add_zero, ← unindented] at ready
  obtain ⟨n, m, isRead, few, finished, noKey, noOuterKeys, isKinds, isSize⟩ := Lexer.reads_lines fit ready
  have length : m.size = (kindsOf [] lines).length := by
    rw [isSize, ← List.nil_append (kindsOf [] lines), ← isKinds]
    simp
  have count := kindsOf_length [] lines
  have least := charsOf_length fit
  simp only [List.length_nil, Nat.zero_add] at count
  have enough : n + (m.size - 0) < 6 * (charsOf lines).length + 12 := by omega
  have settled := Lexer.settle_readsIn isRead finished (Lexer.dropStaleKeys_eq noKey noOuterKeys)
    ⟨noKey, noOuterKeys⟩ enough (by omega) (Nat.zero_le _)
  have takesAll : m.tokens.reverse.take m.size = m.tokens.reverse := by
    apply List.take_of_length_le
    rw [List.length_reverse, isSize]
  refine ⟨m.tokens.reverse, ?_, by simpa using isKinds⟩
  simp [tokensOf, printLines_toList, checkedLength?_eq_none legible, settled, takesAll]

end LiveTemplate.Yaml
