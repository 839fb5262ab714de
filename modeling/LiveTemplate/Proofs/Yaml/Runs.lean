import LiveTemplate.Proofs.Yaml.Scalar
import LiveTemplate.Yaml.Token

/-!
Runs of a lexer over a block text: what separates tokens, and the tokens of entries, keys and values.  The
columns of the open collections decide which collections begin and end in front of a token.
-/

namespace LiveTemplate.Yaml

/-! Columns. -/

/-- The columns of the collections that are open where a token stands at a column. -/
def columnsAt (columns : List Nat) (k : Nat) : List Nat :=
  columns.dropWhile (k < ·)

/-- The columns of the open collections behind the beginning of one at a column. -/
def columnsFrom (columns : List Nat) (k : Nat) : List Nat :=
  if (columnsAt columns k).head?.any (k ≤ ·) then columnsAt columns k else k :: columnsAt columns k

/-- The tokens that end collections in front of a column. -/
def endsAt (columns : List Nat) (k : Nat) : List TokenKind :=
  List.replicate (columns.takeWhile (k < ·)).length .blockEnd

/-- The token that begins a collection at a column, if none is open there. -/
def beginsAt (begin : TokenKind) (columns : List Nat) (k : Nat) : List TokenKind :=
  if (columnsAt columns k).head?.any (k ≤ ·) then [] else [begin]

/-- The tokens that end collections in front of a column, and begin one there. -/
def borderAt (begin : TokenKind) (columns : List Nat) (k : Nat) : List TokenKind :=
  endsAt columns k ++ beginsAt begin columns k

section Columns

variable {columns : List Nat} {j k : Nat}

theorem columnsAt_head_le (columns : List Nat) (k : Nat) :
    (columnsAt columns k).head?.all (· ≤ k) = true := by
  have isHead := List.head?_dropWhile_not (k < ·) columns
  rw [columnsAt]
  generalize columns.dropWhile (k < ·) = rest at isHead
  cases rest with
  | nil => rfl
  | cons => simpa using isHead

theorem columnsFrom_eq_cons (columns : List Nat) (k : Nat) :
    ∃ rest, columnsFrom columns k = k :: rest := by
  have isHead := columnsAt_head_le columns k
  unfold columnsFrom
  cases isColumns : columnsAt columns k with
  | nil => exact ⟨[], rfl⟩
  | cons column rest =>
      simp only [isColumns, List.head?_cons, Option.all_some, Option.any_some, decide_eq_true_eq] at isHead ⊢
      split
      · exact ⟨rest, by rw [show column = k by omega]⟩
      · exact ⟨column :: rest, rfl⟩

/-- To the right of the innermost collection nothing ends. -/
theorem columnsAt_of_le (inside : j ≤ k) : columnsAt (j :: columns) k = j :: columns := by
  simp [columnsAt, Nat.not_lt.2 inside]

theorem endsAt_of_le (inside : j ≤ k) : endsAt (j :: columns) k = [] := by
  simp [endsAt, Nat.not_lt.2 inside]

theorem endsAt_length (columns : List Nat) (k : Nat) :
    (endsAt columns k).length + (columnsAt columns k).length = columns.length := by
  rw [endsAt, columnsAt, List.length_replicate, ← List.length_append, List.takeWhile_append_dropWhile]

/-- A token adds no more than the beginning of a collection, and its end at some time. -/
theorem borderAt_length (begin : TokenKind) (columns : List Nat) (k : Nat) :
    (borderAt begin columns k).length + (columnsFrom columns k).length ≤ columns.length + 2 := by
  have endings := endsAt_length columns k
  unfold borderAt beginsAt columnsFrom
  split <;> simp <;> omega

end Columns

namespace Lexer

/-- Reading tokens one after the other, as many as a number says.  None of them is the last one of the
text but that at the end of the run. -/
inductive ReadsIn : Nat → Lexer → Lexer → Prop where
  | done (l : Lexer) : ReadsIn 0 l l
  | step {n : Nat} {l m last : Lexer} (fresh : l.dropStaleKeys = .ok l) (unfinished : l.isFinished = false)
      (isRead : l.readToken = .ok m) (grows : l.size < m.size) (readsMore : ReadsIn n m last) :
      ReadsIn (n + 1) l last

variable {m n : Nat} {k l last : Lexer}

theorem ReadsIn.trans (h : ReadsIn m k l) (next : ReadsIn n l last) : ReadsIn (m + n) k last := by
  induction h with
  | done => rwa [Nat.zero_add]
  | step fresh unfinished isRead grows _ inductionHypothesis =>
      rw [Nat.add_right_comm]
      exact .step fresh unfinished isRead grows (inductionHypothesis next)

theorem ReadsIn.size_le (h : ReadsIn n l last) : l.size ≤ last.size := by
  induction h with
  | done => exact Nat.le_refl _
  | step _ _ _ grows _ inductionHypothesis => exact Nat.le_trans (Nat.le_of_lt grows) inductionHypothesis

/-- A run to the end of the text settles all of its tokens, given fuel for every token and for every
attempt to read one. -/
theorem settle_readsIn (h : ReadsIn n l last) (finished : last.isFinished = true)
    (fresh : last.dropStaleKeys = .ok last) (noKeys : last.possibleKey = none ∧ last.outerKeys = [])
    {fuel settled : Nat} (enough : n + (last.size - settled) < fuel) (below : settled < last.size)
    (early : settled ≤ l.size) :
    settle none fuel settled l = (last.size, last, none) := by
  induction fuel generalizing settled l n with
  | zero => contradiction
  | succ fuel inductionHypothesis =>
      cases h with
      | done =>
          have sure : last.mayBeKey settled = false := by simp [mayBeKey, noKeys]
          by_cases isLast : settled + 1 = last.size
          · simp [settle, below, fresh, sure, finished, isLast]
          · have goesOn := inductionHypothesis (.done last) (by omega)
              (show settled + 1 < last.size by omega) (by omega)
            simp [settle, below, fresh, sure, finished, isLast, goesOn]
      | @step n _ m _ freshThen unfinished isRead grows more =>
          have isReadNext : settle none fuel settled m = (last.size, last, none) :=
            inductionHypothesis more (by omega) below (by omega)
          by_cases waiting : settled < l.size
          · have settles : settle none fuel (settled + 1) l = (last.size, last, none) := by
              have less : settled + 1 < last.size := by
                have := more.size_le
                omega
              exact inductionHypothesis (.step freshThen unfinished isRead grows more) (by omega) less waiting
            by_cases pending : l.mayBeKey settled = true
            · simp [settle, waiting, freshThen, pending, isRead, isReadNext]
            · simp [settle, waiting, freshThen, pending, unfinished, settles]
          · simp [settle, waiting, isRead, isReadNext]

end Lexer

/-! What separates tokens. -/

namespace Lexer

/-- A lexer in front of a text at a column, outside of brackets and with no key pending: whether a key
may begin here, the columns of the open collections, and the kinds of the tokens that were read. -/
structure At (l : Lexer) (allows : Bool) (text : List Char) (k : Nat) (columns : List Nat)
    (kinds : List TokenKind) : Prop where
  stands : l.cursor.Stands text k
  columns : l.columns = columns
  depth : l.depth = 0
  possibleKey : l.possibleKey = none
  outerKeys : l.outerKeys = []
  allowsKey : l.allowsKey = allows
  kinds : l.tokens.reverse.map Token.kind = kinds
  size : l.size = l.tokens.length
  isOpen : l.isFinished = false

/-- Whether what is left of a text at a column begins with a token, if anything is left. -/
def beginsToken (column : Nat) (text : List Char) : Bool :=
  text.head?.all fun x => isSolid x && x != '#' && (column != 0 || x != '\ufeff')

variable {l : Lexer} {allows : Bool} {t : List Char} {k : Nat} {columns : List Nat}
  {kinds : List TokenKind}

/-- One line of what separates tokens, with blanks and no comment on it. -/
theorem skipGaps_succ {fuel : Nat} {next : Cursor}
    (noByteOrderMark : ¬(l.cursor.mark.column = 0 ∧ l.cursor.isAt '\ufeff' = true))
    (passed : l.cursor.skipWhile (fun c => c == ' ' || (c == '\t' && (l.inFlow || !l.allowsKey))) = next)
    (noComment : next.isAt '#' = false) :
    skipGaps (fuel + 1) l =
      if next.isAtAny isBreak then
        skipGaps fuel { l with cursor := next.skipBreak, allowsKey := l.allowsKey || !l.inFlow }
      else { l with cursor := next } := by
  simp only [skipGaps, noByteOrderMark, passed, noComment, Bool.false_eq_true, if_false]

/-- Spaces in front of a token are passed over. -/
theorem skipGaps_spaces {fuel : Nat} (spaces : Nat) (begins : beginsToken (k + spaces) t = true)
    (stands : l.cursor.Stands (List.replicate spaces ' ' ++ t) k) :
    skipGaps (fuel + 1) l = { l with cursor := l.cursor.skip spaces } := by
  have noByteOrderMark : ¬(l.cursor.mark.column = 0 ∧ l.cursor.isAt '\ufeff' = true) := by
    rw [stands.column, Cursor.isAt, stands.head?]
    rintro ⟨rfl, isMark⟩
    obtain _ | spaces := spaces
    · obtain _ | ⟨x, t⟩ := t
      · contradiction
      · simp_all [beginsToken]
    · contradiction
  have dropsAll (p : Bool) : t.takeWhile (fun c => c == ' ' || (c == '\t' && p)) = [] := by
    obtain _ | ⟨x, t⟩ := t
    · rfl
    · simp_all [beginsToken, isSolid_iff, isSpacing]
  have passed : l.cursor.skipWhile
      (fun c => c == ' ' || (c == '\t' && (l.inFlow || !l.allowsKey))) = l.cursor.skip spaces := by
    simp [Cursor.skipWhile, Cursor.takeWhile, stands.rest, List.takeWhile_append_of_pos, dropsAll]
  have isHead : (l.cursor.skip spaces).head? = t.head? := by
    simpa using (Cursor.Stands.skip stands).head?
  have noComment : (l.cursor.skip spaces).isAt '#' = false := by
    rw [Cursor.isAt, isHead]
    obtain _ | ⟨x, t⟩ := t
    · rfl
    · simp_all [beginsToken]
  have noBreak : (l.cursor.skip spaces).isAtAny isBreak = false := by
    rw [Cursor.isAtAny, isHead]
    obtain _ | ⟨x, t⟩ := t
    · rfl
    · simp_all [beginsToken, isSolid_iff]
  rw [skipGaps_succ noByteOrderMark passed noComment, noBreak]
  rfl

/-- A line feed is passed over, and a key may begin behind it. -/
theorem skipGaps_break {fuel : Nat} (outside : l.depth = 0) (stands : l.cursor.Stands ('\n' :: t) k) :
    skipGaps (fuel + 1) l =
      skipGaps fuel { l with cursor := l.cursor.readBreak.2, allowsKey := true } := by
  have isNext (x : Char) : l.cursor.isAt x = ('\n' == x) := by simp [Cursor.isAt, stands.head?]
  have atBreak : l.cursor.isAtAny isBreak = true := by
    rw [Cursor.isAtAny, stands.head?]
    rfl
  have passed : l.cursor.skipWhile
      (fun c => c == ' ' || (c == '\t' && (l.inFlow || !l.allowsKey))) = l.cursor := by
    simp [Cursor.skipWhile, Cursor.takeWhile, stands.rest, Cursor.skip_zero]
  rw [skipGaps_succ (by simp [isNext]) passed (isNext _), atBreak]
  simp [inFlow, outside, Cursor.skipBreak]

/-- Between lines empty lines are passed over, too. -/
theorem skipGaps_lines {fuel emptyLines spaces : Nat} (begins : beginsToken spaces t = true)
    (enough : emptyLines < fuel)
    (h : l.At true (List.replicate emptyLines '\n' ++ (List.replicate spaces ' ' ++ t)) 0 columns
      kinds) :
    (skipGaps fuel l).At true t spaces columns kinds := by
  induction emptyLines generalizing l fuel with
  | zero =>
      obtain _ | fuel := fuel
      · contradiction
      have stands := h.stands
      simp only [List.replicate_zero, List.nil_append] at stands
      rw [skipGaps_spaces spaces (by simpa using begins) stands]
      have standsNext := stands.skip
      simp only [List.length_replicate, Nat.zero_add] at standsNext
      exact { h with stands := standsNext }
  | succ emptyLines inductionHypothesis =>
      obtain _ | fuel := fuel
      · contradiction
      have stands := h.stands
      rw [List.replicate_succ, List.cons_append] at stands
      rw [skipGaps_break h.depth stands]
      exact inductionHypothesis (Nat.lt_of_succ_lt_succ enough)
        { h with stands := stands.readBreak, allowsKey := rfl }

/-- Spaces within a line are passed over in front of a token. -/
theorem At.skip_spaces {allows : Bool} (spaces : Nat) (begins : beginsToken (k + spaces) t = true)
    (h : l.At allows (List.replicate spaces ' ' ++ t) k columns kinds) :
    l.skipToToken.At allows t (k + spaces) columns kinds := by
  obtain ⟨fuel, isFuel⟩ := h.stands.fuel_succ
  have standsNext := h.stands.skip
  rw [List.length_replicate] at standsNext
  rw [skipToToken, isFuel, skipGaps_spaces spaces begins h.stands]
  exact { h with stands := standsNext }

/-- The end of a line is passed over, and a key may begin behind it. -/
theorem At.skip_lineEnd {allows : Bool} {emptyLines spaces : Nat} (begins : beginsToken spaces t = true)
    (h : l.At allows (lineEnd emptyLines spaces ++ t) k columns kinds) :
    l.skipToToken.At true t spaces columns kinds := by
  have stands := h.stands
  simp only [lineEnd, List.cons_append, List.append_assoc] at stands
  obtain ⟨fuel, isFuel⟩ := stands.fuel_succ
  have less : emptyLines < fuel := by
    have := stands.fuel
    simp only [List.length_cons, List.length_append, List.length_replicate] at this
    omega
  rw [skipToToken, isFuel, skipGaps_break h.depth stands]
  exact skipGaps_lines begins less { h with stands := stands.readBreak, allowsKey := rfl }

/-! Tokens. -/

theorem dropStaleKeys_eq (noKey : l.possibleKey = none) (noOuterKeys : l.outerKeys = []) :
    l.dropStaleKeys = .ok l := by
  obtain ⟨_, _, _, _, _, possibleKey, outerKeys, _⟩ := l
  obtain rfl : possibleKey = none := noKey
  obtain rfl : outerKeys = [] := noOuterKeys
  rfl

/-- Collections to the right of a column end in front of it. -/
theorem At.closeBlocks {allows : Bool} (h : l.At allows t k columns kinds) (j : Nat) :
    (l.closeBlocks (some j)).At allows t k (columnsAt columns j) (kinds ++ endsAt columns j) := by
  have noFlow : l.inFlow = false := by simp [inFlow, h.depth]
  have stays : l.closeBlocks (some j) = { l with
      columns := columnsAt columns j
      tokens := List.replicate (columns.takeWhile (j < ·)).length
        ⟨.blockEnd, l.cursor.mark, l.cursor.mark⟩ ++ l.tokens
      size := l.size + (columns.takeWhile (j < ·)).length } := by
    simp [Lexer.closeBlocks, noFlow, h.columns, columnsAt, List.map_const']
  rw [stays]
  refine { h with columns := rfl, kinds := ?_, size := ?_, isOpen := ?_ }
  · simp [h.kinds, endsAt]
  · simp [h.size, Nat.add_comm]
  · cases (columns.takeWhile (j < ·)).length with
    | zero => simpa [isFinished] using h.isOpen
    | succ => rfl

/-- A text that opens like a plain scalar is read as one. -/
theorem readFrom_plain {x : Char} {rest : List Char} (outside : l.depth = 0)
    (opens : opensPlain (x :: rest) = true) (isRest : l.cursor.rest = (x :: rest) ++ t) :
    l.readFrom x = l.readPlainToken := by
  have noFlow : l.inFlow = false := by simp [inFlow, outside]
  simp only [opensPlain, Bool.and_eq_true, Bool.or_eq_true, Bool.not_eq_true', beq_iff_eq, isSolid] at opens
  obtain ⟨solid, noIndicator | ⟨(rfl | rfl) | rfl, noGapNext⟩⟩ := opens
  · have begins : beginsPlain false x (l.cursor.at? 1) = true := by simp [beginsPlain, solid, noIndicator]
    simp only [isIndicator, decide_eq_false_iff_not, List.mem_cons, List.not_mem_nil, or_false, not_or] at noIndicator
    simp [readFrom, noIndicator, noFlow, begins]
  all_goals
    obtain _ | ⟨y, rest⟩ := rest
    · contradiction
    have isNext : l.cursor.at? 1 = some y := by simp [Cursor.at?, isRest]
    have noGap : isGap (some y) = false := noGapNext
    have noSpacing : isSpacing y = false := by simp_all [isGap]
    simp [readFrom, isNext, noGap, noSpacing, noFlow, beginsPlain]

/-- What separates tokens changes only where a lexer stands. -/
theorem skipGaps_keeps (fuel : Nat) (l : Lexer) :
    ∃ c allows, skipGaps fuel l = { l with cursor := c, allowsKey := allows } := by
  induction fuel generalizing l with
  | zero => exact ⟨l.cursor, l.allowsKey, rfl⟩
  | succ fuel inductionHypothesis =>
      unfold skipGaps
      extract_lets
      split
      · obtain ⟨c, allows, same⟩ := inductionHypothesis _
        exact ⟨c, allows, same⟩
      · exact ⟨_, l.allowsKey, rfl⟩

theorem At.dropKey {allows : Bool} (h : l.At allows t k columns kinds) : l.dropKey = .ok l := by
  obtain ⟨_, _, _, _, _, possibleKey, _, _⟩ := l
  obtain rfl : possibleKey = none := h.possibleKey
  rfl

theorem isFinished_cons {kind : TokenKind} (notEnd : kind ≠ .textEnd) {start stop : Mark}
    {tokens : List Token} (isTokens : l.tokens = ⟨kind, start, stop⟩ :: tokens) : l.isFinished = false := by
  unfold isFinished
  split
  · simp_all
  · rfl

/-- A token is added behind which a lexer stands elsewhere. -/
theorem At.push {allows : Bool} {t' : List Char} {k' : Nat} {next : Cursor}
    (h : l.At allows t k columns kinds) (standsNext : next.Stands t' k') (kind : TokenKind)
    (notEnd : kind ≠ .textEnd) (start : Mark) :
    ({ l with cursor := next }.push kind start).At allows t' k' columns (kinds ++ [kind]) :=
  { h with
    stands := standsNext
    kinds := by simp [Lexer.push, h.kinds]
    size := by simp [Lexer.push, h.size]
    isOpen := isFinished_cons notEnd rfl }

/-- An indicator adds its token. -/
theorem At.pushIndicator {allows : Bool} {x : Char} (h : l.At allows (x :: t) k columns kinds)
    (kind : TokenKind) (notEnd : kind ≠ .textEnd) :
    (l.pushIndicator kind 1).At allows t (k + 1) columns (kinds ++ [kind]) :=
  h.push h.stands.skip_one kind notEnd l.cursor.mark

/-- A collection begins at a column, unless one is open there. -/
theorem At.openBlockHere {allows : Bool} (h : l.At allows t k (columnsAt columns k) kinds)
    (kind : TokenKind) (notEnd : kind ≠ .textEnd) :
    (l.openBlockHere kind).At allows t k (columnsFrom columns k)
      (kinds ++ beginsAt kind columns k) := by
  have noFlow : l.inFlow = false := by simp [inFlow, h.depth]
  have whole : l.openBlockHere kind =
      if (columnsAt columns k).head?.any (k ≤ ·) then l
      else { l with
        columns := k :: columnsAt columns k
        tokens := ⟨kind, l.cursor.mark, l.cursor.mark⟩ :: l.tokens
        size := l.size + 1 } := by
    simp [Lexer.openBlockHere, openBlock, insert, noFlow, h.columns, h.stands.column]
  rw [whole, columnsFrom, beginsAt]
  split
  · simpa using h
  · exact { h with
      columns := rfl
      kinds := by simp [h.kinds]
      size := by simp [h.size]
      isOpen := isFinished_cons notEnd rfl }

theorem At.with_allowsKey {allows : Bool} (h : l.At allows t k columns kinds) :
    { l with allowsKey := allows } = l := by
  rw [← h.allowsKey]

theorem At.size_eq {allows : Bool} (h : l.At allows t k columns kinds) : l.size = kinds.length := by
  rw [h.size, ← h.kinds]
  simp

/-- A token is read from where a lexer stands when it has passed over what separates tokens and has
closed the collections that end there. -/
theorem At.readToken {allows : Bool} {x : Char} (h : l.skipToToken.At allows t k columns kinds)
    (isHead : t.head? = some x) (noDirective : x ≠ '%')
    (noMark : l.skipToToken.cursor.isAtDocumentMark = false) :
    ∃ m : Lexer, l.readToken = m.readFrom x ∧ m.At allows t k (columnsAt columns k)
      (kinds ++ endsAt columns k) ∧
      m.cursor = l.skipToToken.cursor := by
  have fresh := dropStaleKeys_eq h.possibleKey h.outerKeys
  have closed := h.closeBlocks k
  have closedHead : (l.skipToToken.closeBlocks (some k)).cursor.head? = some x := by
    rw [closed.stands.head?, isHead]
  have sameCursor : (l.skipToToken.closeBlocks (some k)).cursor = l.skipToToken.cursor := by
    unfold Lexer.closeBlocks
    split <;> rfl
  refine ⟨_, ?_, closed, sameCursor⟩
  rw [← sameCursor] at noMark
  simp [Lexer.readToken, fresh, h.stands.column, closed.stands.column, closedHead, noMark, noDirective, bind,
    Except.bind]

/-- A run that reads one token. -/
theorem At.readsIn {allows : Bool} {m : Lexer} (h : l.skipToToken.At allows t k columns kinds)
    (isRead : l.readToken = .ok m) (grows : kinds.length < m.size) : ReadsIn 1 l m := by
  rw [← h.size_eq] at grows
  obtain ⟨c, allows', same⟩ := skipGaps_keeps l.cursor.fuel l
  rw [skipToToken, same] at h grows
  exact .step (dropStaleKeys_eq h.possibleKey h.outerKeys) h.isOpen isRead grows (.done m)

/-- The dash of an entry is read, and the sequence begins with it if it is the first. -/
theorem reads_entry (begins : beginsToken (k + 2) t = true)
    (h : l.skipToToken.At true ('-' :: ' ' :: t) k columns kinds) :
    ∃ m, ReadsIn 1 l m ∧ m.skipToToken.At true t (k + 2) (columnsFrom columns k)
      (kinds ++ (borderAt .blockSequenceStart columns k ++ [.blockEntry])) := by
  have noMark : l.skipToToken.cursor.isAtDocumentMark = false := by
    simp [Cursor.isAtDocumentMark, h.stands.rest]
  obtain ⟨m, isRead, isAt, -⟩ := h.readToken rfl (by decide) noMark
  have begun := isAt.openBlockHere .blockSequenceStart (by simp)
  have noFlow : m.inFlow = false := by simp [inFlow, isAt.depth]
  have atGap : isGap (m.cursor.at? 1) = true := by
    rw [Cursor.at?, isAt.stands.rest]
    rfl
  have isDash : m.readFrom '-' =
      .ok ((m.openBlockHere .blockSequenceStart).pushIndicator .blockEntry 1) := by
    simp [readFrom, atGap, readBlockEntry, noFlow, isAt.allowsKey, begun.dropKey, begun.with_allowsKey,
      bind, Except.bind, pure, Except.pure]
  have entered := begun.pushIndicator .blockEntry (by simp)
  simp only [List.append_assoc] at entered
  have grows : kinds.length <
      ((m.openBlockHere .blockSequenceStart).pushIndicator .blockEntry 1).size := by
    rw [entered.size_eq]
    simp only [List.length_append, List.length_cons]
    omega
  refine ⟨_, h.readsIn (isRead.trans isDash) grows, ?_⟩
  simpa [borderAt] using At.skip_spaces 1 begins entered

/-- A lexer behind a key, in front of its colon. -/
def behindKey (l : Lexer) (key : List Char) : Lexer :=
  { l with
    cursor := l.cursor.skip key.length
    tokens := ⟨.scalar (String.ofList key) .plain, l.cursor.mark, (l.cursor.skip key.length).mark⟩ ::
      l.tokens
    size := l.size + 1
    possibleKey := some ⟨l.size, l.cursor.mark, l.columns.head? == some l.cursor.mark.column⟩
    allowsKey := false }

theorem At.contentColumn_le {allows : Bool} (h : l.At allows t k (columnsAt columns k) kinds) :
    l.contentColumn ≤ k + 1 := by
  have isHead := columnsAt_head_le columns k
  rw [← h.columns] at isHead
  unfold contentColumn
  split
  · omega
  · simp_all

/-- The key of a line is read. -/
theorem At.readPlainToken_key {key : List Char} (plainKey : isPlain key = true) (gapBehind : isGap t.head? = true)
    (noMark : l.cursor.isAtDocumentMark = false)
    (h : l.At true (key ++ ':' :: t) k (columnsAt columns k) kinds) :
    l.readPlainToken = .ok (l.behindKey key) := by
  have isRead := readPlain_key (isPlain_iff.1 plainKey).2 (opensPlain_head (isPlain_iff.1 plainKey).1) gapBehind noMark
    h.contentColumn_le h.stands
  simp only [contentColumn] at isRead
  simp [readPlainToken, noteKey, h.allowsKey, h.dropKey, inFlow, h.depth, contentColumn, isRead,
    behindKey, Lexer.push, bind, Except.bind, pure, Except.pure]

theorem closeBlocks_of_head_le {j : Nat} (h : l.columns.head?.all (· ≤ j) = true) :
    l.closeBlocks (some j) = l := by
  obtain ⟨_, _, _, columns, _, _, _, _⟩ := l
  unfold closeBlocks
  split
  · rfl
  · obtain _ | ⟨column, columns⟩ := columns
    · rfl
    · have notLess : ¬ j < column := by simpa using h
      simp [notLess]

/-- The colon behind a key gives the key its token, and the mapping that begins with it. -/
theorem behindKey_readValue {key : List Char}
    (h : l.At true (key ++ ':' :: t) k (columnsAt columns k) kinds) :
    ∃ m, (l.behindKey key).readValue = .ok m ∧
      m.At false t (k + key.length + 1) (columnsFrom columns k)
        (kinds ++ (beginsAt .blockMappingStart columns k ++
          [.key, .scalar (String.ofList key) .plain, .value])) := by
  have isSize := h.size
  let begun : List Token :=
    (beginsAt .blockMappingStart columns k).map fun kind => ⟨kind, l.cursor.mark, l.cursor.mark⟩
  have isKinds : begun.reverse.map Token.kind = beginsAt .blockMappingStart columns k := by
    simp only [begun, beginsAt]
    split <;> rfl
  let m : Lexer := { l with
    cursor := l.cursor.skip key.length
    tokens := ⟨.scalar (String.ofList key) .plain, l.cursor.mark, (l.cursor.skip key.length).mark⟩ ::
      ⟨.key, l.cursor.mark, l.cursor.mark⟩ :: (begun ++ l.tokens)
    size := begun.length + l.size + 1 + 1
    columns := columnsFrom columns k
    allowsKey := false }
  have isAt : m.At false (':' :: t) (k + key.length) (columnsFrom columns k)
      (kinds ++ (begun.reverse.map Token.kind ++ [.key, .scalar (String.ofList key) .plain])) :=
    { h with
      stands := h.stands.skip
      columns := rfl
      allowsKey := rfl
      kinds := by simp [m, h.kinds]
      size := by simp [m, isSize]
      isOpen := rfl }
  refine ⟨m.pushIndicator .value 1, ?_, ?_⟩
  · have later : l.size + 1 + 1 - l.size = 2 := by omega
    by_cases openThere : (columnsAt columns k).head?.any (k ≤ ·) = true
    all_goals
      simp [m, begun, beginsAt, readValue, behindKey, insert, openBlock, inFlow, columnsFrom, openThere,
        later, h.depth, h.columns, h.stands.column, h.possibleKey, Nat.add_comm 1]
  · rw [← isKinds]
    simpa using isAt.pushIndicator .value (by simp)

/-- The key that is pending behind a key is still fresh: it is on the same line, and not too long. -/
theorem behindKey_dropStaleKeys {allows : Bool} {key : List Char} (short : byteCount key ≤ keySize)
    (h : l.At allows (key ++ ':' :: t) k columns kinds) :
    (l.behindKey key).dropStaleKeys = .ok (l.behindKey key) := by
  have notStale : isStale (l.cursor.skip key.length).mark
      ⟨l.size, l.cursor.mark, l.columns.head? == some l.cursor.mark.column⟩ = false := by
    rw [Cursor.skip_mark h.stands.rest]
    simp [isStale]
    omega
  simp [dropStaleKeys, behindKey, notStale, h.outerKeys]

/-- Behind a key the colon is read at once. -/
theorem behindKey_readToken {key : List Char} (short : byteCount key ≤ keySize) (nonemptyKey : key ≠ [])
    (gapBehind : isGap t.head? = true) (h : l.At true (key ++ ':' :: t) k (columnsAt columns k) kinds) :
    (l.behindKey key).readToken = (l.behindKey key).readValue := by
  have standsNext : (l.behindKey key).cursor.Stands (':' :: t) (k + key.length) := h.stands.skip
  have skipped : (l.behindKey key).skipToToken = l.behindKey key := by
    obtain ⟨fuel, isFuel⟩ := standsNext.fuel_succ
    have colon : beginsToken (k + key.length) (':' :: t) = true := by
      simp [beginsToken, isSolid, isGap, isSpacing, isBreak]
    rw [skipToToken, isFuel, skipGaps_spaces 0 colon standsNext, Cursor.skip_zero]
  have stays : (l.behindKey key).closeBlocks (some (k + key.length)) = l.behindKey key := by
    apply closeBlocks_of_head_le
    have isHead := columnsAt_head_le columns k
    rw [← h.columns] at isHead
    simp only [behindKey]
    cases isColumns : l.columns with
    | nil => rfl
    | cons column =>
        simp only [isColumns, List.head?_cons, Option.all_some, decide_eq_true_eq] at isHead ⊢
        omega
  have fresh := behindKey_dropStaleKeys short h
  have noFlow : (l.behindKey key).inFlow = false := by simp [inFlow, behindKey, h.depth]
  have noMark := standsNext.isAtDocumentMark (Nat.add_pos_right k (List.length_pos_iff.2 nonemptyKey))
  have isHead : (l.behindKey key).cursor.head? = some ':' := standsNext.head?
  have atGap : isGap ((l.behindKey key).cursor.at? 1) = true := by
    rw [Cursor.at?, standsNext.rest, ← gapBehind, List.getElem?_cons_succ, List.head?_eq_getElem?]
  simp [readToken, skipped, fresh, standsNext.column, stays, isHead, noMark, readFrom, atGap, bind, Except.bind]

/-- The colon behind a key is read, and the key and the mapping that begins with it get their tokens. -/
theorem behindKey_reads {key : List Char} (short : byteCount key ≤ keySize) (nonemptyKey : key ≠ [])
    (gapBehind : isGap t.head? = true) (h : l.At true (key ++ ':' :: t) k (columnsAt columns k) kinds) :
    ∃ m, ReadsIn 1 (l.behindKey key) m ∧ m.At false t (k + key.length + 1) (columnsFrom columns k)
      (kinds ++ (beginsAt .blockMappingStart columns k ++
        [.key, .scalar (String.ofList key) .plain, .value])) := by
  obtain ⟨m, givesValue, isAt⟩ := behindKey_readValue h
  have isRead := (behindKey_readToken short nonemptyKey gapBehind h).trans givesValue
  have grows : (l.behindKey key).size < m.size := by
    have before : (l.behindKey key).size = kinds.length + 1 := by rw [behindKey, h.size_eq]
    rw [before, isAt.size_eq]
    simp only [List.length_append, List.length_cons]
    omega
  exact ⟨m, .step (behindKey_dropStaleKeys short h) rfl isRead grows (.done m), isAt⟩

/-- A key and the colon behind it are read. -/
theorem reads_key {key : List Char} (plainKey : isPlain key = true)
    (short : byteCount key ≤ keySize) (gapBehind : isGap t.head? = true)
    (noMark : l.skipToToken.cursor.isAtDocumentMark = false)
    (h : l.skipToToken.At true (key ++ ':' :: t) k columns kinds) :
    ∃ m, ReadsIn 2 l m ∧ m.At false t (k + key.length + 1) (columnsFrom columns k)
      (kinds ++ (borderAt .blockMappingStart columns k ++
        [.key, .scalar (String.ofList key) .plain, .value])) := by
  obtain ⟨opens, -⟩ := isPlain_iff.1 plainKey
  obtain _ | ⟨x, rest⟩ := key
  · contradiction
  obtain ⟨m, isRead, isAt, sameCursor⟩ := h.readToken rfl (opensPlain_ne opens) noMark
  rw [← sameCursor] at noMark
  have readsFirst : l.readToken = .ok (m.behindKey (x :: rest)) := by
    rw [isRead, readFrom_plain isAt.depth opens isAt.stands.rest, isAt.readPlainToken_key plainKey gapBehind noMark]
  have grows : kinds.length < (m.behindKey (x :: rest)).size := by
    simp only [behindKey, isAt.size_eq, List.length_append]
    omega
  obtain ⟨last, readsSecond, isAtLast⟩ := behindKey_reads short (List.cons_ne_nil x rest) gapBehind isAt
  refine ⟨last, (h.readsIn readsFirst grows).trans readsSecond, ?_⟩
  simpa [borderAt] using isAtLast

theorem beginsToken_solid {column : Nat} (begins : beginsToken column t = true) :
    t.head?.all isSolid = true := by
  obtain _ | ⟨x, t⟩ := t
  · rfl
  · simp_all [beginsToken]

theorem beginsToken_plain {s : List Char} (opens : opensPlain s = true) :
    beginsToken (k + 1) (s ++ t) = true := by
  obtain ⟨x, atHead, solid, noComment⟩ := opensPlain_head opens
  obtain _ | ⟨y, s⟩ := s
  · contradiction
  · obtain rfl : y = x := by simpa using atHead
    simp [beginsToken, solid, noComment]

/-- In front of a value, which stands to the right of the innermost collection, nothing ends and
nothing begins. -/
theorem At.readToken_value {x : Char} {j : Nat} (begins : beginsToken (k + 1) (x :: t) = true)
    (noDirective : x ≠ '%') (inside : j ≤ k) (h : l.At false (' ' :: x :: t) k (j :: columns) kinds) :
    ∃ m : Lexer, m.At false (x :: t) (k + 1) (j :: columns) kinds ∧
      ∀ last, m.readFrom x = .ok last → kinds.length < last.size → ReadsIn 1 l last := by
  have skipped := At.skip_spaces 1 begins h
  have noMark := skipped.stands.isAtDocumentMark (Nat.succ_pos k)
  obtain ⟨m, isRead, isAt, -⟩ := skipped.readToken rfl noDirective noMark
  rw [columnsAt_of_le (Nat.le_succ_of_le inside), endsAt_of_le (Nat.le_succ_of_le inside), List.append_nil] at isAt
  exact ⟨m, isAt, fun last readsValue grows => skipped.readsIn (isRead.trans readsValue) grows⟩

/-- A value without quotes is read, with the end of its line and the spaces behind it. -/
theorem reads_plain {s : List Char} {j emptyLines spaces : Nat} (plain : isPlain s = true)
    (begins : beginsToken spaces t = true) (inside : j ≤ k) (fewer : spaces ≤ j)
    (h : l.At false (' ' :: (s ++ (lineEnd emptyLines spaces ++ t))) k (j :: columns) kinds) :
    ∃ m, ReadsIn 1 l m ∧ m.skipToToken.At true t spaces (j :: columns)
      (kinds ++ [.scalar (String.ofList s) .plain]) := by
  obtain ⟨opens, goesOn⟩ := isPlain_iff.1 plain
  obtain _ | ⟨x, rest⟩ := s
  · contradiction
  obtain ⟨m, isAt, reads⟩ := h.readToken_value (beginsToken_plain opens) (opensPlain_ne opens) inside
  have noMark := isAt.stands.isAtDocumentMark (Nat.succ_pos k)
  obtain ⟨next, readsOn, standsBehind⟩ := readPlain_value goesOn (opensPlain_head opens)
    (beginsToken_solid begins) noMark (show j + 1 ≤ k + 1 + 1 by omega) (by omega) isAt.stands
  have allowed : { m with allowsKey := true }.At true (x :: rest ++ (lineEnd emptyLines spaces ++ t))
      (k + 1) (j :: columns) kinds := { isAt with allowsKey := rfl }
  have pushed := allowed.push standsBehind (.scalar (String.ofList (x :: rest)) .plain) (by simp)
    m.cursor.mark
  have readsPlain : m.readPlainToken = .ok ({ m with cursor := next, allowsKey := true }.push
      (.scalar (String.ofList (x :: rest)) .plain) m.cursor.mark) := by
    have isContent : m.contentColumn = j + 1 := by simp [contentColumn, isAt.columns]
    have noFlow : m.inFlow = false := by simp [inFlow, isAt.depth]
    simp [readPlainToken, noteKey, isAt.allowsKey, noFlow, isContent, readsOn, bind, Except.bind, pure,
      Except.pure]
  rw [← readFrom_plain isAt.depth opens isAt.stands.rest] at readsPlain
  refine ⟨_, reads _ readsPlain (by rw [pushed.size_eq]; simp), ?_⟩
  exact At.skip_spaces 0 begins pushed

/-- A value between quotes is read, with the end of its line and the spaces behind it. -/
theorem reads_quoted {s : List Char} {j emptyLines spaces : Nat} (verbatim : s.all isVerbatim = true)
    (begins : beginsToken spaces t = true) (inside : j ≤ k)
    (h : l.At false (' ' :: '"' :: (s ++ '"' :: (lineEnd emptyLines spaces ++ t))) k (j :: columns)
      kinds) :
    ∃ m, ReadsIn 1 l m ∧ m.skipToToken.At true t spaces (j :: columns)
      (kinds ++ [.scalar (String.ofList s) .other]) := by
  obtain ⟨m, isAt, reads⟩ := h.readToken_value rfl (by decide) inside
  have readsOn := readQuoted_verbatim (List.all_eq_true.1 verbatim) isAt.stands
  have standsBehind : (m.cursor.skip (s.length + 2)).Stands (lineEnd emptyLines spaces ++ t)
      (k + 1 + (s.length + 2)) := by
    have length : ('"' :: (s ++ ['"'])).length = s.length + 2 := by simp
    rw [← length]
    apply Cursor.Stands.skip
    simpa using isAt.stands
  have pushed := isAt.push standsBehind (.scalar (String.ofList s) .other) (by simp) m.cursor.mark
  have readsQuoted : m.readFrom '"' = .ok ({ m with cursor := m.cursor.skip (s.length + 2) }.push
      (.scalar (String.ofList s) .other) m.cursor.mark) := by
    simp [readFrom, readQuotedToken, readContent, noteKey, isAt.allowsKey, readsOn, bind, Except.bind,
      Except.map, pure, Except.pure]
  exact ⟨_, reads _ readsQuoted (by rw [pushed.size_eq]; simp), pushed.skip_lineEnd begins⟩

end Lexer

end LiveTemplate.Yaml
