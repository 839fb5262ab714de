import LiveTemplate.Yaml.Scan.Block
import LiveTemplate.Yaml.Scan.Plain
import LiveTemplate.Yaml.Scan.Tag

/-!
Tokens of a YAML text.  The structure that indentation gives is written out: collections begin and end
with tokens of their own, and a key that is only recognised by the colon behind it gets its token put in
front of it afterwards.
-/

namespace LiveTemplate.Yaml

/-- How a scalar is written, as far as that says how it is read: plain, as a literal block, or in another
way. -/
inductive Style where
  | plain
  | literal
  | other
deriving DecidableEq, Repr

/-- What a token is. -/
inductive TokenKind where
  | directive (d : Directive)
  | documentStart
  | documentEnd
  | blockSequenceStart
  | blockMappingStart
  | blockEnd
  | flowSequenceStart
  | flowSequenceEnd
  | flowMappingStart
  | flowMappingEnd
  | blockEntry
  | flowEntry
  | key
  | value
  | alias (name : String)
  | anchor (name : String)
  | tag (handle : String) (suffix : TagBytes)
  | scalar (text : String) (style : Style)
  | textEnd

/-- A token and the positions at which it begins and ends. -/
structure Token where
  kind : TokenKind
  start : Mark
  stop : Mark

/-- A place where a key may have begun: the number of the token there, and whether it must be one. -/
structure PossibleKey where
  token : Nat
  mark : Mark
  isRequired : Bool

/-- The state of reading tokens: those read so far, the last one first, and their number; the columns of
the open collections that indentation began, from the innermost on; the number of open brackets; the place
where a key may have begun here, and those in front of open brackets, each with the number of brackets
around it, from the innermost on. -/
structure Lexer where
  cursor : Cursor
  tokens : List Token
  size : Nat
  columns : List Nat
  depth : Nat
  possibleKey : Option PossibleKey
  outerKeys : List (Nat × PossibleKey)
  allowsKey : Bool

namespace Lexer

/-- The state in front of a text. -/
def ofChars (text : List Char) : Lexer :=
  ⟨.ofChars text, [], 0, [], 0, none, [], true⟩

/-- Whether the text that is left stands between brackets. -/
def inFlow (l : Lexer) : Bool :=
  l.depth ≠ 0

/-- The column at which content of the innermost collection begins at the least. -/
def contentColumn (l : Lexer) : Nat :=
  match l.columns with
  | [] => 0
  | column :: _ => column + 1

/-- Adds a token that ends where the text that is left begins. -/
def push (l : Lexer) (kind : TokenKind) (start : Mark) : Lexer :=
  { l with tokens := ⟨kind, start, l.cursor.mark⟩ :: l.tokens, size := l.size + 1 }

/-- Adds a token of so many characters. -/
def pushIndicator (l : Lexer) (kind : TokenKind) (length : Nat) : Lexer :=
  let start := l.cursor.mark
  { l with cursor := l.cursor.skip length }.push kind start

/-- Puts a token without characters in front of the token of a number. -/
def insert (l : Lexer) (number : Nat) (kind : TokenKind) (mark : Mark) : Lexer :=
  let later := l.size - number
  { l with
    tokens := l.tokens.take later ++ ⟨kind, mark, mark⟩ :: l.tokens.drop later, size := l.size + 1 }

/-- Gives up the place where a key may have begun; it is an error if it must be one. -/
def dropKey (l : Lexer) : Except Error Lexer :=
  match l.possibleKey with
  | some ⟨_, _, true⟩ => .error (.malformed .missingColon l.cursor.mark)
  | _ => .ok { l with possibleKey := none }

/-- Notes that a key may begin here, if it may.  At the column of a collection it must. -/
def noteKey (l : Lexer) : Except Error Lexer :=
  if l.allowsKey then do
    let mark := l.cursor.mark
    let isRequired := !l.inFlow && l.columns.head? == some mark.column
    return { ← l.dropKey with possibleKey := some ⟨l.size, mark, isRequired⟩ }
  else .ok l

/-- How many bytes a key without an indicator may take. -/
def keySize : Nat := 1024

/-- Whether a place where a key may have begun is too far back for a colon here. -/
def isStale (mark : Mark) (key : PossibleKey) : Bool :=
  key.mark.line < mark.line || key.mark.offset + keySize < mark.offset

/-- Gives up the places where a key may have begun that are too far back. -/
def dropStaleKeys (l : Lexer) : Except Error Lexer :=
  let mark := l.cursor.mark
  let isRefused := fun (key : PossibleKey) => isStale mark key && key.isRequired
  if l.possibleKey.any isRefused || l.outerKeys.any (isRefused ·.2) then
    .error (.malformed .missingColon mark)
  else .ok { l with
    possibleKey := l.possibleKey.filter (!isStale mark ·)
    outerKeys := l.outerKeys.filter (!isStale mark ·.2) }

/-- Closes the collections that indentation began to the right of a column, or all. -/
def closeBlocks (l : Lexer) (column : Option Nat) : Lexer :=
  if l.inFlow then l
  else
    let isRight := fun (start : Nat) => column.all (· < start)
    let mark := l.cursor.mark
    let ends := (l.columns.takeWhile isRight).map fun _ => Token.mk .blockEnd mark mark
    { l with
      columns := l.columns.dropWhile isRight, tokens := ends ++ l.tokens
      size := l.size + ends.length }

/-- Opens a collection at a column, if that is to the right of the innermost one, with its token in front
of the token of a number. -/
def openBlock (l : Lexer) (kind : TokenKind) (column number : Nat) (mark : Mark) : Lexer :=
  if l.inFlow || l.columns.head?.any (column ≤ ·) then l
  else { l with columns := column :: l.columns }.insert number kind mark

/-- Opens a collection here, if that is to the right of the innermost one. -/
def openBlockHere (l : Lexer) (kind : TokenKind) : Lexer :=
  l.openBlock kind l.cursor.mark.column l.size l.cursor.mark

/-- Passes over what separates tokens: blanks, comments and line breaks, and a byte order mark at the
beginning of a line.  Tabs are no indentation.  The fuel counts characters. -/
def skipGaps : (fuel : Nat) → Lexer → Lexer
  | 0, l => l
  | fuel + 1, l =>
    let isSkipped := fun c => c == ' ' || (c == '\t' && (l.inFlow || !l.allowsKey))
    let c := l.cursor
    let c := if c.mark.column = 0 ∧ c.isAt '\ufeff' then c.skip 1 else c
    let c := c.skipWhile isSkipped
    let c := if c.isAt '#' then c.skipToBreak else c
    if c.isAtAny isBreak then
      skipGaps fuel { l with cursor := c.skipBreak, allowsKey := l.allowsKey || !l.inFlow }
    else { l with cursor := c }

/-- Passes over what separates tokens. -/
def skipToToken (l : Lexer) : Lexer :=
  skipGaps l.cursor.fuel l

/-! The tokens. -/

/-- Ends everything that is open at the end of the text. -/
def readEnd (l : Lexer) : Except Error Lexer := do
  let mark := l.cursor.mark
  let mark := if mark.column = 0 then mark else ⟨mark.offset, mark.line + 1, 0⟩
  let l ← ({ l with cursor := { l.cursor with mark := mark } }.closeBlocks none).dropKey
  return l.push .textEnd mark

/-- Reads a directive. -/
def readDirectiveToken (l : Lexer) : Except Error Lexer := do
  let l ← (l.closeBlocks none).dropKey
  let start := l.cursor.mark
  let (d, c) ← readDirective l.cursor
  return { l with cursor := c, allowsKey := false }.push (.directive d) start

/-- Reads the mark that starts or ends a document. -/
def readDocumentMark (l : Lexer) (kind : TokenKind) : Except Error Lexer := do
  let l ← (l.closeBlocks none).dropKey
  return { l with allowsKey := false }.pushIndicator kind 3

/-- Reads an opening bracket. -/
def readOpening (l : Lexer) (kind : TokenKind) : Except Error Lexer := do
  let l ← l.noteKey
  let here := l.possibleKey.toList.map (l.depth, ·)
  return { l with
    depth := l.depth + 1, possibleKey := none, outerKeys := here ++ l.outerKeys, allowsKey := true
  }.pushIndicator kind 1

/-- Reads a closing bracket. -/
def readClosing (l : Lexer) (kind : TokenKind) : Except Error Lexer := do
  let l ← l.dropKey
  let l := { l with depth := l.depth - 1, allowsKey := false }
  let l :=
    match l.outerKeys with
    | [] => l
    | (depth, key) :: outer =>
      if depth = l.depth then { l with possibleKey := some key, outerKeys := outer } else l
  return l.pushIndicator kind 1

/-- Reads the comma between entries. -/
def readFlowEntry (l : Lexer) : Except Error Lexer := do
  return { ← l.dropKey with allowsKey := true }.pushIndicator .flowEntry 1

/-- Reads the dash in front of an entry. -/
def readBlockEntry (l : Lexer) : Except Error Lexer := do
  if !l.inFlow && !l.allowsKey then .error (.malformed .misplacedEntry l.cursor.mark)
  let l ← (l.openBlockHere .blockSequenceStart).dropKey
  return { l with allowsKey := true }.pushIndicator .blockEntry 1

/-- Reads the question mark in front of a key. -/
def readKey (l : Lexer) : Except Error Lexer := do
  if !l.inFlow && !l.allowsKey then .error (.malformed .misplacedKey l.cursor.mark)
  let l ← (l.openBlockHere .blockMappingStart).dropKey
  return { l with allowsKey := !l.inFlow }.pushIndicator .key 1

/-- Reads the colon in front of a value.  If a key may have begun before, it did. -/
def readValue (l : Lexer) : Except Error Lexer :=
  match l.possibleKey with
  | some key =>
    let l := l.insert key.token .key key.mark
    let l := l.openBlock .blockMappingStart key.mark.column key.token key.mark
    .ok ({ l with possibleKey := none, allowsKey := false }.pushIndicator .value 1)
  | none =>
    if !l.inFlow && !l.allowsKey then .error (.malformed .misplacedValue l.cursor.mark)
    else
      let l := l.openBlockHere .blockMappingStart
      .ok ({ l with allowsKey := !l.inFlow }.pushIndicator .value 1)

/-- Reads a token with which a key may begin. -/
def readContent (l : Lexer) (read : Cursor → Except Error (TokenKind × Cursor)) :
    Except Error Lexer := do
  let l ← l.noteKey
  let start := l.cursor.mark
  let (kind, c) ← read l.cursor
  return { l with cursor := c, allowsKey := false }.push kind start

/-- Reads a plain scalar.  If it ended at a line break, a key may begin behind it. -/
def readPlainToken (l : Lexer) : Except Error Lexer := do
  let l ← l.noteKey
  let start := l.cursor.mark
  let plain ← readPlain l.inFlow l.contentColumn l.cursor
  return { l with cursor := plain.next, allowsKey := plain.endsBroken }.push
    (.scalar plain.text .plain) start

/-- Reads a block scalar. -/
def readBlockToken (l : Lexer) (isFolded : Bool) : Except Error Lexer := do
  let l ← l.dropKey
  let start := l.cursor.mark
  let (text, c) ← readBlock isFolded l.columns.head? l.cursor
  let style := if isFolded then Style.other else .literal
  return { l with cursor := c, allowsKey := true }.push (.scalar text style) start

/-- Reads a quoted scalar. -/
def readQuotedToken (l : Lexer) (q : Quote) : Except Error Lexer :=
  l.readContent fun c => (readQuoted q c).map fun (text, next) => (.scalar text .other, next)

/-- Whether a character never begins a plain scalar, whatever follows it. -/
def isIndicator (c : Char) : Bool :=
  c ∈ ['-', '?', ':', ',', '[', ']', '\x7b', '\x7d', '#', '&', '*', '!', '|', '>', '\'', '"', '%', '@',
    '\x60']

/-- Whether a plain scalar begins with a character, given the one behind it. -/
def beginsPlain (inFlow : Bool) (c : Char) (next : Option Char) : Bool :=
  !(isGap (some c) || isIndicator c) || (c == '-' && !next.any isSpacing) ||
    (!inFlow && (c == '?' || c == ':') && !isGap next)

/-- Reads a token that begins with a character. -/
def readFrom (l : Lexer) (c : Char) : Except Error Lexer :=
  let next := l.cursor.at? 1
  let inFlow := l.inFlow
  if c = '[' then l.readOpening .flowSequenceStart
  else if c = '\x7b' then l.readOpening .flowMappingStart
  else if c = ']' then l.readClosing .flowSequenceEnd
  else if c = '\x7d' then l.readClosing .flowMappingEnd
  else if c = ',' then l.readFlowEntry
  else if c = '-' ∧ isGap next then l.readBlockEntry
  else if c = '?' ∧ (inFlow ∨ isGap next) then l.readKey
  else if c = ':' ∧ (inFlow ∨ isGap next) then l.readValue
  else if c = '*' then l.readContent fun c => (readAnchorName c).map fun (n, c) => (.alias n, c)
  else if c = '&' then l.readContent fun c => (readAnchorName c).map fun (n, c) => (.anchor n, c)
  else if c = '!' then l.readContent fun c => (readTag inFlow c).map fun (h, s, c) => (.tag h s, c)
  else if c = '|' ∧ !inFlow then l.readBlockToken false
  else if c = '>' ∧ !inFlow then l.readBlockToken true
  else if c = '\'' then l.readQuotedToken .single
  else if c = '"' then l.readQuotedToken .double
  else if beginsPlain inFlow c next then l.readPlainToken
  else .error (.malformed .token l.cursor.mark)

/-- Reads the next token. -/
def readToken (l : Lexer) : Except Error Lexer := do
  let l ← l.skipToToken.dropStaleKeys
  let l := l.closeBlocks (some l.cursor.mark.column)
  match l.cursor.head? with
  | none => l.readEnd
  | some c =>
    if l.cursor.mark.column = 0 ∧ c = '%' then l.readDirectiveToken
    else if l.cursor.isAtDocumentMark then
      l.readDocumentMark (if c = '-' then .documentStart else .documentEnd)
    else l.readFrom c

/-! The tokens are read no further than they are needed.  A token at which a key may have begun is held
back until that is settled, since a token may still be put in front of it. -/

/-- Whether a key may have begun at the token of a number. -/
def mayBeKey (l : Lexer) (number : Nat) : Bool :=
  l.possibleKey.any (·.token == number) || l.outerKeys.any (·.2.token == number)

/-- Whether the text was read to its end. -/
def isFinished (l : Lexer) : Bool :=
  match l.tokens with
  | ⟨.textEnd, _, _⟩ :: _ => true
  | _ => false

/-- Reads tokens up to the end of the text or the first error.  The result tells how many tokens were
settled by then.  The fuel counts tokens and attempts to read one. -/
def settle (forbidden : Option Error) :
    (fuel settled : Nat) → Lexer → Nat × Lexer × Option Error
  | 0, settled, l => (settled, l, none)
  | fuel + 1, settled, l =>
    let isWaiting := settled < l.size
    match if isWaiting then l.dropStaleKeys else .ok l with
    | .error e => (settled, l, some e)
    | .ok l =>
      if isWaiting && !l.mayBeKey settled then
        if l.isFinished && settled + 1 == l.size then (settled + 1, l, none)
        else settle forbidden fuel (settled + 1) l
      else
        match l.readToken with
        | .error e => (settled, l, some e)
        | .ok next =>
          if next.cursor.isAtEnd && forbidden.isSome then (settled, l, forbidden)
          else settle forbidden fuel settled next

end Lexer

/-- Whether a character may stand in a YAML text. -/
def isTextChar (c : Char) : Bool :=
  c == '\t' || c == '\n' || c == '\r' || (' ' ≤ c && c ≤ '~') || c == '\x85' ||
    ('\u00a0' ≤ c && c ≤ '\ufffd') || '\uffff' < c

/-- How many bytes of a text are checked at once. -/
def stretchSize : Nat := 16384

/-- How many characters a text has in front of the stretch with its first forbidden character, if there is
one.  A stretch ends where the next character would make it too long. -/
def checkedLength? : (taken stretch size : Nat) → List Char → Option Nat
  | _, _, _, [] => none
  | taken, stretch, size, c :: rest =>
    let isFull := stretchSize < size + c.utf8Size
    let stretch := if isFull then taken else stretch
    let size := if isFull then c.utf8Size else size + c.utf8Size
    if isTextChar c then checkedLength? (taken + 1) stretch size rest else some stretch

/-- The tokens of a text up to its end or to an error. -/
structure TokenText where
  tokens : List Token
  failure : Option Error

/-- The tokens of a text.  A forbidden character is an error when the stretch of the text is needed that
has it. -/
def tokensOf (text : String) : TokenText :=
  let chars := text.toList
  let (chars, forbidden) :=
    match checkedLength? 0 0 0 chars with
    | some length => (chars.take length, some (Error.malformed .character .start))
    | none => (chars, none)
  let (settled, l, failure) := Lexer.settle forbidden (6 * chars.length + 12) 0 (.ofChars chars)
  ⟨l.tokens.reverse.take settled, failure⟩

end LiveTemplate.Yaml
