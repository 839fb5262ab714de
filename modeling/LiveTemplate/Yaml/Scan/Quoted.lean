import LiveTemplate.Text.Digit
import LiveTemplate.Yaml.Error

/-!
Scalars between quotes, and the folding of line breaks that they share with plain scalars: a single
break becomes a blank, further breaks stay as they are.
-/

namespace LiveTemplate.Yaml

/-- What separates two runs of characters inside a scalar: blanks, or line breaks with blanks around
them. -/
structure Gap where
  blanks : String
  isBroken : Bool
  firstBreak : String
  breaks : String

namespace Gap

/-- No separation. -/
def none : Gap := ⟨"", false, "", ""⟩

/-- The gap that an escaped line break opens. -/
def escaped : Gap := ⟨"", true, "", ""⟩

/-- What a gap becomes in the scalar. -/
def fold (g : Gap) : String :=
  if !g.isBroken then g.blanks
  else if g.firstBreak = "\n" then (if g.breaks.isEmpty then " " else g.breaks)
  else g.firstBreak ++ g.breaks

/-- Reads on over blanks and line breaks.  Behind a break, a tab left of the column `indent` is an
error.  The fuel counts characters. -/
def read (indent : Nat) : (fuel : Nat) → Gap → Cursor → Except Error (Gap × Cursor)
  | 0, g, c => .ok (g, c)
  | fuel + 1, g, c =>
    match c.rest with
    | [] => .ok (g, c)
    | x :: _ =>
      if isSpacing x then
        if g.isBroken && x == '\t' && c.mark.column < indent then .error (.malformed .tab c.mark)
        else if g.isBroken then read indent fuel g (c.skip 1)
        else read indent fuel { g with blanks := g.blanks.push x } (c.skip 1)
      else if isBreak x then
        let (text, next) := c.readBreak
        if g.isBroken then read indent fuel { g with breaks := g.breaks ++ text } next
        else read indent fuel ⟨"", true, text, ""⟩ next
      else .ok (g, c)

end Gap

/-- The number that hexadecimal digits form. -/
def hexNumber? (digits : List Char) : Option Nat :=
  digits.foldlM (fun n c => (Text.hexDigit? c).map (16 * n + ·)) 0

/-- What stands behind the backslash of an escape: a character, or a code point of so many digits. -/
inductive EscapeKind where
  | character (c : Char)
  | codePoint (digits : Nat)

/-- The escape that a character names. -/
def escapeKind? (c : Char) : Option EscapeKind :=
  if c = '0' then some (.character '\x00')
  else if c = 'a' then some (.character '\x07')
  else if c = 'b' then some (.character '\x08')
  else if c = 't' ∨ c = '\t' then some (.character '\t')
  else if c = 'n' then some (.character '\n')
  else if c = 'v' then some (.character '\x0b')
  else if c = 'f' then some (.character '\x0c')
  else if c = 'r' then some (.character '\r')
  else if c = 'e' then some (.character '\x1b')
  else if c = ' ' ∨ c = '"' ∨ c = '/' ∨ c = '\\' then some (.character c)
  else if c = 'N' then some (.character '\x85')
  else if c = '_' then some (.character '\u00a0')
  else if c = 'L' then some (.character '\u2028')
  else if c = 'P' then some (.character '\u2029')
  else if c = 'x' then some (.codePoint 2)
  else if c = 'u' then some (.codePoint 4)
  else if c = 'U' then some (.codePoint 8)
  else none

/-- Reads an escape from its backslash on.  A code point must be one of a character. -/
def readEscape (c : Cursor) : Except Error (Char × Cursor) :=
  let bad := Error.malformed .escape c.mark
  match (c.at? 1).bind escapeKind? with
  | none => .error bad
  | some (.character x) => .ok (x, c.skip 2)
  | some (.codePoint count) =>
    let digits := (c.rest.drop 2).take count
    match hexNumber? digits with
    | none => .error bad
    | some n =>
      if digits.length = count ∧ n.isValidChar then .ok (Char.ofNat n, c.skip (2 + count))
      else .error bad

/-- The two kinds of quotes. -/
inductive Quote where
  | single
  | double
deriving DecidableEq, Repr

/-- The character at either end. -/
def Quote.mark : Quote → Char
  | .single => '\''
  | .double => '"'

/-- Reads characters up to a blank, a line break, the closing quote or an escaped line break, and passes
over the last of these; also says whether it did.  The fuel counts characters. -/
def readQuotedRun (q : Quote) :
    (fuel : Nat) → String → Cursor → Except Error (String × Bool × Cursor)
  | 0, text, c => .ok (text, false, c)
  | fuel + 1, text, c =>
    match c.rest with
    | [] => .ok (text, false, c)
    | x :: rest =>
      if isGap (some x) then .ok (text, false, c)
      else if x = q.mark then
        if q = .single ∧ rest.head? = some x then readQuotedRun q fuel (text.push x) (c.skip 2)
        else .ok (text, false, c)
      else if q = .double ∧ x = '\\' then
        if rest.head?.any isBreak then .ok (text, true, (c.skip 1).skipBreak)
        else
          match readEscape c with
          | .error e => .error e
          | .ok (y, next) => readQuotedRun q fuel (text.push y) next
      else readQuotedRun q fuel (text.push x) (c.skip 1)

/-- Reads the rest of a quoted scalar and its closing quote.  The fuel counts characters. -/
def readQuotedRest (q : Quote) : (fuel : Nat) → String → Cursor → Except Error (String × Cursor)
  | 0, _, c => .error (.malformed .unterminated c.mark)
  | fuel + 1, text, c => do
    if c.isAtDocumentMark then .error (.malformed .documentMark c.mark)
    else if c.isAtEnd then .error (.malformed .unterminated c.mark)
    else
      let (text, isEscaped, c) ← readQuotedRun q c.fuel text c
      if c.isAt q.mark then return (text, c.skip 1)
      else
        let (gap, c) ← Gap.read 0 c.fuel (if isEscaped then .escaped else .none) c
        readQuotedRest q fuel (text ++ gap.fold) c

/-- Reads a quoted scalar from its opening quote on. -/
def readQuoted (q : Quote) (c : Cursor) : Except Error (String × Cursor) :=
  readQuotedRest q c.fuel "" (c.skip 1)

end LiveTemplate.Yaml
