/-!
Positions in a YAML text, and the text that is left to read from one.  Five characters break a line; a
carriage return and a line feed together break it once.
-/

namespace LiveTemplate.Yaml

/-- A position: how many bytes stand before it in the text, how many lines before it, and how many
characters before it in its line. -/
structure Mark where
  offset : Nat
  line : Nat
  column : Nat
deriving DecidableEq, Repr, Inhabited

namespace Mark

/-- The position in front of a text. -/
def start : Mark := ⟨0, 0, 0⟩

/-- The position behind a character of the same line. -/
def advance (m : Mark) (c : Char) : Mark :=
  ⟨m.offset + c.utf8Size, m.line, m.column + 1⟩

/-- The position behind a line break of some bytes. -/
def nextLine (m : Mark) (size : Nat) : Mark :=
  ⟨m.offset + size, m.line + 1, 0⟩

/-- How messages name a position: lines and columns count from 1. -/
def toText (m : Mark) : String :=
  s!"line {m.line + 1} column {m.column + 1}"

end Mark

/-- Whether a character breaks a line. -/
def isBreak (c : Char) : Bool :=
  c == '\n' || c == '\r' || c == '\x85' || c == '\u2028' || c == '\u2029'

/-- Whether a character separates words within a line. -/
def isSpacing (c : Char) : Bool :=
  c == ' ' || c == '\t'

/-- Whether a character may stand in the name of an anchor, a directive or a tag handle. -/
def isWordChar (c : Char) : Bool :=
  ('0' ≤ c && c ≤ '9') || ('A' ≤ c && c ≤ 'Z') || ('a' ≤ c && c ≤ 'z') || c == '_' || c == '-'

/-- Whether a word ends in front of what follows: a blank, a line break or the end of the text. -/
def isGap : Option Char → Bool
  | none => true
  | some c => isSpacing c || isBreak c

/-- The text that is left to read, the position in front of it, and a number that is not less than the
number of the characters left: no loop over them takes more steps. -/
structure Cursor where
  rest : List Char
  mark : Mark
  fuel : Nat
deriving Inhabited

namespace Cursor

/-- The cursor in front of a text. -/
def ofChars (text : List Char) : Cursor :=
  ⟨text, .start, text.length + 1⟩

/-- The next character. -/
def head? (c : Cursor) : Option Char :=
  c.rest.head?

/-- The character some places further. -/
def at? (c : Cursor) (places : Nat) : Option Char :=
  c.rest[places]?

/-- Whether the next character is a given one. -/
def isAt (c : Cursor) (x : Char) : Bool :=
  c.head? == some x

/-- Whether the next character satisfies a test. -/
def isAtAny (c : Cursor) (p : Char → Bool) : Bool :=
  c.head?.any p

/-- Whether no text is left. -/
def isAtEnd (c : Cursor) : Bool :=
  c.rest.isEmpty

/-- Whether a word ends here. -/
def isAtGap (c : Cursor) : Bool :=
  isGap c.head?

/-- Passes over characters of the same line. -/
def skip (c : Cursor) (count : Nat) : Cursor :=
  { c with rest := c.rest.drop count, mark := (c.rest.take count).foldl Mark.advance c.mark }

/-- The characters in front that satisfy a test, none of which breaks a line, and the cursor behind
them. -/
def takeWhile (c : Cursor) (p : Char → Bool) : List Char × Cursor :=
  let taken := c.rest.takeWhile p
  (taken, c.skip taken.length)

/-- Passes over the characters in front that satisfy a test. -/
def skipWhile (c : Cursor) (p : Char → Bool) : Cursor :=
  (c.takeWhile p).2

/-- Passes over what is left of the line, up to its break. -/
def skipToBreak (c : Cursor) : Cursor :=
  c.skipWhile (!isBreak ·)

/-- Reads a line break, if there is one.  The two separators of Unicode are kept as they are, any other
break becomes a line feed. -/
def readBreak (c : Cursor) : String × Cursor :=
  match c.rest with
  | '\r' :: '\n' :: rest => ("\n", { c with rest := rest, mark := c.mark.nextLine 2 })
  | x :: rest =>
    let next := { c with rest := rest, mark := c.mark.nextLine x.utf8Size }
    if x = '\u2028' ∨ x = '\u2029' then (x.toString, next)
    else if isBreak x then ("\n", next)
    else ("", c)
  | [] => ("", c)

/-- Passes over a line break, if there is one. -/
def skipBreak (c : Cursor) : Cursor :=
  c.readBreak.2

/-- Whether a line begins here with a mark of three characters that starts or ends a document. -/
def isAtDocumentMark (c : Cursor) : Bool :=
  c.mark.column == 0 && isGap (c.at? 3) &&
    (c.rest.take 3 == ['-', '-', '-'] || c.rest.take 3 == ['.', '.', '.'])

end Cursor

end LiveTemplate.Yaml
