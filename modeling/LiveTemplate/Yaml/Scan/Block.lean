import LiveTemplate.Yaml.Error

/-!
Block scalars: indented lines behind a header, taken as they are or folded.  The header may say how deep
the lines are indented and what becomes of the line breaks at the end.
-/

namespace LiveTemplate.Yaml

/-- What becomes of the line breaks at the end: one stays, none, or all. -/
inductive Chomping where
  | clip
  | strip
  | keep
deriving DecidableEq, Repr

/-- Reads the sign that says what becomes of the line breaks at the end. -/
def readChomping (c : Cursor) : Option Chomping × Cursor :=
  if c.isAt '+' then (some .keep, c.skip 1)
  else if c.isAt '-' then (some .strip, c.skip 1)
  else (none, c)

/-- Reads the digit that says how deep the lines are indented, which is not zero. -/
def readIndentation (c : Cursor) : Except Error (Option Nat × Cursor) :=
  match c.head? with
  | none => .ok (none, c)
  | some x =>
    if x = '0' then .error (.malformed .header c.mark)
    else if '1' ≤ x ∧ x ≤ '9' then .ok (some (x.toNat - '0'.toNat), c.skip 1)
    else .ok (none, c)

/-- Reads a header up to the end of its line. -/
def readHeader (c : Cursor) : Except Error (Chomping × Option Nat × Cursor) := do
  let (first, c) := readChomping c
  let (indentation, c) ← readIndentation c
  let (chomping, c) :=
    match first with
    | some chomping => (some chomping, c)
    | none => if indentation.isSome then readChomping c else (none, c)
  let c := c.skipWhile isSpacing
  let c := if c.isAt '#' then c.skipToBreak else c
  if c.isAtEnd || c.isAtAny isBreak then return (chomping.getD .clip, indentation, c.skipBreak)
  else .error (.malformed .header c.mark)

/-- Passes over the spaces of an indentation, up to the column where content begins if that is known. -/
def skipIndentation (indent : Option Nat) (c : Cursor) : Cursor :=
  let spaces := (c.rest.takeWhile (· == ' ')).length
  match indent with
  | some column => c.skip (min spaces (column - c.mark.column))
  | none => c.skip spaces

/-- The empty lines in front of content: their breaks, and the column of the widest indentation. -/
structure Lead where
  breaks : String
  widest : Nat
  next : Cursor

/-- Reads empty lines and the indentation of the line behind them.  The fuel counts characters. -/
def readLead (indent : Option Nat) : (fuel : Nat) → Lead → Except Error Lead
  | 0, lead => .ok lead
  | fuel + 1, lead =>
    let c := skipIndentation indent lead.next
    let lead := { lead with widest := max lead.widest c.mark.column, next := c }
    if indent.all (c.mark.column < ·) && c.isAt '\t' then .error (.malformed .tab c.mark)
    else if c.isAtAny isBreak then
      let (text, next) := c.readBreak
      readLead indent fuel { lead with breaks := lead.breaks ++ text, next := next }
    else .ok lead

/-- The lines of a block scalar that were read so far, the line break behind them and the breaks of the
empty lines behind that. -/
structure BlockText where
  text : String
  lineBreak : String
  emptyLines : String
  beganBlank : Bool
  next : Cursor

/-- What comes between two lines.  In a folded scalar a single break between lines that do not begin
with a blank becomes a blank itself, and is dropped in front of empty lines. -/
def BlockText.joint (b : BlockText) (isFolded beginsBlank : Bool) : String :=
  if isFolded && b.lineBreak == "\n" && !b.beganBlank && !beginsBlank then
    if b.emptyLines.isEmpty then " " else b.emptyLines
  else b.lineBreak ++ b.emptyLines

/-- Reads the lines that begin at the column `indent`.  The fuel counts characters. -/
def readBlockLines (isFolded : Bool) (indent : Nat) :
    (fuel : Nat) → BlockText → Except Error BlockText
  | 0, b => .ok b
  | fuel + 1, b => do
    let c := b.next
    if c.mark.column ≠ indent ∨ c.isAtEnd then return b
    else
      let beginsBlank := c.isAtAny isSpacing
      let (line, c) := c.takeWhile (!isBreak ·)
      let (lineBreak, c) := c.readBreak
      let lead ← readLead (some indent) c.fuel ⟨"", 0, c⟩
      readBlockLines isFolded indent fuel
        ⟨b.text ++ b.joint isFolded beginsBlank ++ String.ofList line, lineBreak, lead.breaks,
          beginsBlank, lead.next⟩

/-- Reads a block scalar from its indicator on, in a collection at the column `parent`, or in none. -/
def readBlock (isFolded : Bool) (parent : Option Nat) (c : Cursor) : Except Error (String × Cursor) := do
  let (chomping, indentation, c) ← readHeader (c.skip 1)
  let given := indentation.map (parent.getD 0 + ·)
  let lead ← readLead given c.fuel ⟨"", 0, c⟩
  let least := max ((parent.map (· + 1)).getD 0) 1
  let indent := given.getD (max lead.widest least)
  let b ← readBlockLines isFolded indent c.fuel ⟨"", "", lead.breaks, false, lead.next⟩
  return match chomping with
    | .clip => (b.text ++ b.lineBreak, b.next)
    | .strip => (b.text, b.next)
    | .keep => (b.text ++ b.lineBreak ++ b.emptyLines, b.next)

end LiveTemplate.Yaml
