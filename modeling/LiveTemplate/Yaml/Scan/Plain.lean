import LiveTemplate.Yaml.Scan.Quoted

/-!
Scalars without quotes.  They end where a colon or a comment would begin, where the indentation goes
back, and between brackets also at any of these and at a comma.
-/

namespace LiveTemplate.Yaml

/-- Whether a character is a bracket or comma of a collection between brackets. -/
def isFlowMark (c : Char) : Bool :=
  c == ',' || c == '[' || c == ']' || c == '\x7b' || c == '\x7d'

/-- The characters up to the end of a run, or none if a colon stands before one of the characters that
must not follow it between brackets. -/
def plainRun? (inFlow : Bool) : List Char → Option (List Char)
  | [] => some []
  | x :: rest =>
    let next := rest.head?
    if isGap (some x) then some []
    else if inFlow && x == ':' && next.any (fun y => isFlowMark y || y == '?') then none
    else if (x == ':' && isGap next) || (inFlow && isFlowMark x) then some []
    else (plainRun? inFlow rest).map (x :: ·)

/-- A plain scalar, whether its last line break was followed by no more of it, and what follows. -/
structure PlainText where
  text : String
  endsBroken : Bool
  next : Cursor

/-- Reads the rest of a plain scalar, behind a gap.  The fuel counts characters. -/
def readPlainRest (inFlow : Bool) (indent : Nat) :
    (fuel : Nat) → String → Gap → Cursor → Except Error PlainText
  | 0, text, gap, c => .ok ⟨text, gap.isBroken, c⟩
  | fuel + 1, text, gap, c =>
    if c.isAtDocumentMark || c.isAt '#' then .ok ⟨text, gap.isBroken, c⟩
    else
      match plainRun? inFlow c.rest with
      | none => .error (.malformed .colonInFlow c.mark)
      | some [] => .ok ⟨text, gap.isBroken, c⟩
      | some run => do
        let text := text ++ gap.fold ++ String.ofList run
        let c := c.skip run.length
        if c.isAtGap && !c.isAtEnd then
          let (gap, c) ← Gap.read indent c.fuel .none c
          if !inFlow && c.mark.column < indent then return ⟨text, gap.isBroken, c⟩
          else readPlainRest inFlow indent fuel text gap c
        else return ⟨text, false, c⟩

/-- Reads a plain scalar in a collection whose content begins at the column `indent`. -/
def readPlain (inFlow : Bool) (indent : Nat) (c : Cursor) : Except Error PlainText :=
  readPlainRest inFlow indent c.fuel "" .none c

end LiveTemplate.Yaml
