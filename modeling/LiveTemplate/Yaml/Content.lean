import LiveTemplate.Yaml.Decode

/-!
Data that is read before it is known what it is for.  The form of every scalar is settled when it is
read; what is asked for later is asked of these forms, no longer of the text, and problems are no longer
located.
-/

namespace LiveTemplate.Yaml

/-- Data of any form. -/
inductive Content where
  | scalar (l : Literal)
  | sequence (items : List Content)
  | mapping (entries : List (Content × Content))

namespace Content

open Decode

/-- How messages call data. -/
def found : Content → Found
  | .scalar l => l.found
  | .sequence _ => .sequence
  | .mapping _ => .mapping

/-- Checks that an integer fits 64 bits. -/
def ofLiteral (expected : String) (l : Literal) : Decode Content :=
  let fits :=
    match l with
    | .unsigned n => decide (n < Nat.pow 2 64)
    | .negative n => decide (n ≤ Nat.pow 2 63)
    | _ => true
  if fits then return .scalar l else mismatch (.invalidType l.found expected)

/-- Reads the entries of a mapping. -/
def entriesOf (read : Decoder Content) (p : Place) :
    List (Node × Node) → Decode (List (Content × Content))
  | [] => return []
  | (k, v) :: rest => do
    let key ← read p k
    let value ← read (p.ofKey k) v
    return (key, value) :: (← entriesOf read p rest)

/-- Reads data, given how the contents of collections are read, unless they are too deep. -/
def readOf (expected : String) (inner : Option (Decoder Content)) : Decoder Content :=
  onNode fun p node => do
    if (ownTag? (tagOf node)).isSome then mismatch .bufferedTag
    else
      match node, inner with
      | .scalar _ s, _ =>
        match s.literal with
        | .ok l => ofLiteral expected l
        | .error cause => mismatch cause
      | .sequence _ _ items, some read => return .sequence (← itemsFrom read p 0 items)
      | .mapping _ _ entries, some read => return .mapping (← entriesOf read p entries)
      | .alias .., _ => return .scalar .null
      | .broken e, _ => throw e
      | node, none => throw (.recursionLimit node.mark)

/-- How messages call data of any form. -/
def anyValue : String := "any value"

/-- Reads data in which collections nest to a limited depth, none if no collection may stand there. -/
def contentsWithin : (depth : Nat) → Option (Decoder Content)
  | 0 => none
  | depth + 1 => some (readOf anyValue (contentsWithin depth))

/-- Reads data that messages call in their own words. -/
def readAs (expected : String) : Decoder Content := fun p node =>
  readOf expected (contentsWithin p.depth) p node

/-- Reads data. -/
def read : Decoder Content :=
  readAs anyValue

/-- The text that data is. -/
def asText (expected : String) : Content → Decode String
  | .scalar (.text s) => return s
  | c => mismatch (.invalidType c.found expected)

/-- The field of a record that data names, by its name or by its number. -/
def asField (names : List String) : Content → Decode (Option String)
  | .scalar (.text s) => return if s ∈ names then some s else none
  | .scalar (.unsigned n) => return names[n]?
  | c => mismatch (.invalidType c.found "field identifier")

mutual

/-- The value that data is. -/
def asValue : Content → Decode Value
  | .scalar l => literalValue l
  | .sequence items => do return .array (← asItems items)
  | .mapping entries => do return .ofMembers (← asMembers true entries)

/-- The values that items are. -/
def asItems : List Content → Decode (List Value)
  | [] => return []
  | item :: rest => do
    let value ← asValue item
    return value :: (← asItems rest)

/-- The members that entries are. -/
def asMembers (isFirst : Bool) : List (Content × Content) → Decode (List (String × Value))
  | [] => return []
  | (key, value) :: rest => do
    let name ← asText (if isFirst then "a string key" else "a string") key
    let value ← asValue value
    return (name, value) :: (← asMembers false rest)

end

end Content

end LiveTemplate.Yaml
