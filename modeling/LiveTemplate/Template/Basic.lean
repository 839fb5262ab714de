import LiveTemplate.Template.Name
import LiveTemplate.Text.Blank

/-!
Templates: text with placeholders in it.  A placeholder is two opening braces, an identifier, any
number of filters each behind a bar, and two closing braces, with blanks allowed around every name.
Whatever is not a whole placeholder is literal text, so every text is a template.
-/

namespace LiveTemplate

/-- An identifier and the filters its value passes through, in order. -/
structure Placeholder where
  identifier : String
  filters : List String
deriving DecidableEq, Repr

/-- A stretch of a template. -/
inductive Segment where
  | literal (text : String)
  | placeholder (p : Placeholder)
deriving DecidableEq, Repr

/-- Drops the blanks in front. -/
def skipBlanks (s : List Char) : List Char :=
  s.dropWhile Text.isBlank

/-- A name between blanks, and what follows the blanks behind it. -/
def readToken (s : List Char) : Option (List Char × List Char) := do
  let (name, rest) ← readName (skipBlanks s)
  return (name, skipBlanks rest)

/-- The filters up to the closing braces, and what follows those.  The fuel counts characters. -/
def readFilters : (fuel : Nat) → List Char → Option (List String × List Char)
  | 0, _ => none
  | fuel + 1, '|' :: s => do
    let (name, rest) ← readToken s
    let (names, rest) ← readFilters fuel rest
    return (String.ofList name :: names, rest)
  | _ + 1, '}' :: '}' :: rest => some ([], rest)
  | _ + 1, _ => none

/-- The placeholder in front, and what follows it. -/
def readPlaceholder : List Char → Option (Placeholder × List Char)
  | '{' :: '{' :: s => do
    let (identifier, rest) ← readToken s
    let (filters, rest) ← readFilters (rest.length + 1) rest
    return (⟨String.ofList identifier, filters⟩, rest)
  | _ => none

/-- The first placeholder, with the text before it and the text after it. -/
def findPlaceholder : List Char → Option (List Char × Placeholder × List Char)
  | [] => none
  | c :: s =>
    match readPlaceholder (c :: s) with
    | some (p, rest) => some ([], p, rest)
    | none => (findPlaceholder s).map fun (before, p, rest) => (c :: before, p, rest)

/-- The segment of a literal text, if it is not empty. -/
def literalSegment (text : List Char) : List Segment :=
  if text.isEmpty then [] else [.literal (String.ofList text)]

/-- The segments of a text, from its first placeholder to its last.  The fuel counts characters. -/
def segmentsOf : (fuel : Nat) → List Char → List Segment
  | 0, s => literalSegment s
  | fuel + 1, s =>
    match findPlaceholder s with
    | none => literalSegment s
    | some (before, p, rest) => literalSegment before ++ .placeholder p :: segmentsOf fuel rest

/-- A text, read as literals and placeholders.  A bare template is one placeholder between blanks. -/
structure Template where
  source : String
  segments : List Segment
  isBare : Bool
deriving DecidableEq, Repr

namespace Template

/-- Whether a text is one placeholder between blanks. -/
def isBareText (s : List Char) : Bool :=
  match readPlaceholder (Text.trimChars s) with
  | some (_, rest) => rest.isEmpty
  | none => false

/-- Reads a text as a template. -/
def parse (text : String) : Template where
  source := text
  segments := segmentsOf text.toList.length text.toList
  isBare := isBareText text.toList

/-- The placeholders in order. -/
def placeholders (t : Template) : List Placeholder :=
  t.segments.filterMap fun
    | .placeholder p => some p
    | .literal _ => none

/-- Whether there is a placeholder. -/
def hasPlaceholders (t : Template) : Bool :=
  !t.placeholders.isEmpty

/-- Each element once, where it stands first. -/
def firstAppearances (names : List String) : List String :=
  names.foldl (fun seen name => if name ∈ seen then seen else seen ++ [name]) []

/-- The identifiers, each once. -/
def identifiers (t : Template) : List String :=
  firstAppearances (t.placeholders.map (·.identifier))

/-- The filters that are named, each once. -/
def filterNames (t : Template) : List String :=
  firstAppearances (t.placeholders.flatMap (·.filters))

end Template

/-- Whether a text has a placeholder in it. -/
def hasPlaceholders (text : String) : Bool :=
  (findPlaceholder text.toList).isSome

end LiveTemplate
