import LiveTemplate.Yaml.Mark
import LiveTemplate.Decimal.Shortest
import LiveTemplate.Text.Quoted

/-!
What can go wrong when a YAML text is read: the text is not well formed, or the data in it is not what
is asked for.  In the second case the message says where in the data and where in the text.
-/

namespace LiveTemplate.Yaml

/-- Why a text is not well formed. -/
inductive SyntaxProblem where
  | character
  | token
  | missingColon
  | misplacedEntry
  | misplacedKey
  | misplacedValue
  | colonInFlow
  | tab
  | documentMark
  | unterminated
  | escape
  | header
  | anchor
  | tag
  | tagHandle
  | directive
  | duplicateDirective
  | version
  | documentStart
  | nodeContent
  | blockEntry
  | blockKey
  | flowEntry
deriving DecidableEq, Repr

/-- The wording of a syntax problem. -/
def SyntaxProblem.message : SyntaxProblem → String
  | .character => "control characters are not allowed"
  | .token => "found character that cannot start any token"
  | .missingColon => "could not find expected ':'"
  | .misplacedEntry => "block sequence entries are not allowed in this context"
  | .misplacedKey => "mapping keys are not allowed in this context"
  | .misplacedValue => "mapping values are not allowed in this context"
  | .colonInFlow => "found unexpected ':'"
  | .tab => "found a tab character where an indentation space is expected"
  | .documentMark => "found unexpected document indicator"
  | .unterminated => "found unexpected end of stream"
  | .escape => "found an escape that stands for no character"
  | .header => "did not find expected comment or line break"
  | .anchor => "did not find expected alphabetic or numeric character"
  | .tag => "did not find a well-formed tag"
  | .tagHandle => "found undefined tag handle"
  | .directive => "did not find a well-formed directive"
  | .duplicateDirective => "found duplicate directive"
  | .version => "found incompatible YAML document"
  | .documentStart => "did not find expected <document start>"
  | .nodeContent => "did not find expected node content"
  | .blockEntry => "did not find expected '-' indicator"
  | .blockKey => "did not find expected key"
  | .flowEntry => "did not find expected ',' or closing bracket"

/-- A binary64 number, or one of the values beside the numbers. -/
inductive Real where
  | finite (x : Decimal.Binary64)
  | infinite (negative : Bool)
  | notANumber
deriving DecidableEq

/-- In messages numbers are written without powers of ten. -/
def foundLayout : Decimal.Layout := ⟨none⟩

/-- How messages write a number. -/
def Real.toText : Real → String
  | .finite x => foundLayout.render x
  | .infinite false => "inf"
  | .infinite true => "-inf"
  | .notANumber => "NaN"

/-- What was found where something else was expected. -/
inductive Found where
  | unit
  | bool (b : Bool)
  | integer (i : Int)
  | float (x : Real)
  | text (s : String)
  | sequence
  | mapping
  | tagged

/-- How messages call what was found.  Integers beyond 64 bits are called by their width. -/
def Found.toText : Found → String
  | .unit => "unit value"
  | .bool b => s!"boolean \x60{b}\x60"
  | .integer i =>
    if 0x10000000000000000 ≤ i then s!"integer \x60{i}\x60 as u128"
    else if i < -0x8000000000000000 then s!"integer \x60{i}\x60 as i128"
    else s!"integer \x60{i}\x60"
  | .float x => "floating point \x60" ++ x.toText ++ "\x60"
  | .text s => "string " ++ Text.quoted s
  | .sequence => "sequence"
  | .mapping => "map"
  | .tagged => "enum"

/-- Why data is not what is asked for. -/
inductive Mismatch where
  | invalidType (found : Found) (expected : String)
  | invalidValue (text expected : String)
  | invalidLength (length : Nat) (expected : String)
  | unknownVariant (name : String) (known : List String)
  | missingField (name : String)
  | duplicateField (name : String)
  | numberRange
  | bufferedTag

/-- The names that a message offers. -/
def alternatives : List String → String
  | [a, b] => s!"\x60{a}\x60 or \x60{b}\x60"
  | names => "one of " ++ ", ".intercalate (names.map fun name => s!"\x60{name}\x60")

/-- The wording of a mismatch. -/
def Mismatch.message : Mismatch → String
  | .invalidType found expected => "invalid type: " ++ found.toText ++ ", expected " ++ expected
  | .invalidValue text expected =>
    "invalid value: string " ++ Text.quoted text ++ ", expected " ++ expected
  | .invalidLength length expected => s!"invalid length {length}, expected {expected}"
  | .unknownVariant name known => s!"unknown variant \x60{name}\x60, expected " ++ alternatives known
  | .missingField name => s!"missing field \x60{name}\x60"
  | .duplicateField name => s!"duplicate field \x60{name}\x60"
  | .numberRange => "JSON number out of range"
  | .bufferedTag => "untagged and internally tagged enums do not support enum input"

/-- A step from a collection to what is in it: the value of a key that is a scalar, the value of any
other key, or an item of a sequence. -/
inductive PathStep where
  | key (text : String)
  | otherKey
  | item (index : Nat)
deriving DecidableEq, Repr

/-- A place in the data, from the innermost step out to the root. -/
abbrev Path := List PathStep

/-- How messages write a place. -/
def pathText : Path → String
  | [] => "."
  | .item index :: outer => pathText outer ++ s!"[{index}]"
  | .key text :: outer => (if outer.isEmpty then "" else pathText outer ++ ".") ++ text
  | .otherKey :: outer => (if outer.isEmpty then "" else pathText outer ++ ".") ++ "?"

/-- Why a text could not be read. -/
inductive Error where
  | malformed (problem : SyntaxProblem) (mark : Mark)
  | unknownAnchor (mark : Mark)
  | severalDocuments
  | recursionLimit (mark : Mark)
  | repetitionLimit
  | mismatch (cause : Mismatch) (place : Option (Path × Mark))

namespace Error

/-- Says where a mismatch is, unless that is known already. -/
def locate (path : Path) (mark : Mark) : Error → Error
  | .mismatch cause none => .mismatch cause (some (path, mark))
  | e => e

/-- The end of a message that names a position.  The very first position is not named. -/
def position (mark : Mark) : String :=
  if mark.line = 0 ∧ mark.column = 0 then "" else " at " ++ mark.toText

/-- The wording of an error. -/
def message : Error → String
  | .malformed problem mark => problem.message ++ position mark
  | .unknownAnchor mark => "unknown anchor" ++ position mark
  | .severalDocuments =>
    "deserializing from YAML containing more than one document is not supported"
  | .recursionLimit mark => "recursion limit exceeded" ++ position mark
  | .repetitionLimit => "repetition limit exceeded"
  | .mismatch cause none => cause.message
  | .mismatch cause (some (path, mark)) =>
    (if path.isEmpty then "" else pathText path ++ ": ") ++ cause.message ++ position mark

end Error

end LiveTemplate.Yaml
