import LiveTemplate.Value.Basic
import LiveTemplate.Decimal.Shortest
import LiveTemplate.Text.Quoted

/-!
Values as text: compact JSON, JSON spread over indented lines, the text that takes the place of a
placeholder, and the outline that shows how a value is built.
-/

namespace LiveTemplate

/-- Numbers are positional while their leading digit stands for a power of ten from -5 to 15. -/
def numberLayout : Decimal.Layout := ⟨some (-5, 15)⟩

/-- A number as text. -/
def Number.toText : Number → String
  | .whole n => toString n.val
  | .float x => numberLayout.render x

namespace Value

/-- The two digits of a control character in an escape. -/
def controlDigits (n : Nat) : List Char :=
  [Nat.digitChar (n / 16), Nat.digitChar (n % 16)]

/-- What stands for a character inside a JSON string. -/
def escapeChar (c : Char) : List Char :=
  if c = '"' then ['\\', '"']
  else if c = '\\' then ['\\', '\\']
  else if c = '\x08' then ['\\', 'b']
  else if c = '\x0c' then ['\\', 'f']
  else if c = '\n' then ['\\', 'n']
  else if c = '\r' then ['\\', 'r']
  else if c = '\t' then ['\\', 't']
  else if c.toNat < 0x20 then ['\\', 'u', '0', '0'] ++ controlDigits c.toNat
  else [c]

/-- A text as a JSON string. -/
def stringChars (s : String) : List Char :=
  '"' :: s.toList.flatMap escapeChar ++ ['"']

mutual

/-- A value as compact JSON. -/
def compactChars : Value → List Char
  | .null => ['n', 'u', 'l', 'l']
  | .bool true => ['t', 'r', 'u', 'e']
  | .bool false => ['f', 'a', 'l', 's', 'e']
  | .number n => n.toText.toList
  | .string s => stringChars s
  | .array items => '[' :: compactItems items ++ [']']
  | .object members => '\x7b' :: compactMembers members ++ ['\x7d']

/-- The items of an array, parted by commas. -/
def compactItems : List Value → List Char
  | [] => []
  | [item] => compactChars item
  | item :: rest => compactChars item ++ ',' :: compactItems rest

/-- The members of an object, parted by commas. -/
def compactMembers : List (String × Value) → List Char
  | [] => []
  | [(key, value)] => stringChars key ++ ':' :: compactChars value
  | (key, value) :: rest => stringChars key ++ ':' :: compactChars value ++ ',' :: compactMembers rest

end

/-- A value as compact JSON. -/
def compact (v : Value) : String :=
  String.ofList v.compactChars

/-- A line break and two blanks for every level. -/
def newline (depth : Nat) : List Char :=
  '\n' :: List.replicate (2 * depth) ' '

mutual

/-- A value as JSON on lines of its own, inside `depth` brackets. -/
def prettyChars (depth : Nat) : Value → List Char
  | .array [] => ['[', ']']
  | .array (item :: rest) =>
    '[' :: newline (depth + 1) ++ prettyChars (depth + 1) item ++ prettyItems (depth + 1) rest ++
      newline depth ++ [']']
  | .object [] => ['\x7b', '\x7d']
  | .object ((key, value) :: rest) =>
    '\x7b' :: newline (depth + 1) ++ stringChars key ++ [':', ' '] ++ prettyChars (depth + 1) value ++
      prettyMembers (depth + 1) rest ++ newline depth ++ ['\x7d']
  | v => v.compactChars

/-- The items after the first of an array. -/
def prettyItems (depth : Nat) : List Value → List Char
  | [] => []
  | item :: rest => ',' :: newline depth ++ prettyChars depth item ++ prettyItems depth rest

/-- The members after the first of an object. -/
def prettyMembers (depth : Nat) : List (String × Value) → List Char
  | [] => []
  | (key, value) :: rest =>
    ',' :: newline depth ++ stringChars key ++ [':', ' '] ++ prettyChars depth value ++
      prettyMembers depth rest

end

/-- A value as JSON on indented lines. -/
def pretty (v : Value) : String :=
  String.ofList (v.prettyChars 0)

mutual

/-- The text that takes the place of a placeholder among other text: strings as they are, nothing for
null, the items of an array parted by commas, and objects as compact JSON. -/
def plainChars : Value → List Char
  | .null => []
  | .string s => s.toList
  | .array items => plainItems items
  | v => v.compactChars

/-- The texts of items, parted by commas. -/
def plainItems : List Value → List Char
  | [] => []
  | [item] => plainChars item
  | item :: rest => plainChars item ++ ',' :: plainItems rest

end

/-- The text that takes the place of a placeholder among other text. -/
def toText (v : Value) : String :=
  String.ofList v.plainChars

mutual

/-- A value with the names of its constructors. -/
def outlineChars : Value → List Char
  | .null => "Null".toList
  | .bool b => (if b then "Bool(true)" else "Bool(false)").toList
  | .number n => "Number(".toList ++ n.toText.toList ++ [')']
  | .string s => "String(".toList ++ (Text.quoted s).toList ++ [')']
  | .array items => "Array [".toList ++ outlineItems items ++ [']']
  | .object members => "Object ".toList ++ '\x7b' :: outlineMembers members ++ ['\x7d']

/-- The outlines of items, parted by commas. -/
def outlineItems : List Value → List Char
  | [] => []
  | [item] => outlineChars item
  | item :: rest => outlineChars item ++ ',' :: ' ' :: outlineItems rest

/-- The outlines of members, parted by commas. -/
def outlineMembers : List (String × Value) → List Char
  | [] => []
  | [(key, value)] => (Text.quoted key).toList ++ ':' :: ' ' :: outlineChars value
  | (key, value) :: rest =>
    (Text.quoted key).toList ++ ':' :: ' ' :: outlineChars value ++ ',' :: ' ' :: outlineMembers rest

end

/-- A value with the names of its constructors. -/
def outline (v : Value) : String :=
  String.ofList v.outlineChars

end Value

end LiveTemplate
