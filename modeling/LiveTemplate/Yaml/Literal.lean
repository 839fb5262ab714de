import LiveTemplate.Yaml.Node

/-!
What a scalar says: nothing, a truth value, a number or a text.  A plain scalar is read by its form, a
scalar with one of the standard tags by that tag, and any other scalar is a text.
-/

namespace LiveTemplate.Yaml

/-- What a scalar says.  An integer with a minus sign is told apart from one without. -/
inductive Literal where
  | null
  | bool (b : Bool)
  | unsigned (n : Nat)
  | negative (n : Nat)
  | float (x : Real)
  | text (s : String)

/-- How messages call what a scalar says. -/
def Literal.found : Literal → Found
  | .null => .unit
  | .bool b => .bool b
  | .unsigned n => .integer n
  | .negative n => .integer (-n)
  | .float x => .float x
  | .text s => .text s

/-- Whether a text is a form of null. -/
def isNull (s : String) : Bool :=
  s == "null" || s == "Null" || s == "NULL" || s == "~"

/-- The truth value that a text is a form of. -/
def readBool? (s : String) : Option Bool :=
  if s = "true" ∨ s = "True" ∨ s = "TRUE" then some true
  else if s = "false" ∨ s = "False" ∨ s = "FALSE" then some false
  else none

/-- The value of a decimal or hexadecimal digit that is less than a base. -/
def digitBelow? (base : Nat) (c : Char) : Option Nat :=
  (Text.hexDigit? c).filter (· < base)

/-- The number that digits form, if there is at least one and nothing else. -/
def readDigits? (base : Nat) (digits : List Char) : Option Nat :=
  if digits.isEmpty then none
  else digits.foldlM (fun n c => (digitBelow? base c).map (base * n + ·)) 0

/-- Whether digits have a zero in front that says nothing. -/
def hasLeadingZero : List Char → Bool
  | '0' :: rest => !rest.isEmpty && rest.all fun c => '0' ≤ c && c ≤ '9'
  | _ => false

/-- The size of an integer: decimal, or in another base behind its mark. -/
def readMagnitude? : List Char → Option Nat
  | '0' :: 'x' :: digits => readDigits? 16 digits
  | '0' :: 'o' :: digits => readDigits? 8 digits
  | '0' :: 'b' :: digits => readDigits? 2 digits
  | digits => if hasLeadingZero digits then none else readDigits? 10 digits

/-- The integer of 128 bits that a text is a form of. -/
def readInteger? (s : String) : Option Literal :=
  match s.toList with
  | '-' :: digits =>
    ((readMagnitude? digits).filter (· ≤ Nat.pow 2 127)).map .negative
  | '+' :: digits => ((readMagnitude? digits).filter (· < Nat.pow 2 128)).map .unsigned
  | digits => ((readMagnitude? digits).filter (· < Nat.pow 2 128)).map .unsigned

/-- The digits in front, and what follows them. -/
def splitDigits (s : List Char) : List Char × List Char :=
  s.span fun c => '0' ≤ c && c ≤ '9'

/-- The power of ten at the end of a number, if nothing follows it. -/
def readPower? : List Char → Option Int
  | [] => some 0
  | c :: rest =>
    if c = 'e' ∨ c = 'E' then
      match rest with
      | '+' :: digits => (readDigits? 10 digits).map fun n => (n : Int)
      | '-' :: digits => (readDigits? 10 digits).map fun n => -(n : Int)
      | digits => (readDigits? 10 digits).map fun n => (n : Int)
    else none

/-- The number that digits with a point and a power of ten form.  Digits may be missing on one side of
the point.  A number beyond the largest one is none. -/
def readDecimal? (negative : Bool) (s : List Char) : Option Decimal.Binary64 := do
  let (whole, rest) := splitDigits s
  let (fraction, rest) :=
    match rest with
    | '.' :: more => splitDigits more
    | rest => ([], rest)
  let power ← readPower? rest
  let digits ← readDigits? 10 (whole ++ fraction)
  Decimal.Binary64.ofDecimal? negative digits (power - fraction.length)

/-- The number that a text is a form of. -/
def readFloat? (s : String) : Option Real :=
  if s = ".nan" ∨ s = ".NaN" ∨ s = ".NAN" then some .notANumber
  else
    let (negative, digits) :=
      match s.toList with
      | '-' :: digits => (true, digits)
      | '+' :: digits => (false, digits)
      | digits => (false, digits)
    let word := String.ofList digits
    if word = ".inf" ∨ word = ".Inf" ∨ word = ".INF" then some (.infinite negative)
    else (readDecimal? negative digits).map .finite

/-- The text without a sign in front. -/
def unsignedChars (s : String) : List Char :=
  match s.toList with
  | '-' :: digits => digits
  | '+' :: digits => digits
  | digits => digits

/-- What a plain scalar says by its form. -/
def readForm (s : String) : Literal :=
  if s.isEmpty || isNull s then .null
  else
    match readBool? s, readInteger? s with
    | some b, _ => .bool b
    | none, some i => i
    | none, none =>
      if hasLeadingZero (unsignedChars s) then .text s
      else
        match readFloat? s with
        | some x => .float x
        | none => .text s

/-- The tag of null. -/
def nullTag : TagBytes := bytesOf "tag:yaml.org,2002:null"

/-- The tag of truth values. -/
def boolTag : TagBytes := bytesOf "tag:yaml.org,2002:bool"

/-- The tag of integers. -/
def intTag : TagBytes := bytesOf "tag:yaml.org,2002:int"

/-- The tag of floating point numbers. -/
def floatTag : TagBytes := bytesOf "tag:yaml.org,2002:float"

/-- The exclamation mark, with which the tags of the document's own begin. -/
def tagMark : UInt8 := 33

/-- The name that a tag of the document's own gives, if it is a text.  The mark alone names itself.  The
standard tags give no name. -/
def ownTag? : Option TagBytes → Option String
  | some (mark :: name) =>
    if mark = tagMark then
      String.fromUTF8? ⟨(if name.isEmpty then [tagMark] else name).toArray⟩
    else none
  | _ => none

/-- What a scalar says. -/
def Scalar.literal (s : Scalar) : Except Mismatch Literal :=
  let demand := fun (expected : String) (found : Option Literal) =>
    match found with
    | some l => Except.ok l
    | none => .error (.invalidValue s.text expected)
  match s.tag with
  | none => .ok (if s.style = .plain then readForm s.text else .text s.text)
  | some tag =>
    if tag = boolTag then demand "a boolean" ((readBool? s.text).map .bool)
    else if tag = intTag then demand "an integer" (readInteger? s.text)
    else if tag = floatTag then demand "a float" ((readFloat? s.text).map .float)
    else if tag = nullTag then demand "null" (if isNull s.text then some .null else none)
    else if tag.head? = some tagMark ∧ s.style = .plain then .ok (readForm s.text)
    else .ok (.text s.text)

end LiveTemplate.Yaml
