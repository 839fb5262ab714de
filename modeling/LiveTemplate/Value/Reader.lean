import LiveTemplate.Text.Digit
import LiveTemplate.Value.Number

/-!
Reads JSON texts.  Every function works on the characters that are left and answers with what it read
and the characters after it, or with none if the text is not JSON.  Containers nest at most
`maxNesting` deep.
-/

namespace LiveTemplate.Value

open Text (digit? hexDigit?)

/-- How deep containers may nest in a text. -/
def maxNesting : Nat := 127

/-- The blanks between the tokens of a JSON text. -/
def isSpace (c : Char) : Bool :=
  c == ' ' || c == '\n' || c == '\t' || c == '\r'

/-- Drops the blanks in front. -/
def skipSpace (s : List Char) : List Char :=
  s.dropWhile isSpace

/-- Drops a fixed word in front. -/
def expect (word s : List Char) : Option (List Char) :=
  if word.isPrefixOf s then some (s.drop word.length) else none

/-- The digits in front, and what follows them. -/
def readDigits : List Char → List Nat × List Char
  | [] => ([], [])
  | c :: rest =>
    match digit? c with
    | some d => let (ds, after) := readDigits rest; (d :: ds, after)
    | none => ([], c :: rest)

/-- The number that digits form. -/
def ofDigits (digits : List Nat) : Nat :=
  digits.foldl (fun n d => 10 * n + d) 0

/-- The digits after a point, if there is one. -/
def readFraction : List Char → Option (Option (List Nat) × List Char)
  | '.' :: s =>
    match readDigits s with
    | ([], _) => none
    | (digits, rest) => some (some digits, rest)
  | s => some (none, s)

/-- The power of ten, if there is one. -/
def readPower : List Char → Option (Option Int × List Char)
  | [] => some (none, [])
  | c :: s =>
    if c = 'e' ∨ c = 'E' then
      let (isNegative, s) :=
        match s with
        | '+' :: r => (false, r)
        | '-' :: r => (true, r)
        | s => (false, s)
      match readDigits s with
      | ([], _) => none
      | (digits, rest) =>
        let size : Int := ofDigits digits
        some (some (if isNegative then -size else size), rest)
    else some (none, c :: s)

/-- A number in front.  A zero is never followed by another digit. -/
def readNumber (s : List Char) : Option (Number × List Char) := do
  let (negative, s) :=
    match s with
    | '-' :: r => (true, r)
    | s => (false, s)
  match readDigits s with
  | ([], _) => none
  | (0 :: _ :: _, _) => none
  | (whole, s) =>
    let (fraction, s) ← readFraction s
    let (power, s) ← readPower s
    return (← Numeral.toNumber? ⟨negative, whole, fraction, power⟩, s)

/-- The number that four hexadecimal digits form. -/
def hex4? (a b c d : Char) : Option Nat := do
  return (((← hexDigit? a) * 16 + (← hexDigit? b)) * 16 + (← hexDigit? c)) * 16 + (← hexDigit? d)

/-- The character that a letter after a backslash stands for. -/
def shortEscape? (c : Char) : Option Char :=
  if c = '"' then some '"'
  else if c = '\\' then some '\\'
  else if c = '/' then some '/'
  else if c = 'b' then some '\x08'
  else if c = 'f' then some '\x0c'
  else if c = 'n' then some '\n'
  else if c = 'r' then some '\r'
  else if c = 't' then some '\t'
  else none

/-- Whether a code unit is the first half of a pair. -/
def isLeading (n : Nat) : Bool := 0xD800 ≤ n && n < 0xDC00

/-- Whether a code unit is the second half of a pair. -/
def isTrailing (n : Nat) : Bool := 0xDC00 ≤ n && n < 0xE000

/-- The rest of a string after its opening quote, with the characters read so far in reverse.
Half of a pair never stands alone, and control characters are never bare. -/
def readString (done : List Char) : List Char → Option (List Char × List Char)
  | [] => none
  | '"' :: rest => some (done.reverse, rest)
  | '\\' :: 'u' :: a :: b :: c :: d :: rest => do
    let unit ← hex4? a b c d
    if isTrailing unit then none
    else if isLeading unit then
      match rest with
      | '\\' :: 'u' :: e :: f :: g :: h :: rest => do
        let second ← hex4? e f g h
        if isTrailing second then
          readString (Char.ofNat (0x10000 + (unit - 0xD800) * 0x400 + (second - 0xDC00)) :: done) rest
        else none
      | _ => none
    else readString (Char.ofNat unit :: done) rest
  | '\\' :: c :: rest => do readString ((← shortEscape? c) :: done) rest
  | c :: rest => if c.toNat < 0x20 ∨ c = '\\' then none else readString (c :: done) rest

mutual

/-- A value in front, inside containers that leave room for `depth` more.  The fuel counts
characters: every value takes at least one. -/
def readValue : (fuel depth : Nat) → List Char → Option (Value × List Char)
  | 0, _, _ => none
  | fuel + 1, depth, s =>
    match skipSpace s with
    | [] => none
    | c :: rest =>
      if c = 'n' then do return (.null, ← expect ['u', 'l', 'l'] rest)
      else if c = 't' then do return (.bool true, ← expect ['r', 'u', 'e'] rest)
      else if c = 'f' then do return (.bool false, ← expect ['a', 'l', 's', 'e'] rest)
      else if c = '"' then do
        let (text, rest) ← readString [] rest
        return (.string (String.ofList text), rest)
      else if c = '[' then
        match depth with
        | 0 => none
        | depth + 1 =>
          match skipSpace rest with
          | ']' :: rest => some (.array [], rest)
          | rest => do
            let (items, rest) ← readItems fuel depth rest
            return (.array items, rest)
      else if c = '\x7b' then
        match depth with
        | 0 => none
        | depth + 1 =>
          match skipSpace rest with
          | '\x7d' :: rest => some (.object [], rest)
          | rest => do
            let (members, rest) ← readMembers fuel depth rest
            return (ofMembers members, rest)
      else do
        let (n, rest) ← readNumber (c :: rest)
        return (.number n, rest)

/-- The items of an array up to its closing bracket, at least one. -/
def readItems : (fuel depth : Nat) → List Char → Option (List Value × List Char)
  | 0, _, _ => none
  | fuel + 1, depth, s => do
    let (item, rest) ← readValue fuel depth s
    match skipSpace rest with
    | ',' :: rest => do
      let (items, rest) ← readItems fuel depth rest
      return (item :: items, rest)
    | ']' :: rest => return ([item], rest)
    | _ => none

/-- The members of an object up to its closing brace, at least one. -/
def readMembers : (fuel depth : Nat) → List Char → Option (List (String × Value) × List Char)
  | 0, _, _ => none
  | fuel + 1, depth, s => do
    match skipSpace s with
    | '"' :: rest =>
      let (key, rest) ← readString [] rest
      match skipSpace rest with
      | ':' :: rest =>
        let (value, rest) ← readValue fuel depth rest
        let member := (String.ofList key, value)
        match skipSpace rest with
        | ',' :: rest => do
          let (members, rest) ← readMembers fuel depth rest
          return (member :: members, rest)
        | '\x7d' :: rest => return ([member], rest)
        | _ => none
      | _ => none
    | _ => none

end

/-- The value of a whole text in which containers nest at most `depth` deep. -/
def readWithin? (depth : Nat) (text : String) : Option Value := do
  let s := text.toList
  let (value, rest) ← readValue (s.length + 1) depth s
  if (skipSpace rest).isEmpty then some value else none

/-- The value of a whole JSON text. -/
def read? (text : String) : Option Value :=
  readWithin? maxNesting text

end LiveTemplate.Value
