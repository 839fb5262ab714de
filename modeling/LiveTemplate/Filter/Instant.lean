import LiveTemplate.Filter.Calendar
import LiveTemplate.Value.Reader

/-!
Instants: what the time filter shows.  An instant is a number of seconds since the start of 1970, or
a leap second after one; it is read from a date with time and offset, or from a count of seconds.
-/

namespace LiveTemplate

/-- A second of universal time.  A leap second follows the second that it is counted with. -/
structure Instant where
  seconds : Int
  isLeap : Bool
deriving DecidableEq, Repr

namespace Instant

/-- Drops one of two characters in front. -/
def dropOneOf (accepted : List Char) : List Char → Option (List Char)
  | [] => none
  | c :: rest => if c ∈ accepted then some rest else none

/-- A number of exactly `count` digits in front, starting from the digits read so far. -/
def readFixed (value : Nat) : (count : Nat) → List Char → Option (Nat × List Char)
  | 0, s => some (value, s)
  | _ + 1, [] => none
  | count + 1, c :: rest => do readFixed (10 * value + (← Text.digit? c)) count rest

/-- Drops a fraction of a second: a point and at least one digit. -/
def dropFraction : List Char → Option (List Char)
  | '.' :: s =>
    match Value.readDigits s with
    | ([], _) => none
    | (_, rest) => some rest
  | s => some s

/-- The offset from universal time in seconds: nothing but a Z, or a sign with hours below 24 and
minutes below 60. -/
def readOffset : List Char → Option (Int × List Char)
  | [] => none
  | c :: s =>
    if c = 'Z' ∨ c = 'z' then some (0, s)
    else if c = '+' ∨ c = '-' ∨ c = '\u2212' then do
      let (hours, s) ← readFixed 0 2 s
      let s ← dropOneOf [':'] s
      let (minutes, s) ← readFixed 0 2 s
      if hours < 24 ∧ minutes < 60 then
        let size : Int := (hours * 60 + minutes) * 60
        some (if c = '+' then size else -size, s)
      else none
    else none

/-- The instant of a date with time and offset, such as 2024-01-02T03:04:05+01:00. -/
def ofDateTimeChars? (s : List Char) : Option Instant := do
  let (year, s) ← readFixed 0 4 s
  let s ← dropOneOf ['-'] s
  let (month, s) ← readFixed 0 2 s
  let s ← dropOneOf ['-'] s
  let (day, s) ← readFixed 0 2 s
  let s ← dropOneOf ['T', 't', ' '] s
  let (hour, s) ← readFixed 0 2 s
  let s ← dropOneOf [':'] s
  let (minute, s) ← readFixed 0 2 s
  let s ← dropOneOf [':'] s
  let (second, s) ← readFixed 0 2 s
  let s ← dropFraction s
  let (offset, s) ← readOffset s
  let date : Date := ⟨year, month, day⟩
  if s.isEmpty && date.isValid && hour ≤ 23 && minute ≤ 59 && second ≤ 60 then
    let isLeap := second == 60
    let counted := if isLeap then 59 else second
    let time : Nat := (hour * 60 + minute) * 60 + counted
    some ⟨date.dayNumber * 86400 + time - offset, isLeap⟩
  else none

/-- A signed 64-bit number: a sign or none, and at least one digit. -/
def readSigned? (s : List Char) : Option Int :=
  let (negative, s) :=
    match s with
    | '+' :: r => (false, r)
    | '-' :: r => (true, r)
    | s => (false, s)
  match Value.readDigits s with
  | ([], _) => none
  | (digits, []) =>
    let size : Int := Value.ofDigits digits
    let n := if negative then -size else size
    if -0x8000000000000000 ≤ n ∧ n < 0x8000000000000000 then some n else none
  | _ => none

/-- The earliest instant, the start of the year -262143. -/
def earliest : Int := -8334601228800

/-- The latest instant, the end of the year 262142. -/
def latest : Int := 8210266876799

/-- The instant of a count of seconds, if it is in range. -/
def ofSeconds? (seconds : Int) : Option Instant :=
  if earliest ≤ seconds ∧ seconds ≤ latest then some ⟨seconds, false⟩ else none

/-- The instant that a text stands for: a date with time and offset, or a count of seconds. -/
def ofText? (s : String) : Option Instant :=
  match ofDateTimeChars? s.toList with
  | some instant => some instant
  | none => (readSigned? s.toList).bind ofSeconds?

/-- The instant that a value stands for. -/
def ofValue? : Value → Option Instant
  | .string s => ofText? s
  | .number (.whole n) => n.toSigned?.bind ofSeconds?
  | _ => none

/-- The digits of a number, with zeros in front up to a width. -/
def padded (width n : Nat) : List Char :=
  let digits := Nat.toDigits 10 n
  List.replicate (width - digits.length) '0' ++ digits

/-- A year: four digits from 0 to 9999, and a sign with at least four digits outside. -/
def yearChars (year : Int) : List Char :=
  if 0 ≤ year ∧ year ≤ 9999 then padded 4 year.toNat
  else (if year < 0 then '-' else '+') :: padded 4 year.natAbs

/-- The instant in universal time, such as 2024-01-02 02:04:05. -/
def render (instant : Instant) : String :=
  let date := Date.ofDayNumber (instant.seconds / 86400)
  let time := (instant.seconds % 86400).toNat
  let second := time % 60 + (if instant.isLeap then 1 else 0)
  String.ofList <|
    yearChars date.year ++ '-' :: padded 2 date.month ++ '-' :: padded 2 date.day ++
      ' ' :: padded 2 (time / 3600) ++ ':' :: padded 2 (time / 60 % 60) ++ ':' :: padded 2 second

end Instant

end LiveTemplate
