import LiveTemplate.Filter.Base64
import LiveTemplate.Filter.Instant
import LiveTemplate.Text.Case
import LiveTemplate.Text.Blank
import LiveTemplate.Value.Printer

/-!
Filters: functions from values to values.  A value of a kind that a filter does not work on passes
through unchanged.
-/

namespace LiveTemplate

/-- The filters that every registry can start with. -/
inductive Builtin where
  | upper
  | lower
  | trim
  | length
  | json
  | base64Encode
  | base64Decode
  | formatTime
deriving DecidableEq, Repr

namespace Builtin

/-- The built-in filters in the order in which they are registered. -/
def all : List Builtin :=
  [.upper, .lower, .trim, .length, .json, .base64Encode, .base64Decode, .formatTime]

/-- The name under which a filter is registered. -/
def name : Builtin → String
  | .upper => "upper"
  | .lower => "lower"
  | .trim => "trim"
  | .length => "length"
  | .json => "json"
  | .base64Encode => "base64_encode"
  | .base64Decode => "base64_decode"
  | .formatTime => "format_time"

/-- The number of characters, items or members. -/
def lengthOf : Value → Value
  | .string s => .ofNat s.length
  | .array items => .ofNat items.length
  | .object members => .ofNat members.length
  | v => v

/-- Changes a string and leaves any other value alone. -/
def onString (f : String → String) : Value → Value
  | .string s => .string (f s)
  | v => v

/-- What a filter makes of a value. -/
def apply : Builtin → Value → Value
  | .upper, v => onString Text.upper v
  | .lower, v => onString Text.lower v
  | .trim, v => onString Text.trim v
  | .length, v => lengthOf v
  | .json, v => .string v.compact
  | .base64Encode, v => .string (Base64.encodeText v.toText)
  | .base64Decode, v => onString (fun s => (Base64.decodeText? s).getD s) v
  | .formatTime, v =>
    match Instant.ofValue? v with
    | some instant => .string instant.render
    | none => v

end Builtin

/-- A filter function: a built-in one, or one that a program registers. -/
inductive Transform where
  | builtin (filter : Builtin)
  /-- Always the same value. -/
  | constant (value : Value)
  /-- The text of the value, and a text behind it. -/
  | append (text : String)
  /-- A text, and the text of the value behind it. -/
  | prepend (text : String)
  /-- A list with the value as its only item. -/
  | wrap
  /-- The name of the value's kind. -/
  | kind
  | identity
  /-- Any function of the program's own. -/
  | function (f : Value → Value)
deriving Inhabited

/-- What a filter function makes of a value. -/
def Transform.apply : Transform → Value → Value
  | .builtin filter, v => filter.apply v
  | .constant value, _ => value
  | .append text, v => .string (v.toText ++ text)
  | .prepend text, v => .string (text ++ v.toText)
  | .wrap, v => .array [v]
  | .kind, v => .string v.kind
  | .identity, v => v
  | .function f, v => f v

end LiveTemplate
