import LiveTemplate.Decimal.Binary64

/-!
The values that views hold and templates show: the data model of JSON, with whole numbers of 64 bits
beside binary64 numbers, and with the members of an object in the order of their keys.
-/

namespace LiveTemplate

/-- A whole number that fits 64 bits, with a sign or without. -/
structure Whole where
  val : Int
  inRange : -0x8000000000000000 ≤ val ∧ val < 0x10000000000000000
deriving DecidableEq

namespace Whole

/-- The whole number of the given size, if it fits. -/
def ofInt? (i : Int) : Option Whole :=
  if h : -0x8000000000000000 ≤ i ∧ i < 0x10000000000000000 then some ⟨i, h⟩ else none

instance : Inhabited Whole := ⟨⟨0, by decide⟩⟩

/-- The whole number as a signed 64-bit one, if it fits. -/
def toSigned? (n : Whole) : Option Int :=
  if n.val < 0x8000000000000000 then some n.val else none

end Whole

/-- A number: whole, or binary64. -/
inductive Number where
  | whole (n : Whole)
  | float (x : Decimal.Binary64)
deriving DecidableEq, Inhabited

/-- A value.  The members of an object stand in ascending order of their keys, each key once. -/
inductive Value where
  | null
  | bool (b : Bool)
  | number (n : Number)
  | string (s : String)
  | array (items : List Value)
  | object (members : List (String × Value))
deriving Inhabited

namespace Value

/-- The value of a count.  Counts beyond 64 bits do not arise. -/
def ofNat (n : Nat) : Value :=
  match Whole.ofInt? n with
  | some w => .number (.whole w)
  | none => .null

/-- Puts a member at the place of its key, over the member that has that key. -/
def insertMember (key : String) (value : Value) : List (String × Value) → List (String × Value)
  | [] => [(key, value)]
  | (k, v) :: rest =>
    if key = k then (key, value) :: rest
    else if key < k then (key, value) :: (k, v) :: rest
    else (k, v) :: insertMember key value rest

/-- The object of the given members; of several with one key the last counts. -/
def ofMembers (members : List (String × Value)) : Value :=
  .object (members.foldl (fun done member => insertMember member.1 member.2 done) [])

/-- The name of the kind of a value. -/
def kind : Value → String
  | .null => "null"
  | .bool _ => "bool"
  | .number _ => "number"
  | .string _ => "string"
  | .array _ => "array"
  | .object _ => "object"

end Value

end LiveTemplate
