import LiveTemplate.Value.Basic

/-!
Numbers of JSON texts.  A numeral without point and power that fits 64 bits is a whole number.  Any
other numeral is read as its first digits that fit 64 bits, brought to its place by one rounded
power of ten.
-/

namespace LiveTemplate

/-- The parts of a numeral: sign, digits before the point, digits after it and power of ten.  A part
that is not written is none. -/
structure Numeral where
  negative : Bool
  whole : List Nat
  fraction : Option (List Nat)
  power : Option Int

namespace Numeral

/-- Appends digits to a significand while the result fits 64 bits; also the digits left over. -/
def accumulate (significand : Nat) : List Nat → Nat × List Nat
  | [] => (significand, [])
  | d :: rest =>
    if significand * 10 + d < Nat.pow 2 64 then accumulate (significand * 10 + d) rest
    else (significand, d :: rest)

/-- The largest power of ten that is applied at once. -/
def largestPower : Nat := 308

/-- The binary64 number nearest to a power of ten. -/
def powerOfTen? (n : Nat) : Option Decimal.Binary64 :=
  Decimal.Binary64.ofNat? false (Nat.pow 10 n)

/-- Brings a number to its place by powers of ten, each multiplication or division rounded.  None
stands for a result beyond the largest number.  Three divisions bring any 64-bit significand to
zero, so the steps do not run out before that. -/
def scaleByTen (x : Decimal.Binary64) (power : Int) : Nat → Option Decimal.Binary64
  | 0 => some (.zero x.negative)
  | steps + 1 =>
    if x.isZero then some x
    else if power.natAbs ≤ largestPower then do
      let ten ← powerOfTen? power.natAbs
      if 0 ≤ power then x.mul? ten else x.div? ten
    else if 0 ≤ power then none
    else do
      let ten ← powerOfTen? largestPower
      scaleByTen (← x.div? ten) (power + largestPower) steps

/-- The binary64 number of a significand and a power of ten. -/
def toFloat? (negative : Bool) (significand : Nat) (power : Int) : Option Number := do
  let x ← Decimal.Binary64.ofNat? negative significand
  return .float (← scaleByTen x power 4)

/-- The number that a numeral stands for, or none if it is beyond the largest number. -/
def toNumber? (n : Numeral) : Option Number :=
  let (significand, left) := accumulate 0 n.whole
  match n.fraction, n.power, left with
  | none, none, [] =>
    let signed : Int := if n.negative then -significand else significand
    match Whole.ofInt? signed with
    | some w =>
      if n.negative && significand == 0 then some (.float (.zero true)) else some (.whole w)
    | none => toFloat? n.negative significand 0
  | fraction, power, left =>
    let digits := fraction.getD []
    let (significand, unused) := accumulate significand digits
    let place : Int := (left.length : Int) - (digits.length - unused.length : Nat)
    toFloat? n.negative significand (place + power.getD 0)

end Numeral

end LiveTemplate
