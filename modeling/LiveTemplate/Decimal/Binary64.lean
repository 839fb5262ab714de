/-!
Finite binary64 numbers as exact values: a sign, a significand below 2^53 and a power of two.  Every
operation computes the exact rational result and rounds it once, to the nearest number and on a tie
to the even significand.
-/

namespace LiveTemplate.Decimal

/-- The significands and exponents that a finite binary64 number has.  The significand is full
unless the exponent is the least one. -/
def IsCanonical (significand : Nat) (exponent : Int) : Prop :=
  significand < Nat.pow 2 53 ∧ -1074 ≤ exponent ∧ exponent ≤ 971 ∧
    (exponent = -1074 ∨ Nat.pow 2 52 ≤ significand)

instance (significand : Nat) (exponent : Int) : Decidable (IsCanonical significand exponent) :=
  inferInstanceAs (Decidable (_ ∧ _ ∧ _ ∧ _))

/-- The finite number whose size is `significand * 2 ^ exponent`.  Zero has a sign. -/
structure Binary64 where
  negative : Bool
  significand : Nat
  exponent : Int
  isCanonical : IsCanonical significand exponent
deriving DecidableEq

namespace Binary64

/-- Zero with a sign. -/
def zero (negative : Bool) : Binary64 :=
  ⟨negative, 0, -1074, by decide⟩

instance : Inhabited Binary64 := ⟨zero false⟩

/-- Whether the number is zero of either sign. -/
def isZero (x : Binary64) : Bool :=
  x.significand == 0

/-- The number of the given parts, if there is one. -/
def ofParts? (negative : Bool) (significand : Nat) (exponent : Int) : Option Binary64 :=
  if h : IsCanonical significand exponent then some ⟨negative, significand, exponent, h⟩ else none

/-- A quotient rounded to the nearest whole number, on a tie to the even one. -/
def roundHalfEven (num den : Nat) : Nat :=
  let whole := num / den
  let twice := 2 * (num % den)
  if den < twice || (twice == den && whole % 2 == 1) then whole + 1 else whole

/-- `num / den` in units of `2 ^ exponent`, as a quotient of whole numbers. -/
def inUnits (num den : Nat) (exponent : Int) : Nat × Nat :=
  (num * Nat.pow 2 (-exponent).toNat, den * Nat.pow 2 exponent.toNat)

/-- The power of two in whose units `num / den` is rounded: the one that leaves 53 binary digits,
and never less than the least exponent. -/
def roundingExponent (num den : Nat) : Int :=
  let low := max ((Nat.log2 num : Int) - Nat.log2 den - 53) (-1074)
  let (n, d) := inUnits num den low
  if Nat.pow 2 53 ≤ n / d then low + 1 else low

/-- The number nearest to `num / den`, or none if that is beyond the largest one. -/
def ofRatio? (negative : Bool) (num den : Nat) : Option Binary64 :=
  if num = 0 then some (zero negative)
  else
    let exponent := roundingExponent num den
    let (n, d) := inUnits num den exponent
    let significand := roundHalfEven n d
    if significand = Nat.pow 2 53 then ofParts? negative (Nat.pow 2 52) (exponent + 1)
    else ofParts? negative significand exponent

/-- The size of the number as a quotient of whole numbers. -/
def magnitude (x : Binary64) : Nat × Nat :=
  (x.significand * Nat.pow 2 x.exponent.toNat, Nat.pow 2 (-x.exponent).toNat)

/-- The number nearest to a whole number. -/
def ofNat? (negative : Bool) (n : Nat) : Option Binary64 :=
  ofRatio? negative n 1

/-- The product, or none if it is beyond the largest number. -/
def mul? (x y : Binary64) : Option Binary64 :=
  let (n, d) := x.magnitude
  let (n', d') := y.magnitude
  ofRatio? (x.negative != y.negative) (n * n') (d * d')

/-- The quotient, or none if it is beyond the largest number or the divisor is zero. -/
def div? (x y : Binary64) : Option Binary64 :=
  let (n, d) := x.magnitude
  let (n', d') := y.magnitude
  if n' = 0 then none else ofRatio? (x.negative != y.negative) (n * d') (d * n')

/-- The number nearest to `digits * 10 ^ exponent`, or none if that is beyond the largest one.
Powers far outside the range are settled without being computed. -/
def ofDecimal? (negative : Bool) (digits : Nat) (exponent : Int) : Option Binary64 :=
  let leading : Int := (Nat.log2 digits : Int) / 4 + exponent
  if digits = 0 then some (zero negative)
  else if 400 < leading then none
  else if (Nat.log2 digits : Int) + exponent < -400 then some (zero negative)
  else ofRatio? negative (digits * Nat.pow 10 exponent.toNat) (Nat.pow 10 (-exponent).toNat)

end Binary64

end LiveTemplate.Decimal
