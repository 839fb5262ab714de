import LiveTemplate.Decimal.Binary64

/-!
The shortest decimal that reads back to a binary64 number, and the two ways it is laid out: with a
signed power of ten outside a band of exponents, or always positionally.
-/

namespace LiveTemplate.Decimal

/-- The decimal `digits * 10 ^ exponent`. -/
structure Digits where
  digits : Nat
  exponent : Int
deriving Repr, DecidableEq

/-- Compares `a * 10 ^ i` with `n * 2 ^ j`. -/
def compareScaled (a : Nat) (i : Int) (n : Nat) (j : Int) : Ordering :=
  compare (a * Nat.pow 10 i.toNat * Nat.pow 2 (-j).toNat)
    (n * Nat.pow 2 j.toNat * Nat.pow 10 (-i).toNat)

/-- Whether a decimal lies among the reals that round to the size of `x`.  The ends of that interval
belong to it when the significand is even, and below a power of two the gap is half as wide. -/
def readsBack (x : Binary64) (d : Digits) : Bool :=
  let isNarrow := x.significand == Nat.pow 2 52 && x.exponent != -1074
  let low := if isNarrow then 4 * x.significand - 1 else 4 * x.significand - 2
  let high := 4 * x.significand + 2
  let hasEnds := x.significand % 2 == 0
  let fromLow := compareScaled d.digits d.exponent low (x.exponent - 2)
  let toHigh := compareScaled d.digits d.exponent high (x.exponent - 2)
  (fromLow == .gt || (hasEnds && fromLow == .eq)) && (toHigh == .lt || (hasEnds && toHigh == .eq))

/-- The least `k` from `start` on with `x < 10 ^ k`, looking at most `steps` further. -/
def leastPower (x : Binary64) (start : Int) : Nat → Int
  | 0 => start
  | steps + 1 =>
    if compareScaled 1 start x.significand x.exponent == .gt then start
    else leastPower x (start + 1) steps

/-- The least `k` with `x < 10 ^ k`, for a number other than zero. -/
def scale (x : Binary64) : Int :=
  let log2 : Int := Nat.log2 x.significand + x.exponent
  leastPower x (log2 * 30103 / 100000 - 1) 4

/-- The multiples of `10 ^ exponent` on either side of the size of `x`, the nearer one first; on a
tie, the even one. -/
def neighbours (x : Binary64) (exponent : Int) : List Digits :=
  let num := x.significand * Nat.pow 2 x.exponent.toNat * Nat.pow 10 (-exponent).toNat
  let den := Nat.pow 2 (-x.exponent).toNat * Nat.pow 10 exponent.toNat
  let below := num / den
  let twice := 2 * (num % den)
  let isUpFirst := den < twice || (twice == den && below % 2 == 1)
  if isUpFirst then [⟨below + 1, exponent⟩, ⟨below, exponent⟩]
  else [⟨below, exponent⟩, ⟨below + 1, exponent⟩]

/-- The first neighbour that reads back, on grids of ever more digits. -/
def search (x : Binary64) (k : Int) : Nat → Nat → Option Digits
  | _, 0 => none
  | count, steps + 1 =>
    match (neighbours x (k - count)).find? (readsBack x) with
    | some d => some d
    | none => search x k (count + 1) steps

/-- Moves the trailing zeros of the digits into the exponent. -/
def Digits.strip (d : Digits) : Nat → Digits
  | 0 => d
  | steps + 1 =>
    if d.digits ≠ 0 ∧ d.digits % 10 = 0 then Digits.strip ⟨d.digits / 10, d.exponent + 1⟩ steps
    else d

/-- The shortest decimal that reads back to the size of `x`; of several, the nearest. -/
def shortest (x : Binary64) : Digits :=
  if x.isZero then ⟨0, 0⟩
  else
    match search x (scale x) 1 17 with
    | some d => d.strip 20
    | none =>
      -- never reached: seventeen digits always read back
      ⟨x.significand * Nat.pow 2 x.exponent.toNat * Nat.pow 5 (-x.exponent).toNat,
        -(-x.exponent).toNat⟩

/-- The decimal digits of a number. -/
def digitChars (n : Nat) : List Char :=
  Nat.toDigits 10 n

/-- Digits with a point after the first `before` of them, filled up with zeros on either side, and
with at least one digit after the point. -/
def positional (digits : List Char) (before : Int) : List Char :=
  if before ≤ 0 then
    ['0', '.'] ++ List.replicate (-before).toNat '0' ++ digits
  else
    let whole := before.toNat
    let fraction := digits.drop whole
    digits.take whole ++ List.replicate (whole - digits.length) '0' ++ ['.'] ++
      (if fraction.isEmpty then ['0'] else fraction)

/-- Digits with a point after the first of them and a signed power of ten. -/
def scientific (digits : List Char) (exponent : Int) : List Char :=
  let mantissa := digits.take 1 ++ (if digits.length ≤ 1 then [] else '.' :: digits.drop 1)
  mantissa ++ ['e', if exponent < 0 then '-' else '+'] ++ digitChars exponent.natAbs

/-- A layout of decimals: the band of leading exponents that are written positionally, or none if
all are. -/
structure Layout where
  band : Option (Int × Int)

/-- A binary64 number as text. -/
def Layout.render (layout : Layout) (x : Binary64) : String :=
  let d := shortest x
  let digits := digitChars d.digits
  let leading := d.exponent + digits.length - 1
  let isPositional :=
    match layout.band with
    | none => true
    | some (low, high) => low ≤ leading && leading ≤ high
  let body := if isPositional then positional digits (leading + 1) else scientific digits leading
  String.ofList (if x.negative then '-' :: body else body)

end LiveTemplate.Decimal
