/-
This file writes a binary floating point number with the fewest decimal digits that are read back as
the same number; of several such, it takes the ones nearest to the number.

A finite number is `significand * 2 ^ exponent`. The reals that are read back as this number form an
interval around it, which reaches half-way to the two neighbours and includes its ends if the
significand is even. The digits are looked for on ever finer decimal grids: the first grid that has
a point in the interval is the one with the fewest digits, and such a point is one of the two grid
points next to the number.
-/

namespace SerialFeed.Decimal

/-- A positive number that a double holds: `significand * 2 ^ exponent`. -/
structure Binary where
  significand : Nat
  exponent : Int
  deriving DecidableEq, Repr

/-- A decimal number: `digits * 10 ^ exponent`. -/
structure Number where
  digits : Nat
  exponent : Int
  deriving DecidableEq, Repr

/-- The bit in front of the 52 bits of a fraction, which a double leaves out. -/
def hiddenBit : Nat := 0x10000000000000

/-- The magnitude of a finite double. Its exponent has 11 bits. -/
def Binary.ofFloat (value : Float) : Binary :=
  let bits := value.toBits.toNat
  let fraction := bits % hiddenBit
  let biased := bits / hiddenBit % 0x800
  if biased = 0 then ⟨fraction, -1074⟩ else ⟨hiddenBit + fraction, Int.ofNat biased - 1075⟩

/-- The numerator of a fraction `number * base ^ exponent`. -/
def raised (number base : Nat) (exponent : Int) : Nat :=
  number * Nat.pow base exponent.toNat

/-- An interval of fractions with one denominator, and a number in it. -/
structure Interval where
  low : Nat
  value : Nat
  high : Nat
  denominator : Nat
  closed : Bool

/-- The reals that are read back as a number. Below a power of two the neighbour is only half as far
away, except at the bottom of the range. -/
def Binary.interval (binary : Binary) : Interval :=
  let quarter := binary.exponent - 2
  let below := if binary.significand = hiddenBit ∧ -1074 < binary.exponent then 1 else 2
  { low := raised (4 * binary.significand - below) 2 quarter
    value := raised (4 * binary.significand) 2 quarter
    high := raised (4 * binary.significand + 2) 2 quarter
    denominator := raised 1 2 (-quarter)
    closed := binary.significand % 2 = 0 }

namespace Interval

/-- Whether a fraction with the same denominator lies in the interval. -/
def contains (interval : Interval) (numerator : Nat) : Bool :=
  if interval.closed then interval.low ≤ numerator && numerator ≤ interval.high
  else interval.low < numerator && numerator < interval.high

/-- The interval in units of `10 ^ grid`. -/
def scale (interval : Interval) (grid : Int) : Interval :=
  { interval with
    low := raised interval.low 10 (-grid)
    value := raised interval.value 10 (-grid)
    high := raised interval.high 10 (-grid)
    denominator := raised interval.denominator 10 grid }

/-- The whole number in the interval that is nearest to its value, if there is one next to the
value. Of two that are equally near it is the even one. -/
def nearestWhole? (interval : Interval) : Option Nat :=
  let unit := interval.denominator
  let below := interval.value / unit
  let above := below + 1
  let belowFits := interval.contains (below * unit)
  let aboveFits := interval.contains (above * unit)
  if belowFits && aboveFits then
    let gapBelow := interval.value - below * unit
    let gapAbove := above * unit - interval.value
    if gapBelow < gapAbove then some below
    else if gapAbove < gapBelow then some above
    else if below % 2 = 0 then some below
    else some above
  else if belowFits then some below
  else if aboveFits then some above
  else none

end Interval

/-- The decimal grids, from coarser than every double to finer than every double needs. -/
def grids : List Int :=
  (List.range 660).map fun step => 309 - Int.ofNat step

/-- The shortest decimal number that is read back as a positive double. -/
def Binary.shortest (binary : Binary) : Number :=
  let hit? (grid : Int) : Option Number :=
    (binary.interval.scale grid).nearestWhole?.map fun digits => ⟨digits, grid⟩
  (grids.findSome? hit?).getD ⟨0, 0⟩

/-- A decimal number as text. From `10 ^ -5` up to `10 ^ 16` it is written out with at least one
place after the point; otherwise it has one digit before the point and an exponent. -/
def Number.text (decimal : Number) : List Char :=
  let digits := Nat.toDigits 10 decimal.digits
  let zeros (count : Int) : List Char := List.replicate count.toNat '0'
  let point : Int := digits.length + decimal.exponent
  if 0 ≤ decimal.exponent ∧ point ≤ 16 then digits ++ zeros decimal.exponent ++ ['.', '0']
  else if 0 < point ∧ point ≤ 16 then
    digits.take point.toNat ++ '.' :: digits.drop point.toNat
  else if -5 < point ∧ point ≤ 0 then '0' :: '.' :: (zeros (-point) ++ digits)
  else
    let power := point - 1
    let exponent := 'e' :: (if power < 0 then ['-'] else ['+']) ++ Nat.toDigits 10 power.natAbs
    match digits with
    | [] => exponent
    | [digit] => digit :: exponent
    | first :: others => first :: '.' :: (others ++ exponent)

/-- A finite double as text. -/
def shortestText (value : Float) : List Char :=
  let bits := value.toBits.toNat
  let sign := if bits / (UInt64.size / 2) = 0 then [] else ['-']
  let binary := Binary.ofFloat value
  if binary.significand = 0 then sign ++ ['0', '.', '0'] else sign ++ binary.shortest.text

end SerialFeed.Decimal
