import TransitDiagram.Decimal.Numeral

/-!
# Shortest decimals

A binary number is written with the fewest decimal digits that still read back as that number.
The reals that round to it form an interval, its `Cell`. On each grid of powers of ten, from the
coarsest to the finest, the two neighbours of the number are tried, and the first grid that has
one in the cell gives the digits. If both are in the cell the nearer one is taken.
-/

namespace TransitDiagram

/-- Which of two equally near decimals is taken. -/
inductive Tie where
  /-- The one whose last digit is even. -/
  | even
  /-- The larger one. -/
  | up
  deriving DecidableEq

/-- A binary number in its parts: `significand · 2 ^ power`, with a sign. -/
structure BinaryParts where
  negative : Bool
  significand : Nat
  power : Int
  deriving DecidableEq

namespace BinaryParts

/-- The least significand of a double that is not close to zero: two to the power of 52. -/
def leastNormal : Nat := 4503599627370496

/-- The power of the doubles closest to zero. -/
def leastPower : Int := -1074

/-- The parts of a finite double: a sign, eleven bits for the power, and the significand, of which
the first bit is left out unless the power is the least one. -/
def ofFloat (x : Float) : BinaryParts :=
  let bits := x.toBits.toNat
  let negative := decide (1 ≤ bits / leastNormal / 2048)
  let exponent : Nat := bits / leastNormal % 2048
  let fraction := bits % leastNormal
  if exponent = 0 then ⟨negative, fraction, leastPower⟩
  else ⟨negative, leastNormal + fraction, leastPower + (exponent - 1 : Nat)⟩

end BinaryParts

/-- The reals that round to a binary number, in units of `2 ^ power`. -/
structure Cell where
  low : Nat
  centre : Nat
  high : Nat
  power : Int
  /-- The ends belong to the cell. -/
  closed : Bool
  deriving DecidableEq

namespace Cell

/-- The cell of a positive double. Below a power of two the doubles lie twice as close. -/
def ofParts (parts : BinaryParts) : Cell :=
  let m := parts.significand
  let isPower := m = BinaryParts.leastNormal ∧ BinaryParts.leastPower < parts.power
  { low := 4 * m - (if isPower then 1 else 2)
    centre := 4 * m
    high := 4 * m + 2
    power := parts.power - 2
    closed := decide (m % 2 = 0) }

/-- The number of the cell nearest to its centre on the grid `10 ^ grid`, as a multiple of the
grid, if the cell has one. -/
def onGrid? (tie : Tie) (cell : Cell) (grid : Int) : Option Nat :=
  let scale := Nat.pow 2 cell.power.toNat * Nat.pow 10 (-grid).toNat
  let unit := Nat.pow 2 (-cell.power).toNat * Nat.pow 10 grid.toNat
  let holds (n : Nat) : Bool :=
    if cell.closed then decide (cell.low * scale ≤ n * unit ∧ n * unit ≤ cell.high * scale)
    else decide (cell.low * scale < n * unit ∧ n * unit < cell.high * scale)
  let below := cell.centre * scale / unit
  let above := below + 1
  if holds below then
    if holds above then
      let toBelow := cell.centre * scale - below * unit
      let toAbove := above * unit - cell.centre * scale
      if toBelow < toAbove then some below
      else if toAbove < toBelow then some above
      else
        match tie with
        | .even => if below % 2 = 0 then some below else some above
        | .up => some above
    else some below
  else if holds above then some above
  else none

/-- A power of ten above the cell's centre, by not more than three places. -/
def coarsest (cell : Cell) : Int :=
  (cell.centre.log2 + cell.power) * 30103 / 100000 + 2

/-- The decimal of fewest digits in the cell. Seventeen digits suffice for every cell, and the
grids that are tried reach beyond the seventeenth. -/
def shortest (tie : Tie) (cell : Cell) : Decimal :=
  let hit := (List.range 24).findSome? fun (finer : Nat) =>
    let grid := cell.coarsest - finer
    (cell.onGrid? tie grid).map fun n => (⟨Nat.toDigits 10 n, grid⟩ : Decimal)
  hit.getD ⟨['0'], 0⟩

end Cell

/-- The shortest decimal of the size of a finite double. -/
def Decimal.ofFloat (tie : Tie) (x : Float) : Decimal :=
  let parts := BinaryParts.ofFloat x
  if parts.significand = 0 then ⟨['0'], 0⟩ else (Cell.ofParts parts).shortest tie

def Numeral.ofFloat (tie : Tie) (style : NumeralStyle) (x : Float) : Numeral :=
  (Decimal.ofFloat tie x).numeral style (BinaryParts.ofFloat x).negative

end TransitDiagram
