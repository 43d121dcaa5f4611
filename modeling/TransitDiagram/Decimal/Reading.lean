import TransitDiagram.Decimal.Numeral

/-!
# Reading numerals

The number that a numeral stands for. A numeral without point and exponent that fits 64 bits is an
integer. Every other numeral is a double: the digits that fit 64 bits are rounded to a double and
then scaled by one power of ten, digits beyond them only count as places. The result can differ in
its last bit from the double nearest to the numeral.
-/

namespace TransitDiagram

inductive Number where
  | integer (value : Int)
  | real (value : Float)

namespace Numeral

def digitValue (c : Char) : Nat :=
  c.toNat - '0'.toNat

def digitsValue (digits : List Char) : Nat :=
  digits.foldl (fun value c => 10 * value + digitValue c) 0

/-- The numbers that fit 64 bits are below this one. -/
def wordSize : Nat := 18446744073709551616

/-- Appends digits to a number as long as it fits 64 bits. The digits that are left over are
returned with it. -/
def absorb (value : Nat) : List Char → Nat × List Char
  | [] => (value, [])
  | c :: rest =>
    let next := 10 * value + digitValue c
    if next < wordSize then absorb next rest else (value, c :: rest)

/-- A power of ten up to `10 ^ 308`, as the nearest double. -/
def powerOfTen (n : Nat) : Float :=
  Float.ofScientific 1 false n

/-- Scales a double by a negative power of ten, `10 ^ 308` at a time. -/
def scaleDown (x : Float) (n : Nat) : Float :=
  if x == 0 then x
  else if n ≤ 308 then x / powerOfTen n
  else scaleDown (x / powerOfTen 308) (n - 308)
termination_by n

/-- Scales a double by a power of ten, if the result is finite. -/
def scaled? (x : Float) (power : Int) : Option Float :=
  if power < 0 then some (scaleDown x power.natAbs)
  else if x == 0 then some x
  else if power ≤ 308 then
    let y := x * powerOfTen power.natAbs
    if y.isFinite then some y else none
  else none

/-- The exponent that is written, or zero. -/
def writtenPower (n : Numeral) : Int :=
  match n.exponent with
  | some e => if e.negative then -(digitsValue e.digits : Int) else digitsValue e.digits
  | none => 0

/-- The numeral as a double, if that is finite. -/
def toFloat? (n : Numeral) : Option Float :=
  let (whole, wholeRest) := absorb 0 n.whole
  let (significand, fractionRest) := absorb whole n.fraction
  let places : Int := n.fraction.length - fractionRest.length
  let size := scaled? (Float.ofNat significand) (n.writtenPower + wholeRest.length - places)
  size.map fun x => if n.negative then -x else x

/-- The numeral as an integer, if it is written as one and fits 64 bits with or without a sign. A
negative zero is not an integer. -/
def toInt? (n : Numeral) : Option Int :=
  let size := digitsValue n.whole
  if n.fraction ≠ [] ∨ n.exponent.isSome then none
  else if n.negative then (if 0 < size ∧ size ≤ 9223372036854775808 then some (-size) else none)
  else if size < wordSize then some size else none

/-- What the numeral stands for; nothing if it is beyond the largest double. -/
def number? (n : Numeral) : Option Number :=
  match n.toInt? with
  | some i => some (.integer i)
  | none => n.toFloat?.map .real

end Numeral

end TransitDiagram
