/-!
# Decimal numerals

A numeral as it is written: a sign, the digits before and after the point, and an exponent. A
`NumeralStyle` decides how digits and a power of ten are laid out as a numeral.
-/

namespace TransitDiagram

structure WrittenExponent where
  negative : Bool
  digits : List Char
  deriving DecidableEq

structure Numeral where
  negative : Bool
  /-- The digits before the point. -/
  whole : List Char
  /-- The digits after the point. There is no point without them. -/
  fraction : List Char
  exponent : Option WrittenExponent
  deriving DecidableEq

/-- The number `digits · 10 ^ power`, with the digits from the most significant one. -/
structure Decimal where
  digits : List Char
  power : Int
  deriving DecidableEq

/-- How a decimal is laid out as a numeral. -/
structure NumeralStyle where
  /-- The exponents of the first digit for which no exponent is written. -/
  isPlain : Int → Bool
  /-- A plain whole number has a zero after its point. -/
  pointZero : Bool

namespace WrittenExponent

def ofInt (n : Int) : WrittenExponent :=
  ⟨decide (n < 0), Nat.toDigits 10 n.natAbs⟩

def chars (e : WrittenExponent) : List Char :=
  'e' :: (if e.negative then '-' else '+') :: e.digits

end WrittenExponent

namespace Numeral

def chars (n : Numeral) : List Char :=
  (if n.negative then ['-'] else []) ++ n.whole ++
    (if n.fraction = [] then [] else '.' :: n.fraction) ++
    (match n.exponent with
      | some e => e.chars
      | none => [])

def ofInt (n : Int) : Numeral :=
  ⟨decide (n < 0), Nat.toDigits 10 n.natAbs, [], none⟩

end Numeral

namespace Decimal

/-- The power of ten of the first digit. -/
def leading (d : Decimal) : Int :=
  d.power + d.digits.length - 1

def zeros (count : Int) : List Char :=
  List.replicate count.toNat '0'

def plain (style : NumeralStyle) (negative : Bool) (d : Decimal) : Numeral :=
  if 0 ≤ d.power then
    ⟨negative, d.digits ++ zeros d.power, if style.pointZero then ['0'] else [], none⟩
  else if 0 ≤ d.leading then
    let whole := (d.leading + 1).toNat
    ⟨negative, d.digits.take whole, d.digits.drop whole, none⟩
  else
    ⟨negative, ['0'], zeros (-d.leading - 1) ++ d.digits, none⟩

/-- The decimal written with one digit before the point and an exponent. -/
def scientific (negative : Bool) (d : Decimal) : Numeral :=
  ⟨negative, d.digits.take 1, d.digits.drop 1, some (.ofInt d.leading)⟩

def numeral (style : NumeralStyle) (negative : Bool) (d : Decimal) : Numeral :=
  if style.isPlain d.leading then d.plain style negative else d.scientific negative

end Decimal

end TransitDiagram
