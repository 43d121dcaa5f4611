import Mathlib
import TransitDiagram.Decimal.Reading
import TransitDiagram.Decimal.Shortest
import TransitDiagram.Json.Token

/-!
# Numerals in a text

A well-formed numeral is cut from a text as it was written, unless what follows it could belong to
it (`Numeral.scan?_chars_append`). The numerals of integers and of doubles are well formed: their
digits begin with a zero only if they are a zero.
-/

namespace TransitDiagram

namespace Numeral

/-! ### Digits of numbers -/

theorem head?_toDigits_ne_zero {n : Nat} (positive : 0 < n) :
    (Nat.toDigits 10 n).head? ≠ some '0' := by
  induction n using Nat.strong_induction_on with
  | _ n ih =>
    by_cases small : n < 10
    · rw [Nat.toDigits_of_lt_base small, List.head?_singleton]
      intro eq
      have := Nat.digitChar_eq_zero.mp (Option.some.inj eq)
      omega
    · rw [Nat.toDigits_eq_if (by omega), if_neg small,
        List.head?_append_of_ne_nil _ Nat.toDigits_ne_nil]
      exact ih (n / 10) (by omega) (by omega)

/-- Digits, at least one. -/
def IsRun (digits : List Char) : Prop :=
  digits ≠ [] ∧ ∀ c ∈ digits, c.isDigit = true

theorem isRun_toDigits (n : Nat) : IsRun (Nat.toDigits 10 n) :=
  ⟨Nat.toDigits_ne_nil, fun _ member => Nat.isDigit_of_mem_toDigits (by omega) (by omega) member⟩

/-- A numeral as it is written: there are digits where some are due, and those before the point
begin with a zero only if there is nothing else. -/
structure IsWellFormed (n : Numeral) : Prop where
  whole : IsRun n.whole
  leading : n.whole.head? = some '0' → n.whole = ['0']
  fraction : ∀ c ∈ n.fraction, c.isDigit = true
  exponent : ∀ e ∈ n.exponent, IsRun e.digits

/-- The text does not begin with a digit. -/
def EndsDigits (cs : List Char) : Prop :=
  ∀ c ∈ cs.head?, c.isDigit = false

/-- The text does not begin with what could belong to a numeral before it. -/
def Ends (cs : List Char) : Prop :=
  ∀ c ∈ cs.head?, c.isDigit = false ∧ c ≠ '.' ∧ c ≠ 'e' ∧ c ≠ 'E'

/-! ### Reading what was written -/

variable {rest digits : List Char}

theorem takeWhile_isDigit_eq_nil (ends : EndsDigits rest) : rest.takeWhile Char.isDigit = [] := by
  cases rest with
  | nil => rfl
  | cons c rest => rw [List.takeWhile_cons, ends c rfl]; rfl

theorem scanDigits?_append (run : IsRun digits) (ends : EndsDigits rest) :
    scanDigits? (digits ++ rest) = some (digits, rest) := by
  have taken : (digits ++ rest).takeWhile Char.isDigit = digits := by
    rw [List.takeWhile_append_of_pos run.2, takeWhile_isDigit_eq_nil ends, List.append_nil]
  have left : (digits ++ rest).dropWhile Char.isDigit = rest := by
    have parts := List.takeWhile_append_dropWhile (p := Char.isDigit) (l := digits ++ rest)
    rw [taken] at parts
    exact List.append_cancel_left parts
  rw [scanDigits?, taken, left]
  cases digits with
  | nil => exact absurd rfl run.1
  | cons c digits => rfl

theorem scanWhole?_append (run : IsRun digits) (leading : digits.head? = some '0' → digits = ['0'])
    (ends : EndsDigits rest) : scanWhole? (digits ++ rest) = some (digits, rest) := by
  by_cases zero : digits.head? = some '0'
  · rw [leading zero]
    rfl
  · rw [← scanDigits?_append run ends, scanWhole?]
    intro tail eq
    obtain ⟨c, digits, rfl⟩ := List.exists_cons_of_ne_nil run.1
    exact zero (congrArg some (List.cons.inj eq).1)

theorem scanPower?_append {e : WrittenExponent} (run : IsRun e.digits) (ends : EndsDigits rest) :
    scanPower? ((if e.negative then '-' else '+') :: e.digits ++ rest) = some (e, rest) := by
  obtain ⟨negative, digits⟩ := e
  cases negative <;> simp [scanPower?, scanDigits?_append run ends]

/-- The exponent of a numeral, if it has one. -/
def exponentChars : Option WrittenExponent → List Char
  | some e => e.chars
  | none => []

def fractionChars (fraction : List Char) : List Char :=
  if fraction = [] then [] else '.' :: fraction

theorem chars_eq (n : Numeral) :
    n.chars = (if n.negative then ['-'] else []) ++
      (n.whole ++ (fractionChars n.fraction ++ exponentChars n.exponent)) := by
  obtain ⟨negative, whole, fraction, exponent⟩ := n
  cases exponent <;> simp [chars, fractionChars, exponentChars]

theorem Ends.endsDigits (ends : Ends rest) : EndsDigits rest :=
  fun c first => (ends c first).1

theorem scanExponent?_append {exponent : Option WrittenExponent}
    (run : ∀ e ∈ exponent, IsRun e.digits) (ends : Ends rest) :
    scanExponent? (exponentChars exponent ++ rest) = some (exponent, rest) := by
  cases exponent with
  | some e =>
    have read := scanPower?_append (run e rfl) ends.endsDigits
    simp only [exponentChars, WrittenExponent.chars, List.cons_append, scanExponent?] at read ⊢
    rw [read]
    rfl
  | none =>
    rw [exponentChars, List.nil_append, scanExponent?]
    · intro tail eq
      rw [eq] at ends
      exact (ends 'e' rfl).2.2.1 rfl
    · intro tail eq
      rw [eq] at ends
      exact (ends 'E' rfl).2.2.2 rfl

/-- An exponent has a letter before its digits. -/
theorem endsDigits_exponentChars_append (exponent : Option WrittenExponent) (ends : Ends rest) :
    EndsDigits (exponentChars exponent ++ rest) := by
  cases exponent with
  | some e =>
    rintro c ⟨rfl⟩
    rfl
  | none => exact ends.endsDigits

theorem scanFraction?_append {fraction : List Char} (isDigit : ∀ c ∈ fraction, c.isDigit = true)
    (exponent : Option WrittenExponent) (ends : Ends rest) :
    scanFraction? (fractionChars fraction ++ (exponentChars exponent ++ rest)) =
      some (fraction, exponentChars exponent ++ rest) := by
  rw [fractionChars]
  split
  case isTrue empty =>
    rw [empty, List.nil_append, scanFraction?]
    intro tail eq
    cases exponent with
    | some e => cases eq
    | none =>
      rw [exponentChars, List.nil_append] at eq
      rw [eq] at ends
      exact (ends '.' rfl).2.1 rfl
  case isFalse nonempty =>
    exact scanDigits?_append ⟨nonempty, isDigit⟩ (endsDigits_exponentChars_append exponent ends)

/-- A point or an exponent is not a digit. -/
theorem endsDigits_fractionChars_append (fraction : List Char)
    (exponent : Option WrittenExponent) (ends : Ends rest) :
    EndsDigits (fractionChars fraction ++ (exponentChars exponent ++ rest)) := by
  rw [fractionChars]
  split
  · exact endsDigits_exponentChars_append exponent ends
  · rintro c ⟨rfl⟩
    rfl

theorem scanUnsigned?_append {n : Numeral} (wellFormed : n.IsWellFormed) (ends : Ends rest) :
    scanUnsigned? n.negative
      (n.whole ++ (fractionChars n.fraction ++ (exponentChars n.exponent ++ rest))) =
        some (n, rest) := by
  rw [scanUnsigned?, scanWhole?_append wellFormed.whole wellFormed.leading
    (endsDigits_fractionChars_append n.fraction n.exponent ends)]
  simp only [Option.bind_eq_bind, Option.bind_some, Option.pure_def]
  rw [scanFraction?_append wellFormed.fraction n.exponent ends, Option.bind_some,
    scanExponent?_append wellFormed.exponent ends, Option.bind_some]

/-- A well-formed numeral is read as it was written. -/
theorem scan?_chars_append {n : Numeral} (wellFormed : n.IsWellFormed) (ends : Ends rest) :
    scan? (n.chars ++ rest) = some (n, rest) := by
  have read := scanUnsigned?_append wellFormed ends
  rw [chars_eq, List.append_assoc, List.append_assoc, List.append_assoc]
  cases negative : n.negative with
  | true =>
    rw [negative] at read
    exact read
  | false =>
    rw [negative] at read
    rw [if_neg Bool.false_ne_true, List.nil_append, ← read, scan?]
    intro tail eq
    obtain ⟨c, digits, whole⟩ := List.exists_cons_of_ne_nil wellFormed.whole.1
    have digit := wellFormed.whole.2 c (by rw [whole]; exact List.mem_cons_self)
    rw [whole] at eq
    rw [(List.cons.inj eq).1] at digit
    cases digit

/-! ### The numerals of numbers -/

theorem isWellFormed_ofInt (i : Int) : (ofInt i).IsWellFormed where
  whole := isRun_toDigits i.natAbs
  leading zero := by
    show Nat.toDigits 10 i.natAbs = ['0']
    obtain absent | positive := Nat.eq_zero_or_pos i.natAbs
    · rw [absent]
      rfl
    · exact absurd zero (head?_toDigits_ne_zero positive)
  fraction := List.forall_mem_nil _
  exponent _ given := by cases given

end Numeral

namespace Decimal

open Numeral

/-- A decimal without leading zeros. -/
structure IsProper (d : Decimal) : Prop where
  run : IsRun d.digits
  leading : d.digits.head? = some '0' → d = ⟨['0'], 0⟩

theorem isProper_zero : IsProper ⟨['0'], 0⟩ where
  run := ⟨List.cons_ne_nil _ _, by simp⟩
  leading _ := rfl

theorem isProper_toDigits {n : Nat} (positive : 0 < n) (power : Int) :
    IsProper ⟨Nat.toDigits 10 n, power⟩ where
  run := isRun_toDigits n
  leading zero := absurd zero (head?_toDigits_ne_zero positive)

theorem isDigit_of_mem_zeros {count : Int} {c : Char} (member : c ∈ zeros count) :
    c.isDigit = true := by
  rw [List.eq_of_mem_replicate member]
  rfl

variable {d : Decimal}

theorem IsProper.isWellFormed_plain (proper : d.IsProper) (style : NumeralStyle) (negative : Bool) :
    (d.plain style negative).IsWellFormed := by
  obtain ⟨⟨nonempty, isDigit⟩, leading⟩ := proper
  by_cases whole : 0 ≤ d.power
  · rw [plain, if_pos whole]
    refine ⟨⟨List.append_ne_nil_of_left_ne_nil nonempty _, ?_⟩, ?_, ?_,
      fun _ given => by cases given⟩
    · intro c member
      rcases List.mem_append.mp member with member | member
      · exact isDigit c member
      · exact isDigit_of_mem_zeros member
    · intro zero
      rw [List.head?_append_of_ne_nil _ nonempty] at zero
      rw [leading zero]
      rfl
    · cases style.pointZero <;> simp
  by_cases part : 0 ≤ d.leading
  · have first : (d.leading + 1).toNat ≠ 0 := by omega
    rw [plain, if_neg whole, if_pos part]
    refine ⟨⟨?_, fun c member => isDigit c (List.mem_of_mem_take member)⟩, ?_,
      fun c member => isDigit c (List.mem_of_mem_drop member), fun _ given => by cases given⟩
    · simp [first, nonempty]
    · intro zero
      rw [List.head?_take, if_neg first] at zero
      rw [leading zero] at whole
      exact absurd (le_refl (0 : Int)) whole
  · rw [plain, if_neg whole, if_neg part]
    refine ⟨⟨List.cons_ne_nil _ _, by simp⟩, fun _ => rfl, ?_, fun _ given => by cases given⟩
    intro c member
    rcases List.mem_append.mp member with member | member
    · exact isDigit_of_mem_zeros member
    · exact isDigit c member

theorem IsProper.isWellFormed_scientific (proper : d.IsProper) (negative : Bool) :
    (d.scientific negative).IsWellFormed := by
  obtain ⟨⟨nonempty, isDigit⟩, leading⟩ := proper
  refine ⟨⟨?_, ?_⟩, ?_, ?_, ?_⟩
  · simp [scientific, nonempty]
  · exact fun c member => isDigit c (List.mem_of_mem_take member)
  · intro zero
    rw [scientific, List.head?_take, if_neg one_ne_zero] at zero
    rw [leading zero]
    rfl
  · exact fun c member => isDigit c (List.mem_of_mem_drop member)
  · rintro e ⟨rfl⟩
    exact isRun_toDigits d.leading.natAbs

theorem IsProper.isWellFormed_numeral (proper : d.IsProper) (style : NumeralStyle)
    (negative : Bool) : (d.numeral style negative).IsWellFormed := by
  rw [numeral]
  split
  · exact proper.isWellFormed_plain style negative
  · exact proper.isWellFormed_scientific negative

end Decimal

namespace Cell

/-- Zero is in no cell of a positive number. -/
theorem pos_of_onGrid? {tie : Tie} {cell : Cell} {grid : Int} {n : Nat} (positive : 0 < cell.low)
    (found : cell.onGrid? tie grid = some n) : 0 < n := by
  have scalePos : 0 < Nat.pow 2 cell.power.toNat * Nat.pow 10 (-grid).toNat :=
    Nat.mul_pos (Nat.pow_pos (by omega)) (Nat.pow_pos (by omega))
  have low := Nat.mul_pos positive scalePos
  rw [Nat.pos_iff_ne_zero]
  rintro rfl
  simp only [onGrid?] at found
  generalize Nat.pow 2 cell.power.toNat * Nat.pow 10 (-grid).toNat = scale at low found
  generalize cell.centre * scale / _ = below at found
  cases below with
  | zero =>
    -- The neighbour below is zero and not in the cell, the one above is one.
    simp only [Nat.zero_mul, Nat.le_zero, low.ne', Nat.not_lt_zero, false_and, decide_false,
      ite_self, Bool.false_eq_true, if_false] at found
    split_ifs at found <;> cases found
  | succ below => cases tie <;> split_ifs at found <;> cases found

theorem low_ofParts_pos {parts : BinaryParts} (positive : parts.significand ≠ 0) :
    0 < (ofParts parts).low := by
  simp only [ofParts]
  split <;> omega

theorem isProper_shortest (tie : Tie) {cell : Cell} (positive : 0 < cell.low) :
    (cell.shortest tie).IsProper := by
  simp only [shortest]
  cases hit : (List.range 24).findSome? _ with
  | none => exact Decimal.isProper_zero
  | some d =>
    obtain ⟨finer, -, found⟩ := List.exists_of_findSome?_eq_some hit
    obtain ⟨n, onGrid, rfl⟩ := Option.map_eq_some_iff.mp found
    exact Decimal.isProper_toDigits (pos_of_onGrid? positive onGrid) _

end Cell

theorem Decimal.isProper_ofFloat (tie : Tie) (x : Float) : (Decimal.ofFloat tie x).IsProper := by
  simp only [ofFloat]
  split
  · exact isProper_zero
  case isFalse positive => exact Cell.isProper_shortest tie (Cell.low_ofParts_pos positive)

theorem Numeral.isWellFormed_ofFloat (tie : Tie) (style : NumeralStyle) (x : Float) :
    (Numeral.ofFloat tie style x).IsWellFormed :=
  (Decimal.isProper_ofFloat tie x).isWellFormed_numeral style _

end TransitDiagram
