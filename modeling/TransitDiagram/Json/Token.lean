import TransitDiagram.Decimal.Numeral

/-!
# JSON tokens

The text of a JSON document is a sequence of tokens with blanks between them. `Token.scan?` cuts a
text into tokens and `Token.chars` spells a token.
-/

namespace TransitDiagram

inductive Token where
  | openBrace
  | closeBrace
  | openBracket
  | closeBracket
  | comma
  | colon
  | null
  | boolean (value : Bool)
  | numeral (value : Numeral)
  /-- A string, if its escapes stand for characters. -/
  | text (value : Option String)
  deriving DecidableEq

/-- What a string literal is made of: characters, and escaped units of sixteen bits, of which two
can make up one character. -/
inductive TextPiece where
  | char (value : Char)
  | unit (value : Nat)
  deriving DecidableEq

namespace TextPiece

def hexDigit? (c : Char) : Option Nat :=
  if '0' ≤ c ∧ c ≤ '9' then some (c.toNat - '0'.toNat)
  else if 'a' ≤ c ∧ c ≤ 'f' then some (c.toNat - 'a'.toNat + 10)
  else if 'A' ≤ c ∧ c ≤ 'F' then some (c.toNat - 'A'.toNat + 10)
  else none

def unit? (a b c d : Char) : Option Nat := do
  pure ((((← hexDigit? a) * 16 + (← hexDigit? b)) * 16 + (← hexDigit? c)) * 16 + (← hexDigit? d))

/-- The character of an escape by one letter. -/
def escaped? : Char → Option Char
  | '"' => some '"'
  | '\\' => some '\\'
  | '/' => some '/'
  | 'b' => some '\x08'
  | 'f' => some '\x0c'
  | 'n' => some '\n'
  | 'r' => some '\r'
  | 't' => some '\t'
  | _ => none

/-- The pieces of a string literal after its opening quote, and what follows the literal. -/
def scan? : List Char → Option (List TextPiece × List Char)
  | [] => none
  | '"' :: rest => some ([], rest)
  | '\\' :: 'u' :: a :: b :: c :: d :: rest => do
    let value ← unit? a b c d
    let (pieces, rest) ← scan? rest
    pure (unit value :: pieces, rest)
  | ['\\'] => none
  | '\\' :: c :: rest => do
    let value ← escaped? c
    let (pieces, rest) ← scan? rest
    pure (char value :: pieces, rest)
  | c :: rest =>
    if c.toNat < 32 then none
    else do
      let (pieces, rest) ← scan? rest
      pure (char c :: pieces, rest)

/-- A string literal takes at least its closing quote. -/
theorem length_lt_of_scan? {cs rest : List Char} {pieces : List TextPiece}
    (h : scan? cs = some (pieces, rest)) : rest.length < cs.length := by
  fun_induction scan? cs generalizing pieces with
  | case1 => simp at h
  | case2 r => simp_all
  | case3 a b c d r ih =>
    simp only [Option.bind_eq_bind, Option.bind_eq_some_iff, Option.pure_def, Option.some.injEq,
      Prod.mk.injEq, Prod.exists] at h
    obtain ⟨_, _, _, _, hr, _, rfl⟩ := h
    have := ih hr
    simp only [List.length_cons]
    omega
  | case4 => simp at h
  | case5 c r _ ih =>
    simp only [Option.bind_eq_bind, Option.bind_eq_some_iff, Option.pure_def, Option.some.injEq,
      Prod.mk.injEq, Prod.exists] at h
    obtain ⟨_, _, _, _, hr, _, rfl⟩ := h
    have := ih hr
    simp only [List.length_cons]
    omega
  | case6 => simp at h
  | case7 c r _ _ _ _ _ ih =>
    simp only [Option.bind_eq_bind, Option.bind_eq_some_iff, Option.pure_def, Option.some.injEq,
      Prod.mk.injEq, Prod.exists] at h
    obtain ⟨_, _, hr, _, rfl⟩ := h
    have := ih hr
    simp only [List.length_cons]
    omega

def isHigh (u : Nat) : Bool :=
  decide (0xD800 ≤ u ∧ u ≤ 0xDBFF)

def isLow (u : Nat) : Bool :=
  decide (0xDC00 ≤ u ∧ u ≤ 0xDFFF)

def ofPair (high low : Nat) : Char :=
  Char.ofNat (0x10000 + (high - 0xD800) * 0x400 + (low - 0xDC00))

/-- The characters of pieces, if every unit of a pair has its partner. `pending` is the first unit
of a pair that has begun. -/
def chars? (pending : Option Nat) : List TextPiece → Option (List Char)
  | [] =>
    match pending with
    | none => some []
    | some _ => none
  | char c :: rest =>
    match pending with
    | none => (chars? none rest).map (c :: ·)
    | some _ => none
  | unit u :: rest =>
    match pending with
    | none =>
      if isHigh u then chars? (some u) rest
      else if isLow u then none
      else (chars? none rest).map (Char.ofNat u :: ·)
    | some high =>
      if isLow u then (chars? none rest).map (ofPair high u :: ·) else none

/-- The hexadecimal digits of a small number, two of them. -/
def twoHexDigits (n : Nat) : List Char :=
  [Nat.digitChar (n / 16), Nat.digitChar (n % 16)]

/-- How a character is written in a string literal: quotes, backslashes and control characters are
escaped, all else stands as it is. -/
def spell (c : Char) : List Char :=
  if c = '"' then ['\\', '"']
  else if c = '\\' then ['\\', '\\']
  else if c = '\x08' then ['\\', 'b']
  else if c = '\t' then ['\\', 't']
  else if c = '\n' then ['\\', 'n']
  else if c = '\x0c' then ['\\', 'f']
  else if c = '\r' then ['\\', 'r']
  else if c.toNat < 32 then ['\\', 'u', '0', '0'] ++ twoHexDigits c.toNat
  else [c]

end TextPiece

namespace Numeral

/-- The digits at the head of a text, at least one, and what follows them. -/
def scanDigits? (cs : List Char) : Option (List Char × List Char) :=
  match cs.takeWhile Char.isDigit with
  | [] => none
  | digits => some (digits, cs.dropWhile Char.isDigit)

/-- At least one digit is taken. -/
theorem length_lt_of_scanDigits? {cs digits rest : List Char}
    (h : scanDigits? cs = some (digits, rest)) : rest.length < cs.length := by
  have total := congrArg List.length (List.takeWhile_append_dropWhile (p := Char.isDigit) (l := cs))
  rw [List.length_append] at total
  unfold scanDigits? at h
  split at h
  · simp at h
  · rename_i taken nonempty
    have positive : 0 < (cs.takeWhile Char.isDigit).length :=
      List.length_pos_iff.2 fun empty => nonempty empty
    simp only [Option.some.injEq, Prod.mk.injEq] at h
    rw [← h.2]
    omega

/-- The digits before the point: a zero, or digits that do not begin with one. -/
def scanWhole? : List Char → Option (List Char × List Char)
  | '0' :: rest => some (['0'], rest)
  | cs => scanDigits? cs

theorem length_lt_of_scanWhole? {cs digits rest : List Char}
    (h : scanWhole? cs = some (digits, rest)) : rest.length < cs.length := by
  unfold scanWhole? at h
  split at h
  · simp only [Option.some.injEq, Prod.mk.injEq] at h
    simp [← h.2]
  · exact length_lt_of_scanDigits? h

/-- The point and the digits after it, if there is a point. -/
def scanFraction? : List Char → Option (List Char × List Char)
  | '.' :: rest => scanDigits? rest
  | cs => some ([], cs)

theorem length_le_of_scanFraction? {cs digits rest : List Char}
    (h : scanFraction? cs = some (digits, rest)) : rest.length ≤ cs.length := by
  unfold scanFraction? at h
  split at h
  · have := length_lt_of_scanDigits? h
    simp only [List.length_cons]
    omega
  · simp only [Option.some.injEq, Prod.mk.injEq] at h
    simp [← h.2]

/-- The sign and the digits of an exponent. -/
def scanPower? : List Char → Option (WrittenExponent × List Char)
  | '+' :: rest => (scanDigits? rest).map fun (digits, rest) => (⟨false, digits⟩, rest)
  | '-' :: rest => (scanDigits? rest).map fun (digits, rest) => (⟨true, digits⟩, rest)
  | cs => (scanDigits? cs).map fun (digits, rest) => (⟨false, digits⟩, rest)

theorem length_lt_of_scanPower? {cs rest : List Char} {e : WrittenExponent}
    (h : scanPower? cs = some (e, rest)) : rest.length < cs.length := by
  unfold scanPower? at h
  split at h <;>
    obtain ⟨⟨_, _⟩, hd, he⟩ := Option.map_eq_some_iff.1 h <;>
    have := length_lt_of_scanDigits? hd <;>
    simp only [Prod.mk.injEq] at he <;>
    simp only [List.length_cons, ← he.2] <;>
    omega

def scanExponent? : List Char → Option (Option WrittenExponent × List Char)
  | 'e' :: rest => (scanPower? rest).map fun (e, rest) => (some e, rest)
  | 'E' :: rest => (scanPower? rest).map fun (e, rest) => (some e, rest)
  | cs => some (none, cs)

theorem length_le_of_scanExponent? {cs rest : List Char} {e : Option WrittenExponent}
    (h : scanExponent? cs = some (e, rest)) : rest.length ≤ cs.length := by
  unfold scanExponent? at h
  split at h
  · obtain ⟨⟨_, _⟩, hp, he⟩ := Option.map_eq_some_iff.1 h
    have := length_lt_of_scanPower? hp
    simp only [Prod.mk.injEq] at he
    simp only [List.length_cons, ← he.2]
    omega
  · obtain ⟨⟨_, _⟩, hp, he⟩ := Option.map_eq_some_iff.1 h
    have := length_lt_of_scanPower? hp
    simp only [Prod.mk.injEq] at he
    simp only [List.length_cons, ← he.2]
    omega
  · simp only [Option.some.injEq, Prod.mk.injEq] at h
    simp [← h.2]

/-- The numeral at the head of a text, after its sign. -/
def scanUnsigned? (negative : Bool) (cs : List Char) : Option (Numeral × List Char) := do
  let (whole, rest) ← scanWhole? cs
  let (fraction, rest) ← scanFraction? rest
  let (exponent, rest) ← scanExponent? rest
  pure (⟨negative, whole, fraction, exponent⟩, rest)

theorem length_lt_of_scanUnsigned? {negative : Bool} {cs rest : List Char} {n : Numeral}
    (h : scanUnsigned? negative cs = some (n, rest)) : rest.length < cs.length := by
  simp only [scanUnsigned?, Option.bind_eq_bind, Option.bind_eq_some_iff, Option.pure_def,
    Option.some.injEq, Prod.mk.injEq, Prod.exists] at h
  obtain ⟨_, _, hw, _, _, hf, _, _, he, _, rfl⟩ := h
  have := length_lt_of_scanWhole? hw
  have := length_le_of_scanFraction? hf
  have := length_le_of_scanExponent? he
  omega

/-- The numeral at the head of a text, and what follows it. -/
def scan? : List Char → Option (Numeral × List Char)
  | '-' :: rest => scanUnsigned? true rest
  | cs => scanUnsigned? false cs

/-- A numeral takes at least one character. -/
theorem length_lt_of_scan? {cs rest : List Char} {n : Numeral}
    (h : scan? cs = some (n, rest)) : rest.length < cs.length := by
  unfold scan? at h
  split at h
  · have := length_lt_of_scanUnsigned? h
    simp only [List.length_cons]
    omega
  · exact length_lt_of_scanUnsigned? h

end Numeral

namespace Token

/-- The characters that may stand between tokens. -/
def isBlank (c : Char) : Bool :=
  c = ' ' || c = '\n' || c = '\r' || c = '\t'

def scanText? (cs : List Char) : Option (Token × List Char) :=
  (TextPiece.scan? cs).map fun (pieces, rest) =>
    (text ((TextPiece.chars? none pieces).map String.ofList), rest)

/-- The token at the head of a text that does not begin with a blank, and what follows it. -/
def first? : List Char → Option (Token × List Char)
  | '{' :: rest => some (openBrace, rest)
  | '}' :: rest => some (closeBrace, rest)
  | '[' :: rest => some (openBracket, rest)
  | ']' :: rest => some (closeBracket, rest)
  | ',' :: rest => some (comma, rest)
  | ':' :: rest => some (colon, rest)
  | '"' :: rest => scanText? rest
  | 'n' :: 'u' :: 'l' :: 'l' :: rest => some (null, rest)
  | 't' :: 'r' :: 'u' :: 'e' :: rest => some (boolean true, rest)
  | 'f' :: 'a' :: 'l' :: 's' :: 'e' :: rest => some (boolean false, rest)
  | cs => (Numeral.scan? cs).map fun (n, rest) => (numeral n, rest)

/-- A token takes at least one character. -/
theorem length_lt_of_first? {cs rest : List Char} {token : Token}
    (h : first? cs = some (token, rest)) : rest.length < cs.length := by
  unfold first? at h
  split at h
  case h_7 =>
    obtain ⟨⟨_, _⟩, hs, he⟩ := Option.map_eq_some_iff.1 h
    have := TextPiece.length_lt_of_scan? hs
    simp only [Prod.mk.injEq] at he
    simp only [List.length_cons, ← he.2]
    omega
  case h_11 =>
    obtain ⟨⟨_, _⟩, hs, he⟩ := Option.map_eq_some_iff.1 h
    have := Numeral.length_lt_of_scan? hs
    simp only [Prod.mk.injEq] at he
    simp only [← he.2]
    omega
  all_goals
    simp only [Option.some.injEq, Prod.mk.injEq] at h
    simp only [List.length_cons, ← h.2]
    omega

/-- The tokens of a text, if it consists of tokens and blanks. -/
def scan? (cs : List Char) : Option (List Token) :=
  match cs with
  | [] => some []
  | c :: cs =>
    if isBlank c then scan? cs
    else
      match _h : first? (c :: cs) with
      | none => none
      | some (token, rest) => (scan? rest).map (token :: ·)
termination_by cs.length
decreasing_by
  · simp
  · exact length_lt_of_first? ‹_›

def quoted (s : List Char) : List Char :=
  '"' :: s.flatMap TextPiece.spell ++ ['"']

/-- The text of a token. A string without characters is written as an empty one. -/
def chars : Token → List Char
  | openBrace => ['{']
  | closeBrace => ['}']
  | openBracket => ['[']
  | closeBracket => [']']
  | comma => [',']
  | colon => [':']
  | null => "null".toList
  | boolean true => "true".toList
  | boolean false => "false".toList
  | numeral n => n.chars
  | text s => quoted (s.getD "").toList

end Token

end TransitDiagram
