import TransitDiagram.Decimal.Shortest
import TransitDiagram.Json.Basic
import TransitDiagram.Json.Token

/-!
# Writing JSON

A value is written in one line (`Json.compact`), or with one member or item to a line, indented by
two blanks for every container (`Json.pretty`).
-/

namespace TransitDiagram

namespace Json

/-- Numbers are written plainly from a hundred-thousandth up to ten quadrillions, whole ones with
a zero after the point. -/
def numberStyle : NumeralStyle :=
  ⟨fun exponent => decide (-5 ≤ exponent ∧ exponent < 16), true⟩

/-- The token of a double; what is not finite has none of its own. -/
def tokenOfReal (x : Float) : Token :=
  if x.isFinite then .numeral (.ofFloat .even numberStyle x) else .null

mutual

def tokens : Json → List Token
  | null => [.null]
  | boolean b => [.boolean b]
  | integer n => [.numeral (.ofInt n)]
  | real x => [tokenOfReal x]
  | text s => [.text (some s)]
  | array items => .openBracket :: itemTokens items ++ [.closeBracket]
  | object members => .openBrace :: memberTokens members ++ [.closeBrace]
  | unreadable => [.null]

/-- The tokens of items, with commas between them. -/
def itemTokens : List Json → List Token
  | [] => []
  | [item] => item.tokens
  | item :: rest => item.tokens ++ .comma :: itemTokens rest

/-- The tokens of members, with commas between them. -/
def memberTokens : List (String × Json) → List Token
  | [] => []
  | [(name, value)] => .text (some name) :: .colon :: value.tokens
  | (name, value) :: rest =>
    .text (some name) :: .colon :: value.tokens ++ .comma :: memberTokens rest

end

def compact (value : Json) : List Char :=
  value.tokens.flatMap Token.chars

def newLine (depth : Nat) : List Char :=
  '\n' :: List.replicate (2 * depth) ' '

mutual

/-- The value over several lines, within so many containers. An empty container stays in one
line. -/
def prettyAt (depth : Nat) : Json → List Char
  | array [] => ['[', ']']
  | array items => '[' :: prettyItems (depth + 1) items ++ newLine depth ++ [']']
  | object [] => ['{', '}']
  | object members => '{' :: prettyMembers (depth + 1) members ++ newLine depth ++ ['}']
  | null => Token.null.chars
  | boolean b => (Token.boolean b).chars
  | integer n => (Token.numeral (.ofInt n)).chars
  | real x => (tokenOfReal x).chars
  | text s => Token.quoted s.toList
  | unreadable => Token.null.chars

def prettyItems (depth : Nat) : List Json → List Char
  | [] => []
  | [item] => newLine depth ++ item.prettyAt depth
  | item :: rest => newLine depth ++ item.prettyAt depth ++ ',' :: prettyItems depth rest

def prettyMembers (depth : Nat) : List (String × Json) → List Char
  | [] => []
  | [(name, value)] =>
    newLine depth ++ Token.quoted name.toList ++ [':', ' '] ++ value.prettyAt depth
  | (name, value) :: rest =>
    newLine depth ++ Token.quoted name.toList ++ [':', ' '] ++ value.prettyAt depth ++
      ',' :: prettyMembers depth rest

end

def pretty (value : Json) : List Char :=
  value.prettyAt 0

end Json

end TransitDiagram
