import TransitDiagram.Decimal.Reading
import TransitDiagram.Json.Basic
import TransitDiagram.Json.Token

/-!
# Reading JSON

A document is read token by token. Between two tokens the reader stands in a `State`: a value is
due, or a name, or a value has just been read; the containers that are still open are its
`Context`.
-/

namespace TransitDiagram

namespace Json

def ofNumeral (n : Numeral) : Json :=
  match n.number? with
  | some (.integer i) => integer i
  | some (.real x) => real x
  | none => unreadable

def ofLiteral : Option String → Json
  | some s => text s
  | none => unreadable

/-- Containers within this many others cannot be read. -/
def deepest : Nat := 127

def atDepth (depth : Nat) (value : Json) : Json :=
  if depth < deepest then value else unreadable

/-- The object of members, last first, if all of their names can be read. -/
def ofMembers (reversed : List (Option String × Json)) : Json :=
  match reversed.reverse.mapM fun (name, value) => name.map (·, value) with
  | some members => object members
  | none => unreadable

end Json

/-- Where the reader stands within the containers that are open. -/
inductive JsonContext where
  | top
  /-- In an array, after some items, last first. -/
  | item (before : List Json) (outer : JsonContext)
  /-- In an object, after some members, last first, at the value of a name. -/
  | member (before : List (Option String × Json)) (name : Option String) (outer : JsonContext)

def JsonContext.depth : JsonContext → Nat
  | top => 0
  | item _ outer => outer.depth + 1
  | member _ _ outer => outer.depth + 1

/-- What the reader expects next. -/
inductive JsonState where
  | value (context : JsonContext)
  /-- After an opening bracket. -/
  | itemOrEnd (outer : JsonContext)
  /-- After an opening brace. -/
  | nameOrEnd (outer : JsonContext)
  /-- After a comma in an object. -/
  | name (before : List (Option String × Json)) (outer : JsonContext)
  /-- After a name. -/
  | colon (before : List (Option String × Json)) (name : Option String) (outer : JsonContext)
  /-- After a value. -/
  | after (value : Json) (context : JsonContext)

namespace JsonState

/-- Reads a token where a value is due. -/
def beginValue (context : JsonContext) : Token → Option JsonState
  | .null => some (after .null context)
  | .boolean b => some (after (.boolean b) context)
  | .numeral n => some (after (.ofNumeral n) context)
  | .text s => some (after (.ofLiteral s) context)
  | .openBracket => some (itemOrEnd context)
  | .openBrace => some (nameOrEnd context)
  | _ => none

def afterValue (value : Json) : JsonContext → Token → Option JsonState
  | .item before outer, .comma => some (.value (.item (value :: before) outer))
  | .item before outer, .closeBracket =>
    some (after (.atDepth outer.depth (.array (value :: before).reverse)) outer)
  | .member before key outer, .comma => some (.name ((key, value) :: before) outer)
  | .member before key outer, .closeBrace =>
    some (after (.atDepth outer.depth (.ofMembers ((key, value) :: before))) outer)
  | _, _ => none

def step : JsonState → Token → Option JsonState
  | value context, token => beginValue context token
  | itemOrEnd outer, .closeBracket => some (after (.atDepth outer.depth (.array [])) outer)
  | itemOrEnd outer, token => beginValue (.item [] outer) token
  | nameOrEnd outer, .closeBrace => some (after (.atDepth outer.depth (.object [])) outer)
  | nameOrEnd outer, .text key => some (colon [] key outer)
  | nameOrEnd _, _ => none
  | name before outer, .text key => some (colon before key outer)
  | name _ _, _ => none
  | colon before key outer, .colon => some (value (.member before key outer))
  | colon _ _ _, _ => none
  | after read context, token => afterValue read context token

/-- The value of a document that ends here. -/
def finish? : JsonState → Option Json
  | after read .top => some read
  | _ => none

/-- Reads tokens up to the end of the document. -/
def run? : JsonState → List Token → Option Json
  | state, [] => state.finish?
  | state, token :: rest => (state.step token).bind (run? · rest)

end JsonState

namespace Json

/-- The value that tokens stand for, if they make up one document. -/
def ofTokens? (tokens : List Token) : Option Json :=
  JsonState.run? (.value .top) tokens

def ofChars? (cs : List Char) : Option Json :=
  (Token.scan? cs).bind ofTokens?

def ofText? (s : String) : Option Json :=
  ofChars? s.toList

end Json

end TransitDiagram
