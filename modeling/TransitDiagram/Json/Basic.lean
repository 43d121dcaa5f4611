/-!
# JSON values

The tree of a JSON document. An object keeps its members in the order in which they stand. Numbers
are integers of at most 64 bits or doubles. `unreadable` stands for what is well formed but has no
value: a number beyond the largest double, a string with half of a surrogate pair, an object with
such a string as a name, or a container nested too deeply. It does no harm where nobody reads it.
-/

namespace TransitDiagram

inductive Json where
  | null
  | boolean (value : Bool)
  | integer (value : Int)
  | real (value : Float)
  | text (value : String)
  | array (items : List Json)
  | object (members : List (String × Json))
  | unreadable

namespace Json

mutual

def isReadable : Json → Bool
  | unreadable => false
  | array items => itemsReadable items
  | object members => membersReadable members
  | _ => true

/-- Nothing in the items is unreadable. -/
def itemsReadable : List Json → Bool
  | [] => true
  | item :: rest => item.isReadable && itemsReadable rest

/-- Nothing in the members is unreadable. -/
def membersReadable : List (String × Json) → Bool
  | [] => true
  | (_, value) :: rest => value.isReadable && membersReadable rest

end

/-- The values of the members with a name. -/
def valuesOf (name : String) (members : List (String × Json)) : List Json :=
  (members.filter fun member => member.1 = name).map (·.2)

end Json

end TransitDiagram
