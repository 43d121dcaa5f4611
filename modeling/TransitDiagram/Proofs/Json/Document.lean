import TransitDiagram.Json.Reader
import TransitDiagram.Proofs.Json.Spelling

/-!
# Documents

Reading the tokens of a value gives that value back, except for a number that its numeral does not
restore and for what is nested too deeply (`Json.ofTokens?_tokens`, `Json.readBack_eq`).
-/

namespace TransitDiagram

namespace Json

mutual

/-- What is read where the value is written, within so many containers. -/
def readBack (depth : Nat) : Json → Json
  | null => null
  | boolean b => boolean b
  | integer n => ofNumeral (.ofInt n)
  | real x => if x.isFinite then ofNumeral (.ofFloat .even numberStyle x) else null
  | text s => text s
  | array items => atDepth depth (array (itemsReadBack (depth + 1) items))
  | object members => atDepth depth (object (membersReadBack (depth + 1) members))
  | unreadable => null

def itemsReadBack (depth : Nat) : List Json → List Json
  | [] => []
  | item :: rest => item.readBack depth :: itemsReadBack depth rest

def membersReadBack (depth : Nat) : List (String × Json) → List (String × Json)
  | [] => []
  | (name, value) :: rest => (name, value.readBack depth) :: membersReadBack depth rest

end

/-- Members as they are read, with names that might not be text. -/
def named (members : List (String × Json)) : List (Option String × Json) :=
  members.map fun member => (some member.1, member.2)

theorem reverse_named_append_singleton (members : List (String × Json)) (key : String) (v : Json) :
    (named (members ++ [(key, v)])).reverse = (some key, v) :: (named members).reverse := by
  rw [named, List.map_append, List.reverse_append]
  rfl

theorem mapM_named {f : Option String × Json → Option (String × Json)}
    (unnames : ∀ key v, f (some key, v) = some (key, v)) (members : List (String × Json)) :
    (named members).mapM f = some members := by
  induction members with
  | nil => rfl
  | cons member rest ih =>
    rw [named, List.map_cons, List.mapM_cons, ← named, ih, unnames]
    rfl

theorem ofMembers_reverse_named (members : List (String × Json)) :
    ofMembers (named members).reverse = object members := by
  rw [ofMembers, List.reverse_reverse, mapM_named fun _ _ => rfl]

end Json

/-! ### The reader on the tokens of a value -/

namespace JsonState

open Json

section Steps

variable (v : Json) (key : String) (outer : JsonContext) (rest : List Token)

theorem run?_closeBracket (before : List Json) :
    (after v (.item before outer)).run? (.closeBracket :: rest) =
      (after (.atDepth outer.depth (.array (v :: before).reverse)) outer).run? rest :=
  rfl

theorem run?_closeBrace (before : List (Option String × Json)) :
    (after v (.member before (some key) outer)).run? (.closeBrace :: rest) =
      (after (.atDepth outer.depth (.ofMembers ((some key, v) :: before))) outer).run? rest :=
  rfl

theorem run?_name (before : List (Option String × Json)) :
    (name before outer).run? (.text (some key) :: .colon :: rest) =
      (value (.member before (some key) outer)).run? rest :=
  rfl

/-- A value does not begin with a closing bracket. -/
theorem run?_itemOrEnd_tokens :
    (itemOrEnd outer).run? (v.tokens ++ rest) =
      (value (.item [] outer)).run? (v.tokens ++ rest) := by
  cases v with
  | real x =>
    rw [tokens, tokenOfReal]
    split <;> rfl
  | _ => rfl

theorem run?_itemOrEnd_itemTokens (items : List Json) :
    (itemOrEnd outer).run? (itemTokens (v :: items) ++ rest) =
      (value (.item [] outer)).run? (itemTokens (v :: items) ++ rest) := by
  cases items with
  | nil => exact run?_itemOrEnd_tokens v outer rest
  | cons next items =>
    rw [itemTokens, List.append_assoc]
    · exact run?_itemOrEnd_tokens v outer _
    · exact List.cons_ne_nil _ _

theorem run?_nameOrEnd_memberTokens (member : String × Json) (members : List (String × Json)) :
    (nameOrEnd outer).run? (memberTokens (member :: members) ++ rest) =
      (name [] outer).run? (memberTokens (member :: members) ++ rest) := by
  cases members <;> rfl

end Steps

mutual

theorem run?_tokens : ∀ (v : Json) (context : JsonContext) (rest : List Token),
    (value context).run? (v.tokens ++ rest) =
      (after (v.readBack context.depth) context).run? rest
  | null, _, _ => rfl
  | boolean _, _, _ => rfl
  | integer _, _, _ => rfl
  | text _, _, _ => rfl
  | unreadable, _, _ => rfl
  | real x, context, rest => by
    rw [tokens, tokenOfReal, readBack]
    split <;> rfl
  | array [], _, _ => rfl
  | array (item :: items), context, rest => by
    have read := run?_itemTokens (item :: items) (List.cons_ne_nil _ _) [] context rest
    rw [List.reverse_nil, ← run?_itemOrEnd_itemTokens] at read
    rw [tokens, List.cons_append, List.cons_append, List.append_assoc, run?]
    exact read
  | object [], _, _ => rfl
  | object (member :: members), context, rest => by
    have read := run?_memberTokens (member :: members) (List.cons_ne_nil _ _) [] context rest
    rw [named, List.map_nil, List.reverse_nil, ← run?_nameOrEnd_memberTokens] at read
    rw [tokens, List.cons_append, List.cons_append, List.append_assoc, run?]
    exact read

theorem run?_itemTokens :
    ∀ items : List Json, items ≠ [] → ∀ (before : List Json) (outer : JsonContext)
      (rest : List Token),
      (value (.item before.reverse outer)).run? (itemTokens items ++ .closeBracket :: rest) =
        (after (.atDepth outer.depth
          (.array (before ++ itemsReadBack (outer.depth + 1) items))) outer).run? rest
  | [], nonempty, _, _, _ => absurd rfl nonempty
  | [item], _, before, outer, rest => by
    rw [itemTokens, run?_tokens, run?_closeBracket, List.reverse_cons, List.reverse_reverse]
    rfl
  | item :: next :: items, _, before, outer, rest => by
    have read := run?_itemTokens (next :: items) (List.cons_ne_nil _ _)
      (before ++ [item.readBack (outer.depth + 1)]) outer rest
    rw [List.reverse_append, List.append_assoc] at read
    rw [itemTokens, List.append_assoc, run?_tokens, itemsReadBack]
    · exact read
    · exact List.cons_ne_nil _ _

theorem run?_memberTokens :
    ∀ members : List (String × Json), members ≠ [] → ∀ (before : List (String × Json))
      (outer : JsonContext) (rest : List Token),
      (name (named before).reverse outer).run? (memberTokens members ++ .closeBrace :: rest) =
        (after (.atDepth outer.depth
          (.object (before ++ membersReadBack (outer.depth + 1) members))) outer).run? rest
  | [], nonempty, _, _, _ => absurd rfl nonempty
  | [(key, v)], _, before, outer, rest => by
    rw [memberTokens, List.cons_append, List.cons_append, run?_name, run?_tokens, run?_closeBrace,
      ← reverse_named_append_singleton, ofMembers_reverse_named]
    rfl
  | (key, v) :: next :: members, _, before, outer, rest => by
    have read := run?_memberTokens (next :: members) (List.cons_ne_nil _ _)
      (before ++ [(key, v.readBack (outer.depth + 1))]) outer rest
    rw [reverse_named_append_singleton, List.append_assoc] at read
    rw [memberTokens, List.cons_append, List.cons_append, List.cons_append, List.cons_append,
      List.append_assoc, run?_name, run?_tokens, membersReadBack]
    · exact read
    · exact List.cons_ne_nil _ _

end

end JsonState

namespace Json

theorem ofTokens?_tokens (v : Json) : ofTokens? v.tokens = some (v.readBack 0) := by
  have read := JsonState.run?_tokens v .top []
  rw [List.append_nil] at read
  exact read

theorem ofChars?_of_spells {cs : List Char} {v : Json} (spells : Spells cs v.tokens) :
    ofChars? cs = some (v.readBack 0) := by
  rw [ofChars?, spells.scan?_eq, Option.bind_some, ofTokens?_tokens]

/-! ### Numbers that are restored -/

end Json

/-- The numeral of the number is read as that number. -/
def Number.IsRestored : Number → Prop
  | integer n => (Numeral.ofInt n).number? = some (integer n)
  | real x =>
    x.isFinite = true ∧ (Numeral.ofFloat .even Json.numberStyle x).number? = some (real x)

deriving instance DecidableEq for Number

instance (n : Number) : Decidable n.IsRestored :=
  match n with
  | .integer _ => inferInstanceAs (Decidable (_ = _))
  | .real _ => inferInstanceAs (Decidable (_ ∧ _))

namespace Json

mutual

/-- The numbers in a value. -/
def numbers : Json → List Number
  | integer n => [.integer n]
  | real x => [.real x]
  | array items => itemNumbers items
  | object members => memberNumbers members
  | _ => []

def itemNumbers : List Json → List Number
  | [] => []
  | item :: rest => item.numbers ++ itemNumbers rest

def memberNumbers : List (String × Json) → List Number
  | [] => []
  | (_, value) :: rest => value.numbers ++ memberNumbers rest

end

mutual

/-- How many containers are within each other in a value, at most. -/
def nesting : Json → Nat
  | array items => itemsNesting items + 1
  | object members => membersNesting members + 1
  | _ => 0

def itemsNesting : List Json → Nat
  | [] => 0
  | item :: rest => max item.nesting (itemsNesting rest)

def membersNesting : List (String × Json) → Nat
  | [] => 0
  | (_, value) :: rest => max value.nesting (membersNesting rest)

end

mutual

theorem readBack_eq : ∀ (v : Json) (depth : Nat), v.isReadable = true →
    depth + v.nesting ≤ deepest → (∀ n ∈ v.numbers, n.IsRestored) → v.readBack depth = v
  | null, _, _, _, _ => rfl
  | boolean _, _, _, _, _ => rfl
  | text _, _, _, _, _ => rfl
  | unreadable, _, readable, _, _ => by cases readable
  | integer n, _, _, _, restored => by
    have here : (Numeral.ofInt n).number? = some (.integer n) :=
      restored _ (List.mem_singleton_self _)
    rw [readBack, ofNumeral, here]
  | real x, _, _, _, restored => by
    obtain ⟨finite, here⟩ : x.isFinite = true ∧ _ := restored (.real x) (List.mem_singleton_self _)
    rw [readBack, if_pos finite, ofNumeral, here]
  | array items, depth, readable, shallow, restored => by
    rw [isReadable] at readable
    rw [nesting] at shallow
    rw [numbers] at restored
    rw [readBack, itemsReadBack_eq items (depth + 1) readable (by omega) restored, atDepth,
      if_pos (by omega)]
  | object members, depth, readable, shallow, restored => by
    rw [isReadable] at readable
    rw [nesting] at shallow
    rw [numbers] at restored
    rw [readBack, membersReadBack_eq members (depth + 1) readable (by omega) restored, atDepth,
      if_pos (by omega)]

theorem itemsReadBack_eq : ∀ (items : List Json) (depth : Nat), itemsReadable items = true →
    depth + itemsNesting items ≤ deepest → (∀ n ∈ itemNumbers items, n.IsRestored) →
    itemsReadBack depth items = items
  | [], _, _, _, _ => rfl
  | item :: rest, depth, readable, shallow, restored => by
    rw [itemsReadable, Bool.and_eq_true] at readable
    rw [itemsNesting] at shallow
    rw [itemNumbers, List.forall_mem_append] at restored
    rw [itemsReadBack, item.readBack_eq depth readable.1 (by omega) restored.1,
      itemsReadBack_eq rest depth readable.2 (by omega) restored.2]

theorem membersReadBack_eq : ∀ (members : List (String × Json)) (depth : Nat),
    membersReadable members = true → depth + membersNesting members ≤ deepest →
    (∀ n ∈ memberNumbers members, n.IsRestored) → membersReadBack depth members = members
  | [], _, _, _, _ => rfl
  | (name, value) :: rest, depth, readable, shallow, restored => by
    rw [membersReadable, Bool.and_eq_true] at readable
    rw [membersNesting] at shallow
    rw [memberNumbers, List.forall_mem_append] at restored
    rw [membersReadBack, value.readBack_eq depth readable.1 (by omega) restored.1,
      membersReadBack_eq rest depth readable.2 (by omega) restored.2]

end

end Json

end TransitDiagram
