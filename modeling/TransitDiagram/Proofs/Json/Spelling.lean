import Mathlib
import TransitDiagram.Json.Writer
import TransitDiagram.Proofs.Json.Numeral

/-!
# The tokens of a written text

A text that is written for a value is cut into the tokens of that value, in one line or over
several.
-/

namespace TransitDiagram

/-! ### String literals -/

namespace TextPiece

/-- The piece that a character is read as. Control characters without a letter of their own are
units. -/
def ofChar (c : Char) : TextPiece :=
  if c ∈ ['\x08', '\t', '\n', '\x0c', '\r'] then char c
  else if c.toNat < 32 then unit c.toNat
  else char c

theorem unit?_twoHexDigits : ∀ n < 32,
    unit? '0' '0' (Nat.digitChar (n / 16)) (Nat.digitChar (n % 16)) = some n := by
  decide

theorem scan?_escape {letter c : Char} (escape : escaped? letter = some c) (other : letter ≠ 'u')
    (rest : List Char) :
    scan? ('\\' :: letter :: rest) =
      (scan? rest).map fun (pieces, rest) => (char c :: pieces, rest) := by
  rw [scan?, escape]
  · cases scan? rest <;> rfl
  · intro a b c d tail eq
    exact absurd eq other
  
theorem scan?_spell_append (c : Char) (rest : List Char) :
    scan? (spell c ++ rest) =
      (scan? rest).map fun (pieces, rest) => (ofChar c :: pieces, rest) := by
  rw [spell]
  split_ifs with quote backslash back tab line page ret control
  iterate 7
    · subst_vars
      exact scan?_escape rfl (by decide) rest
  case pos =>
    have plain : ofChar c = unit c.toNat := by simp [ofChar, back, tab, line, page, ret, control]
    simp only [List.cons_append, List.nil_append, twoHexDigits, scan?,
      unit?_twoHexDigits c.toNat control, plain]
    cases scan? rest <;> rfl
  case neg =>
    have plain : ofChar c = char c := by simp [ofChar, control]
    rw [List.singleton_append, scan?, if_neg control, plain]
    · cases scan? rest <;> rfl
    all_goals simp_all

theorem scan?_flatMap_spell (s rest : List Char) :
    scan? (s.flatMap spell ++ '"' :: rest) = some (s.map ofChar, rest) := by
  induction s with
  | nil => rfl
  | cons c s ih =>
    rw [List.flatMap_cons, List.append_assoc, scan?_spell_append, ih]
    rfl

theorem chars?_map_ofChar (s : List Char) : chars? none (s.map ofChar) = some s := by
  induction s with
  | nil => rfl
  | cons c s ih =>
    rw [List.map_cons, ofChar]
    split_ifs with letter control
    · rw [chars?, ih]; rfl
    · -- No unit of a pair is this small.
      have single : isHigh c.toNat = false ∧ isLow c.toNat = false := by
        simp only [isHigh, isLow, decide_eq_false_iff_not]
        omega
      rw [chars?, single.1, single.2, ih, Char.ofNat_toNat]
      rfl
    · rw [chars?, ih]; rfl

end TextPiece

/-! ### Tokens -/

/-- A numeral begins with a sign or a digit. -/
theorem Numeral.IsWellFormed.exists_chars_eq_cons {n : Numeral} (wellFormed : n.IsWellFormed) :
    ∃ c cs, n.chars = c :: cs ∧ (c = '-' ∨ c.isDigit = true) := by
  rw [chars_eq]
  cases n.negative with
  | true => exact ⟨'-', _, rfl, .inl rfl⟩
  | false =>
    obtain ⟨c, digits, whole⟩ := List.exists_cons_of_ne_nil wellFormed.whole.1
    refine ⟨c, _, by rw [whole]; rfl, .inr ?_⟩
    exact wellFormed.whole.2 c (by rw [whole]; exact List.mem_cons_self)

namespace Token

/-- The token, written before such a text, is read as it was written. -/
def Precedes : Token → List Char → Prop
  | numeral n, rest => n.IsWellFormed ∧ Numeral.Ends rest
  | text s, _ => s.isSome = true
  | _, _ => True

variable {token : Token} {rest : List Char}

theorem first?_chars_append (precedes : token.Precedes rest) :
    first? (token.chars ++ rest) = some (token, rest) := by
  cases token with
  | numeral n =>
    obtain ⟨wellFormed, ends⟩ := precedes
    have read := Numeral.scan?_chars_append wellFormed ends
    obtain ⟨c, cs, begins, first⟩ := wellFormed.exists_chars_eq_cons
    rw [begins, List.cons_append] at read
    rw [chars, begins, List.cons_append, first?]
    · rw [read]
      rfl
    all_goals
      intros
      rename_i eq
      rw [(List.cons.inj eq).1] at first
      exact absurd first (by decide)
  | text s =>
    obtain ⟨s, rfl⟩ := Option.isSome_iff_exists.mp precedes
    simp only [chars, quoted, Option.getD_some, List.cons_append, List.append_assoc,
      List.nil_append, first?, scanText?, TextPiece.scan?_flatMap_spell, Option.map_some,
      TextPiece.chars?_map_ofChar, String.ofList_toList]
  | boolean b => cases b <;> rfl
  | _ => rfl

theorem exists_chars_eq_cons (precedes : token.Precedes rest) :
    ∃ c cs, token.chars = c :: cs ∧ isBlank c = false := by
  cases token with
  | numeral n =>
    obtain ⟨c, cs, begins, first⟩ := precedes.1.exists_chars_eq_cons
    refine ⟨c, cs, begins, ?_⟩
    cases blank : isBlank c with
    | false => rfl
    | true =>
      simp only [isBlank, Bool.or_eq_true, decide_eq_true_eq] at blank
      obtain ((rfl | rfl) | rfl) | rfl := blank <;> exact absurd first (by decide)
  | boolean b => cases b <;> exact ⟨_, _, rfl, rfl⟩
  | _ => exact ⟨_, _, rfl, rfl⟩

theorem scan?_blank {c : Char} (blank : isBlank c = true) : scan? (c :: rest) = scan? rest := by
  rw [scan?, if_pos blank]

theorem scan?_chars_append (precedes : token.Precedes rest) :
    scan? (token.chars ++ rest) = (scan? rest).map (token :: ·) := by
  have read := first?_chars_append precedes
  obtain ⟨c, cs, begins, visible⟩ := exists_chars_eq_cons precedes
  rw [begins, List.cons_append] at read ⊢
  rw [scan?, visible, if_neg Bool.false_ne_true]
  split
  case h_1 missed => cases read.symm.trans missed
  case h_2 found =>
    cases read.symm.trans found
    rfl

end Token

/-! ### Texts of several tokens -/

theorem Numeral.Ends.append {cs rest : List Char} (here : Ends cs) (after : Ends rest) :
    Ends (cs ++ rest) := by
  cases cs with
  | nil => exact after
  | cons c cs => exact here

/-- The text is cut into these tokens, also before another text that does not belong to a numeral
at its end. -/
def Spells (cs : List Char) (tokens : List Token) : Prop :=
  ∀ rest, Numeral.Ends rest → Token.scan? (cs ++ rest) = (Token.scan? rest).map (tokens ++ ·)

namespace Spells

variable {cs ds : List Char} {tokens others : List Token}

theorem nil : Spells [] [] := by
  intro rest _
  exact Option.map_id'.symm

theorem append (here : Spells cs tokens) (after : Spells ds others) (ends : Numeral.Ends ds) :
    Spells (cs ++ ds) (tokens ++ others) := by
  intro rest final
  rw [List.append_assoc, here _ (ends.append final), after rest final, Option.map_map]
  congr 1
  funext more
  exact (List.append_assoc ..).symm

theorem blank {c : Char} (blank : Token.isBlank c = true) (after : Spells cs tokens) :
    Spells (c :: cs) tokens := by
  intro rest final
  rw [List.cons_append, Token.scan?_blank blank, after rest final]

theorem token (token : Token) (precedes : ∀ rest, Numeral.Ends rest → token.Precedes rest) :
    Spells token.chars [token] := by
  intro rest final
  exact Token.scan?_chars_append (precedes rest final)

/-- Nothing that follows can belong to the token. -/
theorem token_append (token : Token) (precedes : ∀ rest, token.Precedes rest)
    (after : Spells ds others) : Spells (token.chars ++ ds) (token :: others) := by
  intro rest final
  rw [List.append_assoc, Token.scan?_chars_append (precedes _), after rest final, Option.map_map]
  rfl

theorem newLine (depth : Nat) (after : Spells cs tokens) :
    Spells (Json.newLine depth ++ cs) tokens := by
  have blanks : ∀ count, Spells (List.replicate count ' ' ++ cs) tokens := by
    intro count
    induction count with
    | zero => exact after
    | succ count ih => exact ih.blank rfl
  exact (blanks (2 * depth)).blank rfl

/-- A text can end in a new line. -/
theorem append_newLine (spells : Spells cs tokens) : Spells (cs ++ ['\n']) tokens := by
  have ends : Numeral.Ends ['\n'] := by
    rintro c ⟨rfl⟩
    decide
  have whole := spells.append (nil.blank rfl) ends
  rw [List.append_nil] at whole
  exact whole

theorem scan?_eq (spells : Spells cs tokens) : Token.scan? cs = some tokens := by
  have whole := spells [] fun c first => by cases first
  rw [List.append_nil] at whole
  rw [whole, Token.scan?, Option.map_some, List.append_nil]

end Spells

/-! ### Values -/

namespace Json

theorem spells_tokenOfReal (x : Float) : Spells (tokenOfReal x).chars [tokenOfReal x] := by
  rw [tokenOfReal]
  split
  · exact .token _ fun _ ends => ⟨Numeral.isWellFormed_ofFloat .even numberStyle x, ends⟩
  · exact .token .null fun _ _ => trivial

theorem spells_integer (n : Int) :
    Spells (Token.numeral (.ofInt n)).chars [.numeral (.ofInt n)] :=
  .token _ fun _ ends => ⟨Numeral.isWellFormed_ofInt n, ends⟩

theorem spells_text (s : String) : Spells (Token.quoted s.toList) [.text (some s)] :=
  .token (.text (some s)) fun _ _ => rfl

/-- A mark that ends a numeral before it. -/
theorem ends_cons {c : Char} (mark : c.isDigit = false ∧ c ≠ '.' ∧ c ≠ 'e' ∧ c ≠ 'E')
    (cs : List Char) : Numeral.Ends (c :: cs) := by
  rintro d ⟨rfl⟩
  exact mark

theorem spells_closeBracket : Spells [']'] [.closeBracket] :=
  .token .closeBracket fun _ _ => trivial

theorem spells_closeBrace : Spells ['}'] [.closeBrace] :=
  .token .closeBrace fun _ _ => trivial

/-! A numeral in a document is followed by a comma, a closing mark, a new line or the end. -/

mutual

theorem spells_tokens : ∀ v : Json, Spells (v.tokens.flatMap Token.chars) v.tokens
  | null => .token .null fun _ _ => trivial
  | boolean b => by
    rw [tokens, List.flatMap_singleton]
    exact .token _ fun _ _ => trivial
  | integer n => by
    rw [tokens, List.flatMap_singleton]
    exact spells_integer n
  | real x => by
    rw [tokens, List.flatMap_singleton]
    exact spells_tokenOfReal x
  | text s => by
    rw [tokens, List.flatMap_singleton]
    exact spells_text s
  | unreadable => .token .null fun _ _ => trivial
  | array items => by
    rw [tokens, List.cons_append, List.flatMap_cons, List.flatMap_append]
    exact .token_append .openBracket (fun _ => trivial)
      ((spells_itemTokens items).append spells_closeBracket (ends_cons (by decide) _))
  | object members => by
    rw [tokens, List.cons_append, List.flatMap_cons, List.flatMap_append]
    exact .token_append .openBrace (fun _ => trivial)
      ((spells_memberTokens members).append spells_closeBrace (ends_cons (by decide) _))

theorem spells_itemTokens :
    ∀ items : List Json, Spells ((itemTokens items).flatMap Token.chars) (itemTokens items)
  | [] => .nil
  | [item] => spells_tokens item
  | item :: next :: rest => by
    have after : Spells (',' :: (itemTokens (next :: rest)).flatMap Token.chars)
        (.comma :: itemTokens (next :: rest)) :=
      .token_append .comma (fun _ => trivial) (spells_itemTokens (next :: rest))
    rw [itemTokens, List.flatMap_append, List.flatMap_cons]
    · exact (spells_tokens item).append after (ends_cons (by decide) _)
    · exact List.cons_ne_nil _ _

theorem spells_memberTokens :
    ∀ members : List (String × Json),
      Spells ((memberTokens members).flatMap Token.chars) (memberTokens members)
  | [] => .nil
  | [(name, value)] => by
    rw [memberTokens, List.flatMap_cons, List.flatMap_cons]
    exact .token_append (.text (some name)) (fun _ => rfl)
      (.token_append .colon (fun _ => trivial) (spells_tokens value))
  | (name, value) :: next :: rest => by
    have after : Spells (',' :: (memberTokens (next :: rest)).flatMap Token.chars)
        (.comma :: memberTokens (next :: rest)) :=
      .token_append .comma (fun _ => trivial) (spells_memberTokens (next :: rest))
    rw [memberTokens, List.cons_append, List.cons_append, List.flatMap_cons, List.flatMap_cons,
      List.flatMap_append]
    · exact .token_append (.text (some name)) (fun _ => rfl)
        (.token_append .colon (fun _ => trivial)
          ((spells_tokens value).append after (ends_cons (by decide) _)))
    · exact List.cons_ne_nil _ _

end

theorem spells_compact (v : Json) : Spells v.compact v.tokens :=
  v.spells_tokens

mutual

theorem spells_prettyAt : ∀ (depth : Nat) (v : Json), Spells (v.prettyAt depth) v.tokens
  | _, null => .token .null fun _ _ => trivial
  | _, boolean b => .token (.boolean b) fun _ _ => trivial
  | _, integer n => by
    rw [prettyAt, tokens]
    exact spells_integer n
  | _, real x => by
    rw [prettyAt, tokens]
    exact spells_tokenOfReal x
  | _, text s => by
    rw [prettyAt, tokens]
    exact spells_text s
  | _, unreadable => .token .null fun _ _ => trivial
  | _, array [] => by
    rw [prettyAt, tokens]
    exact .token_append .openBracket (fun _ => trivial) spells_closeBracket
  | depth, array (item :: rest) => by
    have items := spells_prettyItems (depth + 1) (item :: rest)
    rw [prettyAt, tokens, List.append_assoc]
    · exact .token_append .openBracket (fun _ => trivial)
        (items.append (spells_closeBracket.newLine depth) (ends_cons (by decide) _))
    · exact List.cons_ne_nil _ _
  | _, object [] => by
    rw [prettyAt, tokens]
    exact .token_append .openBrace (fun _ => trivial) spells_closeBrace
  | depth, object (member :: rest) => by
    have members := spells_prettyMembers (depth + 1) (member :: rest)
    rw [prettyAt, tokens, List.append_assoc]
    · exact .token_append .openBrace (fun _ => trivial)
        (members.append (spells_closeBrace.newLine depth) (ends_cons (by decide) _))
    · exact List.cons_ne_nil _ _

theorem spells_prettyItems :
    ∀ (depth : Nat) (items : List Json), Spells (prettyItems depth items) (itemTokens items)
  | _, [] => .nil
  | depth, [item] => (spells_prettyAt depth item).newLine depth
  | depth, item :: next :: rest => by
    have after : Spells (',' :: prettyItems depth (next :: rest))
        (.comma :: itemTokens (next :: rest)) :=
      .token_append .comma (fun _ => trivial) (spells_prettyItems depth (next :: rest))
    rw [prettyItems, itemTokens, List.append_assoc]
    · exact ((spells_prettyAt depth item).append after (ends_cons (by decide) _)).newLine depth
    · exact List.cons_ne_nil _ _
    · exact List.cons_ne_nil _ _

theorem spells_prettyMembers :
    ∀ (depth : Nat) (members : List (String × Json)),
      Spells (prettyMembers depth members) (memberTokens members)
  | _, [] => .nil
  | depth, [(name, value)] => by
    rw [prettyMembers, memberTokens, List.append_assoc, List.append_assoc]
    have colon : Spells ([':', ' '] ++ value.prettyAt depth) (.colon :: value.tokens) :=
      .token_append .colon (fun _ => trivial) ((spells_prettyAt depth value).blank rfl)
    exact (Spells.token_append (.text (some name)) (fun _ => rfl) colon).newLine depth
  | depth, (name, value) :: next :: rest => by
    have after : Spells (',' :: prettyMembers depth (next :: rest))
        (.comma :: memberTokens (next :: rest)) :=
      .token_append .comma (fun _ => trivial) (spells_prettyMembers depth (next :: rest))
    have value := (spells_prettyAt depth value).append after (ends_cons (by decide) _)
    rw [prettyMembers, memberTokens, List.append_assoc, List.append_assoc, List.append_assoc,
      List.cons_append, List.cons_append]
    · exact (Spells.token_append (.text (some name)) (fun _ => rfl)
        (.token_append .colon (fun _ => trivial) (value.blank rfl))).newLine depth
    · exact List.cons_ne_nil _ _
    · exact List.cons_ne_nil _ _

end

theorem spells_pretty (v : Json) : Spells v.pretty v.tokens :=
  spells_prettyAt 0 v

end Json

end TransitDiagram
