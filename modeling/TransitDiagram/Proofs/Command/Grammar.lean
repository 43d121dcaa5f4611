import TransitDiagram.Proofs.Command.Effects

/-!
# The grammar of command lines

A command line is a sequence of items: names of tasks, options, some with a word of their own, and
inputs. At its end two dashes may stand, alone or before one more input, which can be any word
(`Arguments.IsCommandLine`). A command line with at most one input is understood, and of several
tasks, presets and outputs the last one counts; no other words are understood. So items of different
kinds can be exchanged.
-/

namespace TransitDiagram

/-! ### White space -/

theorem toLower_of_isSpace {c : Char} (space : isSpace c = true) : c.toLower = c := by
  rw [Char.toLower]
  refine dif_neg fun upper => ?_
  have letter : 65 ≤ c.toNat ∧ c.toNat ≤ 90 := by
    simpa [UInt32.le_iff_toNat_le] using upper
  simp only [isSpace, Bool.or_eq_true, Bool.and_eq_true, decide_eq_true_eq] at space
  omega

/-- White space at the ends of a text is what a trim takes away. -/
theorem exists_eq_trimSpace (cs : List Char) :
    ∃ before after, cs = before ++ trimSpace cs ++ after ∧
      (∀ c ∈ before, isSpace c = true) ∧ ∀ c ∈ after, isSpace c = true := by
  let rest := cs.dropWhile isSpace
  refine ⟨cs.takeWhile isSpace, (rest.reverse.takeWhile isSpace).reverse, ?_,
    fun c => List.mem_takeWhile_imp,
    fun c member => List.mem_takeWhile_imp (List.mem_reverse.mp member)⟩
  have back : trimSpace cs ++ (rest.reverse.takeWhile isSpace).reverse = rest := by
    rw [trimSpace, ← List.reverse_append, List.takeWhile_append_dropWhile, List.reverse_reverse]
  rw [List.append_assoc, back, List.takeWhile_append_dropWhile]

theorem trimSpace_append {before letters after : List Char} (white : ∀ c ∈ before, isSpace c = true)
    (white' : ∀ c ∈ after, isSpace c = true) (dark : ∀ c ∈ letters, isSpace c = false)
    (some_letter : letters ≠ []) : trimSpace (before ++ letters ++ after) = letters := by
  obtain ⟨first, more, begins⟩ := List.exists_cons_of_ne_nil some_letter
  obtain ⟨last, fewer, ends⟩ :=
    List.exists_cons_of_ne_nil (mt List.reverse_eq_nil_iff.mp some_letter)
  have darkFirst : ¬ isSpace first = true := by simp [dark first (begins ▸ List.mem_cons_self)]
  have darkLast : ¬ isSpace last = true := by
    simp [dark last (List.mem_reverse.mp (ends ▸ List.mem_cons_self))]
  have front : (before ++ letters ++ after).dropWhile isSpace = letters ++ after := by
    rw [List.append_assoc, List.dropWhile_append_of_pos white, begins, List.cons_append,
      List.dropWhile_cons_of_neg darkFirst]
  have back : (letters ++ after).reverse.dropWhile isSpace = letters.reverse := by
    rw [List.reverse_append,
      List.dropWhile_append_of_pos fun c member => white' c (List.mem_reverse.mp member), ends,
      List.dropWhile_cons_of_neg darkLast]
  rw [trimSpace, front, back, List.reverse_reverse]

/-! ### Words with a meaning -/

namespace Task

/-- The word for a task. -/
def name : Task → String
  | layout => "layout"
  | synthesize => "synthesize"
  | timeline => "timeline"
  | vertical => "vertical"

theorem ofWord?_name (task : Task) : ofWord? task.name = some task := by
  cases task <;> rfl

theorem eq_name_of_ofWord? {word : String} {task : Task} (named : ofWord? word = some task) :
    word = task.name := by
  unfold ofWord? at named
  split at named <;> cases named <;> rfl

end Task

namespace Preset

/-- The plainest word for a preset. -/
def name : Preset → String
  | station => "station"
  | trip => "trip"
  | interchange => "interchange"

/-- The word is the name of the preset, in letters of either case and with any white space around
it. -/
def IsNamedBy (preset : Preset) (word : String) : Prop :=
  ∃ before letters after, word.toList = before ++ letters ++ after ∧
    (∀ c ∈ before, isSpace c = true) ∧ (∀ c ∈ after, isSpace c = true) ∧
    letters.map Char.toLower = preset.name.toList

theorem ofWord?_eq_some_iff_trimmed {word : String} {preset : Preset} :
    ofWord? word = some preset ↔
      (trimSpace word.toList).map Char.toLower = preset.name.toList := by
  have spelled : (trimSpace word.toList).map Char.toLower = preset.name.toList ↔
      String.ofList ((trimSpace word.toList).map Char.toLower) = preset.name := by
    rw [← String.toList_inj, String.toList_ofList]
  rw [spelled, ofWord?]
  generalize String.ofList ((trimSpace word.toList).map Char.toLower) = letters
  constructor
  · intro named
    split at named <;> cases named <;> rfl
  · rintro rfl
    cases preset <;> rfl

theorem isSpace_of_mem_name (preset : Preset) : ∀ c ∈ preset.name.toList, isSpace c = false := by
  cases preset <;> simp [name, isSpace]

theorem ofWord?_eq_some_iff {word : String} {preset : Preset} :
    ofWord? word = some preset ↔ preset.IsNamedBy word := by
  rw [ofWord?_eq_some_iff_trimmed]
  constructor
  · intro named
    obtain ⟨before, after, split, white, white'⟩ := exists_eq_trimSpace word.toList
    exact ⟨before, _, after, split, white, white', named⟩
  · rintro ⟨before, letters, after, split, white, white', named⟩
    have dark : ∀ c ∈ letters, isSpace c = false := by
      intro c member
      have lower := isSpace_of_mem_name preset c.toLower (named ▸ List.mem_map_of_mem member)
      by_contra space
      rw [Bool.not_eq_false] at space
      rw [toLower_of_isSpace space, space] at lower
      cases lower
    have some_letter : letters ≠ [] := by
      rintro rfl
      cases preset <;> cases named
    rw [split, trimSpace_append white white' dark some_letter, named]

end Preset

/-! ### The grammar -/

namespace Arguments

/-- What a command line is made of. -/
inductive Item where
  | task (task : Task)
  | pretty
  | verbose
  | preset (preset : Preset)
  | output (word : String)
  | input (word : String)
  deriving DecidableEq

inductive Item.Kind where
  | task
  | pretty
  | verbose
  | preset
  | output
  | input

namespace Item

def kind : Item → Kind
  | .task _ => .task
  | .pretty => .pretty
  | .verbose => .verbose
  | .preset _ => .preset
  | .output _ => .output
  | .input _ => .input

def task? : Item → Option Task
  | .task named => some named
  | _ => none

def preset? : Item → Option Preset
  | .preset named => some named
  | _ => none

def output? : Item → Option String
  | .output path => some path
  | _ => none

def input? : Item → Option String
  | .input path => some path
  | _ => none

/-- How an item is written. An output is any word after its option, and an input that is written
by itself is a dash, or a word that neither begins with one nor is the name of a task. -/
inductive IsWritten : Item → List String → Prop where
  | task (task : Task) : IsWritten (.task task) [task.name]
  | pretty : IsWritten .pretty ["--pretty"]
  | verbose : IsWritten .verbose ["--verbose"]
  | shortVerbose : IsWritten .verbose ["-v"]
  | preset {preset : Preset} {word : String} (named : preset.IsNamedBy word) :
      IsWritten (.preset preset) ["--preset", word]
  | output (word : String) : IsWritten (.output word) ["--out", word]
  | dash : IsWritten (.input "-") ["-"]
  | input {word : String} (plain : ¬ ['-'] <+: word.toList)
      (other : ∀ task : Task, word ≠ task.name) : IsWritten (.input word) [word]

/-- Items are written one after the other. -/
inductive AreWritten : List Item → List String → Prop where
  | nil : AreWritten [] []
  | cons {item : Item} {items : List Item} {written words : List String}
      (first : item.IsWritten written) (rest : AreWritten items words) :
      AreWritten (item :: items) (written ++ words)

end Item

/-- The words make up a command line of these items. Two dashes can end it, and one word after them
is an input, whatever it is. -/
inductive IsCommandLine : List Item → List String → Prop where
  | plain {items : List Item} {words : List String} (written : Item.AreWritten items words) :
      IsCommandLine items words
  | closed {items : List Item} {words : List String} (written : Item.AreWritten items words) :
      IsCommandLine items (words ++ ["--"])
  | named {items : List Item} {words : List String} (written : Item.AreWritten items words)
      (word : String) : IsCommandLine (items ++ [.input word]) (words ++ ["--", word])

def inputs (items : List Item) : List String :=
  items.filterMap Item.input?

/-- What items ask for: the last task, preset and output of them, and the input if there is one. -/
def ofItems (items : List Item) : Arguments where
  task := (items.filterMap Item.task?).getLast?.getD .layout
  input := (inputs items).head?
  preset := (items.filterMap Item.preset?).getLast?.getD .station
  pretty := decide (.pretty ∈ items)
  verbose := decide (.verbose ∈ items)
  output := (items.filterMap Item.output?).getLast?

/-! ### Taking items -/

/-- The arguments with one more item, unless it is a second input. -/
def withItem? (args : Arguments) : Item → Option Arguments
  | .task task => some { args with task := task }
  | .pretty => some { args with pretty := true }
  | .verbose => some { args with verbose := true }
  | .preset preset => some { args with preset := preset }
  | .output word => some { args with output := some word }
  | .input word => args.withInput? word

variable {args : Arguments} {item : Item} {items : List Item} {word : String}
  {written words : List String}

theorem withItem?_comm (args : Arguments) {a b : Item} (differ : a.kind ≠ b.kind) :
    (args.withItem? a).bind (withItem? · b) = (args.withItem? b).bind (withItem? · a) := by
  obtain ⟨task, input, preset, pretty, verbose, output⟩ := args
  cases a <;> cases b <;> first
    | exact absurd rfl differ
    | cases input <;> rfl

theorem inputs_append (items items' : List Item) :
    inputs (items ++ items') = inputs items ++ inputs items' :=
  List.filterMap_append

/-- An item after others takes the place of an earlier one, and a second input has none. -/
theorem withItem?_ofItems (single : (inputs items).length ≤ 1) (item : Item) :
    (ofItems items).withItem? item =
      if (inputs (items ++ [item])).length ≤ 1 then some (ofItems (items ++ [item])) else none := by
  cases item with
  | input word =>
    have more : inputs (items ++ [.input word]) = inputs items ++ [word] := inputs_append _ _
    rw [more, List.length_append, List.length_singleton, withItem?, withInput?]
    cases given : inputs items with
    | nil => simp [ofItems, more, given, Item.task?, Item.preset?, Item.output?]
    | cons first others => simp [ofItems, given]
  | _ =>
    rw [if_pos (by simpa [inputs, List.filterMap_cons, Item.input?] using single)]
    simp [withItem?, ofItems, inputs, Item.task?, Item.preset?, Item.output?, Item.input?]

/-- Items are taken if at most one of them is an input. -/
theorem foldlM_withItem?_default (items : List Item) :
    items.foldlM withItem? default =
      if (inputs items).length ≤ 1 then some (ofItems items) else none := by
  induction items using List.reverseRecOn with
  | nil => rfl
  | append_singleton items item ih =>
    rw [List.foldlM_append, ih]
    split
    · next single =>
      rw [← withItem?_ofItems single]
      simp
    · next several =>
      rw [inputs_append, List.length_append, if_neg (by omega)]
      rfl

/-! ### Taking words -/

theorem takeAll?_nil (args : Arguments) : takeAll? args [] = some args := by
  rw [takeAll?]

theorem takeAll?_dashes (args : Arguments) : takeAll? args ["--"] = some args := by
  rw [takeAll?]

/-- A word after two dashes is an input, whatever it is. -/
theorem takeAll?_dashes_word (args : Arguments) (word : String) :
    takeAll? args ["--", word] = args.withInput? word := by
  rw [takeAll?]

/-- A word that neither ends the items nor is an option with a word of its own is taken alone. -/
theorem takeAll?_cons (args : Arguments) (rest : List String) (open_end : word ≠ "--")
    (preset : word ≠ "--preset") (output : word ≠ "--out") :
    takeAll? args (word :: rest) = (args.take? word).bind (takeAll? · rest) := by
  rw [takeAll?]
  all_goals simp_all

theorem ne_of_plain {option : String} (plain : ¬ ['-'] <+: word.toList)
    (dashed : ['-'] <+: option.toList) : word ≠ option := by
  rintro rfl
  exact plain dashed

theorem take?_of_plain (args : Arguments) (plain : ¬ ['-'] <+: word.toList)
    (other : ∀ task : Task, word ≠ task.name) : args.take? word = args.withInput? word := by
  have unnamed : Task.ofWord? word = none := by
    rw [Option.eq_none_iff_forall_ne_some]
    exact fun task named => other task (Task.eq_name_of_ofWord? named)
  have isInput : isInput word = true := by
    refine decide_eq_true (.inr fun dash => plain ?_)
    obtain ⟨rest, begins⟩ := List.head?_eq_some_iff.mp dash
    exact ⟨rest, begins.symm⟩
  rw [take?, unnamed]
  simp only
  rw [if_neg (ne_of_plain plain (by decide)), if_neg, if_pos isInput]
  rintro (verbose | short)
  · exact ne_of_plain plain (by decide) verbose
  · exact ne_of_plain plain (by decide) short

/-- The words of an item are taken together. -/
theorem takeAll?_append_of_isWritten (args : Arguments) (first : item.IsWritten written)
    (rest : List String) :
    takeAll? args (written ++ rest) = (args.withItem? item).bind (takeAll? · rest) := by
  cases first with
  | task task => cases task <;> exact takeAll?_cons args rest (by decide) (by decide) (by decide)
  | pretty => exact takeAll?_cons args rest (by decide) (by decide) (by decide)
  | verbose => exact takeAll?_cons args rest (by decide) (by decide) (by decide)
  | shortVerbose => exact takeAll?_cons args rest (by decide) (by decide) (by decide)
  | dash => exact takeAll?_cons args rest (by decide) (by decide) (by decide)
  | preset named =>
    rw [List.cons_append, List.cons_append, List.nil_append, takeAll?,
      Preset.ofWord?_eq_some_iff.mpr named]
    rfl
  | output word =>
    rw [List.cons_append, List.cons_append, List.nil_append, takeAll?]
    rfl
  | input plain other =>
    rw [List.cons_append, List.nil_append, takeAll?_cons args rest (ne_of_plain plain (by decide))
      (ne_of_plain plain (by decide)) (ne_of_plain plain (by decide)),
      take?_of_plain args plain other]
    rfl

theorem takeAll?_append_append {a b : Item} {wordsA wordsB : List String} (args : Arguments)
    (writtenA : a.IsWritten wordsA) (writtenB : b.IsWritten wordsB) (after : List String) :
    takeAll? args (wordsA ++ (wordsB ++ after)) =
      ((args.withItem? a).bind (withItem? · b)).bind (takeAll? · after) := by
  rw [takeAll?_append_of_isWritten args writtenA, Option.bind_assoc]
  exact congrArg _ (funext fun args => takeAll?_append_of_isWritten args writtenB after)

theorem takeAll?_append_of_areWritten (args : Arguments) (before : Item.AreWritten items words)
    (rest : List String) :
    takeAll? args (words ++ rest) = (items.foldlM withItem? args).bind (takeAll? · rest) := by
  induction before generalizing args with
  | nil => rfl
  | @cons item items written words first _ ih =>
    rw [List.append_assoc, takeAll?_append_of_isWritten args first, List.foldlM_cons,
      Option.bind_eq_bind, Option.bind_assoc]
    exact congrArg _ (funext ih)

/-- A command line of items asks for what the items ask for. -/
theorem parse?_of_isCommandLine (line : IsCommandLine items words) :
    parse? words = if (inputs items).length ≤ 1 then some (ofItems items) else none := by
  rw [← foldlM_withItem?_default, parse?]
  cases line with
  | plain written =>
    have taken := takeAll?_append_of_areWritten default written []
    rwa [List.append_nil, funext takeAll?_nil, Option.bind_fun_some] at taken
  | closed written =>
    rw [takeAll?_append_of_areWritten default written, funext takeAll?_dashes,
      Option.bind_fun_some]
  | named written word =>
    rw [takeAll?_append_of_areWritten default written, funext (takeAll?_dashes_word · word),
      List.foldlM_append]
    simp [withItem?]

/-! ### Reading a command line back -/

theorem IsCommandLine.cons (first : item.IsWritten written) (rest : IsCommandLine items words) :
    IsCommandLine (item :: items) (written ++ words) := by
  cases rest with
  | plain rest => exact .plain (.cons first rest)
  | closed rest =>
    rw [← List.append_assoc]
    exact .closed (.cons first rest)
  | named rest word =>
    rw [← List.append_assoc]
    exact .named (.cons first rest) word

/-- A word that is taken alone is an item. -/
theorem exists_isWritten_of_take? (taken : (args.take? word).isSome) :
    ∃ item : Item, item.IsWritten [word] := by
  rw [take?] at taken
  split at taken
  · next task named =>
    rw [Task.eq_name_of_ofWord? named]
    exact ⟨_, .task task⟩
  · next unnamed =>
    split at taken
    case isTrue pretty =>
      rw [pretty]
      exact ⟨_, .pretty⟩
    split at taken
    case isTrue verbose =>
      rcases verbose with rfl | rfl
      · exact ⟨_, .verbose⟩
      · exact ⟨_, .shortVerbose⟩
    split at taken
    case isTrue input =>
      rcases of_decide_eq_true input with rfl | plain
      · exact ⟨_, .dash⟩
      · refine ⟨_, .input (fun ⟨rest, begins⟩ => plain (begins ▸ rfl)) fun task named => ?_⟩
        rw [named, Task.ofWord?_name] at unnamed
        cases unnamed
    case isFalse => cases taken

/-- Words that are understood make up a command line. -/
theorem exists_isCommandLine_of_takeAll? (args : Arguments) (words : List String)
    (taken : (takeAll? args words).isSome) : ∃ items, IsCommandLine items words := by
  -- Each call takes the words of one item, or those at the end.
  fun_induction takeAll? args words with
  | case1 => exact ⟨_, .plain .nil⟩
  | case2 => exact ⟨_, .closed .nil⟩
  | case3 args word => exact ⟨_, .named .nil word⟩
  | case4 => cases taken
  | case5 args word rest ih =>
    cases named : Preset.ofWord? word with
    | none =>
      rw [named] at taken
      cases taken
    | some preset =>
      rw [named] at taken
      obtain ⟨items, line⟩ := ih preset taken
      exact ⟨_, line.cons (.preset (Preset.ofWord?_eq_some_iff.mp named))⟩
  | case6 args word rest ih =>
    obtain ⟨items, line⟩ := ih taken
    exact ⟨_, line.cons (.output word)⟩
  | case7 args word rest _ _ _ _ _ ih =>
    cases took : args.take? word with
    | none =>
      rw [took] at taken
      cases taken
    | some more =>
      rw [took] at taken
      obtain ⟨item, written⟩ :=
        exists_isWritten_of_take? (Option.isSome_iff_exists.mpr ⟨more, took⟩)
      obtain ⟨items, line⟩ := ih more taken
      exact ⟨_, line.cons written⟩

/-- Two lines of words that differ by an exchange of two neighbouring items of different kinds,
whatever stands after them. -/
inductive Exchanges : List String → List String → Prop where
  | exchange {items : List Item} {before wordsA wordsB : List String} {a b : Item}
      (written : Item.AreWritten items before) (writtenA : a.IsWritten wordsA)
      (writtenB : b.IsWritten wordsB) (differ : a.kind ≠ b.kind) (after : List String) :
      Exchanges (before ++ (wordsA ++ (wordsB ++ after))) (before ++ (wordsB ++ (wordsA ++ after)))

theorem parse?_eq_of_exchanges {words' : List String} (exchange : Exchanges words words') :
    parse? words = parse? words' := by
  obtain ⟨written, writtenA, writtenB, differ, after⟩ := exchange
  rw [parse?, parse?, takeAll?_append_of_areWritten default written,
    takeAll?_append_of_areWritten default written]
  refine congrArg _ (funext fun args => ?_)
  rw [takeAll?_append_append args writtenA writtenB, withItem?_comm args differ,
    takeAll?_append_append args writtenB writtenA]

/-- A command line with at most one input is understood, and asks for what its items ask for. Any
other words end a run with the usage. Exchanged items of different kinds make no difference. -/
theorem parse?_grammar (words : List String) :
    (∀ args, parse? words = some args ↔
      ∃ items, IsCommandLine items words ∧ (inputs items).length ≤ 1 ∧ args = ofItems items) ∧
    ((¬ ∃ items, IsCommandLine items words ∧ (inputs items).length ≤ 1) →
      ∀ (φ : Type) (fs : FileSystem φ) (stdin : ByteArray) (files : φ),
        Command.run fs words stdin files = ⟨⟨"", usage ++ "\n", files⟩, 2⟩) ∧
    ∀ words', Exchanges words words' → parse? words' = parse? words := by
  have grammar (args : Arguments) : parse? words = some args ↔
      ∃ items, IsCommandLine items words ∧ (inputs items).length ≤ 1 ∧ args = ofItems items := by
    constructor
    · intro understood
      obtain ⟨items, line⟩ := exists_isCommandLine_of_takeAll? default words
        (Option.isSome_iff_exists.mpr ⟨args, understood⟩)
      rw [parse?_of_isCommandLine line, Option.ite_none_right_eq_some] at understood
      exact ⟨items, line, understood.1, (Option.some.inj understood.2).symm⟩
    · rintro ⟨items, line, single, rfl⟩
      rw [parse?_of_isCommandLine line, if_pos single]
  refine ⟨grammar, fun other φ fs stdin files => ?_,
    fun words' exchange => (parse?_eq_of_exchanges exchange).symm⟩
  have refused : parse? words = none := by
    refine Option.eq_none_iff_forall_ne_some.mpr fun args understood => ?_
    obtain ⟨items, line, single, -⟩ := (grammar args).mp understood
    exact other ⟨items, line, single⟩
  exact Command.run_of_parse?_eq_none refused

/-- Words that look like options are taken as paths where paths are due. Of two tasks the later one
counts. -/
theorem parse?_grammar_timeline :
    parse? ["timeline", "--out", "--", "--preset", " TRIP ", "-v", "layout", "--", "--help"] =
      some ⟨.layout, some "--help", .trip, false, true, some "--"⟩ ∧
    parse? ["timeline", "--preset", " TRIP ", "--out", "--", "-v", "layout", "--", "--help"] =
      parse? ["timeline", "--out", "--", "--preset", " TRIP ", "-v", "layout", "--", "--help"] ∧
    ∀ (φ : Type) (fs : FileSystem φ) (stdin : ByteArray) (files : φ),
      Command.run fs ["-v", "--help"] stdin files = ⟨⟨"", usage ++ "\n", files⟩, 2⟩ := by
  have trip : Preset.IsNamedBy .trip " TRIP " :=
    ⟨[' '], ['T', 'R', 'I', 'P'], [' '], rfl, by simp [isSpace], by simp [isSpace], rfl⟩
  have written := Item.AreWritten.cons (.task .timeline) (.cons (.output "--") (.cons (.preset trip)
    (.cons .shortVerbose (.cons (.task .layout) .nil))))
  refine ⟨((parse?_grammar _).1 _).mpr ⟨_, .named written "--help", by decide, rfl⟩,
    (parse?_grammar _).2.2 _ (.exchange (.cons (.task .timeline) .nil) (.output "--") (.preset trip)
      (by simp [Item.kind]) ["-v", "layout", "--", "--help"]),
    (parse?_grammar _).2.1 fun ⟨items, line, single⟩ => ?_⟩
  have understood := ((parse?_grammar ["-v", "--help"]).1 _).mpr ⟨items, line, single, rfl⟩
  cases understood

end Arguments

end TransitDiagram
