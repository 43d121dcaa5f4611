import TransitDiagram.Proofs.Diagram.Packing

/-!
# The first broken rule

`Diagram.rules` lists what a diagram has to meet, in the order in which it matters: the settings of
the style, the nodes of either side one after another, the links, and the times of the nodes. A
diagram is refused for the first of these rules that is broken, whatever else is wrong with it, and
drawn if none is.
-/

namespace TransitDiagram

open Quantity

/-- Something that has to hold, and the fault if it does not. -/
structure Rule (α : Type) where
  holds : Bool
  fault : Fault α

namespace Rule

section Verdict

variable {α : Type}

/-- The first broken rule decides. -/
def verdict (rules : List (Rule α)) : Except (Fault α) Unit :=
  match rules.find? fun rule => !rule.holds with
  | some broken => .error broken.fault
  | none => .ok ()

theorem verdict_cons (rule : Rule α) (rest : List (Rule α)) :
    verdict (rule :: rest) = if rule.holds then verdict rest else .error rule.fault := by
  cases held : rule.holds <;> simp [verdict, held]

/-- What throws a fault under a condition has a rule that is broken then. -/
theorem ite_throw_eq_verdict (broken : Prop) [Decidable broken] (fault : Fault α)
    (next : Unit → Except (Fault α) Unit) :
    (if broken then (throw fault : Except (Fault α) Unit) >>= next else next ()) =
      (verdict [⟨!decide broken, fault⟩] >>= next) := by
  by_cases refused : broken
  · rw [if_pos refused, verdict_cons, decide_eq_true refused]
    rfl
  · rw [if_neg refused, verdict_cons, decide_eq_false refused]
    rfl

theorem verdict_append (first next : List (Rule α)) :
    verdict (first ++ next) = (verdict first >>= fun _ => verdict next) := by
  induction first with
  | nil => rfl
  | cons rule rest ih =>
    rw [List.cons_append, verdict_cons, verdict_cons, ih]
    cases rule.holds <;> rfl

/-- Checking one thing after another is checking all of their rules. -/
theorem forM_eq_verdict {β : Type} {check : β → Except (Fault α) Unit} {rules : β → List (Rule α)}
    (same : ∀ x, check x = verdict (rules x)) (xs : List β) :
    xs.forM check = verdict (xs.flatMap rules) := by
  induction xs with
  | nil => rfl
  | cons x xs ih =>
    rw [List.flatMap_cons, verdict_append, ← ih, ← same]
    rfl

theorem verdict_eq_ok_iff {rules : List (Rule α)} :
    verdict rules = .ok () ↔ ∀ rule ∈ rules, rule.holds = true := by
  induction rules with
  | nil => simp [verdict]
  | cons rule rest ih =>
    rw [verdict_cons, List.forall_mem_cons]
    cases held : rule.holds <;> simp [ih]

end Verdict

variable {α : Type} [Quantity α]

/-! ### Single rules -/

/-- A quantity must be finite and not negative. -/
def count (measure : Measure) (owner : Owner) (value : α) : Rule α :=
  ⟨decide (IsCount value), .notCount measure owner value⟩

def positive (setting : String) (value : α) : Rule α :=
  ⟨decide (IsPositive value), .style (.notPositive setting value)⟩

def nonNegative (setting : String) (value : α) : Rule α :=
  ⟨decide (IsNonNegative value), .style (.negative setting value)⟩

theorem checkCount_eq_verdict (measure : Measure) (owner : Owner) (value : α) :
    Fault.checkCount measure owner value = verdict [count measure owner value] := by
  rw [verdict_cons, count]
  by_cases accepted : IsCount value
  · rw [if_pos (decide_eq_true accepted)]
    exact Fault.checkCount_eq_ok_iff.mpr accepted
  · rw [if_neg (by simpa using accepted)]
    exact Fault.checkCount_eq_error accepted

theorem checkPositive_eq_verdict (setting : String) (value : α) :
    Fault.checkPositive setting value = verdict [positive setting value] := by
  rw [verdict_cons, positive, Fault.checkPositive]
  by_cases accepted : IsPositive value <;> simp [accepted] <;> rfl

theorem checkNonNegative_eq_verdict (setting : String) (value : α) :
    Fault.checkNonNegative setting value = verdict [nonNegative setting value] := by
  rw [verdict_cons, nonNegative, Fault.checkNonNegative]
  by_cases accepted : IsNonNegative value <;> simp [accepted] <;> rfl

end Rule

variable {α : Type} [Quantity α]

/-! ### Styles -/

/-- What the settings of an axis have to meet. -/
def Axis.settings : Axis α → List (Rule α)
  | .rank => []
  | .time axis => [.positive "axis width" axis.width, .positive "frameHours" axis.frameHours]

def Style.rules (style : Style α) : List (Rule α) :=
  [.positive "scaleFactor" style.scale,
    .nonNegative "minNodeExtent" style.leastNode,
    .nonNegative "minLinkExtent" style.leastLink,
    .nonNegative "padding" style.padding,
    .nonNegative "overflowGap" style.overflowGap,
    ⟨!decide (style.leastLink < style.leastNode),
      .style (.nodeExceedsLink style.leastNode style.leastLink)⟩] ++ style.axis.settings

theorem TimeAxis.check_eq_verdict (axis : TimeAxis α) :
    axis.check = Rule.verdict (Axis.time axis).settings := by
  rw [check, Rule.checkPositive_eq_verdict, Rule.checkPositive_eq_verdict, ← Rule.verdict_append]
  rfl

theorem Style.check_eq_verdict (style : Style α) : style.check = Rule.verdict style.rules := by
  have axis : (match style.axis with
      | .rank => pure ()
      | .time axis => axis.check) = Rule.verdict style.axis.settings := by
    cases style.axis with
    | rank => rfl
    | time axis => exact axis.check_eq_verdict
  change _ = Rule.verdict ([_] ++ ([_] ++ ([_] ++ ([_] ++ ([_] ++ ([_] ++ style.axis.settings))))))
  simp only [Rule.verdict_append, ← axis, ← Rule.checkPositive_eq_verdict,
    ← Rule.checkNonNegative_eq_verdict, ← Rule.ite_throw_eq_verdict]
  rfl

/-! ### Nodes and links -/

namespace Node

/-- What a node has to meet when these nodes of its side come before it. -/
def rules (side : Side) (before : List (Node α)) (node : Node α) : List (Rule α) :=
  [.count .occupancy (.node side node.key) node.occupancy,
    .count .capacity (.node side node.key) node.capacity,
    ⟨decide (node.key ∉ before.map (·.key)), .repeatedNode side node.key⟩]

/-- What the nodes of a side have to meet, each after the nodes before it. -/
def rulesOf (side : Side) (nodes : List (Node α)) : List (Rule α) :=
  nodes.zipIdx.flatMap fun (node, position) => node.rules side (nodes.take position)

end Node

def Link.rule (link : Link α) : Rule α :=
  .count .value (.link link.id) link.value

omit [Quantity α] in
/-- The same passengers between other nodes. -/
def Link.redirected (ends : Link α → NodeKey × NodeKey) (link : Link α) : Link α :=
  { link with source := (ends link).1, target := (ends link).2 }

/-- A real node on a time axis must have a time that a clock can show. -/
def Axis.rules (axis : Axis α) (node : Node α) : List (Rule α) :=
  match axis, node.key with
  | .time axis, .real _ =>
    [⟨decide (ClockTime.IsOffset axis.utcOffset ∧ ClockTime.HasDate node.displayTime),
      .noDate (.displayTime node.key) node.displayTime⟩]
  | _, _ => []

theorem Node.checkAll_eq_verdict (side : Side) (seen : List NodeKey) (before rest : List (Node α))
    (same : ∀ key, key ∈ seen ↔ key ∈ before.map (·.key)) :
    checkAll side seen rest = Rule.verdict ((rest.zipIdx before.length).flatMap
      fun (node, position) => node.rules side ((before ++ rest).take position)) := by
  induction rest generalizing seen before with
  | nil => rfl
  | cons node rest ih =>
    have same' : ∀ key, key ∈ node.key :: seen ↔ key ∈ (before ++ [node]).map (·.key) := by
      intro key
      rw [List.mem_cons, same, List.map_append, List.mem_append, or_comm]
      simp
    have next := ih (node.key :: seen) (before ++ [node]) same'
    rw [List.append_assoc, List.singleton_append, List.length_append, List.length_singleton] at next
    have known : (!decide (node.key ∈ seen)) = decide (node.key ∉ before.map (·.key)) := by
      rw [← decide_not, decide_eq_decide, same]
    rw [List.zipIdx_cons, List.flatMap_cons, Rule.verdict_append, ← next]
    change _ = (Rule.verdict (node.rules side ((before ++ node :: rest).take before.length)) >>=
      fun _ => checkAll side (node.key :: seen) rest)
    rw [List.take_left, rules, ← known]
    change _ = (Rule.verdict ([_] ++ ([_] ++ [_])) >>= _)
    simp only [Rule.verdict_append, bind_assoc, ← Rule.checkCount_eq_verdict,
      ← Rule.ite_throw_eq_verdict]
    rfl

theorem Link.check_eq_verdict (link : Link α) : link.check = Rule.verdict [link.rule] :=
  Rule.checkCount_eq_verdict _ _ _

/-- A time axis shows the moments that have a date, if its offset is one that a clock can have. -/
theorem TimeAxis.isSome_position? (axis : TimeAxis α) (seconds : Int64) :
    (axis.position? seconds).isSome =
      decide (ClockTime.IsOffset axis.utcOffset ∧ ClockTime.HasDate seconds) := by
  rw [position?, Option.isSome_map, ClockTime.ofMoment?]
  by_cases shown : ClockTime.IsOffset axis.utcOffset ∧ ClockTime.HasDate seconds
  · rw [if_pos shown, decide_eq_true shown]
    rfl
  · rw [if_neg shown, decide_eq_false shown]
    rfl

theorem Axis.checkNode_eq_verdict (axis : Axis α) (node : Node α) :
    axis.checkNode node = Rule.verdict (axis.rules node) := by
  cases axis with
  | rank => rfl
  | time axis =>
    cases key : node.key with
    | sentinel kind =>
      simp only [checkNode, rules, key]
      rfl
    | real entity =>
      simp only [checkNode, rules, key, axis.isSome_position?, Rule.verdict_cons]
      rfl

/-! ### Diagrams -/

namespace Diagram

/-- What nodes, links and a style have to meet, in the order in which it is looked at. -/
def rules (sources targets : List (Node α)) (links : List (Link α)) (style : Style α) :
    List (Rule α) :=
  style.rules ++ Node.rulesOf .source sources ++ Node.rulesOf .target targets ++
    links.map Link.rule ++ sources.flatMap style.axis.rules ++ targets.flatMap style.axis.rules

variable {sources targets : List (Node α)} {links : List (Link α)} {style : Style α}

theorem check_eq_verdict :
    check sources targets links style = Rule.verdict (rules sources targets links style) := by
  have nodes (side : Side) (nodes : List (Node α)) :
      Node.checkAll side [] nodes = Rule.verdict (Node.rulesOf side nodes) :=
    Node.checkAll_eq_verdict side [] [] nodes fun _ => Iff.rfl
  have values : links.forM Link.check = Rule.verdict (links.map Link.rule) := by
    rw [Rule.forM_eq_verdict Link.check_eq_verdict, List.map_eq_flatMap]
  simp only [check, rules, Rule.verdict_append, bind_assoc, style.check_eq_verdict, nodes, values,
    Rule.forM_eq_verdict style.axis.checkNode_eq_verdict]

theorem draw_eq_verdict :
    draw sources targets links style =
      (Rule.verdict (rules (Node.kept sources) (Node.kept targets) links style)).map fun _ =>
        layout (Node.kept sources) (Node.kept targets) links style := by
  rw [draw, check_eq_verdict]
  cases Rule.verdict (rules (Node.kept sources) (Node.kept targets) links style) <;> rfl

theorem draw_eq_error_iff {fault : Fault α} :
    draw sources targets links style = .error fault ↔
      Rule.verdict (rules (Node.kept sources) (Node.kept targets) links style) = .error fault := by
  rw [draw_eq_verdict]
  cases Rule.verdict (rules (Node.kept sources) (Node.kept targets) links style) <;>
    simp [Except.map]

theorem exists_draw_eq_ok_iff :
    (∃ diagram, draw sources targets links style = .ok diagram) ↔
      ∀ rule ∈ rules (Node.kept sources) (Node.kept targets) links style, rule.holds = true := by
  rw [← Rule.verdict_eq_ok_iff, draw_eq_verdict]
  cases Rule.verdict (rules (Node.kept sources) (Node.kept targets) links style) <;>
    simp [Except.map]

/-- Neither the ends of the links nor the alignment are subject to a rule. -/
theorem rules_congr (ends : Link α → NodeKey × NodeKey) (alignment : Alignment) :
    rules sources targets (links.map (Link.redirected ends)) { style with alignment := alignment } =
      rules sources targets links style := by
  rw [rules, List.map_map]
  rfl

/-- What can be drawn can be drawn with less in it. -/
theorem IsDrawable.sublist (drawable : IsDrawable sources targets links style)
    {sources' targets' : List (Node α)} {links' : List (Link α)}
    (fewerSources : sources'.Sublist sources)
    (fewerTargets : targets'.Sublist targets) (fewerLinks : links'.Sublist links) :
    IsDrawable sources' targets' links' style where
  isDrawable_style := drawable.isDrawable_style
  areDrawable_sources := drawable.areDrawable_sources.sublist fewerSources
  areDrawable_targets := drawable.areDrawable_targets.sublist fewerTargets
  isCount_link := fun link member => drawable.isCount_link link (fewerLinks.mem member)
  checkNode_source := fun node member => drawable.checkNode_source node (fewerSources.mem member)
  checkNode_target := fun node member => drawable.checkNode_target node (fewerTargets.mem member)

/-- A diagram is refused for the first rule that is broken, and drawn if there is none. The ends of
the links and the alignment have no part in it, and leaving out nodes or links, even all of them,
breaks no rule. -/
theorem draw_firstBroken (sources targets : List (Node α)) (links : List (Link α))
    (style : Style α) :
    (draw sources targets links style =
      match (rules (Node.kept sources) (Node.kept targets) links style).find?
        fun rule => !rule.holds with
      | some broken => .error broken.fault
      | none => .ok (layout (Node.kept sources) (Node.kept targets) links style)) ∧
    ((∃ diagram, draw sources targets links style = .ok diagram) ↔
      ∀ rule ∈ rules (Node.kept sources) (Node.kept targets) links style, rule.holds = true) ∧
    (∀ (ends : Link α → NodeKey × NodeKey) (alignment : Alignment) (fault : Fault α),
      draw sources targets (links.map (Link.redirected ends))
          { style with alignment := alignment } = .error fault ↔
        draw sources targets links style = .error fault) ∧
    ∀ (sources' targets' : List (Node α)) (links' : List (Link α)), sources'.Sublist sources →
      targets'.Sublist targets → links'.Sublist links →
        (∃ diagram, draw sources targets links style = .ok diagram) →
          ∃ diagram, draw sources' targets' links' style = .ok diagram := by
  refine ⟨?_, exists_draw_eq_ok_iff, fun ends alignment fault => ?_, ?_⟩
  · rw [draw_eq_verdict, Rule.verdict]
    split <;> rfl
  · rw [draw_eq_error_iff, draw_eq_error_iff, rules_congr]
  · rintro sources' targets' links' fewerSources fewerTargets fewerLinks ⟨diagram, drawn⟩
    obtain ⟨drawable, -⟩ := draw_eq_ok_iff.mp drawn
    have less := drawable.sublist (fewerSources.filter _) (fewerTargets.filter _) fewerLinks
    exact ⟨_, draw_eq_ok_iff.mpr ⟨less, rfl⟩⟩

/-- A trip that is given twice, the second time with less than no place, opposite a trip with less
than nobody, and a link between unknown trips. -/
def faultyStation (value : Rat) : Network Rat where
  sources := [⟨.real ⟨"a"⟩, 10, 4, 8⟩, ⟨.real ⟨"a"⟩, 10, 4, -1⟩]
  targets := [⟨.real ⟨"b"⟩, 20, -4, 8⟩]
  links := [⟨7, .real ⟨"x"⟩, .real ⟨"y"⟩, value⟩]

/-- Of four faults the places of the second trip are named, wherever the link goes. With none of
them, a link between unknown trips is no fault, and neither is a diagram of nothing. -/
theorem draw_firstBroken_faultyStation :
    draw (faultyStation (-2)).sources (faultyStation (-2)).targets (faultyStation (-2)).links
        (Style.plain .paired) = .error (.negative .capacity (.node .source (.real ⟨"a"⟩)) (-1)) ∧
      draw (faultyStation (-2)).sources (faultyStation (-2)).targets
        ((faultyStation (-2)).links.map (Link.redirected fun _ => (.real ⟨"a"⟩, .real ⟨"b"⟩)))
        (Style.plain .independent) =
          .error (.negative .capacity (.node .source (.real ⟨"a"⟩)) (-1)) ∧
      (∃ diagram, draw [⟨.real ⟨"a"⟩, 10, 4, 8⟩] [] (faultyStation 2).links
        (Style.plain .paired) = .ok diagram) ∧
      ∃ diagram, draw [] [] [] (Style.plain .paired) = .ok diagram := by
  obtain ⟨first, -, redirected, -⟩ := draw_firstBroken (faultyStation (-2)).sources
    (faultyStation (-2)).targets (faultyStation (-2)).links (Style.plain .paired)
  obtain ⟨-, accepted, -, fewer⟩ := draw_firstBroken [⟨.real ⟨"a"⟩, 10, 4, 8⟩] []
    (faultyStation 2).links (Style.plain .paired)
  have refused : draw (faultyStation (-2)).sources (faultyStation (-2)).targets
      (faultyStation (-2)).links (Style.plain .paired) =
        .error (.negative .capacity (.node .source (.real ⟨"a"⟩)) (-1)) := by
    rw [first]
    cbv
  have drawn := accepted.mpr (by decide +kernel)
  exact ⟨refused, (redirected _ .independent _).mpr refused, drawn,
    fewer [] [] [] (List.nil_sublist _) (List.nil_sublist _) (List.nil_sublist _) drawn⟩

end Diagram

end TransitDiagram
