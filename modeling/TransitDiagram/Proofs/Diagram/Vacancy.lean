import TransitDiagram.Flow
import TransitDiagram.Proofs.Diagram.Acceptance
import TransitDiagram.Proofs.Diagram.Rows

/-!
# Sentinels for nobody

A sentinel for nobody is left out of a drawing before anything is checked. So the nodes and links of
a drawing are well formed, except for what such a sentinel was given with: its capacity may be
anything, and its key may have been given before.
-/

namespace TransitDiagram

open Quantity

/-! ### Zeros -/

/-- Number types in which what compares equal to zero is a count of nobody. -/
class LawfulZero (α : Type) [Quantity α] : Prop where
  isCount_of_beq_zero : ∀ {x : α}, (x == 0) = true → IsCount x

instance : LawfulZero Rat where
  isCount_of_beq_zero zero := by
    rw [eq_of_beq zero]
    exact ⟨rfl, lt_irrefl 0⟩

section Float

open Float.Model (UnpackedFloat)

/-- What compares equal to zero is a zero, of either sign. -/
theorem exists_eq_zero_of_beq {value : UnpackedFloat}
    (same : value.beq (.zero .positive) = true) : ∃ sign, value = .zero sign := by
  cases value with
  | infinity sign => cases sign <;> cases same
  | notANumber => cases same
  | zero sign => exact ⟨sign, rfl⟩
  | finite sign mantissa exponent positive => cases sign <;> cases same

instance : LawfulZero Float where
  isCount_of_beq_zero {x} zero := by
    have unpack : (0 : Float).toModel.unpack = .zero .positive := rfl
    have same : x.toModel.unpack.beq (0 : Float).toModel.unpack = true := zero
    have less : x < 0 ↔ x.toModel.unpack.lt (0 : Float).toModel.unpack = true :=
      decide_eq_true_iff
    rw [unpack] at same less
    obtain ⟨sign, eq⟩ := exists_eq_zero_of_beq same
    rw [eq] at less
    constructor
    · show x.toModel.unpack.isFinite = true
      rw [eq]
      rfl
    · rw [less]
      exact Bool.false_ne_true

end Float

/-! ### One side -/

namespace Node

variable {α : Type} [Quantity α] {node : Node α} {nodes : List (Node α)}

theorem isCount_occupancy_of_isVacant [LawfulZero α] (vacant : node.isVacant = true) :
    IsCount node.occupancy := by
  rw [isVacant, Bool.and_eq_true] at vacant
  exact LawfulZero.isCount_of_beq_zero vacant.2

theorem mem_kept_iff : node ∈ kept nodes ↔ node ∈ nodes ∧ node.isVacant = false := by
  rw [kept, List.mem_filter, Bool.not_eq_true']

/-- A key that no vacant node has is kept as often as it is given. -/
theorem count_key_kept {key : NodeKey}
    (shown : ∀ node ∈ nodes, node.key = key → node.isVacant = false) :
    ((kept nodes).map (·.key)).count key = (nodes.map (·.key)).count key := by
  simp only [List.count, List.countP_map, kept, List.countP_filter]
  refine List.countP_congr fun node given => ?_
  simp only [Function.comp_apply, Bool.and_eq_true, beq_iff_eq, Bool.not_eq_true']
  exact and_iff_left_of_imp (shown node given)

theorem isCount_occupancy_of_kept [LawfulZero α] (drawable : AreDrawable (kept nodes))
    (given : node ∈ nodes) : IsCount node.occupancy := by
  cases vacant : node.isVacant with
  | true => exact isCount_occupancy_of_isVacant vacant
  | false => exact drawable.occupancy node (mem_kept_iff.mpr ⟨given, vacant⟩)

/-- Nodes are proper if the kept ones are, and if the vacant ones have a proper capacity and a key
of their own. -/
theorem areDrawable_iff_of_kept [LawfulZero α] (drawable : AreDrawable (kept nodes)) :
    AreDrawable nodes ↔ ∀ node ∈ nodes, node.isVacant = true →
      IsCount node.capacity ∧ (nodes.map (·.key)).count node.key = 1 := by
  constructor
  · intro proper node given _
    exact ⟨proper.capacity node given,
      List.count_eq_one_of_mem proper.nodup_key (List.mem_map_of_mem given)⟩
  intro own
  constructor
  · exact fun node given => isCount_occupancy_of_kept drawable given
  · intro node given
    cases vacant : node.isVacant with
    | true => exact (own node given vacant).1
    | false => exact drawable.capacity node (mem_kept_iff.mpr ⟨given, vacant⟩)
  · refine List.nodup_iff_count_le_one.mpr fun key => ?_
    by_cases shown : ∀ node ∈ nodes, node.key = key → node.isVacant = false
    · rw [← count_key_kept shown]
      exact List.nodup_iff_count_le_one.mp drawable.nodup_key key
    · -- A key that a vacant node shares with another node would be counted twice.
      push Not at shown
      obtain ⟨node, given, rfl, vacant⟩ := shown
      rw [(own node given (Bool.not_eq_false _ ▸ vacant)).2]

end Node

/-! ### Both sides -/

namespace Diagram

/-- Every link and every kept node of a drawing is proper. The given nodes of a side are so as well
exactly if each vacant one has a proper capacity and a key of its own. -/
theorem draw_wellFormed {α : Type} [Quantity α] [LawfulZero α] {sources targets : List (Node α)}
    {links : List (Link α)} {style : Style α} {diagram : Diagram α}
    (drawn : draw sources targets links style = .ok diagram) :
    (∀ link ∈ links, IsCount link.value) ∧
      ∀ side : Side, (∀ node ∈ side.pick sources targets, IsCount node.occupancy) ∧
        Node.AreDrawable (Node.kept (side.pick sources targets)) ∧
        (Node.AreDrawable (side.pick sources targets) ↔
          ∀ node ∈ side.pick sources targets, node.isVacant = true →
            IsCount node.capacity ∧
              ((side.pick sources targets).map (·.key)).count node.key = 1) := by
  obtain ⟨drawable, -⟩ := draw_eq_ok_iff.mp drawn
  refine ⟨drawable.isCount_link, fun side => ?_⟩
  have kept : Node.AreDrawable (Node.kept (side.pick sources targets)) := by
    cases side with
    | source => exact drawable.areDrawable_sources
    | target => exact drawable.areDrawable_targets
  exact ⟨fun node given => Node.isCount_occupancy_of_kept kept given, kept,
    Node.areDrawable_iff_of_kept kept⟩

/-- A trip between sentinels, of which one stands for nobody. -/
def quietStation : Network Float where
  sources := [⟨.sentinel .boarding, 0, 0, 0⟩, ⟨.sentinel .previous, 0, 3, 0⟩,
    ⟨.real ⟨"a"⟩, 10, 4, 8⟩]
  targets := [⟨.real ⟨"a"⟩, 10, 5, 8⟩, ⟨.sentinel .exiting, 0, 2, 0⟩]
  links := [⟨0, .sentinel .previous, .real ⟨"a"⟩, 3⟩]

/-- The nodes of both sides are proper, the sentinel for nobody as well. -/
theorem draw_wellFormed_quietStation :
    (∃ diagram, draw quietStation.sources quietStation.targets quietStation.links
      Style.station = .ok diagram) ∧
      Node.AreDrawable quietStation.sources ∧ Node.AreDrawable quietStation.targets := by
  have drawn := draw_eq_ok_layout (by decide +kernel :
    check (Node.kept quietStation.sources) (Node.kept quietStation.targets)
      quietStation.links Style.station = .ok ())
  obtain ⟨-, sides⟩ := draw_wellFormed drawn
  exact ⟨⟨_, drawn⟩, (sides .source).2.2.mpr (by decide +kernel),
    (sides .target).2.2.mpr (by decide +kernel)⟩

/-- A sentinel for nobody with less than no place, opposite one that is given twice. -/
def ghostStation : Network Float where
  sources := [⟨.sentinel .boarding, 0, 0, -5⟩]
  targets := [⟨.sentinel .exiting, 0, 0, 0⟩, ⟨.sentinel .exiting, 0, 0, 0⟩]
  links := []

/-- It is drawn, although its nodes are proper on neither side. -/
theorem draw_ghostStation :
    (∃ diagram, draw ghostStation.sources ghostStation.targets ghostStation.links
      Style.station = .ok diagram) ∧
      (∃ node ∈ ghostStation.sources, ¬ IsCount node.capacity) ∧
      ¬ (ghostStation.targets.map (·.key)).Nodup :=
  ⟨⟨_, draw_eq_ok_layout (by decide +kernel)⟩, by decide +kernel, by decide⟩

end Diagram

end TransitDiagram
