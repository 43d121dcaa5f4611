import TransitDiagram.Diagram.Draw
import TransitDiagram.Proofs.Checks

/-!
# What can be drawn

`Diagram.draw` checks its style, the nodes of either side, the links and the times of the nodes one
after another. `Diagram.IsDrawable` states what those checks accept, and `draw_eq_ok_iff` says that
a diagram is drawn exactly if its kept nodes, its links and its style are drawable.
-/

namespace TransitDiagram

open Quantity

variable {α : Type} [Quantity α]

/-! ### Styles -/

structure TimeAxis.IsDrawable (axis : TimeAxis α) : Prop where
  width : IsPositive axis.width
  frameHours : IsPositive axis.frameHours

structure Style.IsDrawable (style : Style α) : Prop where
  scale : IsPositive style.scale
  leastNode : IsNonNegative style.leastNode
  leastLink : IsNonNegative style.leastLink
  padding : IsNonNegative style.padding
  overflowGap : IsNonNegative style.overflowGap
  leastNode_le : ¬ style.leastLink < style.leastNode
  axis : ∀ axis, style.axis = .time axis → axis.IsDrawable

theorem TimeAxis.check_eq_ok_iff {axis : TimeAxis α} : axis.check = .ok () ↔ axis.IsDrawable := by
  rw [check, Fault.check_bind_eq_ok_iff, Fault.checkPositive_eq_ok_iff,
    Fault.checkPositive_eq_ok_iff]
  exact ⟨fun ⟨width, hours⟩ => ⟨width, hours⟩, fun h => ⟨h.width, h.frameHours⟩⟩

theorem Style.check_eq_ok_iff {style : Style α} : style.check = .ok () ↔ style.IsDrawable := by
  simp only [check, Fault.check_bind_eq_ok_iff, Fault.checkPositive_eq_ok_iff,
    Fault.checkNonNegative_eq_ok_iff]
  by_cases exceeds : style.leastLink < style.leastNode
  · rw [if_pos exceeds]
    constructor
    · rintro ⟨-, -, -, -, -, refused⟩
      exact absurd (Fault.bind_eq_ok_iff.mp refused) (by simp [Fault.throw_ne_ok])
    · exact fun h => absurd exceeds h.leastNode_le
  rw [if_neg exceeds]
  constructor
  · rintro ⟨scale, node, link, padding, gap, accepted⟩
    refine ⟨scale, node, link, padding, gap, exceeds, fun axis found => ?_⟩
    rw [found] at accepted
    exact TimeAxis.check_eq_ok_iff.mp accepted
  · rintro ⟨scale, node, link, padding, gap, -, axis⟩
    refine ⟨scale, node, link, padding, gap, ?_⟩
    split
    · rfl
    · next found => exact TimeAxis.check_eq_ok_iff.mpr (axis _ found)

/-! ### Nodes and links -/

/-- What the nodes of one side need in order to be drawn. -/
structure Node.AreDrawable (nodes : List (Node α)) : Prop where
  occupancy : ∀ node ∈ nodes, IsCount node.occupancy
  capacity : ∀ node ∈ nodes, IsCount node.capacity
  nodup_key : (nodes.map (·.key)).Nodup

theorem Node.AreDrawable.sublist {nodes some : List (Node α)} (drawable : AreDrawable nodes)
    (part : some.Sublist nodes) : AreDrawable some :=
  ⟨fun node member => drawable.occupancy node (part.mem member),
    fun node member => drawable.capacity node (part.mem member),
    drawable.nodup_key.sublist (part.map _)⟩

theorem Node.AreDrawable.perm {nodes nodes' : List (Node α)} (drawable : AreDrawable nodes)
    (perm : nodes.Perm nodes') : AreDrawable nodes' :=
  ⟨fun node member => drawable.occupancy node (perm.mem_iff.mpr member),
    fun node member => drawable.capacity node (perm.mem_iff.mpr member),
    (perm.map _).nodup_iff.mp drawable.nodup_key⟩

theorem Node.areDrawable_cons_iff {node : Node α} {rest : List (Node α)} :
    AreDrawable (node :: rest) ↔ IsCount node.occupancy ∧ IsCount node.capacity ∧
      node.key ∉ rest.map (·.key) ∧ AreDrawable rest := by
  constructor
  · intro drawable
    obtain ⟨occupancy, occupancies⟩ := List.forall_mem_cons.mp drawable.occupancy
    obtain ⟨capacity, capacities⟩ := List.forall_mem_cons.mp drawable.capacity
    obtain ⟨fresh, nodup⟩ := List.nodup_cons.mp drawable.nodup_key
    exact ⟨occupancy, capacity, fresh, occupancies, capacities, nodup⟩
  · rintro ⟨occupancy, capacity, fresh, drawable⟩
    constructor
    · exact List.forall_mem_cons.mpr ⟨occupancy, drawable.occupancy⟩
    · exact List.forall_mem_cons.mpr ⟨capacity, drawable.capacity⟩
    · exact List.nodup_cons.mpr ⟨fresh, drawable.nodup_key⟩

theorem Node.checkAll_eq_ok_iff {side : Side} {seen : List NodeKey} {nodes : List (Node α)} :
    checkAll side seen nodes = .ok () ↔
      AreDrawable nodes ∧ ∀ node ∈ nodes, node.key ∉ seen := by
  induction nodes generalizing seen with
  | nil =>
    rw [checkAll, Fault.pure_eq_ok_iff]
    exact ⟨fun _ => ⟨⟨by simp, by simp, by simp⟩, by simp⟩, fun _ => rfl⟩
  | cons node rest ih =>
    simp only [checkAll, Fault.check_bind_eq_ok_iff, Fault.checkCount_eq_ok_iff,
      areDrawable_cons_iff, List.forall_mem_cons]
    by_cases repeated : node.key ∈ seen
    · rw [if_pos repeated]
      constructor
      · rintro ⟨-, -, refused⟩
        exact absurd (Fault.bind_eq_ok_iff.mp refused) (by simp [Fault.throw_ne_ok])
      · exact fun h => absurd repeated h.2.1
    · rw [if_neg repeated, ih]
      -- A key counts as seen for the rest if it was seen before or belongs to this node.
      have seen_rest : (∀ other ∈ rest, other.key ∉ node.key :: seen) ↔
          node.key ∉ rest.map (·.key) ∧ ∀ other ∈ rest, other.key ∉ seen := by
        simp only [List.mem_cons, not_or, forall₂_and, List.mem_map, not_exists, not_and]
      rw [seen_rest]
      tauto

/-! ### Diagrams -/

namespace Diagram

/-- What nodes, links and a style need in order to be drawn. -/
structure IsDrawable (sources targets : List (Node α)) (links : List (Link α))
    (style : Style α) : Prop where
  isDrawable_style : style.IsDrawable
  areDrawable_sources : Node.AreDrawable sources
  areDrawable_targets : Node.AreDrawable targets
  isCount_link : ∀ link ∈ links, IsCount link.value
  checkNode_source : ∀ node ∈ sources, style.axis.checkNode node = .ok ()
  checkNode_target : ∀ node ∈ targets, style.axis.checkNode node = .ok ()

variable {sources targets : List (Node α)} {links : List (Link α)} {style : Style α}

theorem check_eq_ok_iff :
    check sources targets links style = .ok () ↔ IsDrawable sources targets links style := by
  have empty (nodes : List (Node α)) : ∀ node ∈ nodes, node.key ∉ ([] : List NodeKey) :=
    fun node _ => List.not_mem_nil
  have link (l : Link α) : l.check = .ok () ↔ IsCount l.value := Fault.checkCount_eq_ok_iff
  simp only [check, Fault.check_bind_eq_ok_iff, Style.check_eq_ok_iff, Node.checkAll_eq_ok_iff,
    Fault.forM_eq_ok_iff, link]
  constructor
  · rintro ⟨style, ⟨sources, -⟩, ⟨targets, -⟩, links, sourceTimes, targetTimes⟩
    exact ⟨style, sources, targets, links, sourceTimes, targetTimes⟩
  · exact fun h => ⟨h.isDrawable_style, ⟨h.areDrawable_sources, empty _⟩,
      ⟨h.areDrawable_targets, empty _⟩, h.isCount_link, h.checkNode_source, h.checkNode_target⟩

/-- The other checks look at no more of a valid style than its axis. -/
theorem check_congr_style {style' : Style α} (axis : style'.axis = style.axis)
    (valid : style.check = .ok ()) (valid' : style'.check = .ok ()) :
    check sources targets links style' = check sources targets links style := by
  rw [check, check, valid, valid', axis]

/-- A diagram is drawn exactly if what is kept of it can be drawn. -/
theorem draw_eq_ok_iff {diagram : Diagram α} :
    draw sources targets links style = .ok diagram ↔
      IsDrawable (Node.kept sources) (Node.kept targets) links style ∧
        layout (Node.kept sources) (Node.kept targets) links style = diagram := by
  rw [draw, Fault.check_bind_eq_ok_iff, check_eq_ok_iff, Fault.pure_eq_ok_iff]

theorem draw_eq_ok_layout
    (accepted : check (Node.kept sources) (Node.kept targets) links style = .ok ()) :
    draw sources targets links style =
      .ok (layout (Node.kept sources) (Node.kept targets) links style) :=
  draw_eq_ok_iff.mpr ⟨check_eq_ok_iff.mp accepted, rfl⟩

end Diagram

end TransitDiagram
