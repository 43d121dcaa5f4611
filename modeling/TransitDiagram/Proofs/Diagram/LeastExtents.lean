import TransitDiagram.Proofs.Diagram.Balance

/-!
# Least extents

In exact arithmetic whatever stands for somebody is seen: a body, the backdrop of a real node and a
ribbon are at least as long as the style says. A link for nobody has no ribbon. A body or a backdrop
for nobody has no extent of its own, but the least thickness of ribbons is added to it as to any
other one (`Diagram.surplus`), so that it vanishes only if no ribbon at the node is thickened.
-/

namespace TransitDiagram

open Quantity

theorem Node.leastNode_le_extentOf {style : Style Rat} {count : Rat} (present : 0 < count)
    (added : Rat) : style.leastNode ≤ extentOf style count added := by
  rw [extentOf_rat, if_pos present]
  exact le_max_right _ _

namespace Diagram

/-- What the ribbons at a node take beyond the count of their passengers. -/
def surplus (diagram : Diagram Rat) (scale : Rat) (side : Side) (key : NodeKey) : Rat :=
  ((diagram.ribbonsAt side key).map fun ribbon => ribbon.extent - ribbon.value / scale).sum

theorem surplus_eq (diagram : Diagram Rat) (scale : Rat) (side : Side) (key : NodeKey) :
    diagram.surplus scale side key = diagram.ribbonExtent side key -
      ((diagram.ribbonsAt side key).map (·.value)).sum / scale := by
  rw [surplus, ribbonExtent]
  induction diagram.ribbonsAt side key with
  | nil => simp
  | cons ribbon rest ih =>
    simp only [List.map_cons, List.sum_cons, ih]
    ring

variable {sources targets : List (Node Rat)} {links : List (Link Rat)} {style : Style Rat}
  {side : Side} {node : PlacedNode Rat}

theorem surplus_layout (drawable : IsDrawable sources targets links style) (side : Side)
    (key : NodeKey) :
    surplus (layout sources targets links style) style.scale side key =
      ribbonExtent (layout sources targets links style) side key -
        carried sources targets links side key / style.scale := by
  rw [surplus_eq, sum_value_ribbonsAt drawable]

theorem value_pos_of_mem_ribbons (drawable : style.IsDrawable) {ribbon : Ribbon Rat}
    (member : ribbon ∈ (layout sources targets links style).ribbons) : 0 < ribbon.value := by
  have shown := List.mem_map_of_mem (f := Ribbon.link) member
  rw [map_link_ribbons_connected drawable] at shown
  exact of_decide_eq_true (List.mem_filter.mp shown).2

theorem leastLink_le_extent (drawable : style.IsDrawable) {ribbon : Ribbon Rat}
    (member : ribbon ∈ (layout sources targets links style).ribbons) :
    style.leastLink ≤ ribbon.extent := by
  rw [extent_of_mem_ribbons_layout member]
  exact Extent.least_le_ribbon (value_pos_of_mem_ribbons drawable member)

/-- Nothing is added to a node if all of its ribbons are as thick as the least one by themselves. -/
theorem surplus_layout_eq_zero_iff (drawable : style.IsDrawable) (side : Side) (key : NodeKey) :
    surplus (layout sources targets links style) style.scale side key = 0 ↔
      ∀ ribbon ∈ (layout sources targets links style).ribbonsAt side key,
        style.leastLink * style.scale ≤ ribbon.value := by
  have thickened : ∀ ribbon ∈ (layout sources targets links style).ribbonsAt side key,
      ribbon.extent - ribbon.value / style.scale =
        Extent.thickening ribbon.value style.scale style.leastLink := by
    intro ribbon member
    have shown := List.mem_of_mem_filter member
    rw [extent_of_mem_ribbons_layout shown,
      Extent.thickening_rat (value_pos_of_mem_ribbons drawable shown).le]
  have nonneg : ∀ added ∈ ((layout sources targets links style).ribbonsAt side key).map
      (fun ribbon => Extent.thickening ribbon.value style.scale style.leastLink), 0 ≤ added :=
    List.forall_mem_map.mpr fun ribbon _ => Extent.thickening_nonneg _ _ _
  have alone : ∀ ribbon ∈ (layout sources targets links style).ribbonsAt side key,
      (Extent.thickening ribbon.value style.scale style.leastLink = 0 ↔
        style.leastLink * style.scale ≤ ribbon.value) := by
    intro ribbon member
    have present := value_pos_of_mem_ribbons drawable (List.mem_of_mem_filter member)
    rw [Extent.thickening_eq_zero_iff drawable.scale_pos, or_iff_right (not_le.mpr present)]
  rw [surplus, List.map_congr_left thickened]
  constructor
  · intro none ribbon member
    refine (alone ribbon member).mp ?_
    exact List.all_zero_of_le_zero_le_of_sum_eq_zero nonneg none (List.mem_map_of_mem member)
  · intro wide
    refine List.sum_eq_zero (List.forall_mem_map.mpr fun ribbon member => ?_)
    exact (alone ribbon member).mpr (wide ribbon member)

/-- Whatever stands for somebody is at least as long as the style says: bodies, backdrops of real
nodes, and ribbons, which are those of all links with passengers and both ends in the diagram. A
body or a backdrop for nobody has the extent that the least thickness of ribbons adds to it: none
exactly if every ribbon at the node is as thick as the least one without being raised. -/
theorem draw_leastExtents {diagram : Diagram Rat}
    (drawn : draw sources targets links style = .ok diagram) :
    (∀ side, ∀ node ∈ diagram.onSide side,
        (0 < node.occupancy → style.leastNode ≤ node.bodyExtent) ∧
        (node.occupancy = 0 → node.bodyExtent = diagram.surplus style.scale side node.key) ∧
        (node.key.isSentinel = false →
          (0 < node.capacity → style.leastNode ≤ node.backdropExtent) ∧
          (node.capacity = 0 →
            node.backdropExtent = diagram.surplus style.scale side node.key)) ∧
        (diagram.surplus style.scale side node.key = 0 ↔
          ∀ ribbon ∈ diagram.ribbonsAt side node.key,
            style.leastLink * style.scale ≤ ribbon.value)) ∧
      diagram.ribbons.map Ribbon.link =
        (links.filter fun link =>
          link.IsConnected (Node.kept sources) (Node.kept targets) ∧ 0 < link.value) ∧
      ∀ ribbon ∈ diagram.ribbons, style.leastLink ≤ ribbon.extent := by
  obtain ⟨drawable, rfl⟩ := draw_eq_ok_iff.mp drawn
  refine ⟨fun side node member => ?_, map_link_ribbons_layout_rat drawable.isDrawable_style,
    fun ribbon member => leastLink_le_extent drawable.isDrawable_style member⟩
  have body := bodyExtent_layout drawable member
  have backdrop := backdropExtent_layout drawable member
  rw [← surplus_layout drawable] at body backdrop
  refine ⟨fun present => ?_, fun nobody => ?_, fun real => ⟨fun present => ?_, fun none => ?_⟩,
    surplus_layout_eq_zero_iff drawable.isDrawable_style side node.key⟩
  · exact body ▸ Node.leastNode_le_extentOf present _
  · rw [body, nobody, Node.extentOf_zero]
  · exact backdrop real ▸ Node.leastNode_le_extentOf present _
  · rw [backdrop real, none, Node.extentOf_zero]

/-- An empty trip and a trip without places, both with passengers on their links. -/
def emptyTrainStation : Network Rat where
  sources := [⟨.real ⟨"a"⟩, 10, 0, 8⟩, ⟨.real ⟨"b"⟩, 20, 1, 0⟩]
  targets := [⟨.real ⟨"c"⟩, 30, 9, 0⟩]
  links := [⟨0, .real ⟨"a"⟩, .real ⟨"c"⟩, 3⟩, ⟨1, .real ⟨"b"⟩, .real ⟨"c"⟩, 8⟩]

/-- The link of the second trip is as thick as the least one by itself, so nothing is added to that
trip: its body is of the least extent and its backdrop vanishes. -/
theorem draw_leastExtents_emptyTrainStation :
    ∃ diagram, draw emptyTrainStation.sources emptyTrainStation.targets emptyTrainStation.links
        (Style.plain .paired) = .ok diagram ∧
      diagram.sources.map (fun node => (node.occupancy, node.capacity, node.bodyExtent,
        node.backdropExtent)) = [(0, 8, 5 / 4, 13 / 4), (1, 0, 2, 0)] ∧
      (∀ node ∈ diagram.sources, node.occupancy = 0 →
        node.bodyExtent = diagram.surplus 4 .source node.key) ∧
      (∀ ribbon ∈ diagram.ribbonsAt .source (.real ⟨"b"⟩), 2 * 4 ≤ ribbon.value) ∧
      ∀ ribbon ∈ diagram.ribbons, 2 ≤ ribbon.extent := by
  have drawn := draw_eq_ok_layout (by decide +kernel :
    check (Node.kept emptyTrainStation.sources) (Node.kept emptyTrainStation.targets)
      emptyTrainStation.links (Style.plain .paired) = .ok ())
  obtain ⟨nodes, -, ribbons⟩ := draw_leastExtents drawn
  have sources : (layout (Node.kept emptyTrainStation.sources) (Node.kept emptyTrainStation.targets)
      emptyTrainStation.links (Style.plain .paired)).sources.map
        (fun node => (node.key, node.capacity, node.backdropExtent)) =
      [(.real ⟨"a"⟩, 8, 13 / 4), (.real ⟨"b"⟩, 0, 0)] := by cbv
  obtain ⟨node, member, values⟩ :=
    List.mem_map.mp (sources ▸ List.mem_cons_of_mem _ (List.mem_singleton_self _))
  obtain ⟨key, capacity, backdrop⟩ := by simpa only [Prod.mk.injEq] using values
  obtain ⟨-, -, real, vanishes⟩ := nodes .source node member
  have none := (real (by rw [key]; rfl)).2 capacity
  refine ⟨_, drawn, by cbv, fun node member => (nodes .source node member).2.1, ?_, ribbons⟩
  exact key ▸ vanishes.mp (none ▸ backdrop)

/-- The body of the empty trip has an extent, and so has the backdrop of the last trip, which has no
places. -/
theorem draw_roomForNobody :
    ∃ diagram, draw emptyTrainStation.sources emptyTrainStation.targets emptyTrainStation.links
        (Style.plain .paired) = .ok diagram ∧
      (∃ node ∈ diagram.sources, node.occupancy = 0 ∧ node.bodyExtent ≠ 0) ∧
      ∃ node ∈ diagram.targets,
        node.key.isSentinel = false ∧ node.capacity = 0 ∧ node.backdropExtent ≠ 0 := by
  have sources : (layout (Node.kept emptyTrainStation.sources) (Node.kept emptyTrainStation.targets)
      emptyTrainStation.links (Style.plain .paired)).sources.map
        (fun node => (node.occupancy, node.bodyExtent)) = [(0, 5 / 4), (1, 2)] := by cbv
  have targets : (layout (Node.kept emptyTrainStation.sources) (Node.kept emptyTrainStation.targets)
      emptyTrainStation.links (Style.plain .paired)).targets.map
        (fun node => (node.key, node.capacity, node.backdropExtent)) =
      [(.real ⟨"c"⟩, 0, 5 / 4)] := by cbv
  obtain ⟨empty, member, values⟩ := List.mem_map.mp (sources ▸ List.mem_cons_self)
  obtain ⟨placeless, member', values'⟩ := List.mem_map.mp (targets ▸ List.mem_cons_self)
  obtain ⟨nobody, body⟩ := by simpa only [Prod.mk.injEq] using values
  obtain ⟨key, none, backdrop⟩ := by simpa only [Prod.mk.injEq] using values'
  refine ⟨_, draw_eq_ok_layout (by decide +kernel), ⟨empty, member, nobody, ?_⟩,
    placeless, member', by rw [key]; rfl, none, ?_⟩
  · norm_num [body]
  · norm_num [backdrop]

end Diagram

end TransitDiagram
