import TransitDiagram.Proofs.Diagram.Fates
import TransitDiagram.Proofs.Diagram.Tiling

/-!
# The balance of the sides

A node counts the passengers on its links, whether or not they are seen. In exact arithmetic it
counts those on its ribbons, since a link for nobody adds nobody. Every ribbon ends at one node of
either side, so that both sides count all passengers on ribbons once and agree with each other. A
link with an unknown end is counted nowhere.
-/

namespace TransitDiagram

open Quantity

/-- The passengers on the links of a node, counted as those of a node on this side. -/
def PlacedNode.linkSumOn {α : Type} (side : Side) (node : PlacedNode α) : α :=
  side.pick node.linkSumOut node.linkSumIn

theorem PlacedNode.linkSumOn_ofSized {α : Type} [Quantity α] (style : Style α) (rank : Nat)
    (start tallest : α) (side other : Side) (sized : SizedNode α) :
    (ofSized style rank start tallest side sized).linkSumOn other =
      if other = side then sized.size.linkSum else 0 := by
  cases side <;> cases other <;> rfl

theorem Ribbon.endOf_link {α : Type} (side : Side) (ribbon : Ribbon α) :
    side.endOf ribbon.link = ribbon.endOn side := by
  cases side <;> rfl

/-- Links that are connected stay so when the others are left out. -/
theorem Link.connected_idem {α : Type} (sources targets : List (Node α)) (links : List (Link α)) :
    connected sources targets (connected sources targets links) =
      connected sources targets links := by
  simp only [connected, List.filter_filter, Bool.and_self]

theorem Link.filterMap_looseEnd?_connected {α : Type} (sources targets : List (Node α))
    (links : List (Link α)) :
    (connected sources targets links).filterMap (looseEnd? sources targets) = [] := by
  refine List.filterMap_eq_nil_iff.mpr fun link member => ?_
  exact Option.isNone_iff_eq_none.mp (List.mem_filter.mp member).2

namespace Diagram

section Quantities

variable {α : Type} [Quantity α] {sources targets : List (Node α)} {links : List (Link α)}
  {style : Style α} {side : Side} {node : PlacedNode α}

/-- Without its loose links a diagram is the same, and has no loose ends. -/
theorem layout_connected :
    layout sources targets (Link.connected sources targets links) style =
      { layout sources targets links style with looseEnds := [] } := by
  simp only [layout, Link.connected_idem, Link.filterMap_looseEnd?_connected]

theorem linkSumOn_layout (drawable : IsDrawable sources targets links style)
    (member : node ∈ (layout sources targets links style).onSide side) :
    node.linkSumOn side =
      total (Link.valuesAt side (Link.connected sources targets links) node.key) := by
  obtain ⟨given, -, rank, start, tallest, rfl⟩ := exists_of_mem_onSide drawable member
  rw [PlacedNode.linkSumOn_ofSized, if_pos rfl]
  rfl

/-- A node counts nobody on the other side. -/
theorem linkSumOn_across_layout (drawable : IsDrawable sources targets links style)
    (member : node ∈ (layout sources targets links style).onSide side) :
    node.linkSumOn side.across = 0 := by
  obtain ⟨given, -, rank, start, tallest, rfl⟩ := exists_of_mem_onSide drawable member
  rw [PlacedNode.linkSumOn_ofSized, if_neg]
  cases side <;> decide

end Quantities

variable {sources targets : List (Node Rat)} {links : List (Link Rat)} {style : Style Rat}

theorem map_link_ribbons_connected (drawable : style.IsDrawable) :
    (layout sources targets links style).ribbons.map Ribbon.link =
      (Link.connected sources targets links).filter fun link => 0 < link.value := by
  rw [map_link_ribbons_layout_rat drawable, Link.connected_eq_filter, List.filter_filter]
  apply List.filter_congr
  intro link _
  rw [Bool.decide_and, Bool.and_comm]

theorem map_link_ribbonsAt (drawable : style.IsDrawable) (side : Side) (key : NodeKey) :
    ((layout sources targets links style).ribbonsAt side key).map Ribbon.link =
      ((Link.connected sources targets links).filter fun link => side.endOf link = key).filter
        fun link => 0 < link.value := by
  have ends : (fun ribbon : Ribbon Rat => decide (ribbon.endOn side = key)) =
      (fun link => decide (side.endOf link = key)) ∘ Ribbon.link := by
    funext ribbon
    rw [Function.comp_apply, Ribbon.endOf_link]
  rw [ribbonsAt, ends, ← List.filter_map, map_link_ribbons_connected drawable, List.filter_comm]

/-- Links for nobody have no ribbon, and a sum does not miss them. -/
theorem sum_map_filter_value {kept : List (Link Rat)}
    (counts : ∀ link ∈ kept, IsCount link.value) :
    ((kept.filter fun link => 0 < link.value).map (·.value)).sum = (kept.map (·.value)).sum := by
  refine sum_map_filter fun link member nobody => ?_
  have count := isCount_rat.mp (counts link member)
  exact le_antisymm (not_lt.mp (of_decide_eq_false nobody)) count

theorem IsDrawable.isCount_connected (drawable : IsDrawable sources targets links style) :
    ∀ link ∈ Link.connected sources targets links, IsCount link.value :=
  fun link member => drawable.isCount_link link (List.mem_of_mem_filter member)

theorem sum_value_ribbons (drawable : IsDrawable sources targets links style) :
    ((layout sources targets links style).ribbons.map (·.value)).sum =
      ((Link.connected sources targets links).map (·.value)).sum := by
  rw [← sum_map_filter_value drawable.isCount_connected,
    ← map_link_ribbons_connected drawable.isDrawable_style, List.map_map]
  rfl

/-- The ribbons at a node carry all passengers on its links. -/
theorem sum_value_ribbonsAt (drawable : IsDrawable sources targets links style) (side : Side)
    (key : NodeKey) :
    (((layout sources targets links style).ribbonsAt side key).map (·.value)).sum =
      carried sources targets links side key := by
  rw [carried, Link.valuesAt, ← sum_map_filter_value,
    ← map_link_ribbonsAt drawable.isDrawable_style, List.map_map]
  · rfl
  · exact fun link member => drawable.isCount_connected link (List.mem_of_mem_filter member)

theorem linkSumOn_layout_rat (drawable : IsDrawable sources targets links style) {side : Side}
    {node : PlacedNode Rat} (member : node ∈ (layout sources targets links style).onSide side) :
    node.linkSumOn side =
      (((layout sources targets links style).ribbonsAt side node.key).map (·.value)).sum := by
  rw [linkSumOn_layout drawable member, total_rat, sum_value_ribbonsAt drawable, carried]

/-- A side counts the passengers on every ribbon once, at the node where it ends. -/
theorem sum_linkSumOn_layout (drawable : IsDrawable sources targets links style) (side : Side) :
    (((layout sources targets links style).onSide side).map (·.linkSumOn side)).sum =
      ((layout sources targets links style).ribbons.map (·.value)).sum := by
  have covered : ∀ ribbon ∈ (layout sources targets links style).ribbons,
      ribbon.endOn side ∈ ((layout sources targets links style).onSide side).map (·.key) := by
    intro ribbon member
    obtain ⟨node, shown, ends⟩ := exists_node_of_mem_ribbons drawable member side
    exact ends ▸ List.mem_map_of_mem shown
  rw [← sum_map_groups (·.value) (nodup_key_onSide drawable side) covered, List.map_map]
  refine congrArg List.sum (List.map_congr_left fun node member => ?_)
  exact linkSumOn_layout_rat drawable member

/-- The sides of a diagram balance. A node counts the passengers on its ribbons, as those of its own
side alone, and the nodes of either side together count all passengers on ribbons, which are those
on the links with both ends in the diagram. Without the other links the same diagram is drawn, but
for their reports. -/
theorem draw_balanced {diagram : Diagram Rat}
    (drawn : draw sources targets links style = .ok diagram) :
    (∀ side, ∀ node ∈ diagram.onSide side,
        node.linkSumOn side = ((diagram.ribbonsAt side node.key).map (·.value)).sum ∧
          node.linkSumOn side.across = 0) ∧
      (∀ side, ((diagram.onSide side).map (·.linkSumOn side)).sum =
        (diagram.ribbons.map (·.value)).sum) ∧
      (diagram.ribbons.map (·.value)).sum =
        ((Link.connected (Node.kept sources) (Node.kept targets) links).map (·.value)).sum ∧
      draw sources targets (Link.connected (Node.kept sources) (Node.kept targets) links) style =
        .ok { diagram with looseEnds := [] } := by
  obtain ⟨drawable, rfl⟩ := draw_eq_ok_iff.mp drawn
  refine ⟨fun side node member => ⟨linkSumOn_layout_rat drawable member,
    linkSumOn_across_layout drawable member⟩, sum_linkSumOn_layout drawable,
    sum_value_ribbons drawable, ?_⟩
  exact draw_eq_ok_iff.mpr
    ⟨{ drawable with isCount_link := drawable.isCount_connected }, layout_connected⟩

/-- Of the links of the trips, whose ids repeat, two are seen, one is for nobody, and three end
nowhere. Each side counts the eight passengers on the two. -/
theorem draw_balanced_looseStation :
    ∃ diagram, draw looseStation.sources looseStation.targets looseStation.links
        (Style.plain .paired) = .ok diagram ∧
      diagram.sources.map (fun node => (node.linkSumOut, node.linkSumIn)) = [(8, 0)] ∧
      (diagram.ribbons.map (·.value)).sum = 8 ∧
      (∀ side, ((diagram.onSide side).map (·.linkSumOn side)).sum = 8) ∧
      draw looseStation.sources looseStation.targets
        (Link.connected (Node.kept looseStation.sources) (Node.kept looseStation.targets)
          looseStation.links) (Style.plain .paired) = .ok { diagram with looseEnds := [] } := by
  have drawn := draw_eq_ok_layout (by decide +kernel :
    check (Node.kept looseStation.sources) (Node.kept looseStation.targets) looseStation.links
      (Style.plain .paired) = .ok ())
  have ribbons : ((layout (Node.kept looseStation.sources) (Node.kept looseStation.targets)
      looseStation.links (Style.plain .paired)).ribbons.map (·.value)).sum = 8 := by cbv
  obtain ⟨-, sides, -, connected⟩ := draw_balanced drawn
  exact ⟨_, drawn, by cbv, ribbons, fun side => (sides side).trans ribbons, connected⟩

end Diagram

end TransitDiagram
