import TransitDiagram.Proofs.Diagram.Packing
import TransitDiagram.Proofs.Diagram.Slices

/-!
# Bodies are tiled by their ribbons

The least thickness of a ribbon is paid for by the nodes at its ends: in exact arithmetic a body is
as long as its ribbons together, plus what its occupancy exceeds the passengers on its links by.
From the end of the body upwards the slices of its ribbons follow each other without gap or
overlap, so that a node whose links carry exactly its occupancy is covered by them.
-/

namespace TransitDiagram

open Quantity

/-! ### Slices -/

namespace Ribbon

def sliceStart (side : Side) (ribbon : Ribbon Rat) : Rat :=
  ribbon.offsetOn side - ribbon.extent / 2

def sliceStop (side : Side) (ribbon : Ribbon Rat) : Rat :=
  ribbon.offsetOn side + ribbon.extent / 2

/-- Slices that follow each other upwards from `stop` to `start`, without gap or overlap. -/
def Tile (side : Side) (start : Rat) : Rat → List (Ribbon Rat) → Prop
  | stop, [] => start = stop
  | stop, ribbon :: rest =>
    ribbon.sliceStop side = stop ∧ Tile side start (ribbon.sliceStart side) rest

theorem Tile.start_eq {side : Side} {start stop : Rat} {ribbons : List (Ribbon Rat)}
    (tile : Tile side start stop ribbons) : start = stop - (ribbons.map (·.extent)).sum := by
  induction ribbons generalizing stop with
  | nil => rw [List.map_nil, List.sum_nil, sub_zero]; exact tile
  | cons ribbon rest ih =>
    obtain ⟨here, below⟩ := tile
    rw [ih below, List.map_cons, List.sum_cons, ← here, sliceStart, sliceStop]
    ring

theorem Tile.bounds {side : Side} {start stop : Rat} {ribbons : List (Ribbon Rat)}
    (tile : Tile side start stop ribbons) (extents : ∀ ribbon ∈ ribbons, 0 ≤ ribbon.extent) :
    ∀ ribbon ∈ ribbons, start ≤ ribbon.sliceStart side ∧ ribbon.sliceStop side ≤ stop := by
  induction ribbons generalizing stop with
  | nil => exact fun ribbon member => absurd member List.not_mem_nil
  | cons ribbon rest ih =>
    obtain ⟨here, below⟩ := tile
    obtain ⟨extent, extents⟩ := List.forall_mem_cons.mp extents
    have total : 0 ≤ (rest.map (·.extent)).sum := sum_map_nonneg extents
    have start_le : start ≤ ribbon.sliceStart side := by
      rw [below.start_eq]
      linarith
    refine List.forall_mem_cons.mpr ⟨⟨start_le, here.le⟩, fun other member => ?_⟩
    obtain ⟨lower, upper⟩ := ih below extents other member
    refine ⟨lower, upper.trans ?_⟩
    rw [← here, sliceStart, sliceStop]
    linarith

end Ribbon

namespace Strand

variable {stack : Stack Rat} {side : Side}

/-- The table of a node gives out slices that tile. -/
theorem tile_of_slices_eq {strands all : List (Strand Rat)} {bodyEnd offset : Rat} {order : Nat}
    (table : slices bodyEnd offset order strands =
      strands.map fun strand => (strand.index, strand.sliceIn (slicesOn stack all side))) :
    Ribbon.Tile side (bodyEnd - offset - (strands.map (·.extent)).sum) (bodyEnd - offset)
      (strands.map (ribbon stack all)) := by
  -- The offset counts from the end of the body and grows by every strand that is passed.
  induction strands generalizing offset order with
  | nil => exact sub_zero _
  | cons strand rest ih =>
    rw [slices, List.map_cons, List.cons.injEq, Prod.mk.injEq] at table
    obtain ⟨⟨-, slice⟩, table⟩ := table
    have centre : (ribbon stack all strand).offsetOn side =
        bodyEnd - offset - strand.extent / 2 := by
      rw [offsetOn_ribbon, ← slice]
    have extent : (ribbon stack all strand).extent = strand.extent := rfl
    have tile := ih table
    refine ⟨?_, ?_⟩
    · rw [Ribbon.sliceStop, centre, extent]
      ring
    · rw [Ribbon.sliceStart, centre, extent, List.map_cons, List.sum_cons]
      convert tile using 1 <;> ring

/-- The strands at a key are together as thick as the ribbons of all its links. -/
theorem sum_extent_ofLinks {style : Style Rat} (drawable : style.IsDrawable)
    (links : List (Link Rat)) (key : NodeKey) :
    (((ofLinks style links).filter fun strand => side.endOf strand.link = key).map
        (·.extent)).sum =
      ((Link.valuesAt side links key).map fun value =>
        Extent.ribbon value style.scale style.leastLink).sum := by
  rw [ofLinks, List.filter_comm, sum_map_filter, List.filter_map, List.map_map, Link.valuesAt,
    List.map_map]
  · conv_rhs => rw [← List.zipIdx_map_fst 0 links, List.filter_map, List.map_map]
    rfl
  · -- What is not drawn has no extent.
    intro strand member undrawn
    obtain ⟨⟨link, index⟩, -, rfl⟩ := List.mem_map.mp (List.mem_of_mem_filter member)
    have extent : ¬ 0 < Extent.ribbon link.value style.scale style.leastLink :=
      not_lt.mpr (by simpa using undrawn)
    rw [Extent.ribbon_pos_iff drawable.scale_pos, not_lt] at extent
    exact (Extent.ribbon_rat _ _ _).trans (if_pos extent)

end Strand

/-! ### Bodies -/

namespace Node

variable {style : Style Rat}

/-- A node whose links carry somebody has ribbons that are as long as the least node. -/
theorem leastNode_le_sum_ribbon (drawable : style.IsDrawable) {values : List Rat}
    (present : 0 < values.sum) :
    style.leastNode ≤
      (values.map fun value => Extent.ribbon value style.scale style.leastLink).sum := by
  have nonneg (value : Rat) : 0 ≤ Extent.ribbon value style.scale style.leastLink := by
    by_cases carried : 0 < value
    · exact ((Extent.ribbon_pos_iff drawable.scale_pos).mpr carried).le
    · rw [Extent.ribbon_rat, if_pos (not_lt.mp carried)]
  -- Somebody is on one of the links, and the ribbon of that link is thick enough alone.
  obtain ⟨value, member, carried⟩ : ∃ value ∈ values, 0 < value := by
    by_contra! none
    have absent : values.sum ≤ 0 := by
      simpa using List.sum_le_card_nsmul values 0 none
    exact absurd present (not_lt.mpr absent)
  have ribbons : ∀ extent ∈ values.map fun value =>
      Extent.ribbon value style.scale style.leastLink, 0 ≤ extent := by
    refine List.forall_mem_map.mpr fun value _ => nonneg value
  calc style.leastNode
      ≤ style.leastLink := drawable.leastNode_le_leastLink
    _ ≤ Extent.ribbon value style.scale style.leastLink := Extent.least_le_ribbon carried
    _ ≤ _ := List.single_le_sum ribbons _ (List.mem_map_of_mem member)

end Node

namespace Diagram

/-- The passengers at a node on the links that have both ends in the diagram. -/
def carried (sources targets : List (Node Rat)) (links : List (Link Rat)) (side : Side)
    (key : NodeKey) : Rat :=
  (Link.valuesAt side (Link.connected sources targets links) key).sum

def ribbonExtent (diagram : Diagram Rat) (side : Side) (key : NodeKey) : Rat :=
  ((diagram.ribbonsAt side key).map (·.extent)).sum

variable {sources targets : List (Node Rat)} {links : List (Link Rat)} {style : Style Rat}
  {side : Side} {node : PlacedNode Rat}

theorem ribbonExtent_layout (drawable : style.IsDrawable) (key : NodeKey) :
    ribbonExtent (layout sources targets links style) side key =
      ((Link.valuesAt side (Link.connected sources targets links) key).map fun value =>
        Extent.ribbon value style.scale style.leastLink).sum := by
  rw [← Strand.sum_extent_ofLinks drawable, ribbonExtent, ribbonsAt_layout, List.map_map]
  rfl

/-- The least thickness adds to a node what its ribbons take beyond the count of their links. -/
theorem compensation_layout (drawable : IsDrawable sources targets links style) (side : Side)
    (key : NodeKey) :
    Node.compensation style
        (Link.valuesAt side (Link.connected sources targets links) key) =
      ribbonExtent (layout sources targets links style) side key -
        carried sources targets links side key / style.scale := by
  rw [ribbonExtent_layout drawable.isDrawable_style, carried]
  refine Node.compensation_eq fun value given => ?_
  obtain ⟨link, ends, rfl⟩ := List.mem_map.mp given
  have connected := List.mem_of_mem_filter ends
  exact isCount_rat.mp (drawable.isCount_link link (List.mem_of_mem_filter connected))

theorem bodyExtent_layout (drawable : IsDrawable sources targets links style)
    (member : node ∈ (layout sources targets links style).onSide side) :
    node.bodyExtent = Node.extentOf style node.occupancy
      (ribbonExtent (layout sources targets links style) side node.key -
        carried sources targets links side node.key / style.scale) := by
  rw [← compensation_layout drawable]
  obtain ⟨given, -, rank, start, tallest, rfl⟩ := exists_of_mem_onSide drawable member
  rfl

theorem backdropExtent_layout (drawable : IsDrawable sources targets links style)
    (member : node ∈ (layout sources targets links style).onSide side)
    (real : node.key.isSentinel = false) :
    node.backdropExtent = Node.extentOf style node.capacity
      (ribbonExtent (layout sources targets links style) side node.key -
        carried sources targets links side node.key / style.scale) := by
  rw [← compensation_layout drawable]
  obtain ⟨given, -, rank, start, tallest, rfl⟩ := exists_of_mem_onSide drawable member
  exact if_neg (Bool.eq_false_iff.mp real)

/-- A node whose links carry exactly its occupancy is as long as its ribbons. -/
theorem bodyExtent_eq_ribbonExtent (drawable : IsDrawable sources targets links style)
    (member : node ∈ (layout sources targets links style).onSide side)
    (full : node.occupancy = carried sources targets links side node.key) :
    node.bodyExtent = ribbonExtent (layout sources targets links style) side node.key := by
  rw [bodyExtent_layout drawable member, Node.extentOf_rat, full, add_sub_cancel]
  split
  · next present =>
    -- The ribbons are as long as the least node already, so nothing is raised.
    refine max_eq_left ?_
    rw [ribbonExtent_layout drawable.isDrawable_style]
    exact Node.leastNode_le_sum_ribbon drawable.isDrawable_style present
  · rfl

theorem ribbonExtent_le_bodyExtent (drawable : IsDrawable sources targets links style)
    (member : node ∈ (layout sources targets links style).onSide side)
    (room : carried sources targets links side node.key ≤ node.occupancy) :
    ribbonExtent (layout sources targets links style) side node.key ≤ node.bodyExtent := by
  have quotient : carried sources targets links side node.key / style.scale ≤
      node.occupancy / style.scale :=
    div_le_div_of_nonneg_right room drawable.isDrawable_style.scale_pos.le
  rw [bodyExtent_layout drawable member]
  refine le_trans ?_ (Node.count_le_extentOf style node.occupancy _)
  linarith

theorem tile_slicesAt (drawable : IsDrawable sources targets links style)
    (member : node ∈ (layout sources targets links style).onSide side) :
    Ribbon.Tile side
      (node.bodyEnd - ribbonExtent (layout sources targets links style) side node.key)
      node.bodyEnd (slicesAt sources targets links style node) := by
  have keys := nodup_key_onSide drawable side
  have placed := member
  rw [onSide_stackOf] at placed keys
  have tile := Strand.tile_of_slices_eq
    (Strand.slices_eq_map (nodup_index_strandsOf sources targets links style) keys placed)
  rw [sub_zero] at tile
  have extent : ((slicesAt sources targets links style node).map (·.extent)).sum =
      ribbonExtent (layout sources targets links style) side node.key :=
    ((slicesAt_perm member).map _).sum_eq
  rw [← extent, slicesAt, List.map_map]
  exact tile

theorem extent_pos_of_mem_strandsOf {strand : Strand Rat}
    (drawn : strand ∈ strandsOf sources targets links style) :
    0 < (ribbonOf sources targets links style strand).extent :=
  not_le.mp (Strand.of_mem_ofLinks drawn).2.2

theorem extent_pos_of_mem_slicesAt
    (member : node ∈ (layout sources targets links style).onSide side) :
    ∀ ribbon ∈ slicesAt sources targets links style node, 0 < ribbon.extent := by
  intro ribbon given
  obtain ⟨strand, placed, rfl⟩ := List.mem_map.mp given
  exact extent_pos_of_mem_strandsOf ((mem_strandsAt member).mp placed).1

theorem slicesAt_bounds (drawable : IsDrawable sources targets links style)
    (member : node ∈ (layout sources targets links style).onSide side)
    (room : carried sources targets links side node.key ≤ node.occupancy) :
    ∀ ribbon ∈ slicesAt sources targets links style node,
      node.bodyStart ≤ ribbon.sliceStart side ∧ ribbon.sliceStop side ≤ node.bodyEnd := by
  have uncut := bodyEnd_sub_bodyStart drawable member
  have fits := ribbonExtent_le_bodyExtent drawable member room
  have extents := fun ribbon given => (extent_pos_of_mem_slicesAt member ribbon given).le
  intro ribbon given
  obtain ⟨start, stop⟩ := (tile_slicesAt drawable member).bounds extents ribbon given
  exact ⟨by linarith, stop⟩

/-- In a drawing a body is as long as its ribbons and what its occupancy exceeds the passengers on
its links by, raised to the least thickness where it has passengers at all. The slices of its
ribbons follow each other from the end of the body upwards. They stay on a body that has room for
its links, and cover one whose links carry exactly its occupancy. -/
theorem draw_tiled {diagram : Diagram Rat}
    (drawn : draw sources targets links style = .ok diagram)
    (member : node ∈ diagram.onSide side) :
    (node.bodyExtent =
        if 0 < node.occupancy then
          max (diagram.ribbonExtent side node.key + (node.occupancy -
            carried (Node.kept sources) (Node.kept targets) links side node.key) / style.scale)
            style.leastNode
        else diagram.ribbonExtent side node.key + (node.occupancy -
          carried (Node.kept sources) (Node.kept targets) links side node.key) / style.scale) ∧
      (node.occupancy = carried (Node.kept sources) (Node.kept targets) links side node.key →
        node.bodyExtent = diagram.ribbonExtent side node.key) ∧
      (carried (Node.kept sources) (Node.kept targets) links side node.key ≤ node.occupancy →
        diagram.ribbonExtent side node.key ≤ node.bodyExtent) ∧
      ∃ slices start, slices.Perm (diagram.ribbonsAt side node.key) ∧
        slices.map (Ribbon.orderOn side) = List.range slices.length ∧
        Ribbon.Tile side start node.bodyEnd slices ∧
        (carried (Node.kept sources) (Node.kept targets) links side node.key ≤ node.occupancy →
          ∀ ribbon ∈ slices,
            node.bodyStart ≤ ribbon.sliceStart side ∧ ribbon.sliceStop side ≤ node.bodyEnd) ∧
        (node.occupancy = carried (Node.kept sources) (Node.kept targets) links side node.key →
          start = node.bodyStart) := by
  obtain ⟨drawable, rfl⟩ := draw_eq_ok_iff.mp drawn
  have full := bodyExtent_eq_ribbonExtent drawable member
  refine ⟨?_, full, ribbonExtent_le_bodyExtent drawable member,
    slicesAt (Node.kept sources) (Node.kept targets) links style node, _, slicesAt_perm member,
    map_orderOn_slicesAt drawable member, tile_slicesAt drawable member,
    slicesAt_bounds drawable member, fun carriesAll => ?_⟩
  · rw [bodyExtent_layout drawable member, Node.extentOf_rat, sub_div, add_sub, add_comm,
      ← add_sub]
  · rw [← full carriesAll]
    have uncut := bodyEnd_sub_bodyStart drawable member
    linarith

/-- Both ribbons of the departing trip are thicker than they count, and they cover its body. -/
theorem draw_tiled_crowdedStation :
    ∃ diagram, draw crowdedStation.sources crowdedStation.targets crowdedStation.links
        (Style.plain .paired) = .ok diagram ∧
      ∃ node ∈ diagram.targets, node.bodyExtent = 4 ∧ diagram.ribbonExtent .target node.key = 4 ∧
        ∃ slices, slices.Perm (diagram.ribbonsAt .target node.key) ∧
          Ribbon.Tile .target node.bodyStart node.bodyEnd slices := by
  have drawn := draw_eq_ok_layout (by decide +kernel :
    check (Node.kept crowdedStation.sources) (Node.kept crowdedStation.targets)
      crowdedStation.links (Style.plain .paired) = .ok ())
  have targets : (layout (Node.kept crowdedStation.sources) (Node.kept crowdedStation.targets)
      crowdedStation.links (Style.plain .paired)).targets.map
        (fun node => (node.key, node.occupancy, node.bodyExtent)) =
      [(.real ⟨"a"⟩, 10, 4)] := by cbv
  obtain ⟨node, member, values⟩ := List.mem_map.mp (targets ▸ List.mem_singleton_self _)
  obtain ⟨key, occupancy, extent⟩ := by simpa only [Prod.mk.injEq] using values
  have full : node.occupancy = carried (Node.kept crowdedStation.sources)
      (Node.kept crowdedStation.targets) crowdedStation.links .target node.key := by
    rw [key, occupancy]
    decide +kernel
  obtain ⟨-, as_long, -, slices, start, perm, -, tile, -, cover⟩ :=
    draw_tiled drawn (show node ∈ Diagram.onSide _ .target from member)
  rw [cover full] at tile
  exact ⟨_, drawn, node, member, extent, (as_long full).symm.trans extent, slices, perm, tile⟩

end Diagram

end TransitDiagram
