import TransitDiagram.Proofs.Diagram.Tiling
import TransitDiagram.Proofs.Keyed

/-!
# Ribbons that meet do not cross

Two ribbons that meet at a node run in the same order on both sides. At the node where they meet
the one to the lower node across comes first from below. Across, either they meet again, and their
positions among the links decide on both sides (`Diagram.offsetOn_lt_of_precedes`), or each of them
stays on a body of its own, and bodies of different rows do not touch
(`Diagram.offsetOn_lt_of_rank_lt`).
-/

namespace TransitDiagram

open Quantity

@[simp]
theorem Side.across_across (side : Side) : side.across.across = side := by
  cases side <;> rfl

namespace Ribbon

variable {side : Side}

/-- Two ribbons that run in one order on both sides. -/
def SameOrder (a b : Ribbon Rat) : Prop :=
  (a.offsetAtSource < b.offsetAtSource ∧ a.offsetAtTarget < b.offsetAtTarget) ∨
    (b.offsetAtSource < a.offsetAtSource ∧ b.offsetAtTarget < a.offsetAtTarget)

theorem sameOrder_of_across {a b : Ribbon Rat} (here : a.offsetOn side < b.offsetOn side)
    (across : a.offsetOn side.across < b.offsetOn side.across) : SameOrder a b := by
  cases side with
  | source => exact .inl ⟨here, across⟩
  | target => exact .inl ⟨across, here⟩

theorem SameOrder.symm {a b : Ribbon Rat} (order : SameOrder a b) : SameOrder b a :=
  Or.symm order

theorem sliceStart_lt_offsetOn {ribbon : Ribbon Rat} (extent : 0 < ribbon.extent) :
    ribbon.sliceStart side < ribbon.offsetOn side := by
  rw [sliceStart]
  linarith

theorem offsetOn_lt_sliceStop {ribbon : Ribbon Rat} (extent : 0 < ribbon.extent) :
    ribbon.offsetOn side < ribbon.sliceStop side := by
  rw [sliceStop]
  linarith

theorem Tile.pairwise_offsetOn {start stop : Rat} {ribbons : List (Ribbon Rat)}
    (tile : Tile side start stop ribbons) (extents : ∀ ribbon ∈ ribbons, 0 < ribbon.extent) :
    ribbons.Pairwise fun a b => b.offsetOn side < a.offsetOn side := by
  induction ribbons generalizing stop with
  | nil => exact .nil
  | cons ribbon rest ih =>
    obtain ⟨-, below⟩ := tile
    obtain ⟨extent, extents⟩ := List.forall_mem_cons.mp extents
    refine List.pairwise_cons.mpr ⟨fun other member => ?_, ih below extents⟩
    have upper := (below.bounds (fun r given => (extents r given).le) other member).2
    calc other.offsetOn side
        < other.sliceStop side := offsetOn_lt_sliceStop (extents other member)
      _ ≤ ribbon.sliceStart side := upper
      _ < ribbon.offsetOn side := sliceStart_lt_offsetOn extent

end Ribbon

namespace Diagram

/-- Every node has at least the passengers of its links. -/
def HasRoom (sources targets : List (Node Rat)) (links : List (Link Rat)) : Prop :=
  ∀ side : Side, ∀ node ∈ side.pick sources targets,
    carried sources targets links side node.key ≤ node.occupancy

variable {sources targets : List (Node Rat)} {links : List (Link Rat)} {style : Style Rat}
  {side : Side} {near farA farB : PlacedNode Rat} {a b : Strand Rat}

theorem HasRoom.le (room : HasRoom sources targets links)
    (drawable : IsDrawable sources targets links style)
    (member : near ∈ (layout sources targets links style).onSide side) :
    carried sources targets links side near.key ≤ near.occupancy := by
  obtain ⟨node, given, -, -, -, rfl⟩ := exists_of_mem_onSide drawable member
  exact room side node given

/-- Of two strands at a node, the one whose slice comes first lies lower. -/
theorem offsetOn_lt_of_precedes (drawable : IsDrawable sources targets links style)
    (member : near ∈ (layout sources targets links style).onSide side)
    (drawnA : a ∈ strandsOf sources targets links style)
    (drawnB : b ∈ strandsOf sources targets links style)
    (endA : side.endOf a.link = near.key) (endB : side.endOf b.link = near.key)
    (order : Strand.Precedes (stackOf sources targets links style) side.across a b) :
    (ribbonOf sources targets links style b).offsetOn side <
      (ribbonOf sources targets links style a).offsetOn side := by
  have falling := (tile_slicesAt drawable member).pairwise_offsetOn
    (extent_pos_of_mem_slicesAt member)
  exact rel_of_precedes member falling drawnA drawnB endA endB order

/-- Strands to two rows lie in the order of the rows. -/
theorem offsetOn_lt_of_rank_lt (drawable : IsDrawable sources targets links style)
    (room : HasRoom sources targets links)
    (memberA : farA ∈ (layout sources targets links style).onSide side)
    (memberB : farB ∈ (layout sources targets links style).onSide side)
    (drawnA : a ∈ strandsOf sources targets links style)
    (drawnB : b ∈ strandsOf sources targets links style)
    (endA : side.endOf a.link = farA.key) (endB : side.endOf b.link = farB.key)
    (order : farA.rank < farB.rank) :
    (ribbonOf sources targets links style a).offsetOn side <
      (ribbonOf sources targets links style b).offsetOn side := by
  -- Each strand stays on the body of its own node, and the rows of the bodies do not touch.
  have stop := (slicesAt_bounds drawable memberA (room.le drawable memberA) _
    (List.mem_map_of_mem ((mem_strandsAt memberA).mpr ⟨drawnA, endA⟩))).2
  have start := (slicesAt_bounds drawable memberB (room.le drawable memberB) _
    (List.mem_map_of_mem ((mem_strandsAt memberB).mpr ⟨drawnB, endB⟩))).1
  have apart := bodyEnd_add_padding_le_top drawable memberA memberB order
  have padding := drawable.isDrawable_style.padding_nonneg
  calc (ribbonOf sources targets links style a).offsetOn side
      < (ribbonOf sources targets links style a).sliceStop side :=
        Ribbon.offsetOn_lt_sliceStop (extent_pos_of_mem_strandsOf drawnA)
    _ ≤ farA.bodyEnd := stop
    _ ≤ max farA.backdropEnd farA.bodyEnd + style.padding :=
        le_add_of_le_of_nonneg (le_max_right _ _) padding
    _ ≤ farB.top := apart
    _ ≤ farB.bodyStart := min_le_right _ _
    _ ≤ (ribbonOf sources targets links style b).sliceStart side := start
    _ < (ribbonOf sources targets links style b).offsetOn side :=
        Ribbon.sliceStart_lt_offsetOn (extent_pos_of_mem_strandsOf drawnB)

/-- Strands that meet at a node lie the other way round on both sides when the slice of the first
comes first at the node. -/
theorem sameOrder_of_precedes (drawable : IsDrawable sources targets links style)
    (room : HasRoom sources targets links)
    (member : near ∈ (layout sources targets links style).onSide side)
    (drawnA : a ∈ strandsOf sources targets links style)
    (drawnB : b ∈ strandsOf sources targets links style)
    (endA : side.endOf a.link = near.key) (endB : side.endOf b.link = near.key)
    (order : Strand.Precedes (stackOf sources targets links style) side.across a b) :
    Ribbon.SameOrder (ribbonOf sources targets links style b)
      (ribbonOf sources targets links style a) := by
  have here := offsetOn_lt_of_precedes drawable member drawnA drawnB endA endB order
  obtain ⟨farA, memberA, acrossA⟩ := exists_node_of_mem_strandsOf drawable drawnA side.across
  obtain ⟨farB, memberB, acrossB⟩ := exists_node_of_mem_strandsOf drawable drawnB side.across
  refine Ribbon.sameOrder_of_across here ?_
  rw [Strand.Precedes, rank_strand drawable memberA acrossA,
    rank_strand drawable memberB acrossB] at order
  rcases order with higher | ⟨same, earlier⟩
  · exact offsetOn_lt_of_rank_lt drawable room memberB memberA drawnB drawnA acrossB acrossA higher
  · -- Both ends are shared, and the positions of the links decide across as well.
    obtain rfl := eq_of_rank_eq memberA memberB same
    refine offsetOn_lt_of_precedes drawable memberA drawnA drawnB acrossA acrossB ?_
    refine .inr ⟨?_, earlier⟩
    rw [Side.across_across, rank_strand drawable member endA, rank_strand drawable member endB]

theorem sameOrder_of_endOf_eq (drawable : IsDrawable sources targets links style)
    (room : HasRoom sources targets links) (side : Side)
    (drawnA : a ∈ strandsOf sources targets links style)
    (drawnB : b ∈ strandsOf sources targets links style) (different : a.index ≠ b.index)
    (meet : side.endOf a.link = side.endOf b.link) :
    Ribbon.SameOrder (ribbonOf sources targets links style a)
      (ribbonOf sources targets links style b) := by
  obtain ⟨near, member, endB⟩ := exists_node_of_mem_strandsOf drawable drawnB side
  have endA := meet.trans endB
  rcases Strand.precedes_or_precedes (stackOf sources targets links style) side.across different
    with first | second
  · exact (sameOrder_of_precedes drawable room member drawnA drawnB endA endB first).symm
  · exact sameOrder_of_precedes drawable room member drawnB drawnA endB endA second

/-- If every node has room for its links, ribbons that meet at a node do not cross: of two ribbons
with a common source or a common target, one lies strictly above the other on both sides. -/
theorem draw_uncrossed {diagram : Diagram Rat}
    (drawn : draw sources targets links style = .ok diagram)
    (room : HasRoom (Node.kept sources) (Node.kept targets) links) :
    diagram.ribbons.Pairwise fun a b =>
      a.source = b.source ∨ a.target = b.target → Ribbon.SameOrder a b := by
  obtain ⟨drawable, rfl⟩ := draw_eq_ok_iff.mp drawn
  rw [ribbons_layout, List.pairwise_map]
  refine (Strand.pairwise_index_ofLinks style _).imp_of_mem fun drawnA drawnB earlier meet => ?_
  rcases meet with source | target
  · exact sameOrder_of_endOf_eq drawable room .source drawnA drawnB (Nat.ne_of_lt earlier) source
  · exact sameOrder_of_endOf_eq drawable room .target drawnA drawnB (Nat.ne_of_lt earlier) target

/-- Two arriving and two departing trips with room for their links, two of which run in parallel. -/
def transferStation : Network Rat where
  sources := [⟨.real ⟨"a"⟩, 10, 8, 20⟩, ⟨.real ⟨"b"⟩, 20, 9, 8⟩]
  targets := [⟨.real ⟨"c"⟩, 30, 8, 20⟩, ⟨.real ⟨"d"⟩, 40, 9, 10⟩]
  links := [⟨0, .real ⟨"a"⟩, .real ⟨"c"⟩, 3⟩, ⟨1, .real ⟨"a"⟩, .real ⟨"c"⟩, 1⟩,
    ⟨2, .real ⟨"a"⟩, .real ⟨"d"⟩, 4⟩, ⟨3, .real ⟨"b"⟩, .real ⟨"d"⟩, 5⟩]

/-- The first three ribbons meet at a source, and the first two of them run in parallel. -/
theorem draw_uncrossed_transferStation :
    HasRoom (Node.kept transferStation.sources) (Node.kept transferStation.targets)
        transferStation.links ∧
      ∃ diagram, draw transferStation.sources transferStation.targets transferStation.links
          (Style.plain .independent) = .ok diagram ∧
        diagram.ribbons.map (fun r => (r.offsetAtSource, r.offsetAtTarget)) =
          [(6, 7), (4, 5), (8, 117 / 4), (31, 125 / 4)] ∧
        diagram.ribbons.Pairwise fun a b =>
          a.source = b.source ∨ a.target = b.target → Ribbon.SameOrder a b := by
  have drawn := draw_eq_ok_layout (by decide +kernel :
    check (Node.kept transferStation.sources) (Node.kept transferStation.targets)
      transferStation.links (Style.plain .independent) = .ok ())
  have room : HasRoom (Node.kept transferStation.sources) (Node.kept transferStation.targets)
      transferStation.links := by
    intro side
    cases side <;> decide +kernel
  exact ⟨room, _, drawn, by cbv, draw_uncrossed drawn room⟩

end Diagram

end TransitDiagram
