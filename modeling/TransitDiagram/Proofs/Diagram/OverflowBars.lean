import TransitDiagram.Proofs.Diagram.TotalExtent

/-!
# Bars of overcrowded nodes

A node with more passengers than places has a bar, in exact arithmetic with its backdrop as the part
within capacity (`PlacedNode.IsDivided`). The seam between the two parts is taken from the overflow.
Where the overflow is longer than the seam it begins with the body; where it is shorter nothing is
left of it, and its place may then be above the body.
-/

namespace TransitDiagram

open Quantity

theorem Extent.fillRatio_eq_one {occupancy capacity : Rat} (count : 0 ≤ capacity)
    (exceeds : capacity < occupancy) : fillRatio occupancy capacity = 1 := by
  rw [fillRatio]
  by_cases none : capacity ≤ 0
  · rw [if_pos none, if_pos (count.trans_lt exceeds)]
  · have more : 1 < occupancy / capacity := (one_lt_div (not_le.mp none)).mpr exceeds
    have raised : ¬ occupancy / capacity < 0 := (zero_lt_one.trans more).not_gt
    rw [if_neg none, clampToUnit, if_neg raised, if_pos more]

theorem Node.isOverflowing_iff {α : Type} [Quantity α] {node : Node α} :
    node.isOverflowing = true ↔ node.key.isSentinel = false ∧ node.capacity < node.occupancy := by
  simp [isOverflowing]

namespace PlacedNode

/-- A node whose body and backdrop end together, neither of them cut off at zero. The body is the
longer one of an overflowing node, and the backdrop that of any other node. -/
structure IsSeated (gap : Rat) (node : PlacedNode Rat) : Prop where
  capacity_nonneg : 0 ≤ node.capacity
  overflowing_iff : node.overflowing = true ↔
    node.key.isSentinel = false ∧ node.capacity < node.occupancy
  overflow_eq : node.overflow = node.overflowBar gap
  loadRatio_eq : node.loadRatio =
    if node.key.isSentinel then 0 else Extent.fillRatio node.occupancy node.capacity
  backdropExtent_nonneg : 0 ≤ node.backdropExtent
  backdropStart_eq : node.backdropStart = node.backdropEnd - node.backdropExtent
  bodyStart_eq : node.bodyStart = node.backdropEnd - node.bodyExtent
  backdropStart_nonneg : 0 ≤ node.backdropStart
  bodyStart_nonneg : 0 ≤ node.bodyStart
  backdrop_le_body : node.overflowing = true → node.backdropExtent ≤ node.bodyExtent
  body_le_backdrop : node.overflowing = false → node.bodyExtent ≤ node.backdropExtent

/-- A bar of which one part is the node's backdrop and the other one the passengers beyond its
capacity, shortened by the seam. An overflow longer than the seam begins with the body. -/
structure IsDivided (gap : Rat) (node : PlacedNode Rat) (bar : LoadBar Rat)
    (beyond : BarPart Rat) : Prop where
  within_eq : bar.within = ⟨node.backdropStart, node.backdropEnd, node.capacity⟩
  overflow_eq : bar.overflow = some beyond
  value_eq : beyond.value = node.occupancy - node.capacity
  overflowExtent_eq : bar.overflowExtent = node.bodyExtent - node.backdropExtent
  overflowExtent_nonneg : 0 ≤ bar.overflowExtent
  stop_eq : beyond.stop = max (node.backdropStart - gap) 0
  extent_eq : beyond.extent = max (bar.overflowExtent - gap) 0
  span : gap ≤ bar.overflowExtent →
    beyond.start = node.bodyStart ∧ beyond.stop = node.backdropStart - gap

variable {gap : Rat} {node : PlacedNode Rat} {bar : LoadBar Rat} {beyond : BarPart Rat}

theorem IsSeated.exists_isDivided (seated : node.IsSeated gap)
    (overflowing : node.overflowing = true) :
    ∃ bar beyond, node.overflow = some bar ∧ node.IsDivided gap bar beyond := by
  have longer := seated.backdrop_le_body overflowing
  have start := seated.backdropStart_eq
  have top := seated.bodyStart_eq
  have uncut := seated.bodyStart_nonneg
  have exceeds := (seated.overflowing_iff.mp overflowing).2
  have shown : node.overflow = some (LoadBar.ofAmounts node.backdropEnd
      ⟨node.occupancy, node.bodyExtent⟩ ⟨node.capacity, node.backdropExtent⟩ gap) := by
    rw [seated.overflow_eq, overflowBar, if_pos overflowing]
    exact if_pos (LoadBar.isOverflowing_ofAmounts_iff.mpr exceeds)
  rw [LoadBar.ofAmounts_of_lt exceeds longer (sub_nonneg.mp (top ▸ uncut)), ← start] at shown
  exact ⟨_, _, shown,
    { within_eq := rfl
      overflow_eq := rfl
      value_eq := rfl
      overflowExtent_eq := rfl
      overflowExtent_nonneg := sub_nonneg.mpr longer
      stop_eq := rfl
      extent_eq := sub_sub_cancel _ _
      span := fun wide => by
        have wide : gap ≤ node.bodyExtent - node.backdropExtent := wide
        have reach : node.bodyExtent - node.backdropExtent ≤ node.backdropStart := by linarith
        have stop : max (node.backdropStart - gap) 0 = node.backdropStart - gap :=
          max_eq_left (sub_nonneg.mpr (wide.trans reach))
        have rendered : max (node.bodyExtent - node.backdropExtent - gap) 0 =
            node.bodyExtent - node.backdropExtent - gap := max_eq_left (sub_nonneg.mpr wide)
        simp only [stop, rendered]
        exact ⟨by linarith, trivial⟩ }⟩

theorem IsSeated.isSome_overflow (seated : node.IsSeated gap) :
    node.overflow.isSome = node.overflowing := by
  cases overflowing : node.overflowing with
  | true =>
    obtain ⟨bar, beyond, shown, -⟩ := seated.exists_isDivided overflowing
    rw [shown]
    rfl
  | false =>
    rw [seated.overflow_eq, overflowBar, overflowing]
    rfl

theorem IsSeated.overflowing_of_overflow_eq_some (seated : node.IsSeated gap)
    (shown : node.overflow = some bar) : node.overflowing = true := by
  rw [← seated.isSome_overflow, shown]
  rfl

theorem IsSeated.exists_isDivided_of_overflow_eq_some (seated : node.IsSeated gap)
    (shown : node.overflow = some bar) : ∃ beyond, node.IsDivided gap bar beyond := by
  obtain ⟨bar', beyond, shown', divided⟩ :=
    seated.exists_isDivided (seated.overflowing_of_overflow_eq_some shown)
  obtain rfl : bar = bar' := Option.some.inj (shown.symm.trans shown')
  exact ⟨beyond, divided⟩

theorem IsSeated.loadRatio_eq_one (seated : node.IsSeated gap)
    (overflowing : node.overflowing = true) : node.loadRatio = 1 := by
  obtain ⟨real, exceeds⟩ := seated.overflowing_iff.mp overflowing
  rw [seated.loadRatio_eq, real]
  exact Extent.fillRatio_eq_one seated.capacity_nonneg exceeds

/-! ### Where the overflow lies -/

theorem IsSeated.backdropStart_le_backdropEnd (seated : node.IsSeated gap) :
    node.backdropStart ≤ node.backdropEnd := by
  rw [seated.backdropStart_eq]
  exact sub_le_self _ seated.backdropExtent_nonneg

/-- The overflow is what the body reaches past the backdrop. -/
theorem IsDivided.overflowExtent_add_bodyStart (divided : node.IsDivided gap bar beyond)
    (seated : node.IsSeated gap) : bar.overflowExtent + node.bodyStart = node.backdropStart := by
  rw [divided.overflowExtent_eq, seated.bodyStart_eq, seated.backdropStart_eq]
  ring

/-- An overflow that is shorter than the seam leaves an empty part. -/
theorem IsDivided.start_eq_stop (divided : node.IsDivided gap bar beyond)
    (narrow : bar.overflowExtent < gap) : beyond.start = beyond.stop := by
  have none : beyond.stop - beyond.start = 0 :=
    divided.extent_eq.trans (max_eq_right (sub_nonpos.mpr narrow.le))
  exact (sub_eq_zero.mp none).symm

/-- The overflow begins at zero or later, and ends where the backdrop begins or earlier. -/
theorem IsDivided.bounds (divided : node.IsDivided gap bar beyond) (seated : node.IsSeated gap)
    (seam : 0 ≤ gap) :
    0 ≤ beyond.start ∧ beyond.start ≤ beyond.stop ∧ beyond.stop ≤ node.backdropStart := by
  have extent : beyond.stop - beyond.start = max (bar.overflowExtent - gap) 0 := divided.extent_eq
  have stop := divided.stop_eq
  have reach := divided.overflowExtent_add_bodyStart seated
  have uncut := seated.bodyStart_nonneg
  have shorter : max (bar.overflowExtent - gap) 0 ≤ max (node.backdropStart - gap) 0 :=
    max_le_max (by linarith) le_rfl
  refine ⟨by linarith, ?_, ?_⟩
  · linarith [le_max_right (bar.overflowExtent - gap) 0]
  · rw [stop]
    exact max_le (sub_le_self _ seam) seated.backdropStart_nonneg

/-- The overflow begins above the body only where it is shorter than the seam: the empty part is
then one seam above the backdrop, and the body begins between the two. -/
theorem IsDivided.bodyStart_le_start_iff (divided : node.IsDivided gap bar beyond)
    (seated : node.IsSeated gap) (seam : 0 ≤ gap) :
    node.bodyStart ≤ beyond.start ↔ gap ≤ bar.overflowExtent ∨ node.bodyStart = 0 := by
  constructor
  · intro inside
    rcases le_or_gt gap bar.overflowExtent with wide | narrow
    · exact .inl wide
    · refine .inr (le_antisymm ?_ seated.bodyStart_nonneg)
      have reach := divided.overflowExtent_add_bodyStart seated
      rw [divided.start_eq_stop narrow, divided.stop_eq] at inside
      rcases le_max_iff.mp inside with above | top
      · linarith
      · exact top
  · rintro (wide | top)
    · exact (divided.span wide).1.ge
    · rw [top]
      exact (divided.bounds seated seam).1

end PlacedNode

namespace Diagram

variable {sources targets : List (Node Rat)} {links : List (Link Rat)} {style : Style Rat}
  {diagram : Diagram Rat}

theorem isSeated_of_mem_nodes_layout (drawable : IsDrawable sources targets links style)
    {node : PlacedNode Rat} (member : node ∈ (layout sources targets links style).nodes) :
    node.IsSeated style.overflowGap := by
  obtain ⟨side, given, -, rank, start, tallest, rfl, occupancy, capacity, top, body⟩ :=
    exists_of_mem_nodes_layout drawable member
  obtain ⟨backdropStart, bodyStart⟩ := le_min_iff.mp top
  have proper := Node.isProper_size drawable.isDrawable_style occupancy capacity
    (Link.valuesAt side (Link.connected sources targets links) given.key)
  exact
    { capacity_nonneg := capacity
      backdropExtent_nonneg := proper.backdrop_nonneg
      overflowing_iff := Node.isOverflowing_iff
      overflow_eq := rfl
      loadRatio_eq := rfl
      backdropStart_eq := (add_sub_cancel_right _ _).symm
      bodyStart_eq := (sub_eq_of_eq_add (sub_eq_iff_eq_add'.mp body)).symm
      backdropStart_nonneg := backdropStart
      bodyStart_nonneg := bodyStart
      backdrop_le_body := fun overflowing =>
        Node.backdrop_le_body drawable.isDrawable_style capacity overflowing _
      body_le_backdrop := fun calm =>
        Node.body_le_backdrop drawable.isDrawable_style occupancy calm _ }

/-- What is inside the body of a node, above its backdrop, stays a padding away from every other row
of its column. -/
theorem apart_of_mem_columns_layout (drawable : IsDrawable sources targets links style)
    {column : List (PlacedNode Rat)}
    (given : column ∈ (layout sources targets links style).columns style.alignment)
    {node other : PlacedNode Rat} (member : node ∈ column) (member' : other ∈ column)
    (elsewhere : other.rank ≠ node.rank) {part : BarPart Rat} (above : node.bodyStart ≤ part.start)
    (below : part.stop ≤ node.backdropEnd) :
    other.backdropEnd + style.padding ≤ part.start ∨ part.stop + style.padding ≤ other.top := by
  obtain ⟨side, same⟩ := exists_of_mem_columns given
  have apart {upper lower : PlacedNode Rat} (shown : upper ∈ column) (shown' : lower ∈ column)
      (order : upper.rank < lower.rank) : upper.backdropEnd + style.padding ≤ lower.top :=
    Stack.backdropEnd_add_padding_le_top drawable.isDrawable_style.padding_nonneg
      (isProper_of_mem_rowsOf drawable side) ((same _).mpr shown) ((same _).mpr shown') order
  rcases elsewhere.lt_or_gt with before | after
  · exact .inl ((apart member' member before).trans ((min_le_right _ _).trans above))
  · exact .inr ((add_le_add_left below _).trans (apart member member' after))

/-- Exactly the real nodes with more passengers than places have a bar. It is full, its parts are
the backdrop and the overflow less the seam, and nothing of them is cut off at zero. The body of any
other node stays in front of its backdrop. -/
theorem draw_overflowBars (drawn : draw sources targets links style = .ok diagram) :
    ∀ node ∈ diagram.nodes,
      node.overflow.isSome = node.overflowing ∧
      (node.overflow.isSome = true ↔
        node.key.isSentinel = false ∧ node.capacity < node.occupancy) ∧
      (∀ bar, node.overflow = some bar → node.loadRatio = 1 ∧
        ∃ beyond, node.IsDivided style.overflowGap bar beyond) ∧
      (node.overflow = none → node.bodyExtent ≤ node.backdropExtent) := by
  obtain ⟨drawable, rfl⟩ := draw_eq_ok_iff.mp drawn
  intro node member
  have seated := isSeated_of_mem_nodes_layout drawable member
  have shown := seated.isSome_overflow
  refine ⟨shown, shown ▸ seated.overflowing_iff, fun bar found => ?_, fun absent => ?_⟩
  · exact ⟨seated.loadRatio_eq_one (seated.overflowing_of_overflow_eq_some found),
      seated.exists_isDivided_of_overflow_eq_some found⟩
  · rw [absent] at shown
    exact seated.body_le_backdrop shown.symm

/-- A sentinel, a trip that is well beyond its capacity, and one that is a passenger beyond it. -/
def overcrowdedStation : Network Rat where
  sources := [⟨.sentinel .boarding, 0, 8, 0⟩, ⟨.real ⟨"a"⟩, 10, 30, 20⟩,
    ⟨.real ⟨"b"⟩, 20, 101, 100⟩]
  targets := []
  links := []

/-- The sentinel has no bar. The seam leaves one of the overflow of the first trip, and nothing of
that of the second one. -/
theorem draw_overflowBars_overcrowdedStation :
    ∃ diagram, draw overcrowdedStation.sources overcrowdedStation.targets overcrowdedStation.links
        (Style.plain .paired) = .ok diagram ∧
      diagram.nodes.map (fun node => node.overflow.map fun bar => (bar.overflowExtent,
        bar.overflow.map fun beyond => (beyond.start, beyond.stop, beyond.value))) =
        [none, some (5 / 2, some (22, 23, 10)), some (1 / 4, some (193 / 4, 193 / 4, 1))] ∧
      ∀ node ∈ diagram.nodes, ∀ bar, node.overflow = some bar → node.loadRatio = 1 ∧
        ∃ beyond, node.IsDivided (3 / 2) bar beyond := by
  have drawn := draw_eq_ok_layout (by decide +kernel :
    check (Node.kept overcrowdedStation.sources) (Node.kept overcrowdedStation.targets)
      overcrowdedStation.links (Style.plain .paired) = .ok ())
  refine ⟨_, drawn, by cbv, fun node member => ?_⟩
  obtain ⟨-, -, divided, -⟩ := draw_overflowBars drawn node member
  exact divided

/-- The overflow of a bar ends above the backdrop and never begins above zero. It stays inside the
body unless the seam takes all of it. What the seam leaves of it is a padding away from every other
row; an overflow that is shorter than the seam is empty and one seam above the backdrop, which is
inside the body only if that begins at zero. -/
theorem draw_overflowInside (drawn : draw sources targets links style = .ok diagram) :
    ∀ node ∈ diagram.nodes, ∀ bar, node.overflow = some bar →
      ∃ beyond, bar.overflow = some beyond ∧
        (0 ≤ beyond.start ∧ beyond.start ≤ beyond.stop ∧ beyond.stop ≤ node.backdropStart) ∧
        (node.bodyStart ≤ beyond.start ↔
          style.overflowGap ≤ bar.overflowExtent ∨ node.bodyStart = 0) ∧
        (beyond.start < beyond.stop → style.overflowGap ≤ bar.overflowExtent) ∧
        (bar.overflowExtent < style.overflowGap → beyond.start = beyond.stop ∧
          beyond.stop = max (node.backdropStart - style.overflowGap) 0) ∧
        (node.bodyStart ≤ beyond.start →
          ∀ column ∈ diagram.columns style.alignment, node ∈ column →
            ∀ other ∈ column, other.rank ≠ node.rank →
              other.backdropEnd + style.padding ≤ beyond.start ∨
                beyond.stop + style.padding ≤ other.top) := by
  obtain ⟨drawable, rfl⟩ := draw_eq_ok_iff.mp drawn
  intro node member bar found
  have seam := isNonNegative_rat.mp drawable.isDrawable_style.overflowGap
  have seated := isSeated_of_mem_nodes_layout drawable member
  obtain ⟨beyond, divided⟩ := seated.exists_isDivided_of_overflow_eq_some found
  obtain ⟨start, forward, stop⟩ := divided.bounds seated seam
  refine ⟨beyond, divided.overflow_eq, ⟨start, forward, stop⟩,
    divided.bodyStart_le_start_iff seated seam, fun some => ?_, fun narrow => ?_,
    fun inside column given shown other shown' elsewhere => ?_⟩
  · exact not_lt.mp fun narrow => some.ne (divided.start_eq_stop narrow)
  · exact ⟨divided.start_eq_stop narrow, divided.stop_eq⟩
  · exact apart_of_mem_columns_layout drawable given shown shown' elsewhere inside
      (stop.trans seated.backdropStart_le_backdropEnd)

/-- The first trip keeps its bar inside its body, from which that of the second one strays. -/
theorem draw_overflowInside_overcrowdedStation :
    ∃ diagram, draw overcrowdedStation.sources overcrowdedStation.targets overcrowdedStation.links
        (Style.plain .paired) = .ok diagram ∧
      diagram.nodes.map (fun node => (node.bodyStart, node.backdropStart)) =
        [(0, 0), (22, 49 / 2), (99 / 2, 199 / 4)] ∧
      ∀ node ∈ diagram.nodes, ∀ bar, node.overflow = some bar →
        ∃ beyond, bar.overflow = some beyond ∧
          (0 ≤ beyond.start ∧ beyond.start ≤ beyond.stop ∧ beyond.stop ≤ node.backdropStart) ∧
          (node.bodyStart ≤ beyond.start ↔ 3 / 2 ≤ bar.overflowExtent ∨ node.bodyStart = 0) := by
  have drawn := draw_eq_ok_layout (by decide +kernel :
    check (Node.kept overcrowdedStation.sources) (Node.kept overcrowdedStation.targets)
      overcrowdedStation.links (Style.plain .paired) = .ok ())
  refine ⟨_, drawn, by cbv, fun node member bar found => ?_⟩
  obtain ⟨beyond, given, bounds, inside, -⟩ := draw_overflowInside drawn node member bar found
  exact ⟨beyond, given, bounds, inside⟩

/-- The passenger beyond the capacity of the second trip takes a quarter, which is less than the
seam of three halves. The empty part is in the padding above the body. -/
theorem draw_strayOverflow :
    ∃ diagram, draw overcrowdedStation.sources overcrowdedStation.targets overcrowdedStation.links
        (Style.plain .paired) = .ok diagram ∧
      ∃ node ∈ diagram.nodes, ∃ bar beyond, node.overflow = some bar ∧
        bar.overflow = some beyond ∧ ¬ node.bodyStart ≤ beyond.start := by
  have drawn := draw_eq_ok_layout (by decide +kernel :
    check (Node.kept overcrowdedStation.sources) (Node.kept overcrowdedStation.targets)
      overcrowdedStation.links (Style.plain .paired) = .ok ())
  have listed : (layout (Node.kept overcrowdedStation.sources)
        (Node.kept overcrowdedStation.targets) overcrowdedStation.links
        (Style.plain .paired)).nodes.map
          (fun node => (node.bodyStart, node.overflow.bind (·.overflow))) =
      [(0, none), (22, some ⟨22, 23, 10⟩), (99 / 2, some ⟨193 / 4, 193 / 4, 1⟩)] := by cbv
  have last := List.mem_of_getElem? (congrArg (fun nodes => nodes[2]?) listed)
  obtain ⟨node, member, shown⟩ := List.mem_map.mp last
  obtain ⟨start, part⟩ := Prod.mk.inj shown
  obtain ⟨bar, found, beyond⟩ := Option.bind_eq_some_iff.mp part
  refine ⟨_, drawn, node, member, bar, _, found, beyond, ?_⟩
  rw [start]
  norm_num

end Diagram

end TransitDiagram
