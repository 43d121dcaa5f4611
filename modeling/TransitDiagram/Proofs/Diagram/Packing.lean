import TransitDiagram.Flow
import TransitDiagram.Proofs.Diagram.Sizing
import TransitDiagram.Proofs.Diagram.Stacking

/-!
# Rows are packed

In exact arithmetic the rows of a drawing touch: the first begins at zero, and each of the others
begins exactly one padding below the row before it. A row begins at the top of the node that
reaches highest, be it with its backdrop or with an overflowing body, and it ends at its lowest
backdrop. So no two nodes of a side come closer than the padding, and no body is cut off at zero.
-/

namespace TransitDiagram

open Quantity

/-! ### Tops and bottoms -/

/-- Where a node begins: at its backdrop, or at a body that stands out over it. -/
def PlacedNode.top (node : PlacedNode Rat) : Rat :=
  min node.backdropStart node.bodyStart

/-- The coordinates at which the nodes of a row begin. -/
def rowTops (column : List (PlacedNode Rat)) (rank : Nat) : Set Rat :=
  {y | ∃ node ∈ column, node.rank = rank ∧ node.top = y}

def rowBottoms (column : List (PlacedNode Rat)) (rank : Nat) : Set Rat :=
  {y | ∃ node ∈ column, node.rank = rank ∧ node.backdropEnd = y}

/-- Nodes whose rows follow each other: the first begins at zero, and every other one `padding`
below the lowest backdrop of the row before it. -/
structure IsPacked (padding : Rat) (column : List (PlacedNode Rat)) : Prop where
  first : column ≠ [] → IsLeast (rowTops column 0) 0
  next : ∀ rank, (rowTops column (rank + 1)).Nonempty →
    ∃ bottom, IsGreatest (rowBottoms column rank) bottom ∧
      IsLeast (rowTops column (rank + 1)) (bottom + padding)

/-- The nodes whose rows are placed together: both sides when nodes of one key share a row, and
otherwise each side on its own. -/
def Diagram.columns {α : Type} (alignment : Alignment) (diagram : Diagram α) :
    List (List (PlacedNode α)) :=
  match alignment with
  | .paired => [diagram.sources ++ diagram.targets]
  | .independent => [diagram.sources, diagram.targets]

/-! ### One row -/

namespace Row

def IsProper (row : Row Rat) : Prop :=
  ∀ member ∈ row.members, member.2.size.IsProper

variable {row : Row Rat}

theorem isGreatest_tallest (proper : row.IsProper) :
    IsGreatest {y | ∃ member ∈ row.members, member.2.size.backdrop = y} row.tallest :=
  isGreatest_largest row.members_ne_nil fun member given => (proper member given).backdrop_nonneg

theorem isGreatest_reach (proper : row.IsProper) :
    IsGreatest {y | ∃ member ∈ row.members,
      member.2.size.overflow + member.2.size.backdrop / 2 = y} row.reach := by
  refine isGreatest_largest row.members_ne_nil fun member given => ?_
  obtain ⟨backdrop, overflow⟩ := proper member given
  have := le_max_right (member.2.size.body - member.2.size.backdrop) 0
  linarith

/-- The middle of a row lies as far below its ceiling as the row reaches. -/
theorem start_add_half_tallest (proper : row.IsProper) (padding cursor : Rat) (rank : Nat) :
    row.start padding rank cursor + row.tallest / 2 =
      cursor + (if rank = 0 then 0 else padding) + row.reach := by
  obtain ⟨member, given, tallest⟩ := (isGreatest_tallest proper).1
  have reach := (isGreatest_reach proper).2 ⟨member, given, rfl⟩
  have overflow := (proper member given).overflow_eq.ge.trans'
    (le_max_right (member.2.size.body - member.2.size.backdrop) 0)
  have headroom : row.headroom = row.reach - row.tallest / 2 := by
    rw [headroom, positivePart_rat]
    refine max_eq_left ?_
    linarith
  rw [start, headroom]
  ring

end Row

namespace Stack

variable {style : Style Rat} {row : Row Rat} {rank : Nat} {cursor : Rat}

/-- The coordinate above which nothing of a row may reach. -/
def ceiling (style : Style Rat) (rank : Nat) (cursor : Rat) : Rat :=
  cursor + if rank = 0 then 0 else style.padding

/-- A node lies in its row by its size: around the middle with its backdrop, and below the ceiling
with its body. -/
theorem ofSized_in_row (proper : row.IsProper) {member : Side × SizedNode Rat}
    (given : member ∈ row.members) (ceiling_nonneg : 0 ≤ ceiling style rank cursor) :
    let node := PlacedNode.ofSized style rank (row.start style.padding rank cursor) row.tallest
      member.1 member.2
    let size := member.2.size
    node.backdropEnd = ceiling style rank cursor + row.reach + size.backdrop / 2 ∧
      node.top =
        ceiling style rank cursor + (row.reach - (size.overflow + size.backdrop / 2)) ∧
      node.bodyEnd - node.bodyStart = node.bodyExtent := by
  intro node size
  have middle := Row.start_add_half_tallest proper style.padding cursor rank
  have room : ceiling style rank cursor + row.reach = _ := middle.symm
  have reach := (Row.isGreatest_reach proper).2 ⟨member, given, rfl⟩
  have longest := (proper member given).max_body_backdrop
  have start : node.backdropStart =
      row.start style.padding rank cursor + (row.tallest - size.backdrop) / 2 := rfl
  have stop : node.backdropEnd = node.backdropStart + size.backdrop := rfl
  -- The body reaches above the ceiling no more than its row does, which is not at all.
  have uncut : node.bodyStart = node.backdropEnd - size.body := by
    show positivePart (node.backdropEnd - size.body) = _
    rw [positivePart_rat]
    refine max_eq_left ?_
    linarith [le_max_left size.body size.backdrop]
  have top : node.top = node.backdropEnd - (size.backdrop + size.overflow) := by
    rw [← longest, PlacedNode.top, uncut, eq_sub_of_add_eq stop.symm, min_sub_sub_left, max_comm]
  refine ⟨by linarith, by linarith, ?_⟩
  show node.backdropEnd - node.bodyStart = size.body
  rw [uncut, sub_sub_cancel]

theorem isLeast_top_row (proper : row.IsProper) (ceiling_nonneg : 0 ≤ ceiling style rank cursor) :
    IsLeast {y | ∃ node ∈ Stack.row style rank (row.start style.padding rank cursor) row,
      node.top = y} (ceiling style rank cursor) := by
  constructor
  · obtain ⟨member, given, reach⟩ := (Row.isGreatest_reach proper).1
    obtain ⟨-, top, -⟩ := ofSized_in_row proper given ceiling_nonneg
    refine ⟨_, List.mem_map_of_mem given, ?_⟩
    rw [top, reach, sub_self, add_zero]
  · rintro y ⟨node, placed, rfl⟩
    obtain ⟨member, given, rfl⟩ := List.mem_map.mp placed
    obtain ⟨-, top, -⟩ := ofSized_in_row proper given ceiling_nonneg
    rw [top]
    have reach := (Row.isGreatest_reach proper).2 ⟨member, given, rfl⟩
    linarith

theorem isGreatest_backdropEnd_row (proper : row.IsProper)
    (ceiling_nonneg : 0 ≤ ceiling style rank cursor) :
    IsGreatest {y | ∃ node ∈ Stack.row style rank (row.start style.padding rank cursor) row,
        node.backdropEnd = y}
      (rowEnd (row.start style.padding rank cursor)
        (Stack.row style rank (row.start style.padding rank cursor) row)) := by
  have greatest := isGreatest_foldl_larger PlacedNode.backdropEnd
    (row.start style.padding rank cursor)
    (Stack.row style rank (row.start style.padding rank cursor) row)
  refine ⟨?_, fun y member => greatest.2 (.inr member)⟩
  rcases greatest.1 with start | member
  · -- The tallest backdrop ends below its own start, so the start is passed or met.
    obtain ⟨member, given, tallest⟩ := (Row.isGreatest_tallest proper).1
    obtain ⟨stop, -, -⟩ := ofSized_in_row proper given ceiling_nonneg
    have middle := Row.start_add_half_tallest proper style.padding cursor rank
    have extent := (proper member given).backdrop_nonneg
    have room : ceiling style rank cursor + row.reach = _ := middle.symm
    refine ⟨_, List.mem_map_of_mem given, le_antisymm (greatest.2 ?_) ?_⟩
    · exact .inr ⟨_, List.mem_map_of_mem given, rfl⟩
    · rw [rowEnd, start, stop]
      linarith
  · exact member

/-! ### Stacks -/

variable {rows : List (Row Rat)}

theorem ceiling_le_rowStart (style : Style Rat) (rows : List (Row Rat)) (rank : Nat)
    (row : Row Rat) :
    ceiling style rank (Stack.cursor style rows rank) ≤ rowStart style rows rank row := by
  have headroom : 0 ≤ row.headroom := by
    rw [Row.headroom, positivePart_rat]
    exact le_max_right _ _
  have start : rowStart style rows rank row =
      ceiling style rank (Stack.cursor style rows rank) + row.headroom := rfl
  linarith

theorem cursor_le_ceiling (padding : 0 ≤ style.padding) (rank : Nat) (y : Rat) :
    y ≤ ceiling style rank y := by
  unfold ceiling
  split <;> linarith

theorem cursor_mono (padding : 0 ≤ style.padding) : Monotone (Stack.cursor style rows) := by
  refine monotone_nat_of_le_succ fun rank => ?_
  cases found : rows[rank]? with
  | none =>
    -- Past the last row there is nothing more to place.
    have done : rows.length ≤ rank := List.getElem?_eq_none_iff.mp found
    rw [Stack.cursor, Stack.cursor, List.take_of_length_le done,
      List.take_of_length_le (le_trans done (Nat.le_succ rank))]
  | some row =>
    rw [cursor_succ found]
    calc Stack.cursor style rows rank
        ≤ ceiling style rank (Stack.cursor style rows rank) := cursor_le_ceiling padding _ _
      _ ≤ rowStart style rows rank row := ceiling_le_rowStart style rows rank row
      _ ≤ rowEnd (rowStart style rows rank row) _ :=
        (isGreatest_foldl_larger PlacedNode.backdropEnd _ _).2 (.inl rfl)

theorem ceiling_cursor_nonneg (rows : List (Row Rat)) (padding : 0 ≤ style.padding) (rank : Nat) :
    0 ≤ ceiling style rank (Stack.cursor style rows rank) :=
  calc (0 : Rat) = Stack.cursor style rows 0 := rfl
    _ ≤ Stack.cursor style rows rank := cursor_mono padding (Nat.zero_le rank)
    _ ≤ _ := cursor_le_ceiling padding _ _

theorem isLeast_rowTops (padding : 0 ≤ style.padding) (proper : ∀ row ∈ rows, row.IsProper)
    {row : Row Rat} (found : rows[rank]? = some row) :
    IsLeast (rowTops (ofRows style rows).nodes rank)
      (ceiling style rank (Stack.cursor style rows rank)) := by
  have least := isLeast_top_row (proper row (List.mem_of_getElem? found))
    (ceiling_cursor_nonneg rows padding rank)
  suffices tops : rowTops (ofRows style rows).nodes rank = _ from tops ▸ least
  ext y
  simp only [rowTops, Set.mem_ofPred_eq, ← and_assoc, mem_nodes_ofRows_iff, found,
    Option.some.injEq, exists_eq_left']
  rfl

theorem isGreatest_rowBottoms (padding : 0 ≤ style.padding)
    (proper : ∀ row ∈ rows, row.IsProper) {row : Row Rat} (found : rows[rank]? = some row) :
    IsGreatest (rowBottoms (ofRows style rows).nodes rank)
      (Stack.cursor style rows (rank + 1)) := by
  have greatest := isGreatest_backdropEnd_row (proper row (List.mem_of_getElem? found))
    (ceiling_cursor_nonneg rows padding rank)
  rw [cursor_succ found]
  suffices bottoms : rowBottoms (ofRows style rows).nodes rank = _ from bottoms ▸ greatest
  ext y
  simp only [rowBottoms, Set.mem_ofPred_eq, ← and_assoc, mem_nodes_ofRows_iff, found,
    Option.some.injEq, exists_eq_left']
  rfl

theorem isPacked_ofRows (padding : 0 ≤ style.padding) (proper : ∀ row ∈ rows, row.IsProper) :
    IsPacked style.padding (ofRows style rows).nodes := by
  constructor
  · intro nonempty
    cases rows with
    | nil => exact absurd rfl nonempty
    | cons row rest =>
      have least := isLeast_rowTops padding proper (rfl : (row :: rest)[0]? = some row)
      rwa [show ceiling style 0 (Stack.cursor style (row :: rest) 0) = 0 from add_zero _] at least
  · rintro rank ⟨y, node, member, number, -⟩
    obtain ⟨row, found, -⟩ := mem_nodes_ofRows_iff.mp ⟨member, number⟩
    obtain ⟨bound, -⟩ := List.getElem?_eq_some_iff.mp found
    refine ⟨Stack.cursor style rows (rank + 1), ?_, isLeast_rowTops padding proper found⟩
    exact isGreatest_rowBottoms padding proper
      (List.getElem?_eq_getElem (Nat.lt_of_succ_lt bound))

/-- A node above another one in a stack ends at least one padding before it. -/
theorem backdropEnd_add_padding_le_top (padding : 0 ≤ style.padding)
    (proper : ∀ row ∈ rows, row.IsProper) {above below : PlacedNode Rat}
    (memberAbove : above ∈ (ofRows style rows).nodes)
    (memberBelow : below ∈ (ofRows style rows).nodes) (order : above.rank < below.rank) :
    above.backdropEnd + style.padding ≤ below.top := by
  obtain ⟨rowA, foundA, -⟩ := mem_nodes_ofRows_iff.mp ⟨memberAbove, rfl⟩
  obtain ⟨rowB, foundB, -⟩ := mem_nodes_ofRows_iff.mp ⟨memberBelow, rfl⟩
  have stop : above.backdropEnd ≤ Stack.cursor style rows (above.rank + 1) :=
    (isGreatest_rowBottoms padding proper foundA).2 ⟨above, memberAbove, rfl, rfl⟩
  have start : ceiling style below.rank (Stack.cursor style rows below.rank) ≤ below.top :=
    (isLeast_rowTops padding proper foundB).2 ⟨below, memberBelow, rfl, rfl⟩
  have between : Stack.cursor style rows (above.rank + 1) ≤ Stack.cursor style rows below.rank :=
    cursor_mono padding order
  rw [ceiling, if_neg (Nat.ne_of_gt (Nat.zero_lt_of_lt order))] at start
  linarith

theorem bodyEnd_eq_backdropEnd {node : PlacedNode Rat} (member : node ∈ (ofRows style rows).nodes) :
    node.bodyEnd = node.backdropEnd := by
  obtain ⟨row, -, placed⟩ := mem_nodes_ofRows_iff.mp ⟨member, rfl⟩
  obtain ⟨sized, -, eq⟩ := List.mem_map.mp placed
  rw [← eq]
  rfl

theorem bodyEnd_sub_bodyStart (padding : 0 ≤ style.padding) (proper : ∀ row ∈ rows, row.IsProper)
    {node : PlacedNode Rat} (member : node ∈ (ofRows style rows).nodes) :
    node.bodyEnd - node.bodyStart = node.bodyExtent := by
  obtain ⟨row, found, placed⟩ := mem_nodes_ofRows_iff.mp ⟨member, rfl⟩
  obtain ⟨sized, given, eq⟩ := List.mem_map.mp placed
  have uncut := (ofSized_in_row (proper row (List.mem_of_getElem? found)) given
    (ceiling_cursor_nonneg rows padding node.rank)).2.2
  rwa [← eq]

end Stack

/-! ### Diagrams -/

def Style.plain (alignment : Alignment) : Style Rat :=
  ⟨4, 2, 2, 20, 3 / 2, alignment, .rank⟩

/-- Packing depends on the nodes alone, not on their order. -/
theorem IsPacked.congr {padding : Rat} {column column' : List (PlacedNode Rat)}
    (packed : IsPacked padding column) (same : ∀ node, node ∈ column ↔ node ∈ column') :
    IsPacked padding column' := by
  have tops : rowTops column = rowTops column' := by
    funext rank
    simp only [rowTops, same]
  have bottoms : rowBottoms column = rowBottoms column' := by
    funext rank
    simp only [rowBottoms, same]
  have nonempty : column' ≠ [] → column ≠ [] := by
    rintro member rfl
    obtain ⟨node, member⟩ := List.exists_mem_of_ne_nil column' member
    exact List.not_mem_nil ((same node).mpr member)
  exact ⟨fun h => tops ▸ packed.first (nonempty h), tops ▸ bottoms ▸ packed.next⟩

namespace Diagram

variable {sources targets : List (Node Rat)} {links : List (Link Rat)} {style : Style Rat}

theorem isProper_of_mem_rowsOf (drawable : IsDrawable sources targets links style) (side : Side) :
    ∀ row ∈ rowsOf sources targets links style side, row.IsProper := by
  intro row given member present
  obtain ⟨node, given, eq⟩ :=
    exists_of_mem_rowsOf drawable given (Row.mem_members_iff.mp present)
  have counts := areDrawable_pick drawable member.1
  rw [← eq]
  exact Node.isProper_size drawable.isDrawable_style
    (isCount_rat.mp (counts.occupancy node given)) (isCount_rat.mp (counts.capacity node given)) _

theorem mem_nodes_iff (stack : Stack Rat) (node : PlacedNode Rat) :
    node ∈ stack.nodes ↔ node ∈ stack.onSide .source ∨ node ∈ stack.onSide .target := by
  simp only [Stack.onSide, List.mem_filter]
  cases node.side <;> simp

theorem exists_of_mem_columns {column : List (PlacedNode Rat)}
    (member : column ∈ (layout sources targets links style).columns style.alignment) :
    ∃ side, ∀ node, node ∈ (Stack.ofRows style (rowsOf sources targets links style side)).nodes ↔
      node ∈ column := by
  have onSide := onSide_layout sources targets links style
  cases alignment : style.alignment with
  | paired =>
    rw [alignment] at member
    obtain rfl := List.mem_singleton.mp member
    refine ⟨.source, fun node => ?_⟩
    rw [mem_nodes_iff, List.mem_append]
    nth_rewrite 2 [rowsOf_eq_of_paired alignment .source .target]
    rw [← onSide, ← onSide]
    rfl
  | independent =>
    rw [alignment] at member
    -- The stack of one side holds that side alone.
    have alone (side other : Side) (different : other ≠ side) :
        (Stack.ofRows style (rowsOf sources targets links style side)).onSide other = [] := by
      rw [rowsOf_of_independent alignment]
      exact Stack.onSide_ofRows_ofSide_eq_nil different _
    rcases List.mem_cons.mp member with rfl | member
    · refine ⟨.source, fun node => ?_⟩
      rw [mem_nodes_iff, alone .source .target (by decide), ← onSide]
      simp [Diagram.onSide]
    · obtain rfl := List.mem_singleton.mp member
      refine ⟨.target, fun node => ?_⟩
      rw [mem_nodes_iff, alone .target .source (by decide), ← onSide]
      simp [Diagram.onSide]

theorem bodyEnd_add_padding_le_top (drawable : IsDrawable sources targets links style)
    {side : Side} {above below : PlacedNode Rat}
    (memberAbove : above ∈ (layout sources targets links style).onSide side)
    (memberBelow : below ∈ (layout sources targets links style).onSide side)
    (order : above.rank < below.rank) :
    max above.backdropEnd above.bodyEnd + style.padding ≤ below.top := by
  rw [onSide_layout] at memberAbove memberBelow
  have placedAbove := List.mem_of_mem_filter memberAbove
  have placedBelow := List.mem_of_mem_filter memberBelow
  rw [Stack.bodyEnd_eq_backdropEnd placedAbove, max_self]
  exact Stack.backdropEnd_add_padding_le_top drawable.isDrawable_style.padding_nonneg
    (isProper_of_mem_rowsOf drawable side) placedAbove placedBelow order

theorem bodyEnd_sub_bodyStart (drawable : IsDrawable sources targets links style) {side : Side}
    {node : PlacedNode Rat} (member : node ∈ (layout sources targets links style).onSide side) :
    node.bodyEnd - node.bodyStart = node.bodyExtent := by
  rw [onSide_layout] at member
  exact Stack.bodyEnd_sub_bodyStart drawable.isDrawable_style.padding_nonneg
    (isProper_of_mem_rowsOf drawable side) (List.mem_of_mem_filter member)

/-- The rows of a diagram are packed: the first begins at zero and every other one exactly one
padding below the row before it. So the nodes of a side stay one padding apart, overflowing bodies
included, and no body is cut off at zero. -/
theorem draw_packed {diagram : Diagram Rat}
    (drawn : draw sources targets links style = .ok diagram) :
    (∀ column ∈ diagram.columns style.alignment, IsPacked style.padding column) ∧
      (∀ side, (diagram.onSide side).Pairwise fun above below =>
        max above.backdropEnd above.bodyEnd + style.padding ≤ below.top) ∧
      ∀ side, ∀ node ∈ diagram.onSide side,
        node.bodyEnd - node.bodyStart = node.bodyExtent ∧ node.bodyEnd = node.backdropEnd := by
  obtain ⟨drawable, rfl⟩ := draw_eq_ok_iff.mp drawn
  refine ⟨fun column member => ?_, fun side => ?_, fun side node member => ?_⟩
  · obtain ⟨side, same⟩ := exists_of_mem_columns member
    exact (Stack.isPacked_ofRows drawable.isDrawable_style.padding_nonneg
      (isProper_of_mem_rowsOf drawable side)).congr same
  · refine (pairwise_rank_onSide _ _ links style side).imp_of_mem fun hA hB order => ?_
    exact bodyEnd_add_padding_le_top drawable hA hB order
  · refine ⟨bodyEnd_sub_bodyStart drawable member, ?_⟩
    rw [onSide_layout] at member
    exact Stack.bodyEnd_eq_backdropEnd (List.mem_of_mem_filter member)

/-- Two arriving trips, the first of them overcrowded, and one departing trip. -/
def crowdedStation : Network Rat where
  sources := [⟨.real ⟨"a"⟩, 10, 30, 20⟩, ⟨.real ⟨"b"⟩, 20, 8, 40⟩]
  targets := [⟨.real ⟨"a"⟩, 10, 10, 12⟩]
  links := [⟨0, .real ⟨"a"⟩, .real ⟨"a"⟩, 3⟩, ⟨1, .real ⟨"b"⟩, .real ⟨"a"⟩, 7⟩]

/-- The first row is pushed down by the body of its overcrowded trip, and the second one begins a
padding below the lower of its two backdrops. -/
theorem draw_packed_crowdedStation :
    ∃ diagram, draw crowdedStation.sources crowdedStation.targets crowdedStation.links
        (Style.plain .paired) = .ok diagram ∧
      diagram.sources.map (fun node => (node.top, node.backdropEnd)) =
        [(0, 35 / 4), (115 / 4, 39)] ∧
      (∀ column ∈ diagram.columns .paired, IsPacked 20 column) ∧
      diagram.sources.Pairwise fun above below =>
        max above.backdropEnd above.bodyEnd + 20 ≤ below.top := by
  have drawn := draw_eq_ok_layout (by decide +kernel :
    check (Node.kept crowdedStation.sources) (Node.kept crowdedStation.targets)
      crowdedStation.links (Style.plain .paired) = .ok ())
  obtain ⟨packed, apart, -⟩ := draw_packed drawn
  exact ⟨_, drawn, by cbv, packed, apart .source⟩

end Diagram

end TransitDiagram
