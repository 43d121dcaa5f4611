import TransitDiagram.Proofs.Diagram.Pairing
import TransitDiagram.Proofs.LoadBars

/-!
# The extent of a diagram

A diagram is as long as its rows together, with a padding between two of them and one below the
last. A row takes half of its tallest backdrop below its middle and as much above it as its nodes
reach (`Row.depth`), so in exact arithmetic the sweep over the rows has a closed form
(`Stack.bottom_ofRows_eq`). It ends at the lowest backdrop, and everything that is drawn of a node
lies above that.
-/

namespace TransitDiagram

open Quantity

/-! ### Rows -/

/-- The room that a node takes: its backdrop, or a body that stands out over it. -/
def Size.room (size : Size Rat) : Rat :=
  max size.backdrop size.body

namespace Row

variable {row : Row Rat}

/-- The room that a row takes, above its middle and below it. -/
def depth (row : Row Rat) : Rat :=
  row.reach + row.tallest / 2

/-- A row has room for each of its nodes. -/
theorem room_le_depth (proper : row.IsProper) {side : Side} {sized : SizedNode Rat}
    (present : row.member? side = some sized) : sized.size.room ≤ row.depth := by
  have given := mem_members_iff.mpr present
  have reach := (isGreatest_reach proper).2 ⟨_, given, rfl⟩
  have tallest := (isGreatest_tallest proper).2 ⟨_, given, rfl⟩
  rw [Size.room, max_comm, (proper _ given).max_body_backdrop, depth]
  linarith

theorem depth_nonneg (proper : row.IsProper) : 0 ≤ row.depth := by
  obtain ⟨⟨side, sized⟩, given⟩ := List.exists_mem_of_ne_nil _ row.members_ne_nil
  calc (0 : Rat) ≤ sized.size.backdrop := (proper _ given).backdrop_nonneg
    _ ≤ sized.size.room := le_max_left _ _
    _ ≤ row.depth := room_le_depth proper (mem_members_iff.mp given)

/-- A row of one node takes the room of that node. -/
theorem depth_eq_room (proper : row.IsProper) {member : Side × SizedNode Rat}
    (alone : row.members = [member]) : row.depth = member.2.size.room := by
  have given : member ∈ row.members := alone ▸ List.mem_singleton_self member
  obtain ⟨other, there, reach⟩ := (isGreatest_reach proper).1
  obtain ⟨other', there', tallest⟩ := (isGreatest_tallest proper).1
  rw [alone, List.mem_singleton] at there there'
  rw [depth, Size.room, max_comm, (proper member given).max_body_backdrop, ← reach, ← tallest,
    there, there']
  ring

end Row

/-! ### Stacks -/

namespace Stack

variable {style : Style Rat} {rows : List (Row Rat)} {row : Row Rat} {rank : Nat} {cursor : Rat}

/-- A row ends where its tallest backdrop does. -/
theorem rowEnd_eq (proper : row.IsProper) (ceiling_nonneg : 0 ≤ ceiling style rank cursor) :
    rowEnd (row.start style.padding rank cursor)
      (Stack.row style rank (row.start style.padding rank cursor) row) =
        ceiling style rank cursor + row.depth := by
  refine (isGreatest_backdropEnd_row proper ceiling_nonneg).unique ⟨?_, ?_⟩
  · obtain ⟨member, given, tallest⟩ := (Row.isGreatest_tallest proper).1
    obtain ⟨stop, -, -⟩ := ofSized_in_row proper given ceiling_nonneg
    refine ⟨_, List.mem_map_of_mem given, ?_⟩
    rw [stop, tallest, Row.depth, add_assoc]
  · rintro y ⟨node, placed, rfl⟩
    obtain ⟨member, given, rfl⟩ := List.mem_map.mp placed
    obtain ⟨stop, -, -⟩ := ofSized_in_row proper given ceiling_nonneg
    have tallest := (Row.isGreatest_tallest proper).2 ⟨member, given, rfl⟩
    rw [stop, Row.depth]
    linarith

/-- The rows before a row take their depths and the paddings between them. -/
theorem cursor_eq (padding : 0 ≤ style.padding) (proper : ∀ row ∈ rows, row.IsProper)
    (bound : rank ≤ rows.length) :
    Stack.cursor style rows rank =
      ((rows.take rank).map Row.depth).sum + (rank - 1 : Nat) * style.padding := by
  induction rank with
  | zero => simp [Stack.cursor, ofRows, below]
  | succ rank ih =>
    have found : rows[rank]? = some rows[rank] := List.getElem?_eq_getElem bound
    have stop := rowEnd_eq (proper _ (List.getElem_mem bound))
      (ceiling_cursor_nonneg rows padding rank)
    rw [cursor_succ found, rowStart, stop, ceiling, ih (Nat.le_of_succ_le bound),
      List.take_succ_eq_append_getElem bound, List.map_append, List.sum_append]
    -- Only the first row has no padding above it.
    cases rank with
    | zero => simp
    | succ rank =>
      simp only [Nat.succ_ne_zero, if_false, Nat.add_sub_cancel, List.map_cons, List.map_nil,
        List.sum_cons, List.sum_nil]
      push_cast
      ring

theorem bottom_ofRows_eq (padding : 0 ≤ style.padding) (proper : ∀ row ∈ rows, row.IsProper) :
    (ofRows style rows).bottom =
      (rows.map Row.depth).sum + (rows.length - 1 : Nat) * style.padding := by
  rw [bottom_ofRows, cursor_eq padding proper le_rfl, List.take_length]

/-- The coordinates at which the nodes of a stack end, and the one at which it begins. -/
def ends (stack : Stack Rat) : Set Rat :=
  {y | y = 0 ∨ ∃ node ∈ stack.nodes, node.backdropEnd = y}

/-- A stack ends at its lowest backdrop. -/
theorem isGreatest_ends_ofRows (padding : 0 ≤ style.padding)
    (proper : ∀ row ∈ rows, row.IsProper) :
    IsGreatest (ends (ofRows style rows)) (ofRows style rows).bottom := by
  rw [bottom_ofRows]
  constructor
  · cases number : rows.length with
    | zero => exact .inl rfl
    | succ last =>
      have found : rows[last]? = some rows[last] := List.getElem?_eq_getElem (by omega)
      obtain ⟨node, member, -, stop⟩ := (isGreatest_rowBottoms padding proper found).1
      exact .inr ⟨node, member, stop⟩
  · rintro y (rfl | ⟨node, member, rfl⟩)
    · exact cursor_mono padding (Nat.zero_le rows.length)
    · obtain ⟨row, found, -⟩ := mem_nodes_ofRows_iff.mp ⟨member, rfl⟩
      obtain ⟨bound, -⟩ := List.getElem?_eq_some_iff.mp found
      exact ((isGreatest_rowBottoms padding proper found).2 ⟨node, member, rfl, rfl⟩).trans
        (cursor_mono padding bound)

theorem top_nonneg (padding : 0 ≤ style.padding) (proper : ∀ row ∈ rows, row.IsProper)
    {node : PlacedNode Rat} (member : node ∈ (ofRows style rows).nodes) : 0 ≤ node.top := by
  obtain ⟨row, found, -⟩ := mem_nodes_ofRows_iff.mp ⟨member, rfl⟩
  exact (ceiling_cursor_nonneg rows padding node.rank).trans
    ((isLeast_rowTops padding proper found).2 ⟨node, member, rfl, rfl⟩)

end Stack

/-! ### Nodes -/

namespace PlacedNode

/-- The coordinates at which something of a node begins or ends: its backdrop, its body and the
parts of its bar. -/
def coordinates (node : PlacedNode Rat) : List Rat :=
  [node.backdropStart, node.backdropEnd, node.bodyStart, node.bodyEnd] ++
    node.overflow.toList.flatMap fun bar => bar.parts.flatMap fun part => [part.start, part.stop]

theorem eq_ofAmounts_of_overflowBar_eq_some {α : Type} [Quantity α] {node : PlacedNode α} {gap : α}
    {bar : LoadBar α} (found : node.overflowBar gap = some bar) :
    bar = LoadBar.ofAmounts node.backdropEnd ⟨node.occupancy, node.bodyExtent⟩
      ⟨node.capacity, node.backdropExtent⟩ gap := by
  unfold overflowBar at found
  dsimp only at found
  split_ifs at found
  exact (Option.some.inj found).symm

/-- A node whose overflow is its own bar is drawn between zero and the end of its backdrop. -/
theorem bounds_of_mem_coordinates (node : PlacedNode Rat) {gap : Rat} (seam : 0 ≤ gap)
    (bar : node.overflow = node.overflowBar gap) (backdrop_nonneg : 0 ≤ node.backdropExtent)
    (body_nonneg : 0 ≤ node.bodyExtent) (top : 0 ≤ node.top)
    (backdrop : node.backdropStart + node.backdropExtent = node.backdropEnd)
    (body : node.bodyEnd - node.bodyStart = node.bodyExtent)
    (aligned : node.bodyEnd = node.backdropEnd) :
    ∀ y ∈ node.coordinates, 0 ≤ y ∧ y ≤ node.backdropEnd := by
  obtain ⟨backdropStart, bodyStart⟩ := le_min_iff.mp top
  rw [aligned] at body
  intro y member
  simp only [coordinates, aligned, List.mem_append, List.mem_cons, List.not_mem_nil, or_false,
    List.mem_flatMap, Option.mem_toList] at member
  rcases member with (rfl | rfl | rfl | rfl) | ⟨shown, found, part, given, ends⟩
  · exact ⟨backdropStart, by linarith⟩
  · exact ⟨by linarith, le_rfl⟩
  · exact ⟨bodyStart, by linarith⟩
  · exact ⟨by linarith, le_rfl⟩
  · obtain rfl := eq_ofAmounts_of_overflowBar_eq_some (bar ▸ found)
    have body_le : node.bodyExtent ≤ node.backdropEnd := by linarith
    have backdrop_le : node.backdropExtent ≤ node.backdropEnd := by linarith
    obtain ⟨start, forward, stop⟩ := LoadBar.bounds_of_mem_parts_ofAmounts seam body_nonneg body_le
      backdrop_nonneg backdrop_le given
    rcases ends with rfl | rfl
    · exact ⟨start, forward.trans stop⟩
    · exact ⟨start.trans forward, stop⟩

end PlacedNode

theorem Node.body_size_nonneg {style : Style Rat} (drawable : style.IsDrawable) {node : Node Rat}
    (occupancy : 0 ≤ node.occupancy) (values : List Rat) : 0 ≤ (node.size style values).body :=
  extentOf_nonneg drawable occupancy (compensation_nonneg style values)

/-! ### Diagrams -/

/-- The extents of the backdrops of a row. -/
def rowBackdrops (column : List (PlacedNode Rat)) (rank : Nat) : Set Rat :=
  {y | ∃ node ∈ column, node.rank = rank ∧ node.backdropExtent = y}

/-- How far the nodes of a row reach above its middle. -/
def rowReaches (column : List (PlacedNode Rat)) (rank : Nat) : Set Rat :=
  {y | ∃ node ∈ column, node.rank = rank ∧
    max (node.bodyExtent - node.backdropExtent) 0 + node.backdropExtent / 2 = y}

/-- Nodes one below the other, with a padding between two of them. -/
def columnExtent (padding : Rat) (column : List (PlacedNode Rat)) : Rat :=
  (column.map fun node => max node.backdropExtent node.bodyExtent).sum +
    (column.length - 1 : Nat) * padding

namespace Diagram

def nodes {α : Type} (diagram : Diagram α) : List (PlacedNode α) :=
  diagram.sources ++ diagram.targets

variable {sources targets : List (Node Rat)} {links : List (Link Rat)} {style : Style Rat}
  {side : Side} {node : PlacedNode Rat}

theorem mem_nodes_layout_iff :
    node ∈ (layout sources targets links style).nodes ↔ ∃ side,
      node ∈ (Stack.ofRows style (rowsOf sources targets links style side)).onSide side := by
  simp only [← onSide_layout, nodes, List.mem_append]
  constructor
  · rintro (left | right)
    · exact ⟨.source, left⟩
    · exact ⟨.target, right⟩
  · rintro ⟨_ | _, member⟩
    · exact .inl member
    · exact .inr member

theorem totalExtent_layout_of_paired (paired : style.alignment = .paired) (side : Side) :
    (layout sources targets links style).totalExtent =
      (Stack.ofRows style (rowsOf sources targets links style side)).bottom + style.padding := by
  simp only [layout, stack, Stack.ofSides, rowsOf, Row.holding, paired]
  rfl

theorem totalExtent_layout_of_independent (independent : style.alignment = .independent) :
    (layout sources targets links style).totalExtent =
      max (Stack.ofRows style (rowsOf sources targets links style .source)).bottom
        (Stack.ofRows style (rowsOf sources targets links style .target)).bottom +
          style.padding := by
  simp only [← larger_rat, layout, stack, Stack.ofSides, rowsOf, Row.holding, independent]
  rfl

/-- No row of a diagram ends below its last padding. -/
theorem bottom_add_padding_le_totalExtent (sources targets : List (Node Rat))
    (links : List (Link Rat)) (style : Style Rat) (side : Side) :
    (Stack.ofRows style (rowsOf sources targets links style side)).bottom + style.padding ≤
      (layout sources targets links style).totalExtent := by
  cases alignment : style.alignment with
  | paired => exact (totalExtent_layout_of_paired alignment side).ge
  | independent =>
    rw [totalExtent_layout_of_independent alignment]
    cases side with
    | source => exact add_le_add_left (le_max_left _ _) _
    | target => exact add_le_add_left (le_max_right _ _) _

/-- Whatever is placed with a side belongs to the diagram. -/
theorem mem_nodes_of_mem_nodes_ofRows
    (placed : node ∈ (Stack.ofRows style (rowsOf sources targets links style side)).nodes) :
    node ∈ (layout sources targets links style).nodes := by
  obtain ⟨other, member⟩ : ∃ other,
      node ∈ (Stack.ofRows style (rowsOf sources targets links style side)).onSide other := by
    rcases (mem_nodes_iff _ _).mp placed with left | right
    · exact ⟨.source, left⟩
    · exact ⟨.target, right⟩
  refine mem_nodes_layout_iff.mpr ⟨other, ?_⟩
  cases alignment : style.alignment with
  | paired => rwa [rowsOf_eq_of_paired alignment other side]
  | independent =>
    -- A side that is placed on its own has rows of its own.
    obtain ⟨rank, row, sized, found, present, -⟩ := Stack.mem_onSide_ofRows_iff.mp member
    have given := List.mem_of_getElem? found
    rw [rowsOf_of_independent alignment] at given
    rwa [Row.side_of_mem_ofSide given present] at member ⊢

theorem isGreatest_ends_layout (drawable : IsDrawable sources targets links style) :
    IsGreatest {y | y = 0 ∨ ∃ node ∈ (layout sources targets links style).nodes,
        node.backdropEnd = y}
      ((layout sources targets links style).totalExtent - style.padding) := by
  have greatest (side : Side) := Stack.isGreatest_ends_ofRows
    drawable.isDrawable_style.padding_nonneg (isProper_of_mem_rowsOf drawable side)
  have below := bottom_add_padding_le_totalExtent sources targets links style
  constructor
  · obtain ⟨side, lowest⟩ : ∃ side, (layout sources targets links style).totalExtent =
        (Stack.ofRows style (rowsOf sources targets links style side)).bottom + style.padding := by
      cases alignment : style.alignment with
      | paired => exact ⟨.source, totalExtent_layout_of_paired alignment .source⟩
      | independent =>
        rw [totalExtent_layout_of_independent alignment]
        rcases max_choice (Stack.ofRows style (rowsOf sources targets links style .source)).bottom
          (Stack.ofRows style (rowsOf sources targets links style .target)).bottom with left | right
        · exact ⟨.source, by rw [left]⟩
        · exact ⟨.target, by rw [right]⟩
    rw [lowest, add_sub_cancel_right]
    rcases (greatest side).1 with zero | ⟨node, placed, stop⟩
    · exact .inl zero
    · exact .inr ⟨node, mem_nodes_of_mem_nodes_ofRows placed, stop⟩
  · rintro y (rfl | ⟨node, member, rfl⟩)
    · have start := (greatest .source).2 (.inl rfl)
      linarith [below .source]
    · obtain ⟨side, member⟩ := mem_nodes_layout_iff.mp member
      have stop := (greatest side).2 (.inr ⟨node, List.mem_of_mem_filter member, rfl⟩)
      linarith [below side]

/-- Every node of a diagram was given on one of its sides, has counts, and is not cut off at zero. -/
theorem exists_of_mem_nodes_layout (drawable : IsDrawable sources targets links style)
    (member : node ∈ (layout sources targets links style).nodes) :
    ∃ side, ∃ given ∈ side.pick sources targets, ∃ rank start tallest,
      node = PlacedNode.ofSized style rank start tallest side
        (sizedNode sources targets links style side given) ∧
      0 ≤ given.occupancy ∧ 0 ≤ given.capacity ∧ 0 ≤ node.top ∧
      node.bodyEnd - node.bodyStart = node.bodyExtent := by
  obtain ⟨side, placed⟩ := mem_nodes_layout_iff.mp member
  have top := Stack.top_nonneg drawable.isDrawable_style.padding_nonneg
    (isProper_of_mem_rowsOf drawable side) (List.mem_of_mem_filter placed)
  rw [← onSide_layout] at placed
  have body := bodyEnd_sub_bodyStart drawable placed
  obtain ⟨given, among, rank, start, tallest, same⟩ := exists_of_mem_onSide drawable placed
  have counts := areDrawable_pick drawable side
  have occupancy := isCount_rat.mp (counts.occupancy given among)
  have capacity := isCount_rat.mp (counts.capacity given among)
  exact ⟨side, given, among, rank, start, tallest, same, occupancy, capacity, top, body⟩

/-- Everything that is drawn of a node lies on the diagram, above its last padding. -/
theorem bounds_of_mem_nodes_layout (drawable : IsDrawable sources targets links style)
    (member : node ∈ (layout sources targets links style).nodes) :
    ∀ y ∈ node.coordinates,
      0 ≤ y ∧ y ≤ (layout sources targets links style).totalExtent - style.padding := by
  have stop := (isGreatest_ends_layout drawable).2 (.inr ⟨node, member, rfl⟩)
  obtain ⟨side, given, -, rank, start, tallest, rfl, occupancy, capacity, top, body⟩ :=
    exists_of_mem_nodes_layout drawable member
  have proper := Node.isProper_size drawable.isDrawable_style occupancy capacity
    (Link.valuesAt side (Link.connected sources targets links) given.key)
  have inside := PlacedNode.bounds_of_mem_coordinates
    (PlacedNode.ofSized style rank start tallest side
      (sizedNode sources targets links style side given))
    (isNonNegative_rat.mp drawable.isDrawable_style.overflowGap) rfl proper.backdrop_nonneg
    (Node.body_size_nonneg drawable.isDrawable_style occupancy _) top rfl body rfl
  intro y shown
  obtain ⟨lower, upper⟩ := inside y shown
  exact ⟨lower, upper.trans stop⟩

/-! ### Paired sides -/

section Paired

variable {rank : Nat} {row : Row Rat}

theorem mem_nodes_layout_iff_of_paired (paired : style.alignment = .paired) :
    node ∈ (layout sources targets links style).nodes ↔
      node ∈ (Stack.ofRows style (rowsOf sources targets links style .source)).nodes := by
  refine ⟨fun member => ?_, mem_nodes_of_mem_nodes_ofRows⟩
  obtain ⟨side, placed⟩ := mem_nodes_layout_iff.mp member
  rw [rowsOf_eq_of_paired paired side .source] at placed
  exact List.mem_of_mem_filter placed

/-- What the nodes of a rank show is what the members of its row have. -/
theorem exists_rank_eq_iff_exists_member (paired : style.alignment = .paired)
    (found : (rowsOf sources targets links style .source)[rank]? = some row)
    (shown : PlacedNode Rat → Rat) (given : SizedNode Rat → Rat)
    (same : ∀ member ∈ row.members, ∀ start,
      shown (PlacedNode.ofSized style rank start row.tallest member.1 member.2) = given member.2)
    (y : Rat) :
    (∃ node ∈ (layout sources targets links style).nodes, node.rank = rank ∧ shown node = y) ↔
      ∃ member ∈ row.members, given member.2 = y := by
  simp only [mem_nodes_layout_iff_of_paired paired, ← and_assoc, Stack.mem_nodes_ofRows_iff, found,
    Option.some.injEq, exists_eq_left']
  constructor
  · rintro ⟨node, placed, rfl⟩
    obtain ⟨member, there, rfl⟩ := List.mem_map.mp placed
    exact ⟨member, there, (same member there _).symm⟩
  · rintro ⟨member, there, rfl⟩
    exact ⟨_, List.mem_map_of_mem there, same member there _⟩

theorem isGreatest_rowBackdrops (drawable : IsDrawable sources targets links style)
    (paired : style.alignment = .paired)
    (found : (rowsOf sources targets links style .source)[rank]? = some row) :
    IsGreatest (rowBackdrops (layout sources targets links style).nodes rank) row.tallest := by
  have proper := isProper_of_mem_rowsOf drawable .source row (List.mem_of_getElem? found)
  have backdrops := exists_rank_eq_iff_exists_member paired found (·.backdropExtent)
    (·.size.backdrop) fun _ _ _ => rfl
  simp only [rowBackdrops, backdrops]
  exact Row.isGreatest_tallest proper

theorem isGreatest_rowReaches (drawable : IsDrawable sources targets links style)
    (paired : style.alignment = .paired)
    (found : (rowsOf sources targets links style .source)[rank]? = some row) :
    IsGreatest (rowReaches (layout sources targets links style).nodes rank) row.reach := by
  have proper := isProper_of_mem_rowsOf drawable .source row (List.mem_of_getElem? found)
  have reaches := exists_rank_eq_iff_exists_member paired found
    (fun node => max (node.bodyExtent - node.backdropExtent) 0 + node.backdropExtent / 2)
    (fun sized => sized.size.overflow + sized.size.backdrop / 2)
    fun member there _ => by rw [(proper member there).overflow_eq]; rfl
  simp only [rowReaches, reaches]
  exact Row.isGreatest_reach proper

theorem exists_rank_iff (paired : style.alignment = .paired) (rank : Nat) :
    (∃ node ∈ (layout sources targets links style).nodes, node.rank = rank) ↔
      rank < (rowsOf sources targets links style .source).length := by
  simp only [mem_nodes_layout_iff_of_paired paired, Stack.mem_nodes_ofRows_iff]
  constructor
  · rintro ⟨node, row, found, -⟩
    exact (List.getElem?_eq_some_iff.mp found).1
  · intro bound
    obtain ⟨member, given⟩ := List.exists_mem_of_ne_nil _
      (rowsOf sources targets links style .source)[rank].members_ne_nil
    exact ⟨_, _, List.getElem?_eq_getElem bound, List.mem_map_of_mem given⟩

theorem totalExtent_layout_paired (drawable : IsDrawable sources targets links style)
    (paired : style.alignment = .paired) (side : Side) :
    (layout sources targets links style).totalExtent =
      max (rowsOf sources targets links style side).length 1 * style.padding +
        ((rowsOf sources targets links style side).map Row.depth).sum := by
  rw [totalExtent_layout_of_paired paired side,
    Stack.bottom_ofRows_eq drawable.isDrawable_style.padding_nonneg
      (isProper_of_mem_rowsOf drawable side)]
  -- There is one padding below the last row, even where there is no row.
  cases (rowsOf sources targets links style side).length with
  | zero => norm_num [add_comm]
  | succ last =>
    rw [Nat.add_sub_cancel, max_eq_left (by norm_num)]
    push_cast
    ring

end Paired

/-! ### Independent sides -/

/-- The rows of a side that is placed on its own take the room of its nodes. -/
theorem map_depth_rowsOf_of_independent (drawable : IsDrawable sources targets links style)
    (independent : style.alignment = .independent) (side : Side) :
    (rowsOf sources targets links style side).map Row.depth =
      ((rowsOf sources targets links style side).filterMap (Row.member? side)).map
        (·.size.room) := by
  rw [filterMap_member?_rowsOf independent, List.map_map]
  refine List.map_congr_left fun row member => ?_
  have alone : row.members = [(side, row.leader)] := by
    have given := mem_gathered_of_mem_rowsOf member
    rw [independent] at given
    obtain ⟨sized, -, rfl⟩ := List.mem_map.mp given
    cases side <;> rfl
  have proper := isProper_of_mem_rowsOf drawable side row member
  rw [Function.comp_apply, Row.depth_eq_room proper alone]

/-- A side that is placed on its own takes the room of its nodes and the paddings between them. -/
theorem bottom_rowsOf_of_independent (drawable : IsDrawable sources targets links style)
    (independent : style.alignment = .independent) (side : Side) :
    (Stack.ofRows style (rowsOf sources targets links style side)).bottom =
      columnExtent style.padding ((layout sources targets links style).onSide side) := by
  have room (rank : Nat) (start tallest : Rat) (sized : SizedNode Rat) :
      max (PlacedNode.ofSized style rank start tallest side sized).backdropExtent
        (PlacedNode.ofSized style rank start tallest side sized).bodyExtent = sized.size.room := rfl
  have rooms : ((layout sources targets links style).onSide side).map
      (fun node => max node.backdropExtent node.bodyExtent) =
        (rowsOf sources targets links style side).map Row.depth := by
    rw [onSide_layout, Stack.map_onSide_ofRows _ room,
      map_depth_rowsOf_of_independent drawable independent]
  have count : ((layout sources targets links style).onSide side).length =
      (rowsOf sources targets links style side).length := by
    simpa using congrArg List.length rooms
  rw [Stack.bottom_ofRows_eq drawable.isDrawable_style.padding_nonneg
    (isProper_of_mem_rowsOf drawable side), columnExtent, rooms, count]

/-! ### Drawings -/

/-- A diagram with nodes ends one padding below the lowest backdrop. -/
theorem isGreatest_backdropEnd_layout (drawable : IsDrawable sources targets links style)
    (nonempty : (layout sources targets links style).nodes ≠ []) :
    IsGreatest {y | ∃ node ∈ (layout sources targets links style).nodes, node.backdropEnd = y}
      ((layout sources targets links style).totalExtent - style.padding) := by
  have greatest := isGreatest_ends_layout drawable
  refine ⟨?_, fun y member => greatest.2 (.inr member)⟩
  rcases greatest.1 with zero | member
  · -- A backdrop that ends at zero ends as low as any other one.
    obtain ⟨node, member⟩ := List.exists_mem_of_ne_nil _ nonempty
    obtain ⟨lower, upper⟩ := bounds_of_mem_nodes_layout drawable member node.backdropEnd
      (by simp [PlacedNode.coordinates])
    exact ⟨node, member, by linarith⟩
  · exact member

theorem exists_rows_of_paired (drawable : IsDrawable sources targets links style)
    (paired : style.alignment = .paired) :
    ∃ (rows : Nat) (tallest reach : Nat → Rat),
      (∀ rank, (∃ node ∈ (layout sources targets links style).nodes, node.rank = rank) ↔
        rank < rows) ∧
      (∀ rank < rows,
        IsGreatest (rowBackdrops (layout sources targets links style).nodes rank) (tallest rank) ∧
          IsGreatest (rowReaches (layout sources targets links style).nodes rank) (reach rank)) ∧
      (layout sources targets links style).totalExtent = max rows 1 * style.padding +
        ∑ rank ∈ Finset.range rows, (tallest rank / 2 + reach rank) := by
  refine ⟨(rowsOf sources targets links style .source).length,
    fun rank => (rowsOf sources targets links style .source)[rank]?.elim 0 Row.tallest,
    fun rank => (rowsOf sources targets links style .source)[rank]?.elim 0 Row.reach,
    exists_rank_iff paired, fun rank bound => ?_, ?_⟩
  · have found := List.getElem?_eq_getElem bound
    simp only [found, Option.elim_some]
    exact ⟨isGreatest_rowBackdrops drawable paired found,
      isGreatest_rowReaches drawable paired found⟩
  · rw [totalExtent_layout_paired drawable paired .source, Finset.sum_range,
      ← Fin.sum_univ_fun_getElem]
    refine congrArg _ (Finset.sum_congr rfl fun rank _ => ?_)
    simp only [List.getElem?_eq_getElem rank.isLt, Option.elim_some, Row.depth, add_comm]

/-- A diagram ends one padding below its lowest backdrop, and everything that is drawn of its nodes
lies above that padding. Under paired alignment it takes a padding for each row, half of the row's
tallest backdrop, and as much as the row reaches above its middle. Under independent alignment it
takes what the larger of its sides takes, each of them node by node. -/
theorem draw_totalExtent {diagram : Diagram Rat}
    (drawn : draw sources targets links style = .ok diagram) :
    (diagram.nodes = [] → diagram.totalExtent = style.padding) ∧
      (diagram.nodes ≠ [] → IsGreatest {y | ∃ node ∈ diagram.nodes, node.backdropEnd = y}
        (diagram.totalExtent - style.padding)) ∧
      (∀ node ∈ diagram.nodes, ∀ y ∈ node.coordinates,
        0 ≤ y ∧ y ≤ diagram.totalExtent - style.padding) ∧
      (style.alignment = .paired → ∃ (rows : Nat) (tallest reach : Nat → Rat),
        (∀ rank, (∃ node ∈ diagram.nodes, node.rank = rank) ↔ rank < rows) ∧
          (∀ rank < rows, IsGreatest (rowBackdrops diagram.nodes rank) (tallest rank) ∧
            IsGreatest (rowReaches diagram.nodes rank) (reach rank)) ∧
          diagram.totalExtent = max rows 1 * style.padding +
            ∑ rank ∈ Finset.range rows, (tallest rank / 2 + reach rank)) ∧
      (style.alignment = .independent → diagram.totalExtent = style.padding +
        max (columnExtent style.padding diagram.sources)
          (columnExtent style.padding diagram.targets)) := by
  obtain ⟨drawable, rfl⟩ := draw_eq_ok_iff.mp drawn
  refine ⟨fun empty => ?_, isGreatest_backdropEnd_layout drawable,
    fun node member => bounds_of_mem_nodes_layout drawable member,
    exists_rows_of_paired drawable, fun independent => ?_⟩
  · have reached := (isGreatest_ends_layout drawable).1
    rw [empty] at reached
    rcases reached with zero | ⟨node, member, -⟩
    · linarith
    · exact absurd member List.not_mem_nil
  · rw [totalExtent_layout_of_independent independent,
      bottom_rowsOf_of_independent drawable independent .source,
      bottom_rowsOf_of_independent drawable independent .target, add_comm]
    rfl

/-- Paired, the overcrowded trip pushes its row down and the rows are longer together than either
side is alone. -/
theorem draw_totalExtent_crowdedStation :
    (∃ diagram, draw crowdedStation.sources crowdedStation.targets crowdedStation.links
        (Style.plain .paired) = .ok diagram ∧ diagram.totalExtent = 59 ∧
      IsGreatest {y | ∃ node ∈ diagram.nodes, node.backdropEnd = y} (59 - 20) ∧
      ∀ node ∈ diagram.nodes, ∀ y ∈ node.coordinates, 0 ≤ y ∧ y ≤ 59 - 20) ∧
    ∃ diagram, draw crowdedStation.sources crowdedStation.targets crowdedStation.links
        (Style.plain .independent) = .ok diagram ∧
      diagram.totalExtent =
        20 + max (columnExtent 20 diagram.sources) (columnExtent 20 diagram.targets) := by
  have paired := draw_eq_ok_layout (by decide +kernel :
    check (Node.kept crowdedStation.sources) (Node.kept crowdedStation.targets)
      crowdedStation.links (Style.plain .paired) = .ok ())
  have independent := draw_eq_ok_layout (by decide +kernel :
    check (Node.kept crowdedStation.sources) (Node.kept crowdedStation.targets)
      crowdedStation.links (Style.plain .independent) = .ok ())
  have total : (layout (Node.kept crowdedStation.sources) (Node.kept crowdedStation.targets)
      crowdedStation.links (Style.plain .paired)).totalExtent = 59 := by cbv
  have ranks : (layout (Node.kept crowdedStation.sources) (Node.kept crowdedStation.targets)
      crowdedStation.links (Style.plain .paired)).nodes.map (·.rank) = [0, 1, 0] := by cbv
  obtain ⟨-, lowest, inside, -⟩ := draw_totalExtent paired
  obtain ⟨-, -, -, -, closed⟩ := draw_totalExtent independent
  rw [total] at lowest inside
  refine ⟨⟨_, paired, total, lowest fun empty => ?_, inside⟩, _, independent, closed rfl⟩
  rw [empty] at ranks
  cases ranks

end Diagram

end TransitDiagram
