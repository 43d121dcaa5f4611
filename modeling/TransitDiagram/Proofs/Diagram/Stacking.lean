import Mathlib
import TransitDiagram.Proofs.Diagram.Acceptance
import TransitDiagram.Proofs.Diagram.Rows

/-!
# Where rows are placed

A stack is built from its first row to its last. Here it is described from outside: row number
`rank` starts at `Stack.rowStart`, below the coordinate at which the rows before it end
(`Stack.cursor`), and the nodes of a side are the rows' nodes on that side, each placed in its row
(`onSide_ofRows`). Under either alignment a side of a diagram is a side of such a stack
(`Diagram.onSide_layout`), and it shows each node that was given once (`Diagram.map_onSide_perm`).
-/

namespace TransitDiagram

namespace Stack

variable {α : Type} [Quantity α] {style : Style α}

theorem below_append (rank : Nat) (top : α) (upper lower : List (Row α)) :
    below style rank top (upper ++ lower) =
      ⟨(below style rank top upper).nodes ++
          (below style (rank + upper.length) (below style rank top upper).bottom lower).nodes,
        (below style (rank + upper.length) (below style rank top upper).bottom lower).bottom⟩ := by
  induction upper generalizing rank top with
  | nil => rfl
  | cons row upper ih =>
    have shift : rank + 1 + upper.length = rank + (upper.length + 1) := by omega
    simp only [List.cons_append, below, ih, List.append_assoc, List.length_cons, shift]

/-- The coordinate at which the rows before a row end. -/
def cursor (style : Style α) (rows : List (Row α)) (rank : Nat) : α :=
  (ofRows style (rows.take rank)).bottom

def rowStart (style : Style α) (rows : List (Row α)) (rank : Nat) (row : Row α) : α :=
  row.start style.padding rank (cursor style rows rank)

theorem cursor_append {upper : List (Row α)} (lower : List (Row α)) {rank : Nat}
    (bound : rank ≤ upper.length) :
    cursor style (upper ++ lower) rank = cursor style upper rank := by
  rw [cursor, cursor, List.take_append_of_le_length bound]

/-- A row follows the rows before it, and the next one follows the row. -/
theorem cursor_succ {rows : List (Row α)} {rank : Nat} {row : Row α}
    (found : rows[rank]? = some row) :
    cursor style rows (rank + 1) =
      rowEnd (rowStart style rows rank row)
        (Stack.row style rank (rowStart style rows rank row) row) := by
  obtain ⟨bound, rfl⟩ := List.getElem?_eq_some_iff.mp found
  rw [cursor, List.take_succ_eq_append_getElem bound, ofRows, below_append]
  simp only [below, Nat.zero_add, List.length_take_of_le (le_of_lt bound)]
  rfl

theorem bottom_ofRows (rows : List (Row α)) :
    (ofRows style rows).bottom = cursor style rows rows.length := by
  rw [cursor, List.take_length]

theorem nodes_ofRows (rows : List (Row α)) :
    (ofRows style rows).nodes =
      rows.zipIdx.flatMap fun p => Stack.row style p.2 (rowStart style rows p.2 p.1) p.1 := by
  induction rows using List.reverseRecOn with
  | nil => rfl
  | append_singleton upper last ih =>
    -- A last row leaves the rows before it where they are, and starts where they end.
    have earlier : (upper.zipIdx.flatMap fun p =>
          Stack.row style p.2 (rowStart style (upper ++ [last]) p.2 p.1) p.1) =
        upper.zipIdx.flatMap fun p => Stack.row style p.2 (rowStart style upper p.2 p.1) p.1 := by
      refine List.flatMap_congr fun p member => ?_
      have bound : p.2 < upper.length := by
        obtain ⟨-, bound, -⟩ := List.mem_zipIdx member
        simpa using bound
      rw [rowStart, rowStart, cursor_append [last] (le_of_lt bound)]
    have final : cursor style (upper ++ [last]) upper.length = (ofRows style upper).bottom := by
      rw [cursor_append [last] le_rfl, bottom_ofRows]
    rw [List.zipIdx_append, List.flatMap_append, earlier, ← ih, ofRows, below_append]
    simp [below, rowStart, final, ofRows]

theorem rank_of_mem_row {rank : Nat} {start : α} {row : Row α} {node : PlacedNode α}
    (member : node ∈ Stack.row style rank start row) : node.rank = rank := by
  obtain ⟨sized, -, rfl⟩ := List.mem_map.mp member
  rfl

/-- A node of a stack stands in the row of its rank. -/
theorem mem_nodes_ofRows_iff {rows : List (Row α)} {rank : Nat} {node : PlacedNode α} :
    node ∈ (ofRows style rows).nodes ∧ node.rank = rank ↔
      ∃ row, rows[rank]? = some row ∧
        node ∈ Stack.row style rank (rowStart style rows rank row) row := by
  rw [nodes_ofRows, List.mem_flatMap]
  constructor
  · rintro ⟨⟨⟨row, number⟩, found, member⟩, rfl⟩
    obtain rfl : node.rank = number := rank_of_mem_row member
    exact ⟨row, List.mk_mem_zipIdx_iff_getElem?.mp found, member⟩
  · rintro ⟨row, found, member⟩
    exact ⟨⟨(row, rank), List.mk_mem_zipIdx_iff_getElem?.mpr found, member⟩,
      rank_of_mem_row member⟩

/-! ### The nodes of a side -/

/-- A row has at most one node on a side. -/
theorem onSide_row (rank : Nat) (start : α) (row : Row α) (side : Side) :
    (Stack.row style rank start row).filter (fun node => node.side = side) =
      ((row.member? side).map
        (PlacedNode.ofSized style rank start row.tallest side)).toList := by
  cases row <;> cases side <;> rfl

/-- The nodes of a side of a stack, row by row. -/
theorem onSide_ofRows (rows : List (Row α)) (side : Side) :
    (ofRows style rows).onSide side =
      rows.zipIdx.filterMap fun p => (p.1.member? side).map
        (PlacedNode.ofSized style p.2 (rowStart style rows p.2 p.1) p.1.tallest side) := by
  rw [onSide, nodes_ofRows, List.filter_flatMap, List.filterMap_eq_flatMap_toList]
  exact List.flatMap_congr fun p _ => onSide_row p.2 _ p.1 side

theorem mem_onSide_ofRows_iff {rows : List (Row α)} {side : Side} {node : PlacedNode α} :
    node ∈ (ofRows style rows).onSide side ↔
      ∃ rank row sized, rows[rank]? = some row ∧ row.member? side = some sized ∧
        node = PlacedNode.ofSized style rank (rowStart style rows rank row) row.tallest side
          sized := by
  rw [onSide_ofRows, List.mem_filterMap]
  constructor
  · rintro ⟨⟨row, rank⟩, member, placed⟩
    obtain ⟨sized, found, rfl⟩ := Option.map_eq_some_iff.mp placed
    exact ⟨rank, row, sized, List.mk_mem_zipIdx_iff_getElem?.mp member, found, rfl⟩
  · rintro ⟨rank, row, sized, found, member, rfl⟩
    refine ⟨(row, rank), List.mk_mem_zipIdx_iff_getElem?.mpr found, ?_⟩
    rw [member, Option.map_some]

theorem pairwise_rank_onSide_ofRows (rows : List (Row α)) (side : Side) :
    ((ofRows style rows).onSide side).Pairwise fun above below => above.rank < below.rank := by
  rw [onSide_ofRows, List.pairwise_filterMap]
  have numbers : rows.zipIdx.Pairwise fun p q => p.2 < q.2 := by
    rw [← List.pairwise_map, List.zipIdx_map_snd]
    exact List.pairwise_lt_range'
  refine numbers.imp ?_
  rintro ⟨row, rank⟩ ⟨row', rank'⟩ less node placed node' placed'
  obtain ⟨sized, -, rfl⟩ := Option.map_eq_some_iff.mp placed
  obtain ⟨sized', -, rfl⟩ := Option.map_eq_some_iff.mp placed'
  exact less

/-- What does not depend on the place of a node can be read off the rows. -/
theorem map_onSide_ofRows {β : Type} (rows : List (Row α)) {side : Side} {shown : PlacedNode α → β}
    {given : SizedNode α → β} (same : ∀ rank start tallest sized,
      shown (PlacedNode.ofSized style rank start tallest side sized) = given sized) :
    ((ofRows style rows).onSide side).map shown =
      (rows.filterMap (Row.member? side)).map given := by
  have unplaced : rows = rows.zipIdx.map Prod.fst := (List.zipIdx_map_fst 0 rows).symm
  conv_rhs => rw [unplaced, List.filterMap_map]
  rw [onSide_ofRows, List.map_filterMap, List.map_filterMap]
  refine List.filterMap_congr fun p _ => ?_
  rw [Option.map_map]
  exact congrArg (Option.map · _) (funext fun sized => same _ _ _ sized)

/-! ### Both sides -/

theorem onSide_ofRows_ofSide_eq_nil {side other : Side} (different : other ≠ side)
    (nodes : List (SizedNode α)) : (ofRows style (Row.ofSide side nodes)).onSide other = [] := by
  refine List.eq_nil_iff_forall_not_mem.mpr fun node member => ?_
  obtain ⟨rank, row, sized, found, here, -⟩ := mem_onSide_ofRows_iff.mp member
  exact different (Row.side_of_mem_ofSide (List.mem_of_getElem? found) here)

/-- Under either alignment a side is placed from the rows that hold it. -/
theorem onSide_ofSides (sources targets : List (SizedNode α)) (side : Side) :
    (ofSides style sources targets).onSide side =
      (ofRows style (Row.holding style.alignment sources targets side)).onSide side := by
  unfold ofSides Row.holding
  cases style.alignment with
  | paired => rfl
  | independent =>
    have split (left right : Stack α) (bottom : α) :
        (⟨left.nodes ++ right.nodes, bottom⟩ : Stack α).onSide side =
          left.onSide side ++ right.onSide side := List.filter_append _ _
    simp only [split]
    cases side with
    | source =>
      rw [onSide_ofRows_ofSide_eq_nil (by decide : Side.source ≠ .target), List.append_nil]
      rfl
    | target =>
      rw [onSide_ofRows_ofSide_eq_nil (by decide : Side.target ≠ .source), List.nil_append]
      rfl

end Stack

namespace Diagram

variable {α : Type} [Quantity α] {sources targets : List (Node α)} {links : List (Link α)}
  {style : Style α} {side : Side}

/-- A node with the size that its links give it. -/
def sizedNode (sources targets : List (Node α)) (links : List (Link α)) (style : Style α)
    (side : Side) (node : Node α) : SizedNode α :=
  node.sized style (Link.valuesAt side (Link.connected sources targets links))

/-- The rows from which a side of a diagram is placed. -/
def rowsOf (sources targets : List (Node α)) (links : List (Link α)) (style : Style α)
    (side : Side) : List (Row α) :=
  Row.holding style.alignment (sources.map (sizedNode sources targets links style .source))
    (targets.map (sizedNode sources targets links style .target)) side

theorem onSide_layout (sources targets : List (Node α)) (links : List (Link α)) (style : Style α)
    (side : Side) : (layout sources targets links style).onSide side =
      (Stack.ofRows style (rowsOf sources targets links style side)).onSide side := by
  rw [rowsOf, ← Stack.onSide_ofSides]
  cases side <;> rfl

theorem pairwise_rank_onSide (sources targets : List (Node α)) (links : List (Link α))
    (style : Style α) (side : Side) :
    ((layout sources targets links style).onSide side).Pairwise fun above below =>
      above.rank < below.rank := by
  rw [onSide_layout]
  exact Stack.pairwise_rank_onSide_ofRows _ side

theorem eq_of_rank_eq {node other : PlacedNode α}
    (member : node ∈ (layout sources targets links style).onSide side)
    (member' : other ∈ (layout sources targets links style).onSide side)
    (same : node.rank = other.rank) : node = other := by
  have ranks := (pairwise_rank_onSide sources targets links style side).imp Nat.ne_of_lt
  exact List.inj_on_of_nodup_map (List.pairwise_map.mpr ranks) member member' same

theorem pick_map_sizedNode :
    side.pick (sources.map (sizedNode sources targets links style .source))
        (targets.map (sizedNode sources targets links style .target)) =
      (side.pick sources targets).map (sizedNode sources targets links style side) := by
  cases side <;> rfl

/-- Paired sides are placed from the same rows. -/
theorem rowsOf_eq_of_paired (paired : style.alignment = .paired) (side other : Side) :
    rowsOf sources targets links style side = rowsOf sources targets links style other := by
  simp only [rowsOf, Row.holding, paired]

/-- A side of its own is placed from its own nodes. -/
theorem rowsOf_of_independent (independent : style.alignment = .independent) (side : Side) :
    rowsOf sources targets links style side =
      Row.ofSide side
        ((side.pick sources targets).map (sizedNode sources targets links style side)) := by
  rw [← pick_map_sizedNode]
  simp only [rowsOf, Row.holding, independent]

theorem map_key_sizedNode (nodes : List (Node α)) :
    (nodes.map (sizedNode sources targets links style side)).map (·.node.key) =
      nodes.map (·.key) :=
  List.map_map

theorem nodup_key_sizedNode {nodes : List (Node α)} (drawable : Node.AreDrawable nodes) :
    ((nodes.map (sizedNode sources targets links style side)).map (·.node.key)).Nodup := by
  rw [map_key_sizedNode]
  exact drawable.nodup_key

theorem exists_of_mem_rowsOf (drawable : IsDrawable sources targets links style) {other : Side}
    {row : Row α} {sized : SizedNode α} (member : row ∈ rowsOf sources targets links style side)
    (found : row.member? other = some sized) :
    ∃ node ∈ other.pick sources targets,
      sizedNode sources targets links style other node = sized := by
  have given := Row.mem_pick_of_mem_holding (nodup_key_sizedNode drawable.areDrawable_sources)
    (nodup_key_sizedNode drawable.areDrawable_targets) member found
  rw [pick_map_sizedNode] at given
  exact List.mem_map.mp given

theorem rowsOf_perm (drawable : IsDrawable sources targets links style) (side : Side) :
    ((rowsOf sources targets links style side).filterMap (Row.member? side)).Perm
      ((side.pick sources targets).map (sizedNode sources targets links style side)) := by
  rw [← pick_map_sizedNode]
  exact Row.holding_perm style.alignment (nodup_key_sizedNode drawable.areDrawable_sources)
    (nodup_key_sizedNode drawable.areDrawable_targets) side

/-- A drawn side shows each given node once. -/
theorem map_onSide_perm {β : Type} (drawable : IsDrawable sources targets links style) {side : Side}
    {shown : PlacedNode α → β} {given : Node α → β} (same : ∀ rank start tallest sized,
      shown (PlacedNode.ofSized style rank start tallest side sized) = given sized.node) :
    (((layout sources targets links style).onSide side).map shown).Perm
      ((side.pick sources targets).map given) := by
  rw [onSide_layout, Stack.map_onSide_ofRows _ same]
  refine ((rowsOf_perm drawable side).map _).trans (List.Perm.of_eq ?_)
  rw [List.map_map]
  rfl

theorem map_key_perm (drawable : IsDrawable sources targets links style) (side : Side) :
    (((layout sources targets links style).onSide side).map (·.key)).Perm
      ((side.pick sources targets).map (·.key)) :=
  map_onSide_perm drawable fun _ _ _ _ => rfl

theorem areDrawable_pick (drawable : IsDrawable sources targets links style) (side : Side) :
    Node.AreDrawable (side.pick sources targets) := by
  cases side with
  | source => exact drawable.areDrawable_sources
  | target => exact drawable.areDrawable_targets

/-- A node of a diagram is a given node, with its size, placed in some row. -/
theorem exists_of_mem_onSide (drawable : IsDrawable sources targets links style)
    {placed : PlacedNode α} (member : placed ∈ (layout sources targets links style).onSide side) :
    ∃ node ∈ side.pick sources targets, ∃ rank start tallest,
      placed = PlacedNode.ofSized style rank start tallest side
        (sizedNode sources targets links style side node) := by
  rw [onSide_layout] at member
  obtain ⟨rank, row, sized, found, present, rfl⟩ := Stack.mem_onSide_ofRows_iff.mp member
  obtain ⟨node, given, rfl⟩ := exists_of_mem_rowsOf drawable (List.mem_of_getElem? found) present
  exact ⟨node, given, rank, _, _, rfl⟩

theorem nodup_key_onSide (drawable : IsDrawable sources targets links style) (side : Side) :
    (((layout sources targets links style).onSide side).map (·.key)).Nodup :=
  (map_key_perm drawable side).nodup_iff.mpr (areDrawable_pick drawable side).nodup_key

theorem node?_eq_some_iff (drawable : IsDrawable sources targets links style) {key : NodeKey}
    {node : PlacedNode α} :
    (layout sources targets links style).node? side key = some node ↔
      node ∈ (layout sources targets links style).onSide side ∧ node.key = key :=
  find?_key_eq_some_iff (nodup_key_onSide drawable side)

end Diagram

end TransitDiagram
