import TransitDiagram.Proofs.Diagram.Packing
import TransitDiagram.Proofs.StableSort

/-!
# The stacking order

The nodes of a diagram are neither lost nor repeated, and their order is determined: by the place
of a node in a stack (`Node.stackingKey`) and, among nodes of one place, by the order in which they
were given (`Node.IsStacked`). Under paired alignment this orders the rows, each led by its source
node if it has one and by its target node otherwise (`Node.leaders`).
-/

namespace TransitDiagram

namespace Node

variable {α : Type}

/-- Where a node belongs in a stack, to be compared from left to right: in front of all real nodes,
among them by its time, or behind them. -/
def stackingKey (node : Node α) : Nat ×ₗ Int :=
  match node.key with
  | .sentinel .boarding => toLex (0, 0)
  | .sentinel .previous => toLex (0, 1)
  | .real _ => toLex (1, node.displayTime.toInt)
  | .sentinel .future => toLex (2, 0)
  | .sentinel .exiting => toLex (2, 1)

theorem place_le_iff {a b : Node α} :
    a.place.le b.place = true ↔ a.stackingKey ≤ b.stackingKey := by
  obtain ⟨keyA, timeA, -, -⟩ := a
  obtain ⟨keyB, timeB, -, -⟩ := b
  rcases keyA with - | (- | - | - | -) <;> rcases keyB with - | (- | - | - | -) <;>
    simp [place, stackingKey, StackPlace.le, Sentinel.side, Sentinel.index,
      Prod.Lex.toLex_le_toLex]

/-- Nodes in stacking order. Those of one place stand in the order in which they were given. -/
structure IsStacked (given stacked : List (Node α)) : Prop where
  perm : stacked.Perm given
  ordered : stacked.Pairwise fun above below =>
    above.stackingKey < below.stackingKey ∨
      above.stackingKey = below.stackingKey ∧
        (given.map (·.key)).idxOf above.key < (given.map (·.key)).idxOf below.key

/-- The nodes that lead the rows of paired sides: every source node, and every target node without a
source node of its key. -/
def leaders (sources targets : List (Node α)) : List (Node α) :=
  sources ++ targets.filter fun node => node.key ∉ sources.map (·.key)

theorem nodup_key_leaders {sources targets : List (Node α)}
    (nodupSource : (sources.map (·.key)).Nodup) (nodupTarget : (targets.map (·.key)).Nodup) :
    ((leaders sources targets).map (·.key)).Nodup := by
  rw [leaders, List.map_append, List.nodup_append]
  refine ⟨nodupSource, nodupTarget.sublist (List.filter_sublist.map _), ?_⟩
  rintro key led key' alone rfl
  obtain ⟨target, given, rfl⟩ := List.mem_map.mp alone
  exact absurd led (of_decide_eq_true (List.mem_filter.mp given).2)

theorem mem_keys_leaders {sources targets : List (Node α)} {key : NodeKey} :
    key ∈ (leaders sources targets).map (·.key) ↔
      key ∈ sources.map (·.key) ∨ key ∈ targets.map (·.key) := by
  rw [leaders, List.map_append, List.mem_append]
  by_cases led : key ∈ sources.map (·.key)
  · exact iff_of_true (.inl led) (.inl led)
  · refine or_congr_right ?_
    simp only [List.mem_map, List.mem_filter, decide_eq_true_iff]
    constructor
    · rintro ⟨target, ⟨given, -⟩, rfl⟩
      exact ⟨target, given, rfl⟩
    · rintro ⟨target, given, rfl⟩
      exact ⟨target, ⟨given, by simpa using led⟩, rfl⟩

/-- What a placed node takes over from the node that it shows. -/
def identity (side : Side) (node : Node α) : Side × NodeKey × α × α :=
  (side, node.key, node.occupancy, node.capacity)

end Node

def PlacedNode.identity {α : Type} (placed : PlacedNode α) : Side × NodeKey × α × α :=
  (placed.side, placed.key, placed.occupancy, placed.capacity)

/-! ### Rows -/

namespace Row

variable {α : Type} {sources targets : List (SizedNode α)} {side : Side} {row : Row α}

/-- The node that gives a row its place: its source node, if it has one. -/
def leader : Row α → SizedNode α
  | source s => s
  | target t => t
  | pair s _ => s

theorem place_eq_leader (row : Row α) : row.place = row.leader.node.place := by
  cases row <;> rfl

theorem leader_ofSource (s : SizedNode α) : (ofSource targets s).leader = s := by
  unfold ofSource
  split <;> rfl

/-- The rows of a side before they are sorted. -/
def gathered (alignment : Alignment) (sources targets : List (SizedNode α)) (side : Side) :
    List (Row α) :=
  match alignment with
  | .paired => sources.map (ofSource targets) ++
      (targets.filter fun t => !sources.any fun s => s.node.key = t.node.key).map .target
  | .independent => (side.pick sources targets).map <| match side with
    | .source => .source
    | .target => .target

theorem holding_eq_sorted (alignment : Alignment) :
    holding alignment sources targets side = sorted (gathered alignment sources targets side) := by
  cases alignment <;> rfl

theorem map_leader_gathered_paired (sources targets : List (SizedNode α)) (side : Side) :
    (gathered .paired sources targets side).map (·.leader.node) =
      Node.leaders (sources.map (·.node)) (targets.map (·.node)) := by
  have known (t : SizedNode α) : (!sources.any fun s => s.node.key = t.node.key) =
      decide (t.node.key ∉ (sources.map (·.node)).map (·.key)) := by
    rw [List.map_map, Bool.eq_iff_iff]
    simp
  rw [gathered, List.map_append, List.map_map, List.map_map, Node.leaders, List.filter_map]
  congr 1
  · apply List.map_congr_left
    intro s _
    rw [Function.comp_apply, leader_ofSource]
  · simp only [known]
    rfl

theorem map_leader_gathered_independent (sources targets : List (SizedNode α)) (side : Side) :
    (gathered .independent sources targets side).map (·.leader.node) =
      (side.pick sources targets).map (·.node) := by
  cases side with
  | source => exact List.map_map
  | target => exact List.map_map

/-- Sorted rows stand in stacking order. -/
theorem isStacked_sorted {rows : List (Row α)}
    (nodup : ((rows.map (·.leader.node)).map (·.key)).Nodup) :
    Node.IsStacked (rows.map (·.leader.node)) ((sorted rows).map (·.leader.node)) := by
  constructor
  · exact (sorted_perm rows).map _
  · have given := List.pairwise_map.mp (List.pairwise_map.mp (pairwise_idxOf nodup))
    rw [sorted, List.pairwise_map]
    refine (pairwise_mergeSort_stable ?_ ?_ given).imp ?_
    · exact fun a b c => StackPlace.le_trans _ _ _
    · exact fun a b => StackPlace.le_total _ _
    · intro above below order
      obtain ⟨ordered, tie⟩ := order
      rw [place_eq_leader, place_eq_leader, Node.place_le_iff] at ordered tie
      rcases ordered.lt_or_eq with higher | same
      · exact .inl higher
      · exact .inr ⟨same, tie same.ge⟩

/-- A row has a node on a side exactly if the key of its leader occurs there, and then its node has
that key. -/
theorem map_key_member? {alignment : Alignment}
    (member : row ∈ gathered alignment sources targets side) :
    (row.member? side).map (·.node.key) =
      Option.guard (fun key => key ∈ (side.pick sources targets).map (·.node.key))
        row.leader.node.key := by
  cases alignment with
  | independent =>
    obtain ⟨node, given, rfl⟩ := List.mem_map.mp member
    have key := List.mem_map_of_mem (f := (·.node.key)) given
    cases side <;> simpa [member?, leader, Option.guard] using key
  | paired =>
    rcases List.mem_append.mp member with led | alone
    · obtain ⟨s, given, rfl⟩ := List.mem_map.mp led
      have key := List.mem_map_of_mem (f := (·.node.key)) given
      rw [leader_ofSource, Option.guard]
      cases side with
      | source =>
        rw [member?_source_ofSource]
        simpa [Side.pick] using key
      | target =>
        rw [member?_target_ofSource, map_find?_key]
        simp [Side.pick]
    · obtain ⟨t, given, rfl⟩ := List.mem_map.mp alone
      obtain ⟨given, single⟩ := List.mem_filter.mp given
      have key := List.mem_map_of_mem (f := (·.node.key)) given
      cases side with
      | source => simpa [member?, leader, Option.guard, Side.pick] using single
      | target => simpa [member?, leader, Option.guard, Side.pick] using key

theorem member?_of_mem_gathered_independent
    (member : row ∈ gathered .independent sources targets side) :
    row.member? side = some row.leader := by
  obtain ⟨node, -, rfl⟩ := List.mem_map.mp member
  cases side <;> rfl

theorem key_leader_of_member? {alignment : Alignment}
    (member : row ∈ gathered alignment sources targets side) {sized : SizedNode α}
    (found : row.member? side = some sized) : row.leader.node.key = sized.node.key := by
  have key := map_key_member? member
  rw [found, Option.map_some, eq_comm, Option.guard_eq_some_iff] at key
  exact key.1

end Row

/-! ### Diagrams -/

namespace Diagram

section Arrangement

variable {α : Type} [Quantity α] {sources targets : List (Node α)} {links : List (Link α)}
  {style : Style α} {side : Side}

/-- The nodes that lead the rows of a side, from top to bottom. -/
def leadersOf (sources targets : List (Node α)) (links : List (Link α)) (style : Style α)
    (side : Side) : List (Node α) :=
  (rowsOf sources targets links style side).map (·.leader.node)

theorem mem_gathered_of_mem_rowsOf {row : Row α}
    (member : row ∈ rowsOf sources targets links style side) :
    row ∈ Row.gathered style.alignment (sources.map (sizedNode sources targets links style .source))
      (targets.map (sizedNode sources targets links style .target)) side := by
  rw [rowsOf, Row.holding_eq_sorted] at member
  exact (Row.sorted_perm _).mem_iff.mp member

theorem map_node_sizedNode (nodes : List (Node α)) :
    (nodes.map (sizedNode sources targets links style side)).map (·.node) = nodes := by
  rw [List.map_map]
  exact List.map_id nodes

theorem isStacked_leadersOf_paired (drawable : IsDrawable sources targets links style)
    (paired : style.alignment = .paired) (side : Side) :
    Node.IsStacked (Node.leaders sources targets) (leadersOf sources targets links style side) := by
  have led := Row.map_leader_gathered_paired
    (sources.map (sizedNode sources targets links style .source))
    (targets.map (sizedNode sources targets links style .target)) side
  rw [map_node_sizedNode, map_node_sizedNode] at led
  rw [leadersOf, rowsOf, Row.holding_eq_sorted, paired, ← led]
  apply Row.isStacked_sorted
  rw [led]
  exact Node.nodup_key_leaders drawable.areDrawable_sources.nodup_key
    drawable.areDrawable_targets.nodup_key

theorem isStacked_leadersOf_independent (drawable : IsDrawable sources targets links style)
    (independent : style.alignment = .independent) (side : Side) :
    Node.IsStacked (side.pick sources targets)
      (leadersOf sources targets links style side) := by
  have led := Row.map_leader_gathered_independent
    (sources.map (sizedNode sources targets links style .source))
    (targets.map (sizedNode sources targets links style .target)) side
  rw [pick_map_sizedNode, map_node_sizedNode] at led
  rw [leadersOf, rowsOf, Row.holding_eq_sorted, independent, ← led]
  apply Row.isStacked_sorted
  rw [led]
  exact (areDrawable_pick drawable side).nodup_key

/-- A side has the keys of the leaders that occur on it, in their order. -/
theorem map_key_onSide_layout (sources targets : List (Node α)) (links : List (Link α))
    (style : Style α) (side : Side) :
    ((layout sources targets links style).onSide side).map (·.key) =
      ((leadersOf sources targets links style side).map (·.key)).filter
        (· ∈ (side.pick sources targets).map (·.key)) := by
  rw [onSide_layout, Stack.map_onSide_ofRows _ fun _ _ _ _ => rfl, List.map_filterMap, leadersOf,
    List.map_map, ← List.filterMap_eq_filter, List.filterMap_map]
  apply List.filterMap_congr
  intro row member
  rw [Row.map_key_member? (mem_gathered_of_mem_rowsOf member), pick_map_sizedNode,
    map_key_sizedNode]
  rfl

/-- Under independent alignment every row has one node, which leads it. -/
theorem filterMap_member?_rowsOf (independent : style.alignment = .independent) (side : Side) :
    (rowsOf sources targets links style side).filterMap (Row.member? side) =
      (rowsOf sources targets links style side).map Row.leader := by
  rw [List.filterMap_eq_map_iff_forall_eq_some]
  intro row member
  have given := mem_gathered_of_mem_rowsOf member
  rw [independent] at given
  exact Row.member?_of_mem_gathered_independent given

/-- Under independent alignment a side shows the leaders of its rows. -/
theorem map_identity_onSide_layout (independent : style.alignment = .independent) (side : Side) :
    ((layout sources targets links style).onSide side).map PlacedNode.identity =
      (leadersOf sources targets links style side).map (Node.identity side) := by
  have same (rank : Nat) (start tallest : α) (sized : SizedNode α) :
      (PlacedNode.ofSized style rank start tallest side sized).identity =
        sized.node.identity side := rfl
  rw [onSide_layout, Stack.map_onSide_ofRows _ same, filterMap_member?_rowsOf independent,
    leadersOf, List.map_map, List.map_map]
  rfl

/-- A node stands in the row of its rank. -/
theorem getElem?_leadersOf {node : PlacedNode α}
    (member : node ∈ (layout sources targets links style).onSide side) :
    ((leadersOf sources targets links style side).map (·.key))[node.rank]? = some node.key := by
  rw [onSide_layout] at member
  obtain ⟨rank, row, sized, found, present, rfl⟩ := Stack.mem_onSide_ofRows_iff.mp member
  have key := Row.key_leader_of_member?
    (mem_gathered_of_mem_rowsOf (List.mem_of_getElem? found)) present
  rw [leadersOf, List.map_map, List.getElem?_map]
  show (rowsOf sources targets links style side)[rank]?.map _ = some sized.node.key
  rw [found, Option.map_some, ← key]
  rfl

theorem isSome_node?_iff (drawable : IsDrawable sources targets links style) (side : Side)
    (key : NodeKey) :
    ((layout sources targets links style).node? side key).isSome = true ↔
      key ∈ (side.pick sources targets).map (·.key) := by
  rw [← (map_key_perm drawable side).mem_iff, node?, List.find?_isSome, List.mem_map]
  simp only [decide_eq_true_iff]

end Arrangement

/-- A diagram shows each node that is kept exactly once, and finds it by its key. Under independent
alignment a side stands in stacking order. Under paired alignment the rows do, one for each key, and
a side is the part of them that it has nodes for, every node in the row of its rank. -/
theorem draw_stacked {α : Type} [Quantity α] {sources targets : List (Node α)}
    {links : List (Link α)} {style : Style α} {diagram : Diagram α}
    (drawn : draw sources targets links style = .ok diagram) :
    (∀ side, ((diagram.onSide side).map PlacedNode.identity).Perm
        ((Node.kept (side.pick sources targets)).map (Node.identity side))) ∧
      (∀ side key, (diagram.node? side key).isSome = true ↔
        key ∈ (Node.kept (side.pick sources targets)).map (·.key)) ∧
      (style.alignment = .independent → ∀ side, ∃ stacked,
        Node.IsStacked (Node.kept (side.pick sources targets)) stacked ∧
          (diagram.onSide side).map PlacedNode.identity = stacked.map (Node.identity side)) ∧
      (style.alignment = .paired → ∃ rows,
        Node.IsStacked (Node.leaders (Node.kept sources) (Node.kept targets)) rows ∧
          (rows.map (·.key)).Nodup ∧
          (∀ key, key ∈ rows.map (·.key) ↔ ∃ side : Side,
            key ∈ (Node.kept (side.pick sources targets)).map (·.key)) ∧
          ∀ side,
            (diagram.onSide side).map (·.key) = (rows.map (·.key)).filter
              (· ∈ (Node.kept (side.pick sources targets)).map (·.key)) ∧
            ∀ node ∈ diagram.onSide side, (rows.map (·.key))[node.rank]? = some node.key) := by
  obtain ⟨drawable, rfl⟩ := draw_eq_ok_iff.mp drawn
  have kept (side : Side) : Node.kept (side.pick sources targets) =
      side.pick (Node.kept sources) (Node.kept targets) := by cases side <;> rfl
  simp only [kept]
  refine ⟨fun side => map_onSide_perm drawable fun _ _ _ _ => rfl,
    fun side key => isSome_node?_iff drawable side key, fun independent side => ?_,
    fun paired => ?_⟩
  · exact ⟨_, isStacked_leadersOf_independent drawable independent side,
      map_identity_onSide_layout independent side⟩
  · -- Both sides are placed from the same rows.
    have shared (side : Side) :
        leadersOf (Node.kept sources) (Node.kept targets) links style side =
          leadersOf (Node.kept sources) (Node.kept targets) links style .source := by
      simp only [leadersOf, rowsOf, Row.holding, paired]
    have stacked := isStacked_leadersOf_paired drawable paired .source
    refine ⟨_, stacked, ?_, fun key => ?_, fun side => ⟨?_, ?_⟩⟩
    · rw [(stacked.perm.map _).nodup_iff]
      exact Node.nodup_key_leaders drawable.areDrawable_sources.nodup_key
        drawable.areDrawable_targets.nodup_key
    · rw [(stacked.perm.map _).mem_iff, Node.mem_keys_leaders]
      constructor
      · rintro (led | alone)
        · exact ⟨.source, led⟩
        · exact ⟨.target, alone⟩
      · rintro ⟨side, given⟩
        cases side with
        | source => exact .inl given
        | target => exact .inr given
    · rw [← shared side]
      exact map_key_onSide_layout _ _ _ _ _
    · intro node member
      rw [← shared side]
      exact getElem?_leadersOf member

/-- Trips that share their time or their key, and sentinels in any place, one of them for nobody and
one on the side where it does not belong. -/
def mixedStation : Network Rat where
  sources := [⟨.real ⟨"b"⟩, 20, 1, 5⟩, ⟨.sentinel .exiting, 5, 2, 0⟩,
    ⟨.sentinel .previous, 99, 3, 0⟩, ⟨.real ⟨"a"⟩, 20, 4, 5⟩, ⟨.sentinel .boarding, 0, 0, 0⟩]
  targets := [⟨.real ⟨"c"⟩, 20, 1, 5⟩, ⟨.real ⟨"a"⟩, 10, 4, 5⟩]
  links := []

/-- When the sides are paired, the trip with a node on both stands by the time of its source
node. -/
theorem draw_stacked_mixedStation :
    (∃ diagram, draw mixedStation.sources mixedStation.targets mixedStation.links
        (Style.plain .independent) = .ok diagram ∧
      diagram.sources.map (·.key) =
        [.sentinel .previous, .real ⟨"b"⟩, .real ⟨"a"⟩, .sentinel .exiting] ∧
      diagram.targets.map (·.key) = [.real ⟨"a"⟩, .real ⟨"c"⟩] ∧
      ∃ stacked, Node.IsStacked (Node.kept mixedStation.sources) stacked ∧
        diagram.sources.map PlacedNode.identity = stacked.map (Node.identity .source)) ∧
    ∃ diagram, draw mixedStation.sources mixedStation.targets mixedStation.links
        (Style.plain .paired) = .ok diagram ∧
      diagram.targets.map (fun node => (node.key, node.rank)) =
        [(.real ⟨"a"⟩, 2), (.real ⟨"c"⟩, 3)] ∧
      ∃ rows, Node.IsStacked
          (Node.leaders (Node.kept mixedStation.sources) (Node.kept mixedStation.targets)) rows ∧
        (rows.map (·.key))[2]? = some (.real ⟨"a"⟩) := by
  have independent := draw_eq_ok_layout (by decide +kernel :
    check (Node.kept mixedStation.sources) (Node.kept mixedStation.targets) mixedStation.links
      (Style.plain .independent) = .ok ())
  have paired := draw_eq_ok_layout (by decide +kernel :
    check (Node.kept mixedStation.sources) (Node.kept mixedStation.targets) mixedStation.links
      (Style.plain .paired) = .ok ())
  have targets : (layout (Node.kept mixedStation.sources) (Node.kept mixedStation.targets)
      mixedStation.links (Style.plain .paired)).targets.map (fun node => (node.key, node.rank)) =
        [(.real ⟨"a"⟩, 2), (.real ⟨"c"⟩, 3)] := by cbv
  obtain ⟨-, -, ordered, -⟩ := draw_stacked independent
  obtain ⟨-, -, -, rowed⟩ := draw_stacked paired
  obtain ⟨rows, stacked, -, -, ranked⟩ := rowed rfl
  obtain ⟨node, member, values⟩ := List.mem_map.mp (targets ▸ List.mem_cons_self)
  obtain ⟨key, rank⟩ := Prod.mk.inj values
  have row := (ranked .target).2 node member
  rw [key, rank] at row
  exact ⟨⟨_, independent, by cbv, by cbv, ordered rfl .source⟩, _, paired, targets, rows, stacked,
    row⟩

end Diagram

end TransitDiagram
