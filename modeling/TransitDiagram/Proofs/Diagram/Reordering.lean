import TransitDiagram.Proofs.Diagram.Arrangement
import TransitDiagram.Proofs.Diagram.Connection

/-!
# The order in which nodes are given

Nodes of one place in a stack are stacked in the order in which they were given. Where no two nodes
share a place (`Node.AreUntied`), the sorted rows of a diagram are the same for every order of its
nodes (`Row.sorted_eq_of_perm`), and so is everything that is drawn from them.
-/

namespace TransitDiagram

open Quantity

theorem StackPlace.le_antisymm {a b : StackPlace} (below : a.le b = true) (above : b.le a = true) :
    a = b := by
  have index {s t : Sentinel} (same : s.index = t.index) : s = t := by
    cases s <;> cases t <;> simp_all [Sentinel.index]
  cases a <;> cases b <;> simp only [le, decide_eq_true_eq, Bool.false_eq_true] at below above
  · rw [index (Nat.le_antisymm below above)]
  · rw [Int64.toInt_inj.mp (Int.le_antisymm below above)]
  · rw [index (Nat.le_antisymm below above)]

/-- Nodes of which no two share a place in a stack, unless they have one key. -/
def Node.AreUntied {α : Type} (nodes : List (Node α)) : Prop :=
  ∀ node ∈ nodes, ∀ other ∈ nodes, node.place = other.place → node.key = other.key

instance {α : Type} (nodes : List (Node α)) : Decidable (Node.AreUntied nodes) :=
  inferInstanceAs (Decidable (∀ node ∈ nodes, ∀ other ∈ nodes, _ → _))

namespace Row

variable {α : Type} {sources targets sources' targets' : List (SizedNode α)}
  {rows rows' : List (Row α)}

/-! ### Rows of reordered nodes -/

theorem gathered_perm (alignment : Alignment) (left : sources.Perm sources')
    (right : targets.Perm targets') (nodup : (targets.map (·.node.key)).Nodup) (side : Side) :
    (gathered alignment sources targets side).Perm (gathered alignment sources' targets' side) := by
  cases alignment with
  | independent =>
    cases side with
    | source => exact left.map _
    | target => exact right.map _
  | paired =>
    have partner : ofSource targets = ofSource targets' := by
      funext s
      rw [ofSource, ofSource, find?_key_perm right nodup]
    have led (t : SizedNode α) : (!sources.any fun s => s.node.key = t.node.key) =
        !sources'.any fun s => s.node.key = t.node.key := by
      rw [left.any_eq]
    simp only [gathered, partner, led]
    exact (left.map _).append ((right.filter _).map _)

theorem nodup_key_leader_gathered (alignment : Alignment)
    (nodupSource : (sources.map (·.node.key)).Nodup)
    (nodupTarget : (targets.map (·.node.key)).Nodup) (side : Side) :
    (((gathered alignment sources targets side).map (·.leader.node)).map (·.key)).Nodup := by
  have source : ((sources.map (·.node)).map (·.key)).Nodup := by rwa [List.map_map]
  have target : ((targets.map (·.node)).map (·.key)).Nodup := by rwa [List.map_map]
  cases alignment with
  | paired =>
    rw [map_leader_gathered_paired]
    exact Node.nodup_key_leaders source target
  | independent =>
    rw [map_leader_gathered_independent]
    cases side with
    | source => exact source
    | target => exact target

/-- A row is led by a node of one of the sides. -/
theorem mem_of_mem_leader_gathered {alignment : Alignment} {side : Side} {node : Node α}
    (member : node ∈ (gathered alignment sources targets side).map (·.leader.node)) :
    node ∈ sources.map (·.node) ++ targets.map (·.node) := by
  rw [List.mem_append]
  cases alignment with
  | paired =>
    rw [map_leader_gathered_paired, Node.leaders, List.mem_append] at member
    exact member.imp_right List.mem_of_mem_filter
  | independent =>
    rw [map_leader_gathered_independent] at member
    cases side with
    | source => exact .inl member
    | target => exact .inr member

/-- Rows without ties are sorted in one way only. -/
theorem sorted_eq_of_perm (perm : rows.Perm rows')
    (nodup : ((rows.map (·.leader.node)).map (·.key)).Nodup)
    (untied : Node.AreUntied (rows.map (·.leader.node))) : sorted rows = sorted rows' := by
  have ordered (rows : List (Row α)) :
      (sorted rows).Pairwise fun a b => a.place.le b.place = true := by
    apply List.pairwise_mergeSort
    · exact fun a b c => StackPlace.le_trans _ _ _
    · exact fun a b => StackPlace.le_total _ _
  refine List.Perm.eq_of_pairwise ?_ (ordered rows) (ordered rows')
    ((sorted_perm rows).trans (perm.trans (sorted_perm rows').symm))
  intro a b memberA memberB below above
  have givenA : a ∈ rows := (sorted_perm rows).mem_iff.mp memberA
  have givenB : b ∈ rows := perm.mem_iff.mpr ((sorted_perm rows').mem_iff.mp memberB)
  -- Rows of one place are led by nodes of one key, and no key leads twice.
  have place : a.leader.node.place = b.leader.node.place := by
    rw [← place_eq_leader, ← place_eq_leader]
    exact StackPlace.le_antisymm below above
  have key := untied _ (List.mem_map_of_mem givenA) _ (List.mem_map_of_mem givenB) place
  rw [List.map_map] at nodup
  exact List.inj_on_of_nodup_map nodup givenA givenB key

theorem holding_eq_of_perm (alignment : Alignment) (left : sources.Perm sources')
    (right : targets.Perm targets') (nodupSource : (sources.map (·.node.key)).Nodup)
    (nodupTarget : (targets.map (·.node.key)).Nodup)
    (untied : Node.AreUntied (sources.map (·.node) ++ targets.map (·.node))) (side : Side) :
    holding alignment sources targets side = holding alignment sources' targets' side := by
  rw [holding_eq_sorted, holding_eq_sorted]
  apply sorted_eq_of_perm
  · exact gathered_perm alignment left right nodupTarget side
  · exact nodup_key_leader_gathered alignment nodupSource nodupTarget side
  · intro node member other member'
    exact untied node (mem_of_mem_leader_gathered member) other (mem_of_mem_leader_gathered member')

end Row

variable {α : Type} [Quantity α]

/-- A stack depends on the rows of its sides alone. -/
theorem Stack.ofSides_congr {style : Style α}
    {sources targets sources' targets' : List (SizedNode α)}
    (same : ∀ side, Row.holding style.alignment sources targets side =
      Row.holding style.alignment sources' targets' side) :
    ofSides style sources targets = ofSides style sources' targets' := by
  have left := same .source
  have right := same .target
  unfold ofSides
  cases alignment : style.alignment with
  | paired =>
    rw [alignment] at left
    exact congrArg (ofRows style) left
  | independent =>
    rw [alignment] at left right
    have left : Row.ofSide .source sources = Row.ofSide .source sources' := left
    have right : Row.ofSide .target targets = Row.ofSide .target targets' := right
    simp only [left, right]

namespace Diagram

variable {sources targets sources' targets' : List (Node α)} {links : List (Link α)}
  {style : Style α}

/-! ### Diagrams of reordered nodes -/

theorem IsDrawable.perm (drawable : IsDrawable sources targets links style)
    (left : sources.Perm sources') (right : targets.Perm targets') :
    IsDrawable sources' targets' links style where
  isDrawable_style := drawable.isDrawable_style
  areDrawable_sources := drawable.areDrawable_sources.perm left
  areDrawable_targets := drawable.areDrawable_targets.perm right
  isCount_link := drawable.isCount_link
  checkNode_source node member := drawable.checkNode_source node (left.mem_iff.mpr member)
  checkNode_target node member := drawable.checkNode_target node (right.mem_iff.mpr member)

omit [Quantity α] in
theorem looseEnd?_perm (left : sources.Perm sources') (right : targets.Perm targets') :
    Link.looseEnd? sources targets = Link.looseEnd? sources' targets' := by
  funext link
  rw [Link.looseEnd?, Link.looseEnd?, left.any_eq, right.any_eq]

theorem layout_perm (drawable : IsDrawable sources targets links style)
    (untied : Node.AreUntied (sources ++ targets)) (left : sources.Perm sources')
    (right : targets.Perm targets') :
    layout sources targets links style = layout sources' targets' links style := by
  have loose := looseEnd?_perm left right
  have connected : Link.connected sources targets links =
      Link.connected sources' targets' links := by
    rw [Link.connected, Link.connected, loose]
  have sized (side : Side) : sizedNode sources targets links style side =
      sizedNode sources' targets' links style side := by
    funext node
    rw [sizedNode, sizedNode, connected]
  have stacked : stack sources targets (Link.connected sources targets links) style =
      stack sources' targets' (Link.connected sources' targets' links) style := by
    show Stack.ofSides style (sources.map (sizedNode sources targets links style .source))
        (targets.map (sizedNode sources targets links style .target)) =
      Stack.ofSides style (sources'.map (sizedNode sources' targets' links style .source))
        (targets'.map (sizedNode sources' targets' links style .target))
    rw [← sized .source, ← sized .target]
    apply Stack.ofSides_congr
    apply Row.holding_eq_of_perm
    · exact left.map _
    · exact right.map _
    · exact nodup_key_sizedNode drawable.areDrawable_sources
    · exact nodup_key_sizedNode drawable.areDrawable_targets
    · rwa [map_node_sizedNode, map_node_sizedNode]
  rw [layout, layout, stacked, connected, loose]

/-- Without ties the order in which nodes are given does not matter: when no two nodes that are kept
share a place in a stack, unless they have one key, a diagram is drawn for every order of them or
for none, and it is the same diagram. -/
theorem draw_perm (left : sources.Perm sources') (right : targets.Perm targets')
    (untied : Node.AreUntied (Node.kept sources ++ Node.kept targets)) (diagram : Diagram α) :
    draw sources targets links style = .ok diagram ↔
      draw sources' targets' links style = .ok diagram := by
  have keptLeft : (Node.kept sources).Perm (Node.kept sources') := left.filter _
  have keptRight : (Node.kept targets).Perm (Node.kept targets') := right.filter _
  rw [draw_eq_ok_iff, draw_eq_ok_iff]
  constructor
  · rintro ⟨drawable, drawn⟩
    rw [layout_perm drawable untied keptLeft keptRight] at drawn
    exact ⟨drawable.perm keptLeft keptRight, drawn⟩
  · rintro ⟨drawable, drawn⟩
    have drawable := drawable.perm keptLeft.symm keptRight.symm
    rw [← layout_perm drawable untied keptLeft keptRight] at drawn
    exact ⟨drawable, drawn⟩

/-- Trips and sentinels in no order, one of them a sentinel for nobody. The trip with a node on both
sides departs long after it arrived. -/
def shuffledStation : Network Rat where
  sources := [⟨.real ⟨"c"⟩, 30, 4, 8⟩, ⟨.sentinel .previous, 0, 3, 0⟩, ⟨.real ⟨"a"⟩, 10, 60, 40⟩,
    ⟨.sentinel .boarding, 0, 5, 0⟩]
  targets := [⟨.sentinel .exiting, 10, 0, 0⟩, ⟨.real ⟨"a"⟩, 90, 4, 12⟩, ⟨.real ⟨"b"⟩, 20, 4, 8⟩]
  links := [⟨0, .real ⟨"a"⟩, .real ⟨"b"⟩, 4⟩, ⟨1, .sentinel .previous, .real ⟨"a"⟩, 3⟩,
    ⟨2, .sentinel .previous, .sentinel .exiting, 0⟩]

/-- Paired rows with a time axis. -/
def hourlyStyle : Style Rat :=
  { Style.plain .paired with axis := .time ⟨1200, 25, 0⟩ }

/-- Its rows are led by the sentinels and ordered by time, also when all nodes are given the other
way round. -/
theorem draw_perm_shuffledStation :
    ∃ diagram, draw shuffledStation.sources shuffledStation.targets shuffledStation.links
        hourlyStyle = .ok diagram ∧
      diagram.sources.map (fun node => (node.key, node.rank)) =
        [(.sentinel .boarding, 0), (.sentinel .previous, 1), (.real ⟨"a"⟩, 2), (.real ⟨"c"⟩, 4)] ∧
      draw shuffledStation.sources.reverse shuffledStation.targets.reverse shuffledStation.links
        hourlyStyle = .ok diagram := by
  have drawn := draw_eq_ok_layout (by decide +kernel :
    check (Node.kept shuffledStation.sources) (Node.kept shuffledStation.targets)
      shuffledStation.links hourlyStyle = .ok ())
  have untied : Node.AreUntied
      (Node.kept shuffledStation.sources ++ Node.kept shuffledStation.targets) := by
    decide +kernel
  refine ⟨_, drawn, by cbv, ?_⟩
  exact (draw_perm (List.reverse_perm _).symm (List.reverse_perm _).symm untied _).mp drawn

end Diagram

end TransitDiagram
