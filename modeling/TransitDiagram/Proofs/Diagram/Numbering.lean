import TransitDiagram.Proofs.Diagram.Fates
import TransitDiagram.Proofs.Diagram.Mapping

/-!
# Order numbers

The ribbons at a node are numbered from zero without a gap, those to the highest rank across first
and those to one rank in the order of their links (`Diagram.IsNumbered`). A link for nobody takes no
number and no room: a drawing stays as it is when such links are left out, wherever they stand. For
that the strands' positions among the links must not matter beyond their order, and this is what
`Strand.map_ribbon_congr` says.
-/

namespace TransitDiagram

open Quantity

/-! ### Positions of strands -/

namespace Strand

variable {α : Type} [Quantity α] {stack : Stack α} {side : Side} {strands : List (Strand α)}
  {number : Nat → Nat}

omit [Quantity α] in
/-- The strand with another position among the links. -/
def renumber (number : Nat → Nat) (strand : Strand α) : Strand α :=
  { strand with index := number strand.index }

theorem carries_renumber (number : Nat → Nat) :
    Carries (id : PlacedNode α → PlacedNode α) (renumber number) number id where
  side _ := rfl
  rank _ := rfl
  index _ := rfl
  ends _ _ _ := Iff.rfl
  zero := rfl
  offset _ _ := rfl
  centre _ _ _ := rfl

theorem ribbon_renumber
    (distinct : ∀ a ∈ strands, ∀ b ∈ strands, number a.index = number b.index → a.index = b.index)
    {strand : Strand α} (member : strand ∈ strands) :
    ribbon stack (strands.map (renumber number)) (renumber number strand) =
      ribbon stack strands strand := by
  have carried := ribbon_map (carries_renumber number) stack
    fun other drawn same => distinct other drawn strand member same
  rwa [Stack.map_id] at carried

/-- The ribbons of strands do not depend on where the strands stand among the links. -/
theorem map_ribbon_congr {strands' : List (Strand α)} (nodup : (strands.map (·.index)).Nodup)
    (nodup' : (strands'.map (·.index)).Nodup)
    (same : strands'.map (fun strand => (strand.link, strand.extent)) =
      strands.map fun strand => (strand.link, strand.extent)) :
    strands'.map (ribbon stack strands') = strands.map (ribbon stack strands) := by
  have length : (strands.map (·.index)).length = (strands'.map (·.index)).length := by
    simpa using (congrArg List.length same).symm
  obtain ⟨number, positions⟩ := exists_map_eq nodup length
  have renumbered : strands' = strands.map (renumber number) := by
    -- A strand is its position, its link and its extent.
    have parts : strands'.map (fun strand => (strand.index, strand.link, strand.extent)) =
        (strands.map (renumber number)).map fun strand =>
          (strand.index, strand.link, strand.extent) := by
      rw [← List.zip_map', same, ← positions, List.map_map, List.map_map, List.zip_map']
      rfl
    refine (List.map_inj_right ?_).mp parts
    rintro ⟨index, link, extent⟩ ⟨index', link', extent'⟩ eq
    simpa using eq
  have distinct := List.inj_on_of_nodup_map (positions ▸ nodup')
  rw [renumbered, List.map_map]
  apply List.map_congr_left
  intro strand member
  refine ribbon_renumber (fun a drawnA b drawnB eq => ?_) member
  exact distinct (List.mem_map_of_mem drawnA) (List.mem_map_of_mem drawnB) eq

theorem map_link_extent_ofLinks (style : Style α) (links : List (Link α)) :
    (ofLinks style links).map (fun strand => (strand.link, strand.extent)) =
      ((ofLinks style links).map (·.link)).map fun link =>
        (link, Extent.ribbon link.value style.scale style.leastLink) := by
  rw [List.map_map]
  apply List.map_congr_left
  intro strand member
  rw [(of_mem_ofLinks member).2.1]
  rfl

end Strand

namespace Diagram

/-! ### Numbers at a node -/

section Quantities

variable {α : Type}

/-- Ribbons at a node that are numbered from zero: those to a higher rank across before those to a
lower one, and those to one rank in the order in which they stand in the diagram. -/
structure IsNumbered (diagram : Diagram α) (side : Side) (node : PlacedNode α) : Prop where
  perm_range : ((diagram.ribbonsAt side node.key).map (Ribbon.orderOn side)).Perm
    (List.range (diagram.ribbonsAt side node.key).length)
  ordered : (diagram.ribbonsAt side node.key).Pairwise fun a b =>
    ∃ farA farB, diagram.node? side.across (a.endOn side.across) = some farA ∧
      diagram.node? side.across (b.endOn side.across) = some farB ∧
      (farB.rank ≤ farA.rank → a.orderOn side < b.orderOn side) ∧
      (farA.rank < farB.rank → b.orderOn side < a.orderOn side)

variable [Quantity α] {sources targets : List (Node α)} {links : List (Link α)} {style : Style α}
  {side : Side} {node : PlacedNode α}

/-- Of two strands at a node, the one whose slice comes first has the smaller number. -/
theorem orderOn_lt_of_precedes (drawable : IsDrawable sources targets links style)
    (member : node ∈ (layout sources targets links style).onSide side) {a b : Strand α}
    (drawnA : a ∈ strandsOf sources targets links style)
    (drawnB : b ∈ strandsOf sources targets links style)
    (endA : side.endOf a.link = node.key) (endB : side.endOf b.link = node.key)
    (order : Strand.Precedes (stackOf sources targets links style) side.across a b) :
    (ribbonOf sources targets links style a).orderOn side <
      (ribbonOf sources targets links style b).orderOn side := by
  have rising : (slicesAt sources targets links style node).Pairwise fun a b =>
      a.orderOn side < b.orderOn side := by
    rw [← List.pairwise_map, map_orderOn_slicesAt drawable member]
    exact List.pairwise_lt_range
  exact rel_of_precedes member rising drawnA drawnB endA endB order

theorem isNumbered_layout (drawable : IsDrawable sources targets links style)
    (member : node ∈ (layout sources targets links style).onSide side) :
    IsNumbered (layout sources targets links style) side node := by
  constructor
  · have perm := (slicesAt_perm member).map (Ribbon.orderOn side)
    rw [map_orderOn_slicesAt drawable member, (slicesAt_perm member).length_eq] at perm
    exact perm.symm
  · rw [ribbonsAt_layout, List.pairwise_map]
    refine ((Strand.pairwise_index_ofLinks style _).filter _).imp_of_mem ?_
    intro a b givenA givenB earlier
    obtain ⟨drawnA, endA⟩ := by simpa using List.mem_filter.mp givenA
    obtain ⟨drawnB, endB⟩ := by simpa using List.mem_filter.mp givenB
    obtain ⟨farA, memberA, acrossA⟩ := exists_node_of_mem_strandsOf drawable drawnA side.across
    obtain ⟨farB, memberB, acrossB⟩ := exists_node_of_mem_strandsOf drawable drawnB side.across
    have rankA := rank_strand drawable memberA acrossA
    have rankB := rank_strand drawable memberB acrossB
    refine ⟨farA, farB, ?_, ?_, fun order => ?_, fun order => ?_⟩
    · rw [node?_eq_some_iff drawable, ribbonOf, Strand.endOn_ribbon]
      exact ⟨memberA, acrossA.symm⟩
    · rw [node?_eq_some_iff drawable, ribbonOf, Strand.endOn_ribbon]
      exact ⟨memberB, acrossB.symm⟩
    · apply orderOn_lt_of_precedes drawable member drawnA drawnB endA endB
      unfold Strand.Precedes
      omega
    · apply orderOn_lt_of_precedes drawable member drawnB drawnA endB endA
      unfold Strand.Precedes
      omega

end Quantities

/-! ### Links for nobody -/

section Exact

variable {sources targets : List (Node Rat)} {links : List (Link Rat)} {style : Style Rat}

/-- The links that somebody takes. -/
def taken (links : List (Link Rat)) : List (Link Rat) :=
  links.filter fun link => link.value ≠ 0

theorem connected_taken :
    Link.connected sources targets (taken links) = taken (Link.connected sources targets links) :=
  List.filter_comm _ _ _

/-- A sum over the links at a node passes over links for nobody. -/
theorem sum_valuesAt_taken (side : Side) (links : List (Link Rat)) (key : NodeKey) {f : Rat → Rat}
    (zero : f 0 = 0) :
    ((Link.valuesAt side (taken links) key).map f).sum =
      ((Link.valuesAt side links key).map f).sum := by
  rw [Link.valuesAt, Link.valuesAt, taken, List.filter_comm, List.map_map, List.map_map]
  apply sum_map_filter
  intro link _ nobody
  have value : link.value = 0 := by simpa using nobody
  rw [Function.comp_apply, value, zero]

/-- Links for nobody add nothing to the nodes at their ends. -/
theorem sized_taken (style : Style Rat) (side : Side) (links : List (Link Rat)) :
    Node.sized style (Link.valuesAt side (taken links)) =
      Node.sized style (Link.valuesAt side links) := by
  funext node
  have added : Node.compensation style (Link.valuesAt side (taken links) node.key) =
      Node.compensation style (Link.valuesAt side links node.key) := by
    rw [Node.compensation_rat, Node.compensation_rat]
    apply sum_valuesAt_taken
    rw [Extent.thickening, if_pos le_rfl]
  have sum : total (Link.valuesAt side (taken links) node.key) =
      total (Link.valuesAt side links node.key) := by
    have ids := sum_valuesAt_taken side links node.key (f := id) rfl
    rwa [List.map_id, List.map_id, ← total_rat, ← total_rat] at ids
  simp only [Node.sized, Node.size, added, sum]

theorem stack_taken (links : List (Link Rat)) :
    stack sources targets (taken links) style = stack sources targets links style := by
  rw [stack, sized_taken, sized_taken, stack]

/-- Links for nobody have no strands. -/
theorem map_link_ofLinks_taken (drawable : style.IsDrawable) (links : List (Link Rat)) :
    (Strand.ofLinks style (taken links)).map (·.link) =
      (Strand.ofLinks style links).map (·.link) := by
  rw [Strand.map_link_ofLinks, Strand.map_link_ofLinks, taken, List.filter_filter]
  apply List.filter_congr
  intro link _
  simp only [not_le, Extent.ribbon_pos_iff drawable.scale_pos, ne_eq, decide_not,
    Bool.and_eq_left_iff_imp]
  intro carried
  simpa using (of_decide_eq_true carried).ne'

theorem ribbons_taken (drawable : style.IsDrawable) (stack : Stack Rat) (links : List (Link Rat)) :
    Ribbon.ofLinks style stack (taken links) = Ribbon.ofLinks style stack links := by
  apply Strand.map_ribbon_congr
  · exact Strand.nodup_index_ofLinks style _
  · exact Strand.nodup_index_ofLinks style _
  · rw [Strand.map_link_extent_ofLinks, Strand.map_link_extent_ofLinks,
      map_link_ofLinks_taken drawable]

theorem layout_taken (drawable : style.IsDrawable) :
    layout sources targets (taken links) style =
      { layout sources targets links style with
        looseEnds := (taken links).filterMap (Link.looseEnd? sources targets) } := by
  simp only [layout, connected_taken, stack_taken, ribbons_taken drawable]

theorem draw_taken {diagram : Diagram Rat}
    (drawn : draw sources targets links style = .ok diagram) :
    draw sources targets (taken links) style = .ok { diagram with
      looseEnds := (taken links).filterMap
        (Link.looseEnd? (Node.kept sources) (Node.kept targets)) } := by
  obtain ⟨drawable, rfl⟩ := draw_eq_ok_iff.mp drawn
  rw [draw_eq_ok_iff, layout_taken drawable.isDrawable_style]
  refine ⟨{ drawable with isCount_link := ?_ }, rfl⟩
  intro link member
  exact drawable.isCount_link link (List.mem_of_mem_filter member)

end Exact

/-- The ribbons at a node are numbered from zero without a gap, by falling rank across and, to one
rank, in the order of the links. A link for nobody has no ribbon, in any number type in which zero
is at most zero, and so takes no number. In exact arithmetic it takes no room either: without such
links the same diagram is drawn, but for the reports of loose ones among them. -/
theorem draw_numbered :
    (∀ (α : Type) [Quantity α] (sources targets : List (Node α)) (links : List (Link α))
      (style : Style α) (diagram : Diagram α), draw sources targets links style = .ok diagram →
        (diagram.ribbons.map Ribbon.link).Sublist links ∧
          (∀ [ReflexiveZero α], ∀ ribbon ∈ diagram.ribbons, ¬ ribbon.value ≤ 0) ∧
          ∀ side, ∀ node ∈ diagram.onSide side, IsNumbered diagram side node) ∧
      ∀ (sources targets : List (Node Rat)) (links : List (Link Rat)) (style : Style Rat)
        (diagram : Diagram Rat), draw sources targets links style = .ok diagram →
          ∃ looseEnds, draw sources targets (links.filter fun link => link.value ≠ 0) style =
            .ok { diagram with looseEnds := looseEnds } := by
  constructor
  · intro α _ sources targets links style diagram drawn
    obtain ⟨drawable, rfl⟩ := draw_eq_ok_iff.mp drawn
    refine ⟨?_, fun ribbon member => not_value_le_zero_of_mem_ribbons_layout member,
      fun side node member => isNumbered_layout drawable member⟩
    rw [map_link_ribbons_layout]
    exact List.filter_sublist
  · intro sources targets links style diagram drawn
    exact ⟨_, draw_taken drawn⟩

/-- Two arriving and two departing trips. Two links run in parallel, with one for nobody between
them. -/
def branchingStation : Network Rat where
  sources := [⟨.real ⟨"a"⟩, 10, 8, 20⟩, ⟨.real ⟨"b"⟩, 20, 9, 8⟩]
  targets := [⟨.real ⟨"c"⟩, 30, 8, 20⟩, ⟨.real ⟨"d"⟩, 40, 9, 10⟩]
  links := [⟨0, .real ⟨"a"⟩, .real ⟨"c"⟩, 3⟩, ⟨1, .real ⟨"a"⟩, .real ⟨"d"⟩, 0⟩,
    ⟨2, .real ⟨"a"⟩, .real ⟨"c"⟩, 1⟩, ⟨3, .real ⟨"a"⟩, .real ⟨"d"⟩, 4⟩,
    ⟨4, .real ⟨"b"⟩, .real ⟨"d"⟩, 5⟩]

/-- The link to the lower of the two departing trips comes first, and then the parallel ones. -/
theorem draw_numbered_branchingStation :
    ∃ diagram, draw branchingStation.sources branchingStation.targets branchingStation.links
        (Style.plain .independent) = .ok diagram ∧
      diagram.ribbons.map (fun ribbon => (ribbon.id, ribbon.orderAtSource, ribbon.orderAtTarget)) =
        [(0, 1, 0), (2, 2, 1), (3, 0, 1), (4, 0, 0)] ∧
      (∃ node ∈ diagram.sources, node.key = .real ⟨"a"⟩ ∧ IsNumbered diagram .source node) ∧
      (∀ ribbon ∈ diagram.ribbons, ¬ ribbon.value ≤ 0) ∧
      ∃ looseEnds, draw branchingStation.sources branchingStation.targets
        (branchingStation.links.filter fun link => link.value ≠ 0) (Style.plain .independent) =
          .ok { diagram with looseEnds := looseEnds } := by
  have drawn := draw_eq_ok_layout (by decide +kernel :
    check (Node.kept branchingStation.sources) (Node.kept branchingStation.targets)
      branchingStation.links (Style.plain .independent) = .ok ())
  have keys : (layout (Node.kept branchingStation.sources) (Node.kept branchingStation.targets)
      branchingStation.links (Style.plain .independent)).sources.map (·.key) =
        [.real ⟨"a"⟩, .real ⟨"b"⟩] := by cbv
  obtain ⟨node, member, key⟩ := List.mem_map.mp (keys ▸ List.mem_cons_self)
  obtain ⟨-, taken, numbered⟩ := draw_numbered.1 Rat _ _ _ _ _ drawn
  exact ⟨_, drawn, by cbv, ⟨node, member, key, numbered .source node member⟩, taken,
    draw_numbered.2 _ _ _ _ _ drawn⟩

end Diagram

end TransitDiagram
