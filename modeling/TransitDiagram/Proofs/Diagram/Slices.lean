import TransitDiagram.Proofs.Diagram.Connection
import TransitDiagram.Proofs.Diagram.Stacking
import TransitDiagram.Proofs.StableSort

/-!
# The slices of a node

The strands at a node are ordered by the rank of the node at their other end, from the highest
down, and strands between the same two ranks by their position among the links
(`Strand.pairwise_atNode`). Every strand finds in the table of a side the slice that its node gives
it (`Strand.slices_eq_map`), since no two strands share a position and no two nodes of a side a key.
-/

namespace TransitDiagram

namespace Ribbon

variable {α : Type}

def endOn (side : Side) (ribbon : Ribbon α) : NodeKey :=
  side.pick ribbon.source ribbon.target

/-- The middle of a ribbon's slice on a side. -/
def offsetOn (side : Side) (ribbon : Ribbon α) : α :=
  side.pick ribbon.offsetAtSource ribbon.offsetAtTarget

def orderOn (side : Side) (ribbon : Ribbon α) : Nat :=
  side.pick ribbon.orderAtSource ribbon.orderAtTarget

end Ribbon

namespace Strand

variable {α : Type} [Quantity α] {style : Style α} {links : List (Link α)} {stack : Stack α}
  {side : Side}

def ribbon (stack : Stack α) (strands : List (Strand α)) (strand : Strand α) : Ribbon α where
  id := strand.link.id
  source := strand.link.source
  target := strand.link.target
  value := strand.link.value
  extent := strand.extent
  offsetAtSource := (strand.sliceIn (slicesOn stack strands .source)).centre
  offsetAtTarget := (strand.sliceIn (slicesOn stack strands .target)).centre
  orderAtSource := (strand.sliceIn (slicesOn stack strands .source)).order
  orderAtTarget := (strand.sliceIn (slicesOn stack strands .target)).order

theorem endOn_ribbon (strands : List (Strand α)) (strand : Strand α) :
    (ribbon stack strands strand).endOn side = side.endOf strand.link := by
  cases side <;> rfl

theorem offsetOn_ribbon (strands : List (Strand α)) (strand : Strand α) :
    (ribbon stack strands strand).offsetOn side =
      (strand.sliceIn (slicesOn stack strands side)).centre := by
  cases side <;> rfl

theorem orderOn_ribbon (strands : List (Strand α)) (strand : Strand α) :
    (ribbon stack strands strand).orderOn side =
      (strand.sliceIn (slicesOn stack strands side)).order := by
  cases side <;> rfl

/-! ### The strands -/

theorem pairwise_index_ofLinks (style : Style α) (links : List (Link α)) :
    (ofLinks style links).Pairwise fun a b => a.index < b.index := by
  refine List.Pairwise.filter _ (List.pairwise_map.mpr ?_)
  have numbers : links.zipIdx.Pairwise fun p q => p.2 < q.2 := by
    rw [← List.pairwise_map, List.zipIdx_map_snd]
    exact List.pairwise_lt_range'
  exact numbers

theorem nodup_index_ofLinks (style : Style α) (links : List (Link α)) :
    ((ofLinks style links).map (·.index)).Nodup :=
  List.pairwise_map.mpr ((pairwise_index_ofLinks style links).imp Nat.ne_of_lt)

theorem of_mem_ofLinks {strand : Strand α} (member : strand ∈ ofLinks style links) :
    strand.link ∈ links ∧
      strand.extent = Extent.ribbon strand.link.value style.scale style.leastLink ∧
      ¬ strand.extent ≤ 0 := by
  obtain ⟨given, extent⟩ := List.mem_filter.mp member
  obtain ⟨⟨link, index⟩, numbered, rfl⟩ := List.mem_map.mp given
  refine ⟨?_, rfl, by simpa using extent⟩
  exact List.mem_of_getElem? (List.mk_mem_zipIdx_iff_getElem?.mp numbered)

/-! ### The strands at a node -/

omit [Quantity α] in
theorem atNode_perm (strands : List (Strand α)) (node : PlacedNode α) :
    (atNode stack strands node).Perm
      (strands.filter fun strand => node.side.endOf strand.link = node.key) :=
  List.mergeSort_perm _ _

omit [Quantity α] in
theorem mem_atNode {strands : List (Strand α)} {node : PlacedNode α} {strand : Strand α} :
    strand ∈ atNode stack strands node ↔
      strand ∈ strands ∧ node.side.endOf strand.link = node.key := by
  rw [(atNode_perm strands node).mem_iff, List.mem_filter, decide_eq_true_iff]

/-- Whose slice comes first: the strand's to the higher rank on the given side, and the earlier
strand's between two strands to one rank. -/
def Precedes (stack : Stack α) (side : Side) (a b : Strand α) : Prop :=
  b.rank stack side < a.rank stack side ∨
    a.rank stack side = b.rank stack side ∧ a.index < b.index

omit [Quantity α] in
theorem Precedes.asymm {a b : Strand α} (order : Precedes stack side a b) :
    ¬ Precedes stack side b a := by
  unfold Precedes at order ⊢
  omega

omit [Quantity α] in
theorem precedes_or_precedes (stack : Stack α) (side : Side) {a b : Strand α}
    (different : a.index ≠ b.index) : Precedes stack side a b ∨ Precedes stack side b a := by
  unfold Precedes
  omega

omit [Quantity α] in
theorem rank_eq (keys : ((stack.onSide side).map (·.key)).Nodup) {node : PlacedNode α}
    (member : node ∈ stack.onSide side) {strand : Strand α}
    (ends : side.endOf strand.link = node.key) : strand.rank stack side = node.rank := by
  rw [rank, (find?_key_eq_some_iff keys).mpr ⟨member, ends.symm⟩]

omit [Quantity α] in
/-- The strands at a node stand in the order of their slices. -/
theorem pairwise_atNode (stack : Stack α) {strands : List (Strand α)}
    (ordered : strands.Pairwise fun a b => a.index < b.index) (node : PlacedNode α) :
    (atNode stack strands node).Pairwise (Precedes stack node.side.across) := by
  refine (pairwise_mergeSort_stable ?_ ?_ (ordered.filter _)).imp ?_
  · intro a b c above below
    simp only [decide_eq_true_iff] at above below ⊢
    exact le_trans below above
  · intro a b
    simp only [Bool.or_eq_true, decide_eq_true_iff]
    exact le_total _ _
  · rintro a b ⟨above, tie⟩
    simp only [decide_eq_true_iff] at above tie
    rcases Nat.lt_or_eq_of_le above with above | same
    · exact .inl above
    · exact .inr ⟨same.symm, tie same.ge⟩

/-! ### Tables of slices -/

theorem map_fst_slices (bodyEnd offset : α) (order : Nat) (strands : List (Strand α)) :
    (slices bodyEnd offset order strands).map Prod.fst = strands.map (·.index) := by
  induction strands generalizing offset order with
  | nil => rfl
  | cons strand rest ih => rw [slices, List.map_cons, List.map_cons, ih]

theorem map_order_slices (bodyEnd offset : α) (order : Nat) (strands : List (Strand α)) :
    (slices bodyEnd offset order strands).map (fun entry => entry.2.order) =
      List.range' order strands.length := by
  induction strands generalizing offset order with
  | nil => rfl
  | cons strand rest ih => rw [slices, List.map_cons, ih, List.length_cons, List.range'_succ]

theorem exists_of_mem_slicesOn {entry : Nat × Slice α}
    (member : entry ∈ slicesOn stack strands side) :
    ∃ strand ∈ strands, strand.index = entry.1 := by
  obtain ⟨node, -, given⟩ := List.mem_flatMap.mp member
  have position := List.mem_map_of_mem (f := Prod.fst) given
  rw [map_fst_slices] at position
  obtain ⟨strand, placed, eq⟩ := List.mem_map.mp position
  exact ⟨strand, (mem_atNode.mp placed).1, eq⟩

/-- No position occurs twice in the table of a side. -/
theorem nodup_slicesOn {strands : List (Strand α)} (nodup : (strands.map (·.index)).Nodup)
    (keys : ((stack.onSide side).map (·.key)).Nodup) :
    ((slicesOn stack strands side).map Prod.fst).Nodup := by
  have positions : (slicesOn stack strands side).map Prod.fst =
      (stack.onSide side).flatMap fun node => (atNode stack strands node).map (·.index) := by
    rw [slicesOn, List.map_flatMap]
    exact List.flatMap_congr fun node _ => map_fst_slices _ _ _ _
  rw [positions, List.nodup_flatMap]
  constructor
  · intro node _
    rw [((atNode_perm strands node).map _).nodup_iff]
    exact nodup.sublist (List.filter_sublist.map _)
  · refine (List.pairwise_map.mp keys).imp_of_mem fun {node node'} here here' different => ?_
    -- A strand at two nodes of one side would end at two keys.
    rintro index member member'
    obtain ⟨strand, at_node, rfl⟩ := List.mem_map.mp member
    obtain ⟨strand', at_node', same⟩ := List.mem_map.mp member'
    obtain ⟨given, ends⟩ := mem_atNode.mp at_node
    obtain ⟨given', ends'⟩ := mem_atNode.mp at_node'
    obtain rfl : strand' = strand := List.inj_on_of_nodup_map nodup given' given same
    have sides : node.side = node'.side := by
      have onSide := of_decide_eq_true (List.mem_filter.mp here).2
      have onSide' := of_decide_eq_true (List.mem_filter.mp here').2
      exact onSide.trans onSide'.symm
    exact different (ends.symm.trans (sides ▸ ends'))

/-- Every strand at a node has the slice which that node gives it. -/
theorem slices_eq_map {strands : List (Strand α)} (nodup : (strands.map (·.index)).Nodup)
    (keys : ((stack.onSide side).map (·.key)).Nodup) {node : PlacedNode α}
    (member : node ∈ stack.onSide side) :
    slices node.bodyEnd 0 0 (atNode stack strands node) =
      (atNode stack strands node).map fun strand =>
        (strand.index, strand.sliceIn (slicesOn stack strands side)) := by
  let slice (index : Nat) : Slice α := ((slicesOn stack strands side).lookup index).getD ⟨0, 0⟩
  -- The node's own entries are entries of the whole side, where a position occurs only once.
  have found : ∀ entry ∈ slices node.bodyEnd 0 0 (atNode stack strands node),
      (entry.1, slice entry.1) = entry := by
    intro entry given
    have listed : entry ∈ slicesOn stack strands side := List.mem_flatMap.mpr ⟨node, member, given⟩
    simp only [slice, lookup_eq_some_of_mem (nodup_slicesOn nodup keys) listed, Option.getD_some]
  calc slices node.bodyEnd 0 0 (atNode stack strands node)
      = (slices node.bodyEnd 0 0 (atNode stack strands node)).map
          fun entry => (entry.1, slice entry.1) := by
        rw [List.map_congr_left found, List.map_id']
    _ = ((slices node.bodyEnd 0 0 (atNode stack strands node)).map Prod.fst).map
          fun index => (index, slice index) := by rw [List.map_map]; rfl
    _ = _ := by rw [map_fst_slices, List.map_map]; rfl

theorem map_orderOn_atNode {strands : List (Strand α)} (nodup : (strands.map (·.index)).Nodup)
    (keys : ((stack.onSide side).map (·.key)).Nodup) {node : PlacedNode α}
    (member : node ∈ stack.onSide side) :
    ((atNode stack strands node).map (ribbon stack strands)).map (Ribbon.orderOn side) =
      List.range (atNode stack strands node).length := by
  have numbers := map_order_slices node.bodyEnd 0 0 (atNode stack strands node)
  rw [slices_eq_map nodup keys member, List.map_map, ← List.range_eq_range'] at numbers
  rw [List.map_map, ← numbers]
  exact List.map_congr_left fun strand _ => orderOn_ribbon strands strand

end Strand

/-! ### Diagrams -/

namespace Diagram

variable {α : Type}

def ribbonsAt (diagram : Diagram α) (side : Side) (key : NodeKey) : List (Ribbon α) :=
  diagram.ribbons.filter fun ribbon => ribbon.endOn side = key

variable [Quantity α]

def strandsOf (sources targets : List (Node α)) (links : List (Link α)) (style : Style α) :
    List (Strand α) :=
  Strand.ofLinks style (Link.connected sources targets links)

def stackOf (sources targets : List (Node α)) (links : List (Link α)) (style : Style α) : Stack α :=
  stack sources targets (Link.connected sources targets links) style

def ribbonOf (sources targets : List (Node α)) (links : List (Link α)) (style : Style α) :
    Strand α → Ribbon α :=
  Strand.ribbon (stackOf sources targets links style) (strandsOf sources targets links style)

/-- The strands at a node, in the order of their slices. -/
def strandsAt (sources targets : List (Node α)) (links : List (Link α)) (style : Style α)
    (node : PlacedNode α) : List (Strand α) :=
  Strand.atNode (stackOf sources targets links style) (strandsOf sources targets links style) node

/-- The ribbons at a node, in the order of their slices. -/
def slicesAt (sources targets : List (Node α)) (links : List (Link α)) (style : Style α)
    (node : PlacedNode α) : List (Ribbon α) :=
  (strandsAt sources targets links style node).map (ribbonOf sources targets links style)

variable {sources targets : List (Node α)} {links : List (Link α)} {style : Style α} {side : Side}
  {node : PlacedNode α}

theorem ribbons_layout :
    (layout sources targets links style).ribbons =
      (strandsOf sources targets links style).map (ribbonOf sources targets links style) := rfl

theorem nodup_index_strandsOf (sources targets : List (Node α)) (links : List (Link α))
    (style : Style α) : ((strandsOf sources targets links style).map (·.index)).Nodup :=
  Strand.nodup_index_ofLinks style _

theorem onSide_stackOf :
    (layout sources targets links style).onSide side =
      (stackOf sources targets links style).onSide side := by
  cases side <;> rfl

theorem side_of_mem_onSide (member : node ∈ (layout sources targets links style).onSide side) :
    node.side = side := by
  rw [onSide_stackOf] at member
  exact of_decide_eq_true (List.mem_filter.mp member).2

theorem ribbonsAt_layout (key : NodeKey) :
    (layout sources targets links style).ribbonsAt side key =
      ((strandsOf sources targets links style).filter fun strand =>
        side.endOf strand.link = key).map (ribbonOf sources targets links style) := by
  rw [ribbonsAt, ribbons_layout, List.filter_map]
  refine congrArg _ (List.filter_congr fun strand _ => ?_)
  rw [Function.comp_apply, ribbonOf, Strand.endOn_ribbon]

theorem slicesAt_perm (member : node ∈ (layout sources targets links style).onSide side) :
    (slicesAt sources targets links style node).Perm
      ((layout sources targets links style).ribbonsAt side node.key) := by
  have perm : (slicesAt sources targets links style node).Perm
      (((strandsOf sources targets links style).filter fun strand =>
        node.side.endOf strand.link = node.key).map (ribbonOf sources targets links style)) :=
    (Strand.atNode_perm _ node).map _
  rwa [side_of_mem_onSide member, ← ribbonsAt_layout] at perm

theorem mem_strandsAt (member : node ∈ (layout sources targets links style).onSide side)
    {strand : Strand α} :
    strand ∈ strandsAt sources targets links style node ↔
      strand ∈ strandsOf sources targets links style ∧ side.endOf strand.link = node.key := by
  rw [strandsAt, Strand.mem_atNode, side_of_mem_onSide member]

theorem pairwise_strandsAt (member : node ∈ (layout sources targets links style).onSide side) :
    (strandsAt sources targets links style node).Pairwise
      (Strand.Precedes (stackOf sources targets links style) side.across) := by
  have sorted := Strand.pairwise_atNode (stackOf sources targets links style)
    (Strand.pairwise_index_ofLinks style (Link.connected sources targets links)) node
  rwa [side_of_mem_onSide member] at sorted

/-- What holds along the slices of a node holds of any two strands whose slices come in that
order. -/
theorem rel_of_precedes (member : node ∈ (layout sources targets links style).onSide side)
    {rel : Ribbon α → Ribbon α → Prop}
    (sorted : (slicesAt sources targets links style node).Pairwise rel) {a b : Strand α}
    (drawnA : a ∈ strandsOf sources targets links style)
    (drawnB : b ∈ strandsOf sources targets links style)
    (endA : side.endOf a.link = node.key) (endB : side.endOf b.link = node.key)
    (order : Strand.Precedes (stackOf sources targets links style) side.across a b) :
    rel (ribbonOf sources targets links style a) (ribbonOf sources targets links style b) := by
  have both := (pairwise_strandsAt member).and (List.pairwise_map.mp sorted)
  -- In the reverse order of the list the strands would precede each other.
  have ordered := List.Pairwise.forall_of_forall_of_flip (R := fun a b =>
      Strand.Precedes (stackOf sources targets links style) side.across a b →
        rel (ribbonOf sources targets links style a) (ribbonOf sources targets links style b))
    (fun strand _ self => absurd self self.asymm) (both.imp fun here _ => here.2)
    (both.imp fun here reverse => absurd reverse here.1.asymm)
  exact ordered ((mem_strandsAt member).mpr ⟨drawnA, endA⟩)
    ((mem_strandsAt member).mpr ⟨drawnB, endB⟩) order

theorem exists_node_of_mem_strandsOf (drawable : IsDrawable sources targets links style)
    {strand : Strand α} (member : strand ∈ strandsOf sources targets links style) (side : Side) :
    ∃ node ∈ (layout sources targets links style).onSide side,
      side.endOf strand.link = node.key := by
  have connected := (Strand.of_mem_ofLinks member).1
  have key := (map_key_perm drawable side).mem_iff.mpr
    (Link.endOf_mem_of_mem_connected connected side)
  obtain ⟨node, placed, ends⟩ := List.mem_map.mp key
  exact ⟨node, placed, ends.symm⟩

/-- A ribbon has a node at either end. -/
theorem exists_node_of_mem_ribbons (drawable : IsDrawable sources targets links style)
    {ribbon : Ribbon α} (member : ribbon ∈ (layout sources targets links style).ribbons)
    (side : Side) :
    ∃ node ∈ (layout sources targets links style).onSide side, node.key = ribbon.endOn side := by
  rw [ribbons_layout] at member
  obtain ⟨strand, drawn, rfl⟩ := List.mem_map.mp member
  obtain ⟨node, shown, ends⟩ := exists_node_of_mem_strandsOf drawable drawn side
  exact ⟨node, shown, by rw [ribbonOf, Strand.endOn_ribbon, ends]⟩

theorem rank_strand (drawable : IsDrawable sources targets links style)
    (member : node ∈ (layout sources targets links style).onSide side) {strand : Strand α}
    (ends : side.endOf strand.link = node.key) :
    strand.rank (stackOf sources targets links style) side = node.rank := by
  have keys := nodup_key_onSide drawable side
  rw [onSide_stackOf] at member keys
  exact Strand.rank_eq keys member ends

theorem map_orderOn_slicesAt (drawable : IsDrawable sources targets links style)
    (member : node ∈ (layout sources targets links style).onSide side) :
    (slicesAt sources targets links style node).map (Ribbon.orderOn side) =
      List.range (slicesAt sources targets links style node).length := by
  have keys := nodup_key_onSide drawable side
  rw [onSide_stackOf] at member keys
  rw [slicesAt, List.length_map]
  exact Strand.map_orderOn_atNode (nodup_index_strandsOf _ _ _ _) keys member

end Diagram

end TransitDiagram
