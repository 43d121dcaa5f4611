import TransitDiagram.Proofs.Diagram.Arrangement
import TransitDiagram.Proofs.Diagram.Slices

/-!
# Maps of diagrams

Many changes of what is given change a drawing node by node: its nodes have other names, another
size or another count, and its coordinates are at most stretched. Here it is said once how such a
change passes through the rows (`Row.holding_map`), the stack (`Stack.below_map`,
`Diagram.stack_map`) and the strands (`Strand.ribbon_map`). `Stack.Carries` and `Strand.Carries`
state what has to be known of the change for that: how it affects one row, one node and one strand.
Another seam or another axis changes no more than what is written beside the nodes
(`Diagram.layout_annotate`).
-/

namespace TransitDiagram

open Quantity

/-! ### Rows -/

namespace Row

variable {α : Type} {sizes : Side → SizedNode α → SizedNode α} {lefts rights : List (SizedNode α)}

/-- The row with its nodes changed as the map says for their sides. -/
def map (sizes : Side → SizedNode α → SizedNode α) : Row α → Row α
  | source s => source (sizes .source s)
  | target t => target (sizes .target t)
  | pair s t => pair (sizes .source s) (sizes .target t)

theorem members_map (row : Row α) :
    (row.map sizes).members =
      row.members.map fun member => (member.1, sizes member.1 member.2) := by
  cases row <;> rfl

theorem leader_map (sizes : Side → SizedNode α → SizedNode α) (row : Row α) :
    ∃ side, (row.map sizes).leader = sizes side row.leader := by
  cases row with
  | source s => exact ⟨.source, rfl⟩
  | target t => exact ⟨.target, rfl⟩
  | pair s t => exact ⟨.source, rfl⟩

/-- Nodes share a key after the map exactly if they did before. -/
def KeepsKeys (sizes : Side → SizedNode α → SizedNode α) : Prop :=
  ∀ side other s t, (sizes side s).node.key = (sizes other t).node.key ↔ s.node.key = t.node.key

theorem keepsKeys_of_node_eq (same : ∀ side sized, (sizes side sized).node = sized.node) :
    KeepsKeys sizes := by
  intro side other s t
  rw [same, same]

theorem KeepsKeys.decide_eq (keys : KeepsKeys sizes) (side other : Side) (s t : SizedNode α) :
    decide ((sizes side s).node.key = (sizes other t).node.key) =
      decide (s.node.key = t.node.key) :=
  decide_eq_decide.mpr (keys side other s t)

theorem ofSource_map (keys : KeepsKeys sizes) (s : SizedNode α) :
    ofSource (rights.map (sizes .target)) (sizes .source s) = (ofSource rights s).map sizes := by
  have partner : ((rights.map (sizes .target)).find? fun t =>
        t.node.key = (sizes .source s).node.key) =
      (rights.find? fun t => t.node.key = s.node.key).map (sizes .target) := by
    rw [List.find?_map]
    congr 2
    funext t
    exact keys.decide_eq .target .source t s
  rw [ofSource, ofSource, partner]
  cases rights.find? fun t => t.node.key = s.node.key <;> rfl

theorem gathered_map (keys : KeepsKeys sizes) (alignment : Alignment) (side : Side) :
    gathered alignment (lefts.map (sizes .source)) (rights.map (sizes .target)) side =
      (gathered alignment lefts rights side).map (map sizes) := by
  cases alignment with
  | independent => cases side <;> simp [gathered, Side.pick, map]
  | paired =>
    have led : ((fun t : SizedNode α => !(lefts.map (sizes .source)).any fun s =>
          s.node.key = t.node.key) ∘ sizes .target) =
        fun t => !lefts.any fun s => s.node.key = t.node.key := by
      funext t
      rw [Function.comp_apply, List.any_map]
      congr 2
      funext s
      exact keys.decide_eq .source .target s t
    simp only [gathered, List.map_append, List.map_map, List.filter_map, led]
    congr 1
    apply List.map_congr_left
    intro s _
    exact ofSource_map keys s

/-- Rows that keep their order are sorted as before. -/
theorem holding_map (keys : KeepsKeys sizes) {alignment : Alignment} {side : Side}
    (order : ∀ row ∈ gathered alignment lefts rights side,
      ∀ row' ∈ gathered alignment lefts rights side,
        (row.map sizes).place.le (row'.map sizes).place = row.place.le row'.place) :
    holding alignment (lefts.map (sizes .source)) (rights.map (sizes .target)) side =
      (holding alignment lefts rights side).map (map sizes) := by
  rw [holding_eq_sorted, holding_eq_sorted, gathered_map keys, sorted, sorted, List.map_mergeSort]
  exact fun row given row' given' => (order row given row' given').symm

/-- Rows keep their order when their nodes stay the same apart from their sizes. -/
theorem holding_map_of_node_eq (same : ∀ side sized, (sizes side sized).node = sized.node)
    (alignment : Alignment) (side : Side) :
    holding alignment (lefts.map (sizes .source)) (rights.map (sizes .target)) side =
      (holding alignment lefts rights side).map (map sizes) := by
  have place (row : Row α) : (row.map sizes).place = row.place := by
    obtain ⟨side, leader⟩ := leader_map sizes row
    rw [place_eq_leader, place_eq_leader, leader, same]
  refine holding_map (keepsKeys_of_node_eq same) fun row _ row' _ => ?_
  rw [place, place]

variable [Quantity α] (sizes)

theorem tallest_map
    (backdrop : ∀ side sized, (sizes side sized).size.backdrop = sized.size.backdrop)
    (row : Row α) : (row.map sizes).tallest = row.tallest := by
  simp only [tallest, members_map, List.map_map, Function.comp_def, backdrop]

/-- A row whose nodes keep their backdrops and their overflow starts where it did. -/
theorem start_map (backdrop : ∀ side sized, (sizes side sized).size.backdrop = sized.size.backdrop)
    (overflow : ∀ side sized, (sizes side sized).size.overflow = sized.size.overflow)
    (padding : α) (rank : Nat) (cursor : α) (row : Row α) :
    (row.map sizes).start padding rank cursor = row.start padding rank cursor := by
  have reach : (row.map sizes).reach = row.reach := by
    simp only [reach, members_map, List.map_map, Function.comp_def, backdrop, overflow]
  rw [start, start, headroom, headroom, reach, tallest_map sizes backdrop]

end Row

variable {α : Type} [Quantity α]

/-! ### Stacks -/

namespace Stack

omit [Quantity α] in
/-- The stack with its nodes and its bottom changed. -/
def map (places : PlacedNode α → PlacedNode α) (lengths : α → α) (stack : Stack α) : Stack α :=
  ⟨stack.nodes.map places, lengths stack.bottom⟩

omit [Quantity α] in
theorem map_id (stack : Stack α) : stack.map id id = stack := by
  rw [map, List.map_id]
  rfl

/-- A change of sizes, and maybe of the style, that is seen on the drawing as a change of its nodes
and coordinates: it is so for one row and for one node. -/
structure Carries (style style' : Style α) (sizes : Side → SizedNode α → SizedNode α)
    (places : PlacedNode α → PlacedNode α) (lengths : α → α) : Prop where
  alignment : style'.alignment = style.alignment
  zero : lengths 0 = 0
  larger : ∀ a b, larger (lengths a) (lengths b) = lengths (larger a b)
  tallest : ∀ row : Row α, (row.map sizes).tallest = lengths row.tallest
  start : ∀ rank cursor (row : Row α), (row.map sizes).start style'.padding rank (lengths cursor) =
    lengths (row.start style.padding rank cursor)
  ofSized : ∀ rank start tallest side sized,
    PlacedNode.ofSized style' rank (lengths start) (lengths tallest) side (sizes side sized) =
      places (PlacedNode.ofSized style rank start tallest side sized)
  side : ∀ node, (places node).side = node.side
  backdropEnd : ∀ node, (places node).backdropEnd = lengths node.backdropEnd

variable {style style' : Style α} {sizes : Side → SizedNode α → SizedNode α}
  {places : PlacedNode α → PlacedNode α} {lengths : α → α}

omit [Quantity α] in
theorem onSide_map (sides : ∀ node, (places node).side = node.side) (stack : Stack α)
    (side : Side) : (stack.map places lengths).onSide side = (stack.onSide side).map places := by
  rw [onSide, map, List.filter_map, onSide]
  congr 1
  apply List.filter_congr
  intro node _
  rw [Function.comp_apply, sides]

theorem row_map (carries : Carries style style' sizes places lengths) (rank : Nat) (start : α)
    (row : Row α) :
    Stack.row style' rank (lengths start) (row.map sizes) =
      (Stack.row style rank start row).map places := by
  rw [Stack.row, Stack.row, Row.members_map, List.map_map, List.map_map, carries.tallest]
  apply List.map_congr_left
  intro member _
  exact carries.ofSized rank start row.tallest member.1 member.2

theorem rowEnd_map (carries : Carries style style' sizes places lengths) (start : α)
    (nodes : List (PlacedNode α)) :
    rowEnd (lengths start) (nodes.map places) = lengths (rowEnd start nodes) := by
  induction nodes generalizing start with
  | nil => rfl
  | cons node rest ih =>
    have next := ih (Quantity.larger start node.backdropEnd)
    rw [← carries.larger, ← carries.backdropEnd] at next
    exact next

/-- Row by row the changed stack ends where the change takes the end of the other one. -/
theorem below_map (carries : Carries style style' sizes places lengths) (rank : Nat) (cursor : α)
    (rows : List (Row α)) :
    below style' rank (lengths cursor) (rows.map (Row.map sizes)) =
      (below style rank cursor rows).map places lengths := by
  induction rows generalizing rank cursor with
  | nil => rfl
  | cons row rest ih =>
    simp only [List.map_cons, below, carries.start, row_map carries, rowEnd_map carries, ih, map,
      List.map_append]

theorem ofRows_map (carries : Carries style style' sizes places lengths) (rows : List (Row α)) :
    ofRows style' (rows.map (Row.map sizes)) = (ofRows style rows).map places lengths := by
  have top := below_map carries 0 0 rows
  rwa [carries.zero] at top

theorem ofSides_map (carries : Carries style style' sizes places lengths)
    {lefts rights : List (SizedNode α)}
    (rows : ∀ side, Row.holding style.alignment (lefts.map (sizes .source))
        (rights.map (sizes .target)) side =
      (Row.holding style.alignment lefts rights side).map (Row.map sizes)) :
    ofSides style' (lefts.map (sizes .source)) (rights.map (sizes .target)) =
      (ofSides style lefts rights).map places lengths := by
  have left := rows .source
  have right := rows .target
  unfold ofSides
  rw [carries.alignment]
  cases alignment : style.alignment with
  | paired =>
    rw [alignment] at left
    have left : Row.paired (lefts.map (sizes .source)) (rights.map (sizes .target)) =
      (Row.paired lefts rights).map (Row.map sizes) := left
    simp only [left]
    exact ofRows_map carries _
  | independent =>
    rw [alignment] at left right
    have left : Row.ofSide .source (lefts.map (sizes .source)) =
      (Row.ofSide .source lefts).map (Row.map sizes) := left
    have right : Row.ofSide .target (rights.map (sizes .target)) =
      (Row.ofSide .target rights).map (Row.map sizes) := right
    simp only [left, right, ofRows_map carries, map, List.map_append, carries.larger]

end Stack

/-! ### Strands -/

omit [Quantity α] in
def Slice.map (lengths : α → α) (slice : Slice α) : Slice α :=
  ⟨slice.order, lengths slice.centre⟩

namespace Strand

/-- A change of placed nodes and of strands that leaves every strand at its nodes and every node in
its row, and that takes the slices of a node along. The strands may stand elsewhere among the
links. -/
structure Carries (places : PlacedNode α → PlacedNode α) (threads : Strand α → Strand α)
    (numbers : Nat → Nat) (lengths : α → α) : Prop where
  side : ∀ node, (places node).side = node.side
  rank : ∀ node, (places node).rank = node.rank
  index : ∀ strand, (threads strand).index = numbers strand.index
  ends : ∀ (side : Side) strand node, side.endOf (threads strand).link = (places node).key ↔
    side.endOf strand.link = node.key
  zero : lengths 0 = 0
  offset : ∀ offset strand,
    lengths offset + (threads strand).extent = lengths (offset + strand.extent)
  centre : ∀ node offset strand,
    (places node).bodyEnd - lengths offset - (threads strand).extent / 2 =
      lengths (node.bodyEnd - offset - strand.extent / 2)

variable {places : PlacedNode α → PlacedNode α} {threads : Strand α → Strand α}
  {numbers : Nat → Nat} {lengths : α → α}

theorem rank_map (carries : Carries places threads numbers lengths) (stack : Stack α) (side : Side)
    (strand : Strand α) :
    (threads strand).rank (stack.map places lengths) side = strand.rank stack side := by
  have found : ((stack.map places lengths).onSide side).find?
        (fun node => node.key = side.endOf (threads strand).link) =
      ((stack.onSide side).find? fun node => node.key = side.endOf strand.link).map places := by
    rw [Stack.onSide_map carries.side, List.find?_map]
    congr 2
    funext node
    rw [Function.comp_apply, decide_eq_decide, eq_comm, carries.ends, eq_comm]
  rw [rank, rank, found]
  cases (stack.onSide side).find? fun node => node.key = side.endOf strand.link with
  | none => rfl
  | some node => exact carries.rank node

theorem atNode_map (carries : Carries places threads numbers lengths) (stack : Stack α)
    (strands : List (Strand α)) (node : PlacedNode α) :
    atNode (stack.map places lengths) (strands.map threads) (places node) =
      (atNode stack strands node).map threads := by
  have ends : ((fun strand : Strand α => decide ((places node).side.endOf strand.link =
        (places node).key)) ∘ threads) =
      fun strand => decide (node.side.endOf strand.link = node.key) := by
    funext strand
    rw [Function.comp_apply, decide_eq_decide, carries.side, carries.ends]
  rw [atNode, atNode, List.filter_map, ends, List.map_mergeSort]
  intro a _ b _
  rw [carries.side, rank_map carries, rank_map carries]

theorem slices_map (carries : Carries places threads numbers lengths) (node : PlacedNode α)
    (offset : α) (order : Nat) (strands : List (Strand α)) :
    slices (places node).bodyEnd (lengths offset) order (strands.map threads) =
      (slices node.bodyEnd offset order strands).map fun entry =>
        (numbers entry.1, entry.2.map lengths) := by
  induction strands generalizing offset order with
  | nil => rfl
  | cons strand rest ih =>
    rw [List.map_cons, slices, slices, List.map_cons, carries.index, carries.centre, carries.offset,
      ih]
    rfl

theorem slicesOn_map (carries : Carries places threads numbers lengths) (stack : Stack α)
    (strands : List (Strand α)) (side : Side) :
    slicesOn (stack.map places lengths) (strands.map threads) side =
      (slicesOn stack strands side).map fun entry =>
        (numbers entry.1, entry.2.map lengths) := by
  rw [slicesOn, slicesOn, Stack.onSide_map carries.side, List.flatMap_map, List.map_flatMap]
  apply List.flatMap_congr
  intro node _
  have table := slices_map carries node 0 0 (atNode stack strands node)
  rwa [carries.zero, ← atNode_map carries] at table

theorem sliceIn_map (carries : Carries places threads numbers lengths)
    {table : List (Nat × Slice α)} {strand : Strand α}
    (distinct : ∀ entry ∈ table, numbers entry.1 = numbers strand.index → entry.1 = strand.index) :
    (threads strand).sliceIn (table.map fun entry => (numbers entry.1, entry.2.map lengths)) =
      (strand.sliceIn table).map lengths := by
  rw [sliceIn, sliceIn, carries.index, lookup_map_key (Slice.map lengths) distinct]
  cases table.lookup strand.index with
  | some slice => rfl
  | none => exact congrArg (Slice.mk 0) carries.zero.symm

/-- A ribbon has the slices that the change makes of those it had. -/
theorem ribbon_map (carries : Carries places threads numbers lengths) (stack : Stack α)
    {strands : List (Strand α)} {strand : Strand α}
    (distinct : ∀ other ∈ strands,
      numbers other.index = numbers strand.index → other.index = strand.index) :
    ribbon (stack.map places lengths) (strands.map threads) (threads strand) =
      { id := (threads strand).link.id
        source := (threads strand).link.source
        target := (threads strand).link.target
        value := (threads strand).link.value
        extent := (threads strand).extent
        offsetAtSource := lengths (ribbon stack strands strand).offsetAtSource
        offsetAtTarget := lengths (ribbon stack strands strand).offsetAtTarget
        orderAtSource := (ribbon stack strands strand).orderAtSource
        orderAtTarget := (ribbon stack strands strand).orderAtTarget } := by
  have slice (side : Side) :
      (threads strand).sliceIn (slicesOn (stack.map places lengths) (strands.map threads) side) =
        (strand.sliceIn (slicesOn stack strands side)).map lengths := by
    rw [slicesOn_map carries]
    refine sliceIn_map carries fun entry given same => ?_
    obtain ⟨other, drawn, index⟩ := exists_of_mem_slicesOn given
    rw [← index] at same ⊢
    exact distinct other drawn same
  simp only [ribbon, slice]
  rfl

end Strand

theorem Ribbon.ofLinks_eq_map (style : Style α) (stack : Stack α) (links : List (Link α)) :
    ofLinks style stack links = (Strand.ofLinks style links).map
      (Strand.ribbon stack (Strand.ofLinks style links)) := rfl

namespace Diagram

variable {style style' : Style α} {sizes : Side → SizedNode α → SizedNode α}
  {places : PlacedNode α → PlacedNode α} {lengths : α → α} {links links' : List (Link α)}

/-- Nodes that get other sizes, from another style or from other links, stay in their order. -/
theorem stack_map (carries : Stack.Carries style style' sizes places lengths)
    (same : ∀ side sized, (sizes side sized).node = sized.node)
    (sized : ∀ side (node : Node α), node.sized style' (Link.valuesAt side links') =
      sizes side (node.sized style (Link.valuesAt side links)))
    (sources targets : List (Node α)) :
    stack sources targets links' style' =
      (stack sources targets links style).map places lengths := by
  have resized (side : Side) (nodes : List (Node α)) :
      nodes.map (Node.sized style' (Link.valuesAt side links')) =
        (nodes.map (Node.sized style (Link.valuesAt side links))).map (sizes side) := by
    rw [List.map_map]
    exact List.map_congr_left fun node _ => sized side node
  rw [stack, stack, resized, resized]
  exact Stack.ofSides_map carries (Row.holding_map_of_node_eq same style.alignment)

end Diagram

/-! ### Annotations -/

omit [Quantity α] in
/-- The node with another position in time and another bar. These are drawn beside it: nothing else
in a layout looks at them. -/
def PlacedNode.annotate (time : PlacedNode α → Option α) (bar : PlacedNode α → Option (LoadBar α))
    (node : PlacedNode α) : PlacedNode α :=
  { node with timeOffset := time node, overflow := bar node }

omit [Quantity α] in
def Diagram.annotate (time : PlacedNode α → Option α) (bar : PlacedNode α → Option (LoadBar α))
    (diagram : Diagram α) : Diagram α :=
  { diagram with
    sources := diagram.sources.map (PlacedNode.annotate time bar)
    targets := diagram.targets.map (PlacedNode.annotate time bar) }

omit [Quantity α] in
/-- The style with another seam and another axis. -/
def Style.annotate (gap : α) (axis : Axis α) (style : Style α) : Style α :=
  { style with overflowGap := gap, axis := axis }

section Annotations

variable {style : Style α} {gap : α} {axis : Axis α} {time : PlacedNode α → Option α}
  {bar : PlacedNode α → Option (LoadBar α)}

theorem Stack.carries_annotate (annotated : ∀ rank start tallest side sized,
      PlacedNode.ofSized (style.annotate gap axis) rank start tallest side sized =
        (PlacedNode.ofSized style rank start tallest side sized).annotate time bar) :
    Carries style (style.annotate gap axis) (fun _ sized => sized) (PlacedNode.annotate time bar)
      id where
  alignment := rfl
  zero := rfl
  larger _ _ := rfl
  tallest := Row.tallest_map _ fun _ _ => rfl
  start := Row.start_map (fun _ sized => sized) (fun _ _ => rfl) (fun _ _ => rfl) style.padding
  ofSized := annotated
  side _ := rfl
  backdropEnd _ := rfl

theorem Strand.carries_annotate (time : PlacedNode α → Option α)
    (bar : PlacedNode α → Option (LoadBar α)) :
    Carries (PlacedNode.annotate time bar) id id id where
  side _ := rfl
  rank _ := rfl
  index _ := rfl
  ends _ _ _ := Iff.rfl
  zero := rfl
  offset _ _ := rfl
  centre _ _ _ := rfl

/-- A style with another seam and another axis draws the same diagram, with other annotations. -/
theorem Diagram.layout_annotate (annotated : ∀ rank start tallest side sized,
      PlacedNode.ofSized (style.annotate gap axis) rank start tallest side sized =
        (PlacedNode.ofSized style rank start tallest side sized).annotate time bar)
    (sources targets : List (Node α)) (links : List (Link α)) :
    layout sources targets links (style.annotate gap axis) =
      (layout sources targets links style).annotate time bar := by
  have stacked (links : List (Link α)) : stack sources targets links (style.annotate gap axis) =
      (stack sources targets links style).map (PlacedNode.annotate time bar) id :=
    stack_map (Stack.carries_annotate annotated) (fun _ _ => rfl) (fun _ _ => rfl) sources targets
  have sides (stack : Stack α) (side : Side) :
      (stack.map (PlacedNode.annotate time bar) id).onSide side =
        (stack.onSide side).map (PlacedNode.annotate time bar) :=
    Stack.onSide_map (Stack.carries_annotate annotated).side stack side
  have ribbons (stack : Stack α) (links : List (Link α)) :
      Ribbon.ofLinks (style.annotate gap axis)
        (stack.map (PlacedNode.annotate time bar) id) links = Ribbon.ofLinks style stack links := by
    rw [Ribbon.ofLinks_eq_map, Ribbon.ofLinks_eq_map]
    apply List.map_congr_left
    intro strand _
    have distinct : ∀ other ∈ Strand.ofLinks style links,
        id other.index = id strand.index → other.index = strand.index := fun _ _ same => same
    have same := Strand.ribbon_map (Strand.carries_annotate time bar) stack distinct
    rwa [List.map_id] at same
  simp only [layout, stacked, sides, ribbons]
  rfl

end Annotations

end TransitDiagram
