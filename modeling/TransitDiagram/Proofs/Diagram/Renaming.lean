import TransitDiagram.Proofs.Diagram.Mapping
import TransitDiagram.Proofs.Diagram.Reordering

/-!
# New names

On a diagram without a time axis nothing depends on what its entities are called. A change of names
is carried from the keys up to `Diagram.draw_map_relabel`, through the stack and the strands as a
map of their nodes. Nodes may have new times as well, if these leave them in order: the times enter
only where rows are sorted (`Row.holding_relabel`).
-/

namespace TransitDiagram

open Quantity

variable {α : Type} {names : EntityKey ↪ EntityKey}

/-! ### Keys and links -/

namespace NodeKey

/-- The key when entities have new names. -/
def rename (names : EntityKey ↪ EntityKey) : NodeKey → NodeKey
  | real entity => real (names entity)
  | sentinel kind => sentinel kind

@[simp]
theorem isSentinel_rename (key : NodeKey) : (key.rename names).isSentinel = key.isSentinel := by
  cases key <;> rfl

theorem rename_injective (names : EntityKey ↪ EntityKey) : Function.Injective (rename names) := by
  intro key other same
  cases key <;> cases other <;> simp_all [rename]

@[simp]
theorem rename_inj {key other : NodeKey} : key.rename names = other.rename names ↔ key = other :=
  (rename_injective names).eq_iff

theorem decide_rename_inj (key other : NodeKey) :
    decide (key.rename names = other.rename names) = decide (key = other) :=
  decide_eq_decide.mpr rename_inj

@[simp]
theorem rename_refl (key : NodeKey) : key.rename (.refl EntityKey) = key := by
  cases key <;> rfl

end NodeKey

def Link.rename (names : EntityKey ↪ EntityKey) (link : Link α) : Link α :=
  { link with source := link.source.rename names, target := link.target.rename names }

@[simp]
theorem Link.rename_refl (link : Link α) : link.rename (.refl EntityKey) = link := by
  simp [rename]

@[simp]
theorem Side.endOf_rename (side : Side) (link : Link α) :
    side.endOf (link.rename names) = (side.endOf link).rename names := by
  cases side <;> rfl

theorem Link.valuesAt_rename (side : Side) (links : List (Link α)) (key : NodeKey) :
    valuesAt side (links.map (rename names)) (key.rename names) = valuesAt side links key := by
  rw [valuesAt, valuesAt, List.filter_map, List.map_map]
  congr 1
  apply List.filter_congr
  intro link _
  rw [Function.comp_apply, Side.endOf_rename, NodeKey.decide_rename_inj]

/-! ### Nodes -/

/-- The node under its new name and with a new time. -/
def Node.relabel (names : EntityKey ↪ EntityKey) (times : Node α → Int64) (node : Node α) :
    Node α :=
  { node with key := node.key.rename names, displayTime := times node }

def LooseEnd.rename (names : EntityKey ↪ EntityKey) (loose : LooseEnd) : LooseEnd :=
  { loose with key := loose.key.rename names }

section Relabelling

variable {times : Node α → Int64} {sources targets : List (Node α)} {links : List (Link α)}

theorem Node.map_key_relabel (nodes : List (Node α)) :
    (nodes.map (relabel names times)).map (·.key) = (nodes.map (·.key)).map (.rename names) := by
  rw [List.map_map, List.map_map]
  rfl

theorem Node.any_key_relabel (nodes : List (Node α)) (key : NodeKey) :
    ((nodes.map (relabel names times)).any fun node => node.key = key.rename names) =
      nodes.any fun node => node.key = key := by
  rw [List.any_map]
  congr 1
  funext node
  exact NodeKey.decide_rename_inj node.key key

theorem Link.looseEnd?_relabel (link : Link α) :
    (link.rename names).looseEnd? (sources.map (Node.relabel names times))
        (targets.map (Node.relabel names times)) =
      (link.looseEnd? sources targets).map (LooseEnd.rename names) := by
  have source : ((sources.map (Node.relabel names times)).any fun node =>
      node.key = (link.rename names).source) = sources.any fun node => node.key = link.source :=
    Node.any_key_relabel sources link.source
  have target : ((targets.map (Node.relabel names times)).any fun node =>
      node.key = (link.rename names).target) = targets.any fun node => node.key = link.target :=
    Node.any_key_relabel targets link.target
  rw [looseEnd?, looseEnd?, source, target]
  split_ifs <;> rfl

theorem Link.connected_relabel :
    connected (sources.map (Node.relabel names times)) (targets.map (Node.relabel names times))
        (links.map (rename names)) = (connected sources targets links).map (rename names) := by
  rw [connected, connected, List.filter_map]
  congr 1
  apply List.filter_congr
  intro link _
  rw [Function.comp_apply, looseEnd?_relabel, Option.isNone_map]

theorem Link.filterMap_looseEnd?_relabel :
    (links.map (rename names)).filterMap (looseEnd? (sources.map (Node.relabel names times))
        (targets.map (Node.relabel names times))) =
      (links.filterMap (looseEnd? sources targets)).map (LooseEnd.rename names) := by
  rw [List.filterMap_map, List.map_filterMap]
  apply List.filterMap_congr
  intro link _
  exact looseEnd?_relabel link

/-! ### Rows -/

def SizedNode.relabel (names : EntityKey ↪ EntityKey) (times : Node α → Int64)
    (sized : SizedNode α) : SizedNode α :=
  { sized with node := sized.node.relabel names times }

/-- New names and times that leave the nodes in the same stacking order. -/
def Node.KeepsOrder (names : EntityKey ↪ EntityKey) (times : Node α → Int64)
    (nodes : List (Node α)) : Prop :=
  ∀ node ∈ nodes, ∀ other ∈ nodes,
    (node.relabel names times).place.le (other.relabel names times).place =
      node.place.le other.place

namespace Row

def relabel (names : EntityKey ↪ EntityKey) (times : Node α → Int64) : Row α → Row α
  | source s => source (s.relabel names times)
  | target t => target (t.relabel names times)
  | pair s t => pair (s.relabel names times) (t.relabel names times)

variable {lefts rights : List (SizedNode α)}

theorem leader_relabel (row : Row α) :
    (row.relabel names times).leader = row.leader.relabel names times := by
  cases row <;> rfl

theorem relabel_eq_map :
    (relabel names times : Row α → Row α) = map fun _ => SizedNode.relabel names times := by
  funext row
  cases row <;> rfl

theorem keepsKeys_relabel :
    KeepsKeys fun _ => (SizedNode.relabel names times : SizedNode α → SizedNode α) :=
  fun _ _ _ _ => NodeKey.rename_inj

/-- Rows are sorted by the order of their leaders, whatever these are called. -/
theorem holding_relabel (alignment : Alignment) (side : Side)
    (keeps : Node.KeepsOrder names times (lefts.map (·.node) ++ rights.map (·.node))) :
    holding alignment (lefts.map (SizedNode.relabel names times))
        (rights.map (SizedNode.relabel names times)) side =
      (holding alignment lefts rights side).map (relabel names times) := by
  rw [relabel_eq_map]
  refine holding_map keepsKeys_relabel fun row given row' given' => ?_
  have led (row : Row α) : (row.relabel names times).place =
      (row.leader.node.relabel names times).place := by
    rw [place_eq_leader, leader_relabel]
    rfl
  rw [← relabel_eq_map, led, led, place_eq_leader, place_eq_leader]
  exact keeps _ (mem_of_mem_leader_gathered (List.mem_map_of_mem given)) _
    (mem_of_mem_leader_gathered (List.mem_map_of_mem given'))

end Row

end Relabelling

/-! ### Stacks -/

def PlacedNode.rename (names : EntityKey ↪ EntityKey) (node : PlacedNode α) : PlacedNode α :=
  { node with key := node.key.rename names }

def Stack.rename (names : EntityKey ↪ EntityKey) (stack : Stack α) : Stack α :=
  { stack with nodes := stack.nodes.map (PlacedNode.rename names) }

theorem Stack.onSide_rename (stack : Stack α) (side : Side) :
    (stack.rename names).onSide side = (stack.onSide side).map (PlacedNode.rename names) :=
  List.filter_map

section Stacks

variable [Quantity α] {times : Node α → Int64} {style : Style α} {links : List (Link α)}

theorem Node.isOverflowing_relabel (node : Node α) :
    (node.relabel names times).isOverflowing = node.isOverflowing := by
  show (!(node.key.rename names).isSentinel && _) = (!node.key.isSentinel && _)
  rw [NodeKey.isSentinel_rename]
  rfl

theorem Node.size_relabel (node : Node α) (values : List α) :
    (node.relabel names times).size style values = node.size style values := by
  simp only [size, isOverflowing_relabel]
  simp [relabel]

theorem Node.sized_relabel (side : Side) (node : Node α) :
    (node.relabel names times).sized style (Link.valuesAt side (links.map (Link.rename names))) =
      (node.sized style (Link.valuesAt side links)).relabel names times := by
  have values : Link.valuesAt side (links.map (Link.rename names)) (node.relabel names times).key =
      Link.valuesAt side links node.key := Link.valuesAt_rename side links node.key
  rw [sized, values, size_relabel]
  rfl

/-- Without a time axis a node is placed by its size. -/
theorem PlacedNode.ofSized_relabel (ranked : style.axis = .rank) (rank : Nat) (start tallest : α)
    (side : Side) (sized : SizedNode α) :
    ofSized style rank start tallest side (sized.relabel names times) =
      (ofSized style rank start tallest side sized).rename names := by
  have offset (node : Node α) : style.axis.offset? node = none := by
    rw [ranked]
    rfl
  obtain ⟨⟨key, time, occupancy, capacity⟩, size⟩ := sized
  simp only [ofSized, offset]
  cases key <;> rfl

namespace Stack

theorem carries_relabel (ranked : style.axis = .rank) :
    Carries style style (fun _ => SizedNode.relabel names times) (PlacedNode.rename names) id where
  alignment := rfl
  zero := rfl
  larger _ _ := rfl
  tallest := Row.tallest_map _ fun _ _ => rfl
  start := Row.start_map (fun _ => SizedNode.relabel names times) (fun _ _ => rfl) (fun _ _ => rfl)
    style.padding
  ofSized := PlacedNode.ofSized_relabel ranked
  side _ := rfl
  backdropEnd _ := rfl

theorem ofSides_relabel (ranked : style.axis = .rank) {lefts rights : List (SizedNode α)}
    (keeps : Node.KeepsOrder names times (lefts.map (·.node) ++ rights.map (·.node))) :
    ofSides style (lefts.map (SizedNode.relabel names times))
        (rights.map (SizedNode.relabel names times)) =
      (ofSides style lefts rights).rename names := by
  refine ofSides_map (carries_relabel ranked) fun side => ?_
  rw [← Row.relabel_eq_map]
  exact Row.holding_relabel style.alignment side keeps

end Stack

end Stacks

/-! ### Ribbons -/

def Ribbon.rename (names : EntityKey ↪ EntityKey) (ribbon : Ribbon α) : Ribbon α :=
  { ribbon with source := ribbon.source.rename names, target := ribbon.target.rename names }

namespace Strand

def rename (names : EntityKey ↪ EntityKey) (strand : Strand α) : Strand α :=
  { strand with link := strand.link.rename names }

variable [Quantity α] {style : Style α}

theorem ofLinks_rename (links : List (Link α)) :
    ofLinks style (links.map (Link.rename names)) = (ofLinks style links).map (rename names) := by
  -- A strand is kept or not whatever its link is called.
  have kept : (fun strand : Strand α => !decide (strand.extent ≤ 0)) =
      (fun strand => !decide (strand.extent ≤ 0)) ∘ rename names := rfl
  rw [ofLinks, ofLinks, List.zipIdx_map, List.map_map]
  conv_rhs => rw [kept, ← List.filter_map, List.map_map]
  rfl

theorem carries_rename :
    Carries (PlacedNode.rename names) (rename names : Strand α → Strand α) id id where
  side _ := rfl
  rank _ := rfl
  index _ := rfl
  ends side strand node := by
    show side.endOf (strand.link.rename names) = node.key.rename names ↔ _
    rw [Side.endOf_rename, NodeKey.rename_inj]
  zero := rfl
  offset _ _ := rfl
  centre _ _ _ := rfl

theorem ribbons_rename (stack : Stack α) (links : List (Link α)) :
    Ribbon.ofLinks style (stack.rename names) (links.map (Link.rename names)) =
      (Ribbon.ofLinks style stack links).map (Ribbon.rename names) := by
  rw [Ribbon.ofLinks_eq_map, Ribbon.ofLinks_eq_map, ofLinks_rename, List.map_map, List.map_map]
  apply List.map_congr_left
  intro strand _
  exact ribbon_map carries_rename stack fun _ _ same => same

end Strand

/-! ### Diagrams -/

namespace Diagram

def rename (names : EntityKey ↪ EntityKey) (diagram : Diagram α) : Diagram α where
  sources := diagram.sources.map (PlacedNode.rename names)
  targets := diagram.targets.map (PlacedNode.rename names)
  ribbons := diagram.ribbons.map (Ribbon.rename names)
  totalExtent := diagram.totalExtent
  looseEnds := diagram.looseEnds.map (LooseEnd.rename names)

variable [Quantity α] {times : Node α → Int64} {sources targets : List (Node α)}
  {links : List (Link α)} {style : Style α}

theorem stack_relabel (ranked : style.axis = .rank)
    (keeps : Node.KeepsOrder names times (sources ++ targets)) :
    stack (sources.map (Node.relabel names times)) (targets.map (Node.relabel names times))
        (links.map (Link.rename names)) style =
      (stack sources targets links style).rename names := by
  have sized (side : Side) (nodes : List (Node α)) :
      (nodes.map (Node.relabel names times)).map
          (Node.sized style (Link.valuesAt side (links.map (Link.rename names)))) =
        (nodes.map (Node.sized style (Link.valuesAt side links))).map
          (SizedNode.relabel names times) := by
    rw [List.map_map, List.map_map]
    apply List.map_congr_left
    intro node _
    exact Node.sized_relabel side node
  have unsized (side : Side) (nodes : List (Node α)) :
      (nodes.map (Node.sized style (Link.valuesAt side links))).map (·.node) = nodes := by
    rw [List.map_map]
    exact List.map_id nodes
  rw [stack, stack, sized, sized]
  apply Stack.ofSides_relabel ranked
  rwa [unsized, unsized]

/-- Without a time axis a diagram under new names is the same diagram under those names, as long as
its nodes keep their order. -/
theorem layout_relabel (ranked : style.axis = .rank)
    (keeps : Node.KeepsOrder names times (sources ++ targets)) :
    layout (sources.map (Node.relabel names times)) (targets.map (Node.relabel names times))
        (links.map (Link.rename names)) style =
      (layout sources targets links style).rename names := by
  simp only [layout, Link.connected_relabel, stack_relabel ranked keeps, Stack.onSide_rename,
    Strand.ribbons_rename, Link.filterMap_looseEnd?_relabel]
  rfl

omit [Quantity α] in
theorem rename_refl (diagram : Diagram α) : diagram.rename (.refl EntityKey) = diagram := by
  have nodes : PlacedNode.rename (.refl EntityKey) = (id : PlacedNode α → PlacedNode α) := by
    funext node
    simp [PlacedNode.rename]
  have ribbons : Ribbon.rename (.refl EntityKey) = (id : Ribbon α → Ribbon α) := by
    funext ribbon
    simp [Ribbon.rename]
  have looseEnds : LooseEnd.rename (.refl EntityKey) = id := by
    funext loose
    simp [LooseEnd.rename]
  simp only [rename, nodes, ribbons, looseEnds, List.map_id]

theorem isDrawable_relabel_iff (ranked : style.axis = .rank) :
    IsDrawable (sources.map (Node.relabel names times)) (targets.map (Node.relabel names times))
        (links.map (Link.rename names)) style ↔ IsDrawable sources targets links style := by
  have nodes (given : List (Node α)) :
      Node.AreDrawable (given.map (Node.relabel names times)) ↔ Node.AreDrawable given := by
    constructor
    · rintro ⟨occupancy, capacity, nodup⟩
      rw [Node.map_key_relabel, List.nodup_map_iff (NodeKey.rename_injective names)] at nodup
      exact ⟨fun node member => occupancy (node.relabel names times) (List.mem_map_of_mem member),
        fun node member => capacity (node.relabel names times) (List.mem_map_of_mem member), nodup⟩
    · rintro ⟨occupancy, capacity, nodup⟩
      refine ⟨List.forall_mem_map.mpr occupancy, List.forall_mem_map.mpr capacity, ?_⟩
      rwa [Node.map_key_relabel, List.nodup_map_iff (NodeKey.rename_injective names)]
  have shown (node : Node α) : style.axis.checkNode node = .ok () := by
    rw [ranked]
    rfl
  constructor
  · rintro ⟨style, left, right, counts, -, -⟩
    exact ⟨style, (nodes _).mp left, (nodes _).mp right,
      fun link member => counts (link.rename names) (List.mem_map_of_mem member),
      fun node _ => shown node, fun node _ => shown node⟩
  · rintro ⟨style, left, right, counts, -, -⟩
    exact ⟨style, (nodes _).mpr left, (nodes _).mpr right, List.forall_mem_map.mpr counts,
      fun node _ => shown node, fun node _ => shown node⟩

theorem kept_relabel (nodes : List (Node α)) :
    Node.kept (nodes.map (Node.relabel names times)) =
      (Node.kept nodes).map (Node.relabel names times) := by
  rw [Node.kept, Node.kept, List.filter_map]
  congr 1
  apply List.filter_congr
  intro node _
  show (!((node.key.rename names).isSentinel && node.occupancy == 0)) = !node.isVacant
  rw [NodeKey.isSentinel_rename, Node.isVacant]

theorem draw_map_relabel (ranked : style.axis = .rank)
    (keeps : Node.KeepsOrder names times (Node.kept sources ++ Node.kept targets))
    {diagram' : Diagram α} :
    draw (sources.map (Node.relabel names times)) (targets.map (Node.relabel names times))
        (links.map (Link.rename names)) style = .ok diagram' ↔
      ∃ diagram, draw sources targets links style = .ok diagram ∧
        diagram.rename names = diagram' := by
  simp only [draw_eq_ok_iff, kept_relabel, isDrawable_relabel_iff ranked,
    layout_relabel ranked keeps]
  constructor
  · rintro ⟨drawable, same⟩
    exact ⟨_, ⟨drawable, rfl⟩, same⟩
  · rintro ⟨diagram, ⟨drawable, rfl⟩, same⟩
    exact ⟨drawable, same⟩

end Diagram

end TransitDiagram
