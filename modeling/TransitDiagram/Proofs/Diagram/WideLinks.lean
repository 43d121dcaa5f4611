import TransitDiagram.Proofs.Diagram.Balance
import TransitDiagram.Proofs.Diagram.Mapping

/-!
# Links that take no room

A ribbon that is as thick as the least one by itself adds nothing to the nodes at its ends, and a
link for nobody has no ribbon. In exact arithmetic such a link, wherever it stands among the others,
moves no node and raises no other ribbon: it is seen in its own ribbon, and in the sums of the nodes
at its ends (`PlacedNode.withLink`).
-/

namespace TransitDiagram

open Quantity

/-- A link and the thickness of its ribbon. -/
def Ribbon.band (ribbon : Ribbon Rat) : Link Rat × Rat :=
  (ribbon.link, ribbon.extent)

/-- The node if it counts the passengers on one more link, which it may be an end of. -/
def PlacedNode.withLink (link : Link Rat) (node : PlacedNode Rat) : PlacedNode Rat :=
  { node with
    linkSumOut := node.linkSumOut +
      if node.side = .source ∧ link.source = node.key then link.value else 0
    linkSumIn := node.linkSumIn +
      if node.side = .target ∧ link.target = node.key then link.value else 0 }

def SizedNode.withLink (link : Link Rat) (side : Side) (sized : SizedNode Rat) : SizedNode Rat :=
  { sized with
    size.linkSum := sized.size.linkSum +
      if side.endOf link = sized.node.key then link.value else 0 }

namespace Link

/-- The link joins nodes of the diagram, and no node grows by it. -/
structure TakesNoRoom (sources targets : List (Node Rat)) (style : Style Rat) (link : Link Rat) :
    Prop where
  ends : link.IsConnected sources targets
  count : 0 ≤ link.value
  unraised : Extent.thickening link.value style.scale style.leastLink = 0

variable {sources targets : List (Node Rat)} {link : Link Rat}

/-- A link for nobody takes no room, and neither does one that is wide enough not to be raised. -/
theorem takesNoRoom_of_wide {style : Style Rat} (drawable : style.IsDrawable)
    (ends : link.IsConnected sources targets)
    (wide : link.value = 0 ∨ style.leastLink * style.scale ≤ link.value) :
    link.TakesNoRoom sources targets style where
  ends := ends
  count := by
    have least : 0 ≤ style.leastLink * style.scale :=
      mul_nonneg (isNonNegative_rat.mp drawable.leastLink) drawable.scale_pos.le
    exact wide.elim (fun nobody => nobody.ge) least.trans
  unraised :=
    (Extent.thickening_eq_zero_iff drawable.scale_pos).mpr (wide.imp_left fun nobody => nobody.le)

theorem connected_insert (ends : link.IsConnected sources targets)
    (before after : List (Link Rat)) :
    connected sources targets (before ++ link :: after) =
      connected sources targets before ++ link :: connected sources targets after := by
  rw [connected, List.filter_append, List.filter_cons_of_pos]
  · rfl
  · rw [looseEnd?_eq_none_iff.mpr ends, Option.isNone_none]

theorem filterMap_looseEnd?_insert (ends : link.IsConnected sources targets)
    (before after : List (Link Rat)) :
    (before ++ link :: after).filterMap (looseEnd? sources targets) =
      (before ++ after).filterMap (looseEnd? sources targets) := by
  rw [List.filterMap_append, List.filterMap_append,
    List.filterMap_cons_none (looseEnd?_eq_none_iff.mpr ends)]

/-- Where the link belongs among the values of a node, if it ends there. -/
theorem valuesAt_insert (side : Side) (before after : List (Link Rat)) (key : NodeKey) :
    valuesAt side (before ++ link :: after) key = valuesAt side before key ++
      ((if side.endOf link = key then [link.value] else []) ++ valuesAt side after key) := by
  by_cases ends : side.endOf link = key <;> simp [valuesAt, ends]

end Link

/-! ### Sizes and rows -/

namespace Extent

variable {value scale least : Rat}

/-- A ribbon that is thick enough is as thick as its count says. -/
theorem ribbon_of_thickening_eq_zero (count : 0 ≤ value)
    (unraised : thickening value scale least = 0) : ribbon value scale least = value / scale := by
  rwa [thickening_rat count, sub_eq_zero] at unraised

end Extent

namespace Node

variable {style : Style Rat} {link : Link Rat}

/-- A link that takes no room at a node is seen in its sum alone. -/
theorem size_insert (unraised : Extent.thickening link.value style.scale style.leastLink = 0)
    (node : Node Rat) (early late : List Rat) (here : Prop) [Decidable here] :
    node.size style (early ++ ((if here then [link.value] else []) ++ late)) =
      { node.size style (early ++ late) with
        linkSum := (node.size style (early ++ late)).linkSum +
          if here then link.value else 0 } := by
  have added : compensation style (early ++ ((if here then [link.value] else []) ++ late)) =
      compensation style (early ++ late) := by
    by_cases ends : here <;> simp [compensation_rat, ends, unraised]
  have carried : total (early ++ ((if here then [link.value] else []) ++ late)) =
      total (early ++ late) + if here then link.value else 0 := by
    by_cases ends : here <;> simp [total_rat, ends]
    ring
  simp only [size, added, carried]

theorem sized_insert (unraised : Extent.thickening link.value style.scale style.leastLink = 0)
    (side : Side) (before after : List (Link Rat)) (node : Node Rat) :
    node.sized style (Link.valuesAt side (before ++ link :: after)) =
      (node.sized style (Link.valuesAt side (before ++ after))).withLink link side := by
  have apart : Link.valuesAt side (before ++ after) node.key =
      Link.valuesAt side before node.key ++ Link.valuesAt side after node.key := by
    simp only [Link.valuesAt, List.filter_append, List.map_append]
  rw [sized, sized, Link.valuesAt_insert, apart, size_insert unraised]
  rfl

end Node

/-! ### Stacks -/

theorem PlacedNode.ofSized_withLink (style : Style Rat) (link : Link Rat) (rank : Nat)
    (start tallest : Rat) (side : Side) (sized : SizedNode Rat) :
    ofSized style rank start tallest side (sized.withLink link side) =
      (ofSized style rank start tallest side sized).withLink link := by
  let placed := ofSized style rank start tallest side sized
  let loaded := ofSized style rank start tallest side (sized.withLink link side)
  have sums : loaded.linkSumOut = (placed.withLink link).linkSumOut ∧
      loaded.linkSumIn = (placed.withLink link).linkSumIn := by
    cases side with
    | source => by_cases ends : link.source = sized.node.key <;>
        simp [placed, loaded, ofSized, withLink, SizedNode.withLink, Side.endOf, ends]
    | target => by_cases ends : link.target = sized.node.key <;>
        simp [placed, loaded, ofSized, withLink, SizedNode.withLink, Side.endOf, ends]
  calc loaded
      = { placed with linkSumOut := loaded.linkSumOut, linkSumIn := loaded.linkSumIn } := rfl
    _ = placed.withLink link := by rw [sums.1, sums.2]; rfl

namespace Stack

theorem carries_withLink (style : Style Rat) (link : Link Rat) :
    Carries style style (SizedNode.withLink link) (PlacedNode.withLink link) id where
  alignment := rfl
  zero := rfl
  larger _ _ := rfl
  tallest := Row.tallest_map (SizedNode.withLink link) fun _ _ => rfl
  start := Row.start_map (SizedNode.withLink link) (fun _ _ => rfl) (fun _ _ => rfl) style.padding
  ofSized := PlacedNode.ofSized_withLink style link
  side _ := rfl
  backdropEnd _ := rfl

end Stack

/-! ### Diagrams -/

namespace Diagram

variable {sources targets : List (Node Rat)} {before after : List (Link Rat)} {link : Link Rat}
  {style : Style Rat}

theorem stackOf_insert (slim : link.TakesNoRoom sources targets style) :
    stackOf sources targets (before ++ link :: after) style =
      (stackOf sources targets (before ++ after) style).map (PlacedNode.withLink link) id := by
  have apart : Link.connected sources targets (before ++ after) =
      Link.connected sources targets before ++ Link.connected sources targets after :=
    List.filter_append before after
  have same (side : Side) (sized : SizedNode Rat) : (sized.withLink link side).node = sized.node :=
    rfl
  rw [stackOf, stackOf, Link.connected_insert slim.ends, apart]
  refine stack_map (Stack.carries_withLink style link) same (fun side node => ?_) sources targets
  exact Node.sized_insert slim.unraised side _ _ node

theorem onSide_layout_insert (slim : link.TakesNoRoom sources targets style) (side : Side) :
    (layout sources targets (before ++ link :: after) style).onSide side =
      ((layout sources targets (before ++ after) style).onSide side).map
        (PlacedNode.withLink link) := by
  rw [onSide_stackOf, onSide_stackOf, stackOf_insert slim,
    Stack.onSide_map (Stack.carries_withLink style link).side]

theorem totalExtent_layout_insert (slim : link.TakesNoRoom sources targets style) :
    (layout sources targets (before ++ link :: after) style).totalExtent =
      (layout sources targets (before ++ after) style).totalExtent := by
  have bottom : (stackOf sources targets (before ++ link :: after) style).bottom =
      (stackOf sources targets (before ++ after) style).bottom := by
    rw [stackOf_insert slim]
    rfl
  exact congrArg (· + style.padding) bottom

/-- The ribbons that show some of the links. -/
def bands (sources targets : List (Node Rat)) (links : List (Link Rat)) (style : Style Rat) :
    List (Link Rat × Rat) :=
  ((Link.connected sources targets links).filter fun link => 0 < link.value).map fun link =>
    (link, Extent.ribbon link.value style.scale style.leastLink)

theorem map_band_ribbons_layout (drawable : style.IsDrawable) (links : List (Link Rat)) :
    (layout sources targets links style).ribbons.map Ribbon.band =
      bands sources targets links style := by
  rw [bands, ← map_link_ribbons_connected drawable, List.map_map]
  apply List.map_congr_left
  intro ribbon member
  exact Prod.ext rfl (extent_of_mem_ribbons_layout member)

theorem map_fst_bands (links : List (Link Rat)) :
    ((bands sources targets links style).map Prod.fst).Sublist links := by
  rw [bands, List.map_map]
  exact (List.map_id _).symm ▸ List.filter_sublist.trans List.filter_sublist

theorem bands_append (before after : List (Link Rat)) :
    bands sources targets (before ++ after) style =
      bands sources targets before style ++ bands sources targets after style := by
  simp only [bands, Link.connected, List.filter_append, List.map_append]

/-- Between the bands of the other links there is one of the link, unless it is for nobody. -/
theorem bands_insert (slim : link.TakesNoRoom sources targets style) :
    bands sources targets (before ++ link :: after) style =
      bands sources targets before style ++
        ((if link.value = 0 then [] else [(link, link.value / style.scale)]) ++
          bands sources targets after style) := by
  have extent := Extent.ribbon_of_thickening_eq_zero slim.count slim.unraised
  rw [bands, Link.connected_insert slim.ends, List.filter_append, List.map_append]
  by_cases nobody : link.value = 0
  · rw [List.filter_cons_of_neg (by simp [nobody]), if_pos nobody, List.nil_append]
    rfl
  · have present : 0 < link.value := lt_of_le_of_ne slim.count (Ne.symm nobody)
    rw [List.filter_cons_of_pos (by simpa using present), List.map_cons, extent, if_neg nobody]
    rfl

/-- A further link, wherever it stands among the others, moves nothing if both of its ends are in
the diagram and it is for nobody or wide enough not to be raised. The nodes at its ends count its
passengers, and everything else about the nodes, the length of the diagram and the reports stays as
it was. The other links keep their ribbons' order and thickness. -/
theorem draw_wideLink {diagram : Diagram Rat}
    (drawn : draw sources targets (before ++ after) style = .ok diagram)
    (ends : link.IsConnected (Node.kept sources) (Node.kept targets))
    (wide : link.value = 0 ∨ style.leastLink * style.scale ≤ link.value) :
    ∃ diagram', draw sources targets (before ++ link :: after) style = .ok diagram' ∧
      diagram'.totalExtent = diagram.totalExtent ∧ diagram'.looseEnds = diagram.looseEnds ∧
      (∀ side, diagram'.onSide side = (diagram.onSide side).map (PlacedNode.withLink link)) ∧
      ∃ early late, diagram.ribbons.map Ribbon.band = early ++ late ∧
        diagram'.ribbons.map Ribbon.band = early ++
          ((if link.value = 0 then [] else [(link, link.value / style.scale)]) ++ late) ∧
        (early.map Prod.fst).Sublist before ∧ (late.map Prod.fst).Sublist after := by
  obtain ⟨drawable, rfl⟩ := draw_eq_ok_iff.mp drawn
  have valid := drawable.isDrawable_style
  have slim := Link.takesNoRoom_of_wide valid ends wide
  have counts : ∀ other ∈ before ++ link :: after, IsCount other.value := by
    intro other member
    rcases List.mem_cons.mp (List.perm_middle.mem_iff.mp member) with rfl | member
    · exact isCount_rat.mpr slim.count
    · exact drawable.isCount_link other member
  refine ⟨_, draw_eq_ok_iff.mpr ⟨{ drawable with isCount_link := counts }, rfl⟩,
    totalExtent_layout_insert slim, Link.filterMap_looseEnd?_insert ends before after,
    onSide_layout_insert slim, bands (Node.kept sources) (Node.kept targets) before style,
    bands (Node.kept sources) (Node.kept targets) after style, ?_, ?_, map_fst_bands before,
    map_fst_bands after⟩
  · rw [map_band_ribbons_layout valid, bands_append]
  · rw [map_band_ribbons_layout valid, bands_insert slim]

/-- Twelve passengers more between the trips of one name take three, which is not raised. The other
ribbons, which are raised to two, stay as they are on either side of it in the order of the
links. -/
theorem draw_wideLink_crowdedStation :
    ∃ diagram diagram', draw crowdedStation.sources crowdedStation.targets crowdedStation.links
        (Style.plain .paired) = .ok diagram ∧
      draw crowdedStation.sources crowdedStation.targets
        [⟨0, .real ⟨"a"⟩, .real ⟨"a"⟩, 3⟩, ⟨2, .real ⟨"a"⟩, .real ⟨"a"⟩, 12⟩,
          ⟨1, .real ⟨"b"⟩, .real ⟨"a"⟩, 7⟩] (Style.plain .paired) = .ok diagram' ∧
      diagram'.totalExtent = diagram.totalExtent ∧
      (∀ side, diagram'.onSide side = (diagram.onSide side).map
        (PlacedNode.withLink ⟨2, .real ⟨"a"⟩, .real ⟨"a"⟩, 12⟩)) ∧
      diagram.sources.map (·.linkSumOut) = [3, 7] ∧
      diagram.ribbons.map Ribbon.band = [(⟨0, .real ⟨"a"⟩, .real ⟨"a"⟩, 3⟩, 2),
        (⟨1, .real ⟨"b"⟩, .real ⟨"a"⟩, 7⟩, 2)] ∧
      (⟨2, .real ⟨"a"⟩, .real ⟨"a"⟩, 12⟩, 3) ∈ diagram'.ribbons.map Ribbon.band := by
  have drawn := draw_eq_ok_layout (by decide +kernel :
    check (Node.kept crowdedStation.sources) (Node.kept crowdedStation.targets)
      crowdedStation.links (Style.plain .paired) = .ok ())
  have split : draw crowdedStation.sources crowdedStation.targets
      ([⟨0, .real ⟨"a"⟩, .real ⟨"a"⟩, 3⟩] ++ [⟨1, .real ⟨"b"⟩, .real ⟨"a"⟩, 7⟩])
      (Style.plain .paired) = .ok _ := drawn
  have ends : Link.IsConnected (Node.kept crowdedStation.sources)
    (Node.kept crowdedStation.targets) ⟨2, .real ⟨"a"⟩, .real ⟨"a"⟩, 12⟩ := by decide +kernel
  obtain ⟨diagram', drawn', extent, -, nodes, early, late, -, bands, -⟩ :=
    draw_wideLink split ends (.inr (by norm_num [Style.plain]))
  have band : ((12 : Rat) / (Style.plain .paired).scale) = 3 := by norm_num [Style.plain]
  refine ⟨_, diagram', drawn, drawn', extent, nodes, by cbv, by cbv, ?_⟩
  rw [bands, if_neg (by norm_num), band]
  simp

end Diagram

end TransitDiagram
