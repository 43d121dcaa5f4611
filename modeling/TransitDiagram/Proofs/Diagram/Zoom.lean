import TransitDiagram.Proofs.Diagram.Mapping
import TransitDiagram.Proofs.Diagram.Rules

/-!
# Other magnifications

A style can be magnified: fewer passengers to a unit of length, and all of its lengths longer in
proportion. In exact arithmetic nothing in a layout has a length of its own, so that a magnified
style draws the magnified diagram. Counts, shares and positions in time are not lengths, and stay.
-/

namespace TransitDiagram

open Quantity

/-! ### What a magnification does -/

def Style.zoom (factor : Rat) (style : Style Rat) : Style Rat :=
  { style with
    scale := style.scale / factor
    leastNode := factor * style.leastNode
    leastLink := factor * style.leastLink
    padding := factor * style.padding
    overflowGap := factor * style.overflowGap }

def Size.zoom (factor : Rat) (size : Size Rat) : Size Rat :=
  { size with
    backdrop := factor * size.backdrop
    body := factor * size.body
    overflow := factor * size.overflow }

def SizedNode.zoom (factor : Rat) (sized : SizedNode Rat) : SizedNode Rat :=
  { sized with size := sized.size.zoom factor }

def BarPart.zoom (factor : Rat) (part : BarPart Rat) : BarPart Rat :=
  { part with start := factor * part.start, stop := factor * part.stop }

def LoadBar.zoom (factor : Rat) (bar : LoadBar Rat) : LoadBar Rat where
  within := bar.within.zoom factor
  overflow := bar.overflow.map (BarPart.zoom factor)
  overflowExtent := factor * bar.overflowExtent

def PlacedNode.zoom (factor : Rat) (node : PlacedNode Rat) : PlacedNode Rat :=
  { node with
    backdropExtent := factor * node.backdropExtent
    bodyExtent := factor * node.bodyExtent
    backdropStart := factor * node.backdropStart
    backdropEnd := factor * node.backdropEnd
    bodyStart := factor * node.bodyStart
    bodyEnd := factor * node.bodyEnd
    overflow := node.overflow.map (LoadBar.zoom factor) }

def Strand.zoom (factor : Rat) (strand : Strand Rat) : Strand Rat :=
  { strand with extent := factor * strand.extent }

def Ribbon.zoom (factor : Rat) (ribbon : Ribbon Rat) : Ribbon Rat :=
  { ribbon with
    extent := factor * ribbon.extent
    offsetAtSource := factor * ribbon.offsetAtSource
    offsetAtTarget := factor * ribbon.offsetAtTarget }

def Diagram.zoom (factor : Rat) (diagram : Diagram Rat) : Diagram Rat where
  sources := diagram.sources.map (PlacedNode.zoom factor)
  targets := diagram.targets.map (PlacedNode.zoom factor)
  ribbons := diagram.ribbons.map (Ribbon.zoom factor)
  totalExtent := factor * diagram.totalExtent
  looseEnds := diagram.looseEnds

variable {factor : Rat}

theorem Style.IsDrawable.zoom {style : Style Rat} (drawable : style.IsDrawable)
    (positive : 0 < factor) : (style.zoom factor).IsDrawable where
  scale := isPositive_rat.mpr (div_pos drawable.scale_pos positive)
  leastNode := isNonNegative_rat.mpr
    (mul_nonneg positive.le (isNonNegative_rat.mp drawable.leastNode))
  leastLink := isNonNegative_rat.mpr
    (mul_nonneg positive.le (isNonNegative_rat.mp drawable.leastLink))
  padding := isNonNegative_rat.mpr (mul_nonneg positive.le drawable.padding_nonneg)
  overflowGap := isNonNegative_rat.mpr
    (mul_nonneg positive.le (isNonNegative_rat.mp drawable.overflowGap))
  leastNode_le := fun less => drawable.leastNode_le (lt_of_mul_lt_mul_left less positive.le)
  axis := drawable.axis

/-! ### Extents -/

namespace Quantity

theorem larger_mul (positive : 0 < factor) (a b : Rat) :
    larger (factor * a) (factor * b) = factor * larger a b := by
  rw [larger_rat, larger_rat, mul_max_of_nonneg _ _ positive.le]

theorem positivePart_mul (positive : 0 < factor) (x : Rat) :
    positivePart (factor * x) = factor * positivePart x := by
  rw [positivePart_rat, positivePart_rat, mul_max_of_nonneg _ _ positive.le, mul_zero]

theorem largest_map_mul {β : Type} (positive : 0 < factor) (f : β → Rat) (xs : List β) :
    largest (xs.map fun x => factor * f x) = factor * largest (xs.map f) := by
  have step (bound : Rat) (x : β) :
      larger (factor * bound) (factor * f x) = factor * larger bound (f x) :=
    larger_mul positive bound (f x)
  rw [largest, largest, List.foldl_map, List.foldl_map]
  calc xs.foldl (fun bound x => larger bound (factor * f x)) 0
      = xs.foldl (fun bound x => larger bound (factor * f x)) (factor * 0) := by rw [mul_zero]
    _ = factor * xs.foldl (fun bound x => larger bound (f x)) 0 :=
      List.foldl_hom (factor * ·) step

end Quantity

namespace Extent

theorem ofCount_zoom (value scale : Rat) :
    ofCount value (scale / factor) = factor * ofCount value scale := by
  rw [ofCount, ofCount, div_div_eq_mul_div, mul_comm value, mul_div_assoc]

theorem raised_zoom (positive : 0 < factor) (value extent least : Rat) :
    raised value (factor * extent) (factor * least) = factor * raised value extent least := by
  rw [raised, raised, larger_mul positive, mul_ite]

theorem ribbon_zoom (positive : 0 < factor) (value scale least : Rat) :
    ribbon value (scale / factor) (factor * least) = factor * ribbon value scale least := by
  rw [ribbon, ribbon, ofCount_zoom, larger_mul positive, mul_ite, mul_zero]

theorem thickening_zoom (positive : 0 < factor) (value scale least : Rat) :
    thickening value (scale / factor) (factor * least) =
      factor * thickening value scale least := by
  rw [thickening, thickening, ofCount_zoom, ribbon_zoom positive, ← mul_sub,
    positivePart_mul positive, mul_ite, mul_zero]

end Extent

/-! ### Sizes and rows -/

namespace Node

variable {style : Style Rat}

theorem compensation_zoom (positive : 0 < factor) (values : List Rat) :
    compensation (style.zoom factor) values = factor * compensation style values := by
  rw [compensation_rat, compensation_rat, ← List.sum_map_mul_left]
  congr 2
  funext value
  exact Extent.thickening_zoom positive value style.scale style.leastLink

theorem extentOf_zoom (positive : 0 < factor) (count added : Rat) :
    extentOf (style.zoom factor) count (factor * added) = factor * extentOf style count added := by
  rw [extentOf, extentOf, ← Extent.raised_zoom positive, mul_add, ← Extent.ofCount_zoom]
  rfl

/-- The passengers on its links are counted at any magnification. -/
theorem size_zoom (positive : 0 < factor) (node : Node Rat) (values : List Rat) :
    node.size (style.zoom factor) values = (node.size style values).zoom factor := by
  simp only [size, Size.zoom, compensation_zoom positive, extentOf_zoom positive, ← mul_ite,
    ← mul_sub, positivePart_mul positive]
  rw [mul_ite (node.isOverflowing = true), mul_zero]

theorem sized_zoom (positive : 0 < factor) (values : NodeKey → List Rat) (node : Node Rat) :
    node.sized (style.zoom factor) values = (node.sized style values).zoom factor := by
  rw [sized, size_zoom positive]
  rfl

end Node

namespace Row

theorem tallest_zoom (positive : 0 < factor) (row : Row Rat) :
    (row.map fun _ => SizedNode.zoom factor).tallest = factor * row.tallest := by
  rw [tallest, members_map, List.map_map]
  exact largest_map_mul positive (fun member => member.2.size.backdrop) row.members

theorem reach_zoom (positive : 0 < factor) (row : Row Rat) :
    (row.map fun _ => SizedNode.zoom factor).reach = factor * row.reach := by
  rw [reach, members_map, List.map_map, reach, ← largest_map_mul positive]
  simp only [mul_add, ← mul_div_assoc]
  rfl

theorem start_zoom (positive : 0 < factor) (padding : Rat) (rank : Nat) (cursor : Rat)
    (row : Row Rat) :
    (row.map fun _ => SizedNode.zoom factor).start (factor * padding) rank (factor * cursor) =
      factor * row.start padding rank cursor := by
  have headroom : (row.map fun _ => SizedNode.zoom factor).headroom = factor * row.headroom := by
    rw [headroom, headroom, tallest_zoom positive, reach_zoom positive, mul_div_assoc, ← mul_sub,
      positivePart_mul positive]
  rw [start, start, headroom, mul_add, mul_add, mul_ite, mul_zero]

end Row

/-! ### Nodes -/

theorem LoadBar.ofAmounts_zoom (positive : 0 < factor) (baseline gap : Rat)
    (load capacity : Amount Rat) :
    ofAmounts (factor * baseline) ⟨load.count, factor * load.extent⟩
        ⟨capacity.count, factor * capacity.extent⟩ (factor * gap) =
      (ofAmounts baseline load capacity gap).zoom factor := by
  simp only [ofAmounts, ← mul_sub, positivePart_mul positive]
  split_ifs
  · simp only [zoom, BarPart.zoom, Option.map_none, mul_zero]
  · rfl

namespace PlacedNode

theorem overflowBar_zoom (positive : 0 < factor) (node : PlacedNode Rat) (gap : Rat) :
    (node.zoom factor).overflowBar (factor * gap) =
      (node.overflowBar gap).map (LoadBar.zoom factor) := by
  have bar := LoadBar.ofAmounts_zoom positive node.backdropEnd gap ⟨node.occupancy, node.bodyExtent⟩
    ⟨node.capacity, node.backdropExtent⟩
  have shown (bar : LoadBar Rat) : (bar.zoom factor).isOverflowing = bar.isOverflowing :=
    Option.isSome_map
  simp only [overflowBar, zoom, bar, shown]
  split_ifs <;> rfl

/-- A node is placed in the magnified row where the magnified drawing has it. -/
theorem ofSized_zoom (positive : 0 < factor) (style : Style Rat) (rank : Nat) (start tallest : Rat)
    (side : Side) (sized : SizedNode Rat) :
    ofSized (style.zoom factor) rank (factor * start) (factor * tallest) side (sized.zoom factor) =
      (ofSized style rank start tallest side sized).zoom factor := by
  -- The bar is made from the rest of the node, which is magnified before.
  let placed : PlacedNode Rat :=
    { ofSized style rank start tallest side sized with overflow := none }
  have bar := overflowBar_zoom positive placed style.overflowGap
  have unbarred : { ofSized (style.zoom factor) rank (factor * start) (factor * tallest) side
      (sized.zoom factor) with overflow := none } = placed.zoom factor := by
    simp only [ofSized, SizedNode.zoom, Size.zoom, ← mul_sub, mul_div_assoc, ← mul_add,
      positivePart_mul positive]
    rfl
  have barred : ofSized (style.zoom factor) rank (factor * start) (factor * tallest) side
      (sized.zoom factor) = { placed.zoom factor with
        overflow := (placed.zoom factor).overflowBar (factor * style.overflowGap) } := by
    rw [← unbarred]
    rfl
  rw [barred, bar]
  rfl

end PlacedNode

/-! ### Stacks and ribbons -/

namespace Stack

theorem carries_zoom (positive : 0 < factor) (style : Style Rat) :
    Carries style (style.zoom factor) (fun _ => SizedNode.zoom factor) (PlacedNode.zoom factor)
      (factor * ·) where
  alignment := rfl
  zero := mul_zero factor
  larger := larger_mul positive
  tallest := Row.tallest_zoom positive
  start := Row.start_zoom positive style.padding
  ofSized := PlacedNode.ofSized_zoom positive style
  side _ := rfl
  backdropEnd _ := rfl

end Stack

namespace Strand

/-- A magnified strand is drawn exactly if the strand is. -/
theorem ofLinks_zoom (positive : 0 < factor) (style : Style Rat) (links : List (Link Rat)) :
    ofLinks (style.zoom factor) links = (ofLinks style links).map (zoom factor) := by
  have strand (link : Link Rat) (index : Nat) :
      (⟨index, link, Extent.ribbon link.value (style.zoom factor).scale
        (style.zoom factor).leastLink⟩ : Strand Rat) =
      zoom factor ⟨index, link, Extent.ribbon link.value style.scale style.leastLink⟩ :=
    congrArg (Strand.mk index link) (Extent.ribbon_zoom positive _ _ _)
  have kept : (fun strand : Strand Rat => !decide (strand.extent ≤ 0)) ∘ zoom factor =
      fun strand => !decide (strand.extent ≤ 0) := by
    funext strand
    refine congrArg not (decide_eq_decide.mpr ?_)
    rw [zoom, ← not_lt, ← not_lt, mul_pos_iff_of_pos_left positive]
  simp only [ofLinks, strand]
  rw [← kept, ← List.filter_map, List.map_map, kept]
  rfl

theorem carries_zoom (factor : Rat) :
    Carries (PlacedNode.zoom factor) (zoom factor) id (factor * ·) where
  side _ := rfl
  rank _ := rfl
  index _ := rfl
  ends _ _ _ := Iff.rfl
  zero := mul_zero factor
  offset offset strand := (mul_add factor offset strand.extent).symm
  centre node offset strand := by
    show factor * node.bodyEnd - factor * offset - factor * strand.extent / 2 = _
    rw [mul_div_assoc, ← mul_sub, ← mul_sub]

theorem ribbons_zoom (positive : 0 < factor) (style : Style Rat) (stack : Stack Rat)
    (links : List (Link Rat)) :
    Ribbon.ofLinks (style.zoom factor) (stack.map (PlacedNode.zoom factor) (factor * ·)) links =
      (Ribbon.ofLinks style stack links).map (Ribbon.zoom factor) := by
  rw [Ribbon.ofLinks_eq_map, Ribbon.ofLinks_eq_map, ofLinks_zoom positive, List.map_map,
    List.map_map]
  apply List.map_congr_left
  intro strand _
  exact ribbon_map (carries_zoom factor) stack fun _ _ same => same

end Strand

/-! ### Diagrams -/

namespace Diagram

variable {sources targets : List (Node Rat)} {links : List (Link Rat)} {style : Style Rat}

theorem stack_zoom (positive : 0 < factor) :
    stack sources targets links (style.zoom factor) =
      (stack sources targets links style).map (PlacedNode.zoom factor) (factor * ·) := by
  have same (_ : Side) (sized : SizedNode Rat) : (sized.zoom factor).node = sized.node := rfl
  exact stack_map (Stack.carries_zoom positive style) same
    (fun side => Node.sized_zoom positive (Link.valuesAt side links)) sources targets

theorem layout_zoom (positive : 0 < factor) :
    layout sources targets links (style.zoom factor) =
      (layout sources targets links style).zoom factor := by
  have sides (stack : Stack Rat) (side : Side) :
      (stack.map (PlacedNode.zoom factor) (factor * ·)).onSide side =
        (stack.onSide side).map (PlacedNode.zoom factor) :=
    Stack.onSide_map (Stack.carries_zoom positive style).side stack side
  simp only [layout, stack_zoom positive, sides, Strand.ribbons_zoom positive, zoom, mul_add]
  rfl

/-- A valid style stays so, and the other checks do not read a length of it. -/
theorem check_zoom (positive : 0 < factor) (valid : style.check = .ok ()) :
    check sources targets links (style.zoom factor) = check sources targets links style := by
  have magnified : (style.zoom factor).check = .ok () :=
    Style.check_eq_ok_iff.mpr ((Style.check_eq_ok_iff.mp valid).zoom positive)
  exact check_congr_style rfl valid magnified

/-- A magnified style draws the magnified diagram, and refuses what the style refuses, for the same
fault. -/
theorem draw_zoom (positive : 0 < factor) (valid : style.check = .ok ()) :
    draw sources targets links (style.zoom factor) =
      (draw sources targets links style).map (zoom factor) := by
  simp only [draw, check_zoom positive valid, layout_zoom positive]
  cases check (Node.kept sources) (Node.kept targets) links style <;> rfl

/-- At three times the size the overflow of the crowded trip, its ribbons and the whole diagram are
three times as long. A trip without a proper number of places is refused as before. -/
theorem draw_zoom_crowdedStation :
    ∃ diagram, draw crowdedStation.sources crowdedStation.targets crowdedStation.links
        (Style.plain .paired) = .ok diagram ∧
      diagram.sources.map (fun node => node.overflow.map (·.overflowExtent)) =
        [some (5 / 2), none] ∧
      draw crowdedStation.sources crowdedStation.targets crowdedStation.links
        ((Style.plain .paired).zoom 3) = .ok (diagram.zoom 3) ∧
      (diagram.zoom 3).sources.map (fun node => node.overflow.map (·.overflowExtent)) =
        [some (15 / 2), none] ∧
      draw (faultyStation (-2)).sources (faultyStation (-2)).targets (faultyStation (-2)).links
        ((Style.plain .paired).zoom 3) =
          .error (.negative .capacity (.node .source (.real ⟨"a"⟩)) (-1)) := by
  have valid : (Style.plain .paired).check = .ok () := by decide +kernel
  have drawn := draw_eq_ok_layout (by decide +kernel :
    check (Node.kept crowdedStation.sources) (Node.kept crowdedStation.targets)
      crowdedStation.links (Style.plain .paired) = .ok ())
  have refused : draw (faultyStation (-2)).sources (faultyStation (-2)).targets
      (faultyStation (-2)).links (Style.plain .paired) =
        .error (.negative .capacity (.node .source (.real ⟨"a"⟩)) (-1)) := by cbv
  refine ⟨_, drawn, by cbv, ?_, by cbv, ?_⟩
  · rw [draw_zoom (by norm_num) valid, drawn]
    rfl
  · rw [draw_zoom (by norm_num) valid, refused]
    rfl

end Diagram

end TransitDiagram
