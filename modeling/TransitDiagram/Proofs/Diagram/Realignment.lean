import TransitDiagram.Proofs.Diagram.Slices
import TransitDiagram.Proofs.Diagram.TotalExtent

/-!
# Switching the alignment

Whether the sides of a diagram share their rows decides where its nodes and ribbons are placed, and
nothing else: a diagram can be drawn under both alignments or under neither, and the two drawings
have the same content (`Diagram.SameContent`). In exact arithmetic the paired one is at least as
long, since its rows have room for the nodes of either side.
-/

namespace TransitDiagram

open Quantity

section Content

variable {α : Type} [Quantity α]

omit [Quantity α] in
/-- The style with another alignment. -/
def Style.align (style : Style α) (alignment : Alignment) : Style α :=
  { style with alignment := alignment }

omit [Quantity α] in
theorem Style.alignment_align {style : Style α} {alignment : Alignment} :
    (style.align alignment).alignment = alignment := rfl

/-- A node without its place: its row, its coordinates and those of its bar. -/
def PlacedNode.unplaced (node : PlacedNode α) : PlacedNode α :=
  { node with
    rank := 0
    backdropStart := 0
    backdropEnd := 0
    bodyStart := 0
    bodyEnd := 0
    overflow := none }

/-- A ribbon without its places at the nodes. -/
def Ribbon.unplaced (ribbon : Ribbon α) : Ribbon α :=
  { ribbon with
    offsetAtSource := 0
    offsetAtTarget := 0
    orderAtSource := 0
    orderAtTarget := 0 }

namespace Diagram

/-- Diagrams that show the same nodes on each side, the same ribbons in the same order, and the same
loose ends, apart from their places. -/
structure SameContent (diagram other : Diagram α) : Prop where
  nodes : ∀ side, ((diagram.onSide side).map PlacedNode.unplaced).Perm
    ((other.onSide side).map PlacedNode.unplaced)
  ribbons : diagram.ribbons.map Ribbon.unplaced = other.ribbons.map Ribbon.unplaced
  looseEnds : diagram.looseEnds = other.looseEnds

variable {sources targets : List (Node α)} {links : List (Link α)} {style : Style α}

/-- No check looks at the alignment. -/
theorem check_align (alignment : Alignment) :
    check sources targets links (style.align alignment) = check sources targets links style := rfl

theorem isDrawable_align_iff {alignment : Alignment} :
    IsDrawable sources targets links (style.align alignment) ↔
      IsDrawable sources targets links style := by
  rw [← check_eq_ok_iff, check_align, check_eq_ok_iff]

theorem rowsOf_align_perm (drawable : IsDrawable sources targets links style)
    (alignment : Alignment) (side : Side) :
    ((rowsOf sources targets links (style.align alignment) side).filterMap
        (Row.member? side)).Perm
      ((side.pick sources targets).map (sizedNode sources targets links style side)) :=
  rowsOf_perm (isDrawable_align_iff.mpr drawable) side

/-- Apart from its place, a node is what its size makes of it. -/
theorem map_unplaced_onSide_perm (drawable : IsDrawable sources targets links style)
    (alignment : Alignment) (side : Side) :
    (((layout sources targets links (style.align alignment)).onSide side).map
        PlacedNode.unplaced).Perm
      (((side.pick sources targets).map (sizedNode sources targets links style side)).map
        fun sized => (PlacedNode.ofSized style 0 0 0 side sized).unplaced) := by
  have same (rank : Nat) (start tallest : α) (sized : SizedNode α) :
      (PlacedNode.ofSized (style.align alignment) rank start tallest side sized).unplaced =
        (PlacedNode.ofSized style 0 0 0 side sized).unplaced := rfl
  rw [onSide_layout, Stack.map_onSide_ofRows _ same]
  exact (rowsOf_align_perm drawable alignment side).map _

theorem sameContent_align (drawable : IsDrawable sources targets links style)
    (alignment other : Alignment) :
    SameContent (layout sources targets links (style.align alignment))
      (layout sources targets links (style.align other)) := by
  constructor
  · intro side
    exact (map_unplaced_onSide_perm drawable alignment side).trans
      (map_unplaced_onSide_perm drawable other side).symm
  · rw [ribbons_layout, ribbons_layout, List.map_map, List.map_map]
    rfl
  · rfl

end Diagram

end Content

/-! ### The longer alignment -/

namespace Diagram

variable {sources targets : List (Node Rat)} {links : List (Link Rat)} {style : Style Rat}

/-- The rows of both sides together take no less than those of one side alone. -/
theorem sum_depth_align_le (drawable : IsDrawable sources targets links style) (side : Side) :
    ((rowsOf sources targets links (style.align .independent) side).map Row.depth).sum ≤
      ((rowsOf sources targets links (style.align .paired) side).map Row.depth).sum := by
  have proper := isProper_of_mem_rowsOf (isDrawable_align_iff.mpr drawable :
    IsDrawable sources targets links (style.align .paired)) side
  have alone := map_depth_rowsOf_of_independent (isDrawable_align_iff.mpr drawable :
    IsDrawable sources targets links (style.align .independent)) Style.alignment_align side
  have nodes := (rowsOf_align_perm drawable .independent side).trans
    (rowsOf_align_perm drawable .paired side).symm
  rw [alone, (nodes.map (·.size.room)).sum_eq]
  exact sum_map_filterMap_le (fun row given => Row.depth_nonneg (proper row given))
    fun row given sized present => Row.room_le_depth (proper row given) present

theorem length_rowsOf_align_le (drawable : IsDrawable sources targets links style) (side : Side) :
    (rowsOf sources targets links (style.align .independent) side).length ≤
      (rowsOf sources targets links (style.align .paired) side).length := by
  have nodes := (rowsOf_align_perm drawable .independent side).trans
    (rowsOf_align_perm drawable .paired side).symm
  rw [filterMap_member?_rowsOf Style.alignment_align] at nodes
  calc (rowsOf sources targets links (style.align .independent) side).length
      = _ := (List.length_map Row.leader).symm
    _ = _ := nodes.length_eq
    _ ≤ _ := List.length_filterMap_le _ _

theorem bottom_align_le (drawable : IsDrawable sources targets links style) (side : Side) :
    (Stack.ofRows (style.align .independent)
        (rowsOf sources targets links (style.align .independent) side)).bottom ≤
      (Stack.ofRows (style.align .paired)
        (rowsOf sources targets links (style.align .paired) side)).bottom := by
  have padding := drawable.isDrawable_style.padding_nonneg
  have bottom (alignment : Alignment) :
      (Stack.ofRows (style.align alignment)
          (rowsOf sources targets links (style.align alignment) side)).bottom =
        ((rowsOf sources targets links (style.align alignment) side).map Row.depth).sum +
          ((rowsOf sources targets links (style.align alignment) side).length - 1 : Nat) *
            style.padding :=
    Stack.bottom_ofRows_eq padding (isProper_of_mem_rowsOf (isDrawable_align_iff.mpr drawable) side)
  have rows := Nat.sub_le_sub_right (length_rowsOf_align_le drawable side) 1
  rw [bottom, bottom]
  gcongr
  exact sum_depth_align_le drawable side

theorem totalExtent_align_le (drawable : IsDrawable sources targets links style) :
    (layout sources targets links (style.align .independent)).totalExtent ≤
      (layout sources targets links (style.align .paired)).totalExtent := by
  rw [totalExtent_layout_of_independent Style.alignment_align,
    totalExtent_layout_of_paired Style.alignment_align .source]
  refine add_le_add_left (max_le (bottom_align_le drawable .source) ?_) style.padding
  -- Paired sides are placed from the same rows.
  rw [rowsOf_eq_of_paired Style.alignment_align .source .target]
  exact bottom_align_le drawable .target

/-- Whether its sides are paired does not decide whether a diagram can be drawn, nor what it shows.
Either both drawings are refused with the same fault, or both are made with the same content; in
exact arithmetic the paired one is at least as long. -/
theorem draw_align :
    (∀ (α : Type) [Quantity α] (sources targets : List (Node α)) (links : List (Link α))
      (style : Style α) (alignment other : Alignment),
        (∃ fault, draw sources targets links (style.align alignment) = .error fault ∧
          draw sources targets links (style.align other) = .error fault) ∨
        ∃ first second, draw sources targets links (style.align alignment) = .ok first ∧
          draw sources targets links (style.align other) = .ok second ∧
          first.SameContent second) ∧
      ∀ (sources targets : List (Node Rat)) (links : List (Link Rat)) (style : Style Rat)
        (paired independent : Diagram Rat),
          draw sources targets links (style.align .paired) = .ok paired →
            draw sources targets links (style.align .independent) = .ok independent →
              independent.totalExtent ≤ paired.totalExtent := by
  constructor
  · intro α _ sources targets links style alignment other
    cases checked : check (Node.kept sources) (Node.kept targets) links style with
    | error fault =>
      refine .inl ⟨fault, ?_, ?_⟩
      · rw [draw, check_align, checked]
        rfl
      · rw [draw, check_align, checked]
        rfl
    | ok accepted =>
      have drawable := check_eq_ok_iff.mp checked
      exact .inr ⟨_, _, draw_eq_ok_iff.mpr ⟨isDrawable_align_iff.mpr drawable, rfl⟩,
        draw_eq_ok_iff.mpr ⟨isDrawable_align_iff.mpr drawable, rfl⟩,
        sameContent_align drawable alignment other⟩
  · intro sources targets links style paired independent drawn drawn'
    obtain ⟨drawable, rfl⟩ := draw_eq_ok_iff.mp drawn
    obtain ⟨-, rfl⟩ := draw_eq_ok_iff.mp drawn'
    exact totalExtent_align_le (isDrawable_align_iff.mp drawable)

/-- The trips that are given from the last to the first one change places on the target side, and
their rows are shorter when they are not shared. -/
theorem draw_align_reversedStation :
    ∃ paired independent,
      draw reversedStation.sources reversedStation.targets reversedStation.links
        ((Style.plain .paired).align .paired) = .ok paired ∧
      draw reversedStation.sources reversedStation.targets reversedStation.links
        ((Style.plain .paired).align .independent) = .ok independent ∧
      paired.SameContent independent ∧
      paired.targets.map (·.key) = [.real ⟨"a"⟩, .real ⟨"b"⟩] ∧
      independent.targets.map (·.key) = [.real ⟨"b"⟩, .real ⟨"a"⟩] ∧
      independent.totalExtent ≤ paired.totalExtent := by
  have paired := draw_eq_ok_layout (by decide +kernel :
    check (Node.kept reversedStation.sources) (Node.kept reversedStation.targets)
      reversedStation.links ((Style.plain .paired).align .paired) = .ok ())
  have independent := draw_eq_ok_layout (by decide +kernel :
    check (Node.kept reversedStation.sources) (Node.kept reversedStation.targets)
      reversedStation.links ((Style.plain .paired).align .independent) = .ok ())
  obtain ⟨agree, longer⟩ := draw_align
  refine ⟨_, _, paired, independent, ?_, by cbv, by cbv, longer _ _ _ _ _ _ paired independent⟩
  rcases agree Rat reversedStation.sources reversedStation.targets reversedStation.links
    (Style.plain .paired) .paired .independent with
    ⟨fault, refused, -⟩ | ⟨first, second, drawn, drawn', same⟩
  · rw [paired] at refused
    cases refused
  · rw [paired] at drawn
    rw [independent] at drawn'
    obtain rfl := Except.ok.inj drawn
    obtain rfl := Except.ok.inj drawn'
    exact same

end Diagram

end TransitDiagram
