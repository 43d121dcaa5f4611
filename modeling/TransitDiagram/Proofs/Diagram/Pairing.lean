import TransitDiagram.Proofs.Diagram.Arrangement

/-!
# Paired rows

Under paired alignment the two sides of a diagram line up. Their rows are numbered together, one row
for every key (`Diagram.HasSharedRows`), and in exact arithmetic the backdrops of a row are centred
on each other (`Diagram.IsCentred`).
-/

namespace TransitDiagram

open Quantity

/-! ### Middles -/

namespace PlacedNode

/-- The middle of a node's backdrop. -/
def middle (node : PlacedNode Rat) : Rat :=
  (node.backdropStart + node.backdropEnd) / 2

/-- A backdrop that reaches as far above a coordinate as below it. -/
structure IsAround (node : PlacedNode Rat) (middle : Rat) : Prop where
  start_eq : node.backdropStart = middle - node.backdropExtent / 2
  end_eq : node.backdropEnd = middle + node.backdropExtent / 2

variable {node other : PlacedNode Rat} {middle : Rat}

theorem IsAround.middle_eq (around : node.IsAround middle) : node.middle = middle := by
  rw [PlacedNode.middle, around.start_eq, around.end_eq]
  ring

theorem IsAround.inside (around : node.IsAround middle) (around' : other.IsAround middle)
    (smaller : node.backdropExtent ≤ other.backdropExtent) :
    other.backdropStart ≤ node.backdropStart ∧ node.backdropEnd ≤ other.backdropEnd := by
  rw [around.start_eq, around.end_eq, around'.start_eq, around'.end_eq]
  constructor <;> linarith

/-- Every node of a row lies around the middle of the tallest one. -/
theorem isAround_ofSized (style : Style Rat) (rank : Nat) (rowStart tallest : Rat) (side : Side)
    (sized : SizedNode Rat) :
    (ofSized style rank rowStart tallest side sized).IsAround (rowStart + tallest / 2) := by
  constructor
  · show rowStart + (tallest - sized.size.backdrop) / 2 =
      rowStart + tallest / 2 - sized.size.backdrop / 2
    ring
  · show rowStart + (tallest - sized.size.backdrop) / 2 + sized.size.backdrop =
      rowStart + tallest / 2 + sized.size.backdrop / 2
    ring

end PlacedNode

/-! ### Shared rows -/

namespace Diagram

/-- Sides whose rows are numbered together: from the top without a gap, as many as there are
different keys. A row has a node of each side only if their keys are the same. -/
structure HasSharedRows {α : Type} (keys : List NodeKey) (diagram : Diagram α) : Prop where
  exists_rank_iff : ∀ rank, (∃ side, ∃ node ∈ diagram.onSide side, node.rank = rank) ↔
    rank < keys.toFinset.card
  increasing : ∀ side, (diagram.onSide side).Pairwise fun above below => above.rank < below.rank
  rank_eq_iff : ∀ source ∈ diagram.sources, ∀ target ∈ diagram.targets,
    source.rank = target.rank ↔ source.key = target.key

/-- Backdrops of one rank have one middle, so that a smaller one stays inside a larger one. -/
structure IsCentred (diagram : Diagram Rat) : Prop where
  middle_eq : ∀ node ∈ diagram.sources ++ diagram.targets,
    ∀ other ∈ diagram.sources ++ diagram.targets,
      node.rank = other.rank → node.middle = other.middle
  inside : ∀ node ∈ diagram.sources ++ diagram.targets,
    ∀ other ∈ diagram.sources ++ diagram.targets,
      node.rank = other.rank → node.backdropExtent ≤ other.backdropExtent →
        other.backdropStart ≤ node.backdropStart ∧ node.backdropEnd ≤ other.backdropEnd

section Rows

variable {α : Type} [Quantity α] {sources targets : List (Node α)} {links : List (Link α)}
  {style : Style α}

/-- The keys of the rows of paired sides, from top to bottom. -/
def rowKeys (sources targets : List (Node α)) (links : List (Link α)) (style : Style α) :
    List NodeKey :=
  (leadersOf sources targets links style .source).map (·.key)

theorem rowKeys_perm (drawable : IsDrawable sources targets links style)
    (paired : style.alignment = .paired) :
    (rowKeys sources targets links style).Perm ((Node.leaders sources targets).map (·.key)) :=
  (isStacked_leadersOf_paired drawable paired .source).perm.map _

theorem nodup_rowKeys (drawable : IsDrawable sources targets links style)
    (paired : style.alignment = .paired) : (rowKeys sources targets links style).Nodup := by
  rw [(rowKeys_perm drawable paired).nodup_iff]
  exact Node.nodup_key_leaders drawable.areDrawable_sources.nodup_key
    drawable.areDrawable_targets.nodup_key

theorem mem_rowKeys_iff (drawable : IsDrawable sources targets links style)
    (paired : style.alignment = .paired) {key : NodeKey} :
    key ∈ rowKeys sources targets links style ↔
      ∃ side : Side, key ∈ (side.pick sources targets).map (·.key) := by
  rw [(rowKeys_perm drawable paired).mem_iff, Node.mem_keys_leaders]
  constructor
  · rintro (led | alone)
    · exact ⟨.source, led⟩
    · exact ⟨.target, alone⟩
  · rintro ⟨side, given⟩
    cases side with
    | source => exact .inl given
    | target => exact .inr given

/-- There are as many rows as different keys. -/
theorem length_rowKeys (drawable : IsDrawable sources targets links style)
    (paired : style.alignment = .paired) :
    (rowKeys sources targets links style).length =
      ((sources ++ targets).map (·.key)).toFinset.card := by
  rw [← List.toFinset_card_of_nodup (nodup_rowKeys drawable paired)]
  congr 1
  ext key
  rw [List.mem_toFinset, List.mem_toFinset, (rowKeys_perm drawable paired).mem_iff,
    Node.mem_keys_leaders, List.map_append, List.mem_append]

theorem getElem?_rowKeys (paired : style.alignment = .paired) {side : Side} {node : PlacedNode α}
    (member : node ∈ (layout sources targets links style).onSide side) :
    (rowKeys sources targets links style)[node.rank]? = some node.key := by
  rw [rowKeys, leadersOf, rowsOf_eq_of_paired paired .source side]
  exact getElem?_leadersOf member

/-- The rank of a node is the position of its key. -/
theorem rank_eq_iff_key_eq (drawable : IsDrawable sources targets links style)
    (paired : style.alignment = .paired) {side side' : Side} {node other : PlacedNode α}
    (member : node ∈ (layout sources targets links style).onSide side)
    (member' : other ∈ (layout sources targets links style).onSide side') :
    node.rank = other.rank ↔ node.key = other.key := by
  have here := getElem?_rowKeys paired member
  have there := getElem?_rowKeys paired member'
  constructor
  · intro same
    rw [same, there] at here
    exact (Option.some.inj here).symm
  · intro same
    rw [← same, ← here] at there
    obtain ⟨bound, -⟩ := List.getElem?_eq_some_iff.mp here
    exact (List.getElem?_inj bound (nodup_rowKeys drawable paired)).mp there.symm

/-- Every row shows a node. -/
theorem exists_rank_eq_iff (drawable : IsDrawable sources targets links style)
    (paired : style.alignment = .paired) (rank : Nat) :
    (∃ side, ∃ node ∈ (layout sources targets links style).onSide side, node.rank = rank) ↔
      rank < (rowKeys sources targets links style).length := by
  constructor
  · rintro ⟨side, node, member, rfl⟩
    obtain ⟨bound, -⟩ := List.getElem?_eq_some_iff.mp (getElem?_rowKeys paired member)
    exact bound
  · intro bound
    obtain ⟨side, given⟩ := (mem_rowKeys_iff drawable paired).mp (List.getElem_mem bound)
    obtain ⟨node, member, key⟩ := List.mem_map.mp ((map_key_perm drawable side).mem_iff.mpr given)
    have found := getElem?_rowKeys paired member
    obtain ⟨bound', -⟩ := List.getElem?_eq_some_iff.mp found
    refine ⟨side, node, member, (List.getElem?_inj bound' (nodup_rowKeys drawable paired)).mp ?_⟩
    rw [found, key, List.getElem?_eq_getElem bound]

theorem hasSharedRows_layout (drawable : IsDrawable sources targets links style)
    (paired : style.alignment = .paired) :
    HasSharedRows ((sources ++ targets).map (·.key)) (layout sources targets links style) := by
  constructor
  · intro rank
    rw [exists_rank_eq_iff drawable paired, length_rowKeys drawable paired]
  · exact pairwise_rank_onSide sources targets links style
  · intro source placed target placed'
    have left : source ∈ (layout sources targets links style).onSide .source := placed
    have right : target ∈ (layout sources targets links style).onSide .target := placed'
    exact rank_eq_iff_key_eq drawable paired left right

end Rows

/-! ### Centred rows -/

section Exact

variable {sources targets : List (Node Rat)} {links : List (Link Rat)} {style : Style Rat}

/-- A node lies around the middle of the row that its rank numbers. -/
theorem exists_isAround (paired : style.alignment = .paired) {node : PlacedNode Rat}
    (member : node ∈ (layout sources targets links style).sources ++
      (layout sources targets links style).targets) :
    ∃ row, (rowsOf sources targets links style .source)[node.rank]? = some row ∧
      node.IsAround (Stack.rowStart style (rowsOf sources targets links style .source) node.rank
        row + row.tallest / 2) := by
  obtain ⟨side, member⟩ : ∃ side, node ∈ (layout sources targets links style).onSide side := by
    rcases List.mem_append.mp member with left | right
    · exact ⟨.source, left⟩
    · exact ⟨.target, right⟩
  rw [onSide_layout, rowsOf_eq_of_paired paired side .source] at member
  obtain ⟨rank, row, sized, found, -, rfl⟩ := Stack.mem_onSide_ofRows_iff.mp member
  exact ⟨row, found, PlacedNode.isAround_ofSized style rank _ _ side sized⟩

theorem isCentred_layout (paired : style.alignment = .paired) :
    (layout sources targets links style).IsCentred := by
  -- One rank numbers one row, and that row has one middle.
  have shared : ∀ node ∈ (layout sources targets links style).sources ++
      (layout sources targets links style).targets,
      ∀ other ∈ (layout sources targets links style).sources ++
        (layout sources targets links style).targets,
        node.rank = other.rank → ∃ middle, node.IsAround middle ∧ other.IsAround middle := by
    intro node member other member' same
    obtain ⟨row, found, around⟩ := exists_isAround paired member
    obtain ⟨row', found', around'⟩ := exists_isAround paired member'
    rw [← same, found] at found'
    obtain rfl := Option.some.inj found'
    rw [← same] at around'
    exact ⟨_, around, around'⟩
  constructor
  · intro node member other member' same
    obtain ⟨middle, around, around'⟩ := shared node member other member' same
    rw [around.middle_eq, around'.middle_eq]
  · intro node member other member' same smaller
    obtain ⟨middle, around, around'⟩ := shared node member other member' same
    exact around.inside around' smaller

end Exact

/-- Paired sides line up: their rows are numbered together, one for every key that is kept, and in
exact arithmetic the backdrops of a row are centred on each other. -/
theorem draw_linedUp :
    (∀ (α : Type) [Quantity α] (sources targets : List (Node α)) (links : List (Link α))
      (style : Style α) (diagram : Diagram α), style.alignment = .paired →
        draw sources targets links style = .ok diagram →
          diagram.HasSharedRows ((Node.kept sources ++ Node.kept targets).map (·.key))) ∧
      ∀ (sources targets : List (Node Rat)) (links : List (Link Rat)) (style : Style Rat)
        (diagram : Diagram Rat), style.alignment = .paired →
          draw sources targets links style = .ok diagram → diagram.IsCentred := by
  constructor
  · intro α _ sources targets links style diagram paired drawn
    obtain ⟨drawable, rfl⟩ := draw_eq_ok_iff.mp drawn
    exact hasSharedRows_layout drawable paired
  · intro sources targets links style diagram paired drawn
    obtain ⟨-, rfl⟩ := draw_eq_ok_iff.mp drawn
    exact isCentred_layout paired

/-- Trips that are given from the last to the first one. The first of them is overcrowded where it
arrives, has far fewer places where it departs, and departs after all the others. -/
def reversedStation : Network Rat where
  sources := [⟨.real ⟨"c"⟩, 30, 4, 8⟩, ⟨.sentinel .boarding, 0, 0, 0⟩, ⟨.real ⟨"a"⟩, 10, 60, 40⟩]
  targets := [⟨.real ⟨"a"⟩, 90, 4, 12⟩, ⟨.real ⟨"b"⟩, 20, 4, 8⟩]
  links := [⟨0, .real ⟨"a"⟩, .real ⟨"b"⟩, 4⟩]

/-- The first trip leads on both sides, and its two backdrops have one middle. -/
theorem draw_linedUp_reversedStation :
    ∃ diagram, draw reversedStation.sources reversedStation.targets reversedStation.links
        (Style.plain .paired) = .ok diagram ∧
      diagram.sources.map (fun node => (node.key, node.rank, node.backdropStart, node.backdropEnd))
        = [(.real ⟨"a"⟩, 0, 5, 16), (.real ⟨"c"⟩, 2, 59, 61)] ∧
      diagram.targets.map (fun node => (node.key, node.rank, node.backdropStart, node.backdropEnd))
        = [(.real ⟨"a"⟩, 0, 9, 12), (.real ⟨"b"⟩, 1, 36, 39)] ∧
      diagram.HasSharedRows [.real ⟨"c"⟩, .real ⟨"a"⟩, .real ⟨"a"⟩, .real ⟨"b"⟩] ∧
      diagram.IsCentred := by
  have drawn := draw_eq_ok_layout (by decide +kernel :
    check (Node.kept reversedStation.sources) (Node.kept reversedStation.targets)
      reversedStation.links (Style.plain .paired) = .ok ())
  exact ⟨_, drawn, by cbv, by cbv, draw_linedUp.1 Rat _ _ _ _ _ rfl drawn,
    draw_linedUp.2 _ _ _ _ _ rfl drawn⟩

end Diagram

end TransitDiagram
