import TransitDiagram.Proofs.Diagram.Packing
import TransitDiagram.Proofs.Diagram.Slices

/-!
# What becomes of a link

Every link of a diagram has one of three fates. If one of its ends is unknown it is reported as
loose; otherwise it is shown as a ribbon, unless it is for nobody. Ribbons and reports stand in the
order of the links (`Diagram.AccountsFor`), and each place in that order counts for itself: nothing
depends on the ids of the links, which may repeat.
-/

namespace TransitDiagram

open Quantity

/-- Number types in which zero is at most zero. -/
class ReflexiveZero (α : Type) [Quantity α] : Prop where
  zero_le_zero : (0 : α) ≤ 0

instance : ReflexiveZero Rat where
  zero_le_zero := le_rfl

instance : ReflexiveZero Float where
  zero_le_zero := by decide

namespace Ribbon

variable {α : Type}

/-- The link that a ribbon shows. -/
def link (ribbon : Ribbon α) : Link α :=
  ⟨ribbon.id, ribbon.source, ribbon.target, ribbon.value⟩

end Ribbon

namespace Strand

variable {α : Type} [Quantity α]

theorem link_ribbon (stack : Stack α) (strands : List (Strand α)) (strand : Strand α) :
    (ribbon stack strands strand).link = strand.link := rfl

/-- The strands are the links that are thick enough to be seen, in order. -/
theorem map_link_ofLinks (style : Style α) (links : List (Link α)) :
    (ofLinks style links).map (·.link) =
      links.filter fun link => ¬ Extent.ribbon link.value style.scale style.leastLink ≤ 0 := by
  conv_rhs => rw [← List.zipIdx_map_fst 0 links]
  rw [ofLinks, List.filter_map, List.map_map, List.filter_map]
  simp only [Function.comp_def, decide_not]

end Strand

namespace Diagram

/-- A diagram that shows or reports links in their order: those that are connected and `visible` as
ribbons, and those that are not connected as loose ends. -/
structure AccountsFor {α : Type} (sources targets : List (Node α)) (links : List (Link α))
    (visible : Link α → Prop) [DecidablePred visible] (diagram : Diagram α) : Prop where
  ribbons : diagram.ribbons.map Ribbon.link =
    links.filter fun link => link.IsConnected sources targets ∧ visible link
  looseEnds : List.Forall₂ (LooseEnd.Reports sources)
    (links.filter (¬ Link.IsConnected sources targets ·)) diagram.looseEnds

section Quantities

variable {α : Type} [Quantity α] {sources targets : List (Node α)} {links : List (Link α)}
  {style : Style α}

theorem map_link_ribbons_layout :
    (layout sources targets links style).ribbons.map Ribbon.link =
      links.filter fun link => link.IsConnected sources targets ∧
        ¬ Extent.ribbon link.value style.scale style.leastLink ≤ 0 := by
  have shown : Ribbon.link ∘ ribbonOf sources targets links style = (·.link) := by
    funext strand
    exact Strand.link_ribbon _ _ strand
  rw [ribbons_layout, List.map_map, shown, strandsOf, Strand.map_link_ofLinks,
    Link.connected_eq_filter, List.filter_filter]
  apply List.filter_congr
  intro link _
  rw [Bool.decide_and, Bool.and_comm]

theorem extent_of_mem_ribbons_layout {ribbon : Ribbon α}
    (member : ribbon ∈ (layout sources targets links style).ribbons) :
    ribbon.extent = Extent.ribbon ribbon.value style.scale style.leastLink := by
  rw [ribbons_layout] at member
  obtain ⟨strand, drawn, rfl⟩ := List.mem_map.mp member
  exact (Strand.of_mem_ofLinks drawn).2.1

/-- A link for nobody has no ribbon. -/
theorem not_value_le_zero_of_mem_ribbons_layout [ReflexiveZero α] {ribbon : Ribbon α}
    (member : ribbon ∈ (layout sources targets links style).ribbons) : ¬ ribbon.value ≤ 0 := by
  intro nobody
  rw [ribbons_layout] at member
  obtain ⟨strand, drawn, rfl⟩ := List.mem_map.mp member
  obtain ⟨-, extent, visible⟩ := Strand.of_mem_ofLinks drawn
  apply visible
  have nobody : strand.link.value ≤ 0 := nobody
  rw [extent, Extent.ribbon, if_pos nobody]
  exact ReflexiveZero.zero_le_zero

theorem accountsFor_layout :
    AccountsFor sources targets links
      (fun link => ¬ Extent.ribbon link.value style.scale style.leastLink ≤ 0)
      (layout sources targets links style) :=
  ⟨map_link_ribbons_layout, Link.forall₂_reports links⟩

/-- Links are accepted for their values alone. -/
theorem IsDrawable.congr_links (drawable : IsDrawable sources targets links style)
    {links' : List (Link α)} (same : links'.map (·.value) = links.map (·.value)) :
    IsDrawable sources targets links' style := by
  refine { drawable with isCount_link := ?_ }
  intro link member
  have value : link.value ∈ links.map (·.value) := by
    rw [← same]
    exact List.mem_map_of_mem member
  obtain ⟨twin, given, eq⟩ := List.mem_map.mp value
  rw [← eq]
  exact drawable.isCount_link twin given

end Quantities

/-- In exact arithmetic the links that are seen are those with passengers. -/
theorem map_link_ribbons_layout_rat {sources targets : List (Node Rat)} {links : List (Link Rat)}
    {style : Style Rat} (drawable : style.IsDrawable) :
    (layout sources targets links style).ribbons.map Ribbon.link =
      links.filter fun link => link.IsConnected sources targets ∧ 0 < link.value := by
  rw [map_link_ribbons_layout]
  apply List.filter_congr
  intro link _
  simp only [not_le, Extent.ribbon_pos_iff drawable.scale_pos]

/-- Every link has one fate. In the order of the links a diagram has a ribbon of each connected link
that is thick enough to be seen, unchanged and as thick as its passengers ask for, and a report of
each link with an unknown end. A link for nobody is never seen, in any number type in which zero is
at most zero, and in exact arithmetic every connected link with passengers is. Links are accepted
whatever their ids and ends are. -/
theorem draw_accountsFor :
    (∀ (α : Type) [Quantity α] (sources targets : List (Node α)) (links : List (Link α))
      (style : Style α) (diagram : Diagram α), draw sources targets links style = .ok diagram →
        AccountsFor (Node.kept sources) (Node.kept targets) links
            (fun link => ¬ Extent.ribbon link.value style.scale style.leastLink ≤ 0) diagram ∧
          (∀ ribbon ∈ diagram.ribbons,
            ribbon.extent = Extent.ribbon ribbon.value style.scale style.leastLink) ∧
          (∀ [ReflexiveZero α], ∀ ribbon ∈ diagram.ribbons, ¬ ribbon.value ≤ 0) ∧
          ∀ links' : List (Link α), links'.map (·.value) = links.map (·.value) →
            ∃ diagram', draw sources targets links' style = .ok diagram') ∧
      ∀ (sources targets : List (Node Rat)) (links : List (Link Rat)) (style : Style Rat)
        (diagram : Diagram Rat), draw sources targets links style = .ok diagram →
          AccountsFor (Node.kept sources) (Node.kept targets) links (fun link => 0 < link.value)
            diagram := by
  constructor
  · intro α _ sources targets links style diagram drawn
    obtain ⟨drawable, rfl⟩ := draw_eq_ok_iff.mp drawn
    refine ⟨accountsFor_layout, fun ribbon member => extent_of_mem_ribbons_layout member,
      fun ribbon member => not_value_le_zero_of_mem_ribbons_layout member, ?_⟩
    intro links' same
    exact ⟨_, draw_eq_ok_iff.mpr ⟨drawable.congr_links same, rfl⟩⟩
  · intro sources targets links style diagram drawn
    obtain ⟨drawable, rfl⟩ := draw_eq_ok_iff.mp drawn
    exact ⟨map_link_ribbons_layout_rat drawable.isDrawable_style, Link.forall₂_reports links⟩

/-- Links of one id, some of them with an unknown end, and one link for nobody between others. -/
def looseStation : Network Rat where
  sources := [⟨.real ⟨"a"⟩, 10, 8, 20⟩, ⟨.sentinel .boarding, 0, 0, 0⟩]
  targets := [⟨.real ⟨"b"⟩, 20, 9, 20⟩]
  links := [⟨7, .real ⟨"x"⟩, .real ⟨"b"⟩, 1⟩, ⟨7, .real ⟨"a"⟩, .real ⟨"b"⟩, 3⟩,
    ⟨7, .real ⟨"a"⟩, .real ⟨"y"⟩, 2⟩, ⟨1, .real ⟨"a"⟩, .real ⟨"b"⟩, 0⟩,
    ⟨7, .real ⟨"a"⟩, .real ⟨"b"⟩, 5⟩, ⟨2, .sentinel .boarding, .real ⟨"y"⟩, 1⟩]

/-- Two of the links are seen, and three are loose: the last one at its source, since nobody boards.
With other ids they are accepted as well. -/
theorem draw_accountsFor_looseStation :
    ∃ diagram, draw looseStation.sources looseStation.targets looseStation.links
        (Style.plain .paired) = .ok diagram ∧
      diagram.ribbons.map (fun ribbon => (ribbon.id, ribbon.value, ribbon.extent)) =
        [(7, 3, 2), (7, 5, 2)] ∧
      diagram.looseEnds = [⟨7, .source, .real ⟨"x"⟩⟩, ⟨7, .target, .real ⟨"y"⟩⟩,
        ⟨2, .source, .sentinel .boarding⟩] ∧
      AccountsFor (Node.kept looseStation.sources) (Node.kept looseStation.targets)
        looseStation.links (fun link => 0 < link.value) diagram ∧
      (∀ ribbon ∈ diagram.ribbons, ¬ ribbon.value ≤ 0) ∧
      ∃ diagram', draw looseStation.sources looseStation.targets
        (looseStation.links.map fun link => { link with id := 0 }) (Style.plain .paired) =
          .ok diagram' := by
  have drawn := draw_eq_ok_layout (by decide +kernel :
    check (Node.kept looseStation.sources) (Node.kept looseStation.targets) looseStation.links
      (Style.plain .paired) = .ok ())
  obtain ⟨-, -, taken, renumbered⟩ := draw_accountsFor.1 Rat _ _ _ _ _ drawn
  exact ⟨_, drawn, by cbv, by cbv, draw_accountsFor.2 _ _ _ _ _ drawn, taken,
    renumbered _ rfl⟩

end Diagram

end TransitDiagram
