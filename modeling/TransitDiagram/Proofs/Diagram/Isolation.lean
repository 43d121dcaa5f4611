import TransitDiagram.Proofs.Diagram.Connection
import TransitDiagram.Proofs.Diagram.Packing

/-!
# Independent sides

Under independent alignment a side of a diagram is drawn from its own nodes and from the links. Of
the other side it matters only which keys occur there, since a link to an unknown node is left out:
how many passengers the nodes across have, when they depart and in which order they are given
changes nothing on this side.
-/

namespace TransitDiagram

open Quantity

variable {α : Type}

/-- The links that are connected depend on the keys of the nodes alone. -/
theorem Link.connected_congr {sources targets sources' targets' : List (Node α)}
    (keys : ∀ (side : Side) (key : NodeKey), key ∈ (side.pick sources targets).map (·.key) ↔
      key ∈ (side.pick sources' targets').map (·.key)) (links : List (Link α)) :
    connected sources targets links = connected sources' targets' links := by
  rw [connected_eq_filter, connected_eq_filter]
  apply List.filter_congr
  intro link _
  have source := keys .source link.source
  have target := keys .target link.target
  rw [decide_eq_decide]
  exact and_congr source target

theorem Side.eq_or_eq_across (side other : Side) : other = side ∨ other = side.across := by
  cases side <;> cases other <;> simp [across]

variable [Quantity α]

theorem Node.kept_pick (side : Side) (sources targets : List (Node α)) :
    kept (side.pick sources targets) = side.pick (kept sources) (kept targets) := by
  cases side <;> rfl

namespace Diagram

variable {sources targets sources' targets' : List (Node α)} {links : List (Link α)}
  {style : Style α} {side : Side}

/-- A side that is placed on its own is the same for all nodes across that have the same keys. -/
theorem onSide_layout_congr (independent : style.alignment = .independent)
    (same : side.pick sources targets = side.pick sources' targets')
    (keys : ∀ key, key ∈ (side.across.pick sources targets).map (·.key) ↔
      key ∈ (side.across.pick sources' targets').map (·.key)) :
    (layout sources targets links style).onSide side =
      (layout sources' targets' links style).onSide side := by
  have connected : Link.connected sources targets links =
      Link.connected sources' targets' links := by
    refine Link.connected_congr (fun other key => ?_) links
    rcases Side.eq_or_eq_across side other with here | across
    · rw [here, same]
    · rw [across]
      exact keys key
  have sized : sizedNode sources targets links style side =
      sizedNode sources' targets' links style side := by
    funext node
    rw [sizedNode, sizedNode, connected]
  rw [onSide_layout, onSide_layout, rowsOf_of_independent independent,
    rowsOf_of_independent independent, same, sized]

/-- Independent sides do not influence each other: two drawings with the same links and the same
nodes on a side agree on that side in every respect, if the nodes that are kept across have the same
keys. -/
theorem draw_isolated {diagram diagram' : Diagram α} (independent : style.alignment = .independent)
    (drawn : draw sources targets links style = .ok diagram)
    (drawn' : draw sources' targets' links style = .ok diagram')
    (same : side.pick sources targets = side.pick sources' targets')
    (keys : ∀ key, key ∈ (Node.kept (side.across.pick sources targets)).map (·.key) ↔
      key ∈ (Node.kept (side.across.pick sources' targets')).map (·.key)) :
    diagram.onSide side = diagram'.onSide side := by
  obtain ⟨-, rfl⟩ := draw_eq_ok_iff.mp drawn
  obtain ⟨-, rfl⟩ := draw_eq_ok_iff.mp drawn'
  simp only [Node.kept_pick] at keys
  apply onSide_layout_congr independent
  · rw [← Node.kept_pick, ← Node.kept_pick, same]
  · exact keys

/-- Two trips that arrive, with connections to two others and to one that is unknown. -/
def feederStation : Network Rat where
  sources := [⟨.real ⟨"b"⟩, 20, 9, 8⟩, ⟨.real ⟨"a"⟩, 10, 8, 8⟩]
  targets := [⟨.real ⟨"c"⟩, 30, 3, 8⟩, ⟨.real ⟨"d"⟩, 40, 9, 8⟩]
  links := [⟨0, .real ⟨"a"⟩, .real ⟨"c"⟩, 3⟩, ⟨1, .real ⟨"b"⟩, .real ⟨"e"⟩, 2⟩,
    ⟨2, .real ⟨"b"⟩, .real ⟨"d"⟩, 4⟩, ⟨3, .real ⟨"a"⟩, .real ⟨"d"⟩, 5⟩]

/-- The same connections, met by crowded trips that depart in the other order. -/
def delayedStation : Network Rat where
  sources := feederStation.sources
  targets := [⟨.sentinel .exiting, 0, 0, 0⟩, ⟨.real ⟨"d"⟩, 40, 90, 8⟩, ⟨.real ⟨"c"⟩, 50, 70, 0⟩]
  links := feederStation.links

/-- The trips that depart later and overcrowded make the diagram longer, and leave the side of the
arrivals as it was. -/
theorem draw_isolated_delayedStation :
    ∃ diagram diagram',
      draw feederStation.sources feederStation.targets feederStation.links
        (Style.plain .independent) = .ok diagram ∧
      draw delayedStation.sources delayedStation.targets delayedStation.links
        (Style.plain .independent) = .ok diagram' ∧
      diagram.targets.map (·.key) = [.real ⟨"c"⟩, .real ⟨"d"⟩] ∧
      diagram'.targets.map (·.key) = [.real ⟨"d"⟩, .real ⟨"c"⟩] ∧
      diagram.sources = diagram'.sources := by
  have drawn := draw_eq_ok_layout (by decide +kernel :
    check (Node.kept feederStation.sources) (Node.kept feederStation.targets) feederStation.links
      (Style.plain .independent) = .ok ())
  have drawn' := draw_eq_ok_layout (by decide +kernel :
    check (Node.kept delayedStation.sources) (Node.kept delayedStation.targets)
      delayedStation.links (Style.plain .independent) = .ok ())
  have before : (Node.kept feederStation.targets).map (·.key) = [.real ⟨"c"⟩, .real ⟨"d"⟩] := by
    decide +kernel
  have after : (Node.kept delayedStation.targets).map (·.key) = [.real ⟨"d"⟩, .real ⟨"c"⟩] := by
    decide +kernel
  refine ⟨_, _, drawn, drawn', by cbv, by cbv, ?_⟩
  refine draw_isolated rfl drawn drawn' (rfl : Side.source.pick _ _ = Side.source.pick _ _)
    fun key => ?_
  show key ∈ (Node.kept feederStation.targets).map (·.key) ↔
    key ∈ (Node.kept delayedStation.targets).map (·.key)
  rw [before, after, List.mem_pair, List.mem_pair, or_comm]

end Diagram

end TransitDiagram
