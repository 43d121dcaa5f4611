import TransitDiagram.Proofs.Diagram.Fates
import TransitDiagram.Proofs.Diagram.Pairing
import TransitDiagram.Proofs.Diagram.Renaming

/-!
# Names and times

A diagram without a time axis shows the same under other names and other times, where the times
rise with the old ones (`Node.RisesOn`). The key of a sentinel is no name, so an entity may be
called what it likes, and the time of a sentinel is never looked at.
-/

namespace TransitDiagram

open Quantity

variable {α : Type} {names : EntityKey ↪ EntityKey}

namespace Node

/-- What becomes of a node when its entity has a new name and its time is moved. A sentinel may be
given any time. -/
structure IsRelabelled (names : EntityKey ↪ EntityKey) (times : Int64 → Int64)
    (node node' : Node α) : Prop where
  key : node'.key = node.key.rename names
  displayTime : node.key.isSentinel = false → node'.displayTime = times node.displayTime
  occupancy : node'.occupancy = node.occupancy
  capacity : node'.capacity = node.capacity

/-- Times that rise with the times of real nodes. Only the times that occur are compared: the one
map that rises on all of them is the identity. -/
def RisesOn (times : Int64 → Int64) (nodes : List (Node α)) : Prop :=
  ∀ node ∈ nodes, ∀ other ∈ nodes, node.key.isSentinel = false → other.key.isSentinel = false →
    node.displayTime < other.displayTime → times node.displayTime < times other.displayTime

instance (times : Int64 → Int64) (nodes : List (Node α)) : Decidable (RisesOn times nodes) :=
  inferInstanceAs (Decidable (∀ node ∈ nodes, ∀ other ∈ nodes, _ → _ → _ → _))

/-- The new time of a real node, and the same time for all sentinels. -/
def retime (times : Int64 → Int64) (node : Node α) : Int64 :=
  if node.key.isSentinel then 0 else times node.displayTime

theorem keepsOrder_retime (names : EntityKey ↪ EntityKey) {times : Int64 → Int64}
    {nodes : List (Node α)} (rises : RisesOn times nodes) :
    KeepsOrder names (retime times) nodes := by
  intro node given other given'
  have order := rises node given other given'
  have reverse := rises other given' node given
  obtain ⟨key, time, occupancy, capacity⟩ := node
  obtain ⟨key', time', occupancy', capacity'⟩ := other
  cases key with
  | sentinel kind => cases key' with
    | sentinel kind' => rfl
    | real entity' => cases kind <;> rfl
  | real entity => cases key' with
    | sentinel kind' => cases kind' <;> rfl
    | real entity' =>
      show decide ((times time).toInt ≤ (times time').toInt) = decide (time.toInt ≤ time'.toInt)
      rw [decide_eq_decide]
      simp only [NodeKey.isSentinel, forall_const, Int64.lt_iff_toInt_lt] at order reverse
      rcases lt_trichotomy time.toInt time'.toInt with less | same | more
      · exact iff_of_true (order less).le less.le
      · rw [Int64.toInt_inj.mp same]
        exact iff_of_true le_rfl le_rfl
      · exact iff_of_false (reverse more).not_ge more.not_ge

/-- Nodes are relabelled as the map says, once the times of sentinels are put aside. -/
theorem map_relabel_of_isRelabelled {times : Int64 → Int64} {nodes nodes' : List (Node α)}
    (relabelled : List.Forall₂ (IsRelabelled names times) nodes nodes') :
    nodes'.map (relabel (.refl EntityKey) (retime id)) =
      nodes.map (relabel names (retime times)) := by
  induction relabelled with
  | nil => rfl
  | @cons node node' rest rest' here _ ih =>
    obtain ⟨key, time, occupancy, capacity⟩ := here
    have retimed : retime id node' = retime times node := by
      rw [retime, retime, key, NodeKey.isSentinel_rename]
      split_ifs with sentinel
      · rfl
      · exact time (by simpa using sentinel)
    rw [List.map_cons, List.map_cons, ih, relabel, relabel, retimed, key, occupancy, capacity,
      NodeKey.rename_refl]

end Node

namespace Diagram

variable [Quantity α] {sources targets sources' targets' : List (Node α)} {links : List (Link α)}
  {style : Style α}

/-- The times of sentinels may be put aside. -/
theorem draw_retime_id (ranked : style.axis = .rank) (sources targets : List (Node α))
    {diagram : Diagram α} :
    draw (sources.map (Node.relabel (.refl EntityKey) (Node.retime id)))
        (targets.map (Node.relabel (.refl EntityKey) (Node.retime id))) links style = .ok diagram ↔
      draw sources targets links style = .ok diagram := by
  have steady : Node.RisesOn id (Node.kept sources ++ Node.kept targets) :=
    fun _ _ _ _ _ _ less => less
  have unnamed : links.map (Link.rename (.refl EntityKey)) = links :=
    List.map_id'' Link.rename_refl links
  nth_rewrite 1 [← unnamed]
  rw [draw_map_relabel ranked (Node.keepsOrder_retime (.refl EntityKey) steady)]
  simp only [rename_refl, exists_eq_right]

/-! ### Keys are told apart -/

/-- A diagram in which every node is known by its key alone: a search for the key finds the node
that was given with it, a row has nodes of one key, and every ribbon ends at nodes of its own two
keys. -/
structure TellsApart (alignment : Alignment) (sources targets : List (Node α))
    (diagram : Diagram α) : Prop where
  found : ∀ side key, (diagram.node? side key).map PlacedNode.identity =
    ((side.pick sources targets).find? fun node => node.key = key).map (Node.identity side)
  row : ∀ column ∈ diagram.columns alignment, ∀ node ∈ column, ∀ other ∈ column,
    node.rank = other.rank → node.key = other.key
  ends : ∀ ribbon ∈ diagram.ribbons, ∀ side, ∃ node ∈ diagram.onSide side,
    node.key = ribbon.endOn side

theorem map_identity_node? (drawable : IsDrawable sources targets links style) (side : Side)
    (key : NodeKey) :
    ((layout sources targets links style).node? side key).map PlacedNode.identity =
      ((side.pick sources targets).find? fun node => node.key = key).map (Node.identity side) := by
  have shown : (((layout sources targets links style).onSide side).map PlacedNode.identity).Perm
      ((side.pick sources targets).map (Node.identity side)) :=
    map_onSide_perm drawable fun _ _ _ _ => rfl
  have nodup := (areDrawable_pick drawable side).nodup_key
  ext identity
  simp only [Option.map_eq_some_iff, node?_eq_some_iff drawable, find?_key_eq_some_iff nodup]
  constructor
  · rintro ⟨placed, ⟨member, rfl⟩, rfl⟩
    obtain ⟨node, given, same⟩ := List.mem_map.mp (shown.mem_iff.mp (List.mem_map_of_mem member))
    exact ⟨node, ⟨given, congrArg (·.2.1) same⟩, same⟩
  · rintro ⟨node, ⟨given, rfl⟩, rfl⟩
    obtain ⟨placed, member, same⟩ :=
      List.mem_map.mp (shown.mem_iff.mpr (List.mem_map_of_mem given))
    exact ⟨placed, ⟨member, congrArg (·.2.1) same⟩, same⟩

omit [Quantity α] in
theorem exists_onSide_of_mem_append {diagram : Diagram α} {node : PlacedNode α}
    (shown : node ∈ diagram.sources ++ diagram.targets) : ∃ side, node ∈ diagram.onSide side := by
  rcases List.mem_append.mp shown with left | right
  · exact ⟨.source, left⟩
  · exact ⟨.target, right⟩

theorem tellsApart_layout (drawable : IsDrawable sources targets links style) :
    TellsApart style.alignment sources targets (layout sources targets links style) := by
  constructor
  · exact map_identity_node? drawable
  · intro column member node shown other shown' same
    cases alignment : style.alignment with
    | paired =>
      rw [alignment] at member
      obtain rfl := List.mem_singleton.mp member
      obtain ⟨_, here⟩ := exists_onSide_of_mem_append shown
      obtain ⟨_, there⟩ := exists_onSide_of_mem_append shown'
      exact (rank_eq_iff_key_eq drawable alignment here there).mp same
    | independent =>
      rw [alignment] at member
      obtain ⟨side, rfl⟩ : ∃ side, column = (layout sources targets links style).onSide side := by
        rcases List.mem_cons.mp member with left | right
        · exact ⟨.source, left⟩
        · exact ⟨.target, List.mem_singleton.mp right⟩
      rw [eq_of_rank_eq shown shown' same]
  · exact fun ribbon member side => exists_node_of_mem_ribbons drawable member side

/-- Without a time axis only the order of times and the equality of keys matter. Entities may have
other names, one each, and nodes other times, as long as those of real nodes rise with the old ones:
a diagram is drawn of both or of neither, and it is the same one but for the names. What an entity
is called is never taken for a sentinel. -/
theorem draw_relabel {times : Int64 → Int64} (ranked : style.axis = .rank)
    (rises : Node.RisesOn times (Node.kept sources ++ Node.kept targets))
    (left : List.Forall₂ (Node.IsRelabelled names times) sources sources')
    (right : List.Forall₂ (Node.IsRelabelled names times) targets targets') :
    (∀ diagram', draw sources' targets' (links.map (Link.rename names)) style = .ok diagram' ↔
        ∃ diagram, draw sources targets links style = .ok diagram ∧
          diagram.rename names = diagram') ∧
      ∀ diagram, draw sources targets links style = .ok diagram →
        diagram.TellsApart style.alignment (Node.kept sources) (Node.kept targets) := by
  constructor
  · intro diagram'
    rw [← draw_retime_id ranked sources' targets',
      ← draw_map_relabel ranked (Node.keepsOrder_retime names rises),
      Node.map_relabel_of_isRelabelled left, Node.map_relabel_of_isRelabelled right]
  · intro diagram drawn
    obtain ⟨drawable, rfl⟩ := draw_eq_ok_iff.mp drawn
    exact tellsApart_layout drawable

/-- Two trips and a sentinel in front of them. -/
def plainlyNamedStation : Network Rat where
  sources := [⟨.real ⟨"b"⟩, 20, 9, 8⟩, ⟨.sentinel .boarding, 0, 3, 0⟩, ⟨.real ⟨"a"⟩, 10, 8, 8⟩]
  targets := [⟨.real ⟨"b"⟩, 30, 3, 8⟩, ⟨.real ⟨"a"⟩, 15, 9, 8⟩]
  links := [⟨0, .sentinel .boarding, .real ⟨"a"⟩, 3⟩, ⟨1, .real ⟨"a"⟩, .real ⟨"b"⟩, 2⟩,
    ⟨2, .sentinel .previous, .real ⟨"b"⟩, 4⟩]

/-- The same trips, called like the sentinel, and at times of which some are before 1970. The
sentinel has been given a time after all of them. -/
def oddlyNamedStation : Network Rat where
  sources := [⟨.real ⟨"<boarding>"⟩, 17, 9, 8⟩, ⟨.sentinel .boarding, 99, 3, 0⟩,
    ⟨.real ⟨"boarding"⟩, -3, 8, 8⟩]
  targets := [⟨.real ⟨"<boarding>"⟩, 37, 3, 8⟩, ⟨.real ⟨"boarding"⟩, 7, 9, 8⟩]
  links := [⟨0, .sentinel .boarding, .real ⟨"boarding"⟩, 3⟩,
    ⟨1, .real ⟨"boarding"⟩, .real ⟨"<boarding>"⟩, 2⟩,
    ⟨2, .sentinel .previous, .real ⟨"<boarding>"⟩, 4⟩]

def oddNames : EntityKey ↪ EntityKey :=
  ((Equiv.swap ⟨"a"⟩ ⟨"boarding"⟩).trans (Equiv.swap ⟨"b"⟩ ⟨"<boarding>"⟩)).toEmbedding

/-- The trips and the sentinel keep their rows, and the loose end is that of the other sentinel. -/
theorem draw_relabel_oddlyNamedStation :
    ∃ diagram, draw plainlyNamedStation.sources plainlyNamedStation.targets
        plainlyNamedStation.links (Style.plain .paired) = .ok diagram ∧
      draw oddlyNamedStation.sources oddlyNamedStation.targets oddlyNamedStation.links
        (Style.plain .paired) = .ok (diagram.rename oddNames) ∧
      (diagram.rename oddNames).sources.map (fun node => (node.key, node.rank)) =
        [(.sentinel .boarding, 0), (.real ⟨"boarding"⟩, 1), (.real ⟨"<boarding>"⟩, 2)] ∧
      (diagram.rename oddNames).looseEnds = [⟨2, .source, .sentinel .previous⟩] ∧
      diagram.TellsApart .paired (Node.kept plainlyNamedStation.sources)
        (Node.kept plainlyNamedStation.targets) := by
  have drawn := draw_eq_ok_layout (by decide +kernel :
    check (Node.kept plainlyNamedStation.sources) (Node.kept plainlyNamedStation.targets)
      plainlyNamedStation.links (Style.plain .paired) = .ok ())
  have rises : Node.RisesOn (fun time => 2 * time - 23)
      (Node.kept plainlyNamedStation.sources ++ Node.kept plainlyNamedStation.targets) := by
    decide +kernel
  have left : List.Forall₂ (Node.IsRelabelled oddNames fun time => 2 * time - 23)
      plainlyNamedStation.sources oddlyNamedStation.sources :=
    .cons ⟨by decide, fun _ => rfl, rfl, rfl⟩ <| .cons ⟨rfl, by decide, rfl, rfl⟩ <|
      .cons ⟨by decide, fun _ => rfl, rfl, rfl⟩ .nil
  have right : List.Forall₂ (Node.IsRelabelled oddNames fun time => 2 * time - 23)
      plainlyNamedStation.targets oddlyNamedStation.targets :=
    .cons ⟨by decide, fun _ => rfl, rfl, rfl⟩ <| .cons ⟨by decide, fun _ => rfl, rfl, rfl⟩ .nil
  have links : oddlyNamedStation.links = plainlyNamedStation.links.map (Link.rename oddNames) := by
    decide
  have ranked : (Style.plain .paired).axis = .rank := rfl
  obtain ⟨relabelled, apart⟩ := draw_relabel ranked rises left right
  refine ⟨_, drawn, ?_, by cbv, by cbv, apart _ drawn⟩
  rw [links]
  exact (relabelled _).mpr ⟨_, drawn, rfl⟩

end Diagram

end TransitDiagram
