import TransitDiagram.Proofs.Diagram.Isolation
import TransitDiagram.Proofs.Diagram.Mapping
import TransitDiagram.Proofs.Diagram.Rules
import TransitDiagram.Proofs.Diagram.TotalExtent

/-!
# Positions in time

A time axis gives the real nodes of a diagram a position in time beside their rank. It asks that a
clock can show the time of each of them, and otherwise leaves the drawing as it is
(`Diagram.untimed`): also of two nodes that share a row each has the position of its own time
(`PlacedNode.IsTimed`).
-/

namespace TransitDiagram

open Quantity

variable {α : Type}

/-- The style with another axis. -/
def Style.onAxis (style : Style α) (axis : Axis α) : Style α :=
  { style with axis := axis }

/-- A clock at the offset of the axis can show the moment. -/
def TimeAxis.Shows (axis : TimeAxis α) (seconds : Int64) : Prop :=
  ClockTime.IsOffset axis.utcOffset ∧ ClockTime.HasDate seconds

def PlacedNode.untimed (node : PlacedNode α) : PlacedNode α :=
  { node with timeOffset := none }

/-- The diagram without positions in time. -/
def Diagram.untimed (diagram : Diagram α) : Diagram α :=
  { diagram with
    sources := diagram.sources.map PlacedNode.untimed
    targets := diagram.targets.map PlacedNode.untimed }

theorem Diagram.onSide_untimed (diagram : Diagram α) (side : Side) :
    diagram.untimed.onSide side = (diagram.onSide side).map PlacedNode.untimed := by
  cases side <;> rfl

variable [Quantity α]

/-- A node that stands where a time axis puts the given one: at what the clock shows at its time,
unless it is a sentinel. -/
structure PlacedNode.IsTimed (axis : TimeAxis α) (placed : PlacedNode α) (node : Node α) :
    Prop where
  key : placed.key = node.key
  sentinel : node.key.isSentinel = true → placed.timeOffset = none
  real : node.key.isSentinel = false →
    ∃ clock, ClockTime.ofMoment? node.displayTime axis.utcOffset = some clock ∧
      placed.timeOffset = some (clock.position axis.width axis.frameHours)

/-- A clock that shows the time of a real node gives it a position. -/
theorem TimeAxis.exists_position?_eq_some {axis : TimeAxis α} {seconds : Int64}
    (shown : axis.Shows seconds) :
    ∃ clock, ClockTime.ofMoment? seconds axis.utcOffset = some clock ∧
      axis.position? seconds = some (clock.position axis.width axis.frameHours) := by
  have visible : (axis.position? seconds).isSome = true := by
    rw [axis.isSome_position?]
    exact decide_eq_true shown
  rw [position?, Option.isSome_map] at visible
  obtain ⟨clock, found⟩ := Option.isSome_iff_exists.mp visible
  exact ⟨clock, found, by rw [position?, found, Option.map_some]⟩

namespace Axis

variable {axis : TimeAxis α} {node : Node α}

theorem offset?_time_of_sentinel (sentinel : node.key.isSentinel = true) :
    (time axis).offset? node = none := by
  cases key : node.key with
  | sentinel kind => simp only [offset?, key]
  | real entity =>
    rw [key] at sentinel
    cases sentinel

theorem offset?_time_of_real (real : node.key.isSentinel = false) :
    (time axis).offset? node = axis.position? node.displayTime := by
  cases key : node.key with
  | real entity => simp only [offset?, key]
  | sentinel kind =>
    rw [key] at real
    cases real

/-- A time axis accepts the nodes whose time it can show. -/
theorem checkNode_time_eq_ok_iff :
    (time axis).checkNode node = .ok () ↔
      (node.key.isSentinel = false → axis.Shows node.displayTime) := by
  rw [checkNode_eq_verdict, Rule.verdict_eq_ok_iff]
  cases key : node.key with
  | sentinel kind => simp [rules, key, NodeKey.isSentinel]
  | real entity => simp [rules, key, NodeKey.isSentinel, TimeAxis.Shows]

theorem isTimed_of_timeOffset_eq {placed : PlacedNode α} (key : placed.key = node.key)
    (accepted : (time axis).checkNode node = .ok ())
    (offset : placed.timeOffset = (time axis).offset? node) : placed.IsTimed axis node where
  key := key
  sentinel sentinel := offset.trans (offset?_time_of_sentinel sentinel)
  real real := by
    obtain ⟨clock, found, position⟩ :=
      TimeAxis.exists_position?_eq_some (checkNode_time_eq_ok_iff.mp accepted real)
    exact ⟨clock, found, offset.trans ((offset?_time_of_real real).trans position)⟩

end Axis

namespace Diagram

variable {sources targets : List (Node α)} {links : List (Link α)} {style : Style α}
  {axis : TimeAxis α}

theorem layout_onAxis_rank (sources targets : List (Node α)) (links : List (Link α))
    (style : Style α) (axis : TimeAxis α) :
    layout sources targets links (style.onAxis .rank) =
      (layout sources targets links (style.onAxis (.time axis))).untimed := by
  have annotated (rank : Nat) (start tallest : α) (side : Side) (sized : SizedNode α) :
      PlacedNode.ofSized ((style.onAxis (.time axis)).annotate style.overflowGap .rank) rank start
          tallest side sized =
        (PlacedNode.ofSized (style.onAxis (.time axis)) rank start tallest side sized).annotate
          (fun _ => none) (·.overflow) := rfl
  exact layout_annotate annotated sources targets links

theorem checkNode_of_mem_pick {style : Style α} (drawable : IsDrawable sources targets links style)
    {side : Side} {node : Node α} (member : node ∈ side.pick sources targets) :
    style.axis.checkNode node = .ok () := by
  cases side with
  | source => exact drawable.checkNode_source node member
  | target => exact drawable.checkNode_target node member

theorem isDrawable_onAxis_time_iff (valid : (style.onAxis (.time axis)).check = .ok ()) :
    IsDrawable sources targets links (style.onAxis (.time axis)) ↔
      IsDrawable sources targets links (style.onAxis .rank) ∧
        ∀ side : Side, ∀ node ∈ side.pick sources targets, node.key.isSentinel = false →
          axis.Shows node.displayTime := by
  have timed := Style.check_eq_ok_iff.mp valid
  have ranked : (style.onAxis .rank).IsDrawable := { timed with axis := nofun }
  constructor
  · intro drawable
    refine ⟨{ drawable with
      isDrawable_style := ranked
      checkNode_source := fun _ _ => rfl
      checkNode_target := fun _ _ => rfl }, fun side node given => ?_⟩
    exact Axis.checkNode_time_eq_ok_iff.mp (checkNode_of_mem_pick drawable given)
  · rintro ⟨drawable, shown⟩
    exact { drawable with
      isDrawable_style := timed
      checkNode_source := fun node given =>
        Axis.checkNode_time_eq_ok_iff.mpr (shown .source node given)
      checkNode_target := fun node given =>
        Axis.checkNode_time_eq_ok_iff.mpr (shown .target node given) }

/-- On a time axis each given node stands once, at its own time. -/
theorem exists_isTimed_onSide
    (drawable : IsDrawable sources targets links (style.onAxis (.time axis))) (side : Side) :
    ∃ given, given.Perm (side.pick sources targets) ∧ List.Forall₂ (PlacedNode.IsTimed axis)
      ((layout sources targets links (style.onAxis (.time axis))).onSide side) given := by
  have shown : (((layout sources targets links (style.onAxis (.time axis))).onSide side).map
        fun placed => (placed.key, placed.timeOffset)).Perm
      ((side.pick sources targets).map fun node => (node.key, (Axis.time axis).offset? node)) :=
    map_onSide_perm drawable fun _ _ _ _ => rfl
  have tags : List.Forall₂ (fun tag node => tag = (node.key, (Axis.time axis).offset? node) ∧
        (Axis.time axis).checkNode node = .ok ())
      ((side.pick sources targets).map fun node => (node.key, (Axis.time axis).offset? node))
      (side.pick sources targets) :=
    List.forall₂_map_left_iff.mpr (List.forall₂_same.mpr fun node member =>
      ⟨rfl, checkNode_of_mem_pick drawable member⟩)
  -- The tags of the nodes drawn are those of the nodes given in another order; so the nodes given
  -- have an order in which each is tagged as the node drawn in its place.
  obtain ⟨given, matched, perm⟩ := List.perm_comp_forall₂ shown tags
  refine ⟨given, perm, (List.forall₂_map_left_iff.mp matched).imp ?_⟩
  rintro placed node ⟨tag, accepted⟩
  obtain ⟨key, offset⟩ := Prod.mk.inj tag
  exact Axis.isTimed_of_timeOffset_eq key accepted offset

/-- The diagrams drawn by rank and on a time axis of the same nodes. -/
structure AreTimed (axis : TimeAxis α) (sources targets : List (Node α))
    (ranked timed : Diagram α) : Prop where
  untimed_eq : timed.untimed = ranked
  timeOffset_eq_none : ∀ side, ∀ node ∈ ranked.onSide side, node.timeOffset = none
  exists_isTimed : ∀ side : Side, ∃ given, given.Perm (side.pick sources targets) ∧
    List.Forall₂ (PlacedNode.IsTimed axis) (timed.onSide side) given

/-- A time axis only adds positions in time. A diagram is drawn on it exactly if it is drawn by rank
and a clock at the offset of the axis can show the times of the kept real nodes. The two diagrams
are the same but for the positions, and each real node has the position of its own time. -/
theorem draw_timed (valid : (style.onAxis (.time axis)).check = .ok ()) :
    ((∃ timed, draw sources targets links (style.onAxis (.time axis)) = .ok timed) ↔
        (∃ ranked, draw sources targets links (style.onAxis .rank) = .ok ranked) ∧
          ∀ side : Side, ∀ node ∈ Node.kept (side.pick sources targets),
            node.key.isSentinel = false → axis.Shows node.displayTime) ∧
      ∀ ranked timed, draw sources targets links (style.onAxis .rank) = .ok ranked →
        draw sources targets links (style.onAxis (.time axis)) = .ok timed →
          AreTimed axis (Node.kept sources) (Node.kept targets) ranked timed := by
  constructor
  · simp only [draw_eq_ok_iff, exists_and_left, exists_eq', and_true, Node.kept_pick]
    exact isDrawable_onAxis_time_iff valid
  · intro ranked timed drawn drawn'
    obtain ⟨-, rfl⟩ := draw_eq_ok_iff.mp drawn
    obtain ⟨drawable, rfl⟩ := draw_eq_ok_iff.mp drawn'
    constructor
    · exact (layout_onAxis_rank _ _ links style axis).symm
    · intro side node member
      rw [layout_onAxis_rank _ _ links style axis, onSide_untimed] at member
      obtain ⟨placed, -, rfl⟩ := List.mem_map.mp member
      rfl
    · exact exists_isTimed_onSide drawable

/-- A trip that pauses for half an hour, given after a later one and after those who start here. -/
def pausingStation : Network Rat where
  sources := [⟨.real ⟨"b"⟩, 29520, 9, 8⟩, ⟨.sentinel .boarding, 0, 3, 0⟩,
    ⟨.real ⟨"a"⟩, 21600, 8, 8⟩]
  targets := [⟨.real ⟨"a"⟩, 23400, 9, 8⟩]
  links := [⟨0, .sentinel .boarding, .real ⟨"a"⟩, 3⟩, ⟨1, .real ⟨"b"⟩, .real ⟨"a"⟩, 2⟩]

/-- One hour ahead of universal time the first trip arrives at `07:00` and departs at `07:30`, and
its two nodes stand apart by that. No clock is a whole day ahead. -/
theorem draw_timed_pausingStation :
    ∃ ranked timed,
      draw pausingStation.sources pausingStation.targets pausingStation.links
        ((Style.plain .paired).onAxis .rank) = .ok ranked ∧
      draw pausingStation.sources pausingStation.targets pausingStation.links
        ((Style.plain .paired).onAxis (.time ⟨2500, 25, 3600⟩)) = .ok timed ∧
      timed.sources.map (fun node => (node.key, node.rank, node.timeOffset)) =
        [(.sentinel .boarding, 0, none), (.real ⟨"a"⟩, 1, some 700), (.real ⟨"b"⟩, 2, some 920)] ∧
      timed.targets.map (fun node => (node.key, node.rank, node.timeOffset)) =
        [(.real ⟨"a"⟩, 1, some 750)] ∧
      AreTimed ⟨2500, 25, 3600⟩ (Node.kept pausingStation.sources)
        (Node.kept pausingStation.targets) ranked timed ∧
      ¬ ∃ timed, draw pausingStation.sources pausingStation.targets pausingStation.links
        ((Style.plain .paired).onAxis (.time ⟨2500, 25, 86400⟩)) = .ok timed := by
  have drawn := draw_eq_ok_layout (by decide +kernel :
    check (Node.kept pausingStation.sources) (Node.kept pausingStation.targets)
      pausingStation.links ((Style.plain .paired).onAxis .rank) = .ok ())
  have drawn' := draw_eq_ok_layout (by decide +kernel :
    check (Node.kept pausingStation.sources) (Node.kept pausingStation.targets)
      pausingStation.links ((Style.plain .paired).onAxis (.time ⟨2500, 25, 3600⟩)) = .ok ())
  have valid : ((Style.plain .paired).onAxis (.time ⟨2500, 25, 3600⟩)).check = .ok () := by
    decide +kernel
  have aheadValid : ((Style.plain .paired).onAxis (.time ⟨2500, 25, 86400⟩)).check = .ok () := by
    decide +kernel
  refine ⟨_, _, drawn, drawn', by cbv, by cbv, (draw_timed valid).2 _ _ drawn drawn', ?_⟩
  intro ahead
  have shown := ((draw_timed aheadValid).1.mp ahead).2 .target
    ⟨.real ⟨"a"⟩, 23400, 9, 8⟩ (by decide +kernel) rfl
  exact absurd shown.1 (by decide)

end Diagram

end TransitDiagram
