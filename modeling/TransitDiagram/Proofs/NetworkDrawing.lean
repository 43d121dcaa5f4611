import TransitDiagram.Command.Request
import TransitDiagram.Proofs.Diagram.Fates
import TransitDiagram.Proofs.Diagram.Refusal
import TransitDiagram.Proofs.Diagram.Tiling
import TransitDiagram.Proofs.Network

/-!
# Drawings of networks

A network that is made from flows is drawn completely: none of its links is loose, and every
sentinel is as large as the ribbons at it (`Network.IsComplete`). Neither the sentinels nor the links
are a reason to refuse the drawing, so that it depends on the style and the given real nodes alone
whether there is one (`Network.exists_draw_eq_ok_iff`).
-/

namespace TransitDiagram

open Quantity

/-! ### Ends of flows -/

/-- The sentinels that belong on a side, in stacking order. -/
def Sentinel.ofSide : Side → List Sentinel
  | .source => [.boarding, .previous]
  | .target => [.future, .exiting]

theorem Sentinel.mem_ofSide_iff {side : Side} {kind : Sentinel} :
    kind ∈ ofSide side ↔ kind.side = side := by
  cases side <;> cases kind <;> decide

theorem Sentinel.nodup_ofSide (side : Side) : (ofSide side).Nodup := by
  cases side <;> decide

namespace FlowEnd

theorem side_origin (range : TimeRange) (time : Option Int64) :
    (origin range time).side = .source := by
  unfold origin
  split
  · split <;> rfl
  · rfl

theorem side_destination (range : TimeRange) (time : Option Int64) :
    (destination range time).side = .target := by
  unfold destination
  split
  · split <;> rfl
  · rfl

/-- An end goes to a known entity or to a sentinel. -/
theorem node_cases (known : List EntityKey) (outside : Option Int64 → Sentinel) (e : FlowEnd) :
    (∃ entity ∈ known, e.node known outside = .real entity) ∨
      e.node known outside = .sentinel (outside e.time) := by
  unfold node
  split
  · next entity _ =>
    by_cases member : entity ∈ known
    · exact .inl ⟨entity, member, if_pos member⟩
    · exact .inr (if_neg member)
  · exact .inr rfl

end FlowEnd

/-- The node that a flow is classified to on a side. -/
def Flow.endOn {α : Type} (sources targets : List (Node α)) (range : TimeRange) (side : Side)
    (flow : Flow α) : NodeKey :=
  side.pick (flow.ends sources targets range).1 (flow.ends sources targets range).2

namespace Network

theorem isSentinel_of_mem_realNodes {sources targets : List (Node Rat)} {side : Side}
    {node : Node Rat} (real : node ∈ side.pick (realNodes sources) (realNodes targets)) :
    node.key.isSentinel = false := by
  cases side <;> simpa using (List.mem_filter.mp real).2

theorem key_ne_sentinel_of_mem_realNodes {sources targets : List (Node Rat)} {side : Side}
    {node : Node Rat} (real : node ∈ side.pick (realNodes sources) (realNodes targets))
    (kind : Sentinel) : node.key ≠ .sentinel kind := by
  intro key
  have real := isSentinel_of_mem_realNodes real
  rw [key] at real
  cases real

theorem exists_of_mem_entities {α : Type} {nodes : List (Node α)} {entity : EntityKey}
    (member : entity ∈ entities nodes) : ∃ node ∈ realNodes nodes, node.key = .real entity := by
  obtain ⟨node, given, found⟩ := List.mem_filterMap.mp member
  have key : node.key = .real entity := by
    cases own : node.key with
    | real other =>
      rw [own] at found
      exact congrArg _ (Option.some.inj found)
    | sentinel kind =>
      rw [own] at found
      cases found
  refine ⟨node, List.mem_filter.mpr ⟨given, ?_⟩, key⟩
  rw [key]
  rfl

section Ends

variable (sources targets : List (Node Rat)) (range : TimeRange)

/-- On each side a flow ends at a given real node or at a sentinel of that side. -/
theorem end_cases (side : Side) (flow : Flow Rat) :
    (∃ node ∈ side.pick (realNodes sources) (realNodes targets),
        node.key = flow.endOn sources targets range side) ∨
      ∃ kind : Sentinel, kind.side = side ∧
        flow.endOn sources targets range side = .sentinel kind := by
  cases side with
  | source =>
    rcases FlowEnd.node_cases (entities sources) (FlowEnd.origin range) flow.source with
      ⟨entity, member, real⟩ | outside
    · obtain ⟨node, given, key⟩ := exists_of_mem_entities member
      exact .inl ⟨node, given, key.trans real.symm⟩
    · exact .inr ⟨_, FlowEnd.side_origin range flow.source.time, outside⟩
  | target =>
    rcases FlowEnd.node_cases (entities targets) (FlowEnd.destination range) flow.target with
      ⟨entity, member, real⟩ | outside
    · obtain ⟨node, given, key⟩ := exists_of_mem_entities member
      exact .inl ⟨node, given, key.trans real.symm⟩
    · exact .inr ⟨_, FlowEnd.side_destination range flow.target.time, outside⟩

/-- A flow meets a sentinel only on the sentinel's own side. -/
theorem side_eq_of_end_eq (side : Side) {flow : Flow Rat} {kind : Sentinel}
    (meet : flow.endOn sources targets range side = .sentinel kind) : kind.side = side := by
  rcases end_cases sources targets range side flow with ⟨node, given, key⟩ | ⟨other, own, found⟩
  · exact absurd (key.trans meet) (key_ne_sentinel_of_mem_realNodes given kind)
  · obtain rfl := NodeKey.sentinel.inj (found.symm.trans meet)
    exact own

/-- On its own side a sentinel meets all flows that it meets at all. -/
theorem meets_iff (flow : Flow Rat) (kind : Sentinel) :
    (flow.ends sources targets range).1 = .sentinel kind ∨
        (flow.ends sources targets range).2 = .sentinel kind ↔
      flow.endOn sources targets range kind.side = .sentinel kind := by
  constructor
  · rintro (left | right)
    · rw [side_eq_of_end_eq sources targets range .source left]
      exact left
    · rw [side_eq_of_end_eq sources targets range .target right]
      exact right
  · intro meet
    cases own : kind.side with
    | source =>
      rw [own] at meet
      exact .inl meet
    | target =>
      rw [own] at meet
      exact .inr meet

theorem passengersAt_eq (flows : List (Flow Rat)) (kind : Sentinel) :
    passengersAt sources targets flows range kind =
      ((flows.filter fun flow =>
        flow.endOn sources targets range kind.side = .sentinel kind).map (·.value)).sum := by
  simp only [passengersAt, meets_iff]

end Ends

/-! ### Nodes and links of a network -/

section Grouping

variable {sources targets : List (Node Rat)} {flows : List (Flow Rat)} {range : TimeRange}
  {network : Network Rat}

theorem of_ofFlows_eq_ok (made : ofFlows sources targets flows range = .ok network) :
    (∀ flow ∈ flows, 0 ≤ flow.value) ∧ IsGrouping sources targets flows range network ∧
      network.links = linksOf (transfersOf sources targets flows range) := by
  rw [ofFlows, Fault.check_bind_eq_ok_iff, checkFlows_eq_ok_iff] at made
  obtain ⟨values, made⟩ := made
  have counts : ∀ flow ∈ flows, 0 ≤ flow.value :=
    fun flow member => isCount_rat.mp (values flow member)
  obtain rfl := Except.ok.inj made
  exact ⟨counts, isGrouping_transfersOf counts, rfl⟩

theorem nodes_perm (grouping : IsGrouping sources targets flows range network) (side : Side) :
    (side.pick network.sources network.targets).Perm
      (sentinelsOf sources targets flows range (Sentinel.ofSide side) ++
        side.pick (realNodes sources) (realNodes targets)) := by
  cases side with
  | source => exact List.Perm.of_eq grouping.sources_eq
  | target => exact (List.Perm.of_eq grouping.targets_eq).trans List.perm_append_comm

theorem mem_sentinelsOf_iff {kinds : List Sentinel} {node : Node Rat} :
    node ∈ sentinelsOf sources targets flows range kinds ↔
      ∃ kind ∈ kinds, 0 < passengersAt sources targets flows range kind ∧
        Node.ofSentinel kind (passengersAt sources targets flows range kind) = node := by
  simp only [sentinelsOf, List.mem_map, List.mem_filter, decide_eq_true_iff, and_assoc]
  rfl

/-- A node of a network is a sentinel with passengers or a given real node. -/
theorem mem_nodes_iff (grouping : IsGrouping sources targets flows range network) {side : Side}
    {node : Node Rat} : node ∈ side.pick network.sources network.targets ↔
      (∃ kind : Sentinel, kind.side = side ∧ 0 < passengersAt sources targets flows range kind ∧
        Node.ofSentinel kind (passengersAt sources targets flows range kind) = node) ∨
      node ∈ side.pick (realNodes sources) (realNodes targets) := by
  rw [(nodes_perm grouping side).mem_iff, List.mem_append, mem_sentinelsOf_iff]
  simp only [Sentinel.mem_ofSide_iff]

/-- Nothing of a network is left out of its drawing. -/
theorem kept_nodes (grouping : IsGrouping sources targets flows range network) (side : Side) :
    Node.kept (side.pick network.sources network.targets) =
      side.pick network.sources network.targets := by
  refine List.filter_eq_self.mpr fun node member => ?_
  rcases (mem_nodes_iff grouping).mp member with ⟨kind, -, somebody, rfl⟩ | real
  · have occupied : (passengersAt sources targets flows range kind == 0) = false :=
      beq_eq_false_iff_ne.mpr somebody.ne'
    exact congrArg (! · ) occupied
  · rw [Node.isVacant, isSentinel_of_mem_realNodes real]
    rfl

theorem value_nonneg (counts : ∀ flow ∈ flows, 0 ≤ flow.value)
    (grouping : IsGrouping sources targets flows range network) {link : Link Rat}
    (member : link ∈ network.links) : 0 ≤ link.value := by
  rw [grouping.value_eq link member]
  exact sum_map_nonneg fun flow met => counts flow (List.mem_of_mem_filter met)

/-- Both ends of a link are among the nodes. -/
theorem endOf_mem_of_mem_links (grouping : IsGrouping sources targets flows range network)
    {link : Link Rat} (member : link ∈ network.links) (side : Side) :
    side.endOf link ∈ (side.pick network.sources network.targets).map (·.key) := by
  obtain ⟨⟨flow, -, same⟩, present⟩ :=
    (grouping.mem_ends_iff link.ends).mp (List.mem_map_of_mem member)
  have meet : side.endOf link = flow.endOn sources targets range side := by
    rw [Flow.endOn, same]
    cases side <;> rfl
  rw [meet, List.mem_map]
  rcases end_cases sources targets range side flow with ⟨node, real, key⟩ | ⟨kind, own, key⟩
  · exact ⟨node, (mem_nodes_iff grouping).mpr (.inr real), key⟩
  · have somebody : 0 < passengersAt sources targets flows range kind := by
      apply present
      rw [← same]
      cases side with
      | source => exact .inl key
      | target => exact .inr key
    exact ⟨_, (mem_nodes_iff grouping).mpr (.inl ⟨kind, own, somebody, rfl⟩), key.symm⟩

theorem isConnected_of_mem_links (grouping : IsGrouping sources targets flows range network)
    {link : Link Rat} (member : link ∈ network.links) :
    link.IsConnected network.sources network.targets :=
  ⟨endOf_mem_of_mem_links grouping member .source, endOf_mem_of_mem_links grouping member .target⟩

/-! ### What a network is refused for -/

theorem nodup_key_sentinelsOf (sources targets : List (Node Rat)) (flows : List (Flow Rat))
    (range : TimeRange) (side : Side) :
    ((sentinelsOf sources targets flows range (Sentinel.ofSide side)).map (·.key)).Nodup := by
  rw [sentinelsOf, List.map_map]
  exact ((Sentinel.nodup_ofSide side).filter _).map fun _ _ same => NodeKey.sentinel.inj same

/-- Only a real node repeats a key. -/
theorem duplicate_key (grouping : IsGrouping sources targets flows range network) {side : Side}
    {key : NodeKey}
    (twice : List.Duplicate key ((side.pick network.sources network.targets).map (·.key))) :
    List.Duplicate key ((side.pick (realNodes sources) (realNodes targets)).map (·.key)) := by
  rw [List.duplicate_iff_two_le_count] at twice ⊢
  rw [((nodes_perm grouping side).map _).count_eq, List.map_append, List.count_append] at twice
  -- A key is one of a sentinel or of a real node, and sentinels have each key once.
  cases key with
  | real entity =>
    have absent : NodeKey.real entity ∉
        (sentinelsOf sources targets flows range (Sentinel.ofSide side)).map (·.key) := by
      rw [List.mem_map]
      rintro ⟨node, member, key⟩
      obtain ⟨kind, -, -, rfl⟩ := mem_sentinelsOf_iff.mp member
      cases key
    rwa [List.count_eq_zero.mpr absent, zero_add] at twice
  | sentinel kind =>
    have absent : NodeKey.sentinel kind ∉
        (side.pick (realNodes sources) (realNodes targets)).map (·.key) := by
      rw [List.mem_map]
      rintro ⟨node, real, key⟩
      exact key_ne_sentinel_of_mem_realNodes real kind key
    have once := List.nodup_iff_count_le_one.mp
      (nodup_key_sentinelsOf sources targets flows range side) (.sentinel kind)
    rw [List.count_eq_zero.mpr absent] at twice
    omega

/-- Every fault of a network is one of the style or of the given real nodes. -/
theorem isFault_realNodes (counts : ∀ flow ∈ flows, 0 ≤ flow.value)
    (grouping : IsGrouping sources targets flows range network) {style : Style Rat}
    {fault : Fault Rat}
    (found : Diagram.IsFault network.sources network.targets network.links style fault) :
    Diagram.IsFault (realNodes sources) (realNodes targets) [] style fault := by
  cases found with
  | style cause refused => exact .style cause refused
  | occupancy side node given refused =>
    rcases (mem_nodes_iff grouping).mp given with ⟨kind, -, somebody, rfl⟩ | real
    · exact absurd (isCount_rat.mpr somebody.le) refused
    · exact .occupancy side node real refused
  | capacity side node given refused =>
    rcases (mem_nodes_iff grouping).mp given with ⟨kind, -, -, rfl⟩ | real
    · exact absurd (isCount_rat.mpr le_rfl) refused
    · exact .capacity side node real refused
  | repeated side key twice => exact .repeated side key (duplicate_key grouping twice)
  | value link given refused =>
    exact absurd (isCount_rat.mpr (value_nonneg counts grouping given)) refused
  | time side node given axis timed real unseen =>
    rcases (mem_nodes_iff grouping).mp given with ⟨kind, -, -, rfl⟩ | given
    · cases real
    · exact .time side node given axis timed real unseen

theorem isDrawable_realNodes (grouping : IsGrouping sources targets flows range network)
    {style : Style Rat}
    (drawable : Diagram.IsDrawable network.sources network.targets network.links style) :
    Diagram.IsDrawable (realNodes sources) (realNodes targets) [] style := by
  have part : (realNodes sources).Sublist network.sources := by
    rw [grouping.sources_eq]
    exact List.sublist_append_right _ _
  have part' : (realNodes targets).Sublist network.targets := by
    rw [grouping.targets_eq]
    exact List.sublist_append_left _ _
  exact ⟨drawable.isDrawable_style, drawable.areDrawable_sources.sublist part,
    drawable.areDrawable_targets.sublist part', fun link none => absurd none List.not_mem_nil,
    fun node real => drawable.checkNode_source node (part.mem real),
    fun node real => drawable.checkNode_target node (part'.mem real)⟩

theorem kept_sources (grouping : IsGrouping sources targets flows range network) :
    Node.kept network.sources = network.sources :=
  kept_nodes grouping .source

theorem kept_targets (grouping : IsGrouping sources targets flows range network) :
    Node.kept network.targets = network.targets :=
  kept_nodes grouping .target

theorem draw_eq_ok_iff (grouping : IsGrouping sources targets flows range network)
    {style : Style Rat} {diagram : Diagram Rat} :
    network.draw style = .ok diagram ↔
      Diagram.IsDrawable network.sources network.targets network.links style ∧
        Diagram.layout network.sources network.targets network.links style = diagram := by
  rw [draw, Diagram.draw_eq_ok_iff, kept_sources grouping, kept_targets grouping]

theorem isFault_of_draw_eq_error (counts : ∀ flow ∈ flows, 0 ≤ flow.value)
    (grouping : IsGrouping sources targets flows range network) {style : Style Rat}
    {fault : Fault Rat} (refused : network.draw style = .error fault) :
    Diagram.IsFault (realNodes sources) (realNodes targets) [] style fault := by
  have found := Diagram.isFault_of_draw_eq_error refused
  rw [kept_sources grouping, kept_targets grouping] at found
  exact isFault_realNodes counts grouping found

/-- Whether a network is drawn depends on the style and the given real nodes alone. -/
theorem exists_draw_eq_ok_iff (counts : ∀ flow ∈ flows, 0 ≤ flow.value)
    (grouping : IsGrouping sources targets flows range network) {style : Style Rat} :
    (∃ diagram, network.draw style = .ok diagram) ↔
      Diagram.IsDrawable (realNodes sources) (realNodes targets) [] style := by
  constructor
  · rintro ⟨diagram, drawn⟩
    exact isDrawable_realNodes grouping ((draw_eq_ok_iff grouping).mp drawn).1
  · intro drawable
    cases drawn : network.draw style with
    | ok diagram => exact ⟨diagram, rfl⟩
    | error fault =>
      exact absurd drawable (isFault_of_draw_eq_error counts grouping drawn).not_isDrawable

end Grouping

/-! ### Sentinels -/

section Sentinels

variable {sources targets : List (Node Rat)} {flows : List (Flow Rat)} {range : TimeRange}

/-- The links at a sentinel carry all passengers at it. -/
theorem sum_valuesAt_linksOf (counts : ∀ flow ∈ flows, 0 ≤ flow.value) (kind : Sentinel) :
    (Link.valuesAt kind.side (linksOf (transfersOf sources targets flows range))
        (.sentinel kind)).sum = passengersAt sources targets flows range kind := by
  have values : ∀ transfer ∈ transfersOf sources targets flows range, 0 ≤ transfer.value :=
    List.forall_mem_map.mpr counts
  have carried := sum_value_filter_linksOf values fun pair =>
    kind.side.pick pair.1 pair.2 = NodeKey.sentinel kind
  have ends : (fun link : Link Rat => decide (kind.side.endOf link = .sentinel kind)) =
      fun link => decide (kind.side.pick link.ends.1 link.ends.2 = .sentinel kind) := by
    funext link
    cases kind.side <;> rfl
  rw [Link.valuesAt, ends, carried, passengersAt_eq, transfersOf, List.filter_map, List.map_map]
  rfl

end Sentinels

/-! ### The drawing -/

end Network

/-- A node with exactly the passengers on its links, that is exactly as large as the ribbons at it:
they cover all of it, and it has room for nothing else. -/
structure PlacedNode.IsFilled (diagram : Diagram Rat) (links : List (Link Rat)) (side : Side)
    (node : PlacedNode Rat) : Prop where
  occupied : 0 < node.occupancy
  occupancy_eq : node.occupancy = (Link.valuesAt side links node.key).sum
  bodyExtent_eq : node.bodyExtent = diagram.ribbonExtent side node.key
  backdropExtent_eq : node.backdropExtent = diagram.ribbonExtent side node.key

/-- A drawing that shows every node and every link of a network, unless the link is for nobody, and
fills its sentinels. -/
structure Network.IsComplete (network : Network Rat) (diagram : Diagram Rat) : Prop where
  looseEnds : diagram.looseEnds = []
  ribbons : diagram.ribbons.map Ribbon.link = network.links.filter fun link => 0 < link.value
  keys : ∀ side, ((diagram.onSide side).map (·.key)).Perm
    ((side.pick network.sources network.targets).map (·.key))
  sentinels : ∀ side, ∀ node ∈ diagram.onSide side, node.key.isSentinel = true →
    node.IsFilled diagram network.links side

theorem Diagram.backdropExtent_eq_bodyExtent {sources targets : List (Node Rat)}
    {links : List (Link Rat)} {style : Style Rat} {side : Side} {node : PlacedNode Rat}
    (drawable : IsDrawable sources targets links style)
    (member : node ∈ (layout sources targets links style).onSide side)
    (sentinel : node.key.isSentinel = true) : node.backdropExtent = node.bodyExtent := by
  obtain ⟨given, -, rank, start, tallest, rfl⟩ := exists_of_mem_onSide drawable member
  exact if_pos sentinel

namespace Network

section Drawing

variable {sources targets : List (Node Rat)} {flows : List (Flow Rat)} {range : TimeRange}
  {network : Network Rat} {style : Style Rat}

theorem connected_links (grouping : IsGrouping sources targets flows range network) :
    Link.connected network.sources network.targets network.links = network.links := by
  rw [Link.connected_eq_filter, List.filter_eq_self]
  intro link member
  exact decide_eq_true (isConnected_of_mem_links grouping member)

theorem looseEnds_layout (grouping : IsGrouping sources targets flows range network) :
    (Diagram.layout network.sources network.targets network.links style).looseEnds = [] := by
  show network.links.filterMap (Link.looseEnd? network.sources network.targets) = []
  rw [List.filterMap_eq_nil_iff]
  intro link member
  exact Link.looseEnd?_eq_none_iff.mpr (isConnected_of_mem_links grouping member)

theorem map_link_ribbons (grouping : IsGrouping sources targets flows range network)
    (drawable : style.IsDrawable) :
    (Diagram.layout network.sources network.targets network.links style).ribbons.map Ribbon.link =
      network.links.filter fun link => 0 < link.value := by
  rw [Diagram.map_link_ribbons_layout_rat drawable]
  apply List.filter_congr
  intro link member
  rw [decide_eq_decide]
  exact and_iff_right (isConnected_of_mem_links grouping member)

theorem isFilled_of_isSentinel (counts : ∀ flow ∈ flows, 0 ≤ flow.value)
    (grouping : IsGrouping sources targets flows range network)
    (links : network.links = linksOf (transfersOf sources targets flows range))
    (drawable : Diagram.IsDrawable network.sources network.targets network.links style)
    {side : Side} {node : PlacedNode Rat} (member : node ∈
      (Diagram.layout network.sources network.targets network.links style).onSide side)
    (sentinel : node.key.isSentinel = true) :
    node.IsFilled (Diagram.layout network.sources network.targets network.links style)
      network.links side := by
  obtain ⟨kind, rfl, somebody, key, occupancy⟩ : ∃ kind : Sentinel, kind.side = side ∧
      0 < passengersAt sources targets flows range kind ∧ node.key = .sentinel kind ∧
      node.occupancy = passengersAt sources targets flows range kind := by
    obtain ⟨given, found, rank, start, tallest, rfl⟩ :=
      Diagram.exists_of_mem_onSide drawable member
    rcases (mem_nodes_iff grouping).mp found with ⟨kind, own, somebody, rfl⟩ | real
    · exact ⟨kind, own, somebody, rfl, rfl⟩
    · exact absurd sentinel (Bool.eq_false_iff.mp (isSentinel_of_mem_realNodes real))
  have carried : node.occupancy = (Link.valuesAt kind.side network.links node.key).sum := by
    rw [occupancy, key, links, sum_valuesAt_linksOf counts]
  have filled : node.bodyExtent = (Diagram.layout network.sources network.targets network.links
      style).ribbonExtent kind.side node.key := by
    apply Diagram.bodyExtent_eq_ribbonExtent drawable member
    rw [Diagram.carried, connected_links grouping]
    exact carried
  have backdrop := Diagram.backdropExtent_eq_bodyExtent drawable member sentinel
  exact ⟨occupancy ▸ somebody, carried, filled, backdrop.trans filled⟩

/-- Whatever flows a network is made from, its drawing is complete. It is refused for a fault of the
style or of the given real nodes alone, and drawn if they have none. -/
theorem draw_ofFlows (made : ofFlows sources targets flows range = .ok network)
    (style : Style Rat) :
    (∀ diagram, network.draw style = .ok diagram → network.IsComplete diagram) ∧
      ((∃ diagram, network.draw style = .ok diagram) ↔
        Diagram.IsDrawable (realNodes sources) (realNodes targets) [] style) ∧
      ∀ fault, network.draw style = .error fault →
        Diagram.IsFault (realNodes sources) (realNodes targets) [] style fault := by
  obtain ⟨counts, grouping, links⟩ := of_ofFlows_eq_ok made
  refine ⟨fun diagram drawn => ?_, exists_draw_eq_ok_iff counts grouping,
    fun fault refused => isFault_of_draw_eq_error counts grouping refused⟩
  obtain ⟨drawable, rfl⟩ := (draw_eq_ok_iff grouping).mp drawn
  exact ⟨looseEnds_layout grouping, map_link_ribbons grouping drawable.isDrawable_style,
    Diagram.map_key_perm drawable,
    fun side node member => isFilled_of_isSentinel counts grouping links drawable member⟩

end Drawing

/-- What the flows of `changes` are grouped into when trip `a` arrives at some time: nobody leaves,
and somebody boards. -/
def boardingNetwork (arrival : Int64) : Network Rat where
  sources := [⟨.sentinel .boarding, 0, 2, 0⟩, ⟨.real ⟨"a"⟩, arrival, 7, 20⟩]
  targets := [⟨.real ⟨"b"⟩, 20, 9, 20⟩]
  links := [⟨0, .real ⟨"a"⟩, .real ⟨"b"⟩, 7⟩, ⟨1, .sentinel .boarding, .real ⟨"b"⟩, 2⟩]

/-- The sentinel is as long as its one ribbon. At a time that no clock shows it is the trip that is
refused, although the sentinel has no time either. -/
theorem draw_ofFlows_changes :
    (∃ network diagram, ofFlows [⟨.real ⟨"a"⟩, 10, 7, 20⟩] [⟨.real ⟨"b"⟩, 20, 9, 20⟩] (changes 4)
        ⟨0, 30⟩ = .ok network ∧
      network.draw (Style.plain .paired) = .ok diagram ∧
      diagram.sources.map (fun node => (node.key, node.bodyExtent, node.backdropExtent)) =
        [(.sentinel .boarding, 2, 2), (.real ⟨"a"⟩, 2, 21 / 4)] ∧
      network.IsComplete diagram) ∧
    ∃ network fault, ofFlows [⟨.real ⟨"a"⟩, 9223372036854775807, 7, 20⟩]
        [⟨.real ⟨"b"⟩, 20, 9, 20⟩] (changes 4) ⟨0, 30⟩ = .ok network ∧
      network.draw { Style.plain .paired with axis := .time ⟨100, 25, 0⟩ } = .error fault ∧
      Diagram.IsFault [⟨.real ⟨"a"⟩, 9223372036854775807, 7, 20⟩] [⟨.real ⟨"b"⟩, 20, 9, 20⟩] []
        { Style.plain .paired with axis := .time ⟨100, 25, 0⟩ } fault := by
  constructor
  · have made : ofFlows [⟨.real ⟨"a"⟩, 10, 7, 20⟩] [⟨.real ⟨"b"⟩, 20, 9, 20⟩] (changes 4) ⟨0, 30⟩ =
        .ok (boardingNetwork 10) := by cbv
    have complete := (draw_ofFlows made (Style.plain .paired)).1
    have drawn := Diagram.draw_eq_ok_layout (by decide +kernel :
      Diagram.check (Node.kept (boardingNetwork 10).sources)
        (Node.kept (boardingNetwork 10).targets) (boardingNetwork 10).links (Style.plain .paired) =
          .ok ())
    exact ⟨_, _, made, drawn, by cbv, complete _ drawn⟩
  · have made : ofFlows [⟨.real ⟨"a"⟩, 9223372036854775807, 7, 20⟩] [⟨.real ⟨"b"⟩, 20, 9, 20⟩]
        (changes 4) ⟨0, 30⟩ = .ok (boardingNetwork 9223372036854775807) := by cbv
    have refused : (boardingNetwork 9223372036854775807).draw
        { Style.plain .paired with axis := .time ⟨100, 25, 0⟩ } =
          .error (.noDate (.displayTime (.real ⟨"a"⟩)) 9223372036854775807) := by cbv
    exact ⟨_, _, made, refused, (draw_ofFlows made _).2.2 _ refused⟩

end Network

end TransitDiagram
