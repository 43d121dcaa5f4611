import TransitDiagram.Proofs.Checks
import TransitDiagram.Proofs.Grouping

/-!
# Networks of flows

A network groups flows by the nodes that their ends are classified to. `Network.IsGrouping` says
what that means without a loop, and `Network.ofFlows_isGrouping` that it is what one gets. No
passenger is lost: a link is left out only if a sentinel at one of its ends has nobody, and then
nobody is on the link either.
-/

namespace TransitDiagram

open Quantity

/-- The nodes that a flow is classified to. -/
def Flow.ends {α : Type} (sources targets : List (Node α)) (range : TimeRange) (flow : Flow α) :
    NodeKey × NodeKey :=
  (flow.source.atSource (Network.entities sources) range,
    flow.target.atTarget (Network.entities targets) range)

def Link.ends {α : Type} (link : Link α) : NodeKey × NodeKey :=
  (link.source, link.target)

namespace Network

/-! ### The specification -/

section Specification

variable (sources targets : List (Node Rat)) (flows : List (Flow Rat)) (range : TimeRange)

def passengersBetween (pair : NodeKey × NodeKey) : Rat :=
  ((flows.filter fun flow => flow.ends sources targets range = pair).map (·.value)).sum

/-- The passengers who come from a sentinel or go to it. -/
def passengersAt (kind : Sentinel) : Rat :=
  ((flows.filter fun flow => (flow.ends sources targets range).1 = .sentinel kind ∨
    (flow.ends sources targets range).2 = .sentinel kind).map (·.value)).sum

/-- The nodes of those sentinels that have passengers. -/
def sentinelsOf (kinds : List Sentinel) : List (Node Rat) :=
  (kinds.filter fun kind => 0 < passengersAt sources targets flows range kind).map fun kind =>
    { key := .sentinel kind
      displayTime := 0
      occupancy := passengersAt sources targets flows range kind
      capacity := 0 }

/-- A network with one link for every two nodes that flows are classified to, in the order of the
first such flow, and with a sentinel for all passengers at it. -/
structure IsGrouping (network : Network Rat) : Prop where
  nodup_ends : (network.links.map Link.ends).Nodup
  mem_ends_iff : ∀ pair, pair ∈ network.links.map Link.ends ↔
    (∃ flow ∈ flows, flow.ends sources targets range = pair) ∧
      ∀ kind, pair.1 = .sentinel kind ∨ pair.2 = .sentinel kind →
        0 < passengersAt sources targets flows range kind
  value_eq : ∀ link ∈ network.links,
    link.value = passengersBetween sources targets flows range link.ends
  id_eq : network.links.map (·.id) = List.range network.links.length
  ordered : (network.links.map Link.ends).Pairwise fun a b =>
    (flows.map (Flow.ends sources targets range)).idxOf a <
      (flows.map (Flow.ends sources targets range)).idxOf b
  sources_eq : network.sources = sentinelsOf sources targets flows range [.boarding, .previous] ++
    sources.filter fun node => !node.key.isSentinel
  targets_eq : network.targets = (targets.filter fun node => !node.key.isSentinel) ++
    sentinelsOf sources targets flows range [.future, .exiting]
  sum_value : (network.links.map (·.value)).sum = (flows.map (·.value)).sum

end Specification

/-! ### Checks -/

section Checks

variable {α : Type} [Quantity α]

theorem checkFlows_eq_ok_iff {index : Nat} {flows : List (Flow α)} :
    checkFlows index flows = .ok () ↔ ∀ flow ∈ flows, IsCount flow.value := by
  induction flows generalizing index with
  | nil => simp [checkFlows, pure, Except.pure]
  | cons flow rest ih =>
    rw [checkFlows, Fault.check_bind_eq_ok_iff, Fault.checkCount_eq_ok_iff, ih,
      List.forall_mem_cons]

/-- The first flow that is not a count is refused. -/
theorem checkFlows_eq_error {index : Nat} {before after : List (Flow α)} {flow : Flow α}
    (counts : ∀ flow ∈ before, IsCount flow.value) (refused : ¬ IsCount flow.value) :
    checkFlows index (before ++ flow :: after) =
      .error (Fault.notCount .value (.flow (index + before.length)) flow.value) := by
  induction before generalizing index with
  | nil =>
    rw [List.nil_append, checkFlows, Fault.checkCount_eq_error refused]
    rfl
  | cons first rest ih =>
    obtain ⟨count, counts⟩ := List.forall_mem_cons.mp counts
    rw [List.cons_append, checkFlows, Fault.checkCount_eq_ok_iff.mpr count, List.length_cons,
      Nat.add_comm rest.length, ← Nat.add_assoc, ← ih counts]
    rfl

end Checks

/-! ### Links -/

section Links

variable {α : Type} [Quantity α]

theorem isDrawn_iff {transfers : List (Transfer α)} {key : NodeKey} :
    Transfer.isDrawn transfers key = true ↔
      ∀ kind, key = .sentinel kind → 0 < Transfer.passengers transfers kind := by
  cases key with
  | real entity => simp [Transfer.isDrawn]
  | sentinel kind => simp [Transfer.isDrawn, Transfer.isPresent]

def linkedPairs (transfers : List (Transfer α)) : List (NodeKey × NodeKey) :=
  (transfers.map Transfer.ends).eraseDups.filter fun pair =>
    Transfer.isDrawn transfers pair.1 && Transfer.isDrawn transfers pair.2

theorem linksOf_eq (transfers : List (Transfer α)) :
    linksOf transfers = (linkedPairs transfers).zipIdx.map fun (pair, id) =>
      ⟨id, pair.1, pair.2, total (Transfer.valuesBetween transfers pair)⟩ := by
  rw [linksOf, Transfer.merged_eq, List.filter_map, List.zipIdx_map, List.map_map]
  rfl

theorem map_ends_linksOf (transfers : List (Transfer α)) :
    (linksOf transfers).map Link.ends = linkedPairs transfers := by
  rw [linksOf_eq, List.map_map]
  exact List.zipIdx_map_fst 0 _

theorem map_id_linksOf (transfers : List (Transfer α)) :
    (linksOf transfers).map (·.id) = List.range (linksOf transfers).length := by
  rw [linksOf_eq, List.map_map, List.length_map, List.length_zipIdx, List.range_eq_range']
  exact List.zipIdx_map_snd 0 _

theorem value_of_mem_linksOf {transfers : List (Transfer α)} {link : Link α}
    (member : link ∈ linksOf transfers) :
    link.value = total (Transfer.valuesBetween transfers link.ends) := by
  rw [linksOf_eq] at member
  obtain ⟨⟨pair, id⟩, -, rfl⟩ := List.mem_map.mp member
  rfl

end Links

/-- Between nodes that are not linked there is nobody. -/
theorem total_valuesBetween_eq_zero {transfers : List (Transfer Rat)}
    (counts : ∀ transfer ∈ transfers, 0 ≤ transfer.value) {pair : NodeKey × NodeKey}
    (left_out : (Transfer.isDrawn transfers pair.1 && Transfer.isDrawn transfers pair.2) = false) :
    total (Transfer.valuesBetween transfers pair) = 0 := by
  obtain ⟨kind, here, nobody⟩ : ∃ kind, (pair.1 = .sentinel kind ∨ pair.2 = .sentinel kind) ∧
      Transfer.passengers transfers kind ≤ 0 := by
    by_contra! somebody
    have drawn : Transfer.isDrawn transfers pair.1 = true ∧
        Transfer.isDrawn transfers pair.2 = true :=
      ⟨isDrawn_iff.mpr fun kind here => somebody kind (.inl here),
        isDrawn_iff.mpr fun kind here => somebody kind (.inr here)⟩
    rw [drawn.1, drawn.2] at left_out
    exact Bool.noConfusion left_out
  rw [Transfer.passengers, total_rat] at nobody
  rw [total_rat, Transfer.valuesBetween]
  -- Whoever goes between the two nodes is at the absent sentinel as well.
  have fewer := sum_map_filter_le (f := (·.value))
    (p := fun transfer : Transfer Rat => transfer.ends = pair)
    (q := fun transfer => transfer.source = .sentinel kind ∨ transfer.target = .sentinel kind)
    (fun transfer _ same => ?_) counts
  · refine le_antisymm (fewer.trans nobody) (sum_map_nonneg fun transfer member => ?_)
    exact counts transfer (List.mem_of_mem_filter member)
  · obtain rfl := of_decide_eq_true same
    exact decide_eq_true here

/-- Links carry all passengers, whichever nodes they are counted at. -/
theorem sum_value_filter_linksOf {transfers : List (Transfer Rat)}
    (counts : ∀ transfer ∈ transfers, 0 ≤ transfer.value) (counted : NodeKey × NodeKey → Bool) :
    (((linksOf transfers).filter fun link => counted link.ends).map (·.value)).sum =
      ((transfers.filter fun transfer => counted transfer.ends).map (·.value)).sum := by
  have values : ((linksOf transfers).filter fun link => counted link.ends).map (·.value) =
      ((linkedPairs transfers).filter counted).map fun pair =>
        total (Transfer.valuesBetween transfers pair) := by
    rw [← map_ends_linksOf, List.filter_map, List.map_map]
    apply List.map_congr_left
    intro link member
    exact value_of_mem_linksOf (List.mem_of_mem_filter member)
  rw [values, linkedPairs, List.filter_comm, sum_map_filter, ← Transfer.sum_value_filter_merged,
    Transfer.merged_eq, List.filter_map, List.map_map]
  · rfl
  · exact fun pair _ left_out => total_valuesBetween_eq_zero counts left_out

theorem sum_value_linksOf {transfers : List (Transfer Rat)}
    (counts : ∀ transfer ∈ transfers, 0 ≤ transfer.value) :
    ((linksOf transfers).map (·.value)).sum = (transfers.map (·.value)).sum := by
  simpa using sum_value_filter_linksOf counts fun _ => true

/-! ### The network -/

section Flows

variable {sources targets : List (Node Rat)} {flows : List (Flow Rat)} {range : TimeRange}

def transfersOf (sources targets : List (Node Rat)) (flows : List (Flow Rat)) (range : TimeRange) :
    List (Transfer Rat) :=
  flows.map (Transfer.ofFlow (entities sources) (entities targets) range)

theorem map_ends_transfersOf :
    (transfersOf sources targets flows range).map Transfer.ends =
      flows.map (Flow.ends sources targets range) :=
  List.map_map

theorem total_valuesBetween_transfersOf (pair : NodeKey × NodeKey) :
    total (Transfer.valuesBetween (transfersOf sources targets flows range) pair) =
      passengersBetween sources targets flows range pair := by
  rw [total_rat, Transfer.valuesBetween, transfersOf, List.filter_map, List.map_map]
  rfl

theorem passengers_transfersOf :
    Transfer.passengers (transfersOf sources targets flows range) =
      passengersAt sources targets flows range := by
  funext kind
  rw [Transfer.passengers, total_rat, transfersOf, List.filter_map, List.map_map]
  rfl

theorem sentinels_transfersOf (kinds : List Sentinel) :
    Transfer.sentinels (transfersOf sources targets flows range) kinds =
      sentinelsOf sources targets flows range kinds := by
  rw [sentinelsOf, ← passengers_transfersOf]
  rfl

theorem mem_linkedPairs_transfersOf (pair : NodeKey × NodeKey) :
    pair ∈ linkedPairs (transfersOf sources targets flows range) ↔
      (∃ flow ∈ flows, flow.ends sources targets range = pair) ∧
        ∀ kind, pair.1 = .sentinel kind ∨ pair.2 = .sentinel kind →
          0 < passengersAt sources targets flows range kind := by
  rw [linkedPairs, List.mem_filter, List.mem_eraseDups, map_ends_transfersOf, List.mem_map,
    Bool.and_eq_true, isDrawn_iff, isDrawn_iff, passengers_transfersOf]
  refine and_congr_right fun _ => ?_
  constructor
  · rintro ⟨first, second⟩ kind (here | here)
    · exact first kind here
    · exact second kind here
  · exact fun all => ⟨fun kind here => all kind (.inl here), fun kind here => all kind (.inr here)⟩

theorem isGrouping_transfersOf (counts : ∀ flow ∈ flows, 0 ≤ flow.value) :
    IsGrouping sources targets flows range
      { sources := Transfer.sentinels (transfersOf sources targets flows range)
          [.boarding, .previous] ++ realNodes sources
        targets := realNodes targets ++
          Transfer.sentinels (transfersOf sources targets flows range) [.future, .exiting]
        links := linksOf (transfersOf sources targets flows range) } := by
  have ordered := (pairwise_idxOf_eraseDups
    ((transfersOf sources targets flows range).map Transfer.ends)).filter fun pair =>
      Transfer.isDrawn (transfersOf sources targets flows range) pair.1 &&
        Transfer.isDrawn (transfersOf sources targets flows range) pair.2
  constructor
  · rw [map_ends_linksOf]
    exact (nodup_eraseDups _).filter _
  · intro pair
    rw [map_ends_linksOf, mem_linkedPairs_transfersOf]
  · intro link member
    rw [value_of_mem_linksOf member, total_valuesBetween_transfersOf]
  · exact map_id_linksOf _
  · rw [map_ends_linksOf, linkedPairs]
    rwa [map_ends_transfersOf] at ordered ⊢
  · exact congrArg (· ++ realNodes sources) (sentinels_transfersOf _)
  · exact congrArg (realNodes targets ++ ·) (sentinels_transfersOf _)
  · have values : ∀ transfer ∈ transfersOf sources targets flows range, 0 ≤ transfer.value :=
      List.forall_mem_map.mpr counts
    rw [sum_value_linksOf values, transfersOf, List.map_map]
    rfl

end Flows

theorem ofFlows_eq_error {α : Type} [Quantity α] {sources targets : List (Node α)}
    {before after : List (Flow α)} {flow : Flow α} {range : TimeRange}
    (counts : ∀ flow ∈ before, IsCount flow.value) (refused : ¬ IsCount flow.value) :
    ofFlows sources targets (before ++ flow :: after) range =
      .error (Fault.notCount .value (.flow before.length) flow.value) := by
  rw [ofFlows, checkFlows_eq_error counts refused, Nat.zero_add]
  rfl

/-- Counts of passengers are grouped into a network, and none of them is lost. If a flow is not a
count, the first such flow is refused; this holds in every number type. -/
theorem ofFlows_isGrouping :
    (∀ (sources targets : List (Node Rat)) (flows : List (Flow Rat)) (range : TimeRange),
      (∀ flow ∈ flows, 0 ≤ flow.value) →
        ∃ network, ofFlows sources targets flows range = .ok network ∧
          IsGrouping sources targets flows range network) ∧
      ∀ (α : Type) [Quantity α] (sources targets : List (Node α)) (flows : List (Flow α))
        (range : TimeRange), (∃ flow ∈ flows, ¬ IsCount flow.value) →
          ∃ (before : List (Flow α)) (flow : Flow α) (after : List (Flow α)),
            flows = before ++ flow :: after ∧
            (∀ earlier ∈ before, IsCount earlier.value) ∧ ¬ IsCount flow.value ∧
            ofFlows sources targets flows range =
              .error (Fault.notCount .value (.flow before.length) flow.value) := by
  constructor
  · intro sources targets flows range counts
    have accepted : checkFlows 0 flows = .ok () :=
      checkFlows_eq_ok_iff.mpr fun flow member => isCount_rat.mpr (counts flow member)
    refine ⟨_, ?_, isGrouping_transfersOf counts⟩
    rw [ofFlows, accepted]
    rfl
  · intro α _ sources targets flows range refused
    obtain ⟨flow, found⟩ : ∃ flow,
        flows.find? (fun flow => !decide (IsCount flow.value)) = some flow := by
      rw [← Option.isSome_iff_exists, List.find?_isSome]
      simpa using refused
    obtain ⟨bad, before, after, rfl, counts⟩ := List.find?_eq_some_iff_append.mp found
    have counts : ∀ earlier ∈ before, IsCount earlier.value := by simpa using counts
    have bad : ¬ IsCount flow.value := by simpa using bad
    exact ⟨before, flow, after, rfl, counts, bad, ofFlows_eq_error counts bad⟩

/-- Passengers who change from one trip to another, come from outside, or leave. -/
def changes (last : Rat) : List (Flow Rat) :=
  [⟨⟨some ⟨"a"⟩, none⟩, ⟨some ⟨"b"⟩, none⟩, 3⟩, ⟨.unbound, ⟨some ⟨"b"⟩, none⟩, 2⟩,
    ⟨⟨some ⟨"a"⟩, none⟩, .unbound, 0⟩, ⟨⟨some ⟨"a"⟩, none⟩, ⟨some ⟨"b"⟩, none⟩, last⟩]

/-- The first and the last flow share a link, and nobody leaves. A last flow of less than nobody is
refused by its number. -/
theorem ofFlows_isGrouping_changes :
    (∃ network, ofFlows [⟨.real ⟨"a"⟩, 10, 7, 20⟩] [⟨.real ⟨"b"⟩, 20, 9, 20⟩] (changes 4) ⟨0, 30⟩ =
        .ok network ∧
      network.links = [⟨0, .real ⟨"a"⟩, .real ⟨"b"⟩, 7⟩,
        ⟨1, .sentinel .boarding, .real ⟨"b"⟩, 2⟩] ∧
      IsGrouping [⟨.real ⟨"a"⟩, 10, 7, 20⟩] [⟨.real ⟨"b"⟩, 20, 9, 20⟩] (changes 4) ⟨0, 30⟩
        network) ∧
    ∃ (before : List (Flow Rat)) (flow : Flow Rat) (after : List (Flow Rat)),
      changes (-1) = before ++ flow :: after ∧ ofFlows [] [] (changes (-1)) ⟨0, 30⟩ =
        .error (Fault.notCount .value (.flow before.length) flow.value) := by
  obtain ⟨network, made, grouping⟩ := ofFlows_isGrouping.1 [⟨.real ⟨"a"⟩, 10, 7, 20⟩]
    [⟨.real ⟨"b"⟩, 20, 9, 20⟩] (changes 4) ⟨0, 30⟩ (by decide +kernel)
  have computed : ofFlows [⟨.real ⟨"a"⟩, 10, 7, 20⟩] [⟨.real ⟨"b"⟩, 20, 9, 20⟩] (changes 4)
      ⟨0, 30⟩ = .ok ⟨[⟨.sentinel .boarding, 0, 2, 0⟩, ⟨.real ⟨"a"⟩, 10, 7, 20⟩],
        [⟨.real ⟨"b"⟩, 20, 9, 20⟩],
        [⟨0, .real ⟨"a"⟩, .real ⟨"b"⟩, 7⟩, ⟨1, .sentinel .boarding, .real ⟨"b"⟩, 2⟩]⟩ := by cbv
  obtain rfl := Except.ok.inj (made.symm.trans computed)
  obtain ⟨before, flow, after, split, -, -, refused⟩ :=
    ofFlows_isGrouping.2 Rat [] [] (changes (-1)) ⟨0, 30⟩ (by decide +kernel)
  exact ⟨⟨_, made, rfl, grouping⟩, before, flow, after, split, refused⟩

end Network

end TransitDiagram
