import TransitDiagram.Proofs.Network

/-!
# Sentinels among the given nodes

A network is made from the real nodes that are given. They are read twice, once for the entities
that flows are classified by and once for the nodes of the network, and neither time does a given
sentinel count. So node lists that differ in sentinels alone make the same network
(`Node.DifferInSentinels`), and the nodes of a network make that network again.
-/

namespace TransitDiagram

open Quantity

namespace Node

variable {α : Type} {nodes nodes' : List (Node α)}

/-- There is one sentinel more, whatever it is and wherever it stands. -/
inductive AddsSentinel : List (Node α) → List (Node α) → Prop where
  | insert (before after : List (Node α)) (kind : Sentinel) (time : Int64)
      (occupancy capacity : α) :
      AddsSentinel (before ++ after)
        (before ++ ⟨.sentinel kind, time, occupancy, capacity⟩ :: after)

/-- The lists come from one another by adding and removing sentinels. -/
def DifferInSentinels : List (Node α) → List (Node α) → Prop :=
  Relation.EqvGen AddsSentinel

theorem AddsSentinel.cons (node : Node α) (adds : AddsSentinel nodes nodes') :
    AddsSentinel (node :: nodes) (node :: nodes') := by
  obtain ⟨before, after, kind, time, occupancy, capacity⟩ := adds
  exact .insert (node :: before) after kind time occupancy capacity

theorem DifferInSentinels.cons (node : Node α) (differ : DifferInSentinels nodes nodes') :
    DifferInSentinels (node :: nodes) (node :: nodes') := by
  induction differ with
  | rel _ _ adds => exact .rel _ _ (adds.cons node)
  | refl _ => exact .refl _
  | symm _ _ _ ih => exact .symm _ _ ih
  | trans _ _ _ _ _ ih ih' => exact .trans _ _ _ ih ih'

end Node

namespace Network

section Nodes

variable {α : Type} {nodes nodes' : List (Node α)}

theorem realNodes_append (nodes nodes' : List (Node α)) :
    realNodes (nodes ++ nodes') = realNodes nodes ++ realNodes nodes' :=
  List.filter_append nodes nodes'

theorem realNodes_realNodes (nodes : List (Node α)) :
    realNodes (realNodes nodes) = realNodes nodes := by
  rw [realNodes, realNodes, List.filter_filter]
  simp only [Bool.and_self]

/-- Sentinels are no entities. -/
theorem entities_realNodes (nodes : List (Node α)) :
    entities (realNodes nodes) = entities nodes := by
  induction nodes with
  | nil => rfl
  | cons node rest ih =>
    obtain ⟨key, time, occupancy, capacity⟩ := node
    cases key with
    | real entity => exact congrArg (entity :: ·) ih
    | sentinel kind => exact ih

theorem realNodes_eq_of_addsSentinel (adds : Node.AddsSentinel nodes nodes') :
    realNodes nodes = realNodes nodes' := by
  obtain ⟨before, after, kind, time, occupancy, capacity⟩ := adds
  rw [realNodes_append, realNodes_append]
  rfl

theorem differInSentinels_realNodes (nodes : List (Node α)) :
    Node.DifferInSentinels (realNodes nodes) nodes := by
  induction nodes with
  | nil => exact .refl _
  | cons node rest ih =>
    obtain ⟨key, time, occupancy, capacity⟩ := node
    cases key with
    | real entity => exact ih.cons _
    | sentinel kind =>
      exact ih.trans _ _ _ (.rel _ _ (.insert [] rest kind time occupancy capacity))

/-- Lists differ in sentinels alone if they have the same real nodes in the same order. -/
theorem differInSentinels_iff :
    Node.DifferInSentinels nodes nodes' ↔ realNodes nodes = realNodes nodes' := by
  constructor
  · intro differ
    induction differ with
    | rel _ _ adds => exact realNodes_eq_of_addsSentinel adds
    | refl _ => rfl
    | symm _ _ _ ih => exact ih.symm
    | trans _ _ _ _ _ ih ih' => exact ih.trans ih'
  · intro same
    have back := (differInSentinels_realNodes nodes).symm
    rw [same] at back
    exact back.trans _ _ _ (differInSentinels_realNodes nodes')

end Nodes

variable {α : Type} [Quantity α]

theorem ofFlows_congr {sources sources' targets targets' : List (Node α)}
    (left : realNodes sources = realNodes sources') (right : realNodes targets = realNodes targets')
    (flows : List (Flow α)) (range : TimeRange) :
    ofFlows sources targets flows range = ofFlows sources' targets' flows range := by
  have knownLeft : entities sources = entities sources' := by
    rw [← entities_realNodes, left, entities_realNodes]
  have knownRight : entities targets = entities targets' := by
    rw [← entities_realNodes, right, entities_realNodes]
  rw [ofFlows, ofFlows, left, right, knownLeft, knownRight]

theorem realNodes_sentinels (transfers : List (Transfer α)) (kinds : List Sentinel) :
    realNodes (Transfer.sentinels transfers kinds) = [] := by
  rw [realNodes, List.filter_eq_nil_iff, Transfer.sentinels, List.forall_mem_map]
  intro kind _
  exact Bool.noConfusion

/-- The real nodes of a network are the given ones. -/
theorem realNodes_of_ofFlows_eq_ok {sources targets : List (Node α)} {flows : List (Flow α)}
    {range : TimeRange} {network : Network α}
    (made : ofFlows sources targets flows range = .ok network) :
    realNodes network.sources = realNodes sources ∧
      realNodes network.targets = realNodes targets := by
  obtain ⟨-, made⟩ := Fault.check_bind_eq_ok_iff.mp made
  obtain rfl := Fault.pure_eq_ok_iff.mp made
  constructor
  · rw [realNodes_append, realNodes_sentinels, List.nil_append, realNodes_realNodes]
  · rw [realNodes_append, realNodes_sentinels, List.append_nil, realNodes_realNodes]

/-- Sentinels that are added to the given nodes or taken from them change nothing, neither the
network nor the fault, and a network is made again from its own nodes. -/
theorem ofFlows_givenSentinels (sources targets : List (Node α)) (flows : List (Flow α))
    (range : TimeRange) :
    (∀ sources' targets', Node.DifferInSentinels sources sources' →
      Node.DifferInSentinels targets targets' →
        ofFlows sources' targets' flows range = ofFlows sources targets flows range) ∧
    ∀ network, ofFlows sources targets flows range = .ok network →
      ofFlows network.sources network.targets flows range = .ok network := by
  constructor
  · intro sources' targets' left right
    exact ofFlows_congr (differInSentinels_iff.mp left).symm (differInSentinels_iff.mp right).symm
      flows range
  · intro network made
    have same := realNodes_of_ofFlows_eq_ok made
    rw [ofFlows_congr same.1 same.2, made]

/-- A sentinel for less than nobody, one of the other side and a repeated one do not count, nor does
one at the targets. The network has a sentinel of its own, which its nodes make again. -/
theorem ofFlows_givenSentinels_changes :
    ∃ network, ofFlows [⟨.real ⟨"a"⟩, 10, 7, 20⟩] [⟨.real ⟨"b"⟩, 20, 9, 20⟩] (changes 4) ⟨0, 30⟩ =
        .ok network ∧
      network.sources = [⟨.sentinel .boarding, 0, 2, 0⟩, ⟨.real ⟨"a"⟩, 10, 7, 20⟩] ∧
      ofFlows [⟨.sentinel .boarding, 5, -3, 1⟩, ⟨.real ⟨"a"⟩, 10, 7, 20⟩,
          ⟨.sentinel .exiting, 0, 8, 0⟩, ⟨.sentinel .exiting, 0, 8, 0⟩]
        [⟨.sentinel .future, 0, 1, 2⟩, ⟨.real ⟨"b"⟩, 20, 9, 20⟩] (changes 4) ⟨0, 30⟩ = .ok network ∧
      ofFlows network.sources network.targets (changes 4) ⟨0, 30⟩ = .ok network := by
  have made : ofFlows [⟨.real ⟨"a"⟩, 10, 7, 20⟩] [⟨.real ⟨"b"⟩, 20, 9, 20⟩] (changes 4)
      ⟨0, 30⟩ = .ok ⟨[⟨.sentinel .boarding, 0, 2, 0⟩, ⟨.real ⟨"a"⟩, 10, 7, 20⟩],
        [⟨.real ⟨"b"⟩, 20, 9, 20⟩],
        [⟨0, .real ⟨"a"⟩, .real ⟨"b"⟩, 7⟩, ⟨1, .sentinel .boarding, .real ⟨"b"⟩, 2⟩]⟩ := by cbv
  obtain ⟨sameNodes, again⟩ := ofFlows_givenSentinels [⟨.real ⟨"a"⟩, 10, 7, 20⟩]
    [⟨.real ⟨"b"⟩, 20, 9, 20⟩] (changes 4) ⟨0, 30⟩
  refine ⟨_, made, rfl, ?_, again _ made⟩
  rw [← made]
  exact sameNodes _ _ (differInSentinels_iff.mpr rfl) (differInSentinels_iff.mpr rfl)

end Network

end TransitDiagram
