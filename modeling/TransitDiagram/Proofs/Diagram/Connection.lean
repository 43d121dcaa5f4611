import TransitDiagram.Diagram.Draw
import TransitDiagram.Proofs.Diagram.Rows

/-!
# Links and the nodes at their ends

A link is drawn only if the nodes at both of its ends are in the diagram (`Link.IsConnected`). Of
every other link one end is reported as loose, and `LooseEnd.Reports` says which.
-/

namespace TransitDiagram

/-- What a loose end says of its link: an unknown source is named, and otherwise the target is. -/
structure LooseEnd.Reports {α : Type} (sources : List (Node α)) (link : Link α)
    (loose : LooseEnd) : Prop where
  link_eq : loose.link = link.id
  source : link.source ∉ sources.map (·.key) → loose.side = .source ∧ loose.key = link.source
  target : link.source ∈ sources.map (·.key) → loose.side = .target ∧ loose.key = link.target

namespace Link

variable {α : Type} {sources targets : List (Node α)} {link : Link α}

/-- A link whose ends are both among the nodes. -/
def IsConnected (sources targets : List (Node α)) (link : Link α) : Prop :=
  link.source ∈ sources.map (·.key) ∧ link.target ∈ targets.map (·.key)

instance : DecidablePred (IsConnected sources targets) :=
  fun _ => inferInstanceAs (Decidable (_ ∧ _))

theorem any_key_eq_true_iff {nodes : List (Node α)} {key : NodeKey} :
    (nodes.any fun node => node.key = key) = true ↔ key ∈ nodes.map (·.key) := by
  simp only [List.any_eq_true, decide_eq_true_iff, List.mem_map]

theorem looseEnd?_eq_none_iff :
    link.looseEnd? sources targets = none ↔ link.IsConnected sources targets := by
  rw [IsConnected, ← any_key_eq_true_iff, ← any_key_eq_true_iff, looseEnd?]
  cases sources.any fun node => node.key = link.source <;>
    cases targets.any fun node => node.key = link.target <;> simp

theorem reports_of_looseEnd?_eq_some {loose : LooseEnd}
    (found : link.looseEnd? sources targets = some loose) : loose.Reports sources link := by
  rw [looseEnd?] at found
  by_cases known : (sources.any fun node => node.key = link.source) = true
  · have member := any_key_eq_true_iff.mp known
    rw [known] at found
    split_ifs at found with unknown
    · contradiction
    · obtain rfl := Option.some.inj found
      exact ⟨rfl, fun missing => absurd member missing, fun _ => ⟨rfl, rfl⟩⟩
  · have missing := mt any_key_eq_true_iff.mpr known
    rw [if_pos (by simpa using known)] at found
    obtain rfl := Option.some.inj found
    exact ⟨rfl, fun _ => ⟨rfl, rfl⟩, fun member => absurd member missing⟩

theorem connected_eq_filter (links : List (Link α)) :
    connected sources targets links = links.filter (IsConnected sources targets ·) := by
  apply List.filter_congr
  intro link _
  rw [Bool.eq_iff_iff, Option.isNone_iff_eq_none, looseEnd?_eq_none_iff, decide_eq_true_iff]

theorem endOf_mem_of_mem_connected {links : List (Link α)}
    (member : link ∈ connected sources targets links) (side : Side) :
    side.endOf link ∈ (side.pick sources targets).map (·.key) := by
  rw [connected_eq_filter] at member
  have ends : link.IsConnected sources targets := by simpa using (List.mem_filter.mp member).2
  cases side with
  | source => exact ends.1
  | target => exact ends.2

/-- Loose ends are reported in the order of the links, one of each link that is not connected. -/
theorem forall₂_reports (links : List (Link α)) :
    List.Forall₂ (LooseEnd.Reports sources) (links.filter (¬ IsConnected sources targets ·))
      (links.filterMap (looseEnd? sources targets)) := by
  induction links with
  | nil => exact .nil
  | cons link rest ih =>
    cases found : link.looseEnd? sources targets with
    | none =>
      have ends := looseEnd?_eq_none_iff.mp found
      rw [List.filter_cons_of_neg (by simpa using ends), List.filterMap_cons_none found]
      exact ih
    | some loose =>
      have ends : ¬ link.IsConnected sources targets := by
        rw [← looseEnd?_eq_none_iff, found]
        exact Option.some_ne_none loose
      rw [List.filter_cons_of_pos (by simpa using ends), List.filterMap_cons_some found]
      exact .cons (reports_of_looseEnd?_eq_some found) ih

end Link

end TransitDiagram
