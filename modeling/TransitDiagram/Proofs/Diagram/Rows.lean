import Mathlib
import TransitDiagram.Diagram.Stack
import TransitDiagram.Proofs.Keyed

/-!
# The nodes of the rows

Under either alignment a side of a diagram is placed from one list of rows (`Row.holding`). Those
rows hold every node of the side exactly once (`holding_perm`), and at most one in each row
(`member?`).
-/

namespace TransitDiagram

/-- What two sides have on this one. -/
def Side.pick {β : Type} (side : Side) (source target : β) : β :=
  match side with
  | .source => source
  | .target => target

namespace Row

variable {α : Type}

/-- The node of the row on a side, if it has one. -/
def member? : Side → Row α → Option (SizedNode α)
  | .source, source s => some s
  | .source, target _ => none
  | .source, pair s _ => some s
  | .target, source _ => none
  | .target, target t => some t
  | .target, pair _ t => some t

theorem members_ne_nil (row : Row α) : row.members ≠ [] := by
  cases row <;> simp [members]

theorem mem_members_iff {row : Row α} {side : Side} {sized : SizedNode α} :
    (side, sized) ∈ row.members ↔ row.member? side = some sized := by
  cases row <;> cases side <;> simp [members, member?, eq_comm]

/-- The rows from which a side is placed. -/
def holding (alignment : Alignment) (sources targets : List (SizedNode α)) (side : Side) :
    List (Row α) :=
  match alignment with
  | .paired => paired sources targets
  | .independent => ofSide side (side.pick sources targets)

theorem sorted_perm (rows : List (Row α)) : (sorted rows).Perm rows :=
  List.mergeSort_perm rows _

/-! ### Rows of one side -/

theorem ofSide_perm (side : Side) (nodes : List (SizedNode α)) :
    ((ofSide side nodes).filterMap (member? side)).Perm nodes := by
  refine ((sorted_perm _).filterMap _).trans (List.Perm.of_eq ?_)
  rw [List.filterMap_map]
  cases side <;> exact List.filterMap_some

theorem side_of_mem_ofSide {side other : Side} {nodes : List (SizedNode α)} {row : Row α}
    {sized : SizedNode α} (member : row ∈ ofSide side nodes)
    (found : row.member? other = some sized) : other = side := by
  obtain ⟨node, -, rfl⟩ := List.mem_map.mp ((sorted_perm _).mem_iff.mp member)
  cases side <;> cases other <;> simp_all [member?]

/-! ### Rows of both sides -/

variable {sources targets : List (SizedNode α)}

theorem member?_source_ofSource (s : SizedNode α) :
    (ofSource targets s).member? .source = some s := by
  unfold ofSource
  split <;> rfl

theorem member?_target_ofSource (s : SizedNode α) :
    (ofSource targets s).member? .target = targets.find? fun t => t.node.key = s.node.key := by
  unfold ofSource
  split
  · next found => exact found.symm
  · next missing => exact missing.symm

theorem paired_perm_source :
    ((paired sources targets).filterMap (member? .source)).Perm sources := by
  refine ((sorted_perm _).filterMap _).trans (List.Perm.of_eq ?_)
  rw [List.filterMap_append, List.filterMap_map, List.filterMap_map]
  have own : member? .source ∘ ofSource targets = some := by
    funext s
    exact member?_source_ofSource s
  have other : member? .source ∘ target = fun _ : SizedNode α => none := rfl
  rw [own, other, List.filterMap_some, List.filterMap_none, List.append_nil]

/-- The target nodes that stand in a row with a source node. -/
def shared (sources targets : List (SizedNode α)) : List (SizedNode α) :=
  sources.filterMap fun s => targets.find? fun t => t.node.key = s.node.key

theorem mem_shared_iff (nodup : (targets.map (·.node.key)).Nodup) {t : SizedNode α} :
    t ∈ shared sources targets ↔ t ∈ targets ∧ ∃ s ∈ sources, s.node.key = t.node.key := by
  simp only [shared, List.mem_filterMap, find?_key_eq_some_iff nodup]
  constructor
  · rintro ⟨s, member, memberT, same⟩
    exact ⟨memberT, s, member, same.symm⟩
  · rintro ⟨memberT, s, member, same⟩
    exact ⟨s, member, memberT, same.symm⟩

theorem nodup_shared (nodupSource : (sources.map (·.node.key)).Nodup)
    (nodupTarget : (targets.map (·.node.key)).Nodup) : (shared sources targets).Nodup := by
  refine List.pairwise_filterMap.mpr ((List.pairwise_map.mp nodupSource).imp ?_)
  -- One target in the rows of two sources would have the keys of both.
  rintro s s' different t found t' found' rfl
  obtain ⟨-, same⟩ := (find?_key_eq_some_iff nodupTarget).mp found
  obtain ⟨-, same'⟩ := (find?_key_eq_some_iff nodupTarget).mp found'
  exact different (same.symm.trans same')

theorem paired_perm_target (nodupSource : (sources.map (·.node.key)).Nodup)
    (nodupTarget : (targets.map (·.node.key)).Nodup) :
    ((paired sources targets).filterMap (member? .target)).Perm targets := by
  refine ((sorted_perm _).filterMap _).trans ?_
  rw [List.filterMap_append, List.filterMap_map, List.filterMap_map]
  have own : member? .target ∘ target = (some : SizedNode α → _) := rfl
  have other : member? .target ∘ ofSource targets =
      fun s => targets.find? fun t => t.node.key = s.node.key := by
    funext s
    exact member?_target_ofSource s
  rw [own, other, List.filterMap_some, ← shared]
  -- A target is shared or stands alone, by whether a source has its key.
  have nodup_targets : targets.Nodup := List.Nodup.of_map _ nodupTarget
  refine (List.perm_ext_iff_of_nodup ?_ nodup_targets).mpr fun t => ?_
  · refine List.nodup_append.mpr
      ⟨nodup_shared nodupSource nodupTarget, nodup_targets.filter _, ?_⟩
    rintro t memberShared t' memberAlone rfl
    obtain ⟨-, s, member, same⟩ := (mem_shared_iff nodupTarget).mp memberShared
    simp only [List.mem_filter, List.any_eq_true, Bool.not_eq_true', ← Bool.not_eq_true]
      at memberAlone
    exact memberAlone.2 ⟨s, member, decide_eq_true same⟩
  · rw [List.mem_append, mem_shared_iff nodupTarget, List.mem_filter]
    by_cases shared : ∃ s ∈ sources, s.node.key = t.node.key <;> simp_all

/-- The rows of a side hold every node of that side once. -/
theorem holding_perm (alignment : Alignment)
    (nodupSource : (sources.map (·.node.key)).Nodup)
    (nodupTarget : (targets.map (·.node.key)).Nodup) (side : Side) :
    ((holding alignment sources targets side).filterMap (member? side)).Perm
      (side.pick sources targets) := by
  cases alignment with
  | independent => exact ofSide_perm side _
  | paired =>
    cases side with
    | source => exact paired_perm_source
    | target => exact paired_perm_target nodupSource nodupTarget

/-- Whatever a row holds, on this side or the other one, was given. -/
theorem mem_pick_of_mem_holding {alignment : Alignment}
    (nodupSource : (sources.map (·.node.key)).Nodup)
    (nodupTarget : (targets.map (·.node.key)).Nodup) {side other : Side} {row : Row α}
    {sized : SizedNode α} (member : row ∈ holding alignment sources targets side)
    (found : row.member? other = some sized) : sized ∈ other.pick sources targets := by
  have held : row ∈ holding alignment sources targets other := by
    cases alignment with
    | paired => exact member
    | independent => rwa [side_of_mem_ofSide member found]
  exact (holding_perm alignment nodupSource nodupTarget other).mem_iff.mp
    (List.mem_filterMap.mpr ⟨row, held, found⟩)

end Row

end TransitDiagram
