import TransitDiagram.Proofs.Diagram.Stacking

/-!
# Why a diagram is not drawn

`Diagram.IsFault` lists what can be wrong with nodes, links and a style: the fault that a drawing is
refused with is one of these (`Diagram.isFault_of_draw_eq_error`), and names the setting, the node
or the link that is at fault. What has one of them cannot be drawn.
-/

namespace TransitDiagram

open Quantity

variable {α : Type} [Quantity α]

namespace Diagram

/-- The faults of nodes, links and a style. -/
inductive IsFault (sources targets : List (Node α)) (links : List (Link α)) (style : Style α) :
    Fault α → Prop where
  | style (cause : StyleFault α) (refused : style.check = .error (.style cause)) :
    IsFault sources targets links style (.style cause)
  | occupancy (side : Side) (node : Node α) (given : node ∈ side.pick sources targets)
    (refused : ¬ IsCount node.occupancy) :
    IsFault sources targets links style
      (.notCount .occupancy (.node side node.key) node.occupancy)
  | capacity (side : Side) (node : Node α) (given : node ∈ side.pick sources targets)
    (refused : ¬ IsCount node.capacity) :
    IsFault sources targets links style (.notCount .capacity (.node side node.key) node.capacity)
  | repeated (side : Side) (key : NodeKey)
    (twice : List.Duplicate key ((side.pick sources targets).map (·.key))) :
    IsFault sources targets links style (.repeatedNode side key)
  | value (link : Link α) (given : link ∈ links) (refused : ¬ IsCount link.value) :
    IsFault sources targets links style (.notCount .value (.link link.id) link.value)
  | time (side : Side) (node : Node α) (given : node ∈ side.pick sources targets)
    (axis : TimeAxis α) (timed : style.axis = .time axis) (real : node.key.isSentinel = false)
    (unseen : axis.position? node.displayTime = none) :
    IsFault sources targets links style (.noDate (.displayTime node.key) node.displayTime)

end Diagram

/-! ### Styles -/

theorem Fault.eq_of_checkPositive_eq_error {setting : String} {value : α} {fault : Fault α}
    (refused : checkPositive setting value = .error fault) :
    fault = .style (.notPositive setting value) := by
  unfold checkPositive at refused
  split at refused
  · cases refused
  · exact (Except.error.inj refused).symm

theorem Fault.eq_of_checkNonNegative_eq_error {setting : String} {value : α} {fault : Fault α}
    (refused : checkNonNegative setting value = .error fault) :
    fault = .style (.negative setting value) := by
  unfold checkNonNegative at refused
  split at refused
  · cases refused
  · exact (Except.error.inj refused).symm

theorem TimeAxis.exists_of_check_eq_error {axis : TimeAxis α} {fault : Fault α}
    (refused : axis.check = .error fault) : ∃ cause, fault = .style cause := by
  rw [check, Fault.check_bind_eq_error_iff] at refused
  rcases refused with width | ⟨-, hours⟩
  · exact ⟨_, Fault.eq_of_checkPositive_eq_error width⟩
  · exact ⟨_, Fault.eq_of_checkPositive_eq_error hours⟩

theorem Style.exists_of_check_eq_error {style : Style α} {fault : Fault α}
    (refused : style.check = .error fault) : ∃ cause, fault = .style cause := by
  simp only [check, Fault.check_bind_eq_error_iff] at refused
  rcases refused with scale | ⟨-, node | ⟨-, link | ⟨-, padding | ⟨-, gap | ⟨-, rest⟩⟩⟩⟩⟩
  · exact ⟨_, Fault.eq_of_checkPositive_eq_error scale⟩
  · exact ⟨_, Fault.eq_of_checkNonNegative_eq_error node⟩
  · exact ⟨_, Fault.eq_of_checkNonNegative_eq_error link⟩
  · exact ⟨_, Fault.eq_of_checkNonNegative_eq_error padding⟩
  · exact ⟨_, Fault.eq_of_checkNonNegative_eq_error gap⟩
  · split at rest
    · exact ⟨_, (Except.error.inj rest).symm⟩
    · split at rest
      · cases rest
      · exact TimeAxis.exists_of_check_eq_error rest

/-! ### Nodes -/

/-- A node is refused for its own quantities, or for a key that came before. -/
theorem Node.cases_of_checkAll_eq_error {side : Side} {seen : List NodeKey} {nodes : List (Node α)}
    {fault : Fault α} (refused : checkAll side seen nodes = .error fault) :
    (∃ node ∈ nodes, ¬ IsCount node.occupancy ∧
        fault = .notCount .occupancy (.node side node.key) node.occupancy) ∨
      (∃ node ∈ nodes, ¬ IsCount node.capacity ∧
        fault = .notCount .capacity (.node side node.key) node.capacity) ∨
      ∃ key, fault = .repeatedNode side key ∧ key ∈ nodes.map (·.key) ∧
        (key ∈ seen ∨ List.Duplicate key (nodes.map (·.key))) := by
  induction nodes generalizing seen with
  | nil => cases refused
  | cons node rest ih =>
    simp only [checkAll, Fault.check_bind_eq_error_iff, Fault.checkCount_eq_error_iff] at refused
    rcases refused with ⟨occupancy, rfl⟩ | ⟨-, ⟨capacity, rfl⟩ | ⟨-, later⟩⟩
    · exact .inl ⟨node, List.mem_cons_self, occupancy, rfl⟩
    · exact .inr (.inl ⟨node, List.mem_cons_self, capacity, rfl⟩)
    · split at later
      · next again =>
        obtain rfl := Except.error.inj later
        exact .inr (.inr ⟨node.key, rfl, List.mem_cons_self, .inl again⟩)
      · rcases ih later with ⟨n, given, found⟩ | ⟨n, given, found⟩ | ⟨key, rfl, given, before⟩
        · exact .inl ⟨n, List.mem_cons_of_mem node given, found⟩
        · exact .inr (.inl ⟨n, List.mem_cons_of_mem node given, found⟩)
        · refine .inr (.inr ⟨key, rfl, List.mem_cons_of_mem node.key given, ?_⟩)
          -- What was seen for the rest is this node's key, or was seen before.
          rcases before with seen | twice
          · rcases List.mem_cons.mp seen with rfl | seen
            · exact .inr (given.duplicate_cons_self)
            · exact .inl seen
          · exact .inr (twice.duplicate_cons node.key)

namespace Diagram

variable {sources targets : List (Node α)} {links : List (Link α)} {style : Style α}
  {fault : Fault α}

theorem isFault_of_checkAll_eq_error (side : Side)
    (refused : Node.checkAll side [] (side.pick sources targets) = .error fault) :
    IsFault sources targets links style fault := by
  rcases Node.cases_of_checkAll_eq_error refused with
    ⟨node, given, count, rfl⟩ | ⟨node, given, count, rfl⟩ | ⟨key, rfl, -, seen | twice⟩
  · exact .occupancy side node given count
  · exact .capacity side node given count
  · exact absurd seen List.not_mem_nil
  · exact .repeated side key twice

theorem isFault_of_checkNode_eq_error (side : Side) {node : Node α}
    (given : node ∈ side.pick sources targets)
    (refused : style.axis.checkNode node = .error fault) :
    IsFault sources targets links style fault := by
  unfold Axis.checkNode at refused
  split at refused
  · next axis entity timed real =>
    split at refused
    · cases refused
    · next unseen =>
      obtain rfl := Except.error.inj refused
      refine .time side node given axis timed ?_ (by simpa using unseen)
      rw [real]
      rfl
  · cases refused

theorem isFault_of_check_eq_error (refused : check sources targets links style = .error fault) :
    IsFault sources targets links style fault := by
  simp only [check, Fault.check_bind_eq_error_iff] at refused
  rcases refused with
    style | ⟨-, left | ⟨-, right | ⟨-, values | ⟨-, leftTimes | ⟨-, rightTimes⟩⟩⟩⟩⟩
  · obtain ⟨cause, rfl⟩ := Style.exists_of_check_eq_error style
    exact .style cause style
  · exact isFault_of_checkAll_eq_error .source left
  · exact isFault_of_checkAll_eq_error .target right
  · obtain ⟨link, given, found⟩ := Fault.exists_of_forM_eq_error values
    obtain ⟨count, rfl⟩ := Fault.checkCount_eq_error_iff.mp found
    exact .value link given count
  · obtain ⟨node, given, found⟩ := Fault.exists_of_forM_eq_error leftTimes
    exact isFault_of_checkNode_eq_error .source given found
  · obtain ⟨node, given, found⟩ := Fault.exists_of_forM_eq_error rightTimes
    exact isFault_of_checkNode_eq_error .target given found

/-- What has a fault cannot be drawn. -/
theorem IsFault.not_isDrawable (found : IsFault sources targets links style fault) :
    ¬ IsDrawable sources targets links style := by
  intro drawable
  cases found with
  | style cause refused =>
    rw [Style.check_eq_ok_iff.mpr drawable.isDrawable_style] at refused
    cases refused
  | occupancy side node given refused =>
    exact refused ((areDrawable_pick drawable side).occupancy node given)
  | capacity side node given refused =>
    exact refused ((areDrawable_pick drawable side).capacity node given)
  | repeated side key twice => exact twice.not_nodup (areDrawable_pick drawable side).nodup_key
  | value link given refused => exact refused (drawable.isCount_link link given)
  | time side node given axis timed real unseen =>
    have accepted : style.axis.checkNode node = .ok () := by
      cases side with
      | source => exact drawable.checkNode_source node given
      | target => exact drawable.checkNode_target node given
    cases key : node.key with
    | sentinel kind =>
      rw [key] at real
      cases real
    | real entity =>
      simp [Axis.checkNode, timed, key, unseen, Fault.throw_ne_ok] at accepted

/-- A diagram that is not drawn is refused for a fault of what is kept of it. -/
theorem isFault_of_draw_eq_error (refused : draw sources targets links style = .error fault) :
    IsFault (Node.kept sources) (Node.kept targets) links style fault := by
  rw [draw, Fault.check_bind_eq_error_iff] at refused
  rcases refused with refused | ⟨-, drawn⟩
  · exact isFault_of_check_eq_error refused
  · cases drawn

end Diagram

end TransitDiagram
