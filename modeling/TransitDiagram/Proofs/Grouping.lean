import TransitDiagram.Flow
import TransitDiagram.Proofs.Exact

/-!
# Merging transfers

`Transfer.merged` adds transfers one by one to those that it has collected. What it returns can be
said without the loop: the pairs of nodes in the order in which they first occur, each with the sum
of what passes between them (`Transfer.merged_eq`). This holds in every number type, since the sum
is taken in the same order.
-/

namespace TransitDiagram

open Quantity

/-! ### First occurrences -/

section FirstOccurrences

variable {β : Type} [BEq β] [LawfulBEq β]

theorem eraseDups_concat (xs : List β) (x : β) :
    (xs ++ [x]).eraseDups = if x ∈ xs then xs.eraseDups else xs.eraseDups ++ [x] := by
  rw [List.eraseDups_append]
  by_cases seen : x ∈ xs <;> simp [List.removeAll, seen, List.eraseDups_cons]

/-- Without repetitions the members of a list stand in the order of their first occurrences. -/
theorem pairwise_idxOf_eraseDups (xs : List β) :
    xs.eraseDups.Pairwise fun x y => xs.idxOf x < xs.idxOf y := by
  induction xs using List.reverseRecOn with
  | nil => exact .nil
  | append_singleton xs x ih =>
    -- The first occurrences of the members so far stay where they are.
    have earlier : ∀ y ∈ xs.eraseDups, (xs ++ [x]).idxOf y = xs.idxOf y := by
      intro y member
      rw [List.idxOf_append, if_pos (List.mem_eraseDups.mp member)]
    have kept : xs.eraseDups.Pairwise fun y z => (xs ++ [x]).idxOf y < (xs ++ [x]).idxOf z :=
      ih.imp_of_mem fun memberY memberZ less => by rwa [earlier _ memberY, earlier _ memberZ]
    rw [eraseDups_concat]
    split
    · exact kept
    · next fresh =>
      refine List.pairwise_append.mpr ⟨kept, List.pairwise_singleton _ _, fun y member z last => ?_⟩
      rw [List.mem_singleton.mp last, earlier y member, List.idxOf_append, if_neg fresh,
        List.idxOf_cons_self, Nat.zero_add]
      exact List.idxOf_lt_length_of_mem (List.mem_eraseDups.mp member)

theorem nodup_eraseDups (xs : List β) : xs.eraseDups.Nodup :=
  (pairwise_idxOf_eraseDups xs).imp fun less same => by simp [same] at less

end FirstOccurrences

namespace Transfer

variable {α : Type}

def ends (transfer : Transfer α) : NodeKey × NodeKey :=
  (transfer.source, transfer.target)

/-- What passes between two nodes, in order. -/
def valuesBetween (transfers : List (Transfer α)) (pair : NodeKey × NodeKey) : List α :=
  (transfers.filter fun transfer => transfer.ends = pair).map (·.value)

theorem ends_eq_iff {a b : Transfer α} :
    a.source = b.source ∧ a.target = b.target ↔ a.ends = b.ends :=
  Prod.mk_inj.symm

theorem valuesBetween_concat (transfers : List (Transfer α)) (transfer : Transfer α)
    (pair : NodeKey × NodeKey) :
    valuesBetween (transfers ++ [transfer]) pair =
      if transfer.ends = pair then valuesBetween transfers pair ++ [transfer.value]
      else valuesBetween transfers pair := by
  rw [valuesBetween, List.filter_append, List.map_append, List.filter_singleton]
  by_cases here : transfer.ends = pair
  · rw [if_pos here, decide_eq_true here]
    rfl
  · rw [if_neg here, decide_eq_false here]
    exact List.append_nil _

theorem valuesBetween_eq_nil {transfers : List (Transfer α)} {pair : NodeKey × NodeKey}
    (fresh : pair ∉ transfers.map ends) : valuesBetween transfers pair = [] := by
  refine List.map_eq_nil_iff.mpr (List.filter_eq_nil_iff.mpr fun transfer given same => fresh ?_)
  exact List.mem_map.mpr ⟨transfer, given, of_decide_eq_true same⟩

variable [Quantity α]

/-! ### One step -/

/-- A transfer between new nodes comes last, and every other one leaves the nodes as they are. -/
theorem map_ends_add (transfers : List (Transfer α)) (transfer : Transfer α) :
    (add transfers transfer).map ends =
      if transfer.ends ∈ transfers.map ends then transfers.map ends
      else transfers.map ends ++ [transfer.ends] := by
  induction transfers with
  | nil => rfl
  | cons first rest ih =>
    rw [add]
    by_cases same : first.ends = transfer.ends
    · have seen : transfer.ends ∈ (first :: rest).map ends := List.mem_cons.mpr (.inl same.symm)
      rw [if_pos (ends_eq_iff.mpr same), if_pos seen]
      rfl
    · rw [if_neg (mt ends_eq_iff.mp same), List.map_cons, ih, List.map_cons]
      simp only [List.mem_cons, Ne.symm same, false_or]
      split <;> rfl

/-- A transfer changes what passes between its own nodes, and nothing else. -/
theorem value_of_mem_add {transfers : List (Transfer α)} (nodup : (transfers.map ends).Nodup)
    {transfer entry : Transfer α} (member : entry ∈ add transfers transfer) :
    entry ∈ transfers ∧ transfer.ends ≠ entry.ends ∨
      transfer.ends = entry.ends ∧
        ((∃ old ∈ transfers, old.ends = entry.ends ∧ entry.value = old.value + transfer.value) ∨
          transfer.ends ∉ transfers.map ends ∧ entry.value = 0 + transfer.value) := by
  induction transfers with
  | nil =>
    obtain rfl := List.mem_singleton.mp member
    exact .inr ⟨rfl, .inr ⟨List.not_mem_nil, rfl⟩⟩
  | cons first rest ih =>
    obtain ⟨alone, nodup⟩ := List.nodup_cons.mp nodup
    rw [add] at member
    by_cases same : first.ends = transfer.ends
    · rw [if_pos (ends_eq_iff.mpr same)] at member
      rcases List.mem_cons.mp member with rfl | below
      · exact .inr ⟨same.symm, .inl ⟨first, List.mem_cons_self, rfl, rfl⟩⟩
      · refine .inl ⟨List.mem_cons_of_mem _ below, fun again => alone ?_⟩
        exact List.mem_map.mpr ⟨entry, below, again.symm.trans same.symm⟩
    · rw [if_neg (mt ends_eq_iff.mp same)] at member
      rcases List.mem_cons.mp member with rfl | below
      · exact .inl ⟨List.mem_cons_self, Ne.symm same⟩
      · rcases ih nodup below with ⟨kept, other⟩ | ⟨here, ⟨old, given, eq⟩ | ⟨fresh, value⟩⟩
        · exact .inl ⟨List.mem_cons_of_mem _ kept, other⟩
        · exact .inr ⟨here, .inl ⟨old, List.mem_cons_of_mem _ given, eq⟩⟩
        · refine .inr ⟨here, .inr ⟨?_, value⟩⟩
          rw [List.map_cons, List.mem_cons, not_or]
          exact ⟨Ne.symm same, fresh⟩

/-! ### All steps -/

theorem merged_concat (transfers : List (Transfer α)) (transfer : Transfer α) :
    merged (transfers ++ [transfer]) = add (merged transfers) transfer := by
  rw [merged, List.foldl_append]
  rfl

theorem map_ends_merged (transfers : List (Transfer α)) :
    (merged transfers).map ends = (transfers.map ends).eraseDups := by
  induction transfers using List.reverseRecOn with
  | nil => rfl
  | append_singleton transfers transfer ih =>
    rw [merged_concat, map_ends_add, ih, List.map_append, List.map_singleton, eraseDups_concat]
    simp only [List.mem_eraseDups]

theorem nodup_ends_merged (transfers : List (Transfer α)) :
    ((merged transfers).map ends).Nodup := by
  rw [map_ends_merged]
  exact nodup_eraseDups _

theorem total_concat (xs : List α) (x : α) : total (xs ++ [x]) = total xs + x :=
  List.foldl_append

theorem value_of_mem_merged {transfers : List (Transfer α)} {entry : Transfer α}
    (member : entry ∈ merged transfers) :
    entry.value = total (valuesBetween transfers entry.ends) := by
  -- The last transfer is the last one that is added, so the induction takes it off first.
  induction transfers using List.reverseRecOn generalizing entry with
  | nil => exact absurd member List.not_mem_nil
  | append_singleton transfers transfer ih =>
    rw [merged_concat] at member
    rw [valuesBetween_concat]
    rcases value_of_mem_add (nodup_ends_merged transfers) member with
      ⟨kept, other⟩ | ⟨here, ⟨old, given, same, value⟩ | ⟨fresh, value⟩⟩
    · rw [if_neg other, ih kept]
    · rw [if_pos here, total_concat, value, ih given, same]
    · rw [map_ends_merged, List.mem_eraseDups, here] at fresh
      rw [if_pos here, total_concat, value, valuesBetween_eq_nil fresh]
      rfl

/-- The merged transfers: one for every two nodes, in the order in which they first occur, with the
sum of what passes between them. -/
theorem merged_eq (transfers : List (Transfer α)) :
    merged transfers = (transfers.map ends).eraseDups.map fun pair =>
      ⟨pair.1, pair.2, total (valuesBetween transfers pair)⟩ := by
  rw [← map_ends_merged, List.map_map]
  conv_lhs => rw [← List.map_id (merged transfers)]
  refine List.map_congr_left fun entry member => ?_
  rw [Function.comp_apply, ← value_of_mem_merged member]
  rfl

/-- What a transfer counts for when only some pairs of nodes are counted. -/
def worth (counted : NodeKey × NodeKey → Bool) (transfer : Transfer Rat) : Rat :=
  if counted transfer.ends then transfer.value else 0

theorem sum_worth_add (counted : NodeKey × NodeKey → Bool) (transfers : List (Transfer Rat))
    (transfer : Transfer Rat) :
    ((add transfers transfer).map (worth counted)).sum =
      (transfers.map (worth counted)).sum + worth counted transfer := by
  induction transfers with
  | nil => simp [add, worth, ends]
  | cons first rest ih =>
    rw [add]
    split
    · next same =>
      -- The entry between the same nodes is counted exactly if the transfer is.
      have grown : worth counted { first with value := first.value + transfer.value } =
          worth counted first + worth counted transfer := by
        simp only [worth, ← ends_eq_iff.mp same]
        show (if counted first.ends then first.value + transfer.value else 0) = _
        split <;> simp
      rw [List.map_cons, List.sum_cons, List.map_cons, List.sum_cons, grown]
      ring
    · rw [List.map_cons, List.sum_cons, List.map_cons, List.sum_cons, ih]
      ring

/-- Merging loses no passengers, whichever nodes they are counted at. -/
theorem sum_value_filter_merged (counted : NodeKey × NodeKey → Bool)
    (transfers : List (Transfer Rat)) :
    (((merged transfers).filter fun transfer => counted transfer.ends).map (·.value)).sum =
      ((transfers.filter fun transfer => counted transfer.ends).map (·.value)).sum := by
  rw [← sum_map_ite, ← sum_map_ite]
  induction transfers using List.reverseRecOn with
  | nil => rfl
  | append_singleton transfers transfer ih =>
    rw [merged_concat, List.map_append, List.sum_append, List.map_singleton, List.sum_singleton,
      ← ih]
    exact sum_worth_add counted _ transfer

end Transfer

end TransitDiagram
