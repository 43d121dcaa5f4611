import Mathlib

/-!
# Lists with keys of their own

When no key occurs twice in a list, a member is found by its key and nothing else is. Other keys may
then be given to the members, one for each, without a change to what is found.
-/

namespace TransitDiagram

variable {β κ : Type} [DecidableEq κ]

/-- A key that occurs once finds the member it belongs to. -/
theorem find?_key_eq_some_iff {key : β → κ} {xs : List β} (nodup : (xs.map key).Nodup) {k : κ}
    {x : β} : xs.find? (fun x => key x = k) = some x ↔ x ∈ xs ∧ key x = k := by
  constructor
  · intro found
    exact ⟨List.mem_of_find?_eq_some found, by simpa using List.find?_some found⟩
  · rintro ⟨member, rfl⟩
    obtain ⟨y, found⟩ : ∃ y, xs.find? (fun y => key y = key x) = some y := by
      rw [← Option.isSome_iff_exists, List.find?_isSome]
      exact ⟨x, member, by simp⟩
    have same : key y = key x := by simpa using List.find?_some found
    rw [found, List.inj_on_of_nodup_map nodup (List.mem_of_find?_eq_some found) member same]

/-- In which order the members stand does not matter to a search for a key that occurs once. -/
theorem find?_key_perm {key : β → κ} {xs ys : List β} (perm : xs.Perm ys)
    (nodup : (xs.map key).Nodup) (k : κ) :
    (xs.find? fun x => key x = k) = ys.find? fun x => key x = k := by
  ext x
  rw [find?_key_eq_some_iff nodup, find?_key_eq_some_iff ((perm.map key).nodup_iff.mp nodup),
    perm.mem_iff]

/-- A search finds a member with the key, if there is one. -/
theorem map_find?_key (key : β → κ) (xs : List β) (k : κ) :
    (xs.find? fun x => key x = k).map key = if k ∈ xs.map key then some k else none := by
  cases found : xs.find? fun x => key x = k with
  | some x =>
    have same : key x = k := by simpa using List.find?_some found
    rw [Option.map_some, ← same, if_pos (List.mem_map_of_mem (List.mem_of_find?_eq_some found))]
  | none =>
    rw [Option.map_none, if_neg]
    intro member
    obtain ⟨x, given, same⟩ := List.mem_map.mp member
    exact absurd (decide_eq_true same) (by simpa using List.find?_eq_none.mp found x given)

/-- An entry of a table in which its key occurs once is what a look-up gives. -/
theorem lookup_eq_some_of_mem {table : List (κ × β)} (nodup : (table.map Prod.fst).Nodup) {k : κ}
    {x : β} (member : (k, x) ∈ table) : table.lookup k = some x := by
  induction table with
  | nil => simp at member
  | cons entry rest ih =>
    obtain ⟨k', y⟩ := entry
    obtain ⟨fresh, nodup⟩ := List.nodup_cons.mp nodup
    rcases List.mem_cons.mp member with same | member
    · obtain ⟨rfl, rfl⟩ := Prod.mk.inj same
      exact List.lookup_cons_self
    · have other : k ≠ k' := fun same => fresh (List.mem_map.mpr ⟨(k, x), member, same⟩)
      rw [List.lookup_cons, beq_eq_false_iff_ne.mpr other]
      exact ih nodup member

/-- A look-up finds the same entry, with its new value, under new keys, if no other key becomes that
of the one looked up. -/
theorem lookup_map_key {κ' β' : Type} [DecidableEq κ'] {table : List (κ × β)} {rename : κ → κ'}
    {k : κ} (change : β → β')
    (distinct : ∀ entry ∈ table, rename entry.1 = rename k → entry.1 = k) :
    (table.map fun entry => (rename entry.1, change entry.2)).lookup (rename k) =
      (table.lookup k).map change := by
  induction table with
  | nil => rfl
  | cons entry rest ih =>
    obtain ⟨here, below⟩ := List.forall_mem_cons.mp distinct
    rw [List.map_cons, List.lookup_cons, List.lookup_cons, ih below]
    by_cases same : k = entry.1
    · simp [same]
    · have other : rename k ≠ rename entry.1 := fun eq => same (here eq.symm).symm
      rw [beq_eq_false_iff_ne.mpr same, beq_eq_false_iff_ne.mpr other]

/-- Any list as long is what a renaming makes of a list without repetitions. -/
theorem exists_map_eq {κ' : Type} [Nonempty κ'] {xs : List κ} {ys : List κ'} (nodup : xs.Nodup)
    (length : xs.length = ys.length) : ∃ rename : κ → κ', xs.map rename = ys := by
  induction xs generalizing ys with
  | nil =>
    obtain rfl := List.length_eq_zero_iff.mp length.symm
    exact ⟨fun _ => Classical.arbitrary κ', rfl⟩
  | cons x xs ih =>
    cases ys with
    | nil => simp at length
    | cons y ys =>
      obtain ⟨fresh, nodup⟩ := List.nodup_cons.mp nodup
      obtain ⟨rename, rfl⟩ := ih nodup (Nat.succ.inj length)
      refine ⟨Function.update rename x y, ?_⟩
      rw [List.map_cons, Function.update_self]
      refine congrArg (y :: ·) (List.map_congr_left fun x' member => ?_)
      have other : x' ≠ x := by
        rintro rfl
        exact fresh member
      exact Function.update_of_ne other y rename

end TransitDiagram
