import Mathlib

/-!
# Stable sorting

Rows and slices are ordered by a sort that keeps what it cannot tell apart in the order in which it
was given. A list that is ordered by some relation beforehand is therefore ordered lexicographically
afterwards: by the sort, and by that relation among equals.
-/

namespace TransitDiagram

open List MergeSort.Internal

variable {β : Type} {le : β → β → Bool} {earlier : β → β → Prop} {xs : List β}

/-- Without repetitions the members of a list stand in the order of their positions. -/
theorem pairwise_idxOf [BEq β] [LawfulBEq β] (nodup : xs.Nodup) :
    xs.Pairwise fun x y => xs.idxOf x < xs.idxOf y := by
  rw [pairwise_iff_getElem]
  intro i j boundI boundJ less
  rwa [nodup.idxOf_getElem i boundI, nodup.idxOf_getElem j boundJ]

/-- Sorting keeps the order of equals. -/
theorem pairwise_mergeSort_stable (trans : ∀ a b c, le a b = true → le b c = true → le a c = true)
    (total : ∀ a b, (le a b || le b a) = true) (ordered : xs.Pairwise earlier) :
    (xs.mergeSort le).Pairwise fun a b => le a b = true ∧ (le b a = true → earlier a b) := by
  -- Sorting by `le` is sorting by `le` and then by position, which is what can be compared.
  rw [← mergeSort_zipIdx, pairwise_map]
  have sorted := pairwise_mergeSort (zipIdxLE_trans trans) (zipIdxLE_total total) xs.zipIdx
  have distinct : ((xs.zipIdx.mergeSort (zipIdxLE le)).map Prod.snd).Nodup := by
    rw [((mergeSort_perm xs.zipIdx (zipIdxLE le)).map Prod.snd).nodup_iff, zipIdx_map_snd]
    exact nodup_range' 1
  refine (sorted.and (pairwise_map.mp distinct)).imp_of_mem ?_
  rintro ⟨a, i⟩ ⟨b, j⟩ memberA memberB ⟨below, different⟩
  rw [mem_mergeSort, mk_mem_zipIdx_iff_getElem?] at memberA memberB
  by_cases first : le a b = true
  · refine ⟨first, fun second => ?_⟩
    have positions : i ≤ j := by simpa [zipIdxLE, first, second] using below
    obtain ⟨boundA, rfl⟩ := List.getElem?_eq_some_iff.mp memberA
    obtain ⟨boundB, rfl⟩ := List.getElem?_eq_some_iff.mp memberB
    exact pairwise_iff_getElem.mp ordered i j boundA boundB (lt_of_le_of_ne positions different)
  · simp [zipIdxLE, first] at below

end TransitDiagram
