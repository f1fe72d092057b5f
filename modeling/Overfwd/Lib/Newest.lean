import Mathlib.Data.Finset.Card
import Mathlib.Data.List.Sort

namespace Newest

variable {α κ : Type} [LinearOrder κ]

/-- Largest key first. -/
def newestFirst (key : α → κ) (xs : List α) : List α :=
  xs.insertionSort fun a b => key b ≤ key a

def newest (key : α → κ) (k : ℕ) (xs : List α) : List α := (newestFirst key xs).take k

section Ordering

variable (key : α → κ)

theorem newestFirst_perm (xs : List α) : (newestFirst key xs).Perm xs :=
  List.perm_insertionSort _ xs

theorem newestFirst_pairwise (xs : List α) :
    (newestFirst key xs).Pairwise fun a b => key b ≤ key a := by
  have htotal : Std.Total fun a b : α => key b ≤ key a := ⟨fun a b => le_total (key b) (key a)⟩
  have htrans : IsTrans α fun a b : α => key b ≤ key a := ⟨fun _ _ _ hab hbc => hbc.trans hab⟩
  exact List.pairwise_insertionSort _ xs

theorem newestFirst_strict (xs : List α) (hkeys : (xs.map key).Nodup) :
    (newestFirst key xs).Pairwise fun a b => key b < key a := by
  have hkeys' : ((newestFirst key xs).map key).Nodup :=
    ((newestFirst_perm key xs).map key).nodup_iff.mpr hkeys
  have hne : (newestFirst key xs).Pairwise fun a b => key a ≠ key b := List.pairwise_map.mp hkeys'
  apply ((newestFirst_pairwise key xs).and hne).imp
  intro a b hab
  exact lt_of_le_of_ne hab.1 hab.2.symm

/-- Whatever order the elements come in, and whatever the sort does with it. -/
theorem eq_newestFirst (xs ys : List α) (hkeys : (xs.map key).Nodup) (hperm : ys.Perm xs)
    (hsorted : ys.Pairwise fun a b => key b ≤ key a) : ys = newestFirst key xs := by
  have hinj := List.inj_on_of_nodup_map hkeys
  apply List.Perm.eq_of_pairwise _ hsorted (newestFirst_pairwise key xs)
  · exact hperm.trans (newestFirst_perm key xs).symm
  · intro a b ha hb hab hba
    apply hinj (hperm.subset ha) ((newestFirst_perm key xs).subset hb)
    exact le_antisymm hba hab

theorem newestFirst_eq_of_perm (xs ys : List α) (hkeys : (xs.map key).Nodup)
    (hperm : ys.Perm xs) : newestFirst key ys = newestFirst key xs :=
  eq_newestFirst key xs _ hkeys ((newestFirst_perm key ys).trans hperm) (newestFirst_pairwise key ys)

theorem newest_eq_of_perm (k : ℕ) (xs ys : List α) (hkeys : (xs.map key).Nodup)
    (hperm : ys.Perm xs) : newest key k ys = newest key k xs := by
  unfold newest
  rw [newestFirst_eq_of_perm key xs ys hkeys hperm]

end Ordering

/-- `R` lists the `k` largest elements of `S`, or all of them, largest first. -/
structure IsNewest (S : Finset κ) (k : ℕ) (R : List κ) : Prop where
  descending : R.Pairwise fun a b => b < a
  subset : ∀ a ∈ R, a ∈ S
  length : R.length = min k S.card
  rest : ∀ a ∈ R, ∀ b ∈ S, b ∉ R → b < a

theorem newest_isNewest (k : ℕ) (xs : List κ) (hnodup : xs.Nodup) :
    IsNewest xs.toFinset k (newest id k xs) := by
  have hkeys : (xs.map id).Nodup := by rwa [List.map_id]
  have hstrict := newestFirst_strict id xs hkeys
  have hperm := newestFirst_perm id xs
  constructor
  · exact hstrict.sublist (List.take_sublist k _)
  · intro a ha
    exact List.mem_toFinset.mpr (hperm.subset (List.mem_of_mem_take ha))
  · rw [newest, List.length_take, hperm.length_eq, List.toFinset_card_of_nodup hnodup]
  · intro a ha b hb hleft
    have hb' : b ∈ newestFirst id xs := hperm.symm.subset (List.mem_toFinset.mp hb)
    rw [← List.take_append_drop k (newestFirst id xs)] at hb' hstrict
    have hdropped := (List.mem_append.mp hb').resolve_left hleft
    exact (List.pairwise_append.mp hstrict).2.2 a ha b hdropped

end Newest
