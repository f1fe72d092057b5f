import Mathlib.Data.List.Sort

namespace Lowest

variable {α β κ : Type} [LinearOrder κ]

/-- `sort_by_key`, which keeps the order of equal keys. -/
def sortByKey (key : α → κ) (xs : List α) : List α := xs.insertionSort fun a b => key a ≤ key b

/-- An element that none is below. -/
structure IsLowest (key : α → κ) (xs : List α) (x : α) : Prop where
  mem : x ∈ xs
  le : ∀ y ∈ xs, key x ≤ key y

/-- The value of a lowest element; none just where there is no element. -/
def PicksLowest (key : α → κ) (value : α → β) (xs : List α) : Option β → Prop
  | none => xs = []
  | some v => ∃ x, IsLowest key xs x ∧ value x = v

/-- All the lowest elements have one value. -/
def NoTies (key : α → κ) (value : α → β) (xs : List α) : Prop :=
  ∀ x y, IsLowest key xs x → IsLowest key xs y → value x = value y

section Lists

variable (key : α → κ) (value : α → β) {xs ys : List α}

theorem isLowest_of_perm (hperm : xs.Perm ys) (x : α) (h : IsLowest key xs x) :
    IsLowest key ys x where
  mem := hperm.subset h.mem
  le y hy := h.le y (hperm.symm.subset hy)

/-- The order of a list does not matter to what is picked from it. -/
theorem picksLowest_unique (hperm : xs.Perm ys) (hties : NoTies key value xs) (v w : Option β)
    (hv : PicksLowest key value xs v) (hw : PicksLowest key value ys w) : v = w := by
  cases v with
  | none =>
    obtain rfl : xs = [] := hv
    have hempty : ys = [] := List.nil_perm.mp hperm
    cases w with
    | none => rfl
    | some w =>
      obtain ⟨y, hy, -⟩ := hw
      have hmem := hy.mem
      rw [hempty] at hmem
      cases hmem
  | some v =>
    obtain ⟨x, hx, rfl⟩ := hv
    cases w with
    | none =>
      obtain rfl : ys = [] := hw
      have hempty : xs = [] := List.perm_nil.mp hperm
      have hmem := hx.mem
      rw [hempty] at hmem
      cases hmem
    | some w =>
      obtain ⟨y, hy, rfl⟩ := hw
      exact congrArg some (hties x y hx (isLowest_of_perm key hperm.symm y hy))

theorem picksLowest_map {γ : Type} (f : γ → α) (zs : List γ) (v : Option β)
    (h : PicksLowest key value (zs.map f) v) :
    PicksLowest (fun z => key (f z)) (fun z => value (f z)) zs v := by
  cases v with
  | none => exact List.map_eq_nil_iff.mp h
  | some v =>
    obtain ⟨x, ⟨hmem, hle⟩, hvalue⟩ := h
    obtain ⟨z, hz, rfl⟩ := List.mem_map.mp hmem
    exact ⟨z, ⟨hz, fun y hy => hle (f y) (List.mem_map_of_mem hy)⟩, hvalue⟩

theorem sortByKey_perm (xs : List α) : (sortByKey key xs).Perm xs := List.perm_insertionSort _ xs

theorem sortByKey_pairwise (xs : List α) :
    (sortByKey key xs).Pairwise fun a b => key a ≤ key b := by
  have htotal : Std.Total fun a b : α => key a ≤ key b := ⟨fun a b => le_total (key a) (key b)⟩
  have htrans : IsTrans α fun a b : α => key a ≤ key b := ⟨fun _ _ _ hab hbc => hab.trans hbc⟩
  exact List.pairwise_insertionSort _ xs

/-- A sorted list has a lowest element in front. -/
theorem picksLowest_sortByKey (xs : List α) :
    PicksLowest key value xs ((sortByKey key xs).head?.map value) := by
  have hperm := sortByKey_perm key xs
  have hsorted := sortByKey_pairwise key xs
  cases hxs : sortByKey key xs with
  | nil =>
    rw [hxs] at hperm
    exact List.nil_perm.mp hperm
  | cons x rest =>
    rw [hxs] at hperm hsorted
    have hle : ∀ y ∈ x :: rest, key x ≤ key y := by
      intro y hy
      rcases List.mem_cons.mp hy with rfl | hy
      · exact le_refl _
      · exact (List.pairwise_cons.mp hsorted).1 y hy
    have hlowest : IsLowest key (x :: rest) x := ⟨by simp, hle⟩
    exact ⟨x, isLowest_of_perm key hperm x hlowest, rfl⟩

end Lists

end Lowest
