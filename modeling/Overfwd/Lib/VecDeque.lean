import Mathlib.Data.List.Basic

namespace VecDeque

variable {α : Type}

/-- `remove`: the element at an index, and the others moved up. -/
def remove (xs : List α) (i : ℕ) : Option (α × List α) := xs[i]?.map fun x => (x, xs.eraseIdx i)

/-- Walks from index `i` and takes out what satisfies `p`; the index stays where an element
was taken out. -/
def removeWhere (p : α → Bool) (i : ℕ) (xs removed : List α) : List α × List α :=
  if h : i < xs.length then
    if p xs[i] then removeWhere p i (xs.eraseIdx i) (removed ++ [xs[i]])
    else removeWhere p (i + 1) xs removed
  else (removed, xs)
termination_by xs.length - i
decreasing_by
  · have hlength := List.length_eraseIdx_of_lt h
    omega
  · omega

/-- `rposition` below index `n`, from the back. -/
def rpositionBelow (p : α → Bool) (xs : List α) : ℕ → Option ℕ
  | 0 => none
  | n + 1 => if xs[n]?.any p then some n else rpositionBelow p xs n

/-- `rposition`: the last index whose element satisfies `p`. -/
def rposition (p : α → Bool) (xs : List α) : Option ℕ := rpositionBelow p xs xs.length

/-- Pops from the front while there are more than `cap`. -/
def popExcess (cap : ℕ) (removed : List α) : List α → List α × List α
  | [] => (removed, [])
  | x :: xs => if cap < (x :: xs).length then popExcess cap (removed ++ [x]) xs else (removed, x :: xs)

theorem remove_append (before after : List α) (x : α) :
    remove (before ++ x :: after) before.length = some (x, before ++ after) := by
  have hget : (before ++ x :: after)[before.length]? = some x := by simp
  have herase : (before ++ x :: after).eraseIdx before.length = before ++ after := by
    rw [List.eraseIdx_append_of_length_le (Nat.le_refl _), Nat.sub_self, List.eraseIdx_cons_zero]
  unfold remove
  rw [hget, herase]
  rfl

/-- What is left of index `i` stays, the rest is filtered. -/
theorem removeWhere_eq (p : α → Bool) (i : ℕ) (xs removed : List α) :
    removeWhere p i xs removed =
      (removed ++ (xs.drop i).filter p, xs.take i ++ (xs.drop i).filter fun x => !p x) := by
  -- On the walk itself: where an element is taken out the rest moves up under the index.
  induction i, xs, removed using removeWhere.induct p with
  | case1 i xs removed h hp ih =>
    have hdrop : xs.drop i = xs[i] :: xs.drop (i + 1) := List.drop_eq_getElem_cons h
    have herase : (xs.eraseIdx i).drop i = xs.drop (i + 1) := by
      rw [List.eraseIdx_eq_take_drop_succ, List.drop_append_of_le_length, List.drop_take_self]
      · rfl
      · rw [List.length_take]
        omega
    have htake : (xs.eraseIdx i).take i = xs.take i := by
      rw [List.eraseIdx_eq_take_drop_succ, List.take_append_of_le_length, List.take_take,
        Nat.min_self]
      rw [List.length_take]
      omega
    have hnot : ¬(!p xs[i]) = true := by simp [hp]
    rw [removeWhere, dif_pos h, if_pos hp, ih, herase, htake, hdrop, List.filter_cons_of_pos hp,
      List.filter_cons_of_neg (p := fun x => !p x) hnot, List.append_assoc, List.singleton_append]
  | case2 i xs removed h hp ih =>
    have hdrop : xs.drop i = xs[i] :: xs.drop (i + 1) := List.drop_eq_getElem_cons h
    have htake : xs.take (i + 1) = xs.take i ++ [xs[i]] := List.take_succ_eq_append_getElem h
    have hkeep : (!p xs[i]) = true := by simp [hp]
    rw [removeWhere, dif_pos h, if_neg hp, ih, hdrop, htake, List.filter_cons_of_neg hp,
      List.filter_cons_of_pos (p := fun x => !p x) hkeep, List.append_assoc, List.singleton_append]
  | case3 i xs removed h =>
    have hdrop : xs.drop i = [] := List.drop_of_length_le (by omega)
    have htake : xs.take i = xs := List.take_of_length_le (by omega)
    rw [removeWhere, dif_neg h, hdrop, htake]
    simp

theorem rpositionBelow_eq_none (p : α → Bool) (xs : List α) (n : ℕ)
    (h : ∀ x ∈ xs, p x = false) : rpositionBelow p xs n = none := by
  induction n with
  | zero => rfl
  | succ n ih =>
    have hany : xs[n]?.any p = false := by
      cases hx : xs[n]? with
      | none => rfl
      | some x => exact h x (List.mem_of_getElem? hx)
    unfold rpositionBelow
    rw [hany, if_neg (by decide), ih]

theorem rposition_eq_none (p : α → Bool) (xs : List α) (h : ∀ x ∈ xs, p x = false) :
    rposition p xs = none := rpositionBelow_eq_none p xs _ h

/-- Nothing behind the element is found before it. -/
theorem rposition_append (p : α → Bool) (before after : List α) (x : α) (hx : p x = true)
    (hafter : ∀ y ∈ after, p y = false) :
    rposition p (before ++ x :: after) = some before.length := by
  have hbelow (n : ℕ) (hn : n ≤ after.length) :
      rpositionBelow p (before ++ x :: after) (before.length + 1 + n) = some before.length := by
    induction n with
    | zero =>
      have hget : (before ++ x :: after)[before.length]? = some x := by simp
      rw [Nat.add_zero, rpositionBelow, hget]
      exact if_pos hx
    | succ n ih =>
      have hlt : n < after.length := by omega
      have hget : (before ++ x :: after)[before.length + 1 + n]? = some after[n] := by
        rw [List.getElem?_append_right (by omega)]
        have hindex : before.length + 1 + n - before.length = n + 1 := by omega
        rw [hindex, List.getElem?_cons_succ, List.getElem?_eq_getElem hlt]
      rw [← Nat.add_assoc, rpositionBelow, hget]
      have hnot : (some after[n]).any p = false := hafter _ (List.getElem_mem hlt)
      rw [hnot, if_neg (by decide), ih (by omega)]
  have hlength : (before ++ x :: after).length = before.length + 1 + after.length := by
    rw [List.length_append, List.length_cons]
    omega
  unfold rposition
  rw [hlength]
  exact hbelow after.length (Nat.le_refl _)

theorem popExcess_eq (cap : ℕ) (removed xs : List α) :
    popExcess cap removed xs =
      (removed ++ xs.take (xs.length - cap), xs.drop (xs.length - cap)) := by
  induction xs generalizing removed with
  | nil => simp [popExcess]
  | cons x xs ih =>
    unfold popExcess
    by_cases hover : cap < (x :: xs).length
    · have hlength : (x :: xs).length - cap = xs.length - cap + 1 := by
        rw [List.length_cons] at hover ⊢
        omega
      rw [if_pos hover, ih, hlength, List.take_succ_cons, List.drop_succ_cons]
      simp
    · have hlength : (x :: xs).length - cap = 0 := by omega
      rw [if_neg hover, hlength]
      simp

end VecDeque
