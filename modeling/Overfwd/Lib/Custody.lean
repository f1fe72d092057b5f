import Mathlib.Algebra.BigOperators.Group.Multiset.Basic
import Mathlib.Algebra.GroupWithZero.Nat
import Mathlib.Algebra.Order.BigOperators.Group.List
import Mathlib.Algebra.Order.Group.Nat
import Mathlib.Algebra.Order.Monoid.Canonical.Basic
import Mathlib.Algebra.Order.Group.Multiset
import Overfwd.Lib.Interleaving

namespace Custody

open Interleaving

variable {L Q S T : Type} {A : Q → Type}

/-- What a question hands over, what its answer hands back, all that was ever created
and all that lies outside of the threads. -/
structure Ledger (Q : Type) (A : Q → Type) (S T : Type) where
  gives : Q → Multiset T
  gets : (q : Q) → A q → Multiset T
  created : S → Multiset T
  outside : S → Multiset T

def held (rs : List (L × Multiset T)) : Multiset T := (rs.map Prod.snd).sum

theorem held_append (rs rs' : List (L × Multiset T)) : held (rs ++ rs') = held rs + held rs' := by
  unfold held
  rw [List.map_append, List.sum_append]

theorem held_cons (l : L) (g : Multiset T) (rs : List (L × Multiset T)) :
    held ((l, g) :: rs) = g + held rs := by
  unfold held
  rw [List.map_cons, List.sum_cons]

variable (b : Ledger Q A S T)

namespace Ledger

/-- Nothing is lost and nothing appears twice in a step. -/
def Moves (s : S) (q : Q) (x : A q) (s' : S) : Prop :=
  b.created s + b.outside s' + b.gets q x = b.created s' + b.outside s + b.gives q

def Balanced (s : S) (rs : List (L × Multiset T)) : Prop :=
  b.created s = b.outside s + held rs

end Ledger

theorem balanced_spawn (s : S) (rs : List (L × Multiset T)) (l : L) (h : b.Balanced s rs) :
    b.Balanced s (rs ++ [(l, 0)]) := by
  unfold Ledger.Balanced at h ⊢
  have hnew : held [(l, (0 : Multiset T))] = 0 := rfl
  rw [held_append, hnew, add_zero]
  exact h

/-- What a thread holds was created. -/
theorem mem_created (s : S) (rs : List (L × Multiset T)) (h : b.Balanced s rs) (l : L)
    (g : Multiset T) (hr : (l, g) ∈ rs) (t : T) (ht : t ∈ g) : t ∈ b.created s := by
  rw [h]
  apply Multiset.mem_add.mpr
  right
  obtain ⟨before, after, rfl⟩ := List.append_of_mem hr
  rw [held_append, held_cons]
  simp [ht]

variable [DecidableEq T]

/-- What a thread holds after an answer. -/
def Ledger.next (g : Multiset T) (q : Q) (x : A q) : Multiset T := g - b.gives q + b.gets q x

theorem Ledger.next_eq_self (g : Multiset T) (q : Q) (x : A q) (hgives : b.gives q = 0)
    (hgets : b.gets q x = 0) : b.next g q x = g := by
  rw [Ledger.next, hgives, hgets, tsub_zero, add_zero]

theorem balanced_act (s s' : S) (before after : List (L × Multiset T)) (l : L) (g : Multiset T)
    (q : Q) (x : A q) (h : b.Balanced s (before ++ (l, g) :: after)) (hgives : b.gives q ≤ g)
    (hmoves : b.Moves s q x s') : b.Balanced s' (before ++ (l, b.next g q x) :: after) := by
  unfold Ledger.Balanced Ledger.next at *
  unfold Ledger.Moves at hmoves
  rw [held_append, held_cons] at h ⊢
  -- Count one resource at a time.
  ext t
  have hcount := congrArg (Multiset.count t) h
  have hmoved := congrArg (Multiset.count t) hmoves
  have hle := Multiset.count_le_of_le t hgives
  simp only [Multiset.count_add, Multiset.count_sub] at hcount hmoved ⊢
  omega

theorem count_held (rs : List (L × Multiset T)) (t : T) :
    (held rs).count t = (rs.map fun r => r.2.count t).sum := by
  induction rs with
  | nil => rfl
  | cons r rs ih =>
    obtain ⟨l, g⟩ := r
    rw [held_cons, Multiset.count_add, ih, List.map_cons, List.sum_cons]

/-- In one place, exactly once, if it was ever created. -/
theorem balanced_count (s : S) (rs : List (L × Multiset T)) (h : b.Balanced s rs)
    (hcreated : (b.created s).Nodup) (t : T) :
    (b.outside s).count t + (rs.map fun r => r.2.count t).sum =
      if t ∈ b.created s then 1 else 0 := by
  rw [← count_held, ← Multiset.count_add, ← h]
  exact Multiset.count_eq_of_nodup hcreated

/-- What one thread holds is with nobody else. -/
theorem held_alone (s : S) (before after : List (L × Multiset T)) (l : L) (g : Multiset T)
    (h : b.Balanced s (before ++ (l, g) :: after)) (hcreated : (b.created s).Nodup) (t : T)
    (ht : t ∈ g) : t ∉ b.outside s ∧ ∀ r ∈ before ++ after, t ∉ r.2 := by
  have hplace := balanced_count b s _ h hcreated t
  have hle : (if t ∈ b.created s then 1 else 0) ≤ 1 := by split_ifs <;> omega
  have hone : 1 ≤ g.count t := Multiset.one_le_count_iff_mem.mpr ht
  simp only [List.map_append, List.map_cons, List.sum_append, List.sum_cons] at hplace
  constructor
  · intro houtside
    have hagain := Multiset.one_le_count_iff_mem.mpr houtside
    omega
  · intro r hr hmem
    have hagain : 1 ≤ r.2.count t := Multiset.one_le_count_iff_mem.mpr hmem
    have hsum : r.2.count t ≤ ((before ++ after).map fun r => r.2.count t).sum :=
      List.le_sum_of_mem (List.mem_map.mpr ⟨r, hr, rfl⟩)
    simp only [List.map_append, List.sum_append] at hsum
    omega

end Custody
