import Mathlib.Algebra.Order.BigOperators.Group.List
import Mathlib.Algebra.Order.Group.Nat
import Mathlib.Algebra.Order.Monoid.Unbundled.Pow
import Overfwd.Lib.Cost

namespace Dialogue

variable {E : Type}

/-- A list put together from at most `n` pieces with `P`. -/
def Pieces (P : List E → Prop) (n : ℕ) (h : List E) : Prop :=
  ∃ ps : List (List E), (∀ p ∈ ps, P p) ∧ ps.length ≤ n ∧ h = ps.flatten

section Rules

variable {P : List E → Prop} {m n : ℕ} {h h' : List E}

theorem pieces_nil (n : ℕ) : Pieces P n [] := ⟨[], by simp, Nat.zero_le n, rfl⟩

theorem pieces_one (hP : P h) : Pieces P 1 h := ⟨[h], by simpa using hP, le_rfl, by simp⟩

theorem pieces_append (hm : Pieces P m h) (hn : Pieces P n h') : Pieces P (m + n) (h ++ h') := by
  obtain ⟨ps, hps, hlen, rfl⟩ := hm
  obtain ⟨qs, hqs, hlen', rfl⟩ := hn
  refine ⟨ps ++ qs, List.forall_mem_append.mpr ⟨hps, hqs⟩, ?_, List.flatten_append.symm⟩
  rw [List.length_append]
  exact Nat.add_le_add hlen hlen'

theorem pieces_mono {P' : List E → Prop} (hn : Pieces P m h) (himp : ∀ p, P p → P' p) (hle : m ≤ n) :
    Pieces P' n h := by
  obtain ⟨ps, hps, hlen, rfl⟩ := hn
  exact ⟨ps, fun p hp => himp p (hps p hp), hlen.trans hle, rfl⟩

/-- What is in the list is in a piece. -/
theorem pieces_mem (hn : Pieces P n h) (e : E) (he : e ∈ h) : ∃ p, P p ∧ e ∈ p ∧ ∀ d ∈ p, d ∈ h := by
  obtain ⟨ps, hps, -, rfl⟩ := hn
  obtain ⟨p, hp, he⟩ := List.mem_flatten.mp he
  exact ⟨p, hps p hp, he, fun d hd => List.mem_flatten.mpr ⟨p, hp, hd⟩⟩

/-- An element stands in a piece, with the part of the piece before it right before it. -/
theorem pieces_split (e : E) (before after : List E) (hn : Pieces P n (before ++ e :: after)) :
    ∃ earlier front back later, P (front ++ e :: back) ∧ before = earlier ++ front ∧
      after = back ++ later := by
  obtain ⟨ps, hps, -, hflat⟩ := hn
  induction ps generalizing before with
  | nil => simp at hflat
  | cons p ps ih =>
    rw [List.flatten_cons] at hflat
    rcases List.append_eq_append_iff.mp hflat with ⟨rest, rfl, hrest⟩ | ⟨rest, rfl, hrest⟩
    · cases rest with
      | nil =>
        obtain ⟨earlier, front, back, later, hP, hbefore, hafter⟩ :=
          ih [] (fun q hq => hps q (by simp [hq])) (by simpa using hrest)
        refine ⟨before ++ earlier, front, back, later, hP, ?_, hafter⟩
        rw [List.append_assoc, ← hbefore, List.append_nil]
      | cons d rest =>
        obtain ⟨rfl, hafter⟩ := List.cons.inj hrest
        exact ⟨[], before, rest, ps.flatten, hps _ (by simp), rfl, hafter⟩
    · obtain ⟨earlier, front, back, later, hP, hbefore, hafter⟩ :=
        ih rest (fun q hq => hps q (by simp [hq])) hrest.symm
      refine ⟨p ++ earlier, front, back, later, hP, ?_, hafter⟩
      rw [List.append_assoc, ← hbefore]

/-- What is cut off from pieces lacks no more than the rest of the piece where the cut is. -/
theorem pieces_prefix (hn : Pieces P n (h ++ h')) :
    ∃ back, Pieces P n (h ++ back) ∧ (back = [] ∨ ∃ front, front ≠ [] ∧ P (front ++ back)) := by
  obtain ⟨ps, hps, hlen, hflat⟩ := hn
  suffices hcut : ∃ back, Pieces P ps.length (h ++ back) ∧
      (back = [] ∨ ∃ front, front ≠ [] ∧ P (front ++ back)) by
    obtain ⟨back, hback, hrest⟩ := hcut
    exact ⟨back, pieces_mono hback (fun _ hp => hp) hlen, hrest⟩
  clear hlen
  induction ps generalizing h with
  | nil =>
    obtain ⟨rfl, -⟩ := List.append_eq_nil_iff.mp hflat
    exact ⟨[], pieces_nil 0, .inl rfl⟩
  | cons p ps ih =>
    rw [List.flatten_cons] at hflat
    rcases List.append_eq_append_iff.mp hflat with ⟨back, hp, -⟩ | ⟨rest, rfl, hrest⟩
    · by_cases hempty : h = []
      · subst hempty
        exact ⟨[], pieces_nil _, .inl rfl⟩
      · have hP : P (h ++ back) := hp ▸ hps p List.mem_cons_self
        refine ⟨back, pieces_mono (pieces_one hP) (fun _ hp => hp) ?_, .inr ⟨h, hempty, hP⟩⟩
        exact Nat.succ_le_succ (Nat.zero_le _)
    · obtain ⟨back, hback, hlast⟩ := ih (fun q hq => hps q (List.mem_cons_of_mem _ hq)) hrest.symm
      refine ⟨back, ?_, hlast⟩
      rw [List.append_assoc, List.length_cons, Nat.add_comm]
      exact pieces_append (pieces_one (hps p List.mem_cons_self)) hback

end Rules

section Costs

variable {Q : Type} {A : Q → Type} {M : Type} [AddCommMonoid M] [PartialOrder M]
  [IsOrderedAddMonoid M]

/-- So many pieces cost so many times what one may cost. -/
theorem pieces_spent {cost : Q → M} {budget : M} {P : List (Exchange Q A) → Prop} {n : ℕ}
    {h : List (Exchange Q A)} (hP : ∀ p, P p → spent cost p ≤ budget) (hpos : 0 ≤ budget)
    (hn : Pieces P n h) : spent cost h ≤ n • budget := by
  obtain ⟨ps, hps, hlen, rfl⟩ := hn
  have hflat : spent cost ps.flatten ≤ ps.length • budget := by
    induction ps with
    | nil => simp
    | cons p ps ih =>
      rw [List.flatten_cons, spent_append, List.length_cons, succ_nsmul']
      exact add_le_add (hP p (hps p (by simp)))
        (ih (fun q hq => hps q (by simp [hq])) ((Nat.le_succ _).trans hlen))
  exact hflat.trans (nsmul_le_nsmul_left hpos hlen)

end Costs

section Layers

variable {Q Q' : Type} {A : Q → Type} {A' : Q' → Type} {answer : ∀ q, Prog Q' A' (A q)}

/-- The pieces of the upper layer, spelt out below. -/
theorem pieces_layered {P : List (Exchange Q A) → Prop} {n : ℕ} {h : List (Exchange Q A)}
    {H : List (Exchange Q' A')} (hn : Pieces P n h) (hlayered : Layered answer h H) :
    Pieces (fun H' => ∃ p, P p ∧ Layered answer p H') n H := by
  obtain ⟨ps, hps, hlen, rfl⟩ := hn
  refine pieces_mono (m := ps.length) ?_ (fun p hp => hp) hlen
  -- Their number is settled; the induction is on the pieces themselves.
  clear hlen
  induction ps generalizing H with
  | nil =>
    obtain rfl := (layered_nil H).mp hlayered
    exact pieces_nil _
  | cons p ps ih =>
    rw [List.flatten_cons, layered_append] at hlayered
    obtain ⟨H₁, H₂, h₁, h₂, rfl⟩ := hlayered
    rw [List.length_cons, Nat.add_comm]
    exact pieces_append (pieces_one ⟨p, hps p (by simp), h₁⟩)
      (ih (fun q hq => hps q (by simp [hq])) h₂)

end Layers

end Dialogue
