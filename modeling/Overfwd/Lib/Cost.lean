import Mathlib.Algebra.BigOperators.Group.List.Basic
import Mathlib.Algebra.Order.Monoid.Defs
import Overfwd.Lib.Layers

namespace Dialogue

variable {Q Q' : Type} {A : Q → Type} {A' : Q' → Type} {ε α β M : Type} [AddCommMonoid M]

/-- The cost of a history. -/
def spent (cost : Q → M) (h : List (Exchange Q A)) : M := (h.map fun e => cost e.1).sum

@[simp] theorem spent_nil (cost : Q → M) : spent cost ([] : List (Exchange Q A)) = 0 := rfl

@[simp] theorem spent_cons (cost : Q → M) (e : Exchange Q A) (h : List (Exchange Q A)) :
    spent cost (e :: h) = cost e.1 + spent cost h := List.sum_cons

@[simp] theorem spent_append (cost : Q → M) (h₁ h₂ : List (Exchange Q A)) :
    spent cost (h₁ ++ h₂) = spent cost h₁ + spent cost h₂ := by
  unfold spent
  rw [List.map_append, List.sum_append]

variable [PartialOrder M]

/-- No run of the program costs more than the budget. -/
def Within (cost : Q → M) (budget : M) (p : Prog Q A α) : Prop :=
  ∀ h a, Plays p h a → spent cost h ≤ budget

section Rules

variable {cost : Q → M} {budget budget₁ budget₂ : M}

theorem within_mono {p : Prog Q A α} (hp : Within cost budget₁ p) (hle : budget₁ ≤ budget₂) :
    Within cost budget₂ p :=
  fun h a hplays => (hp h a hplays).trans hle

theorem within_pure (a : α) : Within cost 0 (pure a : Prog Q A α) := by
  intro h b hplays
  obtain ⟨rfl, -⟩ := (plays_pure _ _).mp hplays
  exact le_rfl

/-- What asks for nothing is within any budget. -/
theorem within_done (a : α) (hpos : 0 ≤ budget) : Within cost budget (pure a : Prog Q A α) :=
  within_mono (within_pure a) hpos

theorem within_call (q : Q) : Within cost (cost q) (call q : Prog Q A (A q)) := by
  intro h x hplays
  rw [(plays_call q x).mp hplays, spent_cons, spent_nil, add_zero]

theorem within_map {p : Prog Q A α} (f : α → β) (hp : Within cost budget p) :
    Within cost budget (f <$> p) := by
  intro h b hplays
  obtain ⟨a, ha, -⟩ := (plays_map p f b).mp hplays
  exact hp h a ha

theorem within_ite {c : Prop} [Decidable c] {p p' : Prog Q A α} (hp : c → Within cost budget p)
    (hp' : ¬c → Within cost budget p') : Within cost budget (if c then p else p') := by
  split_ifs with hc
  · exact hp hc
  · exact hp' hc

theorem within_except (x : Except ε α) :
    Within cost 0 (ExceptT.run (liftM x : Fallible ε Q A α)) := within_pure x

theorem within_throw (e : ε) : Within cost 0 (ExceptT.run (throw e : Fallible ε Q A α)) :=
  within_pure _

theorem within_lift {p : Prog Q A α} (hp : Within cost budget p) :
    Within cost budget (ExceptT.run (liftM p : Fallible ε Q A α)) := within_map _ hp

theorem within_attempt {δ : Type} (mapErr : δ → ε) {p : Prog Q A (Except δ α)}
    (hp : Within cost budget p) : Within cost budget (ExceptT.run (attempt mapErr p)) := by
  unfold attempt
  rw [ExceptT.run_mk, ← map_eq_pure_bind]
  exact within_map _ hp

/-- A check costs nothing. -/
theorem within_except_bind (x : Except ε α) {f : α → Fallible ε Q A β}
    (hf : ∀ a, x = .ok a → Within cost budget (ExceptT.run (f a))) (hpos : 0 ≤ budget) :
    Within cost budget (ExceptT.run (liftM x >>= f)) := by
  intro h r hplays
  rcases (plays_except_bind x f r).mp hplays with ⟨e, -, rfl, -⟩ | ⟨a, ha, hrest⟩
  · exact hpos
  · exact hf a ha h r hrest

variable [IsOrderedAddMonoid M]

theorem within_bind {p : Prog Q A α} {f : α → Prog Q A β} (hp : Within cost budget₁ p)
    (hf : ∀ a, Within cost budget₂ (f a)) : Within cost (budget₁ + budget₂) (p >>= f) := by
  intro h b hplays
  obtain ⟨h₁, a, h₂, ha, hb, rfl⟩ := (plays_bind _ _ _).mp hplays
  rw [spent_append]
  exact add_le_add (hp h₁ a ha) (hf a h₂ b hb)

/-- A failure costs no more than going on. -/
theorem within_fallible_bind {p : Fallible ε Q A α} {f : α → Fallible ε Q A β}
    (hp : Within cost budget₁ (ExceptT.run p)) (hf : ∀ a, Within cost budget₂ (ExceptT.run (f a)))
    (hpos : 0 ≤ budget₂) : Within cost (budget₁ + budget₂) (ExceptT.run (p >>= f)) := by
  intro h r hplays
  rcases (plays_fallible_bind p f r).mp hplays with ⟨e, he, -⟩ | ⟨h₁, a, h₂, ha, hb, rfl⟩
  · exact (hp h _ he).trans (le_add_of_nonneg_right hpos)
  · rw [spent_append]
    exact add_le_add (hp h₁ _ ha) (hf a h₂ r hb)

end Rules

section Handling

variable [IsOrderedAddMonoid M] {answer : ∀ q, Prog Q' A' (A q)} {price : Q → M} {cost : Q' → M}

theorem spent_layered (hanswer : ∀ q, Within cost (price q) (answer q)) {h : List (Exchange Q A)}
    {H : List (Exchange Q' A')} (hlayered : Layered answer h H) : spent cost H ≤ spent price h := by
  induction hlayered with
  | nil => exact le_rfl
  | cons q x h H₁ H₂ hq _ ih =>
    rw [spent_append, spent_cons]
    exact add_le_add (hanswer q H₁ x hq) ih

/-- A budget in terms of what its questions cost to answer is a budget of the whole. -/
theorem within_handle {budget : M} {p : Prog Q A α} (hp : Within price budget p)
    (hanswer : ∀ q, Within cost (price q) (answer q)) : Within cost budget (p.handle answer) := by
  intro H a hplays
  obtain ⟨h, hp', hlayered⟩ := (plays_handle p H a).mp hplays
  exact (spent_layered hanswer hlayered).trans (hp h a hp')

end Handling

end Dialogue
