import Overfwd.Lib.Layers
import Overfwd.Lib.Outcome

namespace Dialogue

open Outcome

variable {Q Q' : Type} {A : Q → Type} {A' : Q' → Type} {ε α β : Type}

/-- In no run does the program end with an error outside of `E`. -/
def Raises (E : ε → Prop) (p : Prog Q A (Except ε α)) : Prop := ∀ h r, Plays p h r → FailsOnly E r

section Rules

variable {E : ε → Prop}

theorem raises_mono {E' : ε → Prop} {p : Prog Q A (Except ε α)} (hp : Raises E p)
    (himp : ∀ e, E e → E' e) : Raises E' p :=
  fun h r hplays e he => himp e (hp h r hplays e he)

theorem raises_pure (a : α) : Raises E (ExceptT.run (pure a : Fallible ε Q A α)) := by
  intro h r hplays e he
  obtain ⟨-, rfl⟩ := (plays_run_pure _ _).mp hplays
  cases he

theorem raises_throw {e : ε} (he : E e) : Raises E (ExceptT.run (throw e : Fallible ε Q A α)) := by
  intro h r hplays e' he'
  obtain ⟨-, rfl⟩ := (plays_throw _ _).mp hplays
  cases he'
  exact he

theorem raises_except {x : Except ε α} (hx : FailsOnly E x) :
    Raises E (ExceptT.run (liftM x : Fallible ε Q A α)) := by
  intro h r hplays
  obtain ⟨-, rfl⟩ := (plays_except _ _).mp hplays
  exact hx

theorem raises_lift (p : Prog Q A α) : Raises E (ExceptT.run (liftM p : Fallible ε Q A α)) := by
  intro h r hplays e he
  obtain ⟨a, -, rfl⟩ := (plays_lift _ _).mp hplays
  cases he

theorem raises_attempt {δ : Type} {mapErr : δ → ε} (p : Prog Q A (Except δ α))
    (h : ∀ err, E (mapErr err)) : Raises E (ExceptT.run (attempt mapErr p)) := by
  intro h' r hplays
  obtain ⟨x, -, rfl⟩ := (plays_attempt _ _ _).mp hplays
  exact failsOnly_mapError x mapErr h

theorem raises_bind {p : Fallible ε Q A α} {f : α → Fallible ε Q A β}
    (hp : Raises E (ExceptT.run p)) (hf : ∀ a, Raises E (ExceptT.run (f a))) :
    Raises E (ExceptT.run (p >>= f)) := by
  intro h r hplays e he
  rcases (plays_fallible_bind _ _ _).mp hplays with ⟨e', hfirst, rfl⟩ | ⟨h₁, a, h₂, -, hrest, -⟩
  · cases he
    exact hp h _ hfirst e rfl
  · exact hf a h₂ r hrest e he

/-- Who answers the questions changes nothing about the errors. -/
theorem raises_handle {p : Prog Q A (Except ε α)} (answer : ∀ q, Prog Q' A' (A q))
    (hp : Raises E p) : Raises E (p.handle answer) := by
  intro H r hplays
  obtain ⟨h, hp', -⟩ := (plays_handle p H r).mp hplays
  exact hp h r hp'

end Rules

end Dialogue
