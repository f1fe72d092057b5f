import Overfwd.Lib.Rules

namespace Dialogue

variable {Q : Type} {A : Q → Type} {α G : Type} (next : G → (q : Q) → A q → G) (C : Contract Q A G)

/-- Every answer of the history is expected where it is given. -/
def Expected : G → List (Exchange Q A) → Prop
  | _, [] => True
  | g, e :: h => C.expects g e.1 e.2 ∧ Expected (next g e.1 e.2) h

theorem expected_append (g : G) (h₁ h₂ : List (Exchange Q A)) :
    Expected next C g (h₁ ++ h₂) ↔ Expected next C g h₁ ∧ Expected next C (after next g h₁) h₂ := by
  induction h₁ generalizing g with
  | nil => exact ⟨fun h => ⟨trivial, h⟩, fun h => h.2⟩
  | cons e h₁ ih =>
    change _ ∧ Expected next C _ (h₁ ++ h₂) ↔ (_ ∧ Expected next C _ h₁) ∧ _
    rw [ih, and_assoc]
    rfl

variable {next C}

/-- A run with nothing but expected answers ends as the program says. -/
theorem keeps_ends {p : Prog Q A α} {post : α → G → Prop} {g : G} (hkeeps : Keeps next C p post g)
    {h : List (Exchange Q A)} {a : α} (hplays : Plays p h a) (hexpected : Expected next C g h) :
    post a (after next g h) := by
  induction hplays generalizing g with
  | ret a => exact (keeps_ret _ _ _ _ _).mp hkeeps
  | ask q k x h a _ ih =>
    obtain ⟨hx, hrest⟩ := hexpected
    exact ih (((keeps_ask _ _ _ _ _ _).mp hkeeps).2 x hx) hrest

/-- What is asked after expected answers is allowed there. -/
theorem keeps_allows {p : Prog Q A α} {post : α → G → Prop} {g : G} (hkeeps : Keeps next C p post g)
    {h h' : List (Exchange Q A)} {e : Exchange Q A} {a : α} (hplays : Plays p (h ++ e :: h') a)
    (hexpected : Expected next C g h) : C.allowed (after next g h) e.1 := by
  induction h generalizing p g with
  | nil =>
    cases hplays with
    | ask q k x h a _ => exact ((keeps_ask _ _ _ _ _ _).mp hkeeps).1
  | cons d h ih =>
    obtain ⟨hx, hrest⟩ := hexpected
    cases hplays with
    | ask q k x h a hk => exact ih (((keeps_ask _ _ _ _ _ _).mp hkeeps).2 x hx) hk hrest

/-- The other way round, where every question has some answer. -/
theorem keeps_of_plays (answer : ∀ q, A q) {p : Prog Q A α} {post : α → G → Prop} {g : G}
    (hpost : ∀ h a, Plays p h a → Expected next C g h → post a (after next g h))
    (hallowed : ∀ h e h' a, Plays p (h ++ e :: h') a → Expected next C g h →
      C.allowed (after next g h) e.1) : Keeps next C p post g := by
  induction p generalizing g with
  | ret a => exact (keeps_ret _ _ _ _ _).mpr (hpost [] a (.ret a) trivial)
  | ask q k ih =>
    refine (keeps_ask _ _ _ _ _ _).mpr ⟨?_, fun x hx => ?_⟩
    · exact hallowed [] ⟨q, answer q⟩ _ _ (plays_run answer (.ask q k)) trivial
    · refine ih x (fun h a hk hexpected => ?_) (fun h e h' a hk hexpected => ?_)
      · exact hpost (⟨q, x⟩ :: h) a (.ask q k x h a hk) ⟨hx, hexpected⟩
      · exact hallowed (⟨q, x⟩ :: h) e h' a (.ask q k x _ a hk) ⟨hx, hexpected⟩

end Dialogue
