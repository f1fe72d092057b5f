import Overfwd.Lib.Layers

namespace Dialogue

variable {Q Q' : Type} {A V : Q → Type} {A' V' : Q' → Type} {ε α β γ δ : Type}

/-- The programs ask the same; after answers that look alike they go on alike, and they end with
results that `R` relates. -/
inductive Alike (view : ∀ q, A q → V q) (R : α → β → Prop) : Prog Q A α → Prog Q A β → Prop
  | ret (a : α) (b : β) (hR : R a b) : Alike view R (.ret a) (.ret b)
  | ask (q : Q) (k : A q → Prog Q A α) (k' : A q → Prog Q A β)
      (hk : ∀ x y, view q x = view q y → Alike view R (k x) (k' y)) :
      Alike view R (.ask q k) (.ask q k')

section Rules

variable {view : ∀ q, A q → V q} {R : α → β → Prop}

theorem alike_pure {a : α} {b : β} (hR : R a b) :
    Alike view R (pure a : Prog Q A α) (pure b : Prog Q A β) := .ret a b hR

theorem alike_call (q : Q) :
    Alike view (fun x y => view q x = view q y) (call q : Prog Q A (A q)) (call q) :=
  .ask q _ _ fun x y hxy => .ret x y hxy

theorem alike_bind {S : γ → δ → Prop} {p : Prog Q A α} {p' : Prog Q A β} {f : α → Prog Q A γ}
    {f' : β → Prog Q A δ} (hp : Alike view R p p') (hf : ∀ a b, R a b → Alike view S (f a) (f' b)) :
    Alike view S (p >>= f) (p' >>= f') := by
  induction hp with
  | ret a b hR => exact hf a b hR
  | ask q k k' _ ih => exact .ask q _ _ ih

/-- A program is like itself when all of its answers are seen. -/
theorem alike_self {P : Q → Prop} {p : Prog Q A α} (hP : AsksOnly P p)
    (hseen : ∀ q, P q → Function.Injective (view q)) : Alike view Eq p p := by
  induction p with
  | ret a => exact .ret a a rfl
  | ask q k ih =>
    obtain ⟨hq, hk⟩ := (asksOnly_ask q k).mp hP
    refine .ask q k k fun x y hxy => ?_
    obtain rfl := hseen q hq hxy
    exact ih x (hk x)

/-- Questions that are answered below by what looks alike there. -/
theorem alike_handle {view' : ∀ q, A' q → V' q} {p : Prog Q A α} {p' : Prog Q A β}
    {answer : ∀ q, Prog Q' A' (A q)} (hp : Alike view R p p')
    (hanswer : ∀ q, Alike view' (fun x y => view q x = view q y) (answer q) (answer q)) :
    Alike view' R (p.handle answer) (p'.handle answer) := by
  induction hp with
  | ret a b hR => exact .ret a b hR
  | ask q k k' _ ih => exact alike_bind (hanswer q) ih

end Rules

/-- What is seen of a history. -/
def seen (view : ∀ q, A q → V q) (h : List (Exchange Q A)) : List (Exchange Q V) :=
  h.map fun e => ⟨e.1, view e.1 e.2⟩

/-- Where the one plays a history, the other plays every history that looks like it. -/
theorem plays_alike {view : ∀ q, A q → V q} {R : α → β → Prop} {p : Prog Q A α} {p' : Prog Q A β}
    (hp : Alike view R p p') {h h' : List (Exchange Q A)} (hsame : seen view h = seen view h') {a : α}
    (hplays : Plays p h a) : ∃ b, R a b ∧ Plays p' h' b := by
  induction hp generalizing h h' with
  | ret a b hR =>
    obtain ⟨rfl, rfl⟩ := (plays_pure _ _).mp hplays
    rw [List.map_eq_nil_iff.mp hsame.symm]
    exact ⟨b, hR, .ret b⟩
  | ask q k k' _ ih =>
    cases hplays with
    | ask q k x h a hk =>
      cases h' with
      | nil => cases hsame
      | cons e h' =>
        obtain ⟨q', y⟩ := e
        obtain ⟨hhead, htail⟩ := List.cons.inj hsame
        obtain ⟨hq, hview⟩ := Sigma.mk.inj hhead
        obtain rfl : q = q' := hq
        obtain ⟨b, hR, hplays⟩ := ih x y (eq_of_heq hview) htail hk
        exact ⟨b, hR, .ask q k' y h' b hplays⟩

end Dialogue
