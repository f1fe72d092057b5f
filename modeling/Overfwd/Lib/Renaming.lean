import Overfwd.Lib.Layers

namespace Dialogue

variable {Q Q' R R' : Type} {A : Q → Type} {A' : Q' → Type} {B : R → Type} {B' : R' → Type}
  {ε α β γ δ : Type}

/-- Other names for the questions that have one, and for their answers. -/
structure Renaming (Q Q' : Type) (A : Q → Type) (A' : Q' → Type) where
  named : Q → Prop
  op : Q → Q'
  answer : (q : Q) → A q → A' (op q)

namespace Renaming

variable (ρ : Renaming Q Q' A A')

def exchange (e : Exchange Q A) : Exchange Q' A' := ⟨ρ.op e.1, ρ.answer e.1 e.2⟩

/-- The question and its answers keep their names. -/
def Fixes (ρ : Renaming Q Q A A) (q : Q) : Prop :=
  ρ.named q ∧ ∃ h : ρ.op q = q, ∀ x, h ▸ ρ.answer q x = x

/-- Other names for questions alone: the answers are the same. -/
def relabel (op : Q → Q) (hsame : ∀ q, A q = A (op q)) : Renaming Q Q A A where
  named _ := True
  op := op
  answer q := cast (hsame q)

theorem relabel_surjective (op : Q → Q) (hsame : ∀ q, A q = A (op q)) (q : Q) :
    Function.Surjective ((relabel op hsame).answer q) :=
  (cast_bijective (hsame q)).surjective

theorem relabel_fixes (op : Q → Q) (hsame : ∀ q, A q = A (op q)) (q : Q) (h : op q = q) :
    (relabel op hsame).Fixes q := by
  refine ⟨trivial, h, fun x => eq_of_heq ?_⟩
  exact (eqRec_heq h _).trans (cast_heq (hsame q) x)

end Renaming

/-- The second program is the first one under the other names, and returns what `f` makes of
the result of the first. -/
inductive Renames (ρ : Renaming Q Q' A A') (f : α → β) : Prog Q A α → Prog Q' A' β → Prop
  | ret (a : α) : Renames ρ f (.ret a) (.ret (f a))
  | ask (q : Q) (hq : ρ.named q) (k : A q → Prog Q A α) (k' : A' (ρ.op q) → Prog Q' A' β)
      (hk : ∀ x, Renames ρ f (k x) (k' (ρ.answer q x))) : Renames ρ f (.ask q k) (.ask (ρ.op q) k')

section Rules

variable {ρ : Renaming Q Q' A A'}

theorem renames_pure (f : α → β) (a : α) :
    Renames ρ f (pure a : Prog Q A α) (pure (f a) : Prog Q' A' β) := .ret a

theorem renames_call (q : Q) (hq : ρ.named q) :
    Renames ρ (ρ.answer q) (call q : Prog Q A _) (call (ρ.op q) : Prog Q' A' _) :=
  .ask q hq _ _ fun x => .ret x

theorem renames_bind {f : α → β} {g : γ → δ} {p : Prog Q A α} {p' : Prog Q' A' β}
    {k : α → Prog Q A γ} {k' : β → Prog Q' A' δ} (hp : Renames ρ f p p')
    (hk : ∀ a, Renames ρ g (k a) (k' (f a))) : Renames ρ g (p >>= k) (p' >>= k') := by
  induction hp with
  | ret a => exact hk a
  | ask q hq k₁ k₁' _ ih => exact .ask q hq _ _ ih

theorem renames_map {f : α → β} {p : Prog Q A α} {p' : Prog Q' A' β} {m : α → γ} {m' : β → δ}
    {g : γ → δ} (hp : Renames ρ f p p') (hm : ∀ a, m' (f a) = g (m a)) :
    Renames ρ g (m <$> p) (m' <$> p') := by
  rw [map_eq_pure_bind, map_eq_pure_bind]
  apply renames_bind hp
  intro a
  rw [hm a]
  exact renames_pure g (m a)

/-- One that goes on to change its result. -/
theorem renames_result {f : α → β} {p : Prog Q A α} {p' : Prog Q' A' β} (m : β → γ)
    (hp : Renames ρ f p p') : Renames ρ (fun a => m (f a)) p (m <$> p') := by
  rw [map_eq_pure_bind]
  induction hp with
  | ret a => exact .ret a
  | ask q hq k k' _ ih => exact .ask q hq k _ ih

theorem renames_except (f : α → β) (x : Except ε α) :
    Renames ρ (Except.map f) (ExceptT.run (liftM x : Fallible ε Q A α))
      (ExceptT.run (liftM (f <$> x) : Fallible ε Q' A' β)) := .ret x

/-- A failure is the same under both names. -/
theorem renames_fallible_bind {f : α → β} {g : γ → δ} {p : Fallible ε Q A α}
    {p' : Fallible ε Q' A' β} {k : α → Fallible ε Q A γ} {k' : β → Fallible ε Q' A' δ}
    (hp : Renames ρ (Except.map f) (ExceptT.run p) (ExceptT.run p'))
    (hk : ∀ a, Renames ρ (Except.map g) (ExceptT.run (k a)) (ExceptT.run (k' (f a)))) :
    Renames ρ (Except.map g) (ExceptT.run (p >>= k)) (ExceptT.run (p' >>= k')) := by
  apply renames_bind hp
  intro r
  cases r with
  | error e => exact .ret (Except.error e)
  | ok a => exact hk a

/-- A check that both make alike. -/
theorem renames_except_bind {g : γ → δ} (x : Except ε α) {k : α → Fallible ε Q A γ}
    {k' : α → Fallible ε Q' A' δ}
    (hk : ∀ a, x = .ok a → Renames ρ (Except.map g) (ExceptT.run (k a)) (ExceptT.run (k' a))) :
    Renames ρ (Except.map g) (ExceptT.run (liftM x >>= k)) (ExceptT.run (liftM x >>= k')) := by
  cases x with
  | error e => exact .ret (Except.error e)
  | ok a => exact hk a rfl

theorem renames_attempt {η : Type} {f : α → β} {p : Prog Q A (Except η α)}
    {p' : Prog Q' A' (Except η β)} (mapErr : η → ε) (hp : Renames ρ (Except.map f) p p') :
    Renames ρ (Except.map f) (ExceptT.run (attempt mapErr p)) (ExceptT.run (attempt mapErr p')) := by
  apply renames_bind hp
  intro r
  cases r with
  | error e => exact .ret (Except.error (mapErr e))
  | ok a => exact .ret (Except.ok a)

end Rules

/-- A program of questions that keep their names is its own renaming. -/
theorem renames_self {ρ : Renaming Q Q A A} {P : Q → Prop} {p : Prog Q A α} (hP : AsksOnly P p)
    (hfixes : ∀ q, P q → ρ.Fixes q) : Renames ρ id p p := by
  induction p with
  | ret a => exact .ret a
  | ask q k ih =>
    obtain ⟨hq, hk⟩ := (asksOnly_ask q k).mp hP
    obtain ⟨hnamed, hop, hanswer⟩ := hfixes q hq
    have hsame : ∀ q' (h : q' = q), Prog.ask q k = .ask q' fun y => k (h ▸ y) := by
      rintro q' rfl
      rfl
    rw [hsame (ρ.op q) hop]
    nth_rewrite 1 [← hsame (ρ.op q) hop]
    refine .ask q hnamed _ _ fun x => ?_
    rw [hanswer x]
    exact ih x (hk x)

/-- One that may fail. -/
theorem renames_self_fallible {ρ : Renaming Q Q A A} {P : Q → Prop} {p : Fallible ε Q A α}
    (hP : AsksOnly P (ExceptT.run p)) (hfixes : ∀ q, P q → ρ.Fixes q) :
    Renames ρ (Except.map id) (ExceptT.run p) (ExceptT.run p) := by
  rw [Except.map_id]
  exact renames_self hP hfixes

/-- Questions that are answered alike under both names. -/
theorem renames_handle {ρ : Renaming Q Q' A A'} {σ : Renaming R R' B B'} {f : α → β}
    {p : Prog Q A α} {p' : Prog Q' A' β} {answer : ∀ q, Prog R B (A q)}
    {answer' : ∀ q, Prog R' B' (A' q)} (hp : Renames ρ f p p')
    (hanswer : ∀ q, ρ.named q → Renames σ (ρ.answer q) (answer q) (answer' (ρ.op q))) :
    Renames σ f (p.handle answer) (p'.handle answer') := by
  induction hp with
  | ret a => exact .ret a
  | ask q hq k k' _ ih => exact renames_bind (hanswer q hq) ih

/-- The histories of the second program are those of the first one under the other names. -/
theorem plays_renames {ρ : Renaming Q Q' A A'} {f : α → β} {p : Prog Q A α} {p' : Prog Q' A' β}
    (hp : Renames ρ f p p') (hanswer : ∀ q, Function.Surjective (ρ.answer q))
    (h' : List (Exchange Q' A')) (b : β) :
    Plays p' h' b ↔ ∃ h a, Plays p h a ∧ h' = h.map ρ.exchange ∧ b = f a := by
  induction hp generalizing h' with
  | ret a =>
    constructor
    · intro hplays
      obtain ⟨rfl, rfl⟩ := (plays_pure _ _).mp hplays
      exact ⟨[], a, .ret a, rfl, rfl⟩
    · rintro ⟨h, a', hplays, rfl, rfl⟩
      obtain ⟨rfl, rfl⟩ := (plays_pure _ _).mp hplays
      exact .ret (f a')
  | ask q hq k k' _ ih =>
    constructor
    · intro hplays
      cases hplays with
      | ask q' k' y h' b hk =>
        obtain ⟨x, rfl⟩ := hanswer q y
        obtain ⟨h, a, hplays, rfl, rfl⟩ := (ih x h').mp hk
        exact ⟨⟨q, x⟩ :: h, a, .ask q k x h a hplays, rfl, rfl⟩
    · rintro ⟨h, a, hplays, rfl, rfl⟩
      cases hplays with
      | ask q k x h a hk =>
        exact .ask (ρ.op q) k' (ρ.answer q x) _ _ ((ih x _).mpr ⟨h, a, hk, rfl, rfl⟩)

end Dialogue
