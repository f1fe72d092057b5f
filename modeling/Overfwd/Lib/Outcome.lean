import Mathlib.Data.List.Forall2

namespace Outcome

/-- `Option::ok_or`. -/
def okOr {ε α : Type} (e : ε) : Option α → Except ε α
  | some a => .ok a
  | none => .error e

@[simp] theorem okOr_eq_ok_iff {ε α : Type} (e : ε) (o : Option α) (a : α) :
    okOr e o = .ok a ↔ o = some a := by
  cases o <;> simp [okOr]

@[simp] theorem ok_bind {ε α β : Type} (a : α) (f : α → Except ε β) :
    (Except.ok a >>= f) = f a := rfl

@[simp] theorem error_bind {ε α β : Type} (e : ε) (f : α → Except ε β) :
    (Except.error e >>= f) = .error e := rfl

theorem bind_eq_ok_iff {ε α β : Type} (x : Except ε α) (f : α → Except ε β) (b : β) :
    (x >>= f) = .ok b ↔ ∃ a, x = .ok a ∧ f a = .ok b := by
  cases x with
  | error e => simp [bind, Except.bind]
  | ok a => simp [bind, Except.bind]

theorem map_eq_ok_iff {ε α β : Type} (x : Except ε α) (f : α → β) (b : β) :
    x.map f = .ok b ↔ ∃ a, x = .ok a ∧ f a = b := by
  cases x with
  | error e => simp [Except.map]
  | ok a => simp [Except.map]

theorem mapError_eq_ok_iff {ε δ α : Type} (x : Except δ α) (f : δ → ε) (a : α) :
    x.mapError f = .ok a ↔ x = .ok a := by
  cases x with
  | error e => simp [Except.mapError]
  | ok a => simp [Except.mapError]

theorem mapError_eq_error_iff {ε δ α : Type} (x : Except δ α) (f : δ → ε) (e : ε) :
    x.mapError f = .error e ↔ ∃ d, x = .error d ∧ f d = e := by
  cases x with
  | error e => simp [Except.mapError]
  | ok a => simp [Except.mapError]

theorem mapM_eq_ok_iff {ε α β : Type} (f : α → Except ε β) (xs : List α) (ys : List β) :
    xs.mapM f = .ok ys ↔ List.Forall₂ (fun x y => f x = .ok y) xs ys := by
  induction xs generalizing ys with
  | nil =>
    constructor
    · intro h
      cases h
      exact List.Forall₂.nil
    · intro h
      cases h
      rfl
  | cons x xs ih =>
    rw [List.mapM_cons, bind_eq_ok_iff]
    constructor
    · rintro ⟨y, hy, h⟩
      obtain ⟨zs, hzs, h⟩ := (bind_eq_ok_iff _ _ _).mp h
      cases h
      exact List.Forall₂.cons hy ((ih zs).mp hzs)
    · intro h
      cases h with
      | cons hy hys => exact ⟨_, hy, (bind_eq_ok_iff _ _ _).mpr ⟨_, (ih _).mpr hys, rfl⟩⟩

/-- What holds of a result that succeeds is nothing to say of one that fails. -/
theorem yields_error {ε α : Type} (e : ε) (P : α → Prop) :
    ∀ a, (.error e : Except ε α) = .ok a → P a :=
  fun _ h => (nomatch h)

theorem yields_ok {ε α : Type} {P : α → Prop} {a : α} (h : P a) :
    ∀ a', (.ok a : Except ε α) = .ok a' → P a' := by
  intro a' ha
  cases ha
  exact h

/-- Every error that may come out satisfies `P`. -/
def FailsOnly {ε α : Type} (P : ε → Prop) (x : Except ε α) : Prop := ∀ e, x = .error e → P e

theorem failsOnly_ok {ε α : Type} {P : ε → Prop} (a : α) : FailsOnly P (.ok a : Except ε α) :=
  fun _ h => (nomatch h)

theorem failsOnly_error {ε α : Type} {P : ε → Prop} (e : ε) (h : P e) :
    FailsOnly P (.error e : Except ε α) := by
  intro e' he
  cases he
  exact h

theorem failsOnly_okOr {ε α : Type} {P : ε → Prop} (e : ε) (o : Option α) (h : P e) :
    FailsOnly P (okOr e o) := by
  cases o with
  | none => exact failsOnly_error e h
  | some a => exact failsOnly_ok a

theorem failsOnly_okOr_of_none {ε α : Type} {P : ε → Prop} (e : ε) (o : Option α)
    (h : o = none → P e) : FailsOnly P (okOr e o) := by
  cases o with
  | none => exact failsOnly_error e (h rfl)
  | some a => exact failsOnly_ok a

theorem failsOnly_mapError {ε δ α : Type} {P : ε → Prop} (x : Except δ α) (f : δ → ε)
    (h : ∀ d, P (f d)) : FailsOnly P (x.mapError f) := by
  cases x with
  | error d => exact failsOnly_error (f d) (h d)
  | ok a => exact failsOnly_ok a

theorem failsOnly_bind {ε α β : Type} {P : ε → Prop} {x : Except ε α} {f : α → Except ε β}
    (hx : FailsOnly P x) (hf : ∀ a, FailsOnly P (f a)) : FailsOnly P (x >>= f) := by
  cases x with
  | error e => exact failsOnly_error e (hx e rfl)
  | ok a => exact hf a

theorem failsOnly_mapM {ε α β : Type} {P : ε → Prop} {f : α → Except ε β}
    (h : ∀ a, FailsOnly P (f a)) (xs : List α) : FailsOnly P (xs.mapM f) := by
  induction xs with
  | nil => exact failsOnly_ok []
  | cons x xs ih =>
    rw [List.mapM_cons]
    exact failsOnly_bind (h x) fun y => failsOnly_bind ih fun ys => failsOnly_ok (y :: ys)

theorem mapM_eq_some_iff {α β : Type} (f : α → Option β) (xs : List α) (ys : List β) :
    xs.mapM f = some ys ↔ List.Forall₂ (fun x y => f x = some y) xs ys := by
  induction xs generalizing ys with
  | nil =>
    constructor
    · intro h
      cases h
      exact List.Forall₂.nil
    · intro h
      cases h
      rfl
  | cons x xs ih =>
    rw [List.mapM_cons]
    constructor
    · intro h
      obtain ⟨y, hy, h⟩ := Option.bind_eq_some_iff.mp h
      obtain ⟨zs, hzs, h⟩ := Option.bind_eq_some_iff.mp h
      cases h
      exact List.Forall₂.cons hy ((ih zs).mp hzs)
    · intro h
      cases h with
      | cons hy hys =>
        refine Option.bind_eq_some_iff.mpr ⟨_, hy, ?_⟩
        exact Option.bind_eq_some_iff.mpr ⟨_, (ih _).mpr hys, rfl⟩

theorem exists_mapM_eq_some {α β : Type} (f : α → Option β) (xs : List α)
    (h : ∀ x ∈ xs, (f x).isSome = true) : ∃ ys, xs.mapM f = some ys := by
  induction xs with
  | nil => exact ⟨[], rfl⟩
  | cons x xs ih =>
    obtain ⟨y, hy⟩ := Option.isSome_iff_exists.mp (h x (by simp))
    obtain ⟨ys, hys⟩ := ih fun z hz => h z (by simp [hz])
    refine ⟨y :: ys, ?_⟩
    rw [List.mapM_cons, hy, hys]
    rfl

theorem forall₂_mem_left {α β : Type} {R : α → β → Prop} {xs : List α} {ys : List β}
    (h : List.Forall₂ R xs ys) : ∀ x ∈ xs, ∃ y ∈ ys, R x y := by
  induction h with
  | nil => simp
  | cons hxy _ ih =>
    intro x hx
    rcases List.mem_cons.mp hx with rfl | hx
    · exact ⟨_, by simp, hxy⟩
    · obtain ⟨y, hy, hR⟩ := ih x hx
      exact ⟨y, by simp [hy], hR⟩

theorem forall₂_mem_right {α β : Type} {R : α → β → Prop} {xs : List α} {ys : List β}
    (h : List.Forall₂ R xs ys) : ∀ y ∈ ys, ∃ x ∈ xs, R x y := by
  intro y hy
  have hflip : List.Forall₂ (fun y x => R x y) ys xs := h.flip
  exact forall₂_mem_left hflip y hy

end Outcome
