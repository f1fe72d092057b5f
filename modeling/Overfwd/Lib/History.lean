import Overfwd.Lib.Dialogue

namespace Dialogue

variable {Q Q' : Type} {A : Q → Type} {A' : Q' → Type} {T ε α β : Type}

/-- A question and its answer. -/
abbrev Exchange (Q : Type) (A : Q → Type) := (q : Q) × A q

/-- The program exchanges `h` with its surroundings and returns `a`. -/
inductive Plays : Prog Q A α → List (Exchange Q A) → α → Prop
  | ret (a : α) : Plays (.ret a) [] a
  | ask (q : Q) (k : A q → Prog Q A α) (x : A q) (h : List (Exchange Q A)) (a : α)
      (hk : Plays (k x) h a) : Plays (.ask q k) (⟨q, x⟩ :: h) a

section Rules

variable {h : List (Exchange Q A)}

theorem plays_pure (a b : α) : Plays (pure a : Prog Q A α) h b ↔ h = [] ∧ b = a := by
  constructor
  · intro hplays
    cases hplays
    exact ⟨rfl, rfl⟩
  · rintro ⟨rfl, rfl⟩
    exact .ret b

theorem plays_call (q : Q) (x : A q) :
    Plays (call q : Prog Q A (A q)) h x ↔ h = [⟨q, x⟩] := by
  constructor
  · intro hplays
    cases hplays with
    | ask q k y h a hk =>
      cases hk
      rfl
  · rintro rfl
    exact .ask q _ x [] x (.ret x)

theorem plays_bind (p : Prog Q A α) (f : α → Prog Q A β) (b : β) :
    Plays (p >>= f) h b ↔ ∃ h₁ a h₂, Plays p h₁ a ∧ Plays (f a) h₂ b ∧ h = h₁ ++ h₂ := by
  induction p generalizing h with
  | ret a =>
    constructor
    · intro hplays
      exact ⟨[], a, h, .ret a, hplays, rfl⟩
    · rintro ⟨h₁, a', h₂, ha, hf, rfl⟩
      cases ha
      exact hf
  | ask q k ih =>
    constructor
    · intro hplays
      cases hplays with
      | ask q k x h b hk =>
        obtain ⟨h₁, a, h₂, ha, hf, rfl⟩ := (ih x).mp hk
        exact ⟨⟨q, x⟩ :: h₁, a, h₂, .ask q _ x h₁ a ha, hf, rfl⟩
    · rintro ⟨h₁, a, h₂, ha, hf, rfl⟩
      cases ha with
      | ask q k x h₁ a hk => exact .ask q _ x _ b ((ih x).mpr ⟨h₁, a, h₂, hk, hf, rfl⟩)

theorem plays_map (p : Prog Q A α) (f : α → β) (b : β) :
    Plays (f <$> p) h b ↔ ∃ a, Plays p h a ∧ b = f a := by
  rw [map_eq_pure_bind, plays_bind]
  constructor
  · rintro ⟨h₁, a, h₂, ha, hf, rfl⟩
    obtain ⟨rfl, rfl⟩ := (plays_pure _ _).mp hf
    rw [List.append_nil]
    exact ⟨a, ha, rfl⟩
  · rintro ⟨a, ha, rfl⟩
    exact ⟨h, a, [], ha, (plays_pure _ _).mpr ⟨rfl, rfl⟩, (List.append_nil h).symm⟩

theorem plays_throw (e : ε) (r : Except ε α) :
    Plays (ExceptT.run (throw e : Fallible ε Q A α)) h r ↔ h = [] ∧ r = .error e :=
  plays_pure _ _

theorem plays_run_pure (a : α) (r : Except ε α) :
    Plays (ExceptT.run (pure a : Fallible ε Q A α)) h r ↔ h = [] ∧ r = .ok a :=
  plays_pure _ _

theorem plays_except (x r : Except ε α) :
    Plays (ExceptT.run (liftM x : Fallible ε Q A α)) h r ↔ h = [] ∧ r = x :=
  plays_pure _ _

theorem plays_lift (p : Prog Q A α) (r : Except ε α) :
    Plays (ExceptT.run (liftM p : Fallible ε Q A α)) h r ↔ ∃ a, Plays p h a ∧ r = .ok a :=
  plays_map _ _ _

theorem plays_attempt {δ : Type} (mapErr : δ → ε) (p : Prog Q A (Except δ α)) (r : Except ε α) :
    Plays (ExceptT.run (attempt mapErr p)) h r ↔ ∃ x, Plays p h x ∧ r = x.mapError mapErr := by
  unfold attempt
  rw [ExceptT.run_mk, ← map_eq_pure_bind, plays_map]

/-- Either the first part fails, or the second part ends what the first one began. -/
theorem plays_fallible_bind (p : Fallible ε Q A α) (f : α → Fallible ε Q A β) (r : Except ε β) :
    Plays (ExceptT.run (p >>= f)) h r ↔
      (∃ e, Plays (ExceptT.run p) h (.error e) ∧ r = .error e) ∨
        ∃ h₁ a h₂, Plays (ExceptT.run p) h₁ (.ok a) ∧ Plays (ExceptT.run (f a)) h₂ r ∧
          h = h₁ ++ h₂ := by
  change Plays (ExceptT.run p >>= ExceptT.bindCont f) h r ↔ _
  rw [plays_bind]
  constructor
  · rintro ⟨h₁, x, h₂, hx, hf, rfl⟩
    cases x with
    | error e =>
      obtain ⟨rfl, rfl⟩ := (plays_pure _ _).mp hf
      rw [List.append_nil]
      exact .inl ⟨e, hx, rfl⟩
    | ok a => exact .inr ⟨h₁, a, h₂, hx, hf, rfl⟩
  · rintro (⟨e, he, rfl⟩ | ⟨h₁, a, h₂, ha, hf, rfl⟩)
    · exact ⟨h, .error e, [], he, (plays_pure _ _).mpr ⟨rfl, rfl⟩, (List.append_nil h).symm⟩
    · exact ⟨h₁, .ok a, h₂, ha, hf, rfl⟩

/-- A check that has failed ends the program, and one that has passed is not seen. -/
theorem plays_except_bind (x : Except ε α) (f : α → Fallible ε Q A β) (r : Except ε β) :
    Plays (ExceptT.run (liftM x >>= f)) h r ↔
      (∃ e, x = .error e ∧ h = [] ∧ r = .error e) ∨ ∃ a, x = .ok a ∧ Plays (ExceptT.run (f a)) h r := by
  cases x with
  | error e =>
    refine (plays_throw e r).trans ⟨fun hr => .inl ⟨e, rfl, hr⟩, ?_⟩
    rintro (⟨e', he, hr⟩ | ⟨a, ha, -⟩)
    · cases he
      exact hr
    · cases ha
  | ok a =>
    refine Iff.trans Iff.rfl ⟨fun hr => .inr ⟨a, rfl, hr⟩, ?_⟩
    rintro (⟨e, he, -⟩ | ⟨a', ha, hr⟩)
    · cases he
    · cases ha
      exact hr

/-- A program that succeeds has come through each of its parts. -/
theorem plays_ok_bind (p : Fallible ε Q A α) (f : α → Fallible ε Q A β) (b : β)
    (hplays : Plays (ExceptT.run (p >>= f)) h (.ok b)) :
    ∃ h₁ a h₂, Plays (ExceptT.run p) h₁ (.ok a) ∧ Plays (ExceptT.run (f a)) h₂ (.ok b) ∧
      h = h₁ ++ h₂ := by
  rcases (plays_fallible_bind p f _).mp hplays with ⟨e, -, he⟩ | hok
  · cases he
  · exact hok

theorem plays_ok_except_bind (x : Except ε α) (f : α → Fallible ε Q A β) (b : β)
    (hplays : Plays (ExceptT.run (liftM x >>= f)) h (.ok b)) :
    ∃ a, x = .ok a ∧ Plays (ExceptT.run (f a)) h (.ok b) := by
  rcases (plays_except_bind x f _).mp hplays with ⟨e, -, -, he⟩ | hok
  · cases he
  · exact hok

end Rules

theorem asksOnly_plays {P : Q → Prop} {p : Prog Q A α} (hP : AsksOnly P p)
    {h : List (Exchange Q A)} {a : α} (hplays : Plays p h a) : ∀ e ∈ h, P e.1 := by
  induction hplays with
  | ret a => simp
  | ask q k x h a _ ih =>
    obtain ⟨hq, hk⟩ := (asksOnly_ask q k).mp hP
    intro e he
    rcases List.mem_cons.mp he with rfl | he
    · exact hq
    · exact ih (hk x) e he

/-- The questions of a history. -/
theorem runs_of_plays {p : Prog Q A α} {h : List (Exchange Q A)} {a : α} (hplays : Plays p h a) :
    Runs p (h.map Sigma.fst) a := by
  induction hplays with
  | ret a => exact .ret a
  | ask q k x h a _ ih => exact .ask q k x _ a ih

/-- What is exchanged when every question has a fixed answer. -/
theorem plays_run (answer : ∀ q, A q) (p : Prog Q A α) :
    Plays p ((p.asked answer).map fun q => ⟨q, answer q⟩) (p.run answer) := by
  induction p with
  | ret a => exact .ret a
  | ask q k ih => exact .ask q k (answer q) _ _ (ih (answer q))

/-- A program that keeps its history as it goes. -/
def record (h : List (Exchange Q A)) (q : Q) (x : A q) : List (Exchange Q A) := h ++ [⟨q, x⟩]

/-- Every exchange of the history is an old one or the last one. -/
theorem mem_record {h : List (Exchange Q A)} (q : Q) (x : A q) {e : Exchange Q A}
    (he : e ∈ record h q x) : e ∈ h ∨ e = ⟨q, x⟩ :=
  (List.mem_append.mp he).imp_right List.mem_singleton.mp

section Records

variable (C : Contract Q A (List (Exchange Q A)))

/-- What a program that asks only what is allowed has exchanged by its end. -/
theorem keeps_played {P : Q → Prop} {p : Prog Q A α} (hP : AsksOnly P p)
    (hallowed : ∀ h q, P q → C.allowed h q) (h : List (Exchange Q A)) :
    Keeps record C p (fun a h' => ∃ h₁, h' = h ++ h₁ ∧ Plays p h₁ a) h := by
  induction p generalizing h with
  | ret a => exact (keeps_ret _ _ _ _ _).mpr ⟨[], (List.append_nil h).symm, .ret a⟩
  | ask q k ih =>
    obtain ⟨hq, hk⟩ := (asksOnly_ask q k).mp hP
    refine (keeps_ask _ _ _ _ _ _).mpr ⟨hallowed h q hq, fun x _ => ?_⟩
    apply keeps_mono _ _ (ih x (hk x) (record h q x))
    rintro a h' ⟨h₁, rfl, hplays⟩
    refine ⟨⟨q, x⟩ :: h₁, ?_, .ask q k x h₁ a hplays⟩
    unfold record
    rw [List.append_assoc, List.singleton_append]

end Records

/-- The same program, told with every answer the time it was given at. -/
def Prog.stamped (T : Type) : Prog Q A α → Prog Q (fun q => A q × T) α
  | .ret a => .ret a
  | .ask q k => .ask q fun x => (k x.1).stamped T

@[simp] theorem stamped_pure (a : α) :
    (pure a : Prog Q A α).stamped T = (pure a : Prog Q (fun q => A q × T) α) := rfl

@[simp] theorem stamped_call (q : Q) :
    (call q : Prog Q A (A q)).stamped T = Prod.fst <$> (call q : Prog Q (fun q => A q × T) _) := rfl

@[simp] theorem stamped_bind (p : Prog Q A α) (f : α → Prog Q A β) :
    (p >>= f).stamped T = p.stamped T >>= fun a => (f a).stamped T := by
  induction p with
  | ret a => rfl
  | ask q k ih => exact congrArg (Prog.ask q) (funext fun x => ih x.1)

/-- One question of a program told the times, and the rest of it. -/
theorem keeps_stamped_call {G : Type} (next : G → (q : Q) → A q × T → G)
    (C : Contract Q (fun q => A q × T) G) (q : Q) (f : A q → Prog Q A α) (post : α → G → Prop)
    (g : G) : Keeps next C ((call q >>= f).stamped T) post g ↔
      C.allowed g q ∧ ∀ x, C.expects g q x → Keeps next C ((f x.1).stamped T) post (next g q x) :=
  keeps_ask _ _ _ _ _ _

theorem asksOnly_stamped {P : Q → Prop} {p : Prog Q A α} (hP : AsksOnly P p) :
    AsksOnly P (p.stamped T) := by
  induction p with
  | ret a => exact asksOnly_pure a
  | ask q k ih =>
    obtain ⟨hq, hk⟩ := (asksOnly_ask q k).mp hP
    exact (asksOnly_ask q _).mpr ⟨hq, fun x => ih x.1 (hk x.1)⟩

/-- Every question answered by a program of its own. -/
def Prog.handle (answer : ∀ q, Prog Q' A' (A q)) : Prog Q A α → Prog Q' A' α
  | .ret a => pure a
  | .ask q k => answer q >>= fun x => (k x).handle answer

theorem handle_bind (answer : ∀ q, Prog Q' A' (A q)) (p : Prog Q A α) (f : α → Prog Q A β) :
    (p >>= f).handle answer = p.handle answer >>= fun a => (f a).handle answer := by
  induction p with
  | ret a => rfl
  | ask q k ih =>
    calc (Prog.ask q k >>= f).handle answer
        = answer q >>= fun x => (k x >>= f).handle answer := rfl
      _ = answer q >>= fun x => (k x).handle answer >>= fun a => (f a).handle answer := by
          rw [funext ih]
      _ = (Prog.ask q k).handle answer >>= fun a => (f a).handle answer := by
          rw [← bind_assoc]
          rfl

theorem handle_map (answer : ∀ q, Prog Q' A' (A q)) (p : Prog Q A α) (f : α → β) :
    (f <$> p).handle answer = f <$> p.handle answer := by
  rw [map_eq_pure_bind, handle_bind, map_eq_pure_bind]
  rfl

end Dialogue
