import Mathlib.Data.List.Basic

/-! Programs that ask questions of their surroundings and go on with the answers.
`Q` is the type of questions and `A q` the type of the answers to `q`. -/
namespace Dialogue

inductive Prog (Q : Type) (A : Q → Type) (α : Type)
  | ret (a : α)
  | ask (q : Q) (k : A q → Prog Q A α)

variable {Q : Type} {A : Q → Type} {ε α β : Type}

def Prog.bind (p : Prog Q A α) (f : α → Prog Q A β) : Prog Q A β :=
  match p with
  | .ret a => f a
  | .ask q k => .ask q fun x => (k x).bind f

instance : Monad (Prog Q A) where
  pure := .ret
  bind := .bind

theorem Prog.bind_ret (p : Prog Q A α) : p.bind .ret = p := by
  induction p with
  | ret a => rfl
  | ask q k ih => exact congrArg (Prog.ask q) (funext ih)

theorem Prog.bind_assoc {γ : Type} (p : Prog Q A α) (f : α → Prog Q A β) (g : β → Prog Q A γ) :
    (p.bind f).bind g = p.bind fun a => (f a).bind g := by
  induction p with
  | ret a => rfl
  | ask q k ih => exact congrArg (Prog.ask q) (funext ih)

instance : LawfulMonad (Prog Q A) :=
  LawfulMonad.mk' _ (fun p => p.bind_ret) (fun _ _ => rfl) (fun p f g => p.bind_assoc f g)

/-- Ask one question and return its answer. -/
def call (q : Q) : Prog Q A (A q) := .ask q .ret

/-- The result when every question has a fixed answer. -/
def Prog.run (answer : ∀ q, A q) : Prog Q A α → α
  | .ret a => a
  | .ask q k => (k (answer q)).run answer

/-- The questions asked, in order, when every question has a fixed answer. -/
def Prog.asked (answer : ∀ q, A q) : Prog Q A α → List Q
  | .ret _ => []
  | .ask q k => q :: (k (answer q)).asked answer

/-- The question a program stands at. -/
def Prog.next? : Prog Q A α → Option Q
  | .ret _ => none
  | .ask q _ => some q

theorem exists_ask_of_next? (p : Prog Q A α) (q : Q) (h : p.next? = some q) :
    ∃ k, p = .ask q k := by
  cases p with
  | ret a => cases h
  | ask q' k =>
    cases h
    exact ⟨k, rfl⟩

section Run

variable (answer : ∀ q, A q)

@[simp] theorem run_pure (a : α) : (pure a : Prog Q A α).run answer = a := rfl

@[simp] theorem run_call (q : Q) : (call q : Prog Q A (A q)).run answer = answer q := rfl

@[simp] theorem run_bind (p : Prog Q A α) (f : α → Prog Q A β) :
    (p >>= f).run answer = (f (p.run answer)).run answer := by
  induction p with
  | ret a => rfl
  | ask q k ih => exact ih (answer q)

@[simp] theorem asked_pure (a : α) : (pure a : Prog Q A α).asked answer = [] := rfl

@[simp] theorem asked_call (q : Q) : (call q : Prog Q A (A q)).asked answer = [q] := rfl

@[simp] theorem asked_bind (p : Prog Q A α) (f : α → Prog Q A β) :
    (p >>= f).asked answer = p.asked answer ++ (f (p.run answer)).asked answer := by
  induction p with
  | ret a => rfl
  | ask q k ih => exact congrArg (q :: ·) (ih (answer q))

end Run

/-- A program that may stop with an error. -/
abbrev Fallible (ε : Type) (Q : Type) (A : Q → Type) := ExceptT ε (Prog Q A)

def runE (answer : ∀ q, A q) (p : Fallible ε Q A α) : Except ε α := Prog.run answer (ExceptT.run p)

section RunE

variable (answer : ∀ q, A q)

@[simp] theorem runE_pure (a : α) : runE answer (pure a : Fallible ε Q A α) = .ok a := rfl

@[simp] theorem runE_throw (e : ε) : runE answer (throw e : Fallible ε Q A α) = .error e := rfl

@[simp] theorem runE_lift (p : Prog Q A α) :
    runE answer (liftM p : Fallible ε Q A α) = .ok (p.run answer) := by
  change Prog.run answer (Except.ok <$> p) = _
  rw [map_eq_pure_bind, run_bind]
  rfl

@[simp] theorem runE_except (x : Except ε α) :
    runE answer (liftM x : Fallible ε Q A α) = x := rfl

@[simp] theorem runE_bind (p : Fallible ε Q A α) (f : α → Fallible ε Q A β) :
    runE answer (p >>= f) = runE answer p >>= fun a => runE answer (f a) := by
  change Prog.run answer (ExceptT.run p >>= ExceptT.bindCont f) = _
  rw [run_bind]
  unfold runE
  cases Prog.run answer (ExceptT.run p) with
  | error e => rfl
  | ok a => rfl

/-- One that reports the errors of `p` as its own. -/
def attempt {δ : Type} (mapErr : δ → ε) (p : Prog Q A (Except δ α)) : Fallible ε Q A α :=
  ExceptT.mk (p >>= fun r => pure (r.mapError mapErr))

@[simp] theorem runE_attempt {δ : Type} (mapErr : δ → ε) (p : Prog Q A (Except δ α)) :
    runE answer (attempt mapErr p) = (p.run answer).mapError mapErr := by
  unfold runE attempt
  rw [ExceptT.run_mk, run_bind, run_pure]

@[simp] theorem runE_map (p : Fallible ε Q A α) (f : α → β) :
    runE answer (f <$> p) = f <$> runE answer p := by
  rw [map_eq_pure_bind, runE_bind, map_eq_pure_bind]
  rfl

end RunE

theorem asked_fallible_bind (answer : ∀ q, A q) (p : Fallible ε Q A α)
    (f : α → Fallible ε Q A β) :
    Prog.asked answer (ExceptT.run (p >>= f)) = Prog.asked answer (ExceptT.run p) ++
      match runE answer p with
      | .ok a => Prog.asked answer (ExceptT.run (f a))
      | .error _ => [] := by
  change Prog.asked answer (ExceptT.run p >>= ExceptT.bindCont f) = _
  rw [asked_bind]
  unfold runE
  cases Prog.run answer (ExceptT.run p) with
  | error e => rfl
  | ok a => rfl

theorem asked_attempt {δ : Type} (answer : ∀ q, A q) (mapErr : δ → ε)
    (p : Prog Q A (Except δ α)) :
    Prog.asked answer (ExceptT.run (attempt mapErr p)) = p.asked answer := by
  unfold attempt
  rw [ExceptT.run_mk, asked_bind, asked_pure, List.append_nil]

theorem asked_lift (answer : ∀ q, A q) (p : Prog Q A α) :
    Prog.asked answer (ExceptT.run (liftM p : Fallible ε Q A α)) = p.asked answer := by
  change Prog.asked answer (Except.ok <$> p) = _
  rw [map_eq_pure_bind, asked_bind, asked_pure, List.append_nil]

/-- What a program may ask in a ghost state and what it may expect of the answer. -/
structure Contract (Q : Type) (A : Q → Type) (G : Type) where
  allowed : G → Q → Prop
  expects : G → (q : Q) → A q → Prop

section Keeps

variable {G : Type} (next : G → (q : Q) → A q → G) (C : Contract Q A G)

/-- From ghost state `g` the program asks only what is allowed, whatever expected
answers it gets, and ends with `post`. Each answer moves the ghost state by `next`. -/
def Keeps : Prog Q A α → (α → G → Prop) → G → Prop
  | .ret a, post, g => post a g
  | .ask q k, post, g =>
    C.allowed g q ∧ ∀ x, C.expects g q x → Keeps (k x) post (next g q x)

theorem keeps_ret (a : α) (post : α → G → Prop) (g : G) :
    Keeps next C (.ret a : Prog Q A α) post g ↔ post a g := Iff.rfl

theorem keeps_ask (q : Q) (k : A q → Prog Q A α) (post : α → G → Prop) (g : G) :
    Keeps next C (.ask q k) post g ↔
      C.allowed g q ∧ ∀ x, C.expects g q x → Keeps next C (k x) post (next g q x) := Iff.rfl

@[simp] theorem keeps_pure (a : α) (post : α → G → Prop) (g : G) :
    Keeps next C (pure a : Prog Q A α) post g ↔ post a g := Iff.rfl

@[simp] theorem keeps_call (q : Q) (post : A q → G → Prop) (g : G) :
    Keeps next C (call q) post g ↔
      C.allowed g q ∧ ∀ x, C.expects g q x → post x (next g q x) := Iff.rfl

@[simp] theorem keeps_bind (p : Prog Q A α) (f : α → Prog Q A β) (post : β → G → Prop) (g : G) :
    Keeps next C (p >>= f) post g ↔ Keeps next C p (fun a => Keeps next C (f a) post) g := by
  induction p generalizing g with
  | ret a => rfl
  | ask q k ih =>
    change _ ∧ _ ↔ _ ∧ _
    refine and_congr Iff.rfl (forall_congr' fun x => imp_congr Iff.rfl ?_)
    exact ih x (next g q x)

theorem keeps_mono {p : Prog Q A α} {post post' : α → G → Prop} {g : G}
    (h : Keeps next C p post g) (himp : ∀ a g, post a g → post' a g) :
    Keeps next C p post' g := by
  induction p generalizing g with
  | ret a => exact himp a g h
  | ask q k ih => exact ⟨h.1, fun x hx => ih x (h.2 x hx)⟩

section Fallible

variable (post : Except ε α → G → Prop) (g : G)

@[simp] theorem keeps_throw (e : ε) :
    Keeps next C (ExceptT.run (throw e : Fallible ε Q A α)) post g ↔ post (.error e) g := Iff.rfl

@[simp] theorem keeps_run_pure (a : α) :
    Keeps next C (ExceptT.run (pure a : Fallible ε Q A α)) post g ↔ post (.ok a) g := Iff.rfl

@[simp] theorem keeps_except (x : Except ε α) :
    Keeps next C (ExceptT.run (liftM x : Fallible ε Q A α)) post g ↔ post x g := Iff.rfl

@[simp] theorem keeps_lift (p : Prog Q A α) :
    Keeps next C (ExceptT.run (liftM p : Fallible ε Q A α)) post g ↔
      Keeps next C p (fun a => post (.ok a)) g := by
  change Keeps next C (Except.ok <$> p) post g ↔ _
  rw [map_eq_pure_bind, keeps_bind]
  rfl

@[simp] theorem keeps_attempt {δ : Type} (mapErr : δ → ε) (p : Prog Q A (Except δ α)) :
    Keeps next C (ExceptT.run (attempt mapErr p)) post g ↔
      Keeps next C p (fun r => post (r.mapError mapErr)) g := by
  unfold attempt
  rw [ExceptT.run_mk, keeps_bind]
  rfl

/-- An error ends the program where it stands. -/
theorem keeps_fallible_bind (p : Fallible ε Q A β) (f : β → Fallible ε Q A α) :
    Keeps next C (ExceptT.run (p >>= f)) post g ↔
      Keeps next C (ExceptT.run p) (fun r g => match r with
        | .ok b => Keeps next C (ExceptT.run (f b)) post g
        | .error e => post (.error e) g) g := by
  change Keeps next C (ExceptT.run p >>= ExceptT.bindCont f) post g ↔ _
  rw [keeps_bind]
  have hcont : (fun r => Keeps next C (ExceptT.bindCont f r) post) = fun r g => match r with
      | .ok b => Keeps next C (ExceptT.run (f b)) post g
      | .error e => post (.error e) g := by
    funext r g
    cases r with
    | error e => rfl
    | ok b => rfl
  rw [hcont]

end Fallible

end Keeps

/-- No constraint on the answers: only the questions matter. -/
def questions (P : Q → Prop) : Contract Q A Unit where
  allowed _ q := P q
  expects _ _ _ := True

/-- Every question the program can ask, on any path, satisfies `P`. -/
def AsksOnly (P : Q → Prop) (p : Prog Q A α) : Prop :=
  Keeps (fun _ _ _ => ()) (questions P) p (fun _ _ => True) ()

theorem asksOnly_ask {P : Q → Prop} (q : Q) (k : A q → Prog Q A α) :
    AsksOnly P (.ask q k) ↔ P q ∧ ∀ x, AsksOnly P (k x) := by
  unfold AsksOnly
  rw [keeps_ask]
  exact and_congr Iff.rfl (forall_congr' fun x => ⟨fun h => h trivial, fun h _ => h⟩)

theorem asksOnly_bind {P : Q → Prop} {p : Prog Q A α} {f : α → Prog Q A β}
    (hp : AsksOnly P p) (hf : ∀ a, AsksOnly P (f a)) : AsksOnly P (p >>= f) := by
  unfold AsksOnly
  rw [keeps_bind]
  exact keeps_mono _ _ hp fun a _ _ => hf a

theorem asksOnly_call {P : Q → Prop} {q : Q} (h : P q) : AsksOnly P (call q : Prog Q A (A q)) :=
  ⟨h, fun _ _ => trivial⟩

theorem asksOnly_pure {P : Q → Prop} (a : α) : AsksOnly P (pure a : Prog Q A α) := trivial

theorem asksOnly_fallible_bind {P : Q → Prop} {p : Fallible ε Q A α}
    {f : α → Fallible ε Q A β} (hp : AsksOnly P (ExceptT.run p))
    (hf : ∀ a, AsksOnly P (ExceptT.run (f a))) : AsksOnly P (ExceptT.run (p >>= f)) := by
  unfold AsksOnly
  rw [keeps_fallible_bind]
  apply keeps_mono _ _ hp
  intro r _ _
  cases r with
  | error e => trivial
  | ok a => exact hf a

theorem asksOnly_attempt {δ : Type} {P : Q → Prop} (mapErr : δ → ε)
    {p : Prog Q A (Except δ α)} (hp : AsksOnly P p) :
    AsksOnly P (ExceptT.run (attempt mapErr p)) :=
  asksOnly_bind hp fun _ => asksOnly_pure _

theorem asksOnly_lift {P : Q → Prop} {p : Prog Q A α} (hp : AsksOnly P p) :
    AsksOnly P (ExceptT.run (liftM p : Fallible ε Q A α)) := by
  unfold AsksOnly
  rw [keeps_lift]
  exact hp

theorem asksOnly_except {P : Q → Prop} (x : Except ε α) :
    AsksOnly P (ExceptT.run (liftM x : Fallible ε Q A α)) := trivial

theorem asksOnly_mono {P P' : Q → Prop} {p : Prog Q A α} (h : AsksOnly P p)
    (himp : ∀ q, P q → P' q) : AsksOnly P' p := by
  induction p with
  | ret a => trivial
  | ask q k ih => exact ⟨himp q h.1, fun x hx => ih x (h.2 x hx)⟩

/-- A program whose questions have only one expected answer each ends as its run does. -/
theorem keeps_run {G : Type} (next : G → (q : Q) → A q → G) (C : Contract Q A G)
    (answer : ∀ q, A q) {P : Q → Prop} {p : Prog Q A α} (h : AsksOnly P p)
    (hallowed : ∀ g q, P q → C.allowed g q)
    (hanswer : ∀ g q x, P q → C.expects g q x → x = answer q)
    (g : G) : Keeps next C p (fun a _ => a = p.run answer) g := by
  induction p generalizing g with
  | ret a => rfl
  | ask q k ih =>
    refine ⟨hallowed g q h.1, fun x hx => ?_⟩
    have hxq := hanswer g q x h.1 hx
    subst hxq
    exact ih (answer q) (h.2 (answer q) trivial) (next g q (answer q))

/-- A program that asks only what is allowed and moves nothing. -/
theorem keeps_frame {G : Type} (next : G → (q : Q) → A q → G) (C : Contract Q A G)
    {P : Q → Prop} {p : Prog Q A α} (h : AsksOnly P p) (g : G)
    (hallowed : ∀ q, P q → C.allowed g q) (hnext : ∀ q x, P q → next g q x = g) :
    Keeps next C p (fun _ g' => g' = g) g := by
  induction p with
  | ret a => rfl
  | ask q k ih =>
    refine ⟨hallowed q h.1, fun x _ => ?_⟩
    rw [hnext q x h.1]
    exact ih x (h.2 x trivial)

theorem asksOnly_asked {P : Q → Prop} {p : Prog Q A α} (h : AsksOnly P p) (answer : ∀ q, A q) :
    ∀ q ∈ p.asked answer, P q := by
  induction p with
  | ret a => simp [Prog.asked]
  | ask q k ih =>
    intro q' hq'
    rcases List.mem_cons.mp hq' with rfl | hq'
    · exact h.1
    · exact ih (answer q) (h.2 (answer q) trivial) q' hq'

/-- Only the answers to what is asked matter. -/
theorem run_congr {P : Q → Prop} {p : Prog Q A α} (h : AsksOnly P p) (answer answer' : ∀ q, A q)
    (hsame : ∀ q, P q → answer q = answer' q) : p.run answer = p.run answer' := by
  induction p with
  | ret a => rfl
  | ask q k ih =>
    have hq := hsame q h.1
    change (k (answer q)).run answer = (k (answer' q)).run answer'
    rw [← hq]
    exact ih (answer q) (h.2 (answer q) trivial)

/-- With some answers the program asks `trace` and returns `a`. -/
inductive Runs : Prog Q A α → List Q → α → Prop
  | ret (a : α) : Runs (.ret a) [] a
  | ask (q : Q) (k : A q → Prog Q A α) (x : A q) (trace : List Q) (a : α)
      (h : Runs (k x) trace a) : Runs (.ask q k) (q :: trace) a

section Traces

variable {trace : List Q}

theorem runs_pure (a b : α) : Runs (pure a : Prog Q A α) trace b ↔ trace = [] ∧ b = a := by
  constructor
  · intro h
    cases h
    exact ⟨rfl, rfl⟩
  · intro h
    obtain ⟨rfl, rfl⟩ := h
    exact .ret b

theorem runs_bind (p : Prog Q A α) (f : α → Prog Q A β) (b : β) :
    Runs (p >>= f) trace b ↔
      ∃ t a t', Runs p t a ∧ Runs (f a) t' b ∧ trace = t ++ t' := by
  induction p generalizing trace with
  | ret a =>
    constructor
    · intro h
      exact ⟨[], a, trace, .ret a, h, rfl⟩
    · intro h
      obtain ⟨t, a', t', ha, hf, rfl⟩ := h
      cases ha
      exact hf
  | ask q k ih =>
    constructor
    · intro h
      cases h with
      | ask q k x trace b h =>
        obtain ⟨t, a, t', hk, hf, rfl⟩ := (ih x).mp h
        exact ⟨q :: t, a, t', .ask q _ x t a hk, hf, rfl⟩
    · intro h
      obtain ⟨t, a, t', ha, hf, rfl⟩ := h
      cases ha with
      | ask q k x t a hk => exact .ask q _ x _ b ((ih x).mpr ⟨t, a, t', hk, hf, rfl⟩)

theorem asksOnly_runs {P : Q → Prop} {p : Prog Q A α} (h : AsksOnly P p) (a : α)
    (hrun : Runs p trace a) : ∀ q ∈ trace, P q := by
  induction hrun with
  | ret a => simp
  | ask q k x trace a hk ih =>
    intro q' hq'
    rcases List.mem_cons.mp hq' with rfl | hq'
    · exact h.1
    · exact ih (h.2 x trivial) q' hq'

end Traces

-- The rules above are the interface: unfolding would run the program.
attribute [irreducible] Keeps AsksOnly

end Dialogue
