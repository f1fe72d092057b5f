import Overfwd.Lib.Dialogue

/-! Any number of programs over one shared state, one question at a time, in any
order. Each thread has a label, a ghost record of what it was answered, and the rest
of its program. -/
namespace Interleaving

open Dialogue

variable {L G Q S α : Type} {A : Q → Type}

section Places

variable {β : Type} {before after : List β} {y : β}

/-- What is in a list is at the place or is one of the others. -/
theorem place_or_other (x : β) (h : y ∈ before ++ x :: after) : y = x ∨ y ∈ before ++ after := by
  rcases List.mem_append.mp h with h | h
  · exact .inr (List.mem_append_left _ h)
  · rcases List.mem_cons.mp h with rfl | h
    · exact .inl rfl
    · exact .inr (List.mem_append_right _ h)

theorem mem_of_other (x : β) (h : y ∈ before ++ after) : y ∈ before ++ x :: after := by
  rcases List.mem_append.mp h with h | h
  · exact List.mem_append_left _ h
  · exact List.mem_append_right _ (List.mem_cons_of_mem _ h)

end Places

/-- `act s q x s'`: in state `s` the question `q` may be answered by `x`, leading to
`s'`. `drift` is what the surroundings do on their own. -/
structure System (L G Q : Type) (A : Q → Type) (α S : Type) where
  body : L → Prog Q A α
  act : S → (q : Q) → A q → S → Prop
  drift : S → S → Prop
  start : L → G
  next : G → (q : Q) → A q → G

structure Thread (L G Q : Type) (A : Q → Type) (α : Type) where
  label : L
  ghost : G
  prog : Prog Q A α

structure Config (L G Q : Type) (A : Q → Type) (α S : Type) where
  shared : S
  threads : List (Thread L G Q A α)

def Thread.record (t : Thread L G Q A α) : L × G := (t.label, t.ghost)

def Config.records (c : Config L G Q A α S) : List (L × G) := c.threads.map Thread.record

/-- The configurations of all runs from `s₀` that make no other calls than `calls`. -/
inductive Reachable (sys : System L G Q A α S) (calls : Set L) (s₀ : S) :
    Config L G Q A α S → Prop
  | init : Reachable sys calls s₀ ⟨s₀, []⟩
  | spawn (s : S) (ts : List (Thread L G Q A α)) (l : L) (hl : l ∈ calls)
      (hreach : Reachable sys calls s₀ ⟨s, ts⟩) :
      Reachable sys calls s₀ ⟨s, ts ++ [⟨l, sys.start l, sys.body l⟩]⟩
  | act (s s' : S) (before after : List (Thread L G Q A α)) (l : L) (g : G) (q : Q)
      (k : A q → Prog Q A α) (x : A q) (hact : sys.act s q x s')
      (hreach : Reachable sys calls s₀ ⟨s, before ++ ⟨l, g, .ask q k⟩ :: after⟩) :
      Reachable sys calls s₀ ⟨s', before ++ ⟨l, sys.next g q x, k x⟩ :: after⟩
  | drift (s s' : S) (ts : List (Thread L G Q A α)) (hdrift : sys.drift s s')
      (hreach : Reachable sys calls s₀ ⟨s, ts⟩) : Reachable sys calls s₀ ⟨s', ts⟩

def Config.labels (c : Config L G Q A α S) : Set L := {l | ∃ t ∈ c.threads, t.label = l}

theorem labels_subset (sys : System L G Q A α S) (calls : Set L) (s₀ : S)
    (c : Config L G Q A α S) (hreach : Reachable sys calls s₀ c) : c.labels ⊆ calls := by
  induction hreach with
  | init =>
    rintro l ⟨t, ht, rfl⟩
    cases ht
  | spawn s ts l hl hreach ih =>
    rintro l' ⟨t, ht, rfl⟩
    rcases List.mem_append.mp ht with ht | ht
    · exact ih ⟨t, ht, rfl⟩
    · obtain rfl := List.mem_singleton.mp ht
      exact hl
  | act s s' before after l g q k x hact hreach ih =>
    rintro l' ⟨t, ht, rfl⟩
    rcases place_or_other _ ht with rfl | ht
    · exact ih ⟨⟨l, g, .ask q k⟩, by simp, rfl⟩
    · exact ih ⟨t, mem_of_other _ ht, rfl⟩
  | drift s s' ts hdrift hreach ih => exact ih

/-- A run makes no other calls than those whose threads it has. -/
theorem reachable_labels (sys : System L G Q A α S) (calls calls' : Set L) (s₀ : S)
    (c : Config L G Q A α S) (hreach : Reachable sys calls s₀ c) (hsub : c.labels ⊆ calls') :
    Reachable sys calls' s₀ c := by
  induction hreach with
  | init => exact .init
  | spawn s ts l hl hreach ih =>
    apply Reachable.spawn s ts l (hsub ⟨⟨l, sys.start l, sys.body l⟩, by simp, rfl⟩)
    apply ih
    intro l' hl'
    obtain ⟨t, ht, rfl⟩ := hl'
    exact hsub ⟨t, List.mem_append_left _ ht, rfl⟩
  | act s s' before after l g q k x hact hreach ih =>
    apply Reachable.act s s' before after l g q k x hact
    apply ih
    intro l' hl'
    obtain ⟨t, ht, rfl⟩ := hl'
    rcases place_or_other _ ht with rfl | ht
    · exact hsub ⟨⟨l, sys.next g q x, k x⟩, by simp, rfl⟩
    · exact hsub ⟨t, mem_of_other _ ht, rfl⟩
  | drift s s' ts hdrift hreach ih => exact .drift s s' ts hdrift (ih hsub)

/-- What must be shown for an invariant of the shared state and the ghost records. -/
structure Invariant (sys : System L G Q A α S) (calls : Set L) (s₀ : S)
    (C : L → Contract Q A G) (post : L → α → G → Prop) (I : S → List (L × G) → Prop) : Prop where
  init : I s₀ []
  spawn : ∀ s rs l, l ∈ calls → I s rs → I s (rs ++ [(l, sys.start l)])
  body : ∀ l, l ∈ calls → Keeps sys.next (C l) (sys.body l) (post l) (sys.start l)
  expects : ∀ s before after l g q x s', I s (before ++ (l, g) :: after) →
    (C l).allowed g q → sys.act s q x s' → (C l).expects g q x
  act : ∀ s before after l g q x s', I s (before ++ (l, g) :: after) →
    (C l).allowed g q → sys.act s q x s' → I s' (before ++ (l, sys.next g q x) :: after)
  drift : ∀ s rs s', I s rs → sys.drift s s' → I s' rs

/-- The run rule: the invariant holds in every reachable configuration, and every
thread still keeps its contract from where it stands. -/
theorem reachable_keeps (sys : System L G Q A α S) (calls : Set L) (s₀ : S)
    (C : L → Contract Q A G) (post : L → α → G → Prop) (I : S → List (L × G) → Prop)
    (h : Invariant sys calls s₀ C post I) (c : Config L G Q A α S)
    (hreach : Reachable sys calls s₀ c) :
    I c.shared c.records ∧
      ∀ t ∈ c.threads, Keeps sys.next (C t.label) t.prog (post t.label) t.ghost := by
  induction hreach with
  | init => exact ⟨h.init, by simp⟩
  | spawn s ts l hl hreach ih =>
    obtain ⟨hI, hkeeps⟩ := ih
    constructor
    · have hspawn := h.spawn s _ l hl hI
      simpa [Config.records, Thread.record] using hspawn
    · intro t ht
      rcases List.mem_append.mp ht with ht | ht
      · exact hkeeps t ht
      · obtain rfl := List.mem_singleton.mp ht
        exact h.body l hl
  | act s s' before after l g q k x hact hreach ih =>
    obtain ⟨hI, hkeeps⟩ := ih
    have hthread := hkeeps ⟨l, g, .ask q k⟩ (by simp)
    obtain ⟨hallowed, hrest⟩ := (keeps_ask sys.next (C l) q k (post l) g).mp hthread
    have hrecords : I s (before.map Thread.record ++ (l, g) :: after.map Thread.record) := by
      simpa [Config.records, Thread.record] using hI
    constructor
    · have hstep := h.act s _ _ l g q x s' hrecords hallowed hact
      simpa [Config.records, Thread.record] using hstep
    · intro t ht
      rcases place_or_other _ ht with rfl | ht
      · exact hrest x (h.expects s _ _ l g q x s' hrecords hallowed hact)
      · exact hkeeps t (mem_of_other _ ht)
  | drift s s' ts hdrift hreach ih => exact ⟨h.drift s _ s' ih.1 hdrift, ih.2⟩

/-- A thread that has finished meets its postcondition. -/
theorem reachable_post (sys : System L G Q A α S) (calls : Set L) (s₀ : S)
    (C : L → Contract Q A G) (post : L → α → G → Prop) (I : S → List (L × G) → Prop)
    (h : Invariant sys calls s₀ C post I) (c : Config L G Q A α S)
    (hreach : Reachable sys calls s₀ c) (l : L) (g : G) (a : α)
    (ht : ⟨l, g, .ret a⟩ ∈ c.threads) : post l a g := by
  have hkeeps := (reachable_keeps sys calls s₀ C post I h c hreach).2 _ ht
  exact (keeps_ret sys.next (C l) a (post l) g).mp hkeeps

/-- A thread about to ask is allowed to. -/
theorem reachable_allowed (sys : System L G Q A α S) (calls : Set L) (s₀ : S)
    (C : L → Contract Q A G) (post : L → α → G → Prop) (I : S → List (L × G) → Prop)
    (h : Invariant sys calls s₀ C post I) (c : Config L G Q A α S)
    (hreach : Reachable sys calls s₀ c) (l : L) (g : G) (q : Q) (k : A q → Prog Q A α)
    (ht : ⟨l, g, .ask q k⟩ ∈ c.threads) : (C l).allowed g q := by
  have hkeeps := (reachable_keeps sys calls s₀ C post I h c hreach).2 _ ht
  exact ((keeps_ask sys.next (C l) q k (post l) g).mp hkeeps).1

section Execute

variable (respond : S → (q : Q) → A q × S)

/-- One thread run to its end with nobody else moving. -/
def execute (s : S) : Prog Q A α → α × S
  | .ret a => (a, s)
  | .ask q k => execute (respond s q).2 (k (respond s q).1)

theorem reachable_execute (sys : System L G Q A α S) (calls : Set L) (s₀ : S)
    (hrespond : ∀ s q, sys.act s q (respond s q).1 (respond s q).2)
    (ts : List (Thread L G Q A α)) (l : L) (g : G) (p : Prog Q A α) (s : S)
    (hreach : Reachable sys calls s₀ ⟨s, ts ++ [⟨l, g, p⟩]⟩) :
    ∃ g', Reachable sys calls s₀
      ⟨(execute respond s p).2, ts ++ [⟨l, g', .ret (execute respond s p).1⟩]⟩ := by
  induction p generalizing s g with
  | ret a => exact ⟨g, hreach⟩
  | ask q k ih =>
    have hstep := Reachable.act s _ ts [] l g q k _ (hrespond s q) hreach
    exact ih _ _ _ hstep

/-- The first questions of one thread with nobody else moving. -/
def advance : ℕ → S → Prog Q A α → Prog Q A α × S
  | 0, s, p => (p, s)
  | _ + 1, s, .ret a => (.ret a, s)
  | n + 1, s, .ask q k => advance n (respond s q).2 (k (respond s q).1)

theorem reachable_advance (sys : System L G Q A α S) (calls : Set L) (s₀ : S)
    (hrespond : ∀ s q, sys.act s q (respond s q).1 (respond s q).2) (n : ℕ)
    (ts : List (Thread L G Q A α)) (l : L) (g : G) (p : Prog Q A α) (s : S)
    (hreach : Reachable sys calls s₀ ⟨s, ts ++ [⟨l, g, p⟩]⟩) :
    ∃ g', Reachable sys calls s₀
      ⟨(advance respond n s p).2, ts ++ [⟨l, g', (advance respond n s p).1⟩]⟩ := by
  induction n generalizing g p s with
  | zero => exact ⟨g, hreach⟩
  | succ n ih =>
    cases p with
    | ret a => exact ⟨g, hreach⟩
    | ask q k =>
      have hstep := Reachable.act s _ ts [] l g q k _ (hrespond s q) hreach
      exact ih _ _ _ hstep

/-- A call made and run to its end at one go. -/
theorem reachable_call (sys : System L G Q A α S) (calls : Set L) (s₀ : S)
    (hrespond : ∀ s q, sys.act s q (respond s q).1 (respond s q).2)
    (ts : List (Thread L G Q A α)) (l : L) (hl : l ∈ calls) (s : S)
    (hreach : Reachable sys calls s₀ ⟨s, ts⟩) :
    ∃ g, Reachable sys calls s₀ ⟨(execute respond s (sys.body l)).2,
      ts ++ [⟨l, g, .ret (execute respond s (sys.body l)).1⟩]⟩ :=
  reachable_execute respond sys calls s₀ hrespond ts l _ _ s (.spawn s ts l hl hreach)

/-- A call made and stopped at its next question after `n`. -/
theorem reachable_stopped (sys : System L G Q A α S) (calls : Set L) (s₀ : S)
    (hrespond : ∀ s q, sys.act s q (respond s q).1 (respond s q).2)
    (ts : List (Thread L G Q A α)) (l : L) (hl : l ∈ calls) (s : S)
    (hreach : Reachable sys calls s₀ ⟨s, ts⟩) (n : ℕ) (q : Q)
    (hnext : (advance respond n s (sys.body l)).1.next? = some q) :
    ∃ g k, Reachable sys calls s₀
      ⟨(advance respond n s (sys.body l)).2, ts ++ [⟨l, g, .ask q k⟩]⟩ := by
  obtain ⟨g, hstopped⟩ := reachable_advance respond sys calls s₀ hrespond n ts l _ _ s
    (.spawn s ts l hl hreach)
  obtain ⟨k, hk⟩ := exists_ask_of_next? _ q hnext
  rw [hk] at hstopped
  exact ⟨g, k, hstopped⟩

end Execute

end Interleaving
