import Overfwd.Lib.History

namespace Dialogue

variable {Q Q' Q'' : Type} {A : Q → Type} {A' : Q' → Type} {A'' : Q'' → Type} {ε α β : Type}

section Histories

variable (answer : ∀ q, Prog Q' A' (A q))

/-- What was exchanged below to answer the questions of a history as they were answered. -/
inductive Layered : List (Exchange Q A) → List (Exchange Q' A') → Prop
  | nil : Layered [] []
  | cons (q : Q) (x : A q) (h : List (Exchange Q A)) (H₁ H₂ : List (Exchange Q' A'))
      (hq : Plays (answer q) H₁ x) (hrest : Layered h H₂) : Layered (⟨q, x⟩ :: h) (H₁ ++ H₂)

variable {answer}

theorem layered_nil (H : List (Exchange Q' A')) : Layered answer [] H ↔ H = [] := by
  constructor
  · intro hlayered
    cases hlayered
    rfl
  · rintro rfl
    exact .nil

theorem layered_cons (q : Q) (x : A q) (h : List (Exchange Q A)) (H : List (Exchange Q' A')) :
    Layered answer (⟨q, x⟩ :: h) H ↔
      ∃ H₁ H₂, Plays (answer q) H₁ x ∧ Layered answer h H₂ ∧ H = H₁ ++ H₂ := by
  constructor
  · intro hlayered
    cases hlayered with
    | cons q x h H₁ H₂ hq hrest => exact ⟨H₁, H₂, hq, hrest, rfl⟩
  · rintro ⟨H₁, H₂, hq, hrest, rfl⟩
    exact .cons q x h H₁ H₂ hq hrest

theorem layered_one (q : Q) (x : A q) (H : List (Exchange Q' A')) :
    Layered answer [⟨q, x⟩] H ↔ Plays (answer q) H x := by
  rw [layered_cons]
  constructor
  · rintro ⟨H₁, H₂, hq, hnil, rfl⟩
    rw [(layered_nil H₂).mp hnil, List.append_nil]
    exact hq
  · intro hq
    exact ⟨H, [], hq, .nil, (List.append_nil H).symm⟩

theorem layered_append (h₁ h₂ : List (Exchange Q A)) (H : List (Exchange Q' A')) :
    Layered answer (h₁ ++ h₂) H ↔
      ∃ H₁ H₂, Layered answer h₁ H₁ ∧ Layered answer h₂ H₂ ∧ H = H₁ ++ H₂ := by
  induction h₁ generalizing H with
  | nil =>
    rw [List.nil_append]
    constructor
    · intro hlayered
      exact ⟨[], H, .nil, hlayered, rfl⟩
    · rintro ⟨H₁, H₂, h₁, h₂, rfl⟩
      rw [(layered_nil H₁).mp h₁]
      exact h₂
  | cons e h₁ ih =>
    obtain ⟨q, x⟩ := e
    rw [List.cons_append, layered_cons]
    constructor
    · rintro ⟨H₁, H₂, hq, hrest, rfl⟩
      obtain ⟨H₃, H₄, h₃, h₄, rfl⟩ := (ih H₂).mp hrest
      exact ⟨H₁ ++ H₃, H₄, .cons q x h₁ H₁ H₃ hq h₃, h₄, (List.append_assoc _ _ _).symm⟩
    · rintro ⟨H₁, H₂, h₁', h₂', rfl⟩
      obtain ⟨H₃, H₄, hq, hrest, rfl⟩ := (layered_cons _ _ _ _).mp h₁'
      exact ⟨H₃, H₄ ++ H₂, hq, (ih _).mpr ⟨H₄, H₂, hrest, h₂', rfl⟩, List.append_assoc _ _ _⟩

/-- Every question above was answered by a run below, which is a part of the whole. -/
theorem layered_played {h : List (Exchange Q A)} {H : List (Exchange Q' A')}
    (hlayered : Layered answer h H) (d : Exchange Q A) (hd : d ∈ h) :
    ∃ H₁, Plays (answer d.1) H₁ d.2 ∧ H₁ ⊆ H := by
  induction hlayered with
  | nil => cases hd
  | cons q x h H₁ H₂ hq _ ih =>
    rcases List.mem_cons.mp hd with rfl | hd
    · exact ⟨H₁, hq, List.subset_append_left H₁ H₂⟩
    · obtain ⟨H', hplays, hsub⟩ := ih hd
      exact ⟨H', hplays, List.subset_append_of_subset_right H₁ hsub⟩

/-- The whole plays what its upper layer plays, with every exchange spelt out below. -/
theorem plays_handle (p : Prog Q A α) (H : List (Exchange Q' A')) (a : α) :
    Plays (p.handle answer) H a ↔ ∃ h, Plays p h a ∧ Layered answer h H := by
  induction p generalizing H with
  | ret b =>
    constructor
    · intro hplays
      obtain ⟨rfl, rfl⟩ := (plays_pure _ _).mp hplays
      exact ⟨[], .ret a, .nil⟩
    · rintro ⟨h, hplays, hlayered⟩
      cases hplays
      rw [(layered_nil H).mp hlayered]
      exact (plays_pure _ _).mpr ⟨rfl, rfl⟩
  | ask q k ih =>
    refine (plays_bind (answer q) (fun x => (k x).handle answer) a).trans ?_
    constructor
    · rintro ⟨H₁, x, H₂, hq, hrest, rfl⟩
      obtain ⟨h, hplays, hlayered⟩ := (ih x H₂).mp hrest
      exact ⟨⟨q, x⟩ :: h, .ask q k x h a hplays, .cons q x h H₁ H₂ hq hlayered⟩
    · rintro ⟨h, hplays, hlayered⟩
      cases hplays with
      | ask q k x h a hk =>
        obtain ⟨H₁, H₂, hq, hrest, rfl⟩ := (layered_cons _ _ _ _).mp hlayered
        exact ⟨H₁, x, H₂, hq, (ih x H₂).mpr ⟨h, hk, hrest⟩, rfl⟩

end Histories

/-- A program whose questions are asked under other names. -/
theorem plays_relabel (f : Q → Q') (p : Prog Q (fun q => A' (f q)) α) (H : List (Exchange Q' A'))
    (a : α) : Plays (p.handle fun q => call (f q)) H a ↔
      ∃ h, Plays p h a ∧ H = h.map fun e => ⟨f e.1, e.2⟩ := by
  rw [plays_handle]
  refine exists_congr fun h => and_congr Iff.rfl ?_
  induction h generalizing H with
  | nil => exact layered_nil H
  | cons e h ih =>
    obtain ⟨q, x⟩ := e
    rw [layered_cons, List.map_cons]
    constructor
    · rintro ⟨H₁, H₂, hq, hrest, rfl⟩
      rw [(plays_call _ _).mp hq, (ih H₂).mp hrest]
      rfl
    · rintro rfl
      exact ⟨_, _, (plays_call _ _).mpr rfl, (ih _).mpr rfl, rfl⟩

theorem asksOnly_true (p : Prog Q A α) : AsksOnly (fun _ => True) p := by
  induction p with
  | ret a => exact asksOnly_pure a
  | ask q k ih => exact (asksOnly_ask q k).mpr ⟨trivial, ih⟩

/-- A step that asks nothing hands on what it has computed. -/
theorem asksOnly_except_bind {P : Q → Prop} {x : Except ε α} {f : α → Fallible ε Q A β}
    (h : ∀ a, x = .ok a → AsksOnly P (ExceptT.run (f a))) :
    AsksOnly P (ExceptT.run ((liftM x : Fallible ε Q A α) >>= f)) := by
  cases x with
  | error e => exact asksOnly_pure _
  | ok a => exact h a rfl

section Programs

variable (answer : ∀ q, Prog Q' A' (A q))

@[simp] theorem handle_pure (a : α) :
    (pure a : Prog Q A α).handle answer = (pure a : Prog Q' A' α) := rfl

@[simp] theorem handle_call (q : Q) : (call q : Prog Q A (A q)).handle answer = answer q :=
  bind_pure _

theorem handle_handle (answer' : ∀ q, Prog Q'' A'' (A' q)) (p : Prog Q A α) :
    (p.handle answer).handle answer' = p.handle fun q => (answer q).handle answer' := by
  induction p with
  | ret a => rfl
  | ask q k ih =>
    change (answer q >>= fun x => (k x).handle answer).handle answer' = _
    rw [handle_bind]
    exact congrArg _ (funext ih)

theorem asksOnly_handle {P : Q → Prop} {P' : Q' → Prop} {p : Prog Q A α} (hP : AsksOnly P p)
    (hanswer : ∀ q, P q → AsksOnly P' (answer q)) : AsksOnly P' (p.handle answer) := by
  induction p with
  | ret a => exact asksOnly_pure a
  | ask q k ih =>
    obtain ⟨hq, hk⟩ := (asksOnly_ask q k).mp hP
    exact asksOnly_bind (hanswer q hq) fun x => ih x (hk x)

end Programs

section Contracts

variable {G G' : Type} (next : G → (q : Q) → A q → G) (next' : G' → (q : Q') → A' q → G')

/-- What `C` says of the upper layer is kept by the whole under `C'`, when the answers keep
`C'` and meet what `C` expects of them. `R` ties the two ghost states. -/
theorem keeps_handle (C : Contract Q A G) (C' : Contract Q' A' G')
    (answer : ∀ q, Prog Q' A' (A q)) (R : G → G' → Prop)
    (hanswer : ∀ g g' q, R g g' → C.allowed g q → Keeps next' C' (answer q)
      (fun x g'' => C.expects g q x ∧ R (next g q x) g'') g')
    {p : Prog Q A α} {post : α → G → Prop} {g : G} {g' : G'} (hp : Keeps next C p post g)
    (hR : R g g') :
    Keeps next' C' (p.handle answer) (fun a g'' => ∃ g₁, post a g₁ ∧ R g₁ g'') g' := by
  induction p generalizing g g' with
  | ret a => exact (keeps_pure _ _ _ _ _).mpr ⟨g, (keeps_ret _ _ _ _ _).mp hp, hR⟩
  | ask q k ih =>
    obtain ⟨hallowed, hrest⟩ := (keeps_ask _ _ _ _ _ _).mp hp
    refine (keeps_bind _ _ (answer q) (fun x => (k x).handle answer) _ _).mpr ?_
    apply keeps_mono _ _ (hanswer g g' q hR hallowed)
    rintro x g'' ⟨hexpects, hR'⟩
    exact ih x (hrest x hexpects) hR'

end Contracts

/-- A history that the program may have begun. -/
def Begins (p : Prog Q A α) (h : List (Exchange Q A)) : Prop := ∃ h' a, Plays p (h ++ h') a

theorem begins_of_plays {p : Prog Q A α} {h : List (Exchange Q A)} {a : α} (hplays : Plays p h a) :
    Begins p h := ⟨[], a, (List.append_nil h).symm ▸ hplays⟩

end Dialogue
