import Overfwd.Lib.Layers

namespace Dialogue

variable {Q Q' : Type} {A : Q → Type} {A' : Q' → Type} {α G : Type}

/-- The contract that asks only what is legal and expects nothing of the answers. -/
def rules (legal : G → Q → Prop) : Contract Q A G where
  allowed := legal
  expects _ _ _ := True

/-- The state that a history leads to. -/
def after (next : G → (q : Q) → A q → G) (g : G) (h : List (Exchange Q A)) : G :=
  h.foldl (fun g e => next g e.1 e.2) g

theorem after_append (next : G → (q : Q) → A q → G) (g : G) (h₁ h₂ : List (Exchange Q A)) :
    after next g (h₁ ++ h₂) = after next (after next g h₁) h₂ := List.foldl_append

/-- Every question of the history is legal where it is asked. -/
def Legal (legal : G → Q → Prop) (next : G → (q : Q) → A q → G) :
    G → List (Exchange Q A) → Prop
  | _, [] => True
  | g, e :: h => legal g e.1 ∧ Legal legal next (next g e.1 e.2) h

section Histories

variable {legal : G → Q → Prop} {next : G → (q : Q) → A q → G}

theorem legal_append (g : G) (h₁ h₂ : List (Exchange Q A)) :
    Legal legal next g (h₁ ++ h₂) ↔
      Legal legal next g h₁ ∧ Legal legal next (after next g h₁) h₂ := by
  induction h₁ generalizing g with
  | nil => exact ⟨fun h => ⟨trivial, h⟩, fun h => h.2⟩
  | cons e h₁ ih =>
    change _ ∧ Legal legal next _ (h₁ ++ h₂) ↔ (_ ∧ Legal legal next _ h₁) ∧ _
    rw [ih, and_assoc]
    rfl

/-- A program that keeps the rules plays legal histories, and ends where it says. -/
theorem legal_plays {p : Prog Q A α} {post : α → G → Prop} {g : G}
    (hkeeps : Keeps next (rules legal) p post g) {h : List (Exchange Q A)} {a : α}
    (hplays : Plays p h a) : Legal legal next g h ∧ post a (after next g h) := by
  induction hplays generalizing g with
  | ret a => exact ⟨trivial, (keeps_ret _ _ _ _ _).mp hkeeps⟩
  | ask q k x h a _ ih =>
    obtain ⟨hlegal, hrest⟩ := (keeps_ask _ _ _ _ _ _).mp hkeeps
    obtain ⟨hhistory, hpost⟩ := ih (hrest x trivial)
    exact ⟨⟨hlegal, hhistory⟩, hpost⟩

/-- Any question of a legal history is legal after what came before it. -/
theorem legal_split (g : G) (h₁ h₂ : List (Exchange Q A)) (e : Exchange Q A)
    (h : Legal legal next g (h₁ ++ e :: h₂)) : legal (after next g h₁) e.1 :=
  ((legal_append g h₁ (e :: h₂)).mp h).2.1

/-- The state that records everything is the history itself. -/
theorem after_record (h h' : List (Exchange Q A)) : after record h h' = h ++ h' := by
  induction h' generalizing h with
  | nil => exact (List.append_nil h).symm
  | cons e h' ih =>
    change after record (record h e.1 e.2) h' = _
    rw [ih]
    exact List.append_assoc _ _ _

/-- One that is stopped midway has been legal until then. -/
theorem legal_begins {p : Prog Q A α} {post : α → G → Prop} {g : G}
    (hkeeps : Keeps next (rules legal) p post g) {h : List (Exchange Q A)} (hbegins : Begins p h) :
    Legal legal next g h := by
  obtain ⟨h', a, hplays⟩ := hbegins
  exact ((legal_append g h h').mp (legal_plays hkeeps hplays).1).1

end Histories

/-- What every question that may be asked leaves as it is, however it is answered. -/
theorem keeps_stable (next : G → (q : Q) → A q → G) (C : Contract Q A G) (inv : G → Prop)
    {P : Q → Prop} {p : Prog Q A α} (hP : AsksOnly P p)
    (hallowed : ∀ g q, inv g → P q → C.allowed g q)
    (hnext : ∀ g q x, inv g → P q → inv (next g q x)) (g : G) (hg : inv g) :
    Keeps next C p (fun _ g' => inv g') g := by
  induction p generalizing g with
  | ret a => exact (keeps_ret _ _ _ _ _).mpr hg
  | ask q k ih =>
    obtain ⟨hq, hk⟩ := (asksOnly_ask q k).mp hP
    refine (keeps_ask _ _ _ _ _ _).mpr ⟨hallowed g q hg hq, fun x _ => ?_⟩
    exact ih x (hk x) _ (hnext g q x hg hq)

/-- A state that every answering program comes back to is where the whole ends. -/
theorem keeps_handle_invariant (next : G → (q : Q') → A' q → G) (C : Contract Q' A' G)
    (answer : ∀ q, Prog Q' A' (A q)) (inv : G → Prop)
    (hanswer : ∀ q g, inv g → Keeps next C (answer q) (fun _ g' => inv g') g) (p : Prog Q A α)
    (g : G) (hg : inv g) : Keeps next C (p.handle answer) (fun _ g' => inv g') g := by
  induction p generalizing g with
  | ret a => exact (keeps_pure _ _ _ _ _).mpr hg
  | ask q k ih =>
    refine (keeps_bind _ _ (answer q) (fun x => (k x).handle answer) _ _).mpr ?_
    exact keeps_mono _ _ (hanswer q g hg) fun x g' hg' => ih x g' hg'

/-- The rules of a conversation held under other names. -/
theorem keeps_relabel (f : Q → Q') {legal : G → Q → Prop}
    {next : G → (q : Q) → A' (f q) → G} {legal' : G → Q' → Prop} {next' : G → (q : Q') → A' q → G}
    (hlegal : ∀ g q, legal g q → legal' g (f q)) (hnext : ∀ g q x, next' g (f q) x = next g q x)
    {p : Prog Q (fun q => A' (f q)) α} {post : α → G → Prop} {g : G}
    (hkeeps : Keeps next (rules legal) p post g) :
    Keeps next' (rules legal') (p.handle fun q => call (f q)) post g := by
  induction p generalizing g with
  | ret a => exact (keeps_pure _ _ _ _ _).mpr ((keeps_ret _ _ _ _ _).mp hkeeps)
  | ask q k ih =>
    obtain ⟨hallowed, hrest⟩ := (keeps_ask _ _ _ _ _ _).mp hkeeps
    refine (keeps_ask _ _ _ _ _ _).mpr ⟨hlegal g q hallowed, fun x _ => ?_⟩
    rw [hnext]
    exact ih x (hrest x trivial)

end Dialogue
