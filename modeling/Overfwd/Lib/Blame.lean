import Overfwd.Lib.Layers
import Overfwd.Lib.Outcome

namespace Dialogue

open Outcome

variable {Q Q' : Type} {A : Q → Type} {A' : Q' → Type} {ε κ α β : Type}

/-- The faults of a history. -/
def faults (fault? : (q : Q) → A q → Option κ) (h : List (Exchange Q A)) : List κ :=
  h.filterMap fun d => fault? d.1 d.2

/-- A result without a fault is a success or an error of the caller's own; a fault is a single
one and the error tells it. -/
def Blamed (tells : ε → κ → Prop) (own : ε → Prop) : Except ε α → List κ → Prop
  | .ok _, cs => cs = []
  | .error e, cs => (∃ c, cs = [c] ∧ tells e c) ∨ cs = [] ∧ own e

def Blames (fault? : (q : Q) → A q → Option κ) (tells : ε → κ → Prop) (own : ε → Prop)
    (p : Prog Q A (Except ε α)) : Prop :=
  ∀ h r, Plays p h r → Blamed tells own r (faults fault? h)

/-- After a fault nothing is asked that could be one. -/
def QuietAfter (fault? : (q : Q) → A q → Option κ) (h : List (Exchange Q A)) : Prop :=
  ∀ before d later, h = before ++ d :: later → fault? d.1 d.2 ≠ none →
    ∀ e ∈ later, ∀ y, fault? e.1 y = none

section Faults

variable (fault? : (q : Q) → A q → Option κ)

theorem faults_append (h₁ h₂ : List (Exchange Q A)) :
    faults fault? (h₁ ++ h₂) = faults fault? h₁ ++ faults fault? h₂ := List.filterMap_append

theorem faults_cons_none {q : Q} {x : A q} (hx : fault? q x = none) (h : List (Exchange Q A)) :
    faults fault? (⟨q, x⟩ :: h) = faults fault? h := List.filterMap_cons_none hx

theorem faults_cons_some {q : Q} {x : A q} {c : κ} (hx : fault? q x = some c)
    (h : List (Exchange Q A)) : faults fault? (⟨q, x⟩ :: h) = c :: faults fault? h :=
  List.filterMap_cons_some hx

theorem faults_one (q : Q) (x : A q) : faults fault? [⟨q, x⟩] = (fault? q x).toList := by
  cases hx : fault? q x with
  | none => exact faults_cons_none fault? hx []
  | some c => exact faults_cons_some fault? hx []

end Faults

section Rules

variable {fault? : (q : Q) → A q → Option κ} {tells : ε → κ → Prop} {own : ε → Prop}

theorem blamed_mono {own' : ε → Prop} (himp : ∀ e, own e → own' e) {r : Except ε α} {cs : List κ}
    (hr : Blamed tells own r cs) : Blamed tells own' r cs := by
  cases r with
  | ok a => exact hr
  | error e =>
    rcases hr with hone | ⟨hnone, he⟩
    · exact .inl hone
    · exact .inr ⟨hnone, himp e he⟩

theorem blamed_map (f : α → β) {r : Except ε α} {cs : List κ} (hr : Blamed tells own r cs) :
    Blamed tells own (r.map f) cs := by
  cases r with
  | ok a => exact hr
  | error e => exact hr

theorem blames_mono {own' : ε → Prop} {p : Prog Q A (Except ε α)}
    (hp : Blames fault? tells own p) (himp : ∀ e, own e → own' e) : Blames fault? tells own' p :=
  fun h r hplays => blamed_mono himp (hp h r hplays)

theorem blames_ret {r : Except ε α} (hr : FailsOnly own r) : Blames fault? tells own (.ret r) := by
  intro h r' hplays
  obtain ⟨rfl, rfl⟩ := (plays_pure _ _).mp hplays
  cases r' with
  | ok a => rfl
  | error e => exact .inr ⟨rfl, hr e rfl⟩

theorem blames_pure (a : α) :
    Blames fault? tells own (ExceptT.run (pure a : Fallible ε Q A α)) :=
  blames_ret (failsOnly_ok a)

theorem blames_throw {e : ε} (he : own e) :
    Blames fault? tells own (ExceptT.run (throw e : Fallible ε Q A α)) :=
  blames_ret (failsOnly_error e he)

theorem blames_except {x : Except ε α} (hx : FailsOnly own x) :
    Blames fault? tells own (ExceptT.run (liftM x : Fallible ε Q A α)) := by
  intro h r hplays
  obtain ⟨rfl, rfl⟩ := (plays_except _ _).mp hplays
  exact blames_ret hx [] r (.ret r)

/-- A question: either the answer is no fault and the rest goes on, or it is one and the rest is
its error. -/
theorem blames_ask (q : Q) (k : A q → Prog Q A (Except ε α))
    (hk : ∀ x, fault? q x = none ∧ Blames fault? tells own (k x) ∨
      ∃ e c, k x = .ret (.error e) ∧ fault? q x = some c ∧ tells e c) :
    Blames fault? tells own (.ask q k) := by
  intro h r hplays
  cases hplays with
  | ask q k x h r hrest =>
    rcases hk x with ⟨hnone, hblames⟩ | ⟨e, c, hstop, hfault, htells⟩
    · rw [faults_cons_none fault? hnone]
      exact hblames h r hrest
    · rw [hstop] at hrest
      obtain ⟨rfl, rfl⟩ := (plays_pure _ _).mp hrest
      exact .inl ⟨c, faults_cons_some fault? hfault [], htells⟩

/-- The same before a step that may fail. -/
theorem blames_answer (q : Q) (f : A q → Fallible ε Q A β)
    (hf : ∀ x, fault? q x = none ∧ Blames fault? tells own (ExceptT.run (f x)) ∨
      ∃ e c, ExceptT.run (f x) = .ret (.error e) ∧ fault? q x = some c ∧ tells e c) :
    Blames fault? tells own
      (ExceptT.run ((liftM (call q : Prog Q A (A q)) : Fallible ε Q A (A q)) >>= f)) :=
  blames_ask q _ hf

theorem blames_attempt {δ : Type} {mapErr : δ → ε} (p : Prog Q A (Except δ α))
    (hp : Blames fault? (fun err => tells (mapErr err)) (fun err => own (mapErr err)) p) :
    Blames fault? tells own (ExceptT.run (attempt mapErr p)) := by
  intro h r hplays
  obtain ⟨x, hasked, rfl⟩ := (plays_attempt _ _ _).mp hplays
  have hx := hp h x hasked
  cases x with
  | ok a => exact hx
  | error err => exact hx

theorem blames_bind {p : Fallible ε Q A α} {f : α → Fallible ε Q A β}
    (hp : Blames fault? tells own (ExceptT.run p))
    (hf : ∀ a, Blames fault? tells own (ExceptT.run (f a))) :
    Blames fault? tells own (ExceptT.run (p >>= f)) := by
  intro h r hplays
  rcases (plays_fallible_bind _ _ _).mp hplays with ⟨e, hfirst, rfl⟩ | ⟨h₁, a, h₂, hfirst, hrest, rfl⟩
  · exact hp h _ hfirst
  · have hnone : faults fault? h₁ = [] := hp h₁ _ hfirst
    rw [faults_append, hnone, List.nil_append]
    exact hf a h₂ r hrest

theorem blamed_single {r : Except ε α} {cs : List κ} (hr : Blamed tells own r cs) :
    cs.length ≤ 1 := by
  cases r with
  | ok a =>
    rw [show cs = [] from hr]
    exact Nat.zero_le 1
  | error e =>
    rcases hr with ⟨c, rfl, -⟩ | ⟨rfl, -⟩
    · exact Nat.le_refl 1
    · exact Nat.zero_le 1

end Rules

section Quiet

/-- Any question of a run may be answered otherwise, and then the run goes on from there. -/
theorem plays_redirect (answer : ∀ q, A q) {p : Prog Q A α} {h later : List (Exchange Q A)}
    {e : Exchange Q A} {a : α} (hplays : Plays p (h ++ e :: later) a) (y : A e.1) :
    ∃ later' a', Plays p (h ++ ⟨e.1, y⟩ :: later') a' := by
  induction h generalizing p with
  | nil =>
    cases hplays with
    | ask q k x h a hk => exact ⟨_, _, .ask q k y _ _ (plays_run answer (k y))⟩
  | cons d h ih =>
    cases hplays with
    | ask q k x _ a hk =>
      obtain ⟨later', a', hrest⟩ := ih hk
      exact ⟨later', a', .ask q k x _ a' hrest⟩

/-- Where no run has two faults, a question that could be a second one is not asked: it could be
answered so. -/
theorem quiet_of_single {fault? : (q : Q) → A q → Option κ} (answer : ∀ q, A q) {p : Prog Q A α}
    (hsingle : ∀ h a, Plays p h a → (faults fault? h).length ≤ 1) {h : List (Exchange Q A)} {a : α}
    (hplays : Plays p h a) : QuietAfter fault? h := by
  rintro before d later rfl hfault e he y
  obtain ⟨mid, rest, rfl⟩ := List.append_of_mem he
  by_contra hsecond
  obtain ⟨c, hc⟩ := Option.ne_none_iff_exists'.mp hfault
  obtain ⟨c', hc'⟩ := Option.ne_none_iff_exists'.mp hsecond
  have hsplit : before ++ d :: (mid ++ e :: rest) = (before ++ d :: mid) ++ e :: rest := by simp
  rw [hsplit] at hplays
  obtain ⟨later', a', hother⟩ := plays_redirect answer hplays y
  have htwo := hsingle _ a' hother
  rw [faults_append, faults_append, faults_cons_some fault? hc, faults_cons_some fault? hc'] at htwo
  simp only [List.length_append, List.length_cons] at htwo
  omega

end Quiet

section Layers

variable {tells : ε → κ → Prop} {own : ε → Prop}

theorem blames_relabel (fault?' : (q : Q') → A' q → Option κ) (f : Q → Q')
    {p : Prog Q (fun q => A' (f q)) (Except ε α)}
    (hp : Blames (fun q x => fault?' (f q) x) tells own p) :
    Blames fault?' tells own (p.handle fun q => call (f q)) := by
  intro H r hplays
  obtain ⟨h, hasked, rfl⟩ := (plays_relabel f p H r).mp hplays
  have hsame : faults fault?' (h.map fun e => ⟨f e.1, e.2⟩) =
      faults (fun q x => fault?' (f q) x) h := List.filterMap_map
  rw [hsame]
  exact hp h r hasked

variable {κ' : Type} {fault? : (q : Q) → A q → Option κ} {fault?' : (q : Q') → A' q → Option κ'}
  {answer : ∀ q, Prog Q' A' (A q)} {below : κ → Option κ'} {hidden : κ → Prop}
  (hanswer : ∀ q H x, Plays (answer q) H x →
    faults fault?' H = ((fault? q x).bind below).toList ∧
      ∀ c, fault? q x = some c → below c = none → hidden c)

include hanswer

/-- A fault above is what it is below, or it is hidden there. -/
theorem faults_layered {h : List (Exchange Q A)} {H : List (Exchange Q' A')}
    (hlayered : Layered answer h H) :
    faults fault?' H = (faults fault? h).filterMap below ∧
      ∀ c ∈ faults fault? h, below c = none → hidden c := by
  induction hlayered with
  | nil => exact ⟨rfl, fun c hc => nomatch hc⟩
  | cons q x h H₁ H₂ hq _ ih =>
    obtain ⟨hsame, hhidden⟩ := hanswer q H₁ x hq
    rw [faults_append, hsame, ih.1]
    cases hx : fault? q x with
    | none =>
      rw [faults_cons_none fault? hx]
      exact ⟨rfl, ih.2⟩
    | some c =>
      rw [faults_cons_some fault? hx]
      constructor
      · cases hc : below c with
        | none => simp [hc]
        | some c' => simp [hc]
      · intro c' hc' hnone
        rcases List.mem_cons.mp hc' with rfl | hc'
        · exact hhidden c' hx hnone
        · exact ih.2 c' hc' hnone

theorem blamed_layered {tells' : ε → κ' → Prop}
    (htells : ∀ e c c', below c = some c' → tells e c → tells' e c') {h : List (Exchange Q A)}
    {H : List (Exchange Q' A')} (hlayered : Layered answer h H) {r : Except ε α}
    (hr : Blamed tells own r (faults fault? h)) :
    Blamed tells' (fun e => own e ∨ ∃ c, hidden c ∧ tells e c) r (faults fault?' H) := by
  obtain ⟨hbelow, hhidden⟩ := faults_layered hanswer hlayered
  rw [hbelow]
  cases r with
  | ok a =>
    rw [show faults fault? h = [] from hr]
    rfl
  | error e =>
    rcases hr with ⟨c, hone, he⟩ | ⟨hnone, he⟩
    · rw [hone] at hhidden ⊢
      cases hc : below c with
      | none =>
        exact .inr ⟨by simp [hc], .inr ⟨c, hhidden c (List.mem_singleton.mpr rfl) hc, he⟩⟩
      | some c' => exact .inl ⟨c', by simp [hc], htells e c c' hc he⟩
    · rw [hnone]
      exact .inr ⟨rfl, .inl he⟩

end Layers

end Dialogue
