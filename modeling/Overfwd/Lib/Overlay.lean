import Overfwd.Lib.History
import Overfwd.Lib.Interleaving

/-! The same programs watched more closely: a system with more in its state and in its ghost
records. What is invariant of the plain system may be used for the detailed one. -/
namespace Dialogue

variable {Q G G' : Type} {A : Q → Type} {ε α : Type}

/-- Both contracts at once. -/
def Contract.both (C D : Contract Q A G) : Contract Q A G where
  allowed g q := C.allowed g q ∧ D.allowed g q
  expects g q x := C.expects g q x ∧ D.expects g q x

/-- A contract of a part of the ghost state. -/
def Contract.along (ρ : G' → G) (C : Contract Q A G) : Contract Q A G' where
  allowed g q := C.allowed (ρ g) q
  expects g q x := C.expects (ρ g) q x

theorem keeps_both (next : G → (q : Q) → A q → G) (C D : Contract Q A G) {p : Prog Q A α}
    {post post' : α → G → Prop} {g : G} (hC : Keeps next C p post g)
    (hD : Keeps next D p post' g) :
    Keeps next (C.both D) p (fun a g => post a g ∧ post' a g) g := by
  induction p generalizing g with
  | ret a =>
    exact (keeps_ret _ _ _ _ _).mpr ⟨(keeps_ret _ _ _ _ _).mp hC, (keeps_ret _ _ _ _ _).mp hD⟩
  | ask q k ih =>
    obtain ⟨hallowed, hrest⟩ := (keeps_ask _ _ _ _ _ _).mp hC
    obtain ⟨hallowed', hrest'⟩ := (keeps_ask _ _ _ _ _ _).mp hD
    refine (keeps_ask _ _ _ _ _ _).mpr ⟨⟨hallowed, hallowed'⟩, fun x hx => ?_⟩
    exact ih x (hrest x hx.1) (hrest' x hx.2)

theorem keeps_along (next : G → (q : Q) → A q → G) (next' : G' → (q : Q) → A q → G')
    (ρ : G' → G) (hnext : ∀ g q x, ρ (next' g q x) = next (ρ g) q x) (C : Contract Q A G)
    {p : Prog Q A α} {post : α → G → Prop} {g : G'} (h : Keeps next C p post (ρ g)) :
    Keeps next' (C.along ρ) p (fun a g => post a (ρ g)) g := by
  induction p generalizing g with
  | ret a => exact (keeps_ret _ _ _ _ _).mpr ((keeps_ret _ _ _ _ _).mp h)
  | ask q k ih =>
    obtain ⟨hallowed, hrest⟩ := (keeps_ask _ _ _ _ _ _).mp h
    refine (keeps_ask _ _ _ _ _ _).mpr ⟨hallowed, fun x hx => ?_⟩
    apply ih x
    rw [hnext]
    exact hrest x hx

/-- A program that keeps a contract has also played its own part of the history. -/
theorem keeps_recorded (C : Contract Q A (List (Exchange Q A))) {p : Prog Q A α}
    {post : α → List (Exchange Q A) → Prop} {h : List (Exchange Q A)}
    (hkeeps : Keeps record C p post h) :
    Keeps record C p (fun a h' => post a h' ∧ ∃ h₁, h' = h ++ h₁ ∧ Plays p h₁ a) h := by
  induction p generalizing h with
  | ret a =>
    refine (keeps_ret _ _ _ _ _).mpr ⟨(keeps_ret _ _ _ _ _).mp hkeeps, [], ?_, .ret a⟩
    exact (List.append_nil h).symm
  | ask q k ih =>
    obtain ⟨hallowed, hrest⟩ := (keeps_ask _ _ _ _ _ _).mp hkeeps
    refine (keeps_ask _ _ _ _ _ _).mpr ⟨hallowed, fun x hx => ?_⟩
    apply keeps_mono _ _ (ih x (hrest x hx))
    rintro a h' ⟨hpost, h₁, rfl, hplays⟩
    refine ⟨hpost, ⟨q, x⟩ :: h₁, ?_, .ask q k x h₁ a hplays⟩
    unfold record
    rw [List.append_assoc, List.singleton_append]

end Dialogue

namespace Interleaving

open Dialogue

variable {L G G' Q S S' α : Type} {A : Q → Type}

/-- `sys'` does what `sys` does, as seen through `π` and `ρ`. -/
structure Details (sys' : System L G' Q A α S') (sys : System L G Q A α S) (π : S' → S)
    (ρ : G' → G) : Prop where
  body : ∀ l, sys'.body l = sys.body l
  act : ∀ s q x s', sys'.act s q x s' → sys.act (π s) q x (π s')
  drift : ∀ s s', sys'.drift s s' → sys.drift (π s) (π s')
  start : ∀ l, ρ (sys'.start l) = sys.start l
  next : ∀ g q x, ρ (sys'.next g q x) = sys.next (ρ g) q x

/-- The records of the plain system. -/
def plainRecords (ρ : G' → G) (rs : List (L × G')) : List (L × G) := rs.map fun r => (r.1, ρ r.2)

/-- What must be shown for an invariant of the details, given one of the plain system. -/
structure Overlay (sys' : System L G' Q A α S') (calls : Set L) (s₀ : S') (π : S' → S)
    (ρ : G' → G) (C : L → Contract Q A G) (I : S → List (L × G) → Prop)
    (D : L → Contract Q A G') (post : L → α → G' → Prop) (J : S' → List (L × G') → Prop) :
    Prop where
  init : J s₀ []
  spawn : ∀ s rs l, l ∈ calls → J s rs → J s (rs ++ [(l, sys'.start l)])
  body : ∀ l, l ∈ calls → Keeps sys'.next (D l) (sys'.body l) (post l) (sys'.start l)
  expects : ∀ s before after l g q x s', I (π s) (plainRecords ρ (before ++ (l, g) :: after)) →
    J s (before ++ (l, g) :: after) → (C l).allowed (ρ g) q → (D l).allowed g q →
    sys'.act s q x s' → (D l).expects g q x
  act : ∀ s before after l g q x s', I (π s) (plainRecords ρ (before ++ (l, g) :: after)) →
    J s (before ++ (l, g) :: after) → (C l).allowed (ρ g) q → (D l).allowed g q →
    sys'.act s q x s' → J s' (before ++ (l, sys'.next g q x) :: after)
  drift : ∀ s rs s', J s rs → sys'.drift s s' → J s' rs

/-- Both invariants hold of the detailed system. -/
theorem overlay_invariant {sys' : System L G' Q A α S'} {sys : System L G Q A α S} {π : S' → S}
    {ρ : G' → G} (hdetails : Details sys' sys π ρ) (calls : Set L) (s₀ : S')
    (C : L → Contract Q A G) (plainPost : L → α → G → Prop) (I : S → List (L × G) → Prop)
    (hplain : Invariant sys calls (π s₀) C plainPost I) (D : L → Contract Q A G')
    (post : L → α → G' → Prop) (J : S' → List (L × G') → Prop)
    (hover : Overlay sys' calls s₀ π ρ C I D post J) :
    Invariant sys' calls s₀ (fun l => ((C l).along ρ).both (D l))
      (fun l a g => plainPost l a (ρ g) ∧ post l a g)
      (fun s rs => I (π s) (plainRecords ρ rs) ∧ J s rs) where
  init := ⟨hplain.init, hover.init⟩
  spawn := by
    intro s rs l hl hIJ
    refine ⟨?_, hover.spawn s rs l hl hIJ.2⟩
    have hspawn := hplain.spawn (π s) _ l hl hIJ.1
    rw [← hdetails.start l] at hspawn
    simpa [plainRecords] using hspawn
  body := by
    intro l hl
    apply keeps_both
    · apply keeps_along _ _ ρ hdetails.next
      rw [hdetails.start, hdetails.body]
      exact hplain.body l hl
    · exact hover.body l hl
  expects := by
    intro s before after l g q x s' hIJ hallowed hact
    obtain ⟨hI, hJ⟩ := hIJ
    -- The step of the details is a step of the plain system, seen through `π` and `ρ`.
    refine ⟨?_, hover.expects s before after l g q x s' hI hJ hallowed.1 hallowed.2 hact⟩
    have hI' : I (π s) (plainRecords ρ before ++ (l, ρ g) :: plainRecords ρ after) := by
      simpa [plainRecords] using hI
    exact hplain.expects (π s) _ _ l (ρ g) q x (π s') hI' hallowed.1 (hdetails.act s q x s' hact)
  act := by
    intro s before after l g q x s' hIJ hallowed hact
    obtain ⟨hI, hJ⟩ := hIJ
    refine ⟨?_, hover.act s before after l g q x s' hI hJ hallowed.1 hallowed.2 hact⟩
    have hI' : I (π s) (plainRecords ρ before ++ (l, ρ g) :: plainRecords ρ after) := by
      simpa [plainRecords] using hI
    have hstep := hplain.act (π s) _ _ l (ρ g) q x (π s') hI' hallowed.1
      (hdetails.act s q x s' hact)
    rw [← hdetails.next] at hstep
    simpa [plainRecords] using hstep
  drift := by
    intro s rs s' hIJ hdrift
    exact ⟨hplain.drift (π s) _ (π s') hIJ.1 (hdetails.drift s s' hdrift),
      hover.drift s rs s' hIJ.2 hdrift⟩

end Interleaving
