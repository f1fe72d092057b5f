import Overfwd.Lib.AsciiCase

namespace Mime

open Text

/-- The delimiters of a structured header field. -/
def tspecials : List Char := "()<>@,;:\\\"/[]?=".toList

/-- Printable ASCII, without the space and the delimiters. -/
def IsTokenChar (c : Char) : Prop := 0x20 < c.toNat ∧ c.toNat < 0x7F ∧ c ∉ tspecials

structure IsToken (s : String) : Prop where
  ne_nil : s.toList ≠ []
  chars : ∀ c ∈ s.toList, IsTokenChar c

/-- No delimiter is a letter. -/
theorem toLower_mem_tspecials (c : Char) : c.toLower ∈ tspecials ↔ c ∈ tspecials := by
  have hletter : ∀ d ∈ tspecials,
      ¬(65 ≤ d.toNat ∧ d.toNat ≤ 90) ∧ ¬(97 ≤ d.toNat ∧ d.toNat ≤ 122) :=
    forall_mem_toList _ (by decide)
  constructor
  · intro h
    obtain ⟨hupper, hlower⟩ := hletter _ h
    have heq := (toLower_eq_iff c c.toLower hupper hlower).mp rfl
    rw [← heq] at h
    exact h
  · intro h
    obtain ⟨hupper, hlower⟩ := hletter _ h
    rw [(toLower_eq_iff c c hupper hlower).mpr rfl]
    exact h

theorem isTokenChar_toLower (c : Char) : IsTokenChar c.toLower ↔ IsTokenChar c := by
  unfold IsTokenChar
  rw [toLower_mem_tspecials, toNat_toLower]
  split_ifs with hc
  · refine and_congr ?_ (and_congr ?_ Iff.rfl)
    · omega
    · omega
  · rfl

theorem isToken_toAsciiLowercase (s : String) : IsToken (toAsciiLowercase s) ↔ IsToken s := by
  have hchars : (∀ c ∈ (toAsciiLowercase s).toList, IsTokenChar c) ↔
      ∀ c ∈ s.toList, IsTokenChar c := by
    rw [toList_toAsciiLowercase, List.forall_mem_map]
    exact forall₂_congr fun c _ => isTokenChar_toLower c
  constructor
  · intro h
    exact ⟨fun hnil => h.ne_nil (by rw [toList_toAsciiLowercase, hnil]; rfl), hchars.mp h.chars⟩
  · intro h
    refine ⟨fun hnil => h.ne_nil ?_, hchars.mpr h.chars⟩
    rw [toList_toAsciiLowercase] at hnil
    exact List.map_eq_nil_iff.mp hnil

section Characters

variable {c : Char} (h : IsTokenChar c)

include h

theorem IsTokenChar.isControl_eq_false : isControl c = false := by
  obtain ⟨hlow, hhigh, -⟩ := h
  unfold isControl
  rw [Bool.eq_false_iff, Ne, Bool.or_eq_true, Bool.and_eq_true]
  simp only [decide_eq_true_eq]
  omega

theorem IsTokenChar.isWhitespace_eq_false : isWhitespace c = false := by
  obtain ⟨hlow, hhigh, -⟩ := h
  unfold isWhitespace
  rw [Bool.eq_false_iff]
  simp only [Ne, Bool.or_eq_true, Bool.and_eq_true, decide_eq_true_eq, beq_iff_eq]
  omega

theorem IsTokenChar.ne_of_mem (d : Char) (hd : d ∈ tspecials) : c ≠ d := by
  intro heq
  exact h.2.2 (heq ▸ hd)

end Characters

end Mime
