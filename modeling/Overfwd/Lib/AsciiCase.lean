import Overfwd.Lib.Text

namespace Text

section Characters

theorem toNat_toLower (c : Char) :
    c.toLower.toNat = if 65 ≤ c.toNat ∧ c.toNat ≤ 90 then c.toNat + 32 else c.toNat := by
  have hletter : (c.val ≥ 'A'.val ∧ c.val ≤ 'Z'.val) ↔ 65 ≤ c.toNat ∧ c.toNat ≤ 90 := Iff.rfl
  -- The sum of the code points stays far below the size of a machine word.
  unfold Char.toLower
  by_cases h : 65 ≤ c.toNat ∧ c.toNat ≤ 90
  · rw [dif_pos (hletter.mpr h), if_pos h]
    change (c.val.toNat + 32)%2^32 = c.val.toNat + 32
    have hle : c.val.toNat ≤ 90 := h.2
    omega
  · rw [dif_neg (mt hletter.mp h), if_neg h]

theorem char_eq_iff (c d : Char) : c = d ↔ c.toNat = d.toNat := by
  rw [← Char.val_inj, ← UInt32.toNat_inj]
  rfl

/-- A character that is no letter is what itself alone is lowered to. -/
theorem toLower_eq_iff (c d : Char) (hupper : ¬(65 ≤ d.toNat ∧ d.toNat ≤ 90))
    (hlower : ¬(97 ≤ d.toNat ∧ d.toNat ≤ 122)) : c.toLower = d ↔ c = d := by
  rw [char_eq_iff, char_eq_iff, toNat_toLower]
  split_ifs with hc
  · omega
  · omega

theorem toLower_toLower (c : Char) : c.toLower.toLower = c.toLower := by
  rw [char_eq_iff, toNat_toLower c.toLower, toNat_toLower c]
  split_ifs with hc
  · omega
  · omega
  · omega

theorem isControl_toLower (c : Char) : isControl c.toLower = isControl c := by
  unfold isControl
  rw [toNat_toLower, Bool.eq_iff_iff]
  simp only [Bool.or_eq_true, Bool.and_eq_true, decide_eq_true_eq]
  split_ifs with hc
  · omega
  · omega

theorem isWhitespace_toLower (c : Char) : isWhitespace c.toLower = isWhitespace c := by
  unfold isWhitespace
  rw [toNat_toLower, Bool.eq_iff_iff]
  simp only [Bool.or_eq_true, Bool.and_eq_true, decide_eq_true_eq, beq_iff_eq]
  split_ifs with hc
  · omega
  · omega

end Characters

section Strings

theorem toList_toAsciiLowercase (s : String) :
    (toAsciiLowercase s).toList = s.toList.map Char.toLower := String.toList_ofList

theorem toAsciiLowercase_idempotent (s : String) :
    toAsciiLowercase (toAsciiLowercase s) = toAsciiLowercase s := by
  have hlower : Char.toLower ∘ Char.toLower = Char.toLower := funext toLower_toLower
  unfold toAsciiLowercase
  rw [String.toList_ofList, List.map_map, hlower]

theorem any_isControl_toAsciiLowercase (s : String) :
    (toAsciiLowercase s).toList.any isControl = s.toList.any isControl := by
  have hcontrol : isControl ∘ Char.toLower = isControl := funext isControl_toLower
  rw [toList_toAsciiLowercase, List.any_map, hcontrol]

theorem trim_toAsciiLowercase (s : String) :
    trim (toAsciiLowercase s) = toAsciiLowercase (trim s) := by
  have hspace : isWhitespace ∘ Char.toLower = isWhitespace := funext isWhitespace_toLower
  unfold trim trimList toAsciiLowercase List.rdropWhile
  rw [String.toList_ofList, String.toList_ofList, List.dropWhile_map, ← List.map_reverse,
    List.dropWhile_map, ← List.map_reverse, hspace]

/-- The part in front of a delimiter, of the lowered string and of the string. -/
theorem split_headD_toAsciiLowercase (c : Char) (hc : ∀ d : Char, d.toLower = c ↔ d = c)
    (s : String) :
    (split c (toAsciiLowercase s)).headD "" = toAsciiLowercase ((split c s).headD "") := by
  have hother : (fun d => d != c) ∘ Char.toLower = fun d => d != c := by
    funext d
    rw [Bool.eq_iff_iff, Function.comp_apply, bne_iff_ne, bne_iff_ne]
    exact not_congr (hc d)
  rw [split_headD, split_headD, toList_toAsciiLowercase, List.takeWhile_map, hother]
  unfold toAsciiLowercase
  rw [String.toList_ofList]

theorem splitOnce_toAsciiLowercase (c : Char) (hc : ∀ d : Char, d.toLower = c ↔ d = c)
    (s : String) :
    splitOnce c (toAsciiLowercase s) =
      (splitOnce c s).map fun p => (toAsciiLowercase p.1, toAsciiLowercase p.2) := by
  have hlist (cs : List Char) : splitOnceList c (cs.map Char.toLower) =
      (splitOnceList c cs).map fun p => (p.1.map Char.toLower, p.2.map Char.toLower) := by
    induction cs with
    | nil => rfl
    | cons d ds ih =>
      rw [List.map_cons, splitOnceList, splitOnceList, ih]
      by_cases hd : d = c
      · rw [if_pos ((hc d).mpr hd), if_pos hd]
        rfl
      · rw [if_neg (mt (hc d).mp hd), if_neg hd, Option.map_map, Option.map_map]
        rfl
  unfold splitOnce
  rw [toList_toAsciiLowercase, hlist, Option.map_map, Option.map_map]
  congr 1
  funext p
  simp [toAsciiLowercase]

end Strings

end Text
