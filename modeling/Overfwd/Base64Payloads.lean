import Overfwd.AttachmentPolicy

namespace Overfwd

open Text

/-- Tab, line feed, form feed, carriage return and blank. -/
def isAsciiWhitespaceChar (c : Char) : Bool :=
  c.toNat == 9 || c.toNat == 10 || c.toNat == 12 || c.toNat == 13 || c.toNat == 32

/-- The second text is the first with whitespace put in, anywhere and as often as one likes. -/
inductive Spaced : List Char → List Char → Prop
  | nil : Spaced [] []
  | keep (c : Char) (cs ds : List Char) (h : Spaced cs ds) : Spaced (c :: cs) (c :: ds)
  | insert (w : Char) (cs ds : List Char) (hw : isAsciiWhitespaceChar w = true)
      (h : Spaced cs ds) : Spaced cs (w :: ds)

/-- The padded base64 of some bytes as text. -/
def base64Text (bs : List UInt8) : String :=
  String.ofList ((Base64.encode bs).map fun c => Char.ofNat c.toNat)

section Symbols

/-- A symbol is a visible ASCII character. -/
theorem symbol_visible (n : ℕ) (hn : n < 64) :
    32 < (Base64.symbol n).toNat ∧ (Base64.symbol n).toNat < 128 := by
  revert n
  decide

theorem encode_visible (bs : List UInt8) : ∀ c ∈ Base64.encode bs, 32 < c.toNat ∧ c.toNat < 128 := by
  intro c hc
  rcases Base64.mem_encode bs c hc with rfl | ⟨n, hn, rfl⟩
  · decide
  · exact symbol_visible n hn

theorem not_whitespace_of_visible (c : UInt8) (h : 32 < c.toNat) : isAsciiWhitespace c = false := by
  have hne (d : UInt8) (hd : d.toNat ≤ 32) : (c == d) = false := by
    apply beq_false_of_ne
    intro heq
    rw [heq] at h
    omega
  unfold isAsciiWhitespace
  rw [hne 9 (by decide), hne 10 (by decide), hne 12 (by decide), hne 13 (by decide),
    hne 32 (by decide)]
  rfl

end Symbols

section Compacting

theorem compact_ofList (cs : List Char) :
    compact (String.ofList cs) =
      (cs.flatMap String.utf8EncodeChar).filter fun b => !isAsciiWhitespace b := by
  unfold compact
  rw [bytes_ofList]

/-- Whitespace leaves no trace in the compact form. -/
theorem compact_spaced (cs ds : List Char) (h : Spaced cs ds) :
    compact (String.ofList ds) = compact (String.ofList cs) := by
  rw [compact_ofList, compact_ofList]
  -- On how the whitespace was put in: each such character is one byte, and filtered out.
  induction h with
  | nil => rfl
  | keep c cs ds _ ih =>
    rw [List.flatMap_cons, List.flatMap_cons, List.filter_append, List.filter_append, ih]
  | insert w cs ds hw _ ih =>
    have hascii : w.toNat < 128 := by
      simp only [isAsciiWhitespaceChar, Bool.or_eq_true, beq_iff_eq] at hw
      omega
    have hspace : isAsciiWhitespace (UInt8.ofNat w.toNat) = true := by
      simp only [isAsciiWhitespaceChar, Bool.or_eq_true, beq_iff_eq] at hw
      rcases hw with (((hw | hw) | hw) | hw) | hw
      all_goals
        rw [hw]
        decide
    have hnone : (String.utf8EncodeChar w).filter (fun b => !isAsciiWhitespace b) = [] := by
      rw [utf8EncodeChar_of_ascii w hascii, List.filter_singleton, hspace]
      rfl
    rw [List.flatMap_cons, List.filter_append, hnone, List.nil_append, ih]

theorem compact_base64Text (bs : List UInt8) : compact (base64Text bs) = Base64.encode bs := by
  have hvisible := encode_visible bs
  unfold base64Text
  rw [compact_ofList, flatMap_ascii _ fun c hc => (hvisible c hc).2]
  apply List.filter_eq_self.mpr
  intro c hc
  rw [not_whitespace_of_visible c (hvisible c hc).1]
  rfl

end Compacting

section Measuring

theorem decodedLen_of_decoded (encoded : String) (bs : List UInt8)
    (h : decodeBase64 encoded = some bs) : decodedLen encoded = some bs.length :=
  decodedLen_of_encode encoded bs ((decodeBase64_eq_some_iff encoded bs).mp h)

/-- A length that cannot be measured is of no base64. -/
theorem not_decoded_of_unmeasured (encoded : String) (h : decodedLen encoded = none) :
    decodeBase64 encoded = none := by
  cases hdecode : decodeBase64 encoded with
  | none => rfl
  | some bs =>
    rw [decodedLen_of_decoded encoded bs hdecode] at h
    cases h

/-- The padding that is subtracted is part of what was counted. -/
theorem padding_le (encoded : String) (chars padding : ℕ)
    (hcounts : (compact encoded).foldl tally (0, 0) = (chars, padding)) (hquads : chars % 4 = 0)
    (hpads : padding ≤ 2) : padding ≤ chars / 4 * 3 := by
  rw [tally_eq] at hcounts
  obtain ⟨rfl, rfl⟩ := Prod.mk.inj hcounts
  have hle : Base64.trailingPads (compact encoded) ≤ (compact encoded).length := by
    have hsuffix := List.rtakeWhile_suffix (fun b => b == Base64.pad) (compact encoded)
    exact hsuffix.length_le
  omega

end Measuring

/-- Base64 with whitespace put in decodes to its bytes, and its length is known beforehand;
what decodes has been measured rightly, and what cannot be measured does not decode. The
two paths of the decoder agree, and the measure subtracts no more than there is. -/
theorem payloads_measured (encoded : String) :
    (∀ bs spaced, Spaced (base64Text bs).toList spaced → encoded = String.ofList spaced →
      decodeBase64 encoded = some bs ∧ decodedLen encoded = some bs.length) ∧
      (∀ bs, decodeBase64 encoded = some bs → decodedLen encoded = some bs.length) ∧
      (decodedLen encoded = none → decodeBase64 encoded = none) ∧
      ((bytes encoded).any isAsciiWhitespace = false →
        Base64.decode (bytes encoded) = Base64.decode (compact encoded)) ∧
      ∀ chars padding, (compact encoded).foldl tally (0, 0) = (chars, padding) →
        chars % 4 = 0 → padding ≤ 2 → padding ≤ chars / 4 * 3 := by
  refine ⟨?_, decodedLen_of_decoded encoded, not_decoded_of_unmeasured encoded, ?_,
    padding_le encoded⟩
  · rintro bs spaced hspaced rfl
    have hcompact : Base64.encode bs = compact (String.ofList spaced) := by
      rw [compact_spaced _ _ hspaced, String.ofList_toList, compact_base64Text]
    exact ⟨(decodeBase64_eq_some_iff _ bs).mpr hcompact, decodedLen_of_encode _ bs hcompact⟩
  · intro hplain
    rw [compact_eq_bytes encoded hplain]

-- A wrapped payload with its padding on a line of its own.
example : decodeBase64 "aGVs\r\nbG8\r\n=\r\n" = some [104, 101, 108, 108, 111] := by decide +kernel

end Overfwd
