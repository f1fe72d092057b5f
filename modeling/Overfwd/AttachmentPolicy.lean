import Mathlib.Algebra.BigOperators.Group.List.Basic
import Mathlib.Algebra.Order.BigOperators.Group.List
import Mathlib.Algebra.Order.Group.Nat
import Overfwd.Attachments

/-! Which attachments are accepted. The sizes that are compared with the limit are read off
the encoded forms and are those of the decoded files whenever these exist. -/
namespace Overfwd

open Text Outcome

attribute [local irreducible] sanitizeFilename contentTypeEssence

/-- What an attachment is decoded to. -/
structure Attachment.Becomes (a : Attachment) (o : OutgoingAttachment) : Prop where
  filename : o.filename = sanitizeFilename a.filename
  contentType : contentTypeEssence a.contentType = some o.contentType
  bytes : Base64.encode o.bytes = compact a.contentBase64

/-- Payloads of a `Vec` lie in memory, so a `usize` counts their bytes. -/
def Addressable (attachments : List Attachment) : Prop :=
  (attachments.map fun a => (Text.bytes a.contentBase64).length).sum ≤ USIZE_MAX

/-- Payloads that differ in no more than the characters themselves. -/
structure Attachment.EncodedAlike (a b : Attachment) : Prop where
  contentType : a.contentType = b.contentType
  length : (compact a.contentBase64).length = (compact b.contentBase64).length
  padding : Base64.trailingPads (compact a.contentBase64) =
    Base64.trailingPads (compact b.contentBase64)

/-- The total computed from the encoded lengths. -/
def encodedTotal (attachments : List Attachment) : ℕ :=
  (attachments.map fun a => (decodedLen a.contentBase64).getD 0).sum

def LimitsBroken (attachments : List Attachment) (limits : AttachmentLimits) : Prop :=
  limits.maxCount < attachments.length ∨ limits.maxTotalBytes < encodedTotal attachments

section Lengths

/-- One pass counts the symbols and the padding at the end. -/
theorem tally_eq (cs : List UInt8) :
    cs.foldl tally (0, 0) = (cs.length, Base64.trailingPads cs) := by
  induction cs using List.reverseRecOn with
  | nil => rfl
  | append_singleton cs c ih =>
    rw [List.foldl_append, ih, List.length_append]
    by_cases hc : c = Base64.pad
    · rw [hc, Base64.trailingPads_concat_pad]
      rfl
    · rw [Base64.trailingPads_concat_ne cs c hc]
      simp [tally, show c ≠ 61 from hc]

theorem decodedLen_eq (encoded : String) :
    decodedLen encoded =
      if (compact encoded).length % 4 ≠ 0 ∨ 2 < Base64.trailingPads (compact encoded) then none
      else some ((compact encoded).length / 4 * 3 - Base64.trailingPads (compact encoded)) := by
  unfold decodedLen
  rw [tally_eq]

/-- The formula is exact on every payload that is base64. -/
theorem decodedLen_of_encode (encoded : String) (bytes : List UInt8)
    (h : Base64.encode bytes = compact encoded) : decodedLen encoded = some bytes.length := by
  obtain ⟨hquads, hpads, hlength⟩ := Base64.length_of_encode bytes _ h
  rw [decodedLen_eq, if_neg (by omega), hlength]

theorem decodedLen_le (encoded : String) (size : ℕ) (h : decodedLen encoded = some size) :
    size ≤ (Text.bytes encoded).length := by
  rw [decodedLen_eq] at h
  split_ifs at h
  cases h
  have hfilter : (compact encoded).length ≤ (Text.bytes encoded).length := List.length_filter_le _ _
  omega

/-- Whitespace apart, the two ways of decoding read the same bytes. -/
theorem compact_eq_bytes (encoded : String)
    (h : (Text.bytes encoded).any isAsciiWhitespace = false) :
    compact encoded = Text.bytes encoded := by
  apply List.filter_eq_self.mpr
  intro b hb
  rw [List.any_eq_false] at h
  simpa using h b hb

/-- With and without whitespace the payload is decoded from its compact form. -/
theorem decodeBase64_eq (encoded : String) :
    decodeBase64 encoded = Base64.decode (compact encoded) := by
  unfold decodeBase64
  split_ifs with hspace
  · rfl
  · rw [compact_eq_bytes encoded (Bool.eq_false_iff.mpr hspace)]

theorem decodeBase64_eq_some_iff (encoded : String) (bytes : List UInt8) :
    decodeBase64 encoded = some bytes ↔ Base64.encode bytes = compact encoded := by
  rw [decodeBase64_eq, Base64.decode_eq_some_iff]

end Lengths

/-- Adding up without ever exceeding the largest `usize`. -/
theorem foldl_saturatingAdd (sizes : List ℕ) (total : ℕ) (h : total ≤ USIZE_MAX) :
    sizes.foldl saturatingAdd total = min (total + sizes.sum) USIZE_MAX := by
  induction sizes generalizing total with
  | nil =>
    rw [List.foldl_nil, List.sum_nil, add_zero]
    omega
  | cons size sizes ih =>
    have hle : saturatingAdd total size ≤ USIZE_MAX := Nat.min_le_right _ _
    rw [List.foldl_cons, ih _ hle, List.sum_cons]
    unfold saturatingAdd
    omega

/-- The first pass: a content type and a size for every attachment. -/
theorem measure_eq_ok_iff (attachments : List Attachment) (index total : ℕ)
    (contentTypes : List String) (sum : ℕ) :
    measureAttachments index total attachments = .ok (contentTypes, sum) ↔
      List.Forall₂ (fun a t => contentTypeEssence a.contentType = some t) attachments contentTypes ∧
        ∃ sizes, List.Forall₂ (fun a n => decodedLen a.contentBase64 = some n) attachments sizes ∧
          sum = sizes.foldl saturatingAdd total := by
  induction attachments generalizing index total contentTypes sum with
  | nil =>
    constructor
    · intro h
      cases h
      exact ⟨.nil, [], .nil, rfl⟩
    · rintro ⟨htypes, sizes, hsizes, rfl⟩
      cases htypes
      cases hsizes
      rfl
  | cons a rest ih =>
    unfold measureAttachments
    simp only [bind_eq_ok_iff, okOr_eq_ok_iff]
    constructor
    · rintro ⟨contentType, htype, size, hsize, ⟨types, sum'⟩, hrest, h⟩
      cases h
      obtain ⟨htypes, sizes, hsizes, rfl⟩ := (ih _ _ _ _).mp hrest
      exact ⟨.cons htype htypes, size :: sizes, .cons hsize hsizes, rfl⟩
    · rintro ⟨htypes, sizes, hsizes, rfl⟩
      cases htypes with
      | cons htype htypes =>
        cases hsizes with
        | cons hsize hsizes =>
          refine ⟨_, htype, _, hsize, (_, _), (ih _ _ _ _).mpr ⟨htypes, _, hsizes, rfl⟩, rfl⟩

theorem decodeAttachment_eq_ok_iff (a : Attachment) (contentType : String) (index : ℕ)
    (o : OutgoingAttachment) (htype : contentTypeEssence a.contentType = some contentType) :
    decodeAttachment ((a, contentType), index) = .ok o ↔ a.Becomes o := by
  unfold decodeAttachment
  dsimp only
  rw [bind_eq_ok_iff]
  constructor
  · rintro ⟨payload, hpayload, h⟩
    cases h
    rw [okOr_eq_ok_iff, decodeBase64_eq_some_iff] at hpayload
    exact ⟨rfl, htype, hpayload⟩
  · rintro ⟨hname, htype', hpayload⟩
    refine ⟨o.bytes, ?_, ?_⟩
    · rw [okOr_eq_ok_iff, decodeBase64_eq_some_iff]
      exact hpayload
    · rw [htype] at htype'
      cases htype'
      rw [← hname]

/-- The second pass: every payload decodes, in order. -/
theorem decodeAll_eq_ok_iff (attachments : List Attachment) (contentTypes : List String)
    (index : ℕ) (decoded : List OutgoingAttachment)
    (htypes : List.Forall₂ (fun a t => contentTypeEssence a.contentType = some t) attachments
      contentTypes) :
    ((attachments.zip contentTypes).zipIdx index).mapM decodeAttachment = .ok decoded ↔
      List.Forall₂ Attachment.Becomes attachments decoded := by
  -- On the attachments, with the number of the first one: it shows in the errors only.
  induction htypes generalizing index decoded with
  | nil =>
    constructor
    · intro h
      cases h
      exact .nil
    · intro h
      cases h
      rfl
  | cons htype htypes ih =>
    rw [List.zip_cons_cons, List.zipIdx_cons, List.mapM_cons, bind_eq_ok_iff]
    constructor
    · rintro ⟨o, ho, h⟩
      obtain ⟨os, hos, h⟩ := (bind_eq_ok_iff _ _ _).mp h
      cases h
      exact .cons ((decodeAttachment_eq_ok_iff _ _ _ _ htype).mp ho) ((ih _ _).mp hos)
    · intro h
      cases h with
      | cons hbecomes hrest =>
        refine ⟨_, (decodeAttachment_eq_ok_iff _ _ _ _ htype).mpr hbecomes, ?_⟩
        exact (bind_eq_ok_iff _ _ _).mpr ⟨_, (ih _ _).mpr hrest, rfl⟩

section Passes

variable {attachments : List Attachment} {decoded : List OutgoingAttachment}

theorem types_of_becomes (h : List.Forall₂ Attachment.Becomes attachments decoded) :
    List.Forall₂ (fun a t => contentTypeEssence a.contentType = some t) attachments
      (decoded.map OutgoingAttachment.contentType) := by
  rw [List.forall₂_map_right_iff]
  exact h.imp fun a o hbecomes => hbecomes.contentType

theorem sizes_of_becomes (h : List.Forall₂ Attachment.Becomes attachments decoded) :
    List.Forall₂ (fun a n => decodedLen a.contentBase64 = some n) attachments
      (decoded.map fun o => o.bytes.length) := by
  rw [List.forall₂_map_right_iff]
  exact h.imp fun a o hbecomes => decodedLen_of_encode a.contentBase64 o.bytes hbecomes.bytes

theorem exists_becomes (attachments : List Attachment) (payloads : List (List UInt8))
    (htypes : ∀ a ∈ attachments, (contentTypeEssence a.contentType).isSome = true)
    (hpayloads : List.Forall₂ (fun a payload => Base64.encode payload = compact a.contentBase64)
      attachments payloads) :
    ∃ decoded, List.Forall₂ Attachment.Becomes attachments decoded ∧
      decoded.map OutgoingAttachment.bytes = payloads := by
  induction hpayloads with
  | nil => exact ⟨[], .nil, rfl⟩
  | @cons a payload _ _ hpayload _ ih =>
    obtain ⟨contentType, htype⟩ := Option.isSome_iff_exists.mp (htypes a (by simp))
    obtain ⟨rest, hrest, hbytes⟩ := ih fun b hb => htypes b (by simp [hb])
    refine ⟨⟨sanitizeFilename a.filename, contentType, payload⟩ :: rest,
      .cons ⟨rfl, htype, hpayload⟩ hrest, ?_⟩
    rw [List.map_cons, hbytes]

/-- Whatever is in memory, the first pass never saturates. -/
theorem sizes_addressable (haddressable : Addressable attachments) (sizes : List ℕ)
    (hsizes : List.Forall₂ (fun a n => decodedLen a.contentBase64 = some n) attachments sizes) :
    sizes.sum ≤ USIZE_MAX := by
  have hle : sizes.sum ≤ (attachments.map fun a => (Text.bytes a.contentBase64).length).sum := by
    apply List.Forall₂.sum_le_sum
    rw [List.forall₂_map_right_iff]
    exact hsizes.flip.imp fun n a hsize => decodedLen_le a.contentBase64 n hsize
  exact hle.trans haddressable

theorem encodedTotal_eq (sizes : List ℕ)
    (hsizes : List.Forall₂ (fun a n => decodedLen a.contentBase64 = some n) attachments sizes) :
    encodedTotal attachments = sizes.sum := by
  unfold encodedTotal
  congr 1
  induction hsizes with
  | nil => rfl
  | cons hsize _ ih => rw [List.map_cons, hsize, ih, Option.getD_some]

end Passes

/-- The exact outcome, for lists that no machine could hold as well. -/
theorem decodeAttachments_eq_ok_iff (attachments : List Attachment) (limits : AttachmentLimits)
    (decoded : List OutgoingAttachment) :
    decodeAttachments attachments limits = .ok decoded ↔
      attachments.length ≤ limits.maxCount ∧ List.Forall₂ Attachment.Becomes attachments decoded ∧
        min (decoded.map fun o => o.bytes.length).sum USIZE_MAX ≤ limits.maxTotalBytes := by
  unfold decodeAttachments
  by_cases hcount : limits.maxCount < attachments.length
  · rw [if_pos hcount]
    exact ⟨fun h => (nomatch h), fun h => absurd h.1 (by omega)⟩
  · rw [if_neg hcount, bind_eq_ok_iff]
    constructor
    · rintro ⟨⟨types, total⟩, hmeasured, h⟩
      obtain ⟨htypes, sizes, hsizes, htotal⟩ := (measure_eq_ok_iff _ _ _ _ _).mp hmeasured
      dsimp only at h
      split_ifs at h with hlarge
      have hbecomes := (decodeAll_eq_ok_iff _ _ _ _ htypes).mp h
      have hsame : some sizes = some (decoded.map fun o => o.bytes.length) := by
        rw [← (mapM_eq_some_iff _ _ _).mpr hsizes]
        exact (mapM_eq_some_iff _ _ _).mpr (sizes_of_becomes hbecomes)
      rw [foldl_saturatingAdd sizes 0 (Nat.zero_le _), zero_add, Option.some.inj hsame] at htotal
      exact ⟨by omega, hbecomes, by omega⟩
    · rintro ⟨-, hbecomes, htotal⟩
      have hmeasured := (measure_eq_ok_iff attachments 0 0 _ _).mpr
        ⟨types_of_becomes hbecomes, _, sizes_of_becomes hbecomes, rfl⟩
      rw [foldl_saturatingAdd _ 0 (Nat.zero_le _), zero_add] at hmeasured
      refine ⟨_, hmeasured, ?_⟩
      dsimp only
      rw [if_neg (by omega), decodeAll_eq_ok_iff _ _ _ _ (types_of_becomes hbecomes)]
      exact hbecomes

/-- The first pass sees no more of a payload than its length and its padding. -/
theorem measure_congr (attachments others : List Attachment)
    (halike : List.Forall₂ Attachment.EncodedAlike attachments others) (index total : ℕ) :
    measureAttachments index total attachments = measureAttachments index total others := by
  induction halike generalizing index total with
  | nil => rfl
  | @cons a b _ _ hab _ ih =>
    have hsize : decodedLen a.contentBase64 = decodedLen b.contentBase64 := by
      rw [decodedLen_eq, hab.length, hab.padding, ← decodedLen_eq]
    unfold measureAttachments
    simp only [hab.contentType, hsize, ih]

theorem refused_alike (attachments others : List Attachment) (limits : AttachmentLimits)
    (haddressable : Addressable attachments) (hbroken : LimitsBroken attachments limits)
    (halike : List.Forall₂ Attachment.EncodedAlike attachments others) :
    ∃ e, decodeAttachments attachments limits = .error e ∧
      decodeAttachments others limits = .error e := by
  have hlength := halike.length_eq
  have hsame := measure_congr attachments others halike 0 0
  unfold decodeAttachments
  rw [← hsame, ← hlength]
  by_cases hcount : limits.maxCount < attachments.length
  · rw [if_pos hcount, if_pos hcount]
    exact ⟨_, rfl, rfl⟩
  · rw [if_neg hcount, if_neg hcount]
    rcases hmeasured : measureAttachments 0 0 attachments with e | ⟨types, total⟩
    · exact ⟨e, rfl, rfl⟩
    · -- Everything could be measured, so it is the total that is over the limit.
      obtain ⟨-, sizes, hsizes, htotal⟩ := (measure_eq_ok_iff _ _ _ _ _).mp hmeasured
      have hfits := sizes_addressable haddressable sizes hsizes
      have hover : limits.maxTotalBytes < encodedTotal attachments := hbroken.resolve_left hcount
      rw [foldl_saturatingAdd sizes 0 (Nat.zero_le _), zero_add, Nat.min_eq_left hfits] at htotal
      rw [encodedTotal_eq sizes hsizes, ← htotal] at hover
      refine ⟨attachmentsTooLarge total limits.maxTotalBytes, ?_, ?_⟩
      · exact if_pos hover
      · exact if_pos hover

/-- In memory the saturating total is the total. -/
theorem total_of_becomes (attachments : List Attachment) (decoded : List OutgoingAttachment)
    (haddressable : Addressable attachments)
    (hbecomes : List.Forall₂ Attachment.Becomes attachments decoded) :
    min (decoded.map fun o => o.bytes.length).sum USIZE_MAX =
      (decoded.map fun o => o.bytes.length).sum :=
  Nat.min_eq_left (sizes_addressable haddressable _ (sizes_of_becomes hbecomes))

theorem accepted_becomes (attachments : List Attachment) (limits : AttachmentLimits)
    (haddressable : Addressable attachments) (decoded : List OutgoingAttachment)
    (h : decodeAttachments attachments limits = .ok decoded) :
    attachments.length ≤ limits.maxCount ∧ List.Forall₂ Attachment.Becomes attachments decoded ∧
      (decoded.map fun o => o.bytes.length).sum ≤ limits.maxTotalBytes := by
  obtain ⟨hcount, hbecomes, htotal⟩ := (decodeAttachments_eq_ok_iff _ _ _).mp h
  rw [total_of_becomes attachments decoded haddressable hbecomes] at htotal
  exact ⟨hcount, hbecomes, htotal⟩

/-- Attachments are accepted exactly when there are not too many, all have a content type
and a payload that is base64, and the decoded sizes keep within the total. A limit that
is broken shows before anything is decoded. -/
theorem attachments_accepted_iff (attachments : List Attachment) (limits : AttachmentLimits)
    (haddressable : Addressable attachments) :
    ((∃ decoded, decodeAttachments attachments limits = .ok decoded) ↔
      attachments.length ≤ limits.maxCount ∧
        (∀ a ∈ attachments, (contentTypeEssence a.contentType).isSome = true) ∧
        ∃ payloads, List.Forall₂ (fun a payload => Base64.encode payload = compact a.contentBase64)
          attachments payloads ∧ (payloads.map List.length).sum ≤ limits.maxTotalBytes) ∧
      (∀ decoded, decodeAttachments attachments limits = .ok decoded →
        List.Forall₂ Attachment.Becomes attachments decoded ∧
          (decoded.map fun o => o.bytes.length).sum ≤ limits.maxTotalBytes) ∧
      (LimitsBroken attachments limits →
        ∀ others, List.Forall₂ Attachment.EncodedAlike attachments others →
          ∃ e, decodeAttachments attachments limits = .error e ∧
            decodeAttachments others limits = .error e) := by
  refine ⟨⟨?_, ?_⟩, ?_, ?_⟩
  · rintro ⟨decoded, h⟩
    obtain ⟨hcount, hbecomes, htotal⟩ :=
      accepted_becomes attachments limits haddressable decoded h
    refine ⟨hcount, fun a ha => ?_, decoded.map OutgoingAttachment.bytes, ?_, ?_⟩
    · obtain ⟨o, -, ho⟩ := forall₂_mem_left hbecomes a ha
      rw [ho.contentType]
      rfl
    · rw [List.forall₂_map_right_iff]
      exact hbecomes.imp fun a o ho => ho.bytes
    · rw [List.map_map]
      exact htotal
  · rintro ⟨hcount, htypes, payloads, hpayloads, htotal⟩
    obtain ⟨decoded, hbecomes, hbytes⟩ := exists_becomes attachments payloads htypes hpayloads
    refine ⟨decoded, (decodeAttachments_eq_ok_iff _ _ _).mpr ⟨hcount, hbecomes, ?_⟩⟩
    rw [total_of_becomes attachments decoded haddressable hbecomes]
    rw [← hbytes, List.map_map] at htotal
    exact htotal
  · intro decoded h
    exact (accepted_becomes attachments limits haddressable decoded h).2
  · intro hbroken others halike
    exact refused_alike attachments others limits haddressable hbroken halike

def helloAttachment : Attachment := ⟨"hello.txt", "text/plain", "aGVs\r\nbG8="⟩

theorem hello_accepted : ∃ decoded, decodeAttachments [helloAttachment] ⟨20, 5⟩ = .ok decoded := by
  have haddressable : Addressable [helloAttachment] := by
    unfold Addressable
    decide
  have haccepted := (attachments_accepted_iff [helloAttachment] ⟨20, 5⟩ haddressable).1
  refine haccepted.mpr ⟨by decide, by decide +kernel, [[104, 101, 108, 108, 111]], ?_, by decide⟩
  exact .cons (by decide) .nil

end Overfwd
