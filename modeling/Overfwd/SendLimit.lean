import Mathlib.Algebra.BigOperators.Ring.List
import Mathlib.Algebra.Order.Floor.Div
import Overfwd.AttachmentPolicy

/-! `routes.rs`: the limit on the body of a send. It is computed from the attachment cap as if
there were one attachment, and leaves room for the padding of all of them. -/
namespace Overfwd

open Text

def DEFAULT_MAX_ATTACHMENT_BYTES : ℕ := 10 * 1024 * 1024

def DEFAULT_SEND_BODY_LIMIT : ℕ := 16 * 1024 * 1024

/-- `usize::saturating_mul`. -/
def saturatingMul (a b : ℕ) : ℕ := min (a * b) USIZE_MAX

/-- `usize::div_ceil`. -/
def divCeil (n d : ℕ) : ℕ := n ⌈/⌉ d

/-- `base64_len`. -/
def base64Len (n : ℕ) : ℕ := saturatingMul (divCeil n 3) 4

def SEND_BODY_OVERHEAD : ℕ := DEFAULT_SEND_BODY_LIMIT - base64Len DEFAULT_MAX_ATTACHMENT_BYTES

/-- `send_body_limit`. -/
def sendBodyLimit (maxAttachmentBytes : ℕ) : ℕ :=
  saturatingAdd (base64Len maxAttachmentBytes) SEND_BODY_OVERHEAD

/-- The length of padded base64, on numbers without end. -/
def paddedLen (n : ℕ) : ℕ := 4 * divCeil n 3

/-- The limit for this cap is what it would be on numbers without end. -/
def Unsaturated (cap : ℕ) : Prop := paddedLen cap + SEND_BODY_OVERHEAD ≤ USIZE_MAX

/-- What is left for the JSON around the attachments. -/
def jsonRoom : ℕ := SEND_BODY_OVERHEAD - 4 * (MAX_ATTACHMENTS - 1)

section Rounding

variable {d : ℕ} (hd : 0 < d)

include hd

theorem mul_divCeil_lt (n : ℕ) : d * divCeil n d < n + d := by
  have hmul := Nat.mul_div_le (n + d - 1) d
  unfold divCeil
  rw [Nat.ceilDiv_eq_add_pred_div]
  omega

theorem le_mul_divCeil (n : ℕ) : n ≤ d * divCeil n d := le_smul_ceilDiv hd

/-- Two parts rounded up on their own are at most one unit over their sum rounded up. -/
theorem divCeil_add_le (m n : ℕ) : divCeil m d + divCeil n d ≤ divCeil (m + n) d + 1 := by
  have hm := mul_divCeil_lt hd m
  have hn := mul_divCeil_lt hd n
  have hsum := le_mul_divCeil hd (m + n)
  have hlt : d * (divCeil m d + divCeil n d) < d * (divCeil (m + n) d + 2) := by
    rw [Nat.mul_add, Nat.mul_add]
    omega
  have hlt' := Nat.lt_of_mul_lt_mul_left hlt
  omega

theorem divCeil_mono (m n : ℕ) (h : m ≤ n) : divCeil m d ≤ divCeil n d :=
  (gc_smul_ceilDiv hd).monotone_l h

/-- So each part but the first costs at most one unit. -/
theorem sum_divCeil_le (parts : List ℕ) :
    (parts.map fun n => divCeil n d).sum ≤ divCeil parts.sum d + (parts.length - 1) := by
  -- On the parts: the last one is the sum itself, each one before it costs its own rounding.
  induction parts with
  | nil => exact Nat.zero_le _
  | cons n rest ih =>
    cases rest with
    | nil =>
      rw [List.map_singleton, List.sum_singleton, List.sum_singleton]
      exact Nat.le_add_right _ _
    | cons m rest =>
      have hadd := divCeil_add_le hd n (m :: rest).sum
      rw [List.map_cons, List.sum_cons, List.sum_cons (l := m :: rest), List.length_cons]
      simp only [List.length_cons] at ih ⊢
      omega

end Rounding

/-- The constants are those of the source: nothing in them saturates or goes below zero. -/
theorem overhead_eq : SEND_BODY_OVERHEAD = 2796200 ∧ jsonRoom = 2796124 := by decide

section Limit

/-- The saturating steps are one saturation at the end. -/
theorem sendBodyLimit_eq (cap : ℕ) :
    sendBodyLimit cap = min (paddedLen cap + SEND_BODY_OVERHEAD) USIZE_MAX := by
  unfold sendBodyLimit saturatingAdd base64Len saturatingMul paddedLen
  rw [Nat.mul_comm]
  omega

theorem sendBodyLimit_monotone : Monotone sendBodyLimit := by
  intro cap cap' h
  have hpadded : paddedLen cap ≤ paddedLen cap' :=
    Nat.mul_le_mul_left 4 (divCeil_mono (by decide) cap cap' h)
  rw [sendBodyLimit_eq, sendBodyLimit_eq]
  omega

/-- Padding each attachment on its own costs one quad for every attachment but the first. -/
theorem padded_sum_le (sizes : List ℕ) (cap : ℕ) (hcount : sizes.length ≤ MAX_ATTACHMENTS)
    (hsum : sizes.sum ≤ cap) :
    (sizes.map paddedLen).sum ≤ paddedLen cap + 4 * (MAX_ATTACHMENTS - 1) := by
  have hrounded := sum_divCeil_le (by decide : 0 < 3) sizes
  have hcap := divCeil_mono (by decide : 0 < 3) sizes.sum cap hsum
  have hmul : (sizes.map paddedLen).sum = 4 * (sizes.map fun n => divCeil n 3).sum :=
    List.sum_map_mul_left sizes _ 4
  have hquads : 4 * (sizes.map fun n => divCeil n 3).sum ≤
      4 * (divCeil cap 3 + (MAX_ATTACHMENTS - 1)) := by
    apply Nat.mul_le_mul_left
    omega
  rw [hmul]
  calc 4 * (sizes.map fun n => divCeil n 3).sum
      ≤ 4 * (divCeil cap 3 + (MAX_ATTACHMENTS - 1)) := hquads
    _ = paddedLen cap + 4 * (MAX_ATTACHMENTS - 1) := Nat.mul_add _ _ _

theorem padded_sum_within (cap : ℕ) (hcap : Unsaturated cap) (sizes : List ℕ)
    (hcount : sizes.length ≤ MAX_ATTACHMENTS) (hsum : sizes.sum ≤ cap) (json : ℕ)
    (hjson : json ≤ jsonRoom) : (sizes.map paddedLen).sum + json ≤ sendBodyLimit cap := by
  have hpadded := padded_sum_le sizes cap hcount hsum
  have hroom : 4 * (MAX_ATTACHMENTS - 1) + jsonRoom = SEND_BODY_OVERHEAD := by decide
  rw [sendBodyLimit_eq, Nat.min_eq_left hcap]
  omega

/-- A payload without whitespace is as long as the padded base64 of its bytes. -/
theorem length_of_unwrapped (encoded : String) (bs : List UInt8)
    (hplain : (bytes encoded).any isAsciiWhitespace = false)
    (h : Base64.encode bs = compact encoded) : (bytes encoded).length = paddedLen bs.length := by
  rw [← compact_eq_bytes encoded hplain, ← h, Base64.encode_length]
  rfl

/-- The attachments of an accepted request are within the limit as they are sent. -/
theorem unwrapped_within (cap : ℕ) (hcap : Unsaturated cap) (attachments : List Attachment)
    (decoded : List OutgoingAttachment)
    (haccepted : decodeAttachments attachments (.withMaxTotalBytes cap) = .ok decoded)
    (hplain : ∀ a ∈ attachments, (bytes a.contentBase64).any isAsciiWhitespace = false)
    (json : ℕ) (hjson : json ≤ jsonRoom) :
    (attachments.map fun a => (bytes a.contentBase64).length).sum + json ≤ sendBodyLimit cap := by
  obtain ⟨hcount, hbecomes, htotal⟩ := (decodeAttachments_eq_ok_iff _ _ _).mp haccepted
  have hlengths : (attachments.map fun a => (bytes a.contentBase64).length) =
      (decoded.map fun o => o.bytes.length).map paddedLen := by
    clear hcount htotal haccepted
    induction hbecomes with
    | nil => rfl
    | @cons a o _ _ hao _ ih =>
      rw [List.map_cons, List.map_cons, List.map_cons, ih fun b hb => hplain b (by simp [hb]),
        length_of_unwrapped a.contentBase64 o.bytes (hplain a (by simp)) hao.bytes]
  -- A cap whose limit does not saturate is itself below the largest number.
  have hbelow : cap < USIZE_MAX := by
    have hle := le_mul_divCeil (by decide : 0 < 3) cap
    have hoverhead := overhead_eq.1
    unfold Unsaturated paddedLen at hcap
    omega
  have hsum : (decoded.map fun o => o.bytes.length).sum ≤ cap := by
    change min _ USIZE_MAX ≤ cap at htotal
    omega
  rw [hlengths]
  refine padded_sum_within cap hcap _ ?_ hsum json hjson
  rw [List.length_map, ← hbecomes.length_eq]
  exact hcount

end Limit

/-- No request within the attachment cap is over the limit on its body, though every
attachment is padded on its own: not by the sizes, and not by the payloads of any list of
attachments that is accepted. A higher cap never has a lower limit, and the limit is the
exact one or the largest number there is. -/
theorem send_limit_admits :
    (∀ cap, Unsaturated cap → ∀ sizes : List ℕ, sizes.length ≤ MAX_ATTACHMENTS →
      sizes.sum ≤ cap → ∀ json ≤ SEND_BODY_OVERHEAD - 4 * (MAX_ATTACHMENTS - 1),
        (sizes.map paddedLen).sum + json ≤ sendBodyLimit cap) ∧
      (∀ cap, Unsaturated cap → ∀ attachments decoded,
        decodeAttachments attachments (.withMaxTotalBytes cap) = .ok decoded →
        (∀ a ∈ attachments, (bytes a.contentBase64).any isAsciiWhitespace = false) →
        ∀ json ≤ SEND_BODY_OVERHEAD - 4 * (MAX_ATTACHMENTS - 1),
          (attachments.map fun a => (bytes a.contentBase64).length).sum + json ≤
            sendBodyLimit cap) ∧
      Monotone sendBodyLimit ∧
      ∀ cap, sendBodyLimit cap = min (paddedLen cap + SEND_BODY_OVERHEAD) USIZE_MAX :=
  ⟨padded_sum_within, unwrapped_within, sendBodyLimit_monotone, sendBodyLimit_eq⟩

example : sendBodyLimit DEFAULT_MAX_ATTACHMENT_BYTES = DEFAULT_SEND_BODY_LIMIT := by decide

end Overfwd
