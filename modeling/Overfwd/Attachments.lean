import Overfwd.Error
import Overfwd.Lib.Base64
import Overfwd.Lib.Outcome
import Overfwd.Lib.Text
import Overfwd.Send

namespace Overfwd

open Text Outcome

def MAX_FILENAME_CHARS : ℕ := 255

def FALLBACK_FILENAME : String := "attachment"

def USIZE_MAX : ℕ := 2^64 - 1

/-- `usize::saturating_add`. -/
def saturatingAdd (a b : ℕ) : ℕ := min (a + b) USIZE_MAX

structure OutgoingAttachment where
  filename : String
  contentType : String
  bytes : List UInt8
  deriving DecidableEq

/-- `u8::is_ascii_whitespace`. -/
def isAsciiWhitespace (b : UInt8) : Bool := b == 9 || b == 10 || b == 12 || b == 13 || b == 32

/-- A payload without its ASCII whitespace. -/
def compact (encoded : String) : List UInt8 := (bytes encoded).filter fun b => !isAsciiWhitespace b

/-- The loop of `decoded_len`: a byte that is no padding resets the tally. -/
def tally (counts : ℕ × ℕ) (byte : UInt8) : ℕ × ℕ :=
  (counts.1 + 1, if byte = 61 then counts.2 + 1 else 0)

/-- `decoded_len`. -/
def decodedLen (encoded : String) : Option ℕ :=
  let (chars, padding) := (compact encoded).foldl tally (0, 0)
  if chars % 4 ≠ 0 ∨ 2 < padding then none else some (chars / 4 * 3 - padding)

/-- `decode_base64`. -/
def decodeBase64 (encoded : String) : Option (List UInt8) :=
  if (bytes encoded).any isAsciiWhitespace then Base64.decode (compact encoded)
  else Base64.decode (bytes encoded)

/-- A token of a MIME type: ASCII graphic characters other than the tspecials. -/
def isToken (part : String) : Bool :=
  !isEmpty part && part.toList.all fun c =>
    0x21 ≤ c.toNat && c.toNat ≤ 0x7E && !("()<>@,;:\\\"/[]?=".toList.contains c)

/-- `content_type_essence`. -/
def contentTypeEssence (raw : String) : Option String :=
  if raw.toList.any isControl then none
  else do
    let (kind, subtype) ← splitOnce '/' (trim ((split ';' raw).headD ""))
    if !isToken kind || !isToken subtype || eqIgnoreAsciiCase kind "multipart" then none
    else some (toAsciiLowercase kind ++ "/" ++ toAsciiLowercase subtype)

def isBidiControl (c : Char) : Bool :=
  let n := c.toNat
  n == 0x200E || n == 0x200F || (0x202A ≤ n && n ≤ 0x202E) || (0x2066 ≤ n && n ≤ 0x2069)

/-- `sanitize_filename`. -/
def sanitizeFilename (raw : String) : String :=
  let cleaned := raw.toList.filter fun c =>
    !isControl c && !isBidiControl c && c != '/' && c != '\\'
  let clamped := String.ofList ((trimList cleaned).take MAX_FILENAME_CHARS)
  let name := trimEnd clamped
  if isEmpty name || name.toList.all (· == '.') then FALLBACK_FILENAME else name

def invalidContentType (index : ℕ) : GatewayError :=
  .badRequest ("invalid `attachments[" ++ toString index ++
    "].content_type`: expected a MIME type like \"application/pdf\"")

/-- `invalid_base64`. -/
def invalidBase64 (index : ℕ) : GatewayError :=
  .badRequest ("invalid `attachments[" ++ toString index ++
    "].content_base64`: not valid standard base64")

def tooManyAttachments (given allowed : ℕ) : GatewayError :=
  .badRequest ("too many attachments: " ++ toString given ++ " given, at most " ++
    toString allowed ++ " allowed")

def attachmentsTooLarge (total allowed : ℕ) : GatewayError :=
  .badRequest ("attachments too large: " ++ toString total ++ " bytes decoded in total, at most " ++
    toString allowed ++ " allowed")

/-- The loop of `decode_attachments` over the encoded forms, from `index` on and with
`total` bytes so far. -/
def measureAttachments : ℕ → ℕ → List Attachment → Except GatewayError (List String × ℕ)
  | _, total, [] => .ok ([], total)
  | index, total, attachment :: rest => do
    let contentType ← okOr (invalidContentType index) (contentTypeEssence attachment.contentType)
    let size ← okOr (invalidBase64 index) (decodedLen attachment.contentBase64)
    let (contentTypes, total) ← measureAttachments (index + 1) (saturatingAdd total size) rest
    .ok (contentType :: contentTypes, total)

/-- The second pass: everything was measured, so now the payload is decoded. -/
def decodeAttachment (item : (Attachment × String) × ℕ) : Except GatewayError OutgoingAttachment := do
  let ((attachment, contentType), index) := item
  let bytes ← okOr (invalidBase64 index) (decodeBase64 attachment.contentBase64)
  .ok { filename := sanitizeFilename attachment.filename, contentType := contentType, bytes := bytes }

/-- `decode_attachments`. -/
def decodeAttachments (attachments : List Attachment) (limits : AttachmentLimits) :
    Except GatewayError (List OutgoingAttachment) :=
  if limits.maxCount < attachments.length then
    .error (tooManyAttachments attachments.length limits.maxCount)
  else do
    let (contentTypes, total) ← measureAttachments 0 0 attachments
    if limits.maxTotalBytes < total then .error (attachmentsTooLarge total limits.maxTotalBytes)
    else (attachments.zip contentTypes).zipIdx.mapM decodeAttachment

end Overfwd
