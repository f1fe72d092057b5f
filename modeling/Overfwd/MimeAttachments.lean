import Overfwd.Base64Payloads
import Overfwd.Submission

namespace Overfwd

open Text Outcome

/-- A byte that means something in an encoded body; a decoder passes over the others. -/
def isBase64Byte (b : UInt8) : Bool := b == Base64.pad || (Base64.value b).isSome

/-- The decoding of a body whose transfer encoding is base64. -/
def mimeDecode (encoded : List UInt8) : Option (List UInt8) :=
  Base64.decode (encoded.filter isBase64Byte)

def isLineBreakByte (b : UInt8) : Bool := b == 13 || b == 10

/-- An encoder of base64 bodies: what it writes is the padded base64 with line breaks in it. -/
structure MimeEncoder (encode : List UInt8 → Except String (List UInt8)) : Prop where
  total : ∀ bs, ∃ encoded, encode bs = .ok encoded
  faithful : ∀ bs encoded, encode bs = .ok encoded →
    encoded.filter (fun b => !isLineBreakByte b) = Base64.encode bs

/-- The body part is what the given fields call for. -/
def SendRequest.IsBodyPart (request : SendRequest) (part : MimePart) : Prop :=
  match request.text, request.html with
  | some text, none => part = .text "text/plain" text
  | none, some html => part = .text "text/html" html
  | some text, some html =>
    part = .multipart "multipart/alternative" [.text "text/plain" text, .text "text/html" html]
  | none, none => False

/-- The part of an attachment: its name, its type, and a body that decodes to the bytes
whose base64 the caller supplied. -/
def Attachment.IsPart (a : Attachment) (part : MimePart) : Prop :=
  ∃ contentType encoded bs,
    part = .attachment contentType encoded (sanitizeFilename a.filename) "base64" ∧
      contentTypeEssence a.contentType = some contentType ∧ mimeDecode encoded = some bs ∧
      decodeBase64 a.contentBase64 = some bs

section Bodies

theorem isBase64Byte_of_encode (bs : List UInt8) :
    ∀ c ∈ Base64.encode bs, isBase64Byte c = true := by
  intro c hc
  rcases Base64.mem_encode bs c hc with rfl | ⟨n, hn, rfl⟩
  · rfl
  · unfold isBase64Byte
    rw [Base64.value_symbol n hn]
    simp

theorem not_isBase64Byte_of_lineBreak (b : UInt8) (h : isLineBreakByte b = true) :
    isBase64Byte b = false := by
  simp only [isLineBreakByte, Bool.or_eq_true, beq_iff_eq] at h
  rcases h with rfl | rfl
  · decide
  · decide

/-- Line breaks are all that a decoder has to pass over. -/
theorem mimeDecode_of_faithful (encoded bs : List UInt8)
    (h : encoded.filter (fun b => !isLineBreakByte b) = Base64.encode bs) :
    mimeDecode encoded = some bs := by
  have hsame : encoded.filter isBase64Byte = Base64.encode bs := by
    rw [← h]
    apply List.filter_congr
    intro b hb
    cases hbreak : isLineBreakByte b with
    | true => exact not_isBase64Byte_of_lineBreak b hbreak
    | false =>
      have hmem : b ∈ encoded.filter fun b => !isLineBreakByte b :=
        List.mem_filter.mpr ⟨hb, by rw [hbreak]; rfl⟩
      rw [h] at hmem
      exact isBase64Byte_of_encode bs b hmem
  unfold mimeDecode
  rw [hsame]
  exact Base64.decode_encode bs

end Bodies

section Parts

variable (builder : MailBuilder) (hmime : MimeEncoder builder.base64EncodeMime)

include hmime

theorem attachmentPart_of_becomes (a : Attachment) (o : OutgoingAttachment) (h : a.Becomes o) :
    ∃ part, attachmentPart builder o = .ok part ∧ a.IsPart part := by
  obtain ⟨encoded, hencoded⟩ := hmime.total o.bytes
  have hdecode := mimeDecode_of_faithful encoded o.bytes (hmime.faithful o.bytes encoded hencoded)
  refine ⟨.attachment o.contentType encoded o.filename "base64", ?_, ?_⟩
  · unfold attachmentPart
    rw [hencoded]
    rfl
  · refine ⟨o.contentType, encoded, o.bytes, ?_, h.contentType, hdecode, ?_⟩
    · rw [h.filename]
    · exact (decodeBase64_eq_some_iff _ _).mpr h.bytes

/-- The parts follow the attachments one by one. -/
theorem attachmentParts (attachments : List Attachment) (decoded : List OutgoingAttachment)
    (h : List.Forall₂ Attachment.Becomes attachments decoded) :
    ∃ parts, decoded.mapM (attachmentPart builder) = .ok parts ∧
      List.Forall₂ Attachment.IsPart attachments parts := by
  induction h with
  | nil => exact ⟨[], rfl, .nil⟩
  | @cons a o _ os hbecomes _ ih =>
    obtain ⟨part, hpart, hispart⟩ := attachmentPart_of_becomes builder hmime a o hbecomes
    obtain ⟨parts, hparts, hare⟩ := ih
    refine ⟨part :: parts, ?_, .cons hispart hare⟩
    rw [List.mapM_cons, hpart, hparts]
    rfl

end Parts

theorem bodyPart_of_body (request : SendRequest) (body : OutgoingBody)
    (h : request.body = some body) : request.IsBodyPart (bodyPart body) := by
  unfold SendRequest.body at h
  unfold SendRequest.IsBodyPart
  cases htext : request.text with
  | none =>
    cases hhtml : request.html with
    | none =>
      rw [htext, hhtml] at h
      cases h
    | some html =>
      rw [htext, hhtml] at h
      cases h
      rfl
  | some text =>
    cases hhtml : request.html with
    | none =>
      rw [htext, hhtml] at h
      cases h
      rfl
    | some html =>
      rw [htext, hhtml] at h
      cases h
      rfl

/-- A message with attachments is a `multipart/mixed` of the body part and one part for each
attachment, in request order; each decodes to the bytes that were supplied for it, under its
own type and name. This tree is what is written to the wire. -/
theorem attachments_survive (builder : MailBuilder)
    (hmime : MimeEncoder builder.base64EncodeMime) (request : SendRequest)
    (limits : AttachmentLimits) (message : OutgoingMessage)
    (hsome : request.attachments ≠ []) (hmessage : request.intoMessage limits = .ok message) :
    ∃ body parts,
      mixedBody builder message = .ok (.multipart "multipart/mixed" (body :: parts)) ∧
        request.IsBodyPart body ∧ parts.length = request.attachments.length ∧
        List.Forall₂ Attachment.IsPart request.attachments parts ∧
        ∀ stamp, buildMime builder stamp message =
          (builder.writeToVec stamp { mimeHeaders message with
            body := some (.multipart "multipart/mixed" (body :: parts)) }).mapError fun err =>
              .badRequest ("could not build the MIME message: " ++ err) := by
  obtain ⟨-, hbody, hattachments, -⟩ := intoMessage_eq_ok request limits message hmessage
  obtain ⟨-, hbecomes, -⟩ := (decodeAttachments_eq_ok_iff _ _ _).mp hattachments
  obtain ⟨parts, hparts, hare⟩ := attachmentParts builder hmime _ _ hbecomes
  have htree : mixedBody builder message =
      .ok (.multipart "multipart/mixed" (bodyPart message.body :: parts)) := by
    unfold mixedBody
    rw [hparts]
    rfl
  have hnonempty : message.attachments ≠ [] := by
    intro hempty
    rw [hempty] at hbecomes
    exact hsome (List.forall₂_nil_right_iff.mp hbecomes)
  refine ⟨bodyPart message.body, parts, htree, bodyPart_of_body request message.body hbody,
    hare.length_eq.symm, hare, ?_⟩
  intro stamp
  unfold buildMime
  rw [if_neg hnonempty, htree]
  rfl

/-- Lines of 76 characters and a last one that may be shorter, each ended by CRLF; so many
characters of the current one are written. -/
def crlfLines : ℕ → List UInt8 → List UInt8
  | column, [] => if column = 0 then [] else [13, 10]
  | column, c :: rest =>
    if column = 75 then c :: 13 :: 10 :: crlfLines 0 rest else c :: crlfLines (column + 1) rest

theorem crlfLines_faithful (cs : List UInt8) (hcs : ∀ c ∈ cs, isLineBreakByte c = false)
    (column : ℕ) : (crlfLines column cs).filter (fun b => !isLineBreakByte b) = cs := by
  -- On the characters, at any column: a full line starts over from the first one.
  induction cs generalizing column with
  | nil =>
    unfold crlfLines
    by_cases hcolumn : column = 0
    · rw [if_pos hcolumn]
      rfl
    · rw [if_neg hcolumn]
      rfl
  | cons c rest ih =>
    have hrest := ih fun b hb => hcs b (List.mem_cons_of_mem c hb)
    have hc : (!isLineBreakByte c) = true := by
      rw [hcs c List.mem_cons_self]
      rfl
    unfold crlfLines
    by_cases hcolumn : column = 75
    · rw [if_pos hcolumn, List.filter_cons, if_pos hc]
      exact congrArg (c :: ·) (hrest 0)
    · rw [if_neg hcolumn, List.filter_cons, if_pos hc]
      exact congrArg (c :: ·) (hrest (column + 1))

theorem isLineBreakByte_of_encode (bs : List UInt8) :
    ∀ c ∈ Base64.encode bs, isLineBreakByte c = false := by
  intro c hc
  have hbyte := isBase64Byte_of_encode bs c hc
  by_contra hbreak
  rw [Bool.not_eq_false] at hbreak
  rw [not_isBase64Byte_of_lineBreak c hbreak] at hbyte
  cases hbyte

/-- Breaking the lines of a base64 text makes an encoder of bodies. -/
theorem crlfLines_mimeEncoder : MimeEncoder fun bs => .ok (crlfLines 0 (Base64.encode bs)) where
  total bs := ⟨_, rfl⟩
  faithful bs encoded h := by
    cases h
    exact crlfLines_faithful _ (isLineBreakByte_of_encode bs) 0

def crlfBuilder : MailBuilder where
  base64EncodeMime bs := .ok (crlfLines 0 (Base64.encode bs))
  writeToVec _ _ := .ok []

def helloRequest : SendRequest where
  «from» := "a@b"
  «to» := ["c@d"]
  cc := []
  bcc := []
  subject := ""
  text := some "hi"
  html := none
  attachments := [⟨"hello.txt", "text/plain", "aGVsbG8="⟩]

theorem hello_survives : ∃ message body parts,
    helloRequest.intoMessage ⟨20, 5⟩ = .ok message ∧
      mixedBody crlfBuilder message = .ok (.multipart "multipart/mixed" (body :: parts)) ∧
      List.Forall₂ Attachment.IsPart helloRequest.attachments parts := by
  have hmessage : helloRequest.intoMessage ⟨20, 5⟩ = .ok
      { «from» := "a@b", «to» := ["c@d"], cc := [], bcc := [], subject := "",
        body := .text "hi", attachments := [⟨"hello.txt", "text/plain", [104, 101, 108, 108, 111]⟩] } := by
    decide +kernel
  obtain ⟨body, parts, htree, -, -, hparts, -⟩ := attachments_survive crlfBuilder
    crlfLines_mimeEncoder helloRequest ⟨20, 5⟩ _ (by decide) hmessage
  exact ⟨_, body, parts, hmessage, htree, hparts⟩

end Overfwd
