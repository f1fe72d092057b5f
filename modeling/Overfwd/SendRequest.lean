import Overfwd.Smtp

namespace Overfwd

open Text Outcome Dialogue

def BODY_PREVIEW_LIMIT : ℕ := 256

/-- The body of a request that has one. -/
def SendRequest.body (request : SendRequest) : Option OutgoingBody :=
  match request.text, request.html with
  | some text, some html => some (.both text html)
  | some text, none => some (.text text)
  | none, some html => some (.html html)
  | none, none => none

/-- `SendRequest::into_message`. -/
def SendRequest.intoMessage (request : SendRequest) (limits : AttachmentLimits) :
    Except GatewayError OutgoingMessage :=
  if request.to = [] then .error (.badRequest "`to` must contain at least one recipient")
  else do
    let body ← okOr (.badRequest
      "a message body is required: provide `text`, `html`, or both") request.body
    let attachments ← decodeAttachments request.attachments limits
    .ok { «from» := request.from, «to» := request.to, cc := request.cc, bcc := request.bcc,
          subject := request.subject, body := body, attachments := attachments }

/-- `preview_source`. -/
def previewSource : OutgoingBody → String
  | .text text => text
  | .html html => html
  | .both text _ => text

/-- `clamp_preview`. -/
def clampPreview (body : String) : String :=
  let preview := String.ofList (body.toList.take BODY_PREVIEW_LIMIT)
  if (body.toList[BODY_PREVIEW_LIMIT]?).isSome then preview ++ "…" else preview

/-- `SendDisclosure::for_message`. -/
def SendDisclosure.forMessage (message : OutgoingMessage) : SendDisclosure :=
  { «from» := message.from
    «to» := message.to
    subject := message.subject
    bodyPreview := clampPreview (previewSource message.body)
    attachments := message.attachments.map fun a =>
      { filename := a.filename, sizeBytes := a.bytes.length } }

/-- `SendResponse::accepted`. -/
def SendResponse.accepted (disclosure : SendDisclosure) : SendResponse :=
  { sent := true, disclosure := disclosure }

/-- The fields of the audit line. -/
def SendDisclosure.audit (disclosure : SendDisclosure) : SendAudit :=
  { «from» := disclosure.from
    «to» := disclosure.to
    subject := disclosure.subject
    attachments := disclosure.attachments.length }

section Action

variable {Address : Type} (lettre : Lettre Address) (builder : MailBuilder)
  (tlsInsecure : Option String)

/-- `do_send`, given the value of `MAIL_TLS_INSECURE` and what `mail-builder` stamps the
message with. -/
def doSend (stamp : MimeStamp) (credential : MailboxCredential) (request : SendRequest)
    (limits : AttachmentLimits) : SendProg Address SendResponse := do
  let message ← request.intoMessage limits
  let disclosure := SendDisclosure.forMessage message
  let security := (SmtpSettings.fromEnv tlsInsecure).securityFor credential.smtp
  submit lettre builder stamp credential.smtp credential.username credential.password security message
  liftM (call (SendOp.info disclosure.audit) : Prog (SendOp Address) SendOp.Answer Unit)
  pure (.accepted disclosure)

end Action

end Overfwd
