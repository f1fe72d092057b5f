import Overfwd.Attachments
import Overfwd.Credential
import Overfwd.Lib.History

namespace Overfwd

open Text Outcome Dialogue

inductive SmtpSecurity
  | plaintext
  | implicitTls (insecure : Bool)
  deriving DecidableEq

/-- `SmtpSecurity::for_submission_port`. -/
def SmtpSecurity.forSubmissionPort (port : UInt16) (tlsInsecure : Bool) : SmtpSecurity :=
  if port = 465 ∨ port = 3465 then .implicitTls tlsInsecure else .plaintext

structure SmtpSettings where
  tlsInsecure : Bool
  deriving DecidableEq

/-- `SmtpSettings::from_env`, given the value of `MAIL_TLS_INSECURE`. -/
def SmtpSettings.fromEnv (value : Option String) : SmtpSettings :=
  { tlsInsecure := value.any fun v =>
      ["1", "true", "yes", "on"].contains (toAsciiLowercase (trim v)) }

/-- `security_for`. -/
def SmtpSettings.securityFor (settings : SmtpSettings) (smtp : HostPort) : SmtpSecurity :=
  .forSubmissionPort smtp.port settings.tlsInsecure

inductive OutgoingBody
  | text (text : String)
  | html (html : String)
  | both (text html : String)
  deriving DecidableEq

structure OutgoingMessage where
  «from» : String
  «to» : List String
  cc : List String
  bcc : List String
  subject : String
  body : OutgoingBody
  attachments : List OutgoingAttachment
  deriving DecidableEq

/-- A reply code of the SMTP client by its three digits. -/
structure Code where
  severity : Fin 6
  category : Fin 6
  detail : Fin 10
  deriving DecidableEq

/-- `u16::from`. -/
def Code.toNat (code : Code) : ℕ := 100*code.severity + 10*code.category + code.detail

/-- `Category::Unspecified3`. -/
def CATEGORY_UNSPECIFIED3 : Fin 6 := 3

/-- What the SMTP client tells of its errors. -/
structure SmtpError where
  isTls : Bool
  status : Option Code
  display : String

/-- The addresses of a transaction; there is at least one recipient. -/
structure Envelope (Address : Type) where
  «from» : Option Address
  «to» : List Address
  to_ne_nil : «to» ≠ []

structure TlsParameters where
  domain : String
  acceptInvalidCerts : Bool
  acceptInvalidHostnames : Bool
  deriving DecidableEq

structure SmtpTransport where
  host : String
  port : UInt16
  username : String
  password : String
  tls : Option TlsParameters
  deriving DecidableEq

/-- What is used of `lettre`: its address parser, the text of its error for an envelope
without recipients, and whether it can set up TLS. -/
structure Lettre (Address : Type) where
  parse : String → Option Address
  missingTo : String
  buildTls : TlsParameters → Except String Unit

inductive MimePart
  | text (contentType body : String)
  | attachment (contentType : String) (encoded : List UInt8) (filename transferEncoding : String)
  | multipart (contentType : String) (parts : List MimePart)

structure MessageBuilder where
  «from» : String
  «to» : List String
  subject : String
  cc : Option (List String)
  textBody : Option String
  htmlBody : Option String
  body : Option MimePart

/-- What `mail-builder` adds of its own. -/
structure MimeStamp where
  date : String
  messageId : String
  boundary : String
  deriving DecidableEq

/-- What is used of `mail-builder`, with the texts of its errors. -/
structure MailBuilder where
  base64EncodeMime : List UInt8 → Except String (List UInt8)
  writeToVec : MimeStamp → MessageBuilder → Except String (List UInt8)

/-- What the audit line of an accepted message holds. -/
structure SendAudit where
  «from» : String
  «to» : List String
  subject : String
  attachments : ℕ
  deriving DecidableEq

/-- What sending a message asks: its submission, and a line in the log. -/
inductive SendOp (Address : Type)
  | sendRaw (mailer : SmtpTransport) (envelope : Envelope Address) (raw : List UInt8)
  | info (audit : SendAudit)

@[reducible] def SendOp.Answer {Address : Type} : SendOp Address → Type
  | .sendRaw _ _ _ => Except SmtpError Unit
  | .info _ => Unit

abbrev SendProg (Address : Type) := Fallible GatewayError (SendOp Address) SendOp.Answer

/-- `is_auth_code`. -/
def isAuthCode (code : Code) : Bool :=
  [432, 454, 530, 534, 535, 538].contains code.toNat || code.category == CATEGORY_UNSPECIFIED3

/-- `map_smtp_error`. -/
def mapSmtpError (smtp : HostPort) (err : SmtpError) : GatewayError :=
  if err.isTls then
    .tlsFailure ("TLS negotiation with the SMTP provider " ++ smtp.host ++ ":" ++
      toString smtp.port ++ " failed: " ++ err.display)
  else
    match err.status with
    | some code =>
      if isAuthCode code then
        .authFailure ("the SMTP provider rejected the mailbox credential: " ++ err.display)
      else
        .hostUnreachable ("the SMTP provider " ++ smtp.host ++ ":" ++ toString smtp.port ++
          " rejected the submission: " ++ err.display)
    | none =>
      .hostUnreachable ("could not reach the SMTP provider " ++ smtp.host ++ ":" ++
        toString smtp.port ++ ": " ++ err.display)

section Submit

variable {Address : Type} (lettre : Lettre Address) (builder : MailBuilder)

/-- `Envelope::new`. -/
def Envelope.new («from» : Option Address) («to» : List Address) :
    Except String (Envelope Address) :=
  if h : «to» = [] then .error lettre.missingTo
  else .ok { «from» := «from», «to» := «to», to_ne_nil := h }

/-- `parse_address`. -/
def parseAddress (role value : String) : Except GatewayError Address :=
  okOr (.badRequest ("invalid " ++ role ++ " address: " ++ value)) (lettre.parse value)

/-- `build_envelope`: all three lists are recipients, in this order. -/
def buildEnvelope (message : OutgoingMessage) : Except GatewayError (Envelope Address) := do
  let «from» ← parseAddress lettre "from" message.from
  let recipients ← (message.to ++ message.cc ++ message.bcc).mapM (parseAddress lettre "recipient")
  (Envelope.new lettre (some «from») recipients).mapError fun err =>
    .badRequest ("invalid SMTP envelope: " ++ err)

/-- The body part of `mixed_body`. -/
def bodyPart : OutgoingBody → MimePart
  | .text text => .text "text/plain" text
  | .html html => .text "text/html" html
  | .both text html =>
    .multipart "multipart/alternative" [.text "text/plain" text, .text "text/html" html]

def attachmentPart (attachment : OutgoingAttachment) : Except GatewayError MimePart := do
  let encoded ← (builder.base64EncodeMime attachment.bytes).mapError fun err =>
    GatewayError.badRequest ("could not encode an attachment: " ++ err)
  .ok (.attachment attachment.contentType encoded attachment.filename "base64")

/-- `mixed_body`. -/
def mixedBody (message : OutgoingMessage) : Except GatewayError MimePart := do
  let parts ← message.attachments.mapM (attachmentPart builder)
  .ok (.multipart "multipart/mixed" (bodyPart message.body :: parts))

/-- The headers of `build_mime`; there is no line for `bcc`. -/
def mimeHeaders (message : OutgoingMessage) : MessageBuilder :=
  { «from» := message.from
    «to» := message.to
    subject := message.subject
    cc := if message.cc = [] then none else some message.cc
    textBody := none
    htmlBody := none
    body := none }

/-- The body of a message without attachments. -/
def withBody (headers : MessageBuilder) : OutgoingBody → MessageBuilder
  | .text text => { headers with textBody := some text }
  | .html html => { headers with htmlBody := some html }
  | .both text html => { headers with textBody := some text, htmlBody := some html }

/-- `build_mime`. -/
def buildMime (stamp : MimeStamp) (message : OutgoingMessage) :
    Except GatewayError (List UInt8) := do
  let complete ←
    if message.attachments = [] then .ok (withBody (mimeHeaders message) message.body)
    else do
      let body ← mixedBody builder message
      .ok { mimeHeaders message with body := some body }
  (builder.writeToVec stamp complete).mapError fun err =>
    .badRequest ("could not build the MIME message: " ++ err)

/-- `build_transport`: TLS is set up for an implicit-TLS port only. -/
def buildTransport (smtp : HostPort) (username password : String) (security : SmtpSecurity) :
    Except GatewayError SmtpTransport :=
  let mailer : SmtpTransport :=
    { host := smtp.host, port := smtp.port, username := username, password := password, tls := none }
  match security with
  | .plaintext => .ok mailer
  | .implicitTls insecure => do
    let tls : TlsParameters :=
      { domain := smtp.host, acceptInvalidCerts := insecure, acceptInvalidHostnames := insecure }
    (lettre.buildTls tls).mapError fun err =>
      GatewayError.tlsFailure ("could not configure TLS for the SMTP provider " ++ smtp.host ++
        ":" ++ toString smtp.port ++ ": " ++ err)
    .ok { mailer with tls := some tls }

/-- `submit`. -/
def submit (stamp : MimeStamp) (smtp : HostPort) (username password : String)
    (security : SmtpSecurity) (message : OutgoingMessage) : SendProg Address Unit := do
  -- Nothing is asked of the provider before the last line.
  let envelope ← buildEnvelope lettre message
  let raw ← buildMime builder stamp message
  let mailer ← buildTransport lettre smtp username password security
  attempt (mapSmtpError smtp) (call (SendOp.sendRaw mailer envelope raw))

end Submit

end Overfwd
