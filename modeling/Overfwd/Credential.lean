import Overfwd.Endpoint

namespace Overfwd

open Text Outcome Dialogue

def H_MAILBOX_IMAP : String := "X-Mailbox-Imap"

def H_MAILBOX_SMTP : String := "X-Mailbox-Smtp"

def H_MAILBOX_DOMAIN : String := "X-Mailbox-Domain"

structure MailboxCredential where
  username : String
  password : String
  imap : HostPort
  smtp : HostPort
  deriving DecidableEq

/-- The mailbox headers before autoconfiguration. -/
structure InlineHeaders where
  username : String
  password : String
  imap : Option HostPort
  smtp : Option HostPort
  domain : Option String
  deriving DecidableEq

def missingTargetMessage : String :=
  "missing " ++ H_MAILBOX_IMAP ++ " and/or " ++ H_MAILBOX_SMTP ++ " header"

namespace InlineHeaders

/-- `autoconfig_domain`: the override, else what follows the username's last `@`. -/
def autoconfigDomain (h : InlineHeaders) : Option String :=
  h.domain.or (((rsplitOnce '@' h.username).map fun p => toAsciiLowercase p.2).filter
    fun d => !isEmpty d)

/-- The address passed to provider-hosted autoconfiguration, when one can be formed. -/
def autoconfigEmail (h : InlineHeaders) : Option String :=
  if contains '@' h.username then some h.username
  else h.domain.map fun d => h.username ++ "@" ++ d

/-- `source_label`. -/
def sourceLabel (explicit : Bool) (header derived : String) : String :=
  if explicit then header else derived

def credential (h : InlineHeaders) (imap smtp : HostPort) : MailboxCredential :=
  { username := h.username, password := h.password, imap := imap, smtp := smtp }

/-- `into_credential`. -/
def intoCredential (h : InlineHeaders) (autoconfigEnabled guardEnabled : Bool) :
    CredentialProg MailboxCredential :=
  match h.imap, h.smtp with
  | some imap, some smtp => do
    endpointCheck guardEnabled H_MAILBOX_IMAP imap
    endpointCheck guardEnabled H_MAILBOX_SMTP smtp
    pure (h.credential imap smtp)
  | _, _ =>
    if !autoconfigEnabled then throw (.badRequest missingTargetMessage)
    else do
      let domain ← okOr (GatewayError.badRequest (missingTargetMessage ++
        "; cannot autoconfigure without a domain — supply the host header(s) or " ++
        H_MAILBOX_DOMAIN)) h.autoconfigDomain
      let answer ← resolveServers domain h.autoconfigEmail
      let servers ← answer
      let imap ← okOr (GatewayError.autoconfigFailed ("no IMAP endpoint resolved for '" ++ domain ++ "'"))
        (h.imap.or servers.imap)
      let smtp ← okOr (GatewayError.autoconfigFailed ("no SMTP endpoint resolved for '" ++ domain ++ "'"))
        (h.smtp.or servers.smtp)
      endpointCheck guardEnabled
        (sourceLabel h.imap.isSome H_MAILBOX_IMAP "autoconfigured IMAP") imap
      endpointCheck guardEnabled
        (sourceLabel h.smtp.isSome H_MAILBOX_SMTP "autoconfigured SMTP") smtp
      pure (h.credential imap smtp)

/-- The two targets of a credential: a header wins over the autoconfigured value. -/
def targets (h : InlineHeaders) (autoconfigEnabled : Bool)
    (resolve : String → Option String → Except GatewayError MailServers) :
    Except GatewayError (HostPort × HostPort) :=
  match h.imap, h.smtp with
  | some imap, some smtp => .ok (imap, smtp)
  | _, _ =>
    if !autoconfigEnabled then .error (.badRequest missingTargetMessage)
    else do
      let domain ← okOr (GatewayError.badRequest (missingTargetMessage ++
        "; cannot autoconfigure without a domain — supply the host header(s) or " ++
        H_MAILBOX_DOMAIN)) h.autoconfigDomain
      let servers ← resolve domain h.autoconfigEmail
      let imap ← okOr (GatewayError.autoconfigFailed ("no IMAP endpoint resolved for '" ++ domain ++ "'"))
        (h.imap.or servers.imap)
      let smtp ← okOr (GatewayError.autoconfigFailed ("no SMTP endpoint resolved for '" ++ domain ++ "'"))
        (h.smtp.or servers.smtp)
      .ok (imap, smtp)

/-- Whichever way the targets were obtained, both are vetted before a credential exists. -/
theorem runE_intoCredential (h : InlineHeaders) (autoconfigEnabled guardEnabled : Bool)
    (net : FixedNetwork) :
    runE net.answer (h.intoCredential autoconfigEnabled guardEnabled) =
      h.targets autoconfigEnabled net.resolve >>= fun p => (do
        runE net.answer (endpointCheck guardEnabled
          (sourceLabel h.imap.isSome H_MAILBOX_IMAP "autoconfigured IMAP") p.1)
        runE net.answer (endpointCheck guardEnabled
          (sourceLabel h.smtp.isSome H_MAILBOX_SMTP "autoconfigured SMTP") p.2)
        pure (h.credential p.1 p.2)) := by
  unfold intoCredential targets
  cases himap : h.imap with
  | none =>
    cases autoconfigEnabled with
    | false => simp
    | true => simp [sourceLabel]
  | some imap =>
    cases hsmtp : h.smtp with
    | some smtp => simp [sourceLabel]
    | none =>
      cases autoconfigEnabled with
      | false => simp
      | true => simp [sourceLabel]

end InlineHeaders

end Overfwd
