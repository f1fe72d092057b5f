import Overfwd.SendRequest

namespace Overfwd

open Text Outcome Dialogue

/-- What is handed to the provider. -/
structure Submission (Address : Type) where
  mailer : SmtpTransport
  envelope : Envelope Address
  raw : List UInt8

section Histories

variable {Address : Type}

abbrev SendHistory (Address : Type) := List (Exchange (SendOp Address) SendOp.Answer)

/-- The submissions of a history, in order. -/
def submissions (h : SendHistory Address) : List (Submission Address) :=
  h.filterMap fun e => match e.1 with
    | .sendRaw mailer envelope raw => some ⟨mailer, envelope, raw⟩
    | .info _ => none

/-- The audit lines of a history, in order. -/
def audits (h : SendHistory Address) : List SendAudit :=
  h.filterMap fun e => match e.1 with
    | .sendRaw _ _ _ => none
    | .info audit => some audit

end Histories

def GatewayError.IsBadRequest (e : GatewayError) : Prop := ∃ m, e = .badRequest m

section Checks

theorem measure_fails (attachments : List Attachment) (index total : ℕ) :
    FailsOnly GatewayError.IsBadRequest (measureAttachments index total attachments) := by
  induction attachments generalizing index total with
  | nil => exact failsOnly_ok _
  | cons a rest ih =>
    refine failsOnly_bind (failsOnly_okOr _ _ ⟨_, rfl⟩) ?_
    intro contentType
    refine failsOnly_bind (failsOnly_okOr _ _ ⟨_, rfl⟩) ?_
    intro size
    exact failsOnly_bind (ih _ _) fun p => failsOnly_ok _

theorem decodeAttachments_fails (attachments : List Attachment) (limits : AttachmentLimits) :
    FailsOnly GatewayError.IsBadRequest (decodeAttachments attachments limits) := by
  unfold decodeAttachments
  split_ifs with hcount
  · exact failsOnly_error _ ⟨_, rfl⟩
  · refine failsOnly_bind (measure_fails _ _ _) ?_
    rintro ⟨types, total⟩
    dsimp only
    split_ifs with hlarge
    · exact failsOnly_error _ ⟨_, rfl⟩
    · refine failsOnly_mapM ?_ _
      rintro ⟨⟨a, contentType⟩, index⟩
      exact failsOnly_bind (failsOnly_okOr _ _ ⟨_, rfl⟩) fun bytes => failsOnly_ok _

theorem intoMessage_fails (request : SendRequest) (limits : AttachmentLimits) :
    FailsOnly GatewayError.IsBadRequest (request.intoMessage limits) := by
  unfold SendRequest.intoMessage
  split_ifs with hto
  · exact failsOnly_error _ ⟨_, rfl⟩
  · refine failsOnly_bind (failsOnly_okOr _ _ ⟨_, rfl⟩) ?_
    intro body
    exact failsOnly_bind (decodeAttachments_fails _ _) fun attachments => failsOnly_ok _

variable {Address : Type} (lettre : Lettre Address) (builder : MailBuilder)

theorem buildEnvelope_fails (message : OutgoingMessage) :
    FailsOnly GatewayError.IsBadRequest (buildEnvelope lettre message) := by
  refine failsOnly_bind (failsOnly_okOr _ _ ⟨_, rfl⟩) ?_
  intro sender
  refine failsOnly_bind ?_ ?_
  · exact failsOnly_mapM (fun address => failsOnly_okOr _ _ ⟨_, rfl⟩) _
  · exact fun recipients => failsOnly_mapError _ _ fun err => ⟨_, rfl⟩

/-- The message carries the fields of the request. -/
theorem intoMessage_eq_ok (request : SendRequest) (limits : AttachmentLimits)
    (message : OutgoingMessage) (h : request.intoMessage limits = .ok message) :
    request.to ≠ [] ∧ request.body = some message.body ∧
      decodeAttachments request.attachments limits = .ok message.attachments ∧
      message = ⟨request.from, request.to, request.cc, request.bcc, request.subject,
        message.body, message.attachments⟩ := by
  unfold SendRequest.intoMessage at h
  split_ifs at h with hto
  obtain ⟨body, hbody, h⟩ := (bind_eq_ok_iff _ _ _).mp h
  obtain ⟨attachments, hattachments, h⟩ := (bind_eq_ok_iff _ _ _).mp h
  cases h
  exact ⟨hto, (okOr_eq_ok_iff _ _ _).mp hbody, hattachments, rfl⟩

/-- The envelope names the sender and every recipient of the three lists, in order. -/
theorem buildEnvelope_eq_ok (message : OutgoingMessage) (envelope : Envelope Address)
    (h : buildEnvelope lettre message = .ok envelope) :
    (∃ sender, lettre.parse message.from = some sender ∧ envelope.from = some sender) ∧
      List.Forall₂ (fun text address => lettre.parse text = some address)
        (message.to ++ message.cc ++ message.bcc) envelope.to := by
  obtain ⟨sender, hsender, h⟩ := (bind_eq_ok_iff _ _ _).mp h
  obtain ⟨recipients, hrecipients, h⟩ := (bind_eq_ok_iff _ _ _).mp h
  have hparsed := (mapM_eq_ok_iff _ _ _).mp hrecipients
  unfold Envelope.new at h
  split_ifs at h with hempty
  · cases h
  · cases h
    refine ⟨⟨sender, (okOr_eq_ok_iff _ _ _).mp hsender, rfl⟩, ?_⟩
    exact hparsed.imp fun text address ht => (okOr_eq_ok_iff _ _ _).mp ht

theorem intoMessage_bcc (request : SendRequest) (limits : AttachmentLimits) (bcc : List String) :
    { request with bcc := bcc }.intoMessage limits =
      (request.intoMessage limits).map fun message => { message with bcc := bcc } := by
  have hbody : SendRequest.body { request with bcc := bcc } = request.body := rfl
  unfold SendRequest.intoMessage
  rw [hbody]
  dsimp only
  split_ifs with hto
  · rfl
  · rcases request.body with _ | body
    · rfl
    · rcases decodeAttachments request.attachments limits with e | attachments
      · rfl
      · rfl

/-- Blind recipients are in no header and no part. -/
theorem buildMime_bcc (stamp : MimeStamp) (message : OutgoingMessage) (bcc : List String) :
    buildMime builder stamp { message with bcc := bcc } = buildMime builder stamp message := rfl

end Checks

theorem mapSmtpError_ne_badRequest (smtp : HostPort) (err : SmtpError) (m : String) :
    mapSmtpError smtp err ≠ .badRequest m := by
  unfold mapSmtpError
  rcases err with ⟨_ | _, _ | code, display⟩
  · simp
  · by_cases hauth : isAuthCode code = true
    · simp [hauth]
    · simp [hauth]
  · simp
  · simp

section Action

variable {Address : Type} (lettre : Lettre Address) (builder : MailBuilder)
  (tlsInsecure : Option String) (stamp : MimeStamp) (credential : MailboxCredential)
  (request : SendRequest) (limits : AttachmentLimits)

/-- What `submit` does before it asks the provider. -/
def prepared (message : OutgoingMessage) : Except GatewayError (Submission Address) := do
  let envelope ← buildEnvelope lettre message
  let raw ← buildMime builder stamp message
  let mailer ← buildTransport lettre credential.smtp credential.username credential.password
    ((SmtpSettings.fromEnv tlsInsecure).securityFor credential.smtp)
  .ok ⟨mailer, envelope, raw⟩

theorem plays_submit (message : OutgoingMessage) (h : SendHistory Address)
    (r : Except GatewayError Unit) :
    Plays (submit lettre builder stamp credential.smtp credential.username credential.password
        ((SmtpSettings.fromEnv tlsInsecure).securityFor credential.smtp) message).run h r ↔
      (∃ e, prepared lettre builder tlsInsecure stamp credential message = .error e ∧
        h = [] ∧ r = .error e) ∨
      ∃ s, prepared lettre builder tlsInsecure stamp credential message = .ok s ∧
        ∃ x, h = [⟨.sendRaw s.mailer s.envelope s.raw, x⟩] ∧
          r = x.mapError (mapSmtpError credential.smtp) := by
  unfold submit prepared
  rcases buildEnvelope lettre message with e | envelope
  · rw [plays_except_bind]
    simp
  · rcases buildMime builder stamp message with e | raw
    · simp only [plays_except_bind]
      simp
    · rcases buildTransport lettre credential.smtp credential.username credential.password
        ((SmtpSettings.fromEnv tlsInsecure).securityFor credential.smtp) with e | mailer
      · simp only [plays_except_bind]
        simp
      · simp only [plays_except_bind, plays_attempt, plays_call]
        simp

theorem plays_submit_error (message : OutgoingMessage) (h : SendHistory Address) (e : GatewayError)
    (hplays : Plays (submit lettre builder stamp credential.smtp credential.username
      credential.password ((SmtpSettings.fromEnv tlsInsecure).securityFor credential.smtp)
        message).run h (.error e)) :
    (prepared lettre builder tlsInsecure stamp credential message = .error e ∧ h = []) ∨
      ∃ s, prepared lettre builder tlsInsecure stamp credential message = .ok s ∧
        ∃ err, h = [⟨.sendRaw s.mailer s.envelope s.raw, .error err⟩] ∧
          e = mapSmtpError credential.smtp err := by
  rcases (plays_submit _ _ _ _ _ _ _ _).mp hplays with ⟨e', he, rfl, hr⟩ | ⟨s, hs, x, rfl, hr⟩
  · cases hr
    exact .inl ⟨he, rfl⟩
  · cases x with
    | error err =>
      cases hr
      exact .inr ⟨s, hs, err, rfl, rfl⟩
    | ok _ => cases hr

/-- A submission that came back without an error was prepared and accepted. -/
theorem plays_submit_ok (message : OutgoingMessage) (h : SendHistory Address)
    (hplays : Plays (submit lettre builder stamp credential.smtp credential.username
      credential.password ((SmtpSettings.fromEnv tlsInsecure).securityFor credential.smtp)
        message).run h (.ok ())) :
    ∃ s, prepared lettre builder tlsInsecure stamp credential message = .ok s ∧
      h = [⟨.sendRaw s.mailer s.envelope s.raw, .ok ()⟩] := by
  rcases (plays_submit _ _ _ _ _ _ _ _).mp hplays with ⟨e, he, rfl, hr⟩ | ⟨s, hs, x, rfl, hr⟩
  · cases hr
  · cases x with
    | error err => cases hr
    | ok _ => exact ⟨s, hs, rfl⟩

/-- Everything the action can do: fail before anything is asked, be refused by the provider,
or be accepted. -/
theorem plays_doSend (h : SendHistory Address) (r : Except GatewayError SendResponse)
    (hplays : Plays (doSend lettre builder tlsInsecure stamp credential request limits).run h r) :
    (∃ e, request.intoMessage limits = .error e ∧ h = [] ∧ r = .error e) ∨
      ∃ message, request.intoMessage limits = .ok message ∧
        ((∃ e, prepared lettre builder tlsInsecure stamp credential message = .error e ∧
            h = [] ∧ r = .error e) ∨
          ∃ s, prepared lettre builder tlsInsecure stamp credential message = .ok s ∧
            ((∃ err, h = [⟨.sendRaw s.mailer s.envelope s.raw, .error err⟩] ∧
                r = .error (mapSmtpError credential.smtp err)) ∨
              h = [⟨.sendRaw s.mailer s.envelope s.raw, .ok ()⟩,
                  ⟨.info (SendDisclosure.forMessage message).audit, ()⟩] ∧
                r = .ok (.accepted (SendDisclosure.forMessage message)))) := by
  rcases (plays_except_bind _ _ _).mp hplays with hfailed | ⟨message, hmessage, hplays⟩
  · exact .inl hfailed
  · refine .inr ⟨message, hmessage, ?_⟩
    rcases (plays_fallible_bind _ _ _).mp hplays with ⟨e, hsubmit, rfl⟩ | ⟨h₁, _, h₂, hsubmit, hrest, rfl⟩
    · rcases plays_submit_error _ _ _ _ _ _ _ _ hsubmit with ⟨he, rfl⟩ | ⟨s, hs, err, rfl, rfl⟩
      · exact .inl ⟨e, he, rfl, rfl⟩
      · exact .inr ⟨s, hs, .inl ⟨err, rfl, rfl⟩⟩
    · obtain ⟨s, hs, rfl⟩ := plays_submit_ok _ _ _ _ _ _ _ hsubmit
      refine .inr ⟨s, hs, .inr ?_⟩
      rcases (plays_fallible_bind _ _ _).mp hrest with ⟨e, hinfo, -⟩ | ⟨h₂, _, h₃, hinfo, hpure, rfl⟩
      · obtain ⟨_, -, hr⟩ := (plays_lift _ _).mp hinfo
        cases hr
      · obtain ⟨_, hcall, -⟩ := (plays_lift _ _).mp hinfo
        obtain rfl := (plays_call _ _).mp hcall
        obtain ⟨rfl, rfl⟩ := (plays_run_pure _ _).mp hpure
        exact ⟨rfl, rfl⟩

/-- A request that is refused whatever the provider would say. -/
def Refused : Prop :=
  request.to = [] ∨ request.body = none ∨
    (∃ e, decodeAttachments request.attachments limits = .error e) ∨
    ∃ address ∈ request.from :: (request.to ++ request.cc ++ request.bcc), lettre.parse address = none

theorem prepared_of_malformed (message : OutgoingMessage) (address : String)
    (haddress : address ∈ message.from :: (message.to ++ message.cc ++ message.bcc))
    (hmalformed : lettre.parse address = none) :
    ∃ e, prepared lettre builder tlsInsecure stamp credential message = .error e ∧
      e.IsBadRequest := by
  have hfails : ∃ e, buildEnvelope lettre message = .error e := by
    rcases henvelope : buildEnvelope lettre message with e | envelope
    · exact ⟨e, rfl⟩
    · obtain ⟨⟨sender, hsender, -⟩, hparsed⟩ := buildEnvelope_eq_ok lettre message envelope henvelope
      rcases List.mem_cons.mp haddress with rfl | hmem
      · rw [hsender] at hmalformed
        cases hmalformed
      · obtain ⟨a, -, ha⟩ := forall₂_mem_left hparsed address hmem
        rw [ha] at hmalformed
        cases hmalformed
  obtain ⟨e, he⟩ := hfails
  refine ⟨e, ?_, buildEnvelope_fails lettre message e he⟩
  unfold prepared
  rw [he]
  rfl

theorem refused_outcome (hrefused : Refused lettre request limits) (h : SendHistory Address)
    (r : Except GatewayError SendResponse)
    (hplays : Plays (doSend lettre builder tlsInsecure stamp credential request limits).run h r) :
    h = [] ∧ ∃ e, r = .error e ∧ e.IsBadRequest := by
  rcases plays_doSend _ _ _ _ _ _ _ _ _ hplays with ⟨e, he, rfl, rfl⟩ | ⟨message, hmessage, hrest⟩
  · exact ⟨rfl, e, rfl, intoMessage_fails request limits e he⟩
  · obtain ⟨hto, hbody, hattachments, hfields⟩ := intoMessage_eq_ok request limits message hmessage
    rcases hrefused with hempty | hnone | ⟨e, he⟩ | ⟨address, haddress, hmalformed⟩
    · exact absurd hempty hto
    · rw [hnone] at hbody
      cases hbody
    · rw [hattachments] at he
      cases he
    · obtain ⟨e, he, hbad⟩ := prepared_of_malformed lettre builder tlsInsecure stamp credential
        message address (by rw [hfields]; exact haddress) hmalformed
      rw [he] at hrest
      rcases hrest with ⟨e', he', rfl, rfl⟩ | ⟨s, hs, -⟩
      · cases he'
        exact ⟨rfl, e, rfl, hbad⟩
      · cases hs

theorem prepared_eq_ok (message : OutgoingMessage) (s : Submission Address)
    (h : prepared lettre builder tlsInsecure stamp credential message = .ok s) :
    buildEnvelope lettre message = .ok s.envelope ∧ buildMime builder stamp message = .ok s.raw ∧
      buildTransport lettre credential.smtp credential.username credential.password
        ((SmtpSettings.fromEnv tlsInsecure).securityFor credential.smtp) = .ok s.mailer := by
  obtain ⟨envelope, henvelope, h⟩ := (bind_eq_ok_iff _ _ _).mp h
  obtain ⟨raw, hraw, h⟩ := (bind_eq_ok_iff _ _ _).mp h
  obtain ⟨mailer, hmailer, h⟩ := (bind_eq_ok_iff _ _ _).mp h
  cases h
  exact ⟨henvelope, hraw, hmailer⟩

/-- A submission that was made is the prepared one. -/
theorem submitted (h : SendHistory Address) (r : Except GatewayError SendResponse)
    (hplays : Plays (doSend lettre builder tlsInsecure stamp credential request limits).run h r)
    (s : Submission Address) (hs : s ∈ submissions h) :
    ∃ message, request.intoMessage limits = .ok message ∧
      prepared lettre builder tlsInsecure stamp credential message = .ok s := by
  rcases plays_doSend _ _ _ _ _ _ _ _ _ hplays with ⟨e, he, rfl, rfl⟩ |
    ⟨message, hmessage, ⟨e, he, rfl, rfl⟩ | ⟨s', hs', ⟨err, rfl, rfl⟩ | ⟨rfl, rfl⟩⟩⟩
  · cases hs
  · cases hs
  · obtain rfl := List.mem_singleton.mp hs
    exact ⟨message, hmessage, hs'⟩
  · obtain rfl := List.mem_singleton.mp hs
    exact ⟨message, hmessage, hs'⟩

theorem sent_once (h : SendHistory Address) (response : SendResponse)
    (hplays : Plays (doSend lettre builder tlsInsecure stamp credential request limits).run h
      (.ok response)) :
    ∃ s, submissions h = [s] ∧
      (∃ sender, lettre.parse request.from = some sender ∧ s.envelope.from = some sender) ∧
      List.Forall₂ (fun text address => lettre.parse text = some address)
        (request.to ++ request.cc ++ request.bcc) s.envelope.to := by
  rcases plays_doSend _ _ _ _ _ _ _ _ _ hplays with ⟨e, -, -, hr⟩ |
    ⟨message, hmessage, ⟨e, -, -, hr⟩ | ⟨s, hs, ⟨err, -, hr⟩ | ⟨rfl, -⟩⟩⟩
  · cases hr
  · cases hr
  · cases hr
  · obtain ⟨-, -, -, hfields⟩ := intoMessage_eq_ok request limits message hmessage
    obtain ⟨henvelope, -, -⟩ := prepared_eq_ok _ _ _ _ _ _ _ hs
    obtain ⟨hsender, hrecipients⟩ := buildEnvelope_eq_ok lettre message s.envelope henvelope
    rw [hfields] at hsender hrecipients
    exact ⟨s, rfl, hsender, hrecipients⟩

theorem unsent_of_badRequest (h : SendHistory Address) (m : String)
    (hplays : Plays (doSend lettre builder tlsInsecure stamp credential request limits).run h
      (.error (.badRequest m))) : submissions h = [] := by
  rcases plays_doSend _ _ _ _ _ _ _ _ _ hplays with ⟨e, -, rfl, -⟩ |
    ⟨message, hmessage, ⟨e, -, rfl, -⟩ | ⟨s, hs, ⟨err, -, hr⟩ | ⟨-, hr⟩⟩⟩
  · rfl
  · rfl
  · exact absurd (Except.error.inj hr).symm (mapSmtpError_ne_badRequest credential.smtp err m)
  · cases hr

/-- Blind recipients change the recipients of the envelope and nothing else. -/
theorem submitted_alike (bcc : List String) (h h' : SendHistory Address)
    (r r' : Except GatewayError SendResponse)
    (hplays : Plays (doSend lettre builder tlsInsecure stamp credential request limits).run h r)
    (hplays' : Plays (doSend lettre builder tlsInsecure stamp credential
      { request with bcc := bcc } limits).run h' r')
    (s s' : Submission Address) (hs : s ∈ submissions h) (hs' : s' ∈ submissions h') :
    s'.mailer = s.mailer ∧ s'.raw = s.raw ∧ s'.envelope.from = s.envelope.from := by
  obtain ⟨message, hmessage, hprepared⟩ := submitted _ _ _ _ _ _ _ h r hplays s hs
  obtain ⟨message', hmessage', hprepared'⟩ := submitted _ _ _ _ _ _ _ h' r' hplays' s' hs'
  rw [intoMessage_bcc, hmessage] at hmessage'
  obtain rfl := Except.ok.inj hmessage'
  obtain ⟨henvelope, hraw, hmailer⟩ := prepared_eq_ok _ _ _ _ _ _ _ hprepared
  obtain ⟨henvelope', hraw', hmailer'⟩ := prepared_eq_ok _ _ _ _ _ _ _ hprepared'
  have hsame : s'.envelope.from = s.envelope.from := by
    obtain ⟨⟨sender, hsender, hfrom⟩, -⟩ := buildEnvelope_eq_ok lettre _ _ henvelope
    obtain ⟨⟨sender', hsender', hfrom'⟩, -⟩ := buildEnvelope_eq_ok lettre _ _ henvelope'
    rw [hsender] at hsender'
    rw [hfrom, hfrom', hsender']
  rw [buildMime_bcc, hraw] at hraw'
  rw [hmailer] at hmailer'
  exact ⟨(Except.ok.inj hmailer').symm, (Except.ok.inj hraw').symm, hsame⟩

/-- The action submits once or not at all. On success the envelope has the sender and
exactly the recipients of the three lists; a bad request was not submitted, and a refused
one is a bad request. Two requests that differ in `bcc` alone are submitted as the same
bytes over the same transport. -/
theorem send_is_atomic :
    (∀ h response,
      Plays (doSend lettre builder tlsInsecure stamp credential request limits).run h (.ok response) →
      ∃ s, submissions h = [s] ∧
        (∃ sender, lettre.parse request.from = some sender ∧ s.envelope.from = some sender) ∧
        List.Forall₂ (fun text address => lettre.parse text = some address)
          (request.to ++ request.cc ++ request.bcc) s.envelope.to) ∧
      (∀ h m, Plays (doSend lettre builder tlsInsecure stamp credential request limits).run h
          (.error (.badRequest m)) → submissions h = []) ∧
      (Refused lettre request limits → ∀ h r,
        Plays (doSend lettre builder tlsInsecure stamp credential request limits).run h r →
          submissions h = [] ∧ ∃ m, r = .error (.badRequest m)) ∧
      (∀ message bcc, buildMime builder stamp { message with bcc := bcc } =
        buildMime builder stamp message) ∧
      ∀ bcc h r h' r',
        Plays (doSend lettre builder tlsInsecure stamp credential request limits).run h r →
        Plays (doSend lettre builder tlsInsecure stamp credential { request with bcc := bcc }
          limits).run h' r' →
        ∀ s ∈ submissions h, ∀ s' ∈ submissions h',
          s'.mailer = s.mailer ∧ s'.raw = s.raw ∧ s'.envelope.from = s.envelope.from := by
  refine ⟨?_, ?_, ?_, fun message bcc => buildMime_bcc builder stamp message bcc, ?_⟩
  · intro h response hplays
    exact sent_once _ _ _ _ _ _ _ h response hplays
  · intro h m hplays
    exact unsent_of_badRequest _ _ _ _ _ _ _ h m hplays
  · intro hrefused h r hplays
    obtain ⟨rfl, e, rfl, m, rfl⟩ := refused_outcome _ _ _ _ _ _ _ hrefused h r hplays
    exact ⟨rfl, m, rfl⟩
  · intro bcc h r h' r' hplays hplays' s hs s' hs'
    exact submitted_alike _ _ _ _ _ _ _ bcc h h' r r' hplays hplays' s s' hs hs'

end Action

/-- A parser that asks for an `@`. -/
def atLettre : Lettre String where
  parse text := if text.toList.contains '@' then some text else none
  missingTo := "missing destination"
  buildTls _ := .ok ()

def blankBuilder : MailBuilder where
  base64EncodeMime := .ok
  writeToVec _ _ := .ok []

def acceptAll : (q : SendOp String) → q.Answer
  | .sendRaw _ _ _ => .ok ()
  | .info _ => ()

/-- A mail to Bob, with a copy to Carol. -/
def bobMail (bcc : List String) : SendRequest where
  «from» := "alice@example.com"
  «to» := ["bob@example.com"]
  cc := ["carol@example.com"]
  bcc := bcc
  subject := "hello"
  text := some "hi"
  html := none
  attachments := []

def bobSend (bcc : List String) : SendProg String SendResponse :=
  doSend atLettre blankBuilder none ⟨"", "", ""⟩
    ⟨"alice", "s3cr3t", ⟨"imap.example.com", 993⟩, ⟨"smtp.example.com", 465⟩⟩ (bobMail bcc)
    (.withMaxTotalBytes 1000)

/-- With Dan as blind recipient it is submitted once and to all three; with a recipient
that is no address, not at all. -/
theorem bob_mail_is_atomic :
    (∃ h response s, Plays (bobSend ["dan@example.com"]).run h (.ok response) ∧
      submissions h = [s] ∧
      List.Forall₂ (fun text address => atLettre.parse text = some address)
        ["bob@example.com", "carol@example.com", "dan@example.com"] s.envelope.to) ∧
    ∃ h m, Plays (bobSend ["dan"]).run h (.error (.badRequest m)) ∧ submissions h = [] := by
  have hatomic (bcc : List String) := send_is_atomic atLettre blankBuilder none ⟨"", "", ""⟩
    ⟨"alice", "s3cr3t", ⟨"imap.example.com", 993⟩, ⟨"smtp.example.com", 465⟩⟩ (bobMail bcc)
    (.withMaxTotalBytes 1000)
  constructor
  · have hplays := plays_run acceptAll (bobSend ["dan@example.com"]).run
    obtain ⟨s, hsubmitted, -, hrecipients⟩ := (hatomic ["dan@example.com"]).1 _ _ hplays
    exact ⟨_, _, s, hplays, hsubmitted, hrecipients⟩
  · have hplays := plays_run acceptAll (bobSend ["dan"]).run
    exact ⟨_, _, hplays, (hatomic ["dan"]).2.1 _ _ hplays⟩

end Overfwd
