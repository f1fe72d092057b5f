import Overfwd.CredentialUse
import Overfwd.RequestErrors

namespace Overfwd

open Text Outcome Dialogue Serde

/-- The SMTP questions of a history, and its audit lines. -/
def smtpPart {Address : Type} (H : NetHistory Address) : SendHistory Address :=
  H.filterMap fun e => match e with
    | ⟨.smtp q, x⟩ => some ⟨q, x⟩
    | _ => none

section Parts

variable {Address : Type} (crates : Crates Address) (env : Env) (state : AppState)

theorem smtpPart_append (H H' : NetHistory Address) :
    smtpPart (H ++ H') = smtpPart H ++ smtpPart H' := List.filterMap_append

theorem smtpPart_map (h : SendHistory Address) : smtpPart (h.map fun e =>
    (⟨.smtp e.1, e.2⟩ : Exchange (NetOp Address) NetOp.Answer)) = h := by
  induction h with
  | nil => rfl
  | cons e h ih => exact congrArg (e :: ·) ih

/-- Resolving a credential hands over nothing, and neither does reading. -/
theorem smtpPart_credential (headers : HeaderMap) (H : NetHistory Address)
    (r : Except GatewayError MailboxCredential)
    (hplays : Plays (netCredential crates state headers) H r) : smtpPart H = [] := by
  obtain ⟨h, -, rfl⟩ := (plays_relabel NetOp.credential _ H _).mp hplays
  apply List.filterMap_eq_nil_iff.mpr
  intro e he
  obtain ⟨d, -, rfl⟩ := List.mem_map.mp he
  rfl

theorem smtpPart_imap {α : Type} (p : ImapProg α) (H : NetHistory Address) (r : α)
    (hplays : Plays (p.handle fun q => (call (NetOp.imap q) : NetProg Address _)) H r) :
    smtpPart H = [] := by
  obtain ⟨h, -, rfl⟩ := (plays_relabel NetOp.imap p H r).mp hplays
  apply List.filterMap_eq_nil_iff.mpr
  intro e he
  obtain ⟨d, -, rfl⟩ := List.mem_map.mp he
  rfl

theorem plays_netSend (cred : MailboxCredential) (request : SendRequest) (limits : AttachmentLimits)
    (H : NetHistory Address) (r : Except GatewayError SendResponse)
    (hplays : Plays (netSend crates env cred request limits) H r) :
    ∃ stamp, Plays (doSend crates.lettre crates.builder (env ENV_TLS_INSECURE) stamp cred request
      limits).run (smtpPart H) r := by
  obtain ⟨H₁, stamp, H₂, hstamp, hsend, rfl⟩ := (plays_bind _ _ _).mp hplays
  obtain rfl := (plays_call _ _).mp hstamp
  obtain ⟨h, hp, rfl⟩ := (plays_relabel NetOp.smtp _ H₂ r).mp hsend
  refine ⟨stamp, ?_⟩
  rw [smtpPart_append, smtpPart_map]
  exact hp

end Parts

section Handovers

variable {Address : Type} (crates : Crates Address) (env : Env)

/-- One message that is handed over for the credential: its acceptance is acknowledged by the
client and it is logged; or the client reports an error, and whether the server has taken it is
not known. -/
inductive Handover (cred : MailboxCredential) : SendHistory Address → Prop
  | acknowledged (stamp : MimeStamp) (message : OutgoingMessage) (s : Submission Address)
      (hprepared : prepared crates.lettre crates.builder (env ENV_TLS_INSECURE) stamp cred message =
        .ok s) : Handover cred [⟨.sendRaw s.mailer s.envelope s.raw, .ok ()⟩,
          ⟨.info (SendDisclosure.forMessage message).audit, ()⟩]
  | failed (stamp : MimeStamp) (message : OutgoingMessage) (s : Submission Address)
      (hprepared : prepared crates.lettre crates.builder (env ENV_TLS_INSECURE) stamp cred message =
        .ok s) (err : SmtpError) : Handover cred [⟨.sendRaw s.mailer s.envelope s.raw, .error err⟩]

theorem handover_of_doSend (cred : MailboxCredential) (stamp : MimeStamp) (request : SendRequest)
    (limits : AttachmentLimits) (h : SendHistory Address) (r : Except GatewayError SendResponse)
    (hplays : Plays (doSend crates.lettre crates.builder (env ENV_TLS_INSECURE) stamp cred request
      limits).run h r) : h = [] ∨ Handover crates env cred h := by
  rcases plays_doSend _ _ _ _ _ _ _ h r hplays with
    ⟨e, -, rfl, -⟩ | ⟨message, -, ⟨e, -, rfl, -⟩ | ⟨s, hs, ⟨err, rfl, -⟩ | ⟨rfl, -⟩⟩⟩
  · exact .inl rfl
  · exact .inl rfl
  · exact .inr (.failed stamp message s hs err)
  · exact .inr (.acknowledged stamp message s hs)

variable (state : AppState)

theorem handover_of_visit (headers : HeaderMap) (asks : Action → Prop) (H : NetHistory Address)
    (hvisit : NetVisit crates env state headers asks H) :
    smtpPart H = [] ∨ ∃ cred, Handover crates env cred (smtpPart H) := by
  cases hvisit with
  | credential _ r hresolved =>
    exact .inl (smtpPart_credential crates state headers H r hresolved)
  | acted H₁ H₂ cred action hasks x hresolved hacted =>
    rw [smtpPart_append, smtpPart_credential crates state headers H₁ _ hresolved, List.nil_append]
    cases action with
    | search request => exact .inl (smtpPart_imap _ H₂ x hacted)
    | get request => exact .inl (smtpPart_imap _ H₂ x hacted)
    | send request =>
      obtain ⟨stamp, hsend⟩ := plays_netSend crates env cred request _ H₂ x hacted
      exact (handover_of_doSend crates env cred stamp request _ _ x hsend).imp_right
        fun hhandover => ⟨cred, hhandover⟩

theorem handovers_of_run (incoming : Incoming) (H : NetHistory Address)
    (reply : Option GatewayReply) (hplays : Plays (serve crates env state incoming) H reply) :
    Pieces (fun h => ∃ cred, Handover crates env cred h) (incoming.request.messages crates.json)
      (smtpPart H) := by
  obtain ⟨ps, hvisits, hlen, rfl⟩ := serve_visits crates env state incoming H reply hplays
  clear hplays
  -- By induction on the visits: each hands over one message or none.
  suffices hpieces : Pieces (fun h => ∃ cred, Handover crates env cred h) ps.length
      (smtpPart ps.flatten) from pieces_mono hpieces (fun _ h => h) hlen
  clear hlen
  induction ps with
  | nil => exact pieces_nil 0
  | cons p ps ih =>
    rw [List.flatten_cons, smtpPart_append, List.length_cons, Nat.add_comm]
    refine pieces_append ?_ (ih fun q hq => hvisits q (List.mem_cons_of_mem _ hq))
    rcases handover_of_visit crates env state _ _ p (hvisits p List.mem_cons_self) with hnil | hone
    · rw [hnil]
      exact pieces_nil 1
    · exact pieces_one hone

/-- Nothing but the audit line of a handover may be missing when it is cut. -/
theorem handover_cut (cred : MailboxCredential) (front back : SendHistory Address)
    (hfront : front ≠ []) (hhandover : Handover crates env cred (front ++ back)) :
    back.length ≤ 1 := by
  have hlength : (front ++ back).length ≤ 2 := by
    generalize front ++ back = h at hhandover
    cases hhandover with
    | acknowledged stamp message s hprepared => exact le_rfl
    | failed stamp message s hprepared err => exact Nat.le_succ 1
  have hpos := List.length_pos_of_ne_nil hfront
  rw [List.length_append] at hlength
  omega

/-- Whatever a request holds and whatever is answered: messages are handed over one after the
other, at most one for each message of the request, and each that is acknowledged has its audit
line, of just that message, before anything else is handed over. A run that is given up lacks at
most the line of the last. -/
theorem audit_log_is_faithful (incoming : Incoming) (H : NetHistory Address) :
    (Begins (serve crates env state incoming) H → ∃ back : SendHistory Address, back.length ≤ 1 ∧
      Pieces (fun h => ∃ cred, Handover crates env cred h) (incoming.request.messages crates.json)
        (smtpPart H ++ back)) ∧
      ∀ reply, Plays (serve crates env state incoming) H reply →
        Pieces (fun h => ∃ cred, Handover crates env cred h)
          (incoming.request.messages crates.json) (smtpPart H) := by
  refine ⟨fun hbegins => ?_, handovers_of_run crates env state incoming H⟩
  obtain ⟨rest, reply, hplays⟩ := hbegins
  have hwhole := handovers_of_run crates env state incoming _ reply hplays
  rw [smtpPart_append] at hwhole
  obtain ⟨back, hpieces, rfl | ⟨front, hfront, cred, hhandover⟩⟩ := pieces_prefix hwhole
  · exact ⟨[], Nat.zero_le 1, hpieces⟩
  · exact ⟨back, handover_cut crates env cred front back hfront hhandover, hpieces⟩

end Handovers

/-- Alice writes to Bob. -/
def aliceMail : SendRequest where
  «from» := "alice@example.com"
  «to» := ["bob@example.com"]
  cc := []
  bcc := []
  subject := "hello"
  text := some "hi"
  html := none
  attachments := []

def sendIncoming : Incoming where
  headers := aliceHeaders
  request := .send (.ok aliceMail)

theorem alice_is_logged_once :
    let p := serve plainCrates (fun _ => none) plainApp sendIncoming
    Pieces (fun h => ∃ cred, Handover plainCrates (fun _ => none) cred h) 1
      (smtpPart ((p.asked plainAnswer).map fun q => ⟨q, plainAnswer q⟩)) :=
  (audit_log_is_faithful plainCrates _ plainApp sendIncoming _).2 _ (plays_run plainAnswer _)

section Replies

variable {Address : Type} (crates : Crates Address) (env : Env) (state : AppState)

/-- The mail of a request went out once: it was made of the request, its acceptance by the server
of the headers' credential was acknowledged, it was logged, and the reply discloses it. -/
def SentOnce (headers : HeaderMap) (body : Except JsonRejection SendRequest) (h : SendHistory Address)
    (reply : RestReply) : Prop :=
  ∃ request, body = .ok request ∧ ∃ cred : MailboxCredential, cred.IsOf headers ∧
    ∃ message, request.intoMessage (.withMaxTotalBytes state.config.maxAttachmentBytes) = .ok message ∧
      ∃ stamp s, prepared crates.lettre crates.builder (env ENV_TLS_INSECURE) stamp cred message =
        .ok s ∧
        h = [⟨.sendRaw s.mailer s.envelope s.raw, .ok ()⟩,
          ⟨.info (SendDisclosure.forMessage message).audit, ()⟩] ∧
        reply.body = (SendResponse.accepted (.forMessage message)).toValue

/-- The mail of a request was handed over once and the client reported an error, which is the one
that is told. The server may have taken the mail all the same. -/
def Unacknowledged (headers : HeaderMap) (body : Except JsonRejection SendRequest)
    (h : SendHistory Address) (e : GatewayError) : Prop :=
  ∃ request, body = .ok request ∧ ∃ cred : MailboxCredential, cred.IsOf headers ∧
    ∃ message, request.intoMessage (.withMaxTotalBytes state.config.maxAttachmentBytes) = .ok message ∧
      ∃ stamp s, prepared crates.lettre crates.builder (env ENV_TLS_INSECURE) stamp cred message =
        .ok s ∧
        ∃ err, h = [⟨.sendRaw s.mailer s.envelope s.raw, .error err⟩] ∧ e = mapSmtpError cred.smtp err

theorem mapSmtpError_status (smtp : HostPort) (err : SmtpError) :
    (mapSmtpError smtp err).status = 502 := by
  unfold mapSmtpError
  split_ifs with htls
  · rfl
  · cases err.status with
    | none => rfl
    | some code =>
      dsimp only
      split_ifs
      · rfl
      · rfl

theorem unacknowledged_status (headers : HeaderMap) (body : Except JsonRejection SendRequest)
    (h : SendHistory Address) (e : GatewayError)
    (hun : Unacknowledged crates env state headers body h e) : e.status = 502 := by
  obtain ⟨_, -, cred, -, _, -, _, _, -, err, -, rfl⟩ := hun
  exact mapSmtpError_status cred.smtp err

theorem doSend_tells (headers : HeaderMap) (cred : MailboxCredential) (hcred : cred.IsOf headers)
    (stamp : MimeStamp) (request : SendRequest) (h : SendHistory Address)
    (r : Except GatewayError SendResponse)
    (hplays : Plays (doSend crates.lettre crates.builder (env ENV_TLS_INSECURE) stamp cred request
      (.withMaxTotalBytes state.config.maxAttachmentBytes)).run h r) :
    ((∃ response, r = .ok response) ∧
        SentOnce crates env state headers (.ok request) h (Routes.respond SendResponse.toValue r)) ∨
      ∃ e, r = .error e ∧ (h = [] ∨ Unacknowledged crates env state headers (.ok request) h e) := by
  rcases plays_doSend _ _ _ _ _ _ _ h r hplays with
    ⟨e, -, rfl, rfl⟩ | ⟨message, hmessage, ⟨e, -, rfl, rfl⟩ | ⟨s, hs, ⟨err, rfl, rfl⟩ | ⟨rfl, rfl⟩⟩⟩
  · exact .inr ⟨e, rfl, .inl rfl⟩
  · exact .inr ⟨e, rfl, .inl rfl⟩
  · exact .inr ⟨_, rfl, .inr ⟨request, rfl, cred, hcred, message, hmessage, stamp, s, hs, err, rfl,
      rfl⟩⟩
  · exact .inl ⟨⟨_, rfl⟩, request, rfl, cred, hcred, message, hmessage, stamp, s, hs, rfl, rfl⟩

theorem send_handler_tells (headers : HeaderMap) (body : Except JsonRejection SendRequest)
    (h : McpHistory) (H : NetHistory Address) (r : Except GatewayError SendResponse)
    (hplays : Plays (Routes.send state.config.maxAttachmentBytes headers body).run h r)
    (hlayered : Layered (answerMcp crates env state) h H) :
    ((∃ response, r = .ok response) ∧
        SentOnce crates env state headers body (smtpPart H) (Routes.respond SendResponse.toValue r)) ∨
      ∃ e, r = .error e ∧
        (smtpPart H = [] ∨ Unacknowledged crates env state headers body (smtpPart H) e) := by
  rcases plays_body_first headers _ _ hplays with ⟨e, -, rfl, rfl⟩ | ⟨e, rfl, rfl⟩ |
    ⟨cred, request, h', hbody, rfl, hact⟩
  · rw [(layered_nil H).mp hlayered]
    exact .inr ⟨e, rfl, .inl rfl⟩
  · have hfailed := (layered_one (McpOp.resolveCredential headers) _ _).mp hlayered
    exact .inr ⟨e, rfl, .inl (smtpPart_credential crates state headers H _ hfailed)⟩
  · obtain rfl := (plays_call _ _).mp hact
    obtain rfl := (mapError_eq_ok_iff _ _ _).mp hbody
    obtain ⟨H₁, H₂, hresolved, hrest, rfl⟩ := (layered_cons _ _ _ _).mp hlayered
    have hsend := (layered_one
      (McpOp.send cred request (.withMaxTotalBytes state.config.maxAttachmentBytes)) _ _).mp hrest
    obtain ⟨stamp, hsend⟩ := plays_netSend crates env cred request _ H₂ r hsend
    rw [smtpPart_append, smtpPart_credential crates state headers H₁ _ hresolved, List.nil_append]
    exact doSend_tells crates env state headers cred
      (netCredential_isOf crates state headers H₁ cred hresolved) stamp request _ r hsend

end Replies

end Overfwd
