import Overfwd.CredentialTargets
import Overfwd.PasswordChannels
import Overfwd.Submission

namespace Overfwd

open Text Outcome Dialogue

/-- The IMAP conversation of a history. -/
def imapPart {Address : Type} (H : NetHistory Address) : ImapHistory :=
  H.filterMap fun e => match e with
    | ⟨.imap q, x⟩ => some ⟨q, x⟩
    | _ => none

/-- The client was connected to the target earlier in the conversation: over TLS with the
target's host on the ports of implicit TLS, and in the clear elsewhere. -/
def DialledFor (target : HostPort) (insecure : Bool) (client : ImapClient) (h : ImapHistory) : Prop :=
  ∃ tcp, ⟨.tcpConnect target, .ok tcp⟩ ∈ h ∧
    match TlsMode.forPort target.port with
    | .plain => client.stream = .plain tcp
    | .implicitTls => ∃ stream, ⟨.tlsConnect tcp target.host insecure, .ok stream⟩ ∈ h ∧
        client.stream = .tls stream

theorem dialledFor_mono {target : HostPort} {insecure : Bool} {client : ImapClient}
    {h h' : ImapHistory} (hdialled : DialledFor target insecure client h) (hsub : h ⊆ h') :
    DialledFor target insecure client h' := by
  obtain ⟨tcp, htcp, hstream⟩ := hdialled
  refine ⟨tcp, hsub htcp, ?_⟩
  cases hmode : TlsMode.forPort target.port with
  | plain =>
    rw [hmode] at hstream
    exact hstream
  | implicitTls =>
    rw [hmode] at hstream
    obtain ⟨stream, htls, hclient⟩ := hstream
    exact ⟨stream, hsub htls, hclient⟩

section Login

variable (cred : MailboxCredential) (settings : ImapSettings)

/-- Only the credential's server is dialled, and a login is made with the credential, on a
client that was dialled for it. -/
def OpeningIsOwn (h : ImapHistory) : ImapOp → Prop
  | .tcpConnect target => target = cred.imap
  | .login client username password => username = cred.username ∧ password = cred.password ∧
      DialledFor cred.imap settings.tlsInsecure client h
  | _ => True

theorem own_of_not_opening (h : ImapHistory) (q : ImapOp) (hq : ¬q.IsOpening) :
    OpeningIsOwn cred settings h q := by
  cases q with
  | tcpConnect target => exact absurd trivial hq
  | login client username password => exact absurd trivial hq
  | _ => trivial

theorem not_opening_of_read (session : ImapSession) (q : ImapOp) (h : q.IsReadOn session) :
    ¬q.IsOpening := by
  cases q with
  | select session' mailbox => exact id
  | uidSearch session' query => exact id
  | uidFetch session' set items => exact id
  | _ => exact h.elim

theorem own_openStream (tcp : TcpStream) (h : ImapHistory)
    (htcp : ⟨.tcpConnect cred.imap, .ok tcp⟩ ∈ h) :
    Keeps record (rules (OpeningIsOwn cred settings))
      (ExceptT.run (openStream tcp (TlsMode.forPort cred.imap.port) cred.imap.host
        settings.tlsInsecure))
      (fun r h' => ∀ stream, r = .ok stream →
        DialledFor cred.imap settings.tlsInsecure { stream := stream } h') h := by
  unfold openStream DialledFor
  cases TlsMode.forPort cred.imap.port with
  | plain =>
    dsimp only
    rw [keeps_run_pure]
    exact yields_ok ⟨tcp, htcp, rfl⟩
  | implicitTls =>
    dsimp only
    unfold tlsHandshake
    rw [keeps_fallible_bind, keeps_attempt, keeps_call]
    refine ⟨trivial, fun x _ => ?_⟩
    cases x with
    | error e => exact yields_error _ _
    | ok stream =>
      dsimp only [Except.mapError]
      rw [keeps_run_pure]
      refine yields_ok ⟨tcp, List.mem_append_left _ htcp, stream, ?_, rfl⟩
      exact List.mem_append_right _ (List.mem_singleton.mpr rfl)

theorem own_connect (h : ImapHistory) :
    Keeps record (rules (OpeningIsOwn cred settings))
      (ExceptT.run (connect cred.imap (TlsMode.forPort cred.imap.port) settings.tlsInsecure))
      (fun r h' => ∀ client, r = .ok client →
        DialledFor cred.imap settings.tlsInsecure client h') h := by
  unfold connect
  rw [keeps_fallible_bind, keeps_attempt, keeps_call]
  refine ⟨rfl, fun x _ => ?_⟩
  cases x with
  | error e => exact yields_error _ _
  | ok tcp =>
    dsimp only [Except.mapError]
    rw [keeps_fallible_bind]
    apply keeps_mono _ _ (own_openStream cred settings tcp _
      (List.mem_append_right _ (List.mem_singleton.mpr rfl)))
    intro r h₁ hstream
    cases r with
    | error e => exact yields_error _ _
    | ok stream =>
      dsimp only
      rw [keeps_fallible_bind]
      unfold readGreeting
      rw [keeps_fallible_bind, keeps_lift, keeps_call]
      refine ⟨trivial, fun response _ => ?_⟩
      dsimp only
      have hdialled := dialledFor_mono (hstream stream rfl)
        (List.subset_append_left h₁ [⟨.readResponse { stream := stream }, response⟩])
      rw [keeps_fallible_bind, keeps_except]
      rcases response with _ | e | _
      · exact yields_error _ _
      · exact (keeps_except _ _ _ _ _).mpr (yields_error _ _)
      · refine (keeps_except _ _ _ _ _).mpr ?_
        exact (keeps_run_pure _ _ _ _ _).mpr (yields_ok hdialled)

theorem own_onFreshSession {α : Type} (operation : ImapSession → ImapAction α)
    (hoperation : ∀ session,
      AsksOnly (ImapOp.IsReadOn session) (ExceptT.run (operation session))) :
    Keeps record (rules (OpeningIsOwn cred settings))
      (ExceptT.run (onFreshSession cred settings operation)) (fun _ _ => True) [] := by
  unfold onFreshSession
  rw [keeps_fallible_bind]
  have hlogin : Keeps record (rules (OpeningIsOwn cred settings))
      (ExceptT.run (connectAndLogin cred settings)) (fun _ _ => True) [] := by
    unfold connectAndLogin
    rw [keeps_fallible_bind]
    apply keeps_mono _ _ (own_connect cred settings [])
    intro r h hclient
    cases r with
    | error e => trivial
    | ok client =>
      dsimp only
      unfold login
      rw [keeps_attempt, keeps_call]
      exact ⟨⟨rfl, rfl, hclient client rfl⟩, fun _ _ => trivial⟩
  apply keeps_mono _ _ hlogin
  intro r h _
  cases r with
  | error e => trivial
  | ok session =>
    have hrest : AsksOnly (fun q => ¬q.IsOpening) (ExceptT.run (do
        let result ← liftM (operation session).run
        liftM (logout session)
        result : ImapAction α)) := by
      apply asksOnly_fallible_bind (asksOnly_lift
        (asksOnly_mono (hoperation session) (not_opening_of_read session)))
      intro result
      apply asksOnly_fallible_bind (asksOnly_lift (asksOnly_call id))
      exact fun _ => asksOnly_except result
    apply keeps_mono _ _ (keeps_played _ hrest (own_of_not_opening cred settings) h)
    exact fun _ _ _ => trivial

theorem own_doSearch (parse : MailParser) (esc : UnicodeEscapes) (request : SearchRequest) :
    Keeps record (rules (OpeningIsOwn cred settings))
      (ExceptT.run (doSearch parse esc settings cred request)) (fun _ _ => True) [] := by
  unfold doSearch search
  rw [keeps_fallible_bind, keeps_except]
  cases request.searchKey esc with
  | error e => trivial
  | ok key =>
    dsimp only
    rw [keeps_fallible_bind]
    apply keeps_mono _ _ (own_onFreshSession cred settings _ fun session =>
      searchOn_asks session _ parse key request.effectiveLimit)
    intro r h _
    cases r with
    | error e => trivial
    | ok found => exact (keeps_run_pure _ _ _ _ _).mpr trivial

theorem own_doGet (parse : MailParser) (request : GetRequest) :
    Keeps record (rules (OpeningIsOwn cred settings))
      (ExceptT.run (doGet parse settings cred request)) (fun _ _ => True) [] :=
  own_onFreshSession cred settings _ fun session => getOn_asks session _ parse request.uid

end Login

/-- The transport to the submission target, with TLS for its host on the implicit-TLS ports. -/
def ownTransport (cred : MailboxCredential) (insecure : Bool) : SmtpTransport where
  host := cred.smtp.host
  port := cred.smtp.port
  username := cred.username
  password := cred.password
  tls := if cred.smtp.port = 465 ∨ cred.smtp.port = 3465 then
      some ⟨cred.smtp.host, insecure, insecure⟩
    else none

theorem buildTransport_own {Address : Type} (lettre : Lettre Address) (cred : MailboxCredential)
    (insecure : Bool) (mailer : SmtpTransport)
    (h : buildTransport lettre cred.smtp cred.username cred.password
      (.forSubmissionPort cred.smtp.port insecure) = .ok mailer) :
    mailer = ownTransport cred insecure := by
  unfold SmtpSecurity.forSubmissionPort at h
  unfold ownTransport
  split_ifs at h ⊢ with hport
  · obtain ⟨_, -, hmailer⟩ := (bind_eq_ok_iff _ _ _).mp h
    cases hmailer
    rfl
  · cases h
    rfl

section Deliveries

variable {Address : Type}

def NetOp.CarriesPassword : NetOp Address → Prop
  | .imap (.login _ _ _) => True
  | .smtp (.sendRaw _ _ _) => True
  | _ => False

/-- What is opened and handed over goes to the target that the credential names for the purpose:
a login over a connection dialled since the credential was made, a submission through its own
transport. -/
def NetOp.Delivers (cred : MailboxCredential) (insecure : Bool) (since : NetHistory Address) :
    NetOp Address → Prop
  | .imap (.tcpConnect target) => target = cred.imap
  | .imap (.login client username password) => username = cred.username ∧
      password = cred.password ∧ DialledFor cred.imap insecure client (imapPart since)
  | .smtp (.sendRaw mailer _ _) => mailer = ownTransport cred insecure
  | _ => True

theorem imapPart_map (h : ImapHistory) : imapPart (h.map fun e =>
    (⟨.imap e.1, e.2⟩ : Exchange (NetOp Address) NetOp.Answer)) = h := by
  induction h with
  | nil => rfl
  | cons e h ih => exact congrArg (e :: ·) ih

/-- An exchange of a renamed history, with what comes before it. -/
theorem map_split {α β : Type} (f : α → β) (h : List α) (front back : List β) (e : β)
    (hsplit : h.map f = front ++ e :: back) :
    ∃ front' e' back', h = front' ++ e' :: back' ∧ front = front'.map f ∧ e = f e' := by
  obtain ⟨front', rest, rfl, rfl, hrest⟩ := List.map_eq_append_iff.mp hsplit
  obtain ⟨e', back', rfl, rfl, -⟩ := List.map_eq_cons_iff.mp hrest
  exact ⟨front', e', back', rfl, rfl, rfl⟩

variable (crates : Crates Address) (env : Env) (state : AppState)

/-- What an IMAP action delivers, when its logins are its own. -/
theorem delivers_imap {α : Type} (cred : MailboxCredential) (p : ImapProg α)
    (hkeeps : Keeps record (rules (OpeningIsOwn cred (imapSettings env))) p (fun _ _ => True) [])
    (H : NetHistory Address) (x : α)
    (hplays : Plays (p.handle fun q => (call (NetOp.imap q) : NetProg Address _)) H x)
    (front back : NetHistory Address) (e : Exchange (NetOp Address) NetOp.Answer)
    (hsplit : H = front ++ e :: back) :
    e.1.Delivers cred (imapSettings env).tlsInsecure front := by
  obtain ⟨h, hp, rfl⟩ := (plays_relabel NetOp.imap p H x).mp hplays
  obtain ⟨front', ⟨q, y⟩, back', rfl, rfl, rfl⟩ := map_split _ h front back e hsplit
  have hown := legal_split [] front' back' ⟨q, y⟩ (legal_plays hkeeps hp).1
  rw [after_record, List.nil_append] at hown
  cases q with
  | tcpConnect target => exact hown
  | login client username password =>
    change _ ∧ _ ∧ DialledFor _ _ _ (imapPart _)
    rw [imapPart_map]
    exact hown
  | _ => trivial

theorem delivers_send (cred : MailboxCredential) (request : SendRequest)
    (limits : AttachmentLimits) (H : NetHistory Address) (x : Except GatewayError SendResponse)
    (hplays : Plays (netSend crates env cred request limits) H x)
    (e : Exchange (NetOp Address) NetOp.Answer) (he : e ∈ H) (since : NetHistory Address) :
    e.1.Delivers cred (imapSettings env).tlsInsecure since := by
  obtain ⟨H₁, stamp, H₂, hstamp, hsend, rfl⟩ := (plays_bind _ _ _).mp hplays
  obtain rfl := (plays_call _ _).mp hstamp
  rcases List.mem_append.mp he with he | he
  · obtain rfl := List.mem_singleton.mp he
    trivial
  · obtain ⟨h, hp, rfl⟩ := (plays_relabel NetOp.smtp _ H₂ x).mp hsend
    obtain ⟨⟨q, y⟩, hmem, rfl⟩ := List.mem_map.mp he
    cases q with
    | info audit => trivial
    | sendRaw mailer envelope raw =>
      have hs : (⟨mailer, envelope, raw⟩ : Submission Address) ∈ submissions h :=
        List.mem_filterMap.mpr ⟨_, hmem, rfl⟩
      obtain ⟨message, -, hprepared⟩ := submitted _ _ _ _ _ _ _ h x hp _ hs
      exact buildTransport_own crates.lettre cred _ mailer
        (prepared_eq_ok _ _ _ _ _ message _ hprepared).2.2

theorem delivers_action (cred : MailboxCredential) (action : Action) (H : NetHistory Address)
    (x : (action.op state.config.maxAttachmentBytes cred).Answer)
    (hplays : Plays (answerMcp crates env state (action.op state.config.maxAttachmentBytes cred))
      H x)
    (front back : NetHistory Address) (e : Exchange (NetOp Address) NetOp.Answer)
    (hsplit : H = front ++ e :: back) :
    e.1.Delivers cred (imapSettings env).tlsInsecure front := by
  cases action with
  | search request =>
    exact delivers_imap env cred _ (own_doSearch cred _ crates.mail crates.escapes request) H x hplays
      front back e hsplit
  | get request =>
    exact delivers_imap env cred _ (own_doGet cred _ crates.mail request) H x hplays front back e
      hsplit
  | send request =>
    exact delivers_send crates env cred request _ H x hplays e (by rw [hsplit]; simp) front

end Deliveries

section Requests

variable {Address : Type} (crates : Crates Address) (env : Env) (state : AppState)

/-- The headers' credential: their user and password, and their targets where they name any. -/
def MailboxCredential.IsOf (cred : MailboxCredential) (headers : HeaderMap) : Prop :=
  ∃ inline, InlineHeaders.parse headers = .ok inline ∧ cred.username = inline.username ∧
    cred.password = inline.password ∧ (∀ target, inline.imap = some target → cred.imap = target) ∧
    ∀ target, inline.smtp = some target → cred.smtp = target

theorem netCredential_isOf (headers : HeaderMap) (H : NetHistory Address) (cred : MailboxCredential)
    (hplays : Plays (netCredential crates state headers) H (.ok cred)) : cred.IsOf headers := by
  obtain ⟨h, hrequest, -⟩ := (plays_relabel NetOp.credential _ H _).mp hplays
  obtain ⟨inline, hparse, hinto⟩ := plays_ok_except_bind _ _ _ hrequest
  obtain ⟨h', hcred, -⟩ := (plays_handle _ _ _).mp hinto
  obtain ⟨_, found, _, _, _, _, hder⟩ := inline.intoCredential_derivation _ _ h' cred hcred
  have hgiven {header found : Option HostPort} {target given : HostPort}
      (hside : header.or found = some target) (hheader : header = some given) : target = given := by
    rw [hheader] at hside
    exact (Option.some.inj hside).symm
  exact ⟨inline, hparse, hder.username, hder.password, fun _ => hgiven hder.imap,
    fun _ => hgiven hder.smtp⟩

theorem ne_credential_of_carries (q : NetOp Address) (hcarries : q.CarriesPassword)
    (q' : RequestOp) : q ≠ .credential q' := by
  rintro rfl
  exact hcarries

/-- Wherever a run has got to and whatever it was answered: a password that it gives to anyone
is the one of the headers, and it goes to a server of the credential that was made of them. -/
theorem passwords_go_to_own_servers (incoming : Incoming) (H : NetHistory Address)
    (hbegins : Begins (serve crates env state incoming) H) (before later : NetHistory Address)
    (e : Exchange (NetOp Address) NetOp.Answer) (hsplit : H = before ++ e :: later)
    (hcarries : e.1.CarriesPassword) :
    ∃ cred earlier resolved since, before = earlier ++ (resolved ++ since) ∧
      Plays (netCredential crates state incoming.headers) resolved (.ok cred) ∧
      cred.IsOf incoming.headers ∧
      e.1.Delivers cred (imapSettings env).tlsInsecure since := by
  obtain ⟨cred, action, x, earlier, resolved, since, back, hbefore, hresolved, hacted⟩ :=
    begins_acting crates env state incoming H hbegins before later e hsplit
      (ne_credential_of_carries e.1 hcarries)
  refine ⟨cred, earlier, resolved, since, hbefore, hresolved, ?_, ?_⟩
  · exact netCredential_isOf crates state incoming.headers resolved cred hresolved
  · exact delivers_action crates env state cred action _ x hacted since back e rfl

end Requests

/-- A search hands the password over once, in its login. -/
theorem alice_logs_in_at_her_server : ∃ before e later cred earlier resolved since,
    (((serve plainCrates (fun _ => none) plainApp searchIncoming).asked plainAnswer).map fun q =>
      (⟨q, plainAnswer q⟩ : Exchange (NetOp String) NetOp.Answer)) = before ++ e :: later ∧
    e.1.CarriesPassword ∧ before = earlier ++ (resolved ++ since) ∧
    Plays (netCredential plainCrates plainApp aliceHeaders) resolved (.ok cred) ∧
    cred.IsOf aliceHeaders ∧
    e.1.Delivers cred (imapSettings fun _ => none).tlsInsecure since := by
  have hbegins := begins_of_plays
    (plays_run plainAnswer (serve plainCrates (fun _ => none) plainApp searchIncoming))
  obtain ⟨before, e, later, hsplit, hcarries⟩ : ∃ before e later,
      (((serve plainCrates (fun _ => none) plainApp searchIncoming).asked plainAnswer).map fun q =>
        (⟨q, plainAnswer q⟩ : Exchange (NetOp String) NetOp.Answer)) = before ++ e :: later ∧
      e.1.CarriesPassword :=
    ⟨_, _, _, (List.take_append_drop 3 _).symm, trivial⟩
  obtain ⟨cred, earlier, resolved, since, hown⟩ := passwords_go_to_own_servers plainCrates _ plainApp
    searchIncoming _ hbegins before later e hsplit hcarries
  exact ⟨before, e, later, cred, earlier, resolved, since, hsplit, hcarries, hown⟩

end Overfwd
