import Overfwd.MailService
import Overfwd.Visits

namespace Overfwd

open Text Outcome Dialogue

/-- Where a conversation stands; a connection that is given up is closed. -/
inductive ImapState
  | closed
  | connected (target : HostPort) (tcp : TcpStream)
  | secured (stream : TlsStream)
  | greeted (client : ImapClient)
  | authenticated (session : ImapSession)
  | selected (session : ImapSession) (mailbox : String)
  deriving DecidableEq

namespace ImapState

def session? : ImapState → Option ImapSession
  | authenticated session => some session
  | selected session _ => some session
  | _ => none

/-- What may be asked next: a handshake with the host that was dialled on the ports of
implicit TLS and nowhere else, nothing before the greeting, no SEARCH or FETCH outside of a
mailbox. -/
def Legal : ImapState → ImapOp → Prop
  | closed, .tcpConnect _ => True
  | connected target tcp, .tlsConnect tcp' host _ =>
    TlsMode.forPort target.port = .implicitTls ∧ tcp' = tcp ∧ host = target.host
  | connected target tcp, .readResponse client =>
    TlsMode.forPort target.port = .plain ∧ client.stream = .plain tcp
  | secured stream, .readResponse client => client.stream = .tls stream
  | greeted client, .login client' _ _ => client' = client
  | authenticated session, .select session' _ => session' = session
  | selected session _, .uidSearch session' _ => session' = session
  | selected session _, .uidFetch session' _ _ => session' = session
  | s, .logout session _ => s.session? = some session
  | _, _ => False

def next (s : ImapState) : (q : ImapOp) → q.Answer → ImapState
  | .tcpConnect target, .ok tcp => connected target tcp
  | .tcpConnect _, .error _ => closed
  | .tlsConnect _ _ _, .ok stream => secured stream
  | .tlsConnect _ _ _, .error _ => closed
  | .readResponse client, some (.ok _) => greeted client
  | .readResponse _, _ => closed
  | .login _ _ _, .ok session => authenticated session
  | .login _ _ _, .error _ => closed
  | .select session mailbox, .ok _ => selected session mailbox
  | .logout _ _, _ => closed
  | _, _ => s

/-- The state that an attempt to get at `α` leaves: where it got to, or nowhere. -/
def reached {α : Type} (state : α → ImapState) : Except GatewayError α → ImapState
  | .ok a => state a
  | .error _ => closed

end ImapState

/-- Only an IMAP conversation has a state, and nothing else is asked while one is open. -/
def NetOp.Legal {Address : Type} : ImapState → NetOp Address → Prop
  | s, .imap q => s.Legal q
  | s, _ => s = .closed

def NetOp.next {Address : Type} (s : ImapState) : (q : NetOp Address) → q.Answer → ImapState
  | .imap q, x => s.next q x
  | _, _ => s

section Opening

/-- The stream is plain or under TLS as the port has it. -/
theorem legal_openStream (target : HostPort) (tcp : TcpStream) (insecure : Bool) :
    Keeps ImapState.next (rules ImapState.Legal)
      (ExceptT.run (openStream tcp (TlsMode.forPort target.port) target.host insecure))
      (fun r s => match r with
        | .ok stream => ∀ client : ImapClient, client.stream = stream → s.Legal (.readResponse client)
        | .error _ => s = .closed) (.connected target tcp) := by
  unfold openStream
  cases hmode : TlsMode.forPort target.port with
  | plain =>
    dsimp only
    rw [keeps_run_pure]
    exact fun client hclient => ⟨hmode, hclient⟩
  | implicitTls =>
    dsimp only
    unfold tlsHandshake
    rw [keeps_fallible_bind, keeps_attempt, keeps_call]
    refine ⟨⟨hmode, rfl, rfl⟩, fun x _ => ?_⟩
    cases x with
    | error e => exact rfl
    | ok stream =>
      dsimp only [Except.mapError]
      rw [keeps_run_pure]
      exact fun client hclient => hclient

theorem legal_readGreeting (client : ImapClient) (s : ImapState)
    (hlegal : s.Legal (.readResponse client)) :
    Keeps ImapState.next (rules ImapState.Legal) (ExceptT.run (readGreeting client))
      (fun r s => s = ImapState.reached (fun _ => .greeted client) r) s := by
  unfold readGreeting
  rw [keeps_fallible_bind, keeps_lift, keeps_call]
  refine ⟨hlegal, fun x _ => ?_⟩
  dsimp only
  rw [keeps_fallible_bind, keeps_except]
  rcases x with _ | e | _
  · rfl
  · exact (keeps_except _ _ _ _ _).mpr rfl
  · exact (keeps_except _ _ _ _ _).mpr rfl

theorem legal_connect (target : HostPort) (insecure : Bool) :
    Keeps ImapState.next (rules ImapState.Legal)
      (ExceptT.run (connect target (TlsMode.forPort target.port) insecure))
      (fun r s => s = ImapState.reached .greeted r) .closed := by
  unfold connect
  rw [keeps_fallible_bind, keeps_attempt, keeps_call]
  refine ⟨trivial, fun x _ => ?_⟩
  cases x with
  | error e => exact rfl
  | ok tcp =>
    dsimp only [Except.mapError]
    rw [keeps_fallible_bind]
    apply keeps_mono _ _ (legal_openStream target tcp insecure)
    intro r s hstream
    cases r with
    | error e => exact hstream
    | ok stream =>
      dsimp only
      rw [keeps_fallible_bind]
      apply keeps_mono _ _ (legal_readGreeting { stream := stream } s (hstream _ rfl))
      rintro r s rfl
      cases r with
      | error e => rfl
      | ok _ =>
        dsimp only
        rw [keeps_run_pure]
        rfl

theorem legal_connectAndLogin (cred : MailboxCredential) (settings : ImapSettings) :
    Keeps ImapState.next (rules ImapState.Legal) (ExceptT.run (connectAndLogin cred settings))
      (fun r s => s = ImapState.reached .authenticated r) .closed := by
  unfold connectAndLogin
  rw [keeps_fallible_bind]
  apply keeps_mono _ _ (legal_connect cred.imap settings.tlsInsecure)
  rintro r s rfl
  cases r with
  | error e => rfl
  | ok client =>
    dsimp only
    unfold login
    rw [keeps_attempt, keeps_call]
    refine ⟨rfl, fun x _ => ?_⟩
    cases x with
    | error e => rfl
    | ok session => rfl

end Opening

section Operations

variable (session : ImapSession) (mailbox : String)

/-- A SELECT that fails leaves no mailbox selected. -/
theorem legal_select :
    Keeps ImapState.next (rules ImapState.Legal) (ExceptT.run (select session mailbox))
      (fun r s => match r with
        | .ok _ => s = .selected session mailbox
        | .error _ => s = .authenticated session) (.authenticated session) := by
  unfold select
  rw [keeps_attempt, keeps_call]
  refine ⟨rfl, fun x _ => ?_⟩
  cases x with
  | error e => rfl
  | ok _ => rfl

/-- What only peeks is legal in a mailbox and leaves it selected. -/
theorem legal_peeks {α : Type} {asked : String → Prop} {p : ImapAction α}
    (hP : AsksOnly (ImapOp.Peeks session asked) (ExceptT.run p)) :
    Keeps ImapState.next (rules ImapState.Legal) (ExceptT.run p)
      (fun _ s => s = .selected session mailbox) (.selected session mailbox) := by
  apply keeps_frame _ _ hP
  · intro q hq
    cases q with
    | uidSearch session' query => exact hq.1
    | uidFetch session' set items => exact hq.1
    | _ => exact hq.elim
  · intro q x hq
    cases q with
    | uidSearch session' query => rfl
    | uidFetch session' set items => rfl
    | _ => exact hq.elim

/-- An operation selects its mailbox and then only peeks. -/
theorem legal_operation {α : Type} (asked : String → Prop) (rest : ImapAction α)
    (hrest : AsksOnly (ImapOp.Peeks session asked) (ExceptT.run rest)) :
    Keeps ImapState.next (rules ImapState.Legal)
      (ExceptT.run (do
        select session mailbox
        rest))
      (fun _ s => s.session? = some session) (.authenticated session) := by
  rw [keeps_fallible_bind]
  apply keeps_mono _ _ (legal_select session mailbox)
  intro r s hselect
  cases r with
  | error e =>
    dsimp only at hselect ⊢
    rw [hselect]
    rfl
  | ok _ =>
    dsimp only at hselect ⊢
    rw [hselect]
    apply keeps_mono _ _ (legal_peeks session mailbox hrest)
    rintro r s rfl
    rfl

end Operations

/-- Whatever the operation's outcome, the conversation is closed at its end. -/
theorem legal_onFreshSession {α : Type} (cred : MailboxCredential) (settings : ImapSettings)
    (operation : ImapSession → ImapAction α)
    (hoperation : ∀ session, Keeps ImapState.next (rules ImapState.Legal)
      (ExceptT.run (operation session)) (fun _ s => s.session? = some session)
      (.authenticated session)) :
    Keeps ImapState.next (rules ImapState.Legal)
      (ExceptT.run (onFreshSession cred settings operation)) (fun _ s => s = .closed) .closed := by
  unfold onFreshSession
  rw [keeps_fallible_bind]
  apply keeps_mono _ _ (legal_connectAndLogin cred settings)
  rintro r s rfl
  cases r with
  | error e => rfl
  | ok session =>
    dsimp only [ImapState.reached]
    rw [keeps_fallible_bind, keeps_lift]
    apply keeps_mono _ _ (hoperation session)
    intro result s hsession
    dsimp only
    rw [keeps_fallible_bind, keeps_lift]
    -- LOGOUT is legal whether or not the operation got as far as a mailbox.
    unfold logout
    rw [keeps_call]
    refine ⟨?_, fun _ _ => ?_⟩
    · cases s with
      | authenticated session' => exact hsession
      | selected session' mailbox => exact hsession
      | _ => cases hsession
    · dsimp only
      rw [keeps_except]
      rfl

section Requests

variable {Address : Type} (crates : Crates Address) (env : Env) (state : AppState)

theorem legal_doSearch (parse : MailParser) (esc : UnicodeEscapes) (settings : ImapSettings)
    (cred : MailboxCredential) (request : SearchRequest) :
    Keeps ImapState.next (rules ImapState.Legal)
      (ExceptT.run (doSearch parse esc settings cred request)) (fun _ s => s = .closed) .closed := by
  unfold doSearch search
  rw [keeps_fallible_bind, keeps_except]
  cases request.searchKey esc with
  | error e => rfl
  | ok key =>
    dsimp only
    rw [keeps_fallible_bind]
    have hsearch := legal_onFreshSession cred settings
      (fun session => searchOn parse session (request.folder.getD DEFAULT_MAILBOX) key
        request.effectiveLimit) fun session => legal_operation session _ (· = key) _
          (asksOnly_fallible_bind (uidSearch_peeks session key rfl) fun _ =>
            fetchSelected_peeks session parse _ _)
    apply keeps_mono _ _ hsearch
    rintro r s rfl
    cases r with
    | error e => rfl
    | ok found => exact (keeps_run_pure _ _ _ _ _).mpr rfl

theorem legal_doGet (parse : MailParser) (settings : ImapSettings) (cred : MailboxCredential)
    (request : GetRequest) :
    Keeps ImapState.next (rules ImapState.Legal)
      (ExceptT.run (doGet parse settings cred request)) (fun _ s => s = .closed) .closed := by
  unfold doGet get
  apply legal_onFreshSession
  intro session
  apply legal_operation session _ fun _ => False
  refine asksOnly_fallible_bind (uidFetchRaw_peeks session _) fun raws => ?_
  exact asksOnly_fallible_bind (asksOnly_except _) fun msg => asksOnly_pure _

/-- Outside of an IMAP conversation anything may be asked, and none is begun. -/
theorem legal_elsewhere {α : Type} {p : NetProg Address α}
    (hP : AsksOnly (fun q => ∀ op, q ≠ .imap op) p) :
    Keeps NetOp.next (rules NetOp.Legal) p (fun _ s => s = .closed) .closed := by
  apply keeps_frame _ _ hP
  · intro q hq
    cases q with
    | imap op => exact absurd rfl (hq op)
    | _ => rfl
  · intro q x hq
    cases q with
    | imap op => exact absurd rfl (hq op)
    | _ => rfl

/-- What the gateway asks for elsewhere than of an IMAP server. -/
theorem netCredential_elsewhere (headers : HeaderMap) :
    AsksOnly (fun q => ∀ op, q ≠ .imap op) (netCredential crates state headers) :=
  asksOnly_handle _ (asksOnly_true _) fun _ _ => asksOnly_call fun _ h => nomatch h

theorem netSend_elsewhere (cred : MailboxCredential) (request : SendRequest)
    (limits : AttachmentLimits) :
    AsksOnly (fun q => ∀ op, q ≠ .imap op) (netSend crates env cred request limits) := by
  refine asksOnly_bind (asksOnly_call fun _ h => nomatch h) fun stamp => ?_
  exact asksOnly_handle _ (asksOnly_true _) fun _ _ => asksOnly_call fun _ h => nomatch h

theorem legal_answerMcp (q : McpOp) :
    Keeps NetOp.next (rules NetOp.Legal) (answerMcp crates env state q) (fun _ s => s = .closed)
      .closed := by
  cases q with
  | resolveCredential headers => exact legal_elsewhere (netCredential_elsewhere crates state headers)
  | search cred request =>
    exact keeps_relabel NetOp.imap (fun _ _ h => h) (fun _ _ _ => rfl)
      (legal_doSearch crates.mail crates.escapes _ cred request)
  | get cred request =>
    exact keeps_relabel NetOp.imap (fun _ _ h => h) (fun _ _ _ => rfl)
      (legal_doGet crates.mail _ cred request)
  | send cred request limits =>
    exact legal_elsewhere (netSend_elsewhere crates env cred request limits)

/-- Whatever a request holds and whatever the servers answer, every question is legal where
it is asked, and a request that is answered has closed its conversations. A SEARCH is one
question here, whatever its text. -/
theorem conversations_legal (incoming : Incoming) (H : NetHistory Address) :
    (Begins (serve crates env state incoming) H → Legal NetOp.Legal NetOp.next .closed H) ∧
      ∀ reply, Plays (serve crates env state incoming) H reply →
        after NetOp.next .closed H = .closed := by
  have hkeeps := serve_keeps crates env state incoming NetOp.next (rules NetOp.Legal)
    (fun s => s = .closed) (fun q s hs => hs ▸ legal_answerMcp crates env state q) .closed rfl
  exact ⟨legal_begins hkeeps, fun reply hplays => (legal_plays hkeeps hplays).2⟩

end Requests

/-- A search holds one conversation, from its dial to its LOGOUT. -/
theorem search_converses_legally :
    let p := serve plainCrates (fun _ => none) plainApp searchIncoming
    let H := (p.asked plainAnswer).map fun q => (⟨q, plainAnswer q⟩ : Exchange _ NetOp.Answer)
    Legal NetOp.Legal NetOp.next .closed H ∧ after NetOp.next .closed H = .closed := by
  intro p H
  have hplays := plays_run plainAnswer p
  obtain ⟨hlegal, hclosed⟩ :=
    conversations_legal plainCrates (fun _ => none) plainApp searchIncoming H
  exact ⟨hlegal (begins_of_plays hplays), hclosed _ hplays⟩

end Overfwd
