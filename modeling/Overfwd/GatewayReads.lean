import Overfwd.CredentialUse
import Overfwd.PooledReads
import Overfwd.RequestErrors

namespace Overfwd

open Text Outcome Dialogue Serde

/-- What the provider may answer after `before`, in the states that it is in meanwhile: a handle
is the one that was asked for, and what is said of a mailbox was seen of it. -/
def Provides (complete : Set HostPort) (worlds : Set Mailboxes) (before : ImapHistory) :
    (q : ImapOp) → q.Answer → Prop
  | .tcpConnect target, x => ∀ tcp, x = .ok tcp → tcp.target = target
  | .tlsConnect tcp _ _, x => ∀ stream, x = .ok stream → stream.tcp = tcp
  | .login client username _, x => ∀ session, x = .ok session →
    session.client = client ∧ session.username = username
  | .uidSearch session query, x => ∀ found, x = .ok found → OneCommand query → ∀ mailbox,
    selectedIn session before = some mailbox → ∃ world ∈ worlds, ∃ seen : Mailbox,
      seen.SeenOf (session.client.stream.tcp.target ∈ complete)
        (world session.client.stream.tcp.target session.username mailbox) ∧
      found.toFinset = seen.found query
  | .uidFetch session set items, x => ∀ reply, x = .ok reply → items = FETCH_RAW_QUERY →
    ∀ mailbox, selectedIn session before = some mailbox → ∃ world ∈ worlds, ∃ seen : Mailbox,
      seen.SeenOf (session.client.stream.tcp.target ∈ complete)
        (world session.client.stream.tcp.target session.username mailbox) ∧
      seen.Fetches set reply
  | _, _ => True

def ProvidedBy (complete : Set HostPort) (worlds : Set Mailboxes) (h : ImapHistory) : Prop :=
  ∀ before e later, h = before ++ e :: later → Provides complete worlds before e.1 e.2

section Fresh

variable {complete : Set HostPort} {worlds : Set Mailboxes} {h : ImapHistory}
  (hprovided : ProvidedBy complete worlds h)

include hprovided

theorem provides_mem (e : Exchange ImapOp ImapOp.Answer) (he : e ∈ h) :
    ∃ before, Provides complete worlds before e.1 e.2 := by
  obtain ⟨before, later, rfl⟩ := List.append_of_mem he
  exact ⟨before, hprovided before e later rfl⟩

/-- A client that was dialled for a target is connected to it. -/
theorem target_of_dialledFor (target : HostPort) (insecure : Bool) (client : ImapClient)
    (hdialled : DialledFor target insecure client h) : client.stream.tcp.target = target := by
  obtain ⟨tcp, hmem, hstream⟩ := hdialled
  obtain ⟨_, htarget⟩ := provides_mem hprovided _ hmem
  rw [← htarget tcp rfl]
  cases hmode : TlsMode.forPort target.port with
  | plain =>
    rw [hmode] at hstream
    rw [show client.stream = _ from hstream]
    rfl
  | implicitTls =>
    rw [hmode] at hstream
    obtain ⟨stream, htls, hclient⟩ := hstream
    obtain ⟨_, htcp⟩ := provides_mem hprovided _ htls
    rw [hclient, ← htcp stream rfl]
    rfl

/-- A fresh session is in the account of its credential. -/
theorem account_of_fresh (cred : MailboxCredential) (settings : ImapSettings) (session : ImapSession)
    (h₁ h₂ : ImapHistory) (hsplit : h = h₁ ++ h₂)
    (hplays : Plays (ExceptT.run (connectAndLogin cred settings)) h₁ (.ok session)) :
    session.client.stream.tcp.target = cred.imap ∧ session.username = cred.username := by
  obtain ⟨h₀, client, hl, hconnect, hlogin, rfl⟩ := plays_ok_bind _ _ _ hplays
  obtain rfl := (plays_call _ _).mp (plays_ok_attempt _ _ _ hlogin)
  obtain ⟨_, hsession⟩ := provides_mem hprovided
    ⟨.login client cred.username cred.password, .ok session⟩ (by rw [hsplit]; simp)
  obtain ⟨rfl, husername⟩ := hsession session rfl
  have hdialled := (legal_plays (own_connect cred settings []) hconnect).2 session.client rfl
  rw [after_record, List.nil_append] at hdialled
  refine ⟨target_of_dialledFor hprovided _ _ _ (dialledFor_mono hdialled ?_), husername⟩
  rw [hsplit]
  exact fun e he => List.mem_append_left _ (List.mem_append_left _ he)

/-- A read on a fresh session gives what was seen of the mailbox of its own account. -/
theorem fresh_read_right (parse : MailParser) (call : PoolCall) (hsafe : call.HasSafeKey)
    (r : PoolResult)
    (hplays : Plays (ExceptT.run (onFreshSession call.cred call.settings (call.operation parse)))
      h r) :
    call.action.Right parse (call.cred.views complete call.mailbox worlds) r := by
  have hlegal := (legal_plays (inMailbox_onSession parse call hsafe _
    (asksOnly_mono (connectAndLogin_prepares call.cred call.settings) fun q hq => hq.1)
    (fun session _ => logout session) fun session r => asksOnly_call rfl) hplays).1
  rcases plays_onSession _ _ (fun session _ => logout session) h r hplays with
    ⟨e, hopening, rfl⟩ | ⟨session, h₁, h₂, h₃, hopening, hoperation, -, rfl⟩
  · exact right_of_unopened parse call.action _ e
      (raises_connectAndLogin call.cred call.settings _ _ hopening e rfl)
  · obtain ⟨htarget, husername⟩ := account_of_fresh hprovided call.cred call.settings session h₁ _ rfl
      hopening
    refine operation_right call r hoperation fun e he => ?_
    have hread := asksOnly_plays (operation_asks parse call session) hoperation e he
    obtain ⟨a, b, rfl⟩ := List.append_of_mem he
    -- The exchange among all others, where it is known what is selected.
    have hsplit : h₁ ++ ((a ++ e :: b) ++ h₃) = (h₁ ++ a) ++ e :: (b ++ h₃) := by simp
    have hmailbox := legal_split [] (h₁ ++ a) (b ++ h₃) e (hsplit ▸ hlegal)
    rw [after_record, List.nil_append] at hmailbox
    have htold := hprovided (h₁ ++ a) e (b ++ h₃) hsplit
    obtain ⟨q, x⟩ := e
    cases q with
    | uidSearch session' query =>
      obtain rfl : session' = session := hread
      cases x with
      | error err => trivial
      | ok found =>
        obtain ⟨world, hworld, seen, hseen, hfound⟩ :=
          htold found rfl hmailbox.2 call.mailbox hmailbox.1
        rw [htarget, husername] at hseen
        exact ⟨seen, ⟨world, hworld, hseen⟩, hfound⟩
    | uidFetch session' set items =>
      obtain rfl : session' = session := hread
      cases x with
      | error err => trivial
      | ok reply =>
        obtain ⟨world, hworld, seen, hseen, hfetches⟩ :=
          htold reply rfl hmailbox.2 call.mailbox hmailbox.1
        rw [htarget, husername] at hseen
        exact ⟨seen, ⟨world, hworld, hseen⟩, hfetches⟩
    | _ => trivial

theorem doSearch_right (parse : MailParser) (esc : UnicodeEscapes) (settings : ImapSettings)
    (cred : MailboxCredential) (request : SearchRequest) (hsafe : RawQuerySafe request)
    (response : SearchResponse)
    (hplays : Plays (ExceptT.run (doSearch parse esc settings cred request)) h (.ok response)) :
    ∃ key, request.searchKey esc = .ok key ∧
      ∃ seen ∈ cred.views complete (request.folder.getD DEFAULT_MAILBOX) worlds,
        ∃ seen' ∈ cred.views complete (request.folder.getD DEFAULT_MAILBOX) worlds,
          response = .fromResults (seen.searched parse seen' key request.effectiveLimit) := by
  obtain ⟨key, hkey, hplays⟩ := plays_ok_except_bind _ _ _ hplays
  obtain ⟨h₁, results, h₂, hsearch, hpure, rfl⟩ := plays_ok_bind _ _ _ hplays
  obtain ⟨rfl, hresponse⟩ := (plays_run_pure _ _).mp hpure
  cases hresponse
  rw [List.append_nil] at hprovided
  let read : PoolCall := ⟨cred, settings, request.folder.getD DEFAULT_MAILBOX,
    .search key request.effectiveLimit⟩
  have hread : Plays (ExceptT.run (onFreshSession cred settings (read.operation parse))) h₁
      (.ok (.inl results)) := by
    change Plays (ExceptT.run (onFreshSession cred settings fun session => Sum.inl <$> _)) _ _
    rw [onFreshSession_map, ExceptT.run_map]
    exact (plays_map _ _ _).mpr ⟨_, hsearch, rfl⟩
  have hone : read.HasSafeKey := by
    rintro query limit ⟨⟩
    exact one_command_of_safe esc request hsafe key hkey
  obtain ⟨seen, hseen, seen', hseen', rfl⟩ := fresh_read_right hprovided parse read hone _ hread
  exact ⟨key, hkey, seen, hseen, seen', hseen', rfl⟩

theorem doGet_right (parse : MailParser) (settings : ImapSettings) (cred : MailboxCredential)
    (request : GetRequest) (r : Except GatewayError FullMessage)
    (hplays : Plays (ExceptT.run (doGet parse settings cred request)) h r) :
    (ReadAction.get request.uid).Right parse
      (cred.views complete (request.folder.getD DEFAULT_MAILBOX) worlds) (r.map .inr) := by
  let read : PoolCall := ⟨cred, settings, request.folder.getD DEFAULT_MAILBOX, .get request.uid⟩
  apply fresh_read_right hprovided parse read fun _ _ h => nomatch h
  change Plays (ExceptT.run (onFreshSession cred settings fun session => Sum.inr <$> _)) _ _
  rw [onFreshSession_map, ExceptT.run_map]
  exact (plays_map _ _ _).mpr ⟨r, hplays, rfl⟩

end Fresh

section Replies

variable {Address : Type} (crates : Crates Address) (env : Env) (state : AppState)

/-- What the reply of a REST read tells was seen in the account of the headers: the results of a
search with a safe query, and the message of a get or that there is none. -/
def GatedRequest.Tells (complete : Set HostPort) (worlds : Set Mailboxes) (headers : HeaderMap) :
    GatedRequest → RestReply → Prop
  | .search (.ok request), reply => RawQuerySafe request → reply.status = 200 →
    ∃ cred : MailboxCredential, cred.IsOf headers ∧
      ∃ key, request.searchKey crates.escapes = .ok key ∧
        ∃ seen ∈ cred.views complete (request.folder.getD DEFAULT_MAILBOX) worlds,
          ∃ seen' ∈ cred.views complete (request.folder.getD DEFAULT_MAILBOX) worlds,
            reply.body = (SearchResponse.fromResults
              (seen.searched crates.mail seen' key request.effectiveLimit)).toValue
  | .get (.ok request), reply =>
    (reply.status = 200 → ∃ cred : MailboxCredential, cred.IsOf headers ∧
      ∃ seen ∈ cred.views complete (request.folder.getD DEFAULT_MAILBOX) worlds, ∃ raw,
        seen.message request.uid = some raw ∧
          reply.body = (parseFull crates.mail request.uid raw).toValue) ∧
    (reply.body = (GatewayError.notFound ("no message with uid " ++ toString request.uid)).body →
      ∃ cred : MailboxCredential, cred.IsOf headers ∧
        ∃ seen ∈ cred.views complete (request.folder.getD DEFAULT_MAILBOX) worlds,
          seen.message request.uid = none)
  | _, _ => True

/-- The body of an error tells which error it is. -/
theorem body_injective (e e' : GatewayError) (h : e.body = e'.body) : e = e' := by
  unfold GatewayError.body at h
  have hfields := Value.object.inj h
  have hcode : e.code = e'.code := Value.string.inj (Prod.mk.inj (List.cons.inj hfields).1).2
  have hmessage : e.message = e'.message :=
    Value.string.inj (Prod.mk.inj (List.cons.inj (List.cons.inj hfields).2).1).2
  cases e with
  | _ m =>
    cases e' with
    | _ m' =>
      first
        | exact congrArg _ hmessage
        | exact absurd hcode (by simp [GatewayError.code])

/-- An error that is not of the mailbox tells nothing of it. -/
theorem tells_error (complete : Set HostPort) (worlds : Set Mailboxes) (headers : HeaderMap)
    (request : GatedRequest) (e : GatewayError) (he : e.code ≠ "not_found") :
    request.Tells crates complete worlds headers e.intoResponse := by
  cases request with
  | search body =>
    cases body with
    | error err => trivial
    | ok request => exact fun _ hstatus => absurd hstatus (error_status_ne e)
  | get body =>
    cases body with
    | error err => trivial
    | ok request =>
      refine ⟨fun hstatus => absurd hstatus (error_status_ne e), fun hbody => ?_⟩
      rw [body_injective e _ hbody] at he
      exact absurd rfl he
  | send body => trivial
  | mcp body => trivial

theorem imapPart_append (H H' : NetHistory Address) :
    imapPart (H ++ H') = imapPart H ++ imapPart H' := List.filterMap_append

/-- Resolving a credential opens no mailbox. -/
theorem imapPart_credential (headers : HeaderMap) (H : NetHistory Address)
    (r : Except GatewayError MailboxCredential)
    (hplays : Plays (netCredential crates state headers) H r) : imapPart H = [] := by
  obtain ⟨h, -, rfl⟩ := (plays_relabel NetOp.credential _ H _).mp hplays
  apply List.filterMap_eq_nil_iff.mpr
  intro e he
  obtain ⟨d, -, rfl⟩ := List.mem_map.mp he
  rfl

/-- What a read asks of the network is an IMAP conversation. -/
theorem plays_imap {α : Type} (p : ImapProg α) (H : NetHistory Address) (r : α)
    (hplays : Plays (p.handle fun q => (call (NetOp.imap q) : NetProg Address _)) H r) :
    Plays p (imapPart H) r := by
  obtain ⟨h, hp, rfl⟩ := (plays_relabel NetOp.imap p H r).mp hplays
  rw [imapPart_map]
  exact hp

/-- A request whose body could be read fails for want of a credential, or its action runs
under the credential. -/
theorem plays_under_credential {α β : Type} (headers : HeaderMap) (request : α)
    (act : MailboxCredential → α → RestProg β) (h : McpHistory) (r : Except GatewayError β)
    (hplays : Plays (ExceptT.run (do
      let credential ← Routes.resolveCredential headers
      let request ← (liftM (Except.ok request : Except GatewayError α) : RestProg α)
      act credential request)) h r)
    (H : NetHistory Address) (hlayered : Layered (answerMcp crates env state) h H) :
    (∃ e, Plays (netCredential crates state headers) H (.error e) ∧ r = .error e) ∨
      ∃ cred H₁ H₂ h', Plays (netCredential crates state headers) H₁ (.ok cred) ∧
        Plays (act cred request).run h' r ∧ Layered (answerMcp crates env state) h' H₂ ∧
        H = H₁ ++ H₂ := by
  rcases plays_credential_first headers _ _ hplays with ⟨e, rfl, rfl⟩ | ⟨cred, e, hbody, -, -⟩ |
    ⟨cred, request', h', hbody, rfl, hact⟩
  · exact .inl ⟨e, (layered_one (McpOp.resolveCredential headers) _ _).mp hlayered, rfl⟩
  · cases hbody
  · cases hbody
    obtain ⟨H₁, H₂, hresolved, hrest, rfl⟩ := (layered_cons _ _ _ _).mp hlayered
    exact .inr ⟨cred, H₁, H₂, h', hresolved, hact, hrest, rfl⟩

/-- Of a failed credential nothing is said to be missing. -/
theorem netCredential_ne_notFound (headers : HeaderMap) (H : NetHistory Address) (e : GatewayError)
    (hplays : Plays (netCredential crates state headers) H (.error e)) : e.code ≠ "not_found" := by
  intro hcode
  rcases netCredential_fails crates state headers H e hplays with he | ⟨he, -⟩
  · unfold GatewayError.OneOf at he
    rw [hcode] at he
    exact absurd he (by decide)
  · rw [hcode] at he
    exact absurd he (by decide)

section Handlers

variable (complete : Set HostPort) (worlds : Set Mailboxes) (headers : HeaderMap) (h : McpHistory)
  (reply : RestReply) (H : NetHistory Address)
  (hlayered : Layered (answerMcp crates env state) h H)
  (hprovided : ProvidedBy complete worlds (imapPart H))

include hlayered hprovided

theorem search_tells (request : SearchRequest)
    (hplays : Plays (Routes.respond SearchResponse.toValue <$>
      (Routes.search headers (.ok request)).run) h reply) :
    (GatedRequest.search (.ok request)).Tells crates complete worlds headers reply := by
  obtain ⟨r, hrun, rfl⟩ := (plays_map _ _ _).mp hplays
  rcases plays_under_credential crates env state headers request Routes.doSearch h r hrun H hlayered
    with ⟨e, hfailed, rfl⟩ | ⟨cred, H₁, H₂, h', hresolved, hact, hrest, rfl⟩
  · exact tells_error crates complete worlds headers _ e
      (netCredential_ne_notFound crates state headers H e hfailed)
  · obtain rfl := (plays_call _ _).mp hact
    rw [imapPart_append, imapPart_credential crates state headers H₁ _ hresolved,
      List.nil_append] at hprovided
    cases r with
    | error e => exact fun _ hstatus => absurd hstatus (error_status_ne e)
    | ok response =>
      intro hsafe _
      obtain ⟨key, hkey, seen, hseen, seen', hseen', rfl⟩ := doSearch_right hprovided crates.mail
        crates.escapes (imapSettings env) cred request hsafe response
        (plays_imap _ H₂ _ ((layered_one (McpOp.search cred request) _ _).mp hrest))
      exact ⟨cred, netCredential_isOf crates state headers H₁ cred hresolved, key, hkey, seen, hseen,
        seen', hseen', rfl⟩

theorem get_tells (request : GetRequest)
    (hplays : Plays (Routes.respond FullMessage.toValue <$>
      (Routes.get headers (.ok request)).run) h reply) :
    (GatedRequest.get (.ok request)).Tells crates complete worlds headers reply := by
  obtain ⟨r, hrun, rfl⟩ := (plays_map _ _ _).mp hplays
  rcases plays_under_credential crates env state headers request Routes.doGet h r hrun H hlayered
    with ⟨e, hfailed, rfl⟩ | ⟨cred, H₁, H₂, h', hresolved, hact, hrest, rfl⟩
  · exact tells_error crates complete worlds headers _ e
      (netCredential_ne_notFound crates state headers H e hfailed)
  · obtain rfl := (plays_call _ _).mp hact
    rw [imapPart_append, imapPart_credential crates state headers H₁ _ hresolved,
      List.nil_append] at hprovided
    have hisOf := netCredential_isOf crates state headers H₁ cred hresolved
    have hright := doGet_right hprovided crates.mail (imapSettings env) cred request r
      (plays_imap _ H₂ _ ((layered_one (McpOp.get cred request) _ _).mp hrest))
    cases r with
    | ok message =>
      obtain ⟨seen, hseen, raw, hraw, rfl⟩ := hright
      refine ⟨fun _ => ⟨cred, hisOf, seen, hseen, raw, hraw, rfl⟩, fun hbody => ?_⟩
      have hmember := (List.cons.inj (Value.object.inj hbody)).1
      exact absurd (Prod.mk.inj hmember).1 (by decide)
    | error e =>
      refine ⟨fun hstatus => absurd hstatus (error_status_ne e), fun hbody => ?_⟩
      obtain rfl := body_injective e _ hbody
      exact ⟨cred, hisOf, hright rfl⟩

end Handlers

end Replies

/-- A provider with one mailbox, whatever it is called. -/
def boxAnswer (box : Mailbox) : (q : ImapOp) → q.Answer
  | .uidSearch _ query => .ok (box.search query)
  | .uidFetch _ set _ => .ok (box.fetch set)
  | q => expungedAnswer q

theorem boxAnswer_provides (complete : Set HostPort) (box : Mailbox) (before : ImapHistory)
    (q : ImapOp) : Provides complete {fun _ _ _ => some box} before q (boxAnswer box q) := by
  cases q with
  | tcpConnect target =>
    rintro tcp ⟨⟩
    rfl
  | tlsConnect tcp host insecure =>
    rintro stream ⟨⟩
    rfl
  | login client username password =>
    rintro session ⟨⟩
    exact ⟨rfl, rfl⟩
  | uidSearch session query =>
    rintro found ⟨⟩ - mailbox -
    exact ⟨_, rfl, box, seenOf_self box _, search_toFinset box query⟩
  | uidFetch session set items =>
    rintro reply ⟨⟩ - mailbox -
    exact ⟨_, rfl, box, seenOf_self box _, fetches_fetch box set⟩
  | _ => trivial

/-- Mailboxes with one message, the third. -/
def thirdMessage : Mailbox where
  message uid := if uid = 3 then some (bytes "Subject: hello\r\n\r\n") else none
  found _ := {3}

def getIncoming : Incoming where
  headers := aliceHeaders
  request := .get (.ok ⟨none, 3⟩)

def thirdAnswer : (q : NetOp String) → q.Answer
  | .imap q => boxAnswer thirdMessage q
  | q => plainAnswer q

theorem thirdAnswer_provides (complete : Set HostPort) (asked : List (NetOp String)) :
    ProvidedBy complete {fun _ _ _ => some thirdMessage}
      (imapPart (asked.map fun q => ⟨q, thirdAnswer q⟩)) := by
  intro before e later hsplit
  have hmem : e ∈ before ++ e :: later := by simp
  rw [← hsplit] at hmem
  obtain ⟨d, hd, he⟩ := List.mem_filterMap.mp hmem
  obtain ⟨q, -, rfl⟩ := List.mem_map.mp hd
  cases q with
  | imap q =>
    cases he
    exact boxAnswer_provides complete thirdMessage before q
  | _ => cases he

end Overfwd
