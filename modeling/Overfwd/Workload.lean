import Mathlib.Data.Multiset.OrderedMonoid
import Overfwd.CredentialTargets
import Overfwd.Visits

namespace Overfwd

open Text Outcome Net Dialogue

/-- What others have to do for a request. -/
inductive Work
  | get
  | srv
  | mx
  | lookup
  | connect
  | handshake
  | greeting
  | login
  | select
  | search
  | fetch
  | logout
  | submission
  deriving DecidableEq

/-- The cache and the clock are the gateway's own. -/
def ResolverOp.work : ResolverOp → Multiset Work
  | .get _ => {.get}
  | .srv _ => {.srv}
  | .mx _ => {.mx}
  | .cacheGet _ | .now | .cacheInsert _ _ => 0

def RequestOp.work : RequestOp → Multiset Work
  | .resolver q => q.work
  | .lookup _ => {.lookup}

/-- The requests of the gateway take nothing from the pool, whose questions cost nothing. -/
def ImapOp.work : ImapOp → Multiset Work
  | .tcpConnect _ => {.connect}
  | .tlsConnect _ _ _ => {.handshake}
  | .readResponse _ => {.greeting}
  | .login _ _ _ => {.login}
  | .select _ _ => {.select}
  | .uidSearch _ _ => {.search}
  | .uidFetch _ _ _ => {.fetch}
  | .logout _ _ => {.logout}
  | .noop _ _ | .now | .take _ _ _ | .put _ _ _ _ _ => 0

def SendOp.work {Address : Type} : SendOp Address → Multiset Work
  | .sendRaw _ _ _ => {.submission}
  | .info _ => 0

def NetOp.work {Address : Type} : NetOp Address → Multiset Work
  | .credential q => q.work
  | .imap q => q.work
  | .stamp => 0
  | .smtp q => q.work

/-- Three documents of the domain and three of its exchanger's, two names for each side. -/
def resolveWork : Multiset Work := 6 • {.get} + 4 • {.srv} + {.mx}

def credentialWork : Multiset Work := resolveWork + 2 • {.lookup}

def openingWork : Multiset Work := {.connect, .handshake, .greeting, .login}

def readWork : Multiset Work := openingWork + {.select, .search, .fetch} + {.logout}

/-- One credential and one action. -/
def visitWork : Multiset Work := credentialWork + (readWork + {.submission})

section Resolver

variable (fromStr : XmlReader)

theorem within_httpLadderFrom (acc : MailServers) (urls : List String) :
    Within ResolverOp.work (urls.length • {Work.get}) (httpLadderFrom fromStr acc urls) := by
  induction urls generalizing acc with
  | nil => exact within_done acc (Multiset.zero_le _)
  | cons url urls ih =>
    unfold httpLadderFrom
    refine within_ite (fun _ => within_done acc (Multiset.zero_le _)) fun _ => ?_
    rw [List.length_cons, succ_nsmul']
    refine within_bind (within_call (ResolverOp.get url)) fun x => ?_
    rcases x with e | _ | body
    · exact ih acc
    · exact ih acc
    · dsimp only
      cases parseAutoconfig fromStr body with
      | none => exact ih acc
      | some found => exact ih (acc.mergeFrom found)

theorem within_httpLadder (domain : String) (email : Option String) :
    Within ResolverOp.work (3 • {Work.get}) (httpLadder fromStr (httpConfigUrls domain email)) :=
  within_httpLadderFrom fromStr .default (httpConfigUrls domain email)

theorem within_srvSide (implicitTls starttls domain : String) :
    Within ResolverOp.work (2 • {Work.srv}) (srvSide implicitTls starttls domain) := by
  have hcall (name : String) : Within ResolverOp.work {Work.srv} (srvRecords name) :=
    within_call (ResolverOp.srv name)
  rw [two_nsmul]
  refine within_bind (hcall _) fun records => ?_
  cases records.head? with
  | some r => exact within_done _ (Multiset.zero_le _)
  | none =>
    rw [← add_zero ({Work.srv} : Multiset Work)]
    exact within_bind (hcall _) fun records => within_pure _

theorem within_srvLookup (domain : String) :
    Within ResolverOp.work (4 • {Work.srv}) (srvLookup domain) := by
  have hpure (servers : MailServers) :
      Within ResolverOp.work 0 (pure servers : ResolverProg MailServers) := within_pure servers
  have hsides := within_bind (within_srvSide "_imaps._tcp." "_imap._tcp." domain) fun imap =>
    within_bind (within_srvSide "_submissions._tcp." "_submission._tcp." domain) fun smtp =>
      hpure { imap := imap, smtp := smtp }
  exact within_mono hsides (by decide)

theorem within_mxAutoconfig (domain : String) :
    Within ResolverOp.work ({.mx} + 3 • {.get}) (mxAutoconfig fromStr domain) := by
  have hcall : Within ResolverOp.work {Work.mx} (mxExchangers domain) :=
    within_call (ResolverOp.mx domain)
  refine within_bind hcall fun exchangers => ?_
  cases exchangers.head? with
  | none => exact within_done _ (Multiset.zero_le _)
  | some exchanger =>
    refine within_ite (fun _ => within_done _ (Multiset.zero_le _)) fun _ => ?_
    exact within_httpLadder fromStr _ none

theorem within_rung (acc : MailServers) {next : ResolverProg MailServers} {budget : Multiset Work}
    (hnext : Within ResolverOp.work budget next) :
    Within ResolverOp.work budget (rung acc next) := by
  refine within_ite (fun _ => within_done acc (Multiset.zero_le _)) fun _ => ?_
  rw [← add_zero budget]
  exact within_bind hnext fun found => within_pure _

theorem within_runLadder (domain : String) (email : Option String) :
    Within ResolverOp.work resolveWork (runLadder fromStr domain email) := by
  have hladder := within_bind (within_httpLadder fromStr domain email)
    fun http => within_bind (within_rung (MailServers.default.mergeFrom http)
      (within_srvLookup domain)) fun acc => within_rung acc (within_mxAutoconfig fromStr domain)
  exact within_mono hladder (by decide)

variable (settings : AutoconfigSettings)

/-- The cache costs nobody else anything. -/
theorem within_cachePut (domain : String) (value : Option MailServers) :
    Within ResolverOp.work 0 (cachePut settings domain value) := by
  rw [← add_zero (0 : Multiset Work)]
  exact within_bind (within_call ResolverOp.now) fun now => within_call (ResolverOp.cacheInsert _ _)

theorem within_resolve (domain : String) (email : Option String) :
    Within ResolverOp.work resolveWork (resolve fromStr settings domain email) := by
  unfold resolve resolveCached
  dsimp only
  refine within_ite (fun _ => within_done _ (Multiset.zero_le _)) fun _ => ?_
  rw [← zero_add resolveWork]
  refine within_bind (within_call (ResolverOp.cacheGet _)) fun hit => ?_
  cases hit with
  | some hit => exact within_done _ (Multiset.zero_le _)
  | none =>
    rw [← add_zero resolveWork]
    refine within_bind (within_runLadder fromStr _ email) fun resolved => ?_
    rw [← add_zero (0 : Multiset Work)]
    exact within_bind (within_cachePut settings _ _) fun _ => within_pure _

end Resolver

section Credential

/-- An autoconfiguration costs what its resolver does. -/
def CredentialOp.work : CredentialOp → Multiset Work
  | .resolve _ _ => resolveWork
  | .lookup _ => {.lookup}

theorem within_endpointCheck (enabled : Bool) (source : String) (target : HostPort) :
    Within CredentialOp.work {Work.lookup} (ExceptT.run (endpointCheck enabled source target)) := by
  have hdone (x : Except GatewayError Unit) :
      Within CredentialOp.work ({Work.lookup} : Multiset Work)
        (pure x : Prog CredentialOp CredentialOp.Answer _) := within_done x (Multiset.zero_le _)
  unfold endpointCheck
  split_ifs
  · exact hdone _
  · dsimp only
    cases parseIp (bareHost target.host) with
    | some ip =>
      dsimp only
      split_ifs
      · exact hdone _
      · exact hdone _
    | none =>
      dsimp only
      split_ifs
      · exact hdone _
      · rw [← add_zero ({Work.lookup} : Multiset Work)]
        refine within_fallible_bind (within_lift (within_call (CredentialOp.lookup _)))
          (fun answer => ?_) le_rfl
        cases answer with
        | error e => exact within_throw _
        | ok addrs =>
          dsimp only
          split_ifs
          · exact within_throw _
          · exact within_throw _
          · exact within_pure _

variable (h : InlineHeaders) (autoconfigEnabled guardEnabled : Bool)

theorem within_vetted (imapSource smtpSource : String) (imap smtp : HostPort) :
    Within CredentialOp.work (2 • {Work.lookup})
      (ExceptT.run (h.vetted guardEnabled imapSource smtpSource imap smtp)) := by
  have hpair : (2 • {Work.lookup} : Multiset Work) = {Work.lookup} + ({Work.lookup} + 0) := by decide
  rw [hpair]
  refine within_fallible_bind (within_endpointCheck _ _ _) (fun _ => ?_) (Multiset.zero_le _)
  refine within_fallible_bind (within_endpointCheck _ _ _) (fun _ => ?_) le_rfl
  exact within_pure _

/-- One autoconfiguration at most, and the guard's lookups for the two targets. -/
theorem within_intoCredential :
    Within CredentialOp.work credentialWork
      (ExceptT.run (h.intoCredential autoconfigEnabled guardEnabled)) := by
  have hpos : (0 : Multiset Work) ≤ 2 • {Work.lookup} := Multiset.zero_le _
  by_cases hboth : h.hasBoth
  · obtain ⟨imap, himap⟩ := Option.isSome_iff_exists.mp hboth.1
    obtain ⟨smtp, hsmtp⟩ := Option.isSome_iff_exists.mp hboth.2
    rw [h.intoCredential_both autoconfigEnabled guardEnabled imap smtp himap hsmtp]
    exact within_mono (within_vetted h guardEnabled _ _ imap smtp) (by decide)
  · rw [h.intoCredential_missing autoconfigEnabled guardEnabled hboth]
    split_ifs
    · exact within_done _ (Multiset.zero_le _)
    · unfold InlineHeaders.derived
      refine within_except_bind _ (fun domain _ => ?_) (Multiset.zero_le _)
      refine within_fallible_bind (within_lift (within_call (CredentialOp.resolve _ _)))
        (fun answer => ?_) hpos
      refine within_except_bind _ (fun servers _ => ?_) hpos
      refine within_except_bind _ (fun imap _ => ?_) hpos
      exact within_except_bind _ (fun smtp _ => within_vetted h guardEnabled _ _ imap smtp) hpos

theorem within_answerCredential (fromStr : XmlReader) (settings : AutoconfigSettings)
    (q : CredentialOp) : Within RequestOp.work q.work (answerCredential fromStr settings q) := by
  cases q with
  | resolve domain email =>
    exact within_handle (within_resolve fromStr settings domain email) fun q =>
      within_call (RequestOp.resolver q)
  | lookup host => exact within_call (RequestOp.lookup host)

theorem within_netCredential {Address : Type} (crates : Crates Address) (state : AppState)
    (headers : HeaderMap) :
    Within NetOp.work credentialWork (netCredential crates state headers) := by
  have hrequest : Within RequestOp.work credentialWork (ExceptT.run (requestCredential crates.xml
      state.autoconfig.settings state.autoconfig.enabled state.endpoints.enabled headers)) := by
    unfold requestCredential
    refine within_except_bind _ (fun inline _ => ?_) (Multiset.zero_le _)
    exact within_handle (within_intoCredential inline _ _) (within_answerCredential _ _)
  exact within_handle hrequest fun q => within_call (NetOp.credential q)

end Credential

section Actions

variable {Address : Type}

/-- The steps to a session, each of which may be the last. -/
theorem within_connectAndLogin (cred : MailboxCredential) (settings : ImapSettings) :
    Within ImapOp.work openingWork (ExceptT.run (connectAndLogin cred settings)) := by
  have hstream (tcp : TcpStream) (tls : TlsMode) (host : String) (insecure : Bool) :
      Within ImapOp.work {Work.handshake} (ExceptT.run (openStream tcp tls host insecure)) := by
    cases tls with
    | plain => exact within_done _ (Multiset.zero_le _)
    | implicitTls =>
      rw [← add_zero ({Work.handshake} : Multiset Work)]
      exact within_fallible_bind (within_attempt _ (within_call (ImapOp.tlsConnect _ _ _)))
        (fun stream => within_pure _) le_rfl
  have hgreeting (client : ImapClient) :
      Within ImapOp.work {Work.greeting} (ExceptT.run (readGreeting client)) := by
    rw [← add_zero ({Work.greeting} : Multiset Work)]
    refine within_fallible_bind (within_lift (within_call (ImapOp.readResponse client)))
      (fun response => ?_) le_rfl
    exact within_except_bind _ (fun greeting _ => within_except _) le_rfl
  have hconnect (target : HostPort) (tls : TlsMode) (insecure : Bool) :
      Within ImapOp.work ({Work.connect} + ({Work.handshake} + ({Work.greeting} + 0)))
        (ExceptT.run (connect target tls insecure)) := by
    refine within_fallible_bind (within_attempt _ (within_call (ImapOp.tcpConnect _)))
      (fun tcp => ?_) (Multiset.zero_le _)
    refine within_fallible_bind (hstream _ _ _ _) (fun stream => ?_) (Multiset.zero_le _)
    exact within_fallible_bind (hgreeting _) (fun _ => within_pure _) le_rfl
  have hlogin := within_fallible_bind
    (hconnect cred.imap (TlsMode.forPort cred.imap.port) settings.tlsInsecure)
    (fun client => within_attempt mapLoginErr
      (within_call (ImapOp.login client cred.username cred.password))) (Multiset.zero_le _)
  exact within_mono hlogin (by decide)

theorem within_uidFetchRaw (session : ImapSession) (uids : List Uid) :
    Within ImapOp.work {Work.fetch} (ExceptT.run (uidFetchRaw session uids)) := by
  unfold uidFetchRaw
  split_ifs
  · exact within_done _ (Multiset.zero_le _)
  · rw [← add_zero ({Work.fetch} : Multiset Work)]
    exact within_fallible_bind (within_attempt _ (within_call (ImapOp.uidFetch _ _ _)))
      (fun fetches => within_pure _) le_rfl

theorem within_select (session : ImapSession) (mailbox : String) :
    Within ImapOp.work {Work.select} (ExceptT.run (select session mailbox)) :=
  within_attempt _ (within_call (ImapOp.select session mailbox))

variable (parse : MailParser)

theorem within_searchOn (session : ImapSession) (mailbox query : String) (limit : ℕ) :
    Within ImapOp.work {.select, .search, .fetch}
      (ExceptT.run (searchOn parse session mailbox query limit)) := by
  have hfetch (total : ℕ) (uids : List Uid) :
      Within ImapOp.work {Work.fetch} (ExceptT.run (fetchSelected parse session total uids)) := by
    unfold fetchSelected
    split_ifs
    · exact within_done _ (Multiset.zero_le _)
    · rw [← add_zero ({Work.fetch} : Multiset Work)]
      exact within_fallible_bind (within_uidFetchRaw session uids) (fun raws => within_pure _) le_rfl
  have hsearch : Within ImapOp.work ({Work.search} + 0) (ExceptT.run (uidSearch session query)) :=
    within_fallible_bind (within_attempt _ (within_call (ImapOp.uidSearch session query)))
      (fun uids => within_pure _) le_rfl
  have hall := within_fallible_bind (within_select session mailbox) (fun _ =>
    within_fallible_bind hsearch (fun uids => hfetch (selectNewest uids limit).1
      (selectNewest uids limit).2) (Multiset.zero_le _)) (Multiset.zero_le _)
  exact within_mono hall (by decide)

theorem within_getOn (session : ImapSession) (mailbox : String) (uid : Uid) :
    Within ImapOp.work {.select, .search, .fetch}
      (ExceptT.run (getOn parse session mailbox uid)) := by
  have hall : Within ImapOp.work ({Work.select} + ({Work.fetch} + 0))
      (ExceptT.run (getOn parse session mailbox uid)) := by
    refine within_fallible_bind (within_select session mailbox) (fun _ => ?_) (Multiset.zero_le _)
    refine within_fallible_bind (within_uidFetchRaw session [uid]) (fun raws => ?_) le_rfl
    exact within_except_bind _ (fun msg _ => within_pure _) le_rfl
  exact within_mono hall (by decide)

/-- A session is opened, used and closed. -/
theorem within_onFreshSession {α : Type} (cred : MailboxCredential) (settings : ImapSettings)
    (operation : ImapSession → ImapAction α)
    (hoperation : ∀ session, Within ImapOp.work {.select, .search, .fetch}
      (ExceptT.run (operation session))) :
    Within ImapOp.work readWork (ExceptT.run (onFreshSession cred settings operation)) := by
  have hall := within_fallible_bind (within_connectAndLogin cred settings) (fun session =>
    within_fallible_bind (within_lift (hoperation session)) (fun result =>
      within_fallible_bind (within_lift (within_call (ImapOp.logout session none)))
        (fun _ => within_except result) le_rfl) (Multiset.zero_le _)) (Multiset.zero_le _)
  exact within_mono hall (by decide)

end Actions

section Requests

variable {Address : Type} (crates : Crates Address) (env : Env) (state : AppState)

theorem within_doSend (lettre : Lettre Address) (builder : MailBuilder)
    (tlsInsecure : Option String) (stamp : MimeStamp) (cred : MailboxCredential)
    (request : SendRequest) (limits : AttachmentLimits) :
    Within SendOp.work {Work.submission}
      (ExceptT.run (doSend lettre builder tlsInsecure stamp cred request limits)) := by
  have hpos : (0 : Multiset Work) ≤ {Work.submission} := Multiset.zero_le _
  refine within_except_bind _ (fun message _ => ?_) hpos
  rw [← add_zero ({Work.submission} : Multiset Work)]
  refine within_fallible_bind ?_ (fun _ => ?_) le_rfl
  · refine within_except_bind _ (fun envelope _ => ?_) hpos
    refine within_except_bind _ (fun raw _ => ?_) hpos
    refine within_except_bind _ (fun mailer _ => ?_) hpos
    exact within_attempt _ (within_call (SendOp.sendRaw mailer envelope raw))
  · rw [← add_zero (0 : Multiset Work)]
    exact within_fallible_bind (within_lift (within_call (SendOp.info _)))
      (fun _ => within_pure _) le_rfl

theorem within_action (cred : MailboxCredential) (action : Action) :
    Within NetOp.work (readWork + {Work.submission})
      (answerMcp crates env state (action.op state.config.maxAttachmentBytes cred)) := by
  have hread {α : Type} (p : ImapProg α) (hp : Within ImapOp.work readWork p) :
      Within NetOp.work (readWork + {Work.submission})
        (p.handle fun q => (call (NetOp.imap q) : NetProg Address _)) :=
    within_mono (within_handle hp fun q => within_call (NetOp.imap q))
      (Multiset.le_add_right _ _)
  cases action with
  | search request =>
    apply hread
    unfold doSearch search
    refine within_except_bind _ (fun key _ => ?_) (Multiset.zero_le _)
    rw [← add_zero readWork]
    refine within_fallible_bind ?_ (fun found => within_pure _) le_rfl
    exact within_onFreshSession cred _ _ fun session => within_searchOn crates.mail session _ _ _
  | get request =>
    apply hread
    unfold doGet get
    exact within_onFreshSession cred _ _ fun session => within_getOn crates.mail session _ _
  | send request =>
    have hstamp : Within NetOp.work 0 (call NetOp.stamp : NetProg Address MimeStamp) :=
      within_call NetOp.stamp
    have hsend := within_bind hstamp fun stamp =>
      within_handle (within_doSend crates.lettre crates.builder (env ENV_TLS_INSECURE) stamp cred
        request (.withMaxTotalBytes state.config.maxAttachmentBytes)) fun q =>
          within_call (NetOp.smtp q)
    rw [zero_add] at hsend
    exact within_mono hsend (Multiset.le_add_left _ _)

theorem spent_visit (headers : HeaderMap) (asks : Action → Prop) (H : NetHistory Address)
    (hvisit : NetVisit crates env state headers asks H) : spent NetOp.work H ≤ visitWork := by
  cases hvisit with
  | credential _ r hresolved =>
    exact (within_netCredential crates state headers H r hresolved).trans
      (Multiset.le_add_right _ _)
  | acted H₁ H₂ cred action hasks x hresolved hacted =>
    rw [spent_append]
    exact add_le_add (within_netCredential crates state headers H₁ _ hresolved)
      (within_action crates env state cred action H₂ x hacted)

/-- Whatever a request holds and whatever the servers answer, and also when it is given up
midway: it has done no more work for its messages than so many visits take. A SEARCH is one
command here, whatever its text. -/
theorem request_work_bounded (incoming : Incoming) (H : NetHistory Address)
    (hbegins : Begins (serve crates env state incoming) H) :
    spent NetOp.work H ≤ incoming.request.messages crates.json • visitWork := by
  obtain ⟨H', reply, hplays⟩ := hbegins
  have hwhole := pieces_spent (spent_visit crates env state incoming.headers _)
    (Multiset.zero_le _) (serve_visits crates env state incoming _ reply hplays)
  rw [spent_append] at hwhole
  exact (Multiset.le_add_right _ _).trans hwhole

end Requests

/-- A search that gets all the way to its summaries. -/
theorem search_work_bounded :
    spent NetOp.work (((serve plainCrates (fun _ => none) plainApp searchIncoming).asked
      plainAnswer).map fun q => (⟨q, plainAnswer q⟩ : Exchange _ NetOp.Answer)) ≤ 1 • visitWork :=
  request_work_bounded plainCrates (fun _ => none) plainApp searchIncoming _
    (begins_of_plays (plays_run plainAnswer _))

end Overfwd
