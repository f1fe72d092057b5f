import Overfwd.Lib.Custody
import Overfwd.Pool

namespace Overfwd

open Text Outcome Dialogue Custody

/-- The session a question is about. -/
def ImapOp.session? : ImapOp → Option ImapSession
  | .select session _ => some session
  | .uidSearch session _ => some session
  | .uidFetch session _ _ => some session
  | .noop session _ => some session
  | .logout session _ => some session
  | .put _ session _ _ _ => some session
  | _ => none

/-- The session a command of the call runs on. -/
def ImapOp.serving? : ImapOp → Option ImapSession
  | .select session _ => some session
  | .uidSearch session _ => some session
  | .uidFetch session _ _ => some session
  | .noop session _ => some session
  | _ => none

theorem session_of_serving (q : ImapOp) (session : ImapSession)
    (h : q.serving? = some session) : q.session? = some session := by
  cases q with
  | select session' mailbox => exact h
  | uidSearch session' query => exact h
  | uidFetch session' set query => exact h
  | noop session' timeout => exact h
  | _ => cases h

/-- What a question hands over: a session is given back or given up. -/
def ImapOp.gives : ImapOp → Multiset ImapSession
  | .logout session _ => {session}
  | .put _ session _ _ _ => {session}
  | _ => 0

/-- What an answer hands to the thread. -/
def ImapOp.gets : (q : ImapOp) → q.Answer → Multiset ImapSession
  | .login _ _ _, .ok session => {session}
  | .take _ _ _, (hit, expired) => (hit.toList : Multiset ImapSession) + expired
  | .put _ _ _ _ _, dead => dead
  | _, _ => 0

/-- A session outside of the threads is idle or discarded. -/
def sessionLedger : Ledger ImapOp ImapOp.Answer PoolState ImapSession where
  gives := ImapOp.gives
  gets := ImapOp.gets
  created s := s.opened
  outside s := s.reservoir.idle + s.discarded

/-- The terms on which a call with `cred` may ask: it logs in with its own credential, and
takes and gives back under its own key. -/
def OnOwnTerms (sha256 : Sha256) (config : PoolConfig) (cred : MailboxCredential)
    (own : ImapSession → Prop) : ImapOp → Prop
  | .tlsConnect tcp _ _ => tcp.target = cred.imap
  | .login client username password => client.stream.tcp.target = cred.imap ∧
      username = cred.username ∧ password = cred.password
  | .take key _ _ => key = .fromCred sha256 cred
  | .put key session _ _ maxIdle =>
    key = .fromCred sha256 cred ∧ own session ∧ maxIdle = config.maxIdle
  | _ => True

/-- A call asks only about sessions it holds and runs commands only on sessions that are
its own. -/
def poolContract (sha256 : Sha256) (config : PoolConfig) (cred : MailboxCredential)
    (own : ImapSession → Prop) : Contract ImapOp ImapOp.Answer (Multiset ImapSession) where
  allowed g q := (∀ session, q.session? = some session → session ∈ g) ∧
    (∀ session, q.serving? = some session → own session) ∧ OnOwnTerms sha256 config cred own q
  expects _ q x := match q with
    | .tcpConnect target => ∀ tcp, x = .ok tcp → tcp.target = target
    | .tlsConnect tcp _ _ => ∀ stream, x = .ok stream → stream.tcp = tcp
    | .login _ _ _ => ∀ session, x = .ok session → own session
    | .take _ _ _ => ∀ session, x.1 = some session → own session
    | _ => True

/-- The questions of a read on one session. -/
def ImapOp.IsReadOn (session : ImapSession) : ImapOp → Prop
  | .select session' _ => session' = session
  | .uidSearch session' _ => session' = session
  | .uidFetch session' _ _ => session' = session
  | _ => False

section Reads

variable (session : ImapSession) (mailbox : String)

theorem select_asks : AsksOnly (ImapOp.IsReadOn session) (ExceptT.run (select session mailbox)) :=
  asksOnly_attempt _ (asksOnly_call rfl)

theorem uidFetchRaw_asks (uids : List Uid) :
    AsksOnly (ImapOp.IsReadOn session) (ExceptT.run (uidFetchRaw session uids)) := by
  unfold uidFetchRaw
  cases uids with
  | nil => exact asksOnly_pure _
  | cons uid uids =>
    apply asksOnly_fallible_bind
    · exact asksOnly_attempt _ (asksOnly_call rfl)
    · exact fun fetches => asksOnly_pure _

theorem fetchSelected_asks (parse : MailParser) (total : ℕ) (uids : List Uid) :
    AsksOnly (ImapOp.IsReadOn session)
      (ExceptT.run (fetchSelected parse session total uids)) := by
  unfold fetchSelected
  cases uids with
  | nil => exact asksOnly_pure _
  | cons uid uids =>
    apply asksOnly_fallible_bind
    · exact uidFetchRaw_asks session _
    · exact fun raws => asksOnly_pure _

theorem searchOn_asks (parse : MailParser) (query : String) (limit : ℕ) :
    AsksOnly (ImapOp.IsReadOn session)
      (ExceptT.run (searchOn parse session mailbox query limit)) := by
  apply asksOnly_fallible_bind
  · exact select_asks session mailbox
  · intro _
    apply asksOnly_fallible_bind
    · apply asksOnly_fallible_bind
      · exact asksOnly_attempt _ (asksOnly_call rfl)
      · exact fun found => asksOnly_pure _
    · exact fun uids => fetchSelected_asks session parse _ _

theorem getOn_asks (parse : MailParser) (uid : Uid) :
    AsksOnly (ImapOp.IsReadOn session) (ExceptT.run (getOn parse session mailbox uid)) := by
  apply asksOnly_fallible_bind
  · exact select_asks session mailbox
  · intro _
    apply asksOnly_fallible_bind
    · exact uidFetchRaw_asks session _
    · intro raws
      apply asksOnly_fallible_bind
      · exact asksOnly_except _
      · exact fun msg => asksOnly_pure _

end Reads

section Keeping

variable (sha256 : Sha256) (config : PoolConfig) (cred : MailboxCredential)
  (own : ImapSession → Prop)

/-- A question that is about no session. -/
theorem allowed_of_sessionless (g : Multiset ImapSession) (q : ImapOp)
    (hsession : q.session? = none) (hterms : OnOwnTerms sha256 config cred own q) :
    (poolContract sha256 config cred own).allowed g q := by
  refine ⟨fun session h => ?_, fun session h => ?_, hterms⟩
  · rw [hsession] at h
    cases h
  · have habout := session_of_serving q session h
    rw [hsession] at habout
    cases habout

/-- A question about a session that the call holds; a command also needs it to be its own. -/
theorem allowed_of_held (g : Multiset ImapSession) (session : ImapSession) (q : ImapOp)
    (hsession : q.session? = some session) (hown : q.serving? = some session → own session)
    (hterms : OnOwnTerms sha256 config cred own q) :
    (poolContract sha256 config cred own).allowed (session ::ₘ g) q := by
  refine ⟨fun session' h => ?_, fun session' h => ?_, hterms⟩
  · rw [hsession] at h
    cases h
    exact Multiset.mem_cons_self _ _
  · have habout := session_of_serving q session' h
    rw [hsession] at habout
    cases habout
    exact hown h

/-- A question that is about no session and moves none. -/
theorem keeps_sessionless (q : ImapOp) (post : q.Answer → Multiset ImapSession → Prop)
    (g : Multiset ImapSession) (hsession : q.session? = none)
    (hterms : OnOwnTerms sha256 config cred own q) (hgives : q.gives = 0)
    (hgets : ∀ x, q.gets x = 0)
    (hpost : ∀ x, (poolContract sha256 config cred own).expects g q x → post x g) :
    Keeps sessionLedger.next (poolContract sha256 config cred own) (ask q) post g := by
  rw [keeps_call]
  refine ⟨allowed_of_sessionless sha256 config cred own g q hsession hterms, fun x hx => ?_⟩
  rw [sessionLedger.next_eq_self g q x hgives (hgets x)]
  exact hpost x hx

/-- Logging out gives the session up, whatever time it is given. -/
theorem keeps_logout (session : ImapSession) (timeout : Option ℕ) (g : Multiset ImapSession) :
    Keeps sessionLedger.next (poolContract sha256 config cred own)
      (ask (.logout session timeout)) (fun _ g' => g' = g) (session ::ₘ g) := by
  rw [keeps_call]
  constructor
  · exact allowed_of_held sha256 config cred own g session _ rfl (fun h => (nomatch h)) trivial
  · intro _ _
    change (session ::ₘ g) - {session} + 0 = g
    rw [Multiset.sub_singleton, Multiset.erase_cons_head, add_zero]

theorem keeps_closeAll (sessions : List ImapSession) (g : Multiset ImapSession) :
    Keeps sessionLedger.next (poolContract sha256 config cred own) (closeAll sessions)
      (fun _ g' => g' = g) ((sessions : Multiset ImapSession) + g) := by
  -- The sessions are held on top of `g`, and each logout takes the first one off.
  induction sessions with
  | nil =>
    unfold closeAll
    rw [keeps_pure]
    exact zero_add g
  | cons session sessions ih =>
    unfold closeAll
    rw [keeps_bind, ← Multiset.cons_coe, Multiset.cons_add]
    apply keeps_mono _ _ (keeps_logout sha256 config cred own session _ _)
    intro _ g' hg'
    rw [hg']
    exact ih

/-- What a call has taken hold of: a session of its own on top of `g`, or nothing. -/
def Obtained (g : Multiset ImapSession) (found : Option ImapSession)
    (g' : Multiset ImapSession) : Prop :=
  (∀ session, found = some session → own session) ∧
    g' = (found.toList : Multiset ImapSession) + g

theorem obtained_none (g : Multiset ImapSession) : Obtained own g none g :=
  ⟨fun _ h => (Option.some_ne_none _ h.symm).elim, (zero_add g).symm⟩

theorem obtained_some (g : Multiset ImapSession) (session : ImapSession) (hown : own session) :
    Obtained own g (some session) (session ::ₘ g) := by
  refine ⟨fun session' h => ?_, (Multiset.singleton_add _ _).symm⟩
  cases h
  exact hown

/-- A dead candidate is closed and not replaced. -/
theorem keeps_checkLive (candidate : Option ImapSession) (g g' : Multiset ImapSession)
    (hobtained : Obtained own g candidate g') :
    Keeps sessionLedger.next (poolContract sha256 config cred own) (checkLive candidate)
      (Obtained own g) g' := by
  cases candidate with
  | none =>
    unfold checkLive
    rw [keeps_pure]
    exact hobtained
  | some session =>
    obtain ⟨hown, hg'⟩ := hobtained
    have hheld : g' = session ::ₘ g := hg'.trans (Multiset.singleton_add _ _)
    have hsession : own session := hown session rfl
    have hdead : Keeps sessionLedger.next (poolContract sha256 config cred own)
        (close session >>= fun _ => pure none) (Obtained own g) (session ::ₘ g) := by
      rw [keeps_bind]
      apply keeps_mono _ _ (keeps_logout sha256 config cred own session _ g)
      intro _ g'' hg''
      rw [keeps_pure, hg'']
      exact obtained_none own g
    unfold checkLive
    rw [keeps_bind, keeps_call, hheld]
    constructor
    · exact allowed_of_held sha256 config cred own g session _ rfl (fun _ => hsession) trivial
    · intro x _
      rw [sessionLedger.next_eq_self _ _ _ rfl rfl]
      rcases x with _ | e | _
      · exact hdead
      · exact hdead
      · dsimp only
        rw [keeps_pure]
        exact obtained_some own g session hsession

theorem keeps_takeWarm (g : Multiset ImapSession) :
    Keeps sessionLedger.next (poolContract sha256 config cred own) (takeWarm sha256 config cred)
      (Obtained own g) g := by
  unfold takeWarm
  rcases config.isEnabled with _ | _
  · rw [if_pos (by decide), keeps_pure]
    exact obtained_none own g
  · rw [if_neg (by decide), keeps_bind]
    apply keeps_sessionless sha256 config cred own .now _ g rfl trivial rfl (fun _ => rfl)
    intro now _
    rw [keeps_bind, keeps_call]
    refine ⟨allowed_of_sessionless _ _ _ _ _ _ rfl rfl, fun x hexpects => ?_⟩
    obtain ⟨candidate, expired⟩ := x
    have hobtained : Obtained own g candidate ((candidate.toList : Multiset ImapSession) + g) :=
      ⟨hexpects, rfl⟩
    -- The expired ones come along with the candidate and are closed first.
    have hheld : sessionLedger.next g (.take (.fromCred sha256 cred) now config.idleTtl)
        (candidate, expired) =
        (expired : Multiset ImapSession) + ((candidate.toList : Multiset ImapSession) + g) := by
      change g - 0 + ((candidate.toList : Multiset ImapSession) + expired) = _
      rw [tsub_zero]
      abel
    rw [hheld]
    dsimp only
    rw [keeps_bind]
    apply keeps_mono _ _ (keeps_closeAll sha256 config cred own expired _)
    intro _ g' hg'
    rw [hg']
    exact keeps_checkLive sha256 config cred own candidate g _ hobtained

theorem keeps_giveBack (session : ImapSession) (g : Multiset ImapSession) (hown : own session) :
    Keeps sessionLedger.next (poolContract sha256 config cred own)
      (giveBack sha256 config cred session) (fun _ g' => g' = g) (session ::ₘ g) := by
  unfold giveBack
  rcases config.isEnabled with _ | _
  · rw [if_pos (by decide)]
    exact keeps_logout sha256 config cred own session _ g
  · rw [if_neg (by decide), keeps_bind]
    apply keeps_sessionless sha256 config cred own .now _ _ rfl trivial rfl (fun _ => rfl)
    intro now _
    rw [keeps_bind, keeps_call]
    constructor
    · exact allowed_of_held sha256 config cred own g session _ rfl (fun h => (nomatch h))
        ⟨rfl, hown, rfl⟩
    · intro evicted _
      have hheld : sessionLedger.next (session ::ₘ g)
          (.put (.fromCred sha256 cred) session now config.idleTtl config.maxIdle) evicted =
          (evicted : Multiset ImapSession) + g := by
        change (session ::ₘ g) - {session} + (evicted : Multiset ImapSession) = _
        rw [Multiset.sub_singleton, Multiset.erase_cons_head, add_comm]
      rw [hheld]
      exact keeps_closeAll sha256 config cred own evicted g

theorem keeps_release {α : Type} (session : ImapSession) (result : Except GatewayError α)
    (g : Multiset ImapSession) (hown : own session) :
    Keeps sessionLedger.next (poolContract sha256 config cred own)
      (release sha256 config cred session result) (fun _ g' => g' = g) (session ::ₘ g) := by
  unfold release
  cases result with
  | ok a => exact keeps_giveBack sha256 config cred own session g hown
  | error e =>
    dsimp only
    rcases isTransportError e with _ | _
    · rw [if_neg (by decide)]
      exact keeps_giveBack sha256 config cred own session g hown
    · rw [if_pos rfl]
      exact keeps_logout sha256 config cred own session none g

/-- A connection that is opened leads to the target that was asked for. -/
theorem keeps_openStream (tcp : TcpStream) (tls : TlsMode) (host : String) (insecure : Bool)
    (g : Multiset ImapSession) (htcp : tcp.target = cred.imap) :
    Keeps sessionLedger.next (poolContract sha256 config cred own)
      (ExceptT.run (openStream tcp tls host insecure))
      (fun r g' => (∀ stream, r = .ok stream → stream.tcp = tcp) ∧ g' = g) g := by
  unfold openStream
  cases tls with
  | plain =>
    dsimp only
    rw [keeps_run_pure]
    exact ⟨yields_ok rfl, rfl⟩
  | implicitTls =>
    dsimp only
    unfold tlsHandshake
    rw [keeps_fallible_bind, keeps_attempt]
    apply keeps_sessionless sha256 config cred own (.tlsConnect tcp host insecure) _ g rfl htcp rfl
      (fun _ => rfl)
    intro x hexpects
    cases x with
    | error e => exact ⟨yields_error _ _, rfl⟩
    | ok stream =>
      dsimp only [Except.mapError]
      rw [keeps_run_pure]
      exact ⟨yields_ok (hexpects stream rfl), rfl⟩

theorem keeps_readGreeting (client : ImapClient) (g : Multiset ImapSession) :
    Keeps sessionLedger.next (poolContract sha256 config cred own)
      (ExceptT.run (readGreeting client)) (fun _ g' => g' = g) g := by
  have hasks : AsksOnly (fun q => q = .readResponse client) (ExceptT.run (readGreeting client)) := by
    apply asksOnly_fallible_bind
    · exact asksOnly_lift (asksOnly_call rfl)
    · intro response
      apply asksOnly_fallible_bind
      · exact asksOnly_except _
      · exact fun greeting => asksOnly_except _
  apply keeps_frame _ _ hasks g
  · rintro q rfl
    exact allowed_of_sessionless _ _ _ _ _ _ rfl trivial
  · rintro q x rfl
    exact sessionLedger.next_eq_self _ _ _ rfl rfl

theorem keeps_connect (tls : TlsMode) (tlsInsecure : Bool) (g : Multiset ImapSession) :
    Keeps sessionLedger.next (poolContract sha256 config cred own)
      (ExceptT.run (connect cred.imap tls tlsInsecure))
      (fun r g' => (∀ client, r = .ok client → client.stream.tcp.target = cred.imap) ∧ g' = g)
      g := by
  unfold connect
  rw [keeps_fallible_bind, keeps_attempt]
  apply keeps_sessionless sha256 config cred own (.tcpConnect cred.imap) _ g rfl trivial rfl
    (fun _ => rfl)
  intro x hexpects
  cases x with
  | error e => exact ⟨yields_error _ _, rfl⟩
  | ok tcp =>
    have htcp : tcp.target = cred.imap := hexpects tcp rfl
    dsimp only [Except.mapError]
    rw [keeps_fallible_bind]
    apply keeps_mono _ _ (keeps_openStream sha256 config cred own tcp tls _ _ g htcp)
    rintro r g' ⟨hstream, rfl⟩
    cases r with
    | error e => exact ⟨yields_error _ _, rfl⟩
    | ok stream =>
      dsimp only
      rw [keeps_fallible_bind]
      apply keeps_mono _ _ (keeps_readGreeting sha256 config cred own { stream := stream } g')
      rintro r g'' rfl
      cases r with
      | error e => exact ⟨yields_error _ _, rfl⟩
      | ok _ =>
        dsimp only
        rw [keeps_run_pure]
        have htarget : stream.tcp.target = cred.imap := by
          rw [hstream stream rfl]
          exact htcp
        exact ⟨yields_ok htarget, rfl⟩

/-- A login that succeeds opens a session for the call; one that fails opens none. -/
theorem keeps_connectAndLogin (settings : ImapSettings) (g : Multiset ImapSession) :
    Keeps sessionLedger.next (poolContract sha256 config cred own)
      (ExceptT.run (connectAndLogin cred settings)) (fun r g' => Obtained own g r.toOption g')
      g := by
  unfold connectAndLogin
  rw [keeps_fallible_bind]
  apply keeps_mono _ _ (keeps_connect sha256 config cred own _ _ g)
  rintro r g' ⟨hclient, rfl⟩
  cases r with
  | error e => exact obtained_none own g'
  | ok client =>
    dsimp only
    unfold login
    rw [keeps_attempt, keeps_call]
    refine ⟨allowed_of_sessionless _ _ _ _ _ _ rfl ⟨hclient client rfl, rfl, rfl⟩,
      fun x hexpects => ?_⟩
    -- The handle is made by the login, so before it the call had nothing to give up.
    cases x with
    | error e =>
      rw [sessionLedger.next_eq_self _ _ _ rfl rfl]
      exact obtained_none own g'
    | ok session =>
      have hheld : sessionLedger.next g' (.login client cred.username cred.password)
          (.ok session) = session ::ₘ g' := by
        change g' - 0 + {session} = _
        rw [tsub_zero, add_comm, Multiset.singleton_add]
      rw [hheld]
      exact obtained_some own g' session (hexpects session rfl)

theorem keeps_acquire (settings : ImapSettings) (g : Multiset ImapSession) :
    Keeps sessionLedger.next (poolContract sha256 config cred own)
      (ExceptT.run (acquire sha256 config cred settings))
      (fun r g' => Obtained own g r.toOption g') g := by
  unfold acquire
  rw [keeps_fallible_bind, keeps_lift]
  apply keeps_mono _ _ (keeps_takeWarm sha256 config cred own g)
  intro found g' hobtained
  cases found with
  | some session =>
    dsimp only
    rw [keeps_run_pure]
    exact hobtained
  | none =>
    have hg' : g' = g := hobtained.2.trans (zero_add g)
    rw [hg']
    exact keeps_connectAndLogin sha256 config cred own settings g

theorem allowed_of_read (g : Multiset ImapSession) (session : ImapSession) (q : ImapOp)
    (hown : own session) (hread : q.IsReadOn session) :
    (poolContract sha256 config cred own).allowed (session ::ₘ g) q := by
  have hsession : q.session? = some session ∧ OnOwnTerms sha256 config cred own q := by
    cases q with
    | select session' mailbox => exact ⟨congrArg some hread, trivial⟩
    | uidSearch session' query => exact ⟨congrArg some hread, trivial⟩
    | uidFetch session' set query => exact ⟨congrArg some hread, trivial⟩
    | _ => exact hread.elim
  obtain ⟨habout, hterms⟩ := hsession
  exact allowed_of_held sha256 config cred own g session q habout (fun _ => hown) hterms

theorem read_moves_nothing (session : ImapSession) (q : ImapOp) (hread : q.IsReadOn session)
    (x : q.Answer) : q.gives = 0 ∧ q.gets x = 0 := by
  cases q with
  | select session' mailbox => exact ⟨rfl, rfl⟩
  | uidSearch session' query => exact ⟨rfl, rfl⟩
  | uidFetch session' set query => exact ⟨rfl, rfl⟩
  | _ => exact hread.elim

/-- Whatever comes of the operation, nothing is held after it. -/
theorem keeps_onPooledSession {α : Type} (settings : ImapSettings)
    (operation : ImapSession → ImapAction α)
    (hreads : ∀ session, AsksOnly (ImapOp.IsReadOn session) (ExceptT.run (operation session)))
    (g : Multiset ImapSession) :
    Keeps sessionLedger.next (poolContract sha256 config cred own)
      (ExceptT.run (onPooledSession sha256 config cred settings operation))
      (fun _ g' => g' = g) g := by
  unfold onPooledSession
  rw [keeps_fallible_bind]
  apply keeps_mono _ _ (keeps_acquire sha256 config cred own settings g)
  intro r g' hobtained
  cases r with
  | error e =>
    exact hobtained.2.trans (zero_add g)
  | ok session =>
    have hown : own session := hobtained.1 session rfl
    have hheld : g' = session ::ₘ g := hobtained.2.trans (Multiset.singleton_add _ _)
    dsimp only
    rw [keeps_fallible_bind, keeps_lift, hheld]
    have hread : Keeps sessionLedger.next (poolContract sha256 config cred own)
        (ExceptT.run (operation session)) (fun _ g' => g' = session ::ₘ g) (session ::ₘ g) := by
      apply keeps_frame _ _ (hreads session)
      · exact fun q hq => allowed_of_read sha256 config cred own g session q hown hq
      · exact fun q x hq => sessionLedger.next_eq_self _ _ _ (read_moves_nothing session q hq x).1
          (read_moves_nothing session q hq x).2
    apply keeps_mono _ _ hread
    -- `release` is reached with the session still held, on success and on error alike.
    rintro result g₁ rfl
    dsimp only
    rw [keeps_fallible_bind, keeps_lift]
    apply keeps_mono _ _ (keeps_release sha256 config cred own session result g hown)
    rintro _ g₂ rfl
    dsimp only
    rw [keeps_except]

end Keeping

end Overfwd
