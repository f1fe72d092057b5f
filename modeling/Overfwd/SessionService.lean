import Overfwd.ErrorHandling
import Overfwd.Lib.Overlay

namespace Overfwd

open Text Outcome Dialogue

/-- The client was opened as the settings say. -/
def ImapClient.OpenedFor (cred : MailboxCredential) (settings : ImapSettings)
    (client : ImapClient) : Prop :=
  match TlsMode.forPort cred.imap.port with
  | .plain => ∃ tcp, client.stream = .plain tcp
  | .implicitTls => ∃ tcp, client.stream = .tls ⟨tcp, cred.imap.host, settings.tlsInsecure⟩

/-- A command failed otherwise than by a rejection of its arguments. -/
def ImapOp.faulted : (q : ImapOp) → q.Answer → Bool
  | .select _ _, .error err => !err.kind.isRejection
  | .uidSearch _ _, .error err => !err.kind.isRejection
  | .uidFetch _ _ _, .error err => !err.kind.isRejection
  | .noop _ _, some (.ok ()) => false
  | .noop _ _, _ => true
  | _, _ => false

section MostRecent

/-- The last command on a session. -/
def mostRecent (session : ImapSession) (h : ImapHistory) :
    Option (Exchange ImapOp ImapOp.Answer) :=
  (h.filter fun e => decide (e.1.serving? = some session)).getLast?

theorem mostRecent_append (session : ImapSession) (h h' : ImapHistory) :
    mostRecent session (h ++ h') = (mostRecent session h').or (mostRecent session h) := by
  unfold mostRecent
  rw [List.filter_append, List.getLast?_append]

/-- Nothing has been asked of the session. -/
theorem mostRecent_of_unserved (session : ImapSession) (h : ImapHistory)
    (hno : ∀ e ∈ h, e.1.serving? ≠ some session) : mostRecent session h = none := by
  have hnone : (h.filter fun e => decide (e.1.serving? = some session)) = [] := by
    apply List.filter_eq_nil_iff.mpr
    intro e he
    simpa using hno e he
  unfold mostRecent
  rw [hnone]
  rfl

theorem mostRecent_record_other (session : ImapSession) (h : ImapHistory) (q : ImapOp)
    (x : q.Answer) (hq : q.serving? ≠ some session) :
    mostRecent session (record h q x) = mostRecent session h := by
  unfold record
  rw [mostRecent_append, mostRecent_of_unserved session [⟨q, x⟩] (by simpa using hq),
    Option.none_or]

theorem mostRecent_record_self (session : ImapSession) (h : ImapHistory) (q : ImapOp)
    (x : q.Answer) (hq : q.serving? = some session) :
    mostRecent session (record h q x) = some ⟨q, x⟩ := by
  have hlast : mostRecent session [⟨q, x⟩] = some ⟨q, x⟩ := by
    unfold mostRecent
    rw [List.filter_cons_of_pos (by simpa using hq)]
    rfl
  unfold record
  rw [mostRecent_append, hlast, Option.some_or]

/-- With a command on the session in the second part, the last one is of that part. -/
theorem exists_mostRecent (session : ImapSession) (h h' : ImapHistory)
    (hsome : ∃ e ∈ h', e.1.serving? = some session) :
    ∃ e ∈ h', e.1.serving? = some session ∧ mostRecent session (h ++ h') = some e := by
  obtain ⟨e, he, hserving⟩ := hsome
  have hmem : e ∈ h'.filter fun e => decide (e.1.serving? = some session) :=
    List.mem_filter.mpr ⟨he, decide_eq_true hserving⟩
  obtain ⟨last, hlast⟩ := Option.isSome_iff_exists.mp
    (List.getLast?_isSome.mpr (List.ne_nil_of_mem hmem))
  obtain ⟨hlastMem, hlastServing⟩ := List.mem_filter.mp (List.mem_of_getLast? hlast)
  refine ⟨last, hlastMem, of_decide_eq_true hlastServing, ?_⟩
  rw [mostRecent_append, mostRecent, hlast, Option.some_or]

/-- The last command on the session has not failed under it. -/
def LastSound (session : ImapSession) (h : ImapHistory) : Prop :=
  ∃ e, mostRecent session h = some e ∧ e.1.faulted e.2 = false

end MostRecent

/-- A call opens sessions under its own settings, runs commands on sessions of its own,
takes one at most before all commands, and gives one back at most, with the last command
on it not faulted. -/
def serviceContract (cred : MailboxCredential) (settings : ImapSettings)
    (own : ImapSession → Prop) : Contract ImapOp ImapOp.Answer ImapHistory where
  allowed h q := (∀ session, q.serving? = some session → own session) ∧ match q with
    | .login client _ _ => client.OpenedFor cred settings
    | .take _ _ _ => ∀ e ∈ h, e.1.serving? = none
    | .put _ session _ _ _ => own session ∧ (∀ e ∈ h, e.1.isPut = false) ∧
        LastSound session h
    | _ => True
  expects _ q x := match q with
    | .tlsConnect tcp host insecure => ∀ stream, x = .ok stream → stream = ⟨tcp, host, insecure⟩
    | .login client _ _ => ∀ session, x = .ok session → session.client = client
    | .take _ _ _ => ∀ session, x.1 = some session → own session
    | _ => True

section Serving

variable (cred : MailboxCredential) (settings : ImapSettings) (own : ImapSession → Prop)

/-- A question that is always allowed. -/
def ImapOp.IsFree : ImapOp → Prop
  | .tcpConnect _ => True
  | .tlsConnect _ _ _ => True
  | .readResponse _ => True
  | .logout _ _ => True
  | .now => True
  | _ => False

theorem allowed_of_free (h : ImapHistory) (q : ImapOp) (hq : q.IsFree) :
    (serviceContract cred settings own).allowed h q := by
  refine ⟨fun session hserving => ?_, ?_⟩
  · cases q with
    | tcpConnect target => cases hserving
    | tlsConnect tcp host insecure => cases hserving
    | readResponse client => cases hserving
    | logout session' timeout => cases hserving
    | now => cases hserving
    | _ => exact hq.elim
  · cases q with
    | login client username password => exact hq.elim
    | take key now ttl => exact hq.elim
    | put key session now ttl maxIdle => exact hq.elim
    | _ => trivial

theorem serves_closeAll (sessions : List ImapSession) (h : ImapHistory) :
    Keeps record (serviceContract cred settings own) (closeAll sessions) (fun _ _ => True) h := by
  have hasks : AsksOnly ImapOp.IsFree (closeAll sessions) :=
    closeAll_asks (fun _ _ => trivial) sessions
  apply keeps_mono _ _ (keeps_played _ hasks (allowed_of_free cred settings own) h)
  exact fun _ _ _ => trivial

theorem serves_checkLive (candidate : Option ImapSession) (h : ImapHistory)
    (hown : ∀ session, candidate = some session → own session) :
    Keeps record (serviceContract cred settings own) (checkLive candidate)
      (fun found _ => ∀ session, found = some session → own session) h := by
  unfold checkLive
  cases candidate with
  | none =>
    rw [keeps_pure]
    exact hown
  | some session =>
    have hsession : own session := hown session rfl
    have hdead (h : ImapHistory) : Keeps record (serviceContract cred settings own)
        (close session >>= fun _ => pure none)
        (fun found _ => ∀ session, found = some session → own session) h := by
      unfold close
      rw [keeps_bind, keeps_call]
      refine ⟨allowed_of_free cred settings own h _ trivial, fun _ _ => ?_⟩
      rw [keeps_pure]
      exact fun session hnone => (nomatch hnone)
    rw [keeps_bind, keeps_call]
    refine ⟨⟨fun session' hserving => ?_, trivial⟩, fun x _ => ?_⟩
    · cases hserving
      exact hsession
    · rcases x with _ | e | _
      · exact hdead _
      · exact hdead _
      · dsimp only
        rw [keeps_pure]
        exact hown

theorem serves_takeWarm (sha256 : Sha256) (config : PoolConfig) :
    Keeps record (serviceContract cred settings own) (takeWarm sha256 config cred)
      (fun found _ => ∀ session, found = some session → own session) [] := by
  unfold takeWarm
  split_ifs
  · rw [keeps_pure]
    exact fun session hnone => (nomatch hnone)
  · rw [keeps_bind, keeps_call]
    refine ⟨allowed_of_free cred settings own _ _ trivial, fun now _ => ?_⟩
    rw [keeps_bind, keeps_call]
    refine ⟨⟨fun session hserving => (nomatch hserving), ?_⟩, fun x hown => ?_⟩
    · intro e he
      obtain rfl := List.mem_singleton.mp he
      rfl
    · dsimp only
      rw [keeps_bind]
      apply keeps_mono _ _ (serves_closeAll cred settings own x.2 _)
      intro _ h' _
      exact serves_checkLive cred settings own x.1 h' hown

/-- The stream of a client is one that the settings ask for. -/
theorem serves_openStream (tcp : TcpStream) (h : ImapHistory) :
    Keeps record (serviceContract cred settings own)
      (ExceptT.run (openStream tcp (TlsMode.forPort cred.imap.port) cred.imap.host
        settings.tlsInsecure))
      (fun r _ => ∀ stream, r = .ok stream → ImapClient.OpenedFor cred settings { stream := stream })
      h := by
  unfold openStream ImapClient.OpenedFor
  cases TlsMode.forPort cred.imap.port with
  | plain =>
    dsimp only
    rw [keeps_run_pure]
    exact yields_ok ⟨tcp, rfl⟩
  | implicitTls =>
    dsimp only
    unfold tlsHandshake
    rw [keeps_fallible_bind, keeps_attempt, keeps_call]
    refine ⟨allowed_of_free cred settings own _ _ trivial, fun x hexpects => ?_⟩
    cases x with
    | error e => exact yields_error _ _
    | ok stream =>
      dsimp only [Except.mapError]
      rw [keeps_run_pure]
      exact yields_ok ⟨tcp, congrArg MaybeTlsStream.tls (hexpects stream rfl)⟩

theorem serves_readGreeting (client : ImapClient) (h : ImapHistory) :
    Keeps record (serviceContract cred settings own) (ExceptT.run (readGreeting client))
      (fun _ _ => True) h := by
  have hasks : AsksOnly ImapOp.IsFree (ExceptT.run (readGreeting client)) := by
    apply asksOnly_fallible_bind
    · exact asksOnly_lift (asksOnly_call trivial)
    · intro response
      apply asksOnly_fallible_bind
      · exact asksOnly_except _
      · exact fun greeting => asksOnly_except _
  apply keeps_mono _ _ (keeps_played _ hasks (allowed_of_free cred settings own) h)
  exact fun _ _ _ => trivial

theorem serves_connect (h : ImapHistory) :
    Keeps record (serviceContract cred settings own)
      (ExceptT.run (connect cred.imap (TlsMode.forPort cred.imap.port) settings.tlsInsecure))
      (fun r _ => ∀ client, r = .ok client → client.OpenedFor cred settings) h := by
  unfold connect
  rw [keeps_fallible_bind, keeps_attempt, keeps_call]
  refine ⟨allowed_of_free cred settings own _ _ trivial, fun x _ => ?_⟩
  cases x with
  | error e => exact yields_error _ _
  | ok tcp =>
    dsimp only [Except.mapError]
    rw [keeps_fallible_bind]
    apply keeps_mono _ _ (serves_openStream cred settings own tcp _)
    intro r h' hstream
    cases r with
    | error e => exact yields_error _ _
    | ok stream =>
      dsimp only
      rw [keeps_fallible_bind]
      apply keeps_mono _ _ (serves_readGreeting cred settings own { stream := stream } h')
      intro r _ _
      cases r with
      | error e => exact yields_error _ _
      | ok _ =>
        dsimp only
        rw [keeps_run_pure]
        exact yields_ok (hstream stream rfl)

theorem serves_connectAndLogin (h : ImapHistory)
    (hopened : ∀ session, session.client.OpenedFor cred settings → own session) :
    Keeps record (serviceContract cred settings own) (ExceptT.run (connectAndLogin cred settings))
      (fun r _ => ∀ session, r = .ok session → own session) h := by
  unfold connectAndLogin
  rw [keeps_fallible_bind]
  apply keeps_mono _ _ (serves_connect cred settings own h)
  intro r h' hclient
  cases r with
  | error e => exact yields_error _ _
  | ok client =>
    dsimp only
    unfold login
    rw [keeps_attempt, keeps_call]
    refine ⟨⟨fun session hserving => (nomatch hserving), hclient client rfl⟩, fun x hlogin => ?_⟩
    cases x with
    | error e => exact yields_error _ _
    | ok session =>
      have hsession : session.client.OpenedFor cred settings := by
        rw [hlogin session rfl]
        exact hclient client rfl
      exact yields_ok (hopened session hsession)

theorem serves_acquire (sha256 : Sha256) (config : PoolConfig)
    (hopened : ∀ session, session.client.OpenedFor cred settings → own session) :
    Keeps record (serviceContract cred settings own)
      (ExceptT.run (acquire sha256 config cred settings))
      (fun r _ => ∀ session, r = .ok session → own session) [] := by
  unfold acquire
  rw [keeps_fallible_bind, keeps_lift]
  apply keeps_mono _ _ (serves_takeWarm cred settings own sha256 config)
  intro found h hown
  -- A fresh session was opened under these settings; a warm one may be from another call.
  cases found with
  | none => exact serves_connectAndLogin cred settings own h hopened
  | some session =>
    dsimp only
    rw [keeps_run_pure]
    exact yields_ok (hown session rfl)

end Serving

/-- The result is a transport error. -/
def FailedInTransport {α : Type} (r : Except GatewayError α) : Prop :=
  ∃ e, r = .error e ∧ isTransportError e = true

section Soundness

variable (parse : MailParser) (call : PoolCall) (session : ImapSession)

/-- Every operation begins with a SELECT. -/
theorem operation_selects (h : ImapHistory) (r : PoolResult)
    (hplays : Plays (ExceptT.run (call.operation parse session)) h r) :
    ∃ x, ⟨.select session call.mailbox, x⟩ ∈ h := by
  have hselect (f : Unit → ImapAction (SearchResults ⊕ FullMessage))
      (hplays : Plays (ExceptT.run (select session call.mailbox >>= f)) h r) :
      ∃ x, ⟨.select session call.mailbox, x⟩ ∈ h := by
    unfold select at hplays
    rcases (plays_fallible_bind _ _ _).mp hplays with ⟨e, he, -⟩ | ⟨h₁, _, h₂, hfirst, -, rfl⟩
    · obtain ⟨x, hcall, -⟩ := (plays_attempt _ _ _).mp he
      obtain rfl := (plays_call _ _).mp hcall
      exact ⟨x, List.mem_singleton.mpr rfl⟩
    · obtain ⟨x, hcall, -⟩ := (plays_attempt _ _ _).mp hfirst
      obtain rfl := (plays_call _ _).mp hcall
      exact ⟨x, by simp⟩
  unfold PoolCall.operation at hplays
  cases haction : call.action with
  | search query limit =>
    rw [haction] at hplays
    unfold searchOn at hplays
    dsimp only at hplays
    rw [map_bind] at hplays
    exact hselect _ hplays
  | get uid =>
    rw [haction] at hplays
    unfold getOn at hplays
    dsimp only at hplays
    rw [map_bind] at hplays
    exact hselect _ hplays

/-- Every failure of a command other than a rejection is told as a transport error. -/
theorem transport_of_failure (q : ImapOp) (err : ImapError)
    (hrejection : err.kind.isRejection = false) : isTransportError (commandError q err) = true := by
  obtain ⟨kind, display⟩ := err
  -- `map_select_err` spares `NO` alone, `map_command_err` all three rejections.
  cases q with
  | select session mailbox =>
    cases kind with
    | no m => cases hrejection
    | _ => rfl
  | _ =>
    cases kind with
    | no m => cases hrejection
    | bad m => cases hrejection
    | validate e => cases hrejection
    | _ => rfl

theorem failure_of_faulted (q : ImapOp) (x : q.Answer) (hread : q.IsReadOn session)
    (hfaulted : q.faulted x = true) :
    ∃ err, q.failure? x = some err ∧ err.kind.isRejection = false := by
  cases q with
  | select session' mailbox =>
    cases x with
    | ok _ => cases hfaulted
    | error err => exact ⟨err, rfl, (Bool.not_eq_true' _).mp hfaulted⟩
  | uidSearch session' query =>
    cases x with
    | ok _ => cases hfaulted
    | error err => exact ⟨err, rfl, (Bool.not_eq_true' _).mp hfaulted⟩
  | uidFetch session' set query =>
    cases x with
    | ok _ => cases hfaulted
    | error err => exact ⟨err, rfl, (Bool.not_eq_true' _).mp hfaulted⟩
  | _ => exact hread.elim

/-- After an operation that ends otherwise than in a transport error, the last command on
the session has not failed under it. -/
theorem sound_of_operation (h₀ h : ImapHistory) (r : PoolResult)
    (hplays : Plays (ExceptT.run (call.operation parse session)) h r)
    (hresult : ¬ FailedInTransport r) : LastSound session (h₀ ++ h) := by
  obtain ⟨x, hx⟩ := operation_selects parse call session h r hplays
  obtain ⟨e, he, -, hlast⟩ := exists_mostRecent session h₀ h ⟨_, hx, rfl⟩
  refine ⟨e, hlast, ?_⟩
  by_contra hfaulted
  have hread : e.1.IsReadOn session := asksOnly_plays (operation_asks parse call session) hplays e he
  obtain ⟨err, hfailure, hrejection⟩ := failure_of_faulted session e.1 e.2 hread
    (Bool.not_eq_false _ ▸ hfaulted)
  have hreported : r = .error (commandError e.1 err) :=
    reports_operation parse call session h r hplays e.1 err ⟨e.2, he, hfailure⟩
  exact hresult ⟨_, hreported, transport_of_failure e.1 err hrejection⟩

end Soundness

section Release

variable (sha256 : Sha256) (config : PoolConfig) (cred : MailboxCredential)
  (settings : ImapSettings) (own : ImapSession → Prop)

/-- Under a transport error the session is closed. -/
theorem release_of_lost {α : Type} (session : ImapSession) (r : Except GatewayError α)
    (hlost : FailedInTransport r) : release sha256 config cred session r = logout session := by
  obtain ⟨e, rfl, htransport⟩ := hlost
  unfold release
  dsimp only
  rw [if_pos htransport]

/-- Otherwise it is given back. -/
theorem release_of_kept {α : Type} (session : ImapSession) (r : Except GatewayError α)
    (hkept : ¬ FailedInTransport r) :
    release sha256 config cred session r = giveBack sha256 config cred session := by
  unfold release
  cases r with
  | ok a => rfl
  | error e =>
    have htransport : ¬ isTransportError e = true := fun htransport => hkept ⟨e, rfl, htransport⟩
    dsimp only
    rw [if_neg htransport]

theorem serves_giveBack (session : ImapSession) (h : ImapHistory) (hown : own session)
    (hnoPut : ∀ e ∈ h, e.1.isPut = false) (hsound : LastSound session h) :
    Keeps record (serviceContract cred settings own) (giveBack sha256 config cred session)
      (fun _ _ => True) h := by
  have hfree := allowed_of_free cred settings own
  unfold giveBack
  split_ifs
  · unfold close
    rw [keeps_call]
    exact ⟨hfree _ _ trivial, fun _ _ => trivial⟩
  · rw [keeps_bind, keeps_call]
    refine ⟨hfree _ _ trivial, fun now _ => ?_⟩
    rw [keeps_bind, keeps_call]
    refine ⟨⟨fun session' hserving => (nomatch hserving), hown, ?_, ?_⟩, fun evicted _ => ?_⟩
    · intro e he
      rcases mem_record _ _ he with he | rfl
      · exact hnoPut e he
      · rfl
    · unfold LastSound
      rw [mostRecent_record_other session h .now now (fun hserving => (nomatch hserving))]
      exact hsound
    · exact serves_closeAll cred settings own evicted _

/-- Only a session that has not failed comes back to the pool. -/
theorem serves_release (session : ImapSession) (r : PoolResult) (h : ImapHistory)
    (hown : own session) (hnoPut : ∀ e ∈ h, e.1.isPut = false)
    (hsound : ¬ FailedInTransport r → LastSound session h) :
    Keeps record (serviceContract cred settings own) (release sha256 config cred session r)
      (fun _ _ => True) h := by
  by_cases hlost : FailedInTransport r
  · rw [release_of_lost sha256 config cred session r hlost]
    unfold logout
    rw [keeps_call]
    exact ⟨allowed_of_free cred settings own _ _ trivial, fun _ _ => trivial⟩
  · rw [release_of_kept sha256 config cred session r hlost]
    exact serves_giveBack sha256 config cred settings own session h hown hnoPut (hsound hlost)

theorem isPut_of_read (session : ImapSession) (q : ImapOp) (hread : q.IsReadOn session) :
    q.isPut = false := by
  cases q with
  | put key session' now ttl maxIdle => exact hread.elim
  | _ => rfl

theorem allowed_of_command (session : ImapSession) (h : ImapHistory) (q : ImapOp)
    (hown : own session) (hread : q.IsReadOn session) :
    (serviceContract cred settings own).allowed h q := by
  refine ⟨fun session' hserving => ?_, ?_⟩
  · cases (serving_of_read session q hread).symm.trans hserving
    exact hown
  · cases q with
    | select session' mailbox => trivial
    | uidSearch session' query => trivial
    | uidFetch session' set query => trivial
    | _ => exact hread.elim

theorem serves_onPooledSession (parse : MailParser) (call : PoolCall)
    (hopened : ∀ session, session.client.OpenedFor cred settings → own session) :
    Keeps record (serviceContract cred settings own)
      (ExceptT.run (onPooledSession sha256 config cred settings (call.operation parse)))
      (fun _ _ => True) [] := by
  unfold onPooledSession
  rw [keeps_fallible_bind]
  apply keeps_mono _ _ (keeps_recorded _ (serves_acquire cred settings own sha256 config hopened))
  rintro r h₁ ⟨hown, _, rfl, hacquired⟩
  cases r with
  | error e => trivial
  | ok session =>
    have hsession : own session := hown session rfl
    dsimp only
    rw [keeps_fallible_bind, keeps_lift]
    apply keeps_mono _ _ (keeps_played _ (operation_asks parse call session)
      (fun h q hq => allowed_of_command cred settings own session h q hsession hq) _)
    rintro result _ ⟨h₂, rfl, hrun⟩
    dsimp only
    rw [keeps_fallible_bind, keeps_lift]
    have hnoPut : ∀ e ∈ h₁ ++ h₂, e.1.isPut = false := by
      intro e he
      rcases List.mem_append.mp he with he | he
      · exact (asksOnly_plays (acquire_asks sha256 config cred settings) hacquired e he).2
      · have hread := asksOnly_plays (operation_asks parse call session) hrun e he
        exact isPut_of_read session e.1 hread
    apply keeps_mono _ _ (serves_release sha256 config cred settings own session result _ hsession
      hnoPut (sound_of_operation parse call session _ h₂ result hrun))
    intro _ _ _
    dsimp only
    rw [keeps_except]
    trivial

/-- A pooled call keeps to its terms, and at its end its history is one of its own. -/
theorem serves_body (parse : MailParser) (call : PoolCall)
    (hopened : ∀ session, session.client.OpenedFor call.cred call.settings → own session) :
    Keeps record (serviceContract call.cred call.settings own) (call.body sha256 config parse)
      (fun r h => Plays (call.body sha256 config parse) h r) [] := by
  have hbody : Keeps record (serviceContract call.cred call.settings own)
      (call.body sha256 config parse) (fun _ _ => True) [] := by
    rw [body_eq]
    exact serves_onPooledSession sha256 config call.cred call.settings own parse call hopened
  apply keeps_mono _ _ (keeps_recorded _ hbody)
  rintro r _ ⟨-, h, rfl, hplays⟩
  exact hplays

end Release

end Overfwd
