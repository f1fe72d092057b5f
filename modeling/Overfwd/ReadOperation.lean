import Overfwd.Lib.History
import Overfwd.PoolContract
import Overfwd.Search

namespace Overfwd

open Text Outcome Dialogue

abbrev ImapHistory := List (Exchange ImapOp ImapOp.Answer)

/-- `SELECT`, `SEARCH` and `FETCH`. -/
def ImapOp.isCommand : ImapOp → Bool
  | .select _ _ => true
  | .uidSearch _ _ => true
  | .uidFetch _ _ _ => true
  | _ => false

/-- Giving a session back to the pool. -/
def ImapOp.isPut : ImapOp → Bool
  | .put _ _ _ _ _ => true
  | _ => false

/-- The error a command was answered with. -/
def ImapOp.failure? : (q : ImapOp) → q.Answer → Option ImapError
  | .select _ _, .error err => some err
  | .uidSearch _ _, .error err => some err
  | .uidFetch _ _ _, .error err => some err
  | _, _ => none

/-- The command failed somewhere in the history. -/
def CommandFailed (h : ImapHistory) (q : ImapOp) (err : ImapError) : Prop :=
  ∃ x, ⟨q, x⟩ ∈ h ∧ q.failure? x = some err

/-- What a failed command is reported as. -/
def commandError (q : ImapOp) (err : ImapError) : GatewayError :=
  match q with
  | .select _ mailbox => mapSelectErr mailbox err
  | _ => mapCommandErr err

/-- `search_on` or `get_on` of a call. -/
def PoolCall.operation (parse : MailParser) (call : PoolCall) (session : ImapSession) :
    ImapAction (SearchResults ⊕ FullMessage) :=
  match call.action with
  | .search query limit => Sum.inl <$> searchOn parse session call.mailbox query limit
  | .get uid => Sum.inr <$> getOn parse session call.mailbox uid

/-- The same call without a pool: `search` or `get`. -/
def PoolCall.unpooled (parse : MailParser) (call : PoolCall) : ImapProg PoolResult :=
  ExceptT.run do
    match call.action with
    | .search query limit =>
      let results ← search parse call.cred call.settings call.mailbox query limit
      pure (.inl results)
    | .get uid =>
      let message ← get parse call.cred call.settings call.mailbox uid
      pure (.inr message)

section Operations

variable {α β : Type} (f : α → β)

/-- An operation, what is done after it, and its result. -/
def settle {α : Type} (operation : ImapAction α) (after : Except GatewayError α → ImapProg Unit) :
    ImapAction α := do
  let result ← liftM operation.run
  liftM (after result)
  result

theorem settle_map (operation : ImapAction α) (after : Except GatewayError α → ImapProg Unit)
    (after' : Except GatewayError β → ImapProg Unit) (h : ∀ r, after' (Except.map f r) = after r) :
    settle (f <$> operation) after' = f <$> settle operation after := by
  have hresult (r : Except GatewayError α) :
      ExceptT.run (liftM (Except.map f r) : ImapAction β) =
        Except.map f <$> ExceptT.run (liftM r : ImapAction α) := by
    cases r with
    | error e => rfl
    | ok a => rfl
  apply ExceptT.ext
  rw [ExceptT.run_map]
  unfold settle
  simp [ExceptT.run_bind, h, hresult]

variable (operation : ImapSession → ImapAction α) (cred : MailboxCredential)
  (settings : ImapSettings)

theorem onFreshSession_map : onFreshSession cred settings (fun session => f <$> operation session) =
    f <$> onFreshSession cred settings operation := by
  have hsettle (session : ImapSession) := settle_map f (operation session)
    (fun _ => logout session) (fun _ => logout session) fun _ => rfl
  unfold settle at hsettle
  unfold onFreshSession
  simp only [hsettle, map_bind]

theorem onPooledSession_map (sha256 : Sha256) (config : PoolConfig) :
    onPooledSession sha256 config cred settings (fun session => f <$> operation session) =
      f <$> onPooledSession sha256 config cred settings operation := by
  have hrelease (session : ImapSession) (r : Except GatewayError α) :
      release sha256 config cred session (Except.map f r) =
        release sha256 config cred session r := by
    cases r with
    | error e => rfl
    | ok a => rfl
  have hsettle (session : ImapSession) := settle_map f (operation session)
    (release sha256 config cred session) (release sha256 config cred session) (hrelease session)
  unfold settle at hsettle
  unfold onPooledSession
  simp only [hsettle, map_bind]

end Operations

section Calls

variable (sha256 : Sha256) (config : PoolConfig) (parse : MailParser) (call : PoolCall)

theorem body_eq : call.body sha256 config parse =
    ExceptT.run (onPooledSession sha256 config call.cred call.settings (call.operation parse)) := by
  obtain ⟨cred, settings, mailbox, action⟩ := call
  unfold PoolCall.body PoolCall.operation
  cases action with
  | search query limit =>
    dsimp only
    rw [onPooledSession_map, map_eq_pure_bind]
    rfl
  | get uid =>
    dsimp only
    rw [onPooledSession_map, map_eq_pure_bind]
    rfl

theorem unpooled_eq : call.unpooled parse =
    ExceptT.run (onFreshSession call.cred call.settings (call.operation parse)) := by
  obtain ⟨cred, settings, mailbox, action⟩ := call
  unfold PoolCall.unpooled PoolCall.operation
  cases action with
  | search query limit =>
    dsimp only
    rw [onFreshSession_map, map_eq_pure_bind]
    rfl
  | get uid =>
    dsimp only
    rw [onFreshSession_map, map_eq_pure_bind]
    rfl

end Calls

section Housekeeping

variable (sha256 : Sha256) (config : PoolConfig) (cred : MailboxCredential)

/-- Neither a command of a read nor a return to the pool. -/
def ImapOp.IsPreparation (q : ImapOp) : Prop := q.isCommand = false ∧ q.isPut = false

theorem closeAll_asks {P : ImapOp → Prop} (hlogout : ∀ session timeout, P (.logout session timeout))
    (sessions : List ImapSession) : AsksOnly P (closeAll sessions) := by
  induction sessions with
  | nil => exact asksOnly_pure ()
  | cons session sessions ih => exact asksOnly_bind (asksOnly_call (hlogout _ _)) fun _ => ih

theorem checkLive_asks (candidate : Option ImapSession) :
    AsksOnly ImapOp.IsPreparation (checkLive candidate) := by
  cases candidate with
  | none => exact asksOnly_pure none
  | some session =>
    have hdead : AsksOnly ImapOp.IsPreparation (do close session; pure (none : Option ImapSession)) :=
      asksOnly_bind (asksOnly_call ⟨rfl, rfl⟩) fun _ => asksOnly_pure none
    apply asksOnly_bind (asksOnly_call ⟨rfl, rfl⟩)
    intro x
    rcases x with _ | e | _
    · exact hdead
    · exact hdead
    · exact asksOnly_pure (some session)

theorem takeWarm_asks : AsksOnly ImapOp.IsPreparation (takeWarm sha256 config cred) := by
  unfold takeWarm
  split_ifs
  · exact asksOnly_pure none
  · apply asksOnly_bind (asksOnly_call ⟨rfl, rfl⟩)
    intro now
    apply asksOnly_bind (asksOnly_call ⟨rfl, rfl⟩)
    intro taken
    apply asksOnly_bind (closeAll_asks (fun _ _ => ⟨rfl, rfl⟩) taken.2)
    exact fun _ => checkLive_asks taken.1

theorem connectAndLogin_prepares (settings : ImapSettings) :
    AsksOnly ImapOp.IsPreparation (ExceptT.run (connectAndLogin cred settings)) := by
  apply asksOnly_mono (connectAndLogin_asks cred settings)
  intro q hq
  cases q with
  | tcpConnect target => exact ⟨rfl, rfl⟩
  | tlsConnect tcp host insecure => exact ⟨rfl, rfl⟩
  | readResponse client => exact ⟨rfl, rfl⟩
  | login client username password => exact ⟨rfl, rfl⟩
  | _ => exact hq.elim

theorem acquire_asks (settings : ImapSettings) :
    AsksOnly ImapOp.IsPreparation (ExceptT.run (acquire sha256 config cred settings)) := by
  apply asksOnly_fallible_bind
  · exact asksOnly_lift (takeWarm_asks sha256 config cred)
  · intro found
    cases found with
    | none => exact connectAndLogin_prepares cred settings
    | some session => exact asksOnly_pure _

theorem giveBack_asks (session : ImapSession) :
    AsksOnly (fun q => q.isCommand = false) (giveBack sha256 config cred session) := by
  unfold giveBack
  split_ifs
  · exact asksOnly_call rfl
  · refine asksOnly_bind (asksOnly_call rfl) fun now => ?_
    refine asksOnly_bind (asksOnly_call rfl) fun evicted => ?_
    exact closeAll_asks (fun _ _ => rfl) evicted

theorem release_asks {α : Type} (session : ImapSession) (r : Except GatewayError α) :
    AsksOnly (fun q => q.isCommand = false) (release sha256 config cred session r) := by
  unfold release
  cases r with
  | ok a => exact giveBack_asks sha256 config cred session
  | error e =>
    dsimp only
    split_ifs
    · exact asksOnly_call rfl
    · exact giveBack_asks sha256 config cred session

end Housekeeping

section Histories

variable {α : Type}

theorem plays_settle (operation : ImapAction α) (after : Except GatewayError α → ImapProg Unit)
    (h : ImapHistory) (r : Except GatewayError α)
    (hplays : Plays (settle operation after).run h r) :
    ∃ h₁ h₂, Plays operation.run h₁ r ∧ Plays (after r) h₂ () ∧ h = h₁ ++ h₂ := by
  unfold settle at hplays
  rcases (plays_fallible_bind _ _ _).mp hplays with ⟨e, he, -⟩ | ⟨h₁, result, h', hrun, hrest, rfl⟩
  · obtain ⟨_, -, herr⟩ := (plays_lift _ _).mp he
    cases herr
  · obtain ⟨result', hrun, hresult⟩ := (plays_lift _ _).mp hrun
    cases hresult
    rcases (plays_fallible_bind _ _ _).mp hrest with ⟨e, he, -⟩ | ⟨h₂, _, h₃, hafter, hend, rfl⟩
    · obtain ⟨_, -, herr⟩ := (plays_lift _ _).mp he
      cases herr
    · obtain ⟨_, hafter, -⟩ := (plays_lift _ _).mp hafter
      obtain ⟨rfl, rfl⟩ := (plays_except _ _).mp hend
      rw [List.append_nil]
      exact ⟨h₁, h₂, hrun, hafter, rfl⟩

variable (operation : ImapSession → ImapAction α) (cred : MailboxCredential)
  (settings : ImapSettings)

/-- The session was not obtained, or the operation ran on it and it was settled. -/
theorem plays_onSession (opening : ImapAction ImapSession)
    (after : ImapSession → Except GatewayError α → ImapProg Unit) (h : ImapHistory)
    (r : Except GatewayError α)
    (hplays : Plays (ExceptT.run (opening >>= fun session =>
      settle (operation session) (after session))) h r) :
    (∃ e, Plays opening.run h (.error e) ∧ r = .error e) ∨
      ∃ session h₁ h₂ h₃, Plays opening.run h₁ (.ok session) ∧
        Plays (operation session).run h₂ r ∧ Plays (after session r) h₃ () ∧
        h = h₁ ++ (h₂ ++ h₃) := by
  rcases (plays_fallible_bind _ _ _).mp hplays with herror | ⟨h₁, session, h', hopen, hrest, rfl⟩
  · exact Or.inl herror
  · obtain ⟨h₂, h₃, hrun, hafter, rfl⟩ := plays_settle _ _ h' r hrest
    exact Or.inr ⟨session, h₁, h₂, h₃, hopen, hrun, hafter, rfl⟩

end Histories

section Reports

variable {α β : Type}

/-- Whatever command fails, the action ends with that command's error. -/
def Reports (p : ImapAction α) : Prop :=
  ∀ h r, Plays p.run h r → ∀ q err, CommandFailed h q err → r = .error (commandError q err)

theorem not_failed_of_no_command {h : ImapHistory} (hno : ∀ e ∈ h, e.1.isCommand = false)
    (q : ImapOp) (err : ImapError) : ¬ CommandFailed h q err := by
  rintro ⟨x, hx, hfailure⟩
  have hcommand := hno _ hx
  cases q with
  | select session mailbox => cases hcommand
  | uidSearch session query => cases hcommand
  | uidFetch session set query => cases hcommand
  | _ => cases hfailure

theorem commandFailed_append (h h' : ImapHistory) (q : ImapOp) (err : ImapError) :
    CommandFailed (h ++ h') q err ↔ CommandFailed h q err ∨ CommandFailed h' q err := by
  unfold CommandFailed
  simp only [List.mem_append, or_and_right, exists_or]

theorem reports_pure (a : α) : Reports (pure a : ImapAction α) := by
  intro h r hplays q err hfailed
  obtain ⟨rfl, -⟩ := (plays_run_pure _ _).mp hplays
  exact absurd hfailed (not_failed_of_no_command (by simp) q err)

theorem reports_except (x : Except GatewayError α) : Reports (liftM x : ImapAction α) := by
  intro h r hplays q err hfailed
  obtain ⟨rfl, -⟩ := (plays_except _ _).mp hplays
  exact absurd hfailed (not_failed_of_no_command (by simp) q err)

/-- A command that has failed ends the action, so none is asked after it. -/
theorem reports_bind {p : ImapAction α} {f : α → ImapAction β} (hp : Reports p)
    (hf : ∀ a, Reports (f a)) : Reports (p >>= f) := by
  intro h r hplays q err hfailed
  rcases (plays_fallible_bind _ _ _).mp hplays with ⟨e, he, rfl⟩ | ⟨h₁, a, h₂, ha, hrest, rfl⟩
  · have hfirst := hp h _ he q err hfailed
    cases hfirst
    rfl
  · rcases (commandFailed_append h₁ h₂ q err).mp hfailed with hfirst | hsecond
    · have hok := hp h₁ _ ha q err hfirst
      cases hok
    · exact hf a h₂ r hrest q err hsecond

theorem reports_map {p : ImapAction α} (f : α → β) (hp : Reports p) : Reports (f <$> p) := by
  rw [map_eq_pure_bind]
  exact reports_bind hp fun a => reports_pure (f a)

/-- The only command of a history of one exchange. -/
theorem failed_of_call {q q' : ImapOp} {x : q.Answer} {err : ImapError}
    (h : CommandFailed [⟨q, x⟩] q' err) : q' = q ∧ q.failure? x = some err := by
  obtain ⟨y, hmem, hfailure⟩ := h
  cases List.mem_singleton.mp hmem
  exact ⟨rfl, hfailure⟩

theorem reports_select (session : ImapSession) (mailbox : String) :
    Reports (select session mailbox) := by
  intro h r hplays q err hfailed
  obtain ⟨x, hcall, rfl⟩ := (plays_attempt _ _ _).mp hplays
  obtain rfl := (plays_call _ _).mp hcall
  obtain ⟨rfl, hfailure⟩ := failed_of_call hfailed
  cases x with
  | error e =>
    cases hfailure
    rfl
  | ok _ => cases hfailure

theorem reports_uidSearch (session : ImapSession) (query : String) :
    Reports (uidSearch session query) := by
  unfold uidSearch
  refine reports_bind ?_ fun uids => reports_pure uids.iter
  intro h r hplays q err hfailed
  obtain ⟨x, hcall, rfl⟩ := (plays_attempt _ _ _).mp hplays
  obtain rfl := (plays_call _ _).mp hcall
  obtain ⟨rfl, hfailure⟩ := failed_of_call hfailed
  cases x with
  | error e =>
    cases hfailure
    rfl
  | ok _ => cases hfailure

theorem reports_uidFetchRaw (session : ImapSession) (uids : List Uid) :
    Reports (uidFetchRaw session uids) := by
  unfold uidFetchRaw
  split_ifs
  · exact reports_pure []
  · refine reports_bind ?_ fun fetches => reports_pure _
    intro h r hplays q err hfailed
    obtain ⟨x, hcall, rfl⟩ := (plays_attempt _ _ _).mp hplays
    obtain rfl := (plays_call _ _).mp hcall
    obtain ⟨rfl, hfailure⟩ := failed_of_call hfailed
    cases x with
    | error e =>
      cases hfailure
      rfl
    | ok _ => cases hfailure

theorem reports_operation (parse : MailParser) (call : PoolCall) (session : ImapSession) :
    Reports (call.operation parse session) := by
  unfold PoolCall.operation
  cases call.action with
  | search query limit =>
    apply reports_map
    unfold searchOn
    refine reports_bind (reports_select session call.mailbox) fun _ => ?_
    refine reports_bind (reports_uidSearch session query) fun uids => ?_
    dsimp only
    unfold fetchSelected
    split_ifs
    · exact reports_pure _
    · exact reports_bind (reports_uidFetchRaw session _) fun raws => reports_pure _
  | get uid =>
    apply reports_map
    unfold getOn
    refine reports_bind (reports_select session call.mailbox) fun _ => ?_
    refine reports_bind (reports_uidFetchRaw session [uid]) fun raws => ?_
    exact reports_bind (reports_except _) fun msg => reports_pure _

theorem operation_asks (parse : MailParser) (call : PoolCall) (session : ImapSession) :
    AsksOnly (ImapOp.IsReadOn session) (ExceptT.run (call.operation parse session)) := by
  unfold PoolCall.operation
  cases call.action with
  | search query limit =>
    dsimp only
    rw [map_eq_pure_bind]
    exact asksOnly_fallible_bind (searchOn_asks session _ parse query limit) fun _ => asksOnly_pure _
  | get uid =>
    dsimp only
    rw [map_eq_pure_bind]
    exact asksOnly_fallible_bind (getOn_asks session _ parse uid) fun _ => asksOnly_pure _

theorem serving_of_read (session : ImapSession) (q : ImapOp) (hread : q.IsReadOn session) :
    q.serving? = some session := by
  cases q with
  | select session' mailbox => exact congrArg some hread
  | uidSearch session' query => exact congrArg some hread
  | uidFetch session' set query => exact congrArg some hread
  | _ => exact hread.elim

/-- Only the operation runs commands, so a failure in the history is the operation's. -/
theorem failed_in_operation (parse : MailParser) (call : PoolCall) (opening : ImapAction ImapSession)
    (hopening : AsksOnly (fun q => q.isCommand = false) opening.run)
    (after : ImapSession → PoolResult → ImapProg Unit)
    (hafter : ∀ session r, AsksOnly (fun q => q.isCommand = false) (after session r))
    (h : ImapHistory) (r : PoolResult)
    (hplays : Plays (ExceptT.run (opening >>= fun session =>
      settle (call.operation parse session) (after session))) h r)
    (q : ImapOp) (err : ImapError) (hfailed : CommandFailed h q err) :
    r = .error (commandError q err) ∧ ∃ session h₀ h₁, q.serving? = some session ∧
      h = h₀ ++ h₁ ∧ Plays (after session r) h₁ () := by
  rcases plays_onSession _ opening after h r hplays with ⟨e, he, -⟩ |
    ⟨session, h₁, h₂, h₃, hopen, hrun, hsettled, rfl⟩
  · exact absurd hfailed (not_failed_of_no_command (asksOnly_plays hopening he) q err)
  · have hrunFailed : CommandFailed h₂ q err := by
      rcases (commandFailed_append _ _ q err).mp hfailed with hfirst | hrest
      · exact absurd hfirst (not_failed_of_no_command (asksOnly_plays hopening hopen) q err)
      · rcases (commandFailed_append _ _ q err).mp hrest with hsecond | hthird
        · exact hsecond
        · exact absurd hthird
            (not_failed_of_no_command (asksOnly_plays (hafter session r) hsettled) q err)
    refine ⟨reports_operation parse call session h₂ r hrun q err hrunFailed, session, h₁ ++ h₂, h₃,
      ?_, (List.append_assoc h₁ h₂ h₃).symm, hsettled⟩
    obtain ⟨x, hmem, -⟩ := hrunFailed
    exact serving_of_read session q (asksOnly_plays (operation_asks parse call session) hrun _ hmem)

end Reports

end Overfwd
